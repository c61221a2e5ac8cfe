import Collate.Proofs.Comparison.Uniform
import Collate.Proofs.Sorter.Outcome

/-!
# Working with a sorter

A sorter is used step by step (`Sorter.Step`): rules are assigned and options set, comparators
are built from it and asked, values are looked up and items sorted, and whoever knows its hub
acts on it.  A `Session` is a sorter with the comparators that were built from it so far.

Every step has a reply.  A step that fails has the failure for a reply, and work goes on with
the state that it leaves behind.

## Strategy

A step is one of the operations of `Sorter`, and nothing else.  What an operation comes to is
stated by an equation for its outcome and the state after it (`setRules_apply`,
`assign_of_denoted_eq_ok`, `sort_of_finding_eq_ok` and others), so that nothing later unfolds it.
What a step leaves of the sorter is said once for all steps (`Session.leaves_perform`).
-/

namespace Collate

variable {α β : Type}

namespace Sorter

/-! ## Assignments -/

/-- What the rules of a sorter are replaced by: rules, payloads that denote them, or rule text
that is repaired where needed. -/
inductive Assignment where
  | rules (rules : List Rule)
  | payloads (payload : Payload)
  | text (text : Option String)

namespace Assignment

/-- What a sorter is made with: payloads, or else rule text, or else nothing. -/
def given : Option Payload → Option String → Assignment
  | some payload, _ => .payloads payload
  | none, written => .text written

/-- The rules that are meant, or why there are none. -/
def denoted : Assignment → Except SorterFault (List Rule)
  | .rules meant => .ok meant
  | .payloads payload => (Rule.ofPayloads payload).mapError .list
  | .text written => (Rule.read? .repairing written).1.mapError .rule

/-- The repairs that were needed to read the rules. -/
def repairs : Assignment → List Repaired
  | .rules _ | .payloads _ => []
  | .text written => (Rule.read? .repairing written).2

end Assignment

/-- Replaces the rules. -/
def assign : Assignment → OnSorter α Unit
  | .rules rules => setRules rules
  | .payloads payload => setPayloads payload
  | .text text => setBy text

/-! ## Steps -/

/-- What can be done with a sorter of items of type `α`. -/
inductive Step (α : Type) where
  | assign (assignment : Assignment)
  | configure (change : CompareOptions → CompareOptions)
  /-- Builds a comparator and keeps it, behind those that were built before. -/
  | build
  /-- Asks the comparator that was built at this position. -/
  | compare (position : Nat) (a b : Value)
  | lookup (item : Value) (rule : Rule)
  | sort (view : α → Value) (items : List α)
  /-- Acts on the hub. -/
  | act (action : Hub.Action (Announcement α))

/-- What comes of a step. -/
inductive Reply (α : Type) where
  | done
  | failed (fault : SorterFault)
  | noComparator
  | answered (value : Value)
  | sorted (result : Sorted α)
  | acted (reply : Hub.Reply (Announcement α))

/-- The reply to an operation that comes to this outcome. -/
def Reply.of (reply : β → Reply α) : Except SorterFault β → Reply α
  | .ok result => reply result
  | .error fault => .failed fault

end Sorter

open Sorter

/-- A sorter at work. -/
structure Session (α : Type) where
  sorter : Sorter α
  /-- The comparators that were built, oldest first, as they are after their answers. -/
  built : List Comparator

namespace Session

/-- Carries out an operation of the sorter. -/
def carryOut (session : Session α) (action : OnSorter α β) (reply : β → Reply α) :
    Reply α × Session α :=
  (Reply.of reply (action session.sorter).1,
    { session with sorter := (action session.sorter).2 })

/-- The comparators after the one at a position was asked: if it answered, the next question goes
to the comparator that came with the answer. -/
def builtAfter (built : List Comparator) (position : Nat) :
    Except SorterFault (Value × Comparator) → List Comparator
  | .ok answer => built.set position answer.2
  | .error _ => built

/-- Asks the comparator that stands at a position among those that were built. -/
def ask (session : Session α) (position : Nat) (comparator : Comparator) (a b : Value) :
    Reply α × Session α :=
  let asked := Sorter.compare comparator a b session.sorter
  (Reply.of (fun answer => .answered answer.1) asked.1,
    ⟨asked.2, builtAfter session.built position asked.1⟩)

variable [DecidableEq α]

/-- Carries out a step. -/
def perform (session : Session α) : Step α → Reply α × Session α
  | .assign assignment => session.carryOut (Sorter.assign assignment) fun _ => .done
  | .configure change =>
    (.done, { session with sorter.options := change session.sorter.options })
  | .build => (.done, { session with built := session.built ++ [session.sorter.comparator] })
  | .compare position a b =>
    match session.built[position]? with
    | none => (.noComparator, session)
    | some comparator => session.ask position comparator a b
  | .lookup item rule => session.carryOut (Sorter.lookup item rule) .answered
  | .sort view items => session.carryOut (Sorter.sort view items) .sorted
  | .act action => session.carryOut (Sorter.onHub (Hub.act action)) .acted

/-- Carries out steps one after the other; gives their replies, and what the session is then. -/
def run (session : Session α) : List (Step α) → List (Reply α) × Session α
  | [] => ([], session)
  | step :: rest =>
    let (reply, next) := session.perform step
    let (replies, last) := next.run rest
    (reply :: replies, last)

theorem run_cons (session : Session α) (step : Step α) (rest : List (Step α)) :
    session.run (step :: rest) =
      ((session.perform step).1 :: ((session.perform step).2.run rest).1,
        ((session.perform step).2.run rest).2) := rfl

/-- The session once some steps are carried out. -/
def after (session : Session α) (steps : List (Step α)) : Session α := (session.run steps).2

theorem after_cons (session : Session α) (step : Step α) (rest : List (Step α)) :
    session.after (step :: rest) = (session.perform step).2.after rest := rfl

end Session

namespace Sorter

/-! ## What the operations come to -/

variable {sorter : Sorter α}

theorem reporting_apply (action : Reporting β) (sorter : Sorter α) :
    reporting action sorter = ((action sorter.bulletin).1.mapError .failure,
      { sorter with bulletin := (action sorter.bulletin).2 }) := by
  unfold reporting
  cases action sorter.bulletin with
  | mk outcome bulletin => cases outcome <;> rfl

theorem lookup_apply (item : Value) (rule : Rule) (sorter : Sorter α) :
    lookup item rule sorter = reporting (sorter.reader.lookup item rule) sorter := rfl

theorem compare_apply (comparator : Comparator) (a b : Value) (sorter : Sorter α) :
    compare comparator a b sorter =
      reporting (comparator.compare sorter.reader.lookup a b) sorter := rfl

theorem onHub_apply (action : Hub.OnHub (Announcement α) β) (sorter : Sorter α) :
    onHub action sorter = ((action sorter.hub).1.mapError .failure,
      { sorter with hub := (action sorter.hub).2 }) := by
  unfold onHub
  cases action sorter.hub with
  | mk outcome hub => cases outcome <;> rfl

/-- Announces that the rules are these now. -/
def publishRules (rules : List Rule) : Hub.OnHub (Announcement α) Unit :=
  Hub.publish ⟨"rules_changed", .rulesChanged rules⟩

/-- Announces the result of a sort. -/
def publishSorted (result : Sorted α) : Hub.OnHub (Announcement α) Unit :=
  Hub.publish ⟨"sort_completed", .sorted result⟩

theorem setRules_apply (rules : List Rule) (sorter : Sorter α) :
    setRules rules sorter =
      onHub (publishRules (orDefaults rules).1) (sorter.withRules rules) := rfl

/-- Recording repairs changes nothing but the journal. -/
theorem exists_recordRepairs_eq (bulletin : Bulletin) (repaired : List Repaired) :
    ∃ journal, recordRepairs bulletin repaired = { bulletin with journal } := by
  induction repaired generalizing bulletin with
  | nil => exact ⟨bulletin.journal, rfl⟩
  | cons first rest ih =>
      obtain ⟨journal, hjournal⟩ := ih (bulletin.record .debug repairSource first.report)
      exact ⟨journal, hjournal⟩

/-- The sorter with a record of repairs. -/
def withRepairs (sorter : Sorter α) (repaired : List Repaired) : Sorter α :=
  { sorter with bulletin := recordRepairs sorter.bulletin repaired }

variable {assignment : Assignment}

theorem assign_apply (assignment : Assignment) (sorter : Sorter α) :
    assign assignment sorter =
      (MonadExcept.ofExcept assignment.denoted >>= setRules)
        (sorter.withRepairs assignment.repairs) := by
  cases assignment with
  | rules rules => rfl
  | payloads payload =>
      simp only [assign, setPayloads, Assignment.denoted]
      cases Rule.ofPayloads payload <;> rfl
  | text text =>
      simp only [assign, setBy, Assignment.denoted, withRepairs, Assignment.repairs]
      cases Rule.read? .repairing text with
      | mk outcome repaired => cases outcome <;> rfl

/-- An assignment that denotes no rules fails, and leaves all but the records as it is. -/
theorem assign_of_denoted_eq_error {fault : SorterFault} (h : assignment.denoted = .error fault)
    (sorter : Sorter α) :
    assign assignment sorter = (.error fault, sorter.withRepairs assignment.repairs) := by
  rw [assign_apply, h]
  rfl

/-- An assignment that denotes rules replaces those of the sorter. -/
theorem assign_of_denoted_eq_ok {rules : List Rule} (h : assignment.denoted = .ok rules)
    (sorter : Sorter α) :
    assign assignment sorter = setRules rules (sorter.withRepairs assignment.repairs) := by
  rw [assign_apply, h]
  rfl

theorem orDefaults_of_ne_nil {rules : List Rule} (h : rules ≠ []) :
    (orDefaults rules).1 = rules := by
  unfold orDefaults
  rw [dif_neg h]

/-- What is made is set up as was asked for. -/
theorem exists_of_establish {reader : ItemReader} {payload : Option Payload}
    {text : Option String} {options : CompareOptions} {capacity : Int} {outlet : Outlet}
    {made : Sorter α} (h : establish reader payload text options capacity outlet = .ok made) :
    ∃ rules, (Assignment.given payload text).denoted = .ok rules ∧
      made = create reader rules options (recordRepairs (.opened capacity.toNat outlet)
        (Assignment.given payload text).repairs) := by
  unfold establish at h
  obtain ⟨bulletin, hbulletin, hmade⟩ := exists_of_bind_eq_ok h
  have hopened : bulletin = .opened capacity.toNat outlet := by
    unfold Bulletin.open? at hbulletin
    split at hbulletin <;> cases hbulletin
    rfl
  subst hopened
  cases payload with
  | some payload =>
      obtain ⟨rules, hrules, hcreate⟩ := exists_of_bind_eq_ok hmade
      exact ⟨rules, hrules, (Except.ok.inj hcreate).symm⟩
  | none =>
      obtain ⟨rules, hrules, hcreate⟩ := exists_of_bind_eq_ok hmade
      exact ⟨rules, hrules, (Except.ok.inj hcreate).symm⟩

/-! ## What a sort comes to -/

/-- The order that the comparisons of a sort lead to, or the failure of one of them, with what
has been reported then. -/
def finding (sorter : Sorter α) (view : α → Value) (items : List α) :
    Except Failure (List α) × Bulletin :=
  sorter.comparator.sort sorter.reader.lookup view items sorter.bulletin.cleared

variable [DecidableEq α] {view : α → Value} {items order : List α} {bulletin : Bulletin}

theorem sort_of_finding_eq_error {failure : Failure}
    (h : sorter.finding view items = (.error failure, bulletin)) :
    Sorter.sort view items sorter = (.error (.failure failure), { sorter with bulletin }) := by
  rcases sorter.sort_cases view items with ⟨_, _, hrun, hsort⟩ | ⟨_, _, _, hrun, -⟩
  · cases h.symm.trans hrun
    exact hsort
  · cases h.symm.trans hrun

/-- A sort that has found an order announces it; that can only fail with the announcement. -/
theorem sort_of_finding_eq_ok (h : sorter.finding view items = (.ok order, bulletin)) :
    Sorter.sort view items sorter =
      (((publishSorted (resultOf items order bulletin) sorter.hub).1.map
          fun _ => resultOf items order bulletin).mapError .failure,
        sorter.noted (resultOf items order bulletin) bulletin
          (publishSorted (resultOf items order bulletin) sorter.hub).2) := by
  unfold publishSorted
  rcases sorter.sort_cases view items with ⟨_, _, hrun, -⟩ | ⟨_, _, hub, hrun, hsort⟩
  · cases h.symm.trans hrun
  · cases h.symm.trans hrun
    rcases hsort with ⟨hpublish, hsort⟩ | ⟨failure, hpublish, hsort⟩
    · rw [hpublish, hsort]
      rfl
    · rw [hpublish, hsort]
      rfl

/-! ## What a step leaves of a sorter -/

namespace Step

/-- The rules after a step, if these are the rules before it. -/
def rulesAfter (rules : List Rule) : Step α → List Rule
  | .assign assignment =>
    match assignment.denoted with
    | .ok chosen => (orDefaults chosen).1
    | .error _ => rules
  | _ => rules

/-- The options after a step, if these are the options before it. -/
def optionsAfter (options : CompareOptions) : Step α → CompareOptions
  | .configure change => change options
  | _ => options

/-- What does not change, or changes in a way that the step alone determines: only assignments
change the rules, and nothing changes where items and warnings go. -/
structure Leaves (step : Step α) (sorter later : Sorter α) : Prop where
  reader : later.reader = sorter.reader
  rules : later.rules = step.rulesAfter sorter.rules
  options : later.options = step.optionsAfter sorter.options
  outlet : later.bulletin.outlet = sorter.bulletin.outlet
  capacity : later.bulletin.capacity = sorter.bulletin.capacity

end Step

end Sorter

namespace Session

variable [DecidableEq α]

theorem leaves_perform (session : Session α) (step : Step α) :
    step.Leaves session.sorter (session.perform step).2.sorter := by
  cases step with
  | assign assignment =>
      show Step.Leaves _ _ (Sorter.assign assignment session.sorter).2
      -- repairs are recorded, whether or not the assignment is refused
      obtain ⟨journal, hjournal⟩ :=
        exists_recordRepairs_eq session.sorter.bulletin assignment.repairs
      cases hdenoted : assignment.denoted with
      | error fault =>
          rw [assign_of_denoted_eq_error hdenoted, withRepairs, hjournal]
          exact ⟨rfl, by simp only [Step.rulesAfter, hdenoted], rfl, rfl, rfl⟩
      | ok rules =>
          rw [assign_of_denoted_eq_ok hdenoted, setRules_apply, onHub_apply, withRepairs, hjournal]
          exact ⟨rfl, by simp only [Step.rulesAfter, hdenoted, withRules], rfl, rfl, rfl⟩
  | configure change => exact ⟨rfl, rfl, rfl, rfl, rfl⟩
  | build => exact ⟨rfl, rfl, rfl, rfl, rfl⟩
  | compare position a b =>
      simp only [perform]
      cases session.built[position]? with
      | none => exact ⟨rfl, rfl, rfl, rfl, rfl⟩
      | some comparator =>
          show Step.Leaves _ _ (Sorter.compare comparator a b session.sorter).2
          have huniform := Comparator.uniform_compare session.sorter.reader.uniform_lookup a b
            comparator
          rw [compare_apply, reporting_apply]
          exact ⟨rfl, rfl, rfl, huniform.outlet_eq _, huniform.capacity_eq _⟩
  | lookup item rule =>
      show Step.Leaves _ _ (Sorter.lookup item rule session.sorter).2
      have huniform := session.sorter.reader.uniform_lookup item rule
      rw [lookup_apply, reporting_apply]
      exact ⟨rfl, rfl, rfl, huniform.outlet_eq _, huniform.capacity_eq _⟩
  | sort view items =>
      show Step.Leaves _ _ (Sorter.sort view items session.sorter).2
      have huniform := Comparator.uniform_sort session.sorter.reader.uniform_lookup view items
        session.sorter.comparator
      -- questions post warnings, which changes neither the outlet nor the room for them
      have houtlet : (session.sorter.finding view items).2.outlet = _ := huniform.outlet_eq _
      have hcapacity : (session.sorter.finding view items).2.capacity = _ := huniform.capacity_eq _
      cases hfinding : session.sorter.finding view items with
      | mk outcome bulletin =>
        rw [hfinding] at houtlet hcapacity
        cases outcome with
        | error failure =>
            rw [sort_of_finding_eq_error hfinding]
            exact ⟨rfl, rfl, rfl, houtlet, hcapacity⟩
        | ok order =>
            rw [sort_of_finding_eq_ok hfinding]
            exact ⟨rfl, rfl, rfl, houtlet, hcapacity⟩
  | act action =>
      show Step.Leaves _ _ (Sorter.onHub (Hub.act action) session.sorter).2
      rw [onHub_apply]
      exact ⟨rfl, rfl, rfl, rfl, rfl⟩

/-- The rules are those of the last assignment that denoted any. -/
theorem rules_after (session : Session α) (steps : List (Step α)) :
    (session.after steps).sorter.rules = steps.foldl Step.rulesAfter session.sorter.rules := by
  induction steps generalizing session with
  | nil => rfl
  | cons step rest ih => rw [after_cons, ih, (session.leaves_perform step).rules, List.foldl_cons]

theorem options_after (session : Session α) (steps : List (Step α)) :
    (session.after steps).sorter.options =
      steps.foldl Step.optionsAfter session.sorter.options := by
  induction steps generalizing session with
  | nil => rfl
  | cons step rest ih =>
      rw [after_cons, ih, (session.leaves_perform step).options, List.foldl_cons]

/-- Whatever is done with a sorter, items are read and warnings are handed on as before. -/
theorem source_after (session : Session α) (steps : List (Step α)) :
    (session.after steps).sorter.reader = session.sorter.reader ∧
      (session.after steps).sorter.bulletin.outlet = session.sorter.bulletin.outlet ∧
      (session.after steps).sorter.bulletin.capacity = session.sorter.bulletin.capacity := by
  induction steps generalizing session with
  | nil => exact ⟨rfl, rfl, rfl⟩
  | cons step rest ih =>
      obtain ⟨hreader, houtlet, hcapacity⟩ := ih (session.perform step).2
      have hleaves := session.leaves_perform step
      exact ⟨hreader.trans hleaves.reader, houtlet.trans hleaves.outlet,
        hcapacity.trans hleaves.capacity⟩

end Session

end Collate
