import Collate.Proofs.Comparison.Answering
import Collate.Proofs.Lookup.Spared
import Collate.Proofs.Sorter.Session

/-!
# Sorts do not depend on what was done before

Two sorters are *alike* if they are set up in the same way, have room for the same number of
warnings, and what they have reported so far makes no difference to their outlets
(`Sorter.Alike`).  They find the same order, or fail with the same comparison, and the warnings
are the same (`Sorter.Alike.outcome_eq`).

What was done with a sorter shows in its rules and options, its hub, and what it has reported.
The hub has no say in a sort, and each sort forgets the warnings of the one before.  So sorters
that were made for the same items come to the same result whenever their rules and options are
the same, whatever was done with them before (`Session.sort_of_histories`).

## Strategy

What the comparisons of a sort lead to is told apart from what the announcement does
(`Sorter.outcome`, `Sorter.sortsTo_outcome`); only the announcement meets the hub.
-/

namespace Collate

open Sorter

variable {α : Type}

namespace Sorter

/-! ## Sorters that are alike -/

/-- The sorters are set up in the same way, and nothing that they have reported so far makes a
difference to their warnings. -/
structure Alike (first second : Sorter α) : Prop where
  reader : first.reader = second.reader
  rules : first.rules = second.rules
  options : first.options = second.options
  capacity : first.bulletin.capacity = second.bulletin.capacity
  bulletin : Bulletin.Alike first.bulletin second.bulletin

variable {first second : Sorter α}

theorem Alike.comparator_eq (h : Alike first second) : first.comparator = second.comparator := by
  unfold Sorter.comparator
  rw [h.rules, h.options]

theorem Alike.cleared (h : Alike first second) :
    Bulletin.Alike first.bulletin.cleared second.bulletin.cleared :=
  h.bulletin.congr ⟨rfl, rfl⟩ ⟨rfl, rfl⟩

/-- Sorters that are alike find the same, with the same warnings, and are alike afterwards. -/
theorem Alike.finding (h : Alike first second) (view : α → Value) (items : List α) :
    ∃ found bulletin other, first.finding view items = (found, bulletin) ∧
      second.finding view items = (found, other) ∧ bulletin.recent = other.recent ∧
      bulletin.capacity = other.capacity ∧ Bulletin.Alike bulletin other := by
  have huniform := Comparator.uniform_sort first.reader.uniform_lookup view items first.comparator
  have hsecond : second.finding view items =
      first.comparator.sort first.reader.lookup view items second.bulletin.cleared := by
    rw [h.comparator_eq, h.reader]
    rfl
  refine ⟨(first.finding view items).1, (first.finding view items).2,
    (second.finding view items).2, rfl, ?_, ?_, ?_, ?_⟩
  all_goals rw [hsecond]
  · exact Prod.ext (huniform.outcome_eq h.cleared).symm rfl
  · exact huniform.recent_eq h.cleared h.capacity
  · calc (first.finding view items).2.capacity
        = first.bulletin.cleared.capacity := huniform.capacity_eq _
      _ = second.bulletin.cleared.capacity := h.capacity
      _ = _ := (huniform.capacity_eq _).symm
  · exact huniform.alike h.cleared

/-! ## What a sort comes to -/

/-- The result that the comparisons of a sort lead to, or the failure of one of them. -/
def outcome [DecidableEq α] (sorter : Sorter α) (view : α → Value) (items : List α) :
    Except Failure (Sorted α) :=
  (sorter.finding view items).1.map fun order =>
    resultOf items order (sorter.finding view items).2

variable [DecidableEq α] {sorter : Sorter α} {view : α → Value} {items : List α}

/-- The sort comes to this: it fails so and the hub is as it was, or it publishes this result,
once, and returns it.  Only a handler's interruption stands between publishing and returning. -/
def SortsTo (sorter : Sorter α) (view : α → Value) (items : List α) :
    Except Failure (Sorted α) → Prop
  | .error failure => ∃ later, Sorter.sort view items sorter = (.error (.failure failure), later) ∧
      later.hub = sorter.hub
  | .ok result => ∃ published later,
      Hub.publish ⟨"sort_completed", .sorted result⟩ sorter.hub = (published, later.hub) ∧
      Sorter.sort view items sorter =
        ((published.map fun _ => result).mapError .failure, later) ∧
      ∀ failure, published = .error failure → failure.isInterruption = true

theorem sortsTo_outcome (sorter : Sorter α) (view : α → Value) (items : List α) :
    sorter.SortsTo view items (sorter.outcome view items) := by
  unfold outcome
  cases hfinding : sorter.finding view items with
  | mk found bulletin =>
    cases found with
    | error failure => exact ⟨_, sort_of_finding_eq_error hfinding, rfl⟩
    | ok order =>
        refine ⟨_, _, rfl, sort_of_finding_eq_ok hfinding, fun failure hfailure => ?_⟩
        exact Hub.isInterruption_of_publish hfailure

theorem Alike.outcome_eq (h : Alike first second) (view : α → Value) (items : List α) :
    first.outcome view items = second.outcome view items := by
  obtain ⟨found, bulletin, other, hfirst, hsecond, hrecent, -⟩ := h.finding view items
  unfold outcome
  rw [hfirst, hsecond]
  simp only [resultOf, hrecent]

/-- A sort comes to a result if its comparator answers for all its items. -/
theorem exists_outcome_of_answers
    (h : ∀ x ∈ items, ∀ y ∈ items, sorter.comparator.Answers sorter.reader.lookup
      sorter.bulletin.outlet (view x) (view y)) :
    ∃ result, sorter.outcome view items = .ok result ∧ result.order.Perm items ∧
      result.moved = differences items result.order := by
  obtain ⟨order, bulletin, hrun, hperm⟩ := Comparator.exists_sort
    sorter.reader.uniform_lookup h (show sorter.bulletin.cleared.outlet = _ from rfl)
  have hfinding : sorter.finding view items = (.ok order, bulletin) := hrun
  refine ⟨resultOf items order bulletin, ?_, hperm, rfl⟩
  unfold outcome
  rw [hfinding]
  rfl

end Sorter

/-! ## Histories -/

namespace Session

variable [DecidableEq α]

/-- The session is what has come of a new sorter by some steps: one that reads items and hands on
warnings in this way, with any rules and options and on any hub. -/
def ComesOf (session : Session α) (reader : ItemReader) (capacity : Int) (outlet : Outlet) :
    Prop :=
  ∃ (payload : Option Payload) (text : Option String) (options : CompareOptions)
    (made : Sorter α) (hub : Hub (Announcement α)) (steps : List (Step α)),
    establish reader payload text options capacity outlet = .ok made ∧
      session = Session.after ⟨{ made with hub }, []⟩ steps

theorem ComesOf.source {session : Session α} {reader : ItemReader} {capacity : Int}
    {outlet : Outlet} (h : session.ComesOf reader capacity outlet) :
    session.sorter.reader = reader ∧ session.sorter.bulletin.outlet = outlet ∧
      session.sorter.bulletin.capacity = capacity.toNat := by
  obtain ⟨payload, text, options, made, hub, steps, hmade, rfl⟩ := h
  obtain ⟨rules, -, hcreate⟩ := exists_of_establish hmade
  obtain ⟨journal, hjournal⟩ := exists_recordRepairs_eq (.opened capacity.toNat outlet)
    (Assignment.given payload text).repairs
  rw [hjournal] at hcreate
  subst hcreate
  exact source_after _ steps

/-- **Nothing that was done with a sorter shows in a sort.**  Take any two sorters that were made
for the same items and the same outlet with the same room for warnings, where the outlet goes by
each warning alone; and whatever was done with them, let them have the same rules and options in
the end.  A sort of the same items comes to the same with both: the same order, count of moved
items and warnings, published once to the subscribers, or the same failure.  There is a result if
the comparator answers for all items. -/
theorem sort_of_histories {reader : ItemReader} {capacity : Int} {outlet : Outlet}
    {first second : Session α} (hfirst : first.ComesOf reader capacity outlet)
    (hsecond : second.ComesOf reader capacity outlet) (houtlet : outlet.Forgetful)
    (hrules : first.sorter.rules = second.sorter.rules)
    (hoptions : first.sorter.options = second.sorter.options)
    (view : α → Value) (items : List α) :
    ∃ outcome, first.sorter.SortsTo view items outcome ∧
      second.sorter.SortsTo view items outcome ∧
      ((∀ x ∈ items, ∀ y ∈ items, (Comparator.build first.sorter.rules
          first.sorter.options).Answers reader.lookup outlet (view x) (view y)) →
        ∃ result, outcome = .ok result ∧ result.order.Perm items ∧
          result.moved = differences items result.order) := by
  obtain ⟨hreader, hheard, hcapacity⟩ := hfirst.source
  obtain ⟨hreader', hheard', hcapacity'⟩ := hsecond.source
  -- hub, buffer and journal may differ, and so may what the outlet has heard
  have halike : Sorter.Alike first.sorter second.sorter :=
    { reader := hreader.trans hreader'.symm
      rules := hrules
      options := hoptions
      capacity := hcapacity.trans hcapacity'.symm
      bulletin := Bulletin.alike_of_forgetful (hheard.trans hheard'.symm) (hheard ▸ houtlet) }
  refine ⟨first.sorter.outcome view items, sortsTo_outcome _ _ _, ?_, fun hanswers => ?_⟩
  · rw [halike.outcome_eq]
    exact sortsTo_outcome _ _ _
  · rw [← hreader, ← hheard] at hanswers
    exact exists_outcome_of_answers hanswers

/-- One sorter is new; with the other one a sort failed, a handler failed, a comparator was built
that fails, and there were other rules. -/
theorem sort_of_histories_failures :
    let rule : Rule := ⟨.path ["x"], none, true, by decide, by simp⟩
    let broken : CustomComparison := fun _ _ => .error (.raised .value "broken")
    let view : Nat → Value := fun k => .mapping k [("x", .int k)]
    let used : List (Step Nat) :=
      [.act (.subscribe "h" "sort_completed" false ⟨0, [], some (.raised .state "lost")⟩),
        .configure fun options => { options with custom := broken }, .build,
        .sort view [0, 1, 2], .compare 0 (view 1) (view 2),
        .configure fun options => { options with custom := none }, .sort view [2, 0],
        .assign (.rules [rule])]
    ∃ fresh worn : Session Nat, ∃ result,
      (∃ made, establish .plain none none {} 5 .journal = .ok made ∧
        fresh = Session.after ⟨made, []⟩ [.assign (.rules [rule])]) ∧
      (∃ made, establish .plain (some (.list [])) none {} 5 .journal = .ok made ∧
        worn = Session.after ⟨made, []⟩ used) ∧
      fresh.sorter.SortsTo view [0, 1, 2] (.ok result) ∧
      worn.sorter.SortsTo view [0, 1, 2] (.ok result) ∧ result.order.Perm [0, 1, 2] := by
  intro rule broken view used
  obtain ⟨made, hmade⟩ : ∃ made : Sorter Nat,
      establish .plain none none {} 5 .journal = .ok made := ⟨_, rfl⟩
  obtain ⟨other, hother⟩ : ∃ made : Sorter Nat,
      establish .plain (some (.list [])) none {} 5 .journal = .ok made := ⟨_, rfl⟩
  -- what the histories leave of rules and options
  have hoptions : made.options = {} ∧ other.options = {} := by
    obtain ⟨_, -, rfl⟩ := exists_of_establish hmade
    obtain ⟨_, -, rfl⟩ := exists_of_establish hother
    exact ⟨rfl, rfl⟩
  let fresh := Session.after ⟨made, []⟩ [.assign (.rules [rule])]
  let worn := Session.after ⟨other, []⟩ used
  have hfresh : fresh.sorter.rules = [rule] ∧ fresh.sorter.options = {} := by
    simp only [fresh, rules_after, options_after]
    exact ⟨rfl, hoptions.1⟩
  have hworn : worn.sorter.rules = [rule] ∧ worn.sorter.options = {} := by
    simp only [worn, rules_after, options_after]
    refine ⟨rfl, ?_⟩
    rw [hoptions.2]
    rfl
  have haccepts : Outlet.journal.Accepts := trivial
  have hcomes : fresh.ComesOf .plain 5 .journal :=
    ⟨none, none, {}, made, made.hub, _, hmade, rfl⟩
  have hcomes' : worn.ComesOf .plain 5 .journal :=
    ⟨some (.list []), none, {}, other, other.hub, _, hother, rfl⟩
  obtain ⟨outcome, hsorts, hsorts', hanswers⟩ := sort_of_histories hcomes hcomes'
    haccepts.forgetful (hfresh.1.trans hworn.1.symm) (hfresh.2.trans hworn.2.symm)
    view [0, 1, 2]
  rw [hfresh.1, hfresh.2] at hanswers
  have hlookup : ∀ x, ∀ rule' ∈ [rule],
      (ItemReader.plain.lookup (view x) rule').Returns .journal
        (ItemReader.plain.valueOf (view x) rule') :=
    fun x rule' _ => ItemReader.returns_lookup_plain haccepts rfl rule'
  have hvalue : ∀ x, ItemReader.plain.valueOf (view x) rule = .int x := fun _ => rfl
  obtain ⟨result, rfl, hperm, -⟩ := hanswers fun x _ y _ => by
    refine Comparator.answers_byRules (hlookup x) (hlookup y) fun rule' hrule _ _ => ?_
    obtain rfl := List.mem_singleton.mp hrule
    rw [hvalue, hvalue]
    exact Value.answerable_of_isOrdered rfl rfl rfl
  exact ⟨fresh, worn, result, ⟨made, hmade, rfl⟩, ⟨other, hother, rfl⟩, hsorts, hsorts', hperm⟩

end Session

end Collate
