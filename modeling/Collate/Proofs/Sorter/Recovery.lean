import Collate.Proofs.Sorter.History

/-!
# A sort that fails leaves no trace

When a comparison fails, what has been reported up to then stays reported: the buffer of warnings
is not the one from before the sort, and outlet and journal have got more.  Nothing else has
changed (`Sorter.sort_of_finding_eq_error`), and nobody can tell afterwards, as long as the
outlet does not go by what it has heard: from then on every step has the reply that it would
have had otherwise (`Session.sort_failed_unnoticed`).

## Strategy

Sorters are *twins* if they are alike and have the same hub.  Every operation comes to the same
outcome on twins and leaves twins (`KeepsTwins`); so does every step, and then every run.
-/

namespace Collate

open Sorter

variable {α β : Type}

namespace Sorter

/-! ## Operations on twins -/

/-- The sorters are alike and have the same hub. -/
structure Twins (first second : Sorter α) : Prop extends Alike first second where
  hub : first.hub = second.hub

/-- On twins, the operation comes to the same outcome, and leaves twins. -/
def KeepsTwins (action : OnSorter α β) : Prop :=
  ∀ first second, Twins first second →
    (action first).1 = (action second).1 ∧ Twins (action first).2 (action second).2

variable {first second : Sorter α}

theorem keepsTwins_onHub (action : Hub.OnHub (Announcement α) β) :
    KeepsTwins (onHub action) := by
  intro first second htwins
  rw [onHub_apply, onHub_apply, htwins.hub]
  exact ⟨rfl, { htwins with hub := rfl }⟩

theorem Twins.withRules (h : Twins first second) (rules : List Rule) :
    Twins (first.withRules rules) (second.withRules rules) := { h with rules := rfl }

theorem Twins.withRepairs (h : Twins first second) (repaired : List Repaired) :
    Twins (first.withRepairs repaired) (second.withRepairs repaired) := by
  obtain ⟨journal, hjournal⟩ := exists_recordRepairs_eq first.bulletin repaired
  obtain ⟨journal', hjournal'⟩ := exists_recordRepairs_eq second.bulletin repaired
  unfold Sorter.withRepairs
  rw [hjournal, hjournal']
  exact { h with bulletin := h.bulletin.congr ⟨rfl, rfl⟩ ⟨rfl, rfl⟩ }

theorem keepsTwins_assign (assignment : Assignment) :
    KeepsTwins (assign assignment : OnSorter α Unit) := by
  intro first second htwins
  have hrepaired := htwins.withRepairs assignment.repairs
  cases hdenoted : assignment.denoted with
  | error fault =>
      rw [assign_of_denoted_eq_error hdenoted, assign_of_denoted_eq_error hdenoted]
      exact ⟨rfl, hrepaired⟩
  | ok rules =>
      rw [assign_of_denoted_eq_ok hdenoted, assign_of_denoted_eq_ok hdenoted, setRules_apply,
        setRules_apply]
      exact keepsTwins_onHub _ _ _ (hrepaired.withRules rules)

/-- A uniform computation goes the same way on both bulletins. -/
theorem Twins.reporting {action : Reporting β} (huniform : Reporting.Uniform action)
    (h : Twins first second) :
    (reporting action first).1 = (reporting action second).1 ∧
      Twins (reporting action first).2 (reporting action second).2 := by
  rw [reporting_apply, reporting_apply]
  refine ⟨?_, { h with capacity := ?_, bulletin := ?_ }⟩
  · show Except.mapError SorterFault.failure _ = Except.mapError SorterFault.failure _
    rw [huniform.outcome_eq h.bulletin]
  · calc (action first.bulletin).2.capacity
        = first.bulletin.capacity := huniform.capacity_eq _
      _ = second.bulletin.capacity := h.capacity
      _ = (action second.bulletin).2.capacity := (huniform.capacity_eq _).symm
  · exact huniform.alike h.bulletin

theorem keepsTwins_lookup (item : Value) (rule : Rule) :
    KeepsTwins (lookup item rule : OnSorter α Value) := by
  intro first second htwins
  rw [lookup_apply, lookup_apply, ← htwins.reader]
  exact htwins.reporting (first.reader.uniform_lookup item rule)

theorem keepsTwins_compare (comparator : Comparator) (a b : Value) :
    KeepsTwins (compare comparator a b : OnSorter α (Value × Comparator)) := by
  intro first second htwins
  rw [compare_apply, compare_apply, ← htwins.reader]
  exact htwins.reporting (Comparator.uniform_compare first.reader.uniform_lookup a b comparator)

theorem keepsTwins_sort [DecidableEq α] (view : α → Value) (items : List α) :
    KeepsTwins (Sorter.sort view items) := by
  intro first second htwins
  obtain ⟨found, bulletin, other, hfirst, hsecond, hrecent, hcapacity, halike⟩ :=
    htwins.finding view items
  cases found with
  | error failure =>
      rw [sort_of_finding_eq_error hfirst, sort_of_finding_eq_error hsecond]
      exact ⟨rfl, { htwins with capacity := hcapacity, bulletin := halike }⟩
  | ok order =>
      -- the announcement is the same, and meets the same hub
      have hresult : resultOf items order bulletin = resultOf items order other := by
        unfold resultOf
        rw [hrecent]
      rw [sort_of_finding_eq_ok hfirst, sort_of_finding_eq_ok hsecond, hresult, htwins.hub]
      exact ⟨rfl, { htwins with
        capacity := hcapacity
        bulletin := halike.congr ⟨rfl, rfl⟩ ⟨rfl, rfl⟩
        hub := rfl }⟩

end Sorter

/-! ## Steps on twins -/

namespace Session

/-- The sorters are twins, and the same comparators were built. -/
structure Twins (first second : Session α) : Prop where
  sorter : Sorter.Twins first.sorter second.sorter
  built : first.built = second.built

variable {first second : Session α}

theorem Twins.carryOut {action : OnSorter α β} (haction : KeepsTwins action)
    (h : Twins first second) (reply : β → Reply α) :
    (first.carryOut action reply).1 = (second.carryOut action reply).1 ∧
      Twins (first.carryOut action reply).2 (second.carryOut action reply).2 := by
  obtain ⟨houtcome, hsorter⟩ := haction _ _ h.sorter
  exact ⟨congrArg (Reply.of reply) houtcome, hsorter, h.built⟩

theorem Twins.ask (h : Twins first second) (position : Nat) (comparator : Comparator)
    (a b : Value) :
    (first.ask position comparator a b).1 = (second.ask position comparator a b).1 ∧
      Twins (first.ask position comparator a b).2 (second.ask position comparator a b).2 := by
  obtain ⟨houtcome, hsorter⟩ := keepsTwins_compare comparator a b _ _ h.sorter
  simp only [Session.ask]
  rw [houtcome, h.built]
  exact ⟨rfl, hsorter, rfl⟩

variable [DecidableEq α]

/-- A step has the same reply on twins, and leaves twins. -/
theorem Twins.perform (h : Twins first second) (step : Step α) :
    (first.perform step).1 = (second.perform step).1 ∧
      Twins (first.perform step).2 (second.perform step).2 := by
  cases step with
  | assign assignment => exact h.carryOut (keepsTwins_assign assignment) _
  | configure change =>
      exact ⟨rfl, { h.sorter with options := congrArg change h.sorter.options }, h.built⟩
  | build =>
      refine ⟨rfl, h.sorter, ?_⟩
      show first.built ++ [first.sorter.comparator] = second.built ++ [second.sorter.comparator]
      rw [h.built, h.sorter.comparator_eq]
  | compare position a b =>
      simp only [Session.perform]
      rw [h.built]
      cases second.built[position]? with
      | none => exact ⟨rfl, h⟩
      | some comparator => exact h.ask position comparator a b
  | lookup item rule => exact h.carryOut (keepsTwins_lookup item rule) _
  | sort view items => exact h.carryOut (keepsTwins_sort view items) _
  | act action => exact h.carryOut (keepsTwins_onHub (Hub.act action)) _

/-- So do any steps. -/
theorem Twins.run (h : Twins first second) (steps : List (Step α)) :
    (first.run steps).1 = (second.run steps).1 ∧
      Twins (first.run steps).2 (second.run steps).2 := by
  induction steps generalizing first second with
  | nil => exact ⟨rfl, h⟩
  | cons step rest ih =>
      obtain ⟨hreply, hnext⟩ := h.perform step
      obtain ⟨hreplies, hlast⟩ := ih hnext
      rw [run_cons, run_cons, hreply, hreplies]
      exact ⟨rfl, hlast⟩

/-! ## A failed sort -/

/-- **A sort that fails with a comparison leaves no trace.**  Whether a custom comparison fails or
an outlet refuses a warning, and after however many comparisons: the hub is as it was, with its
subscriptions, failures and deliveries, and so are rules and options.  And let the outlet be any
that does not go by the warnings of the failed sort, such as one that refuses none: then whatever
is done from there has the same replies as if there had been no such sort, and leaves the same
hub, rules, options and comparators. -/
theorem sort_failed_unnoticed (sorter : Sorter α) (view : α → Value) (items : List α)
    {failure : Failure} (h : (sorter.finding view items).1 = .error failure) :
    ∃ bulletin, Sorter.sort view items sorter =
        (.error (.failure failure), { sorter with bulletin }) ∧
      bulletin.outlet = sorter.bulletin.outlet ∧
      bulletin.capacity = sorter.bulletin.capacity ∧
      ∀ outlet, Bulletin.Alike { sorter.bulletin with outlet } { bulletin with outlet } →
        ∀ built steps,
          let spared : Session α := ⟨{ sorter with bulletin.outlet := outlet }, built⟩
          let failed : Session α := ⟨{ sorter with bulletin := { bulletin with outlet } }, built⟩
          (failed.run steps).1 = (spared.run steps).1 ∧
          (failed.after steps).sorter.hub = (spared.after steps).sorter.hub ∧
          (failed.after steps).sorter.rules = (spared.after steps).sorter.rules ∧
          (failed.after steps).sorter.options = (spared.after steps).sorter.options ∧
          (failed.after steps).built = (spared.after steps).built := by
  have huniform := Comparator.uniform_sort sorter.reader.uniform_lookup view items sorter.comparator
  have houtlet : (sorter.finding view items).2.outlet = _ := huniform.outlet_eq _
  have hcapacity : (sorter.finding view items).2.capacity = _ := huniform.capacity_eq _
  refine ⟨(sorter.finding view items).2, sort_of_finding_eq_error (Prod.ext h rfl), houtlet,
    hcapacity, ?_⟩
  intro outlet halike built steps spared failed
  -- apart from what was reported, both sessions start from the same sorter
  have htwins : Twins spared failed :=
    { sorter := { reader := rfl, rules := rfl, options := rfl, capacity := hcapacity.symm,
                  bulletin := halike, hub := rfl }
      built := rfl }
  obtain ⟨hreplies, hlast⟩ := htwins.run steps
  exact ⟨hreplies.symm, hlast.sorter.hub.symm, hlast.sorter.rules.symm,
    hlast.sorter.options.symm, hlast.built.symm⟩

/-- An outlet takes no more than two warnings, and no item has the attribute: the second comparison
fails, with a third warning and with that about the third one.  Then another outlet is put there. -/
theorem sort_failed_unnoticed_refusal :
    let full : Failure := .raised .value "full"
    let outlet : Outlet := .critic fun heard => if heard.length < 3 then none else some full
    let reader : ItemReader :=
      ⟨fun item _ => .ok item, fun _ _ => .ok .missing, fun _ _ => .ok .missing⟩
    let sorter : Sorter Nat := Sorter.create reader
      [⟨.named "x", none, true, by decide, by simp⟩] {} (.opened 5 outlet)
    let view : Nat → Value := fun k => .int k
    let steps : List (Step Nat) := [.sort view [2, 1, 0], .build, .compare 0 (view 0) (view 1)]
    (sorter.finding view [2, 1, 0]).1 = .error full ∧
    ∃ bulletin, Sorter.sort view [2, 1, 0] sorter =
        (.error (.failure full), { sorter with bulletin }) ∧
      (Session.run ⟨{ sorter with bulletin := { bulletin with outlet := .journal } }, []⟩ steps).1 =
        (Session.run ⟨{ sorter with bulletin.outlet := .journal }, []⟩ steps).1 := by
  intro full outlet reader sorter view steps
  have hfinding : (sorter.finding view [2, 1, 0]).1 = .error full := by
    unfold finding Comparator.sort Ordering.sort
    rw [Ordering.sortOnto]
    rfl
  obtain ⟨bulletin, hsort, -, -, hunnoticed⟩ := sort_failed_unnoticed sorter view [2, 1, 0] hfinding
  have halike : Bulletin.Alike { sorter.bulletin with outlet := .journal }
      { bulletin with outlet := .journal } :=
    Bulletin.alike_of_forgetful rfl Outlet.forgetful_journal
  exact ⟨hfinding, bulletin, hsort, (hunnoticed .journal halike [] steps).1⟩

end Session

end Collate
