import Collate.Proofs.Comparison.Outcome
import Collate.Proofs.Hub.Interruption
import Collate.Sorter

/-!
# What a sort comes to

A sort asks its questions and announces the order it finds (`Sorter.sort_cases`).  It fails
if a question does, or if a handler is interrupted when the order is announced.  Whatever
comes of it, the sorter stays set up as it was (`Sorter.SameSetup`); and the order, if there
is one, has the items of the list (`Sorter.perm_of_sort`).
-/

namespace Collate.Sorter

variable {α : Type}

/-! ## The setup of a sorter -/

/-- Two sorters read items, compare and report in the same way. -/
structure SameSetup (sorter later : Sorter α) : Prop where
  reader : later.reader = sorter.reader
  rules : later.rules = sorter.rules
  options : later.options = sorter.options
  outlet : later.bulletin.outlet = sorter.bulletin.outlet

theorem SameSetup.refl (sorter : Sorter α) : SameSetup sorter sorter := ⟨rfl, rfl, rfl, rfl⟩

theorem SameSetup.trans {sorter later last : Sorter α} (h : SameSetup sorter later)
    (hlast : SameSetup later last) : SameSetup sorter last where
  reader := hlast.reader.trans h.reader
  rules := hlast.rules.trans h.rules
  options := hlast.options.trans h.options
  outlet := hlast.outlet.trans h.outlet

theorem comparator_eq_byRules {sorter : Sorter α} (hrandom : sorter.options.random = false)
    (hcustom : sorter.options.custom = none) :
    sorter.comparator = .byRules sorter.rules sorter.options.reverse := by
  unfold Sorter.comparator Comparator.build
  rw [hrandom, hcustom]
  rfl

variable [DecidableEq α]

/-! ## Items that have moved -/

theorem differences_self (order : List α) : differences order order = 0 := by
  induction order with
  | nil => rfl
  | cons first rest ih => rw [differences, if_pos rfl, ih]

theorem eq_of_differences_eq_zero {items order : List α} (hlength : order.length = items.length)
    (h : differences items order = 0) : order = items := by
  induction items generalizing order with
  | nil => exact List.eq_nil_of_length_eq_zero hlength
  | cons x xs ih =>
      cases order with
      | nil => cases hlength
      | cons y ys =>
          simp only [differences] at h
          by_cases heq : x = y
          · rw [heq, ih (Nat.succ.inj hlength) (by omega)]
          · rw [if_neg heq] at h
            omega

/-! ## One sort -/

/-- The result of a sort that found an order. -/
def resultOf (items order : List α) (bulletin : Bulletin) : Sorted α :=
  ⟨order, differences items order, bulletin.recent⟩

/-- The state after a sort, up to what announcing its result does to the hub. -/
def noted (sorter : Sorter α) (result : Sorted α) (bulletin : Bulletin)
    (hub : Hub (Announcement α)) : Sorter α :=
  { sorter with
    bulletin := bulletin.record .debug sortSource
      (sortMessage sorter.rulesText result.order.length result.moved result.warnings.length)
    hub }

/-- A sort fails with a question, or finds an order; and then it fails only with the
announcement. -/
theorem sortAsking_cases {σ : Type} (sorter : Sorter α)
    (answer : α → α → StateT σ Reporting Bool) (state : σ) (items : List α) :
    (∃ failure bulletin,
      ((Ordering.sort items).run answer).run' state sorter.bulletin.cleared =
        (.error failure, bulletin) ∧
      sortAsking answer state items sorter =
        (.error (.failure failure), { sorter with bulletin })) ∨
    ∃ order bulletin hub,
      ((Ordering.sort items).run answer).run' state sorter.bulletin.cleared =
        (.ok order, bulletin) ∧
      ((Hub.publish ⟨"sort_completed", .sorted (resultOf items order bulletin)⟩ sorter.hub =
          (.ok (), hub) ∧
        sortAsking answer state items sorter =
          (.ok (resultOf items order bulletin),
            sorter.noted (resultOf items order bulletin) bulletin hub)) ∨
      ∃ failure,
        Hub.publish ⟨"sort_completed", .sorted (resultOf items order bulletin)⟩ sorter.hub =
          (.error failure, hub) ∧
        sortAsking answer state items sorter =
          (.error (.failure failure),
            sorter.noted (resultOf items order bulletin) bulletin hub)) := by
  unfold sortAsking
  simp only [bind_apply, modify_apply, get_apply, pure_apply]
  unfold Sorter.reporting
  cases hsort : ((Ordering.sort items).run answer).run' state sorter.bulletin.cleared with
  | mk outcome bulletin =>
    cases outcome with
    | error failure => exact .inl ⟨failure, bulletin, rfl, rfl⟩
    | ok order =>
        refine .inr ?_
        simp only [Sorter.announce, Sorter.onHub, Announcement.eventName]
        -- the order is found and noted; what is left is to announce it
        cases hpublish : Hub.publish ⟨"sort_completed", .sorted (resultOf items order bulletin)⟩
            sorter.hub with
        | mk announced hub =>
          refine ⟨order, bulletin, hub, rfl, ?_⟩
          unfold resultOf at hpublish
          rw [hpublish]
          cases announced with
          | ok done => exact .inl ⟨hpublish, rfl⟩
          | error failure => exact .inr ⟨failure, hpublish, rfl⟩

/-- A sort asks the comparator of the present configuration. -/
theorem sort_eq_sortAsking (sorter : Sorter α) (view : α → Value) (items : List α) :
    Sorter.sort view items sorter =
      sortAsking (Comparator.answer sorter.reader.lookup view) sorter.comparator items sorter := by
  unfold Sorter.sort
  rw [bind_apply, get_apply]

theorem sort_cases (sorter : Sorter α) (view : α → Value) (items : List α) :
    (∃ failure bulletin,
      sorter.comparator.sort sorter.reader.lookup view items sorter.bulletin.cleared =
        (.error failure, bulletin) ∧
      Sorter.sort view items sorter =
        (.error (.failure failure), { sorter with bulletin })) ∨
    ∃ order bulletin hub,
      sorter.comparator.sort sorter.reader.lookup view items sorter.bulletin.cleared =
        (.ok order, bulletin) ∧
      ((Hub.publish ⟨"sort_completed", .sorted (resultOf items order bulletin)⟩ sorter.hub =
          (.ok (), hub) ∧
        Sorter.sort view items sorter =
          (.ok (resultOf items order bulletin),
            sorter.noted (resultOf items order bulletin) bulletin hub)) ∨
      ∃ failure,
        Hub.publish ⟨"sort_completed", .sorted (resultOf items order bulletin)⟩ sorter.hub =
          (.error failure, hub) ∧
        Sorter.sort view items sorter =
          (.error (.failure failure),
            sorter.noted (resultOf items order bulletin) bulletin hub)) := by
  rw [sort_eq_sortAsking]
  exact sorter.sortAsking_cases (Comparator.answer sorter.reader.lookup view) sorter.comparator
    items

/-- A sort whose questions fail comes to that failure. -/
theorem sort_of_fails (sorter : Sorter α) (view : α → Value) {items : List α} {failure : Failure}
    (h : (sorter.comparator.sort sorter.reader.lookup view items).Concludes
      sorter.bulletin.outlet (.error failure)) :
    (Sorter.sort view items sorter).1 = .error (.failure failure) := by
  obtain ⟨later, hlater, -⟩ := h sorter.bulletin.cleared rfl
  rcases sorter.sort_cases view items with ⟨error, _, hrun, hsort⟩ | ⟨_, _, _, hrun, -⟩
  · rw [hlater] at hrun
    cases hrun
    rw [hsort]
  · rw [hlater] at hrun
    cases hrun

/-- What a sort comes to once the order is found: the result, unless a handler is interrupted
when it is announced. -/
theorem exists_sort_of_returns (sorter : Sorter α) (view : α → Value) {items order : List α}
    (h : (sorter.comparator.sort sorter.reader.lookup view items).Returns
      sorter.bulletin.outlet order) :
    ∃ result later, result.order = order ∧ result.moved = differences items order ∧
      SameSetup sorter later ∧
      (Sorter.sort view items sorter = (.ok result, later) ∨
        ∃ failure, failure.isInterruption = true ∧
          (Hub.publish ⟨"sort_completed", .sorted result⟩ sorter.hub).1 = .error failure ∧
          Sorter.sort view items sorter = (.error (.failure failure), later)) := by
  obtain ⟨later, hlater, houtlet⟩ := h sorter.bulletin.cleared rfl
  rcases sorter.sort_cases view items with ⟨_, _, hrun, -⟩ | ⟨order', bulletin, hub, hrun, hsort⟩
  · rw [hlater] at hrun
    cases hrun
  · rw [hlater] at hrun
    cases hrun
    refine ⟨resultOf items order later, sorter.noted (resultOf items order later) later hub, rfl,
      rfl, ⟨rfl, rfl, rfl, houtlet⟩, ?_⟩
    -- a handler that merely fails does not keep the result back
    rcases hsort with ⟨-, hsort⟩ | ⟨failure, hpublish, hsort⟩
    · exact .inl hsort
    · exact .inr ⟨failure,
        Hub.isInterruption_of_publish (congrArg Prod.fst hpublish),
        congrArg Prod.fst hpublish, hsort⟩

/-- Whatever the questions are and however they are answered, an order that a sort finds has
the items of the list. -/
theorem perm_of_sortAsking {σ : Type} {sorter later : Sorter α}
    {answer : α → α → StateT σ Reporting Bool} {state : σ} {items : List α} {result : Sorted α}
    (h : sortAsking answer state items sorter = (.ok result, later)) :
    result.order.Perm items ∧ result.moved = differences items result.order := by
  rcases sorter.sortAsking_cases answer state items with
    ⟨_, _, -, hsort⟩ | ⟨order, bulletin, hub, hrun, hsort⟩
  · rw [h] at hsort
    cases hsort
  -- a sort that returns has announced its result
  have hresult : result = resultOf items order bulletin := by
    rcases hsort with ⟨-, hsort⟩ | ⟨_, -, hsort⟩
    · rw [h] at hsort
      cases hsort
      rfl
    · rw [h] at hsort
      cases hsort
  rw [hresult]
  refine ⟨?_, rfl⟩
  -- the questioner ends in some state, which the sort forgets
  have hbind : ((Ordering.sort items).run answer state >>= fun asked => pure asked.1)
      sorter.bulletin.cleared = (.ok order, bulletin) := hrun
  obtain ⟨⟨found, last⟩, between, hasked, hfound⟩ := exists_of_bind_apply_eq_ok hbind
  cases hfound
  have hperm := post_of_run (Ordering.asksOnly_sort items) hasked
  exact hperm

theorem perm_of_sort {sorter later : Sorter α} {view : α → Value} {items : List α}
    {result : Sorted α} (h : Sorter.sort view items sorter = (.ok result, later)) :
    result.order.Perm items ∧ result.moved = differences items result.order :=
  perm_of_sortAsking ((sort_eq_sortAsking sorter view items).symm.trans h)

end Collate.Sorter
