import Collate.Proofs.Ordering.Sinking
import Collate.Proofs.Sorter.Sorting
import Collate.Proofs.Value.Normal

/-!
# Missing values come last

A sort by rules puts the items for which the first rule finds nothing behind all others, in
either direction (`Sorter.sort_missing_last`).  That does not depend on how the values that
are found compare.  They may be of kinds that have no order, and then each of two items comes
after the other; what a sort makes of such items is arbitrary, but it keeps the missing ones
apart.

A sort can end without an order, if the comparison of two values fails in a way that is no
matter of order.
-/

namespace Collate

variable {α : Type}

/-! ## The first rule -/

/-- Items without a value for the first rule sink, whatever else is compared. -/
theorem sinking_settled (value : α → Rule → Value) (reverse : Bool) {rules : List Rule}
    (hrules : rules ≠ []) :
    Ordering.Sinking (fun x => (value x (rules.head hrules)).isMissing)
      (affirmed (settled value reverse rules)) := by
  cases rules with
  | nil => exact absurd rfl hrules
  | cons rule rest =>
      refine ⟨fun {x y} hx hy => ?_, fun {x y} hx hy => ?_⟩
      · have hjudged : judged value reverse (rule :: rest) x y = .ok (-1) := by
          rw [List.head_cons] at hx hy
          rw [judged_cons, precedence, hx, hy]
          rfl
        rw [affirmed, settled, hjudged]
        rfl
      · have hjudged : judged value reverse (rule :: rest) x y = .ok 1 := by
          rw [List.head_cons] at hx hy
          rw [judged_cons, precedence, hx, hy]
          rfl
        rw [affirmed, settled, hjudged]
        rfl

/-! ## The sort -/

/-- **A sort by rules of fewer than 64 items never puts an item without a value for the first
rule in front of one that has it**, however the values that are present compare.  There is
such an order, unless the comparison of two of these values fails. -/
theorem Sorter.sort_missing_last [DecidableEq α] (sorter : Sorter α) (view : α → Value)
    {items : List α} (hlength : items.length < 64) (hrandom : sorter.options.random = false)
    (hcustom : sorter.options.custom = none) {value : α → Rule → Value}
    (hlookup : ∀ x ∈ items, ∀ rule ∈ sorter.rules,
      (sorter.reader.lookup (view x) rule).Returns sorter.bulletin.outlet (value x rule)) :
    let lacks (x : α) : Bool := (value x (sorter.rules.head sorter.rules_ne_nil)).isMissing
    (∃ result : Sorted α, result.order.Perm items ∧
      result.order.Pairwise (fun x y => lacks x = true → lacks y = true) ∧
      ((Sorter.sort view items sorter).1 = .ok result ∨
        ∃ failure, failure.isInterruption = true ∧
          (Hub.publish ⟨"sort_completed", .sorted result⟩ sorter.hub).1 = .error failure ∧
          (Sorter.sort view items sorter).1 = .error (.failure failure))) ∨
    ∃ x ∈ items, ∃ y ∈ items, ∃ rule ∈ sorter.rules, ∃ failure,
      (value x rule).isMissing = false ∧ (value y rule).isMissing = false ∧
      Value.lesser (value x rule) (value y rule) = .error failure ∧
      (Sorter.sort view items sorter).1 = .error (.failure failure) := by
  intro lacks
  have hasks := Ordering.asksOnly_sort items
  have hsort : (sorter.comparator.sort sorter.reader.lookup view items).Concludes
      sorter.bulletin.outlet ((Ordering.sort items).run
        (settled value sorter.options.reverse sorter.rules)) := by
    rw [comparator_eq_byRules hrandom hcustom]
    exact concludes_sort hlookup
  -- either every question is answered, or one of them fails and ends the sort
  rcases run_eq_ok_or_error hasks with hrun | ⟨x, y, failure, hx, hy, hfailure, hrun⟩
  · left
    rw [hrun] at hsort
    obtain ⟨result, horder, houtcome⟩ := sorter.sort_of_returns view hsort
    have hperm := hasks.answeredBy (affirmed (settled value sorter.options.reverse sorter.rules))
    have hsunk := Ordering.sunk_sort
      (sinking_settled value sorter.options.reverse sorter.rules_ne_nil) hlength
    rw [← horder] at hperm hsunk
    exact ⟨result, hperm, hsunk, houtcome⟩
  · right
    rw [hrun] at hsort
    -- the question that failed has judged two values, and these are to blame
    have hjudged : judged value sorter.options.reverse sorter.rules x y = .error failure := by
      rw [settled] at hfailure
      cases hcase : judged value sorter.options.reverse sorter.rules x y with
      | ok verdict =>
          rw [hcase] at hfailure
          cases hfailure
      | error error =>
          rw [hcase] at hfailure
          cases hfailure
          rfl
    obtain ⟨rule, hrule, hxPresent, hyPresent, hlesser⟩ := exists_of_judged_eq_error hjudged
    exact ⟨x, hx, y, hy, rule, hrule, failure, hxPresent, hyPresent, hlesser,
      sorter.sort_of_fails view hsort⟩

/-- Four items in descending order of an entry that two of them do not have; the other two
have a text and a number there, which have no order. -/
theorem Sorter.sort_missing_last_unorderable :
    let sorter : Sorter Nat := Sorter.create .plain
      [⟨.path ["n"], none, true, by decide, by simp⟩] {} (.opened 10 .journal)
    let entry : Nat → Value := fun k =>
      if k % 2 = 0 then .none else if k = 1 then .text "b" else .int 3
    let view : Nat → Value := fun k => .mapping k [("n", entry k)]
    ∃ result : Sorted Nat, (Sorter.sort view [0, 1, 2, 3] sorter).1 = .ok result ∧
      result.order.Perm [0, 1, 2, 3] ∧
      result.order.Pairwise fun x y => (entry x).isMissing = true → (entry y).isMissing = true := by
  intro sorter entry view
  have hentry : ∀ x, (entry x).isNormal = true ∧ (entry x).isAbsent = false := by
    intro x
    by_cases heven : x % 2 = 0
    · simp only [entry, if_pos heven]
      decide
    · simp only [entry, if_neg heven]
      split <;> decide
  have hlookup : ∀ x ∈ [0, 1, 2, 3], ∀ rule ∈ sorter.rules,
      (sorter.reader.lookup (view x) rule).Returns sorter.bulletin.outlet (entry x) := by
    intro x hx rule hrule
    cases List.mem_singleton.mp hrule
    have hread : ItemReader.plain.read (view x) ⟨.path ["n"], none, true, by decide, by simp⟩ =
        .found (entry x) :=
      ItemReader.plain_read_entry rfl rfl x (hentry x).1 (hentry x).2
    exact ItemReader.returns_of_silent hread _
  rcases sorter.sort_missing_last view (by decide) rfl rfl hlookup with
    ⟨result, hperm, hsunk, hresult | ⟨failure, -, hpublish, -⟩⟩ | hfails
  · exact ⟨result, hresult, hperm, hsunk⟩
  · cases hpublish
  · -- a text and a number do not fail to compare, they are just not ordered
    obtain ⟨x, -, y, -, -, -, failure, hx, hy, hlesser, -⟩ := hfails
    have hordered : ∀ z, (entry z).isMissing = false → (entry z).isOrdered = true :=
      fun z => Value.isOrdered_of_isNormal (hentry z).1
    have hplain : ∀ z, (entry z).decides = false := by
      intro z
      dsimp only [entry]
      split
      · rfl
      · split <;> rfl
    obtain ⟨answer, hanswer⟩ :=
      (Value.answerable_of_isOrdered (hordered x hx) (hplain x) (hplain y)).exists_lesser
    rw [hanswer] at hlesser
    cases hlesser

end Collate
