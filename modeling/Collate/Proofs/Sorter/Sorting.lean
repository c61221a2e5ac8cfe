import Collate.Proofs.Comparison.Verdict
import Collate.Proofs.Lookup.Entry
import Collate.Proofs.Sorter.Outcome

/-!
# Sorting by rules

A sorter that neither shuffles nor follows a custom comparison puts its items in a stable
order by its rules, in either direction, as long as looking up a value always comes to the
same and the values that are found compare consistently (`Sorter.sort_byRules`).
-/

namespace Collate

variable {α : Type}

/-! ## Comparable items -/

/-- The values that a rule finds on the items, other than missing ones, compare
consistently: their comparisons fit together, or they are integers, or texts. -/
def Comparable (items : List α) (found : α → Value) : Prop :=
  Value.Consistent (fun v => v.isMissing = false ∧ ∃ x ∈ items, found x = v) ∨
    (∀ x ∈ items, (found x).isMissing = false → ∃ n, Value.IsInteger (found x) n) ∨
    ∀ x ∈ items, (found x).isMissing = false → ∃ s, Value.IsText (found x) s

theorem Comparable.consistent {items : List α} {found : α → Value} (h : Comparable items found) :
    Value.Consistent fun v => v.isMissing = false ∧ ∃ x ∈ items, found x = v :=
  ComparableAmong.consistent h

/-! ## The outcome of a sort -/

variable [DecidableEq α]

/-- What a sort comes to once the order is found: the result, unless a handler is interrupted
when it is announced. -/
theorem Sorter.sort_of_returns (sorter : Sorter α) (view : α → Value) {items order : List α}
    (h : (sorter.comparator.sort sorter.reader.lookup view items).Returns
      sorter.bulletin.outlet order) :
    ∃ result : Sorted α, result.order = order ∧
      ((Sorter.sort view items sorter).1 = .ok result ∨
        ∃ failure, failure.isInterruption = true ∧
          (Hub.publish ⟨"sort_completed", .sorted result⟩ sorter.hub).1 = .error failure ∧
          (Sorter.sort view items sorter).1 = .error (.failure failure)) := by
  obtain ⟨result, later, horder, -, -, hsort⟩ := sorter.exists_sort_of_returns view h
  refine ⟨result, horder, ?_⟩
  rcases hsort with hsort | ⟨failure, hinterruption, hpublish, hsort⟩
  · exact .inl (congrArg Prod.fst hsort)
  · exact .inr ⟨failure, hinterruption, hpublish, congrArg Prod.fst hsort⟩

/-- **A sort by rules returns all items, in order, and those that compare equal in the order
they came in**, in either direction. -/
theorem Sorter.sort_byRules (sorter : Sorter α) (view : α → Value) (items : List α)
    (hrandom : sorter.options.random = false) (hcustom : sorter.options.custom = none)
    {value : Value → Rule → Value}
    (hlookup : ∀ x ∈ items, ∀ rule ∈ sorter.rules,
      (sorter.reader.lookup (view x) rule).Returns sorter.bulletin.outlet (value (view x) rule))
    (hcomparable : ∀ rule ∈ sorter.rules, Comparable items fun x => value (view x) rule) :
    ∃ (compared : α → α → Int) (result : Sorted α),
      (∀ x ∈ items, ∀ y ∈ items,
        (sorter.comparator.compare sorter.reader.lookup (view x) (view y)).Returns
          sorter.bulletin.outlet (.int (compared x y), sorter.comparator)) ∧
      result.order.Perm items ∧
      result.order.Pairwise (fun x y => compared x y ≤ 0) ∧
      (∀ x ∈ items, result.order.filter (fun y => decide (compared x y = 0)) =
        items.filter fun y => decide (compared x y = 0)) ∧
      ((Sorter.sort view items sorter).1 = .ok result ∨
        ∃ failure, failure.isInterruption = true ∧
          (Hub.publish ⟨"sort_completed", .sorted result⟩ sorter.hub).1 = .error failure ∧
          (Sorter.sort view items sorter).1 = .error (.failure failure)) := by
  have hcomparator : sorter.comparator = .byRules sorter.rules sorter.options.reverse := by
    unfold Sorter.comparator Comparator.build
    rw [hrandom, hcustom]
    rfl
  have hviews : ∀ v, (∃ x ∈ items, view x = v) → ∀ rule ∈ sorter.rules,
      (sorter.reader.lookup v rule).Returns sorter.bulletin.outlet (value v rule) := by
    rintro v ⟨x, hx, rfl⟩
    exact hlookup x hx
  -- comparable values are consistent, and then so is the verdict of all rules
  have hvalues : ValuesConsistent (∃ x ∈ items, view x = ·) value sorter.rules := by
    intro rule hrule
    refine (hcomparable rule hrule).consistent.mono ?_
    rintro v ⟨hmissing, w, ⟨x, hx, rfl⟩, hvalue⟩
    exact ⟨hmissing, x, hx, hvalue⟩
  have hranking : Ranking (· ∈ items) fun x y =>
      verdict value sorter.options.reverse sorter.rules (view x) (view y) :=
    (ranking_verdict sorter.options.reverse hvalues).comap view fun x hx => ⟨x, hx, rfl⟩
  obtain ⟨hperm, hordered, hstable⟩ := sort_of_ranking hranking
  -- what the sort finds is what sorting by the verdict gives
  have hsort := returns_sort sorter.options.reverse hlookup hvalues
  rw [← hcomparator] at hsort
  obtain ⟨result, horder, houtcome⟩ := sorter.sort_of_returns view hsort
  rw [← horder] at hperm hordered hstable
  refine ⟨_, result, ?_, hperm, hordered, hstable, houtcome⟩
  intro x hx y hy
  rw [hcomparator]
  exact returns_compare sorter.options.reverse hviews hvalues ⟨x, hx, rfl⟩ ⟨y, hy, rfl⟩

/-- Four items in reverse order of an entry that one of them does not have. -/
theorem Sorter.sort_byRules_entry_reversed :
    let sorter : Sorter Nat := Sorter.create .plain
      [⟨.path ["n"], none, false, by decide, by simp⟩] { reverse := true } (.opened 10 .journal)
    let view : Nat → Value := fun k => .mapping k [("n", if k = 2 then .none else .int (k % 2))]
    ∃ (compared : Nat → Nat → Int) (result : Sorted Nat),
      (Sorter.sort view [0, 1, 2, 3] sorter).1 = .ok result ∧
      result.order.Perm [0, 1, 2, 3] ∧ result.order.Pairwise (fun x y => compared x y ≤ 0) ∧
      ∀ x ∈ [0, 1, 2, 3], result.order.filter (fun y => decide (compared x y = 0)) =
        [0, 1, 2, 3].filter fun y => decide (compared x y = 0) := by
  intro sorter view
  -- one of the items has nothing where the rule looks
  have hread : ∀ x, ∀ rule ∈ sorter.rules, ItemReader.plain.read (view x) rule =
      .found (if x = 2 then .none else .int (x % 2)) := by
    intro x rule hrule
    cases List.mem_singleton.mp hrule
    rw [ItemReader.plain_read_without_selector (view x) rfl rfl]
    by_cases hx : x = 2
    · rw [hx]
      rfl
    · have hview : view x = .mapping x [("n", .int (x % 2))] := by
        show Value.mapping x [("n", if x = 2 then .none else .int (x % 2))] = _
        rw [if_neg hx]
      rw [hview, if_neg hx]
      rfl
  have hvalue : ∀ x, ∀ rule ∈ sorter.rules, ItemReader.plain.valueOf (view x) rule =
      if x = 2 then .none else .int (x % 2) := by
    intro x rule hrule
    rw [ItemReader.valueOf, hread x rule hrule]
    rfl
  have hlookup : ∀ x ∈ [0, 1, 2, 3], ∀ rule ∈ sorter.rules,
      (sorter.reader.lookup (view x) rule).Returns sorter.bulletin.outlet
        (ItemReader.plain.valueOf (view x) rule) := by
    intro x hx rule hrule
    have haccepts : sorter.bulletin.outlet.Accepts := trivial
    refine ItemReader.returns_lookup haccepts _ _ _ ?_
    intro failure hfailure
    rw [show sorter.reader = .plain from rfl, hread x rule hrule] at hfailure
    cases hfailure
  have hcomparable : ∀ rule ∈ sorter.rules,
      Comparable [0, 1, 2, 3] fun x => ItemReader.plain.valueOf (view x) rule := by
    intro rule hrule
    refine .inr (.inl ?_)
    intro x hx hmissing
    dsimp only at hmissing ⊢
    rw [hvalue x rule hrule] at hmissing ⊢
    by_cases hx : x = 2
    · rw [if_pos hx] at hmissing
      cases hmissing
    · rw [if_neg hx]
      exact ⟨x % 2, rfl, rfl, rfl⟩
  obtain ⟨compared, result, -, hperm, hordered, hstable, houtcome⟩ :=
    Sorter.sort_byRules sorter view [0, 1, 2, 3] rfl rfl hlookup hcomparable
  refine ⟨compared, result, ?_, hperm, hordered, hstable⟩
  rcases houtcome with hresult | ⟨failure, -, hpublish, -⟩
  · exact hresult
  · cases hpublish

end Collate
