import Collate.Proofs.Comparison.Outcome
import Collate.Proofs.Comparison.Ranking
import Collate.Proofs.Ordering.Among

/-!
# Sorting by what the rules say

Looking up a value may report, and may fail.  Where it always comes to the same value and
the values compare consistently, a comparison by rules comes to the verdict on these values
(`returns_compareByRules`), and a sort by rules arranges its items stably by it
(`returns_sortBy`), whatever is reported on the way.
-/

namespace Collate

open Reporting

/-! ## One comparison -/

section Compare

variable {α : Type} {among : α → Prop} {value : α → Rule → Value} {rules : List Rule}

/-- Two items compare without a failure if any two present values of theirs do. -/
theorem judged_of_answered (reverse : Bool) {x y : α}
    (h : ∀ rule ∈ rules, (value x rule).isMissing = false → (value y rule).isMissing = false →
      ∃ answer, Value.lesser (value x rule) (value y rule) = .ok answer) :
    judged value reverse rules x y = .ok (verdict value reverse rules x y) := by
  induction rules with
  | nil => rfl
  | cons rule rest ih =>
      obtain ⟨hrule, hrest⟩ := List.forall_mem_cons.mp h
      rw [judged_cons, precedence_of_answered (reverse != rule.descending) hrule]
      -- where the rule ties, the remaining rules decide
      by_cases hzero : weight (reverse != rule.descending) (value x rule) (value y rule) = 0
      · rw [if_pos hzero, verdict, thenBy, if_pos hzero]
        exact ih hrest
      · rw [if_neg hzero, verdict, thenBy, if_neg hzero]
        rfl

/-- Consistent values do not fail to compare. -/
theorem judged_of_consistent (reverse : Bool) (h : ValuesConsistent among value rules) {x y : α}
    (hx : among x) (hy : among y) :
    judged value reverse rules x y = .ok (verdict value reverse rules x y) := by
  apply judged_of_answered
  intro rule hrule hxMissing hyMissing
  exact (h rule hrule).answered ⟨hxMissing, x, hx, rfl⟩ ⟨hyMissing, y, hy, rfl⟩

/-- Values that are read off views may be taken for values of the items. -/
theorem verdict_comap {β : Type} (view : β → α) (reverse : Bool) (rules : List Rule) (x y : β) :
    verdict (fun z => value (view z)) reverse rules x y =
      verdict value reverse rules (view x) (view y) := by
  induction rules with
  | nil => rfl
  | cons rule rest ih => rw [verdict, verdict, thenBy, thenBy, ih]

end Compare

section Compare

variable {among : Value → Prop} {outlet : Outlet} {value : Value → Rule → Value}
  {lookup : Value → Rule → Reporting Value} {rules : List Rule}

theorem returns_compareByRules_of_judged {reverse : Bool} {x y : Value} {decided : Int}
    (hx : ∀ rule ∈ rules, (lookup x rule).Returns outlet (value x rule))
    (hy : ∀ rule ∈ rules, (lookup y rule).Returns outlet (value y rule))
    (h : judged value reverse rules x y = .ok decided) :
    (compareByRules lookup reverse x y rules).Returns outlet decided := by
  rw [returns_iff, ← h]
  exact concludes_judged reverse hx hy

theorem returns_compareByRules (reverse : Bool)
    (hlookup : ∀ x, among x → ∀ rule ∈ rules, (lookup x rule).Returns outlet (value x rule))
    (h : ValuesConsistent among value rules) {x y : Value} (hx : among x) (hy : among y) :
    (compareByRules lookup reverse x y rules).Returns outlet (verdict value reverse rules x y) :=
  returns_compareByRules_of_judged (hlookup x hx) (hlookup y hy)
    (judged_of_consistent reverse h hx hy)

/-- A comparator that goes by rules comes to the verdict, and stays as it is. -/
theorem returns_compare (reverse : Bool)
    (hlookup : ∀ x, among x → ∀ rule ∈ rules, (lookup x rule).Returns outlet (value x rule))
    (h : ValuesConsistent among value rules) {x y : Value} (hx : among x) (hy : among y) :
    ((Comparator.byRules rules reverse).compare lookup x y).Returns outlet
      (.int (verdict value reverse rules x y), .byRules rules reverse) :=
  .bind (returns_compareByRules reverse hlookup h hx hy) (.pure _)

end Compare

/-! ## The whole sort -/

/-- The items in the order of a comparison by numbers. -/
def sortBy {α : Type} (compare : α → α → Int) (items : List α) : List α :=
  (Ordering.sort items).answeredBy fun x y => decide (compare x y < 0)

section Sorting

variable {α : Type} {view : α → Value} {items : List α} {outlet : Outlet}
  {lookup : Value → Rule → Reporting Value} {rules : List Rule}

theorem run_settled_of_consistent {value : α → Rule → Value} (reverse : Bool)
    (h : ValuesConsistent (· ∈ items) value rules) :
    (Ordering.sort items).run (settled value reverse rules) =
      .ok (sortBy (verdict value reverse rules) items) := by
  have hasks := Ordering.asksOnly_sort items
  have hsettled : ∀ x y, x ∈ items → y ∈ items → settled value reverse rules x y =
      .ok (decide (verdict value reverse rules x y < 0)) := by
    intro x y hx hy
    rw [settled, judged_of_consistent reverse h hx hy]
    rfl
  rcases run_eq_ok_or_error hasks with hrun | ⟨x, y, failure, hx, hy, hfailure, -⟩
  · rw [hrun, sortBy]
    refine congrArg _ (hasks.answeredBy_congr fun x y hx hy => ?_)
    rw [affirmed, hsettled x y hx hy]
    rfl
  · rw [hsettled x y hx hy] at hfailure
    cases hfailure

/-- A sort whose lookups return consistent values returns the items in the order of the
verdict on these values. -/
theorem returns_sortBy {value : α → Rule → Value} (reverse : Bool)
    (hlookup : ∀ x ∈ items, ∀ rule ∈ rules,
      (lookup (view x) rule).Returns outlet (value x rule))
    (h : ValuesConsistent (· ∈ items) value rules) :
    ((Comparator.byRules rules reverse).sort lookup view items).Returns outlet
      (sortBy (verdict value reverse rules) items) := by
  rw [returns_iff, ← run_settled_of_consistent reverse h]
  exact concludes_sort hlookup

theorem returns_sort {value : Value → Rule → Value} (reverse : Bool)
    (hlookup : ∀ x ∈ items, ∀ rule ∈ rules,
      (lookup (view x) rule).Returns outlet (value (view x) rule))
    (h : ValuesConsistent (∃ x ∈ items, view x = ·) value rules) :
    ((Comparator.byRules rules reverse).sort lookup view items).Returns outlet
      (sortBy (fun x y => verdict value reverse rules (view x) (view y)) items) := by
  have hitems : ValuesConsistent (· ∈ items) (fun x => value (view x)) rules := by
    intro rule hrule
    refine (h rule hrule).mono ?_
    rintro v ⟨hmissing, x, hx, hvalue⟩
    exact ⟨hmissing, view x, ⟨x, hx, rfl⟩, hvalue⟩
  have hsort := returns_sortBy reverse hlookup hitems
  rwa [funext₂ (verdict_comap view reverse rules)] at hsort

end Sorting

/-! ## The order of the items -/

variable {α : Type} {compare : α → α → Int} {items : List α}

theorem Ranking.weakOrderAmong {among : α → Prop} (h : Ranking among compare) :
    Ordering.WeakOrderAmong among fun x y => decide (compare x y < 0) where
  asymm {x y} hx hy hxy := by
    rw [decide_eq_true_eq] at hxy
    rw [decide_eq_false_iff_not, h.swap hx hy]
    omega
  cotrans {x y z} hx hy hz hxz := by
    simp only [decide_eq_true_eq] at hxz ⊢
    by_contra hneither
    have hyx : compare y x ≤ 0 := by
      rw [h.swap hx hy]
      omega
    have hzy : compare z y ≤ 0 := by
      rw [h.swap hy hz]
      omega
    have hzx := h.trans hz hy hx hzy hyx
    rw [h.swap hx hz] at hzx
    omega

theorem Ranking.tied_eq {among : α → Prop} (h : Ranking among compare) {x : α} (hx : among x)
    (y : α) (hy : among y) :
    Ordering.tied (fun x y => decide (compare x y < 0)) x y = decide (compare x y = 0) := by
  rw [Bool.eq_iff_iff, Ordering.tied_eq_true_iff, h.swap hx hy]
  simp only [decide_eq_false_iff_not, decide_eq_true_eq]
  omega

/-- A ranking puts the items in a stable order. -/
theorem sort_of_ranking (h : Ranking (· ∈ items) compare) :
    (sortBy compare items).Perm items ∧
      (sortBy compare items).Pairwise (fun x y => compare x y ≤ 0) ∧
      ∀ x ∈ items, (sortBy compare items).filter (fun y => decide (compare x y = 0)) =
        items.filter fun y => decide (compare x y = 0) := by
  obtain ⟨hperm, hinOrder, hstable⟩ := Ordering.sort_of_weakOrderAmong h.weakOrderAmong
  refine ⟨hperm, ?_, ?_⟩
  · refine List.Pairwise.imp_of_mem ?_ hinOrder
    intro x y hx hy hyx
    rw [decide_eq_false_iff_not, h.swap (hperm.mem_iff.mp hx) (hperm.mem_iff.mp hy)] at hyx
    omega
  · intro x hx
    have htied := h.tied_eq hx
    have hclass := hstable x hx
    rwa [List.filter_congr htied,
      List.filter_congr fun y hy => htied y (hperm.mem_iff.mp hy)] at hclass

theorem Ranking.of_perm {others : List α} (h : Ranking (· ∈ items) compare)
    (hperm : others.Perm items) : Ranking (· ∈ others) compare :=
  h.comap id fun _ hx => hperm.mem_iff.mp hx

/-- The comparison only matters where it is asked, among the items. -/
theorem sortBy_congr {compare' : α → α → Int}
    (h : ∀ x ∈ items, ∀ y ∈ items, compare x y = compare' x y) :
    sortBy compare items = sortBy compare' items := by
  apply (Ordering.asksOnly_sort items).answeredBy_congr
  intro x y hx hy
  rw [h x hx y hy]

/-- There is one stable order of the items only. -/
theorem sortBy_eq_of_stable (h : Ranking (· ∈ items) compare) {result : List α}
    (hperm : result.Perm items) (hordered : result.Pairwise fun x y => compare x y ≤ 0)
    (hstable : ∀ x ∈ items, result.filter (fun y => decide (compare x y = 0)) =
      items.filter fun y => decide (compare x y = 0)) :
    sortBy compare items = result := by
  apply Ordering.sort_eq_of_stable h.weakOrderAmong hperm
  · refine List.Pairwise.imp_of_mem ?_ hordered
    intro x y hx hy hxy
    rw [decide_eq_false_iff_not, h.swap (hperm.mem_iff.mp hx) (hperm.mem_iff.mp hy)]
    omega
  · intro x hx
    have htied := h.tied_eq hx
    rw [List.filter_congr htied, List.filter_congr fun y hy => htied y (hperm.mem_iff.mp hy),
      hstable x hx]

/-- Sorting once more changes nothing. -/
theorem sortBy_sortBy (h : Ranking (· ∈ items) compare) :
    sortBy compare (sortBy compare items) = sortBy compare items := by
  obtain ⟨hperm, hordered, -⟩ := sort_of_ranking h
  exact sortBy_eq_of_stable (h.of_perm hperm) (.refl _) hordered fun _ _ => rfl

end Collate
