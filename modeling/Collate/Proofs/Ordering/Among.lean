import Collate.Proofs.Ordering.Sort

/-!
# Answers that are consistent among the items

A sort asks about its items only, so it is stable already if the answers about them are
consistent (`sort_of_weakOrderAmong`), and no other arrangement is (`sort_eq_of_stable`).  Any
such answers can be extended to a weak order of everything there is, with whatever else there
is tied behind the items.
-/

namespace Collate.Ordering

variable {α : Type} {before : α → α → Bool} {among : α → Prop} {items : List α}

/-- The answers about certain items are those of a weak order. -/
structure WeakOrderAmong (among : α → Prop) (before : α → α → Bool) : Prop where
  asymm {x y : α} : among x → among y → before x y = true → before y x = false
  cotrans {x y z : α} : among x → among y → among z → before x z = true →
    before x y = true ∨ before y z = true

open Classical in
/-- The answers about certain items, with everything else behind them. -/
noncomputable def extended (among : α → Prop) (before : α → α → Bool) (x y : α) : Bool :=
  if among x ∧ among y then before x y else decide (among x ∧ ¬ among y)

theorem extended_of_among {x y : α} (hx : among x) (hy : among y) :
    extended among before x y = before x y := if_pos ⟨hx, hy⟩

theorem extended_of_not_right {x y : α} (hy : ¬ among y) :
    extended among before x y = true ↔ among x := by
  simp [extended, hy]

theorem extended_of_not_left {x y : α} (hx : ¬ among x) : extended among before x y = false := by
  simp [extended, hx]

theorem tied_extended {x y : α} (hx : among x) (hy : among y) :
    tied (extended among before) x y = tied before x y := by
  rw [tied, tied, extended_of_among hx hy, extended_of_among hy hx]

/-- What is not among the items ties with none of them. -/
theorem tied_extended_of_not_left {x y : α} (hx : ¬ among x) (hy : among y) :
    tied (extended among before) x y = false := by
  rw [tied, (extended_of_not_right hx).mpr hy, Bool.not_true, Bool.and_false]

theorem answeredBy_extended (items : List α) :
    (sort items).answeredBy (extended (· ∈ items) before) = (sort items).answeredBy before :=
  (asksOnly_sort items).answeredBy_congr fun _ _ hx hy => extended_of_among hx hy

theorem filter_tied_extended {list : List α} {x : α} (hx : among x) (hlist : ∀ y ∈ list, among y) :
    list.filter (tied (extended among before) x) = list.filter (tied before x) :=
  List.filter_congr fun y hy => tied_extended hx (hlist y hy)

theorem WeakOrderAmong.extended (order : WeakOrderAmong among before) :
    WeakOrder (extended among before) where
  asymm {x y} hxy := by
    by_cases hx : among x
    · by_cases hy : among y
      · rw [extended_of_among hx hy] at hxy
        rw [extended_of_among hy hx]
        exact order.asymm hx hy hxy
      · exact extended_of_not_left hy
    · rw [extended_of_not_left hx] at hxy
      cases hxy
  cotrans {x z} y hxz := by
    by_cases hx : among x
    · by_cases hy : among y
      · by_cases hz : among z
        · rw [extended_of_among hx hz] at hxz
          rw [extended_of_among hx hy, extended_of_among hy hz]
          exact order.cotrans hx hy hz hxz
        · exact .inr ((extended_of_not_right hz).mpr hy)
      · exact .inl ((extended_of_not_right hy).mpr hx)
    · rw [extended_of_not_left hx] at hxz
      cases hxz

/-- There is one stable arrangement of the items only. -/
theorem sort_eq_of_stable (order : WeakOrderAmong (· ∈ items) before) {result : List α}
    (hperm : result.Perm items) (hresult : InOrder before result)
    (hstable : ∀ x ∈ items, result.filter (tied before x) = items.filter (tied before x)) :
    (sort items).answeredBy before = result := by
  have hextended : InOrder (extended (· ∈ items) before) result := by
    refine List.Pairwise.imp_of_mem ?_ hresult
    intro x y hx hy hyx
    rwa [extended_of_among (hperm.mem_iff.mp hy) (hperm.mem_iff.mp hx)]
  have hclasses : SameClasses (extended (· ∈ items) before) items result := by
    intro x
    by_cases hx : x ∈ items
    · rw [filter_tied_extended hx fun y hy => hy,
        filter_tied_extended hx fun y hy => hperm.mem_iff.mp hy, hstable x hx]
    · -- an item from elsewhere ties with none of them
      have hnone : ∀ list : List α, (∀ y ∈ list, y ∈ items) →
          list.filter (tied (extended (· ∈ items) before) x) = [] := by
        intro list hlist
        rw [List.filter_eq_nil_iff]
        intro y hy
        rw [tied_extended_of_not_left hx (hlist y hy)]
        decide
      rw [hnone items fun y hy => hy, hnone result fun y hy => hperm.mem_iff.mp hy]
  have hsorts := sorts_sort order.extended items
  rw [← answeredBy_extended]
  exact hsorts.inOrder.eq_of_sameClasses order.extended hextended
    (hsorts.sameClasses.symm.trans hclasses)

/-- A sort whose answers are consistent among its items returns them all, in order, and
those that tie in the order they came in. -/
theorem sort_of_weakOrderAmong (order : WeakOrderAmong (· ∈ items) before) :
    ((sort items).answeredBy before).Perm items ∧
      InOrder before ((sort items).answeredBy before) ∧
      ∀ x ∈ items, ((sort items).answeredBy before).filter (tied before x) =
        items.filter (tied before x) := by
  have hperm : ((sort items).answeredBy before).Perm items :=
    (asksOnly_sort items).answeredBy before
  have hsorts := sorts_sort order.extended items
  rw [answeredBy_extended] at hsorts
  -- among the items, the extended order says what the answers say
  refine ⟨hperm, ?_, ?_⟩
  · refine List.Pairwise.imp_of_mem ?_ hsorts.inOrder
    intro x y hx hy hyx
    rwa [extended_of_among (hperm.mem_iff.mp hy) (hperm.mem_iff.mp hx)] at hyx
  · intro x hx
    have hclass := hsorts.sameClasses x
    rw [filter_tied_extended hx fun y hy => hy,
      filter_tied_extended hx fun y hy => hperm.mem_iff.mp hy] at hclass
    exact hclass.symm

end Collate.Ordering
