import Mathlib.Data.List.Basic

/-!
# Stable arrangements

The answers that a sort gets make sense if they say of any two items which one comes
before the other, or that they tie, as if every item had a rank.  `WeakOrder` demands
no more of them.

A list is a stable arrangement of another one if it is in order and agrees with the
other list on every class of items that tie (`Sorts`).  That keeps all items, and keeps
tied items in the order they came in.

## Strategy

Arrangements are built up from pieces.  A piece of the arrangement may be put in front
of the rest as soon as nothing in the rest comes before it (`Sorts.append`), and in the
list that is arranged two neighbouring pieces may change places if no item of the one
ties with an item of the other (`sameClasses_append_comm`).  Neither fact looks inside
the pieces.
-/

namespace Collate.Ordering

variable {α : Type} {before : α → α → Bool}

/-! ## Weak orders -/

/-- Answers that are as consistent as ranks: what comes before another item does not
come after it, and of two items of different rank every third one comes after the first
or before the second. -/
structure WeakOrder (before : α → α → Bool) : Prop where
  asymm {x y : α} : before x y = true → before y x = false
  cotrans {x z : α} (y : α) : before x z = true → before x y = true ∨ before y z = true

/-- Neither of two items comes before the other. -/
def tied (before : α → α → Bool) (x y : α) : Bool := !before x y && !before y x

theorem tied_eq_true_iff {x y : α} :
    tied before x y = true ↔ before x y = false ∧ before y x = false := by
  simp [tied]

theorem tied_comm (before : α → α → Bool) (x y : α) : tied before x y = tied before y x := by
  rw [tied, tied, Bool.and_comm]

namespace WeakOrder

theorem irrefl (order : WeakOrder before) (x : α) : before x x = false := by
  cases h : before x x with
  | false => rfl
  | true => exact h.symm.trans (order.asymm h)

theorem trans (order : WeakOrder before) {x y z : α} (hxy : before x y = true)
    (hyz : before y z = true) : before x z = true := by
  rcases order.cotrans z hxy with hxz | hzy
  · exact hxz
  · rw [order.asymm hyz] at hzy
    cases hzy

/-- What is not before is transitive as well. -/
theorem not_before_trans (order : WeakOrder before) {x y z : α} (hxy : before y x = false)
    (hyz : before z y = false) : before z x = false := by
  cases hzx : before z x with
  | false => rfl
  | true =>
      rcases order.cotrans y hzx with hzy | hyx
      · rw [hyz] at hzy
        cases hzy
      · rw [hxy] at hyx
        cases hyx

/-- Before an item that is not before a third one is before the third one. -/
theorem before_of_before_of_not (order : WeakOrder before) {x y z : α}
    (hxy : before x y = true) (hzy : before z y = false) : before x z = true := by
  rcases order.cotrans z hxy with hxz | hzy'
  · exact hxz
  · rw [hzy] at hzy'
    cases hzy'

theorem before_of_not_of_before (order : WeakOrder before) {x y z : α}
    (hyx : before y x = false) (hyz : before y z = true) : before x z = true := by
  rcases order.cotrans x hyz with hyx' | hxz
  · rw [hyx] at hyx'
    cases hyx'
  · exact hxz

theorem tied_self (order : WeakOrder before) (x : α) : tied before x x = true := by
  rw [tied_eq_true_iff]
  exact ⟨order.irrefl x, order.irrefl x⟩

theorem tied_trans (order : WeakOrder before) {x y z : α} (hxy : tied before x y = true)
    (hyz : tied before y z = true) : tied before x z = true := by
  rw [tied_eq_true_iff] at hxy hyz ⊢
  exact ⟨order.not_before_trans hyz.1 hxy.1, order.not_before_trans hxy.2 hyz.2⟩

/-- The order seen from the other end is one, too. -/
theorem swap (order : WeakOrder before) : WeakOrder fun x y => before y x where
  asymm h := order.asymm h
  cotrans y h := (order.cotrans y h).symm

end WeakOrder

/-! ## Order of a list -/

/-- No item comes before an earlier one. -/
def InOrder (before : α → α → Bool) (items : List α) : Prop :=
  items.Pairwise fun x y => before y x = false

/-- No item of the second list comes before one of the first. -/
def Precedes (before : α → α → Bool) (items others : List α) : Prop :=
  ∀ x ∈ items, ∀ y ∈ others, before y x = false

/-- Every item of the first list comes before every one of the second. -/
def Leads (before : α → α → Bool) (items others : List α) : Prop :=
  ∀ x ∈ items, ∀ y ∈ others, before x y = true

theorem inOrder_append {items others : List α} :
    InOrder before (items ++ others) ↔
      InOrder before items ∧ InOrder before others ∧ Precedes before items others :=
  List.pairwise_append

theorem inOrder_cons {item : α} {items : List α} :
    InOrder before (item :: items) ↔
      (∀ y ∈ items, before y item = false) ∧ InOrder before items :=
  List.pairwise_cons

theorem inOrder_singleton (item : α) : InOrder before [item] := List.pairwise_singleton _ _

theorem inOrder_reverse {items : List α} :
    InOrder before items.reverse ↔ InOrder (fun x y => before y x) items :=
  List.pairwise_reverse

theorem Leads.precedes {items others : List α} (order : WeakOrder before)
    (h : Leads before items others) : Precedes before items others :=
  fun x hx y hy => order.asymm (h x hx y hy)

/-! ## Classes of tied items -/

/-- Two lists agree on every class of tied items. -/
def SameClasses (before : α → α → Bool) (items others : List α) : Prop :=
  ∀ x, items.filter (tied before x) = others.filter (tied before x)

namespace SameClasses

variable {items others more : List α}

theorem refl (items : List α) : SameClasses before items items := fun _ => rfl

theorem symm (h : SameClasses before items others) : SameClasses before others items :=
  fun x => (h x).symm

theorem trans (h : SameClasses before items others) (hmore : SameClasses before others more) :
    SameClasses before items more := fun x => (h x).trans (hmore x)

theorem append {items' others' : List α} (h : SameClasses before items others)
    (h' : SameClasses before items' others') :
    SameClasses before (items ++ items') (others ++ others') := by
  intro x
  rw [List.filter_append, List.filter_append, h x, h' x]

theorem reverse (h : SameClasses before items others) :
    SameClasses (fun x y => before y x) items.reverse others.reverse := by
  intro x
  have hswap : tied (fun x y => before y x) x = tied before x := funext (tied_comm before · x)
  rw [hswap, List.filter_reverse, List.filter_reverse, h x]

theorem mem_iff (order : WeakOrder before) (h : SameClasses before items others) {x : α} :
    x ∈ items ↔ x ∈ others := by
  have hclass : ∀ list : List α, x ∈ list ↔ x ∈ list.filter (tied before x) := fun list => by
    rw [List.mem_filter, and_iff_left (order.tied_self x)]
  rw [hclass items, hclass others, h x]

end SameClasses

/-- Neighbouring pieces without a tie between them may change places. -/
theorem sameClasses_append_comm {items others : List α} (order : WeakOrder before)
    (h : ∀ x ∈ items, ∀ y ∈ others, tied before x y = false) :
    SameClasses before (items ++ others) (others ++ items) := by
  intro z
  rw [List.filter_append, List.filter_append]
  by_cases hitems : items.filter (tied before z) = []
  · rw [hitems, List.nil_append, List.append_nil]
  · -- an item of `items` ties with `z`, so none of `others` does
    obtain ⟨x, hx⟩ := List.exists_mem_of_ne_nil _ hitems
    rw [List.mem_filter] at hx
    have hothers : others.filter (tied before z) = [] := by
      rw [List.filter_eq_nil_iff]
      intro y hy hzy
      have hxz : tied before x z = true := tied_comm before x z ▸ hx.2
      exact absurd (order.tied_trans hxz hzy) (by rw [h x hx.1 y hy]; decide)
    rw [hothers, List.append_nil, List.nil_append]

theorem Leads.sameClasses_comm {items others : List α} (order : WeakOrder before)
    (h : Leads before items others) : SameClasses before (others ++ items) (items ++ others) := by
  refine (sameClasses_append_comm order ?_).symm
  intro x hx y hy
  rw [tied, h x hx y hy, Bool.not_true, Bool.false_and]

/-- Lists in order with the same classes are the same: their heads tie, and of a class the
first item is the same in both. -/
theorem InOrder.eq_of_sameClasses {items others : List α} (order : WeakOrder before)
    (hitems : InOrder before items) (hothers : InOrder before others)
    (h : SameClasses before items others) : items = others := by
  induction items generalizing others with
  | nil =>
      refine (List.eq_nil_iff_forall_not_mem.mpr fun y hy => ?_).symm
      exact List.not_mem_nil ((h.mem_iff order).mpr hy)
  | cons x xs ih =>
      cases others with
      | nil => exact absurd ((h.mem_iff order).mp (List.mem_cons_self ..)) List.not_mem_nil
      | cons y ys =>
          have hyx : before y x = false := by
            rcases List.mem_cons.mp ((h.mem_iff order).mpr (List.mem_cons_self ..)) with rfl | hy
            · exact order.irrefl y
            · exact (inOrder_cons.mp hitems).1 y hy
          have hxy : before x y = false := by
            rcases List.mem_cons.mp ((h.mem_iff order).mp (List.mem_cons_self ..)) with rfl | hx
            · exact order.irrefl x
            · exact (inOrder_cons.mp hothers).1 x hx
          -- the heads tie, so they head the same class in both lists
          have hhead := h x
          rw [List.filter_cons_of_pos (order.tied_self x),
            List.filter_cons_of_pos (tied_eq_true_iff.mpr ⟨hxy, hyx⟩)] at hhead
          obtain rfl : x = y := (List.cons.inj hhead).1
          -- without the common head the classes are still the same
          have htail : SameClasses before xs ys := by
            intro z
            have hz := h z
            rw [List.filter_cons, List.filter_cons] at hz
            split at hz
            · exact (List.cons.inj hz).2
            · exact hz
          rw [ih (inOrder_cons.mp hitems).2 (inOrder_cons.mp hothers).2 htail]

/-! ## Stable arrangements -/

/-- The second list is a stable arrangement of the first. -/
structure Sorts (before : α → α → Bool) (items result : List α) : Prop where
  inOrder : InOrder before result
  sameClasses : SameClasses before items result

namespace Sorts

variable {items result : List α}

theorem refl (h : InOrder before items) : Sorts before items items := ⟨h, .refl items⟩

theorem of_sameClasses {others : List α} (hclasses : SameClasses before items others)
    (h : Sorts before others result) : Sorts before items result :=
  ⟨h.inOrder, hclasses.trans h.sameClasses⟩

/-- Arranging a part of the list first makes no difference. -/
theorem of_append {others more : List α} (h : Sorts before items others)
    (hmore : Sorts before (others ++ more) result) : Sorts before (items ++ more) result :=
  .of_sameClasses (h.sameClasses.append (.refl more)) hmore

theorem mem_iff (order : WeakOrder before) (h : Sorts before items result) {x : α} :
    x ∈ items ↔ x ∈ result := h.sameClasses.mem_iff order

/-- Pieces are arranged one by one if the later ones do not come before the earlier. -/
theorem append {items' result' : List α} (order : WeakOrder before)
    (h : Sorts before items result) (h' : Sorts before items' result')
    (hprecedes : Precedes before items items') :
    Sorts before (items ++ items') (result ++ result') := by
  refine ⟨inOrder_append.mpr ⟨h.inOrder, h'.inOrder, ?_⟩, h.sameClasses.append h'.sameClasses⟩
  intro x hx y hy
  exact hprecedes x ((h.mem_iff order).mpr hx) y ((h'.mem_iff order).mpr hy)

/-- A piece that comes before everything in front of it moves there. -/
theorem append_of_leads {others front : List α} (order : WeakOrder before)
    (hfront : InOrder before front) (hleads : Leads before front items)
    (hprecedes : Precedes before front others) (h : Sorts before (items ++ others) result) :
    Sorts before (items ++ (front ++ others)) (front ++ result) := by
  have hclasses : SameClasses before (items ++ (front ++ others)) (front ++ (items ++ others)) := by
    rw [← List.append_assoc, ← List.append_assoc]
    exact (hleads.sameClasses_comm order).append (.refl others)
  refine .of_sameClasses hclasses (.append order (.refl hfront) h ?_)
  intro x hx y hy
  rw [List.mem_append] at hy
  exact hy.elim (fun hy => hleads.precedes order x hx y hy) (hprecedes x hx y)

theorem reverse (h : Sorts (fun x y => before y x) items result) :
    Sorts before items.reverse result.reverse :=
  ⟨inOrder_reverse.mpr h.inOrder, h.sameClasses.reverse⟩

end Sorts

end Collate.Ordering
