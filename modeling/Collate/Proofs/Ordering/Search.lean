import Collate.Ordering.Search
import Collate.Proofs.Ordering.Stable

/-!
# What a search finds

If the items that stay come first in a list, either search counts them, from either end
(`answeredBy_bisect`, `answeredBy_gallop`).  In a list in order that holds of the items
that come before some item, and of those that some item does not come before.

`Parted` says of two lists that they are such parts of the list that they make up.
-/

namespace Collate.Ordering

variable {α : Type} {before : α → α → Bool} {stays : α → Inquiry α Bool} {front back : List α}

/-! ## The two parts of a list -/

/-- Every item of the first list stays, and no item of the second does. -/
structure Parted (before : α → α → Bool) (stays : α → Inquiry α Bool) (front back : List α) :
    Prop where
  front_stays : ∀ item ∈ front, (stays item).answeredBy before = true
  back_goes : ∀ item ∈ back, (stays item).answeredBy before = false

/-- The item at a position stays exactly if the position is in the first part. -/
theorem Parted.answer_eq (h : Parted before stays front back) {position : Nat} {item : α}
    (hitem : (front ++ back)[position]? = some item) :
    (stays item).answeredBy before = decide (position < front.length) := by
  by_cases hposition : position < front.length
  · rw [List.getElem?_append_left hposition] at hitem
    rw [h.front_stays item (List.mem_of_getElem? hitem), decide_eq_true hposition]
  · rw [List.getElem?_append_right (Nat.le_of_not_lt hposition)] at hitem
    rw [h.back_goes item (List.mem_of_getElem? hitem), decide_eq_false hposition]

/-- A list in which items stay only behind items that stay has two such parts. -/
theorem exists_parted {items : List α}
    (h : items.Pairwise fun x y =>
      (stays y).answeredBy before = true → (stays x).answeredBy before = true) :
    ∃ front back, items = front ++ back ∧ Parted before stays front back := by
  induction items with
  | nil => exact ⟨[], [], rfl, by simp, by simp⟩
  | cons first rest ih =>
      rw [List.pairwise_cons] at h
      cases hfirst : (stays first).answeredBy before with
      | true =>
          obtain ⟨front, back, hrest, hparted⟩ := ih h.2
          refine ⟨first :: front, back, by rw [hrest, List.cons_append], ?_, hparted.back_goes⟩
          rw [List.forall_mem_cons]
          exact ⟨hfirst, hparted.front_stays⟩
      | false =>
          -- the first item goes, so none behind it stays
          refine ⟨[], first :: rest, rfl, by simp, ?_⟩
          rw [List.forall_mem_cons]
          refine ⟨hfirst, fun item hitem => ?_⟩
          rw [Bool.eq_false_iff]
          intro hstays
          rw [h.1 item hitem hstays] at hfirst
          cases hfirst

/-! ## The searches -/

/-- A search does not stop short of items that stay, whatever stays behind them. -/
theorem le_answeredBy_bisect (side : End)
    (hfront : ∀ item ∈ front, (stays item).answeredBy before = true) {start count : Nat}
    (hend : front.length ≤ start + count) (hcount : start + count ≤ (front ++ back).length) :
    front.length ≤ (bisect side stays (front ++ back) start count).answeredBy before := by
  induction count using Nat.strongRecOn generalizing start with
  | ind count ih =>
    unfold bisect
    split
    · rw [Inquiry.answeredBy_done]
      omega
    next hzero =>
    have hhalf : side.middle count < count := side.middle_lt (Nat.pos_of_ne_zero hzero)
    dsimp only
    split
    · next hnone =>
      rw [List.getElem?_eq_none_iff] at hnone
      omega
    next item hitem =>
    rw [Inquiry.answeredBy_bind]
    split
    · exact ih _ (by omega) (by omega) (by omega)
    · next hgoes =>
      -- an item that goes lies behind the first part
      have hposition : front.length ≤ start + side.middle count := by
        by_contra hless
        rw [List.getElem?_append_left (by omega)] at hitem
        exact hgoes (hfront item (List.mem_of_getElem? hitem))
      exact ih _ hhalf hposition (by omega)

/-- A search does not go beyond items none of which stays. -/
theorem answeredBy_bisect_le (side : End)
    (hback : ∀ item ∈ back, (stays item).answeredBy before = false) {start count : Nat}
    (hstart : start ≤ front.length) :
    (bisect side stays (front ++ back) start count).answeredBy before ≤ front.length := by
  induction count using Nat.strongRecOn generalizing start with
  | ind count ih =>
    unfold bisect
    split
    · exact hstart
    next hzero =>
    have hhalf : side.middle count < count := side.middle_lt (Nat.pos_of_ne_zero hzero)
    dsimp only
    split
    · exact hstart
    next item hitem =>
    rw [Inquiry.answeredBy_bind]
    split
    · next hstays =>
      -- an item that stays lies in the first part
      have hposition : start + side.middle count < front.length := by
        by_contra hless
        rw [List.getElem?_append_right (by omega)] at hitem
        rw [hback item (List.mem_of_getElem? hitem)] at hstays
        cases hstays
      exact ih _ (by omega) hposition
    · exact ih _ hhalf hstart

/-- Halving keeps the end of the first part within the stretch that is looked at. -/
theorem answeredBy_bisect (side : End) (h : Parted before stays front back) {start count : Nat}
    (hstart : start ≤ front.length) (hend : front.length ≤ start + count)
    (hcount : start + count ≤ (front ++ back).length) :
    (bisect side stays (front ++ back) start count).answeredBy before = front.length :=
  Nat.le_antisymm (answeredBy_bisect_le side h.back_goes hstart)
    (le_answeredBy_bisect side h.front_stays hend hcount)

/-- The items up to `last` stay, and between `last` and `next` the first part may end. -/
theorem answeredBy_gallopFrom (side : End) (h : Parted before stays front back)
    {last next : Nat} (hlast : last < front.length) (hnext : last < next) :
    (gallopFrom side stays (front ++ back) last next).answeredBy before = front.length := by
  have hlength : (front ++ back).length = front.length + back.length := List.length_append
  induction last, next using gallopFrom.induct (front ++ back) with
  | case1 last next hnone =>
      -- past the end of the list, all that is left lies between `last` and that end
      rw [List.getElem?_eq_none_iff] at hnone
      unfold gallopFrom
      split
      · exact answeredBy_bisect side h hlast (by omega) (by omega)
      · next item hitem =>
        have := (List.getElem?_eq_some_iff.mp hitem).1
        omega
  | case2 last next item hitem ih =>
      have hbound := (List.getElem?_eq_some_iff.mp hitem).1
      unfold gallopFrom
      split
      · next hnone =>
        rw [List.getElem?_eq_none_iff] at hnone
        omega
      · next found hfound =>
        rw [Inquiry.answeredBy_bind, h.answer_eq hfound]
        by_cases hposition : next < front.length
        · rw [decide_eq_true hposition, if_pos rfl]
          exact ih hposition (by omega)
        · rw [decide_eq_false hposition, if_neg Bool.false_ne_true]
          exact answeredBy_bisect side h hlast (by omega) (by omega)

theorem answeredBy_gallop (side : End) (h : Parted before stays front back) :
    (gallop side stays (front ++ back)).answeredBy before = front.length := by
  cases front with
  | nil =>
      cases back with
      | nil => rfl
      | cons first rest =>
          show ((stays first).bind _).answeredBy before = 0
          rw [Inquiry.answeredBy_bind, h.back_goes first (List.mem_cons_self ..)]
          rfl
  | cons first front =>
      show ((stays first).bind _).answeredBy before = _
      rw [Inquiry.answeredBy_bind, h.front_stays first (List.mem_cons_self ..), if_pos rfl]
      exact answeredBy_gallopFrom side h (Nat.zero_lt_succ _) Nat.zero_lt_one

/-- A list that is cut where a search says has all items that stay in the first part. -/
theorem parted_bisect (side : End) {items : List α}
    (h : items.Pairwise fun x y =>
      (stays y).answeredBy before = true → (stays x).answeredBy before = true) :
    Parted before stays
      (items.take ((bisect side stays items 0 items.length).answeredBy before))
      (items.drop ((bisect side stays items 0 items.length).answeredBy before)) := by
  obtain ⟨front, back, rfl, hparted⟩ := exists_parted h
  have hlength : front.length ≤ (front ++ back).length := by simp
  rw [answeredBy_bisect side hparted (Nat.zero_le _) (by omega) (by omega), List.take_left,
    List.drop_left]
  exact hparted

theorem parted_gallop (side : End) {items : List α}
    (h : items.Pairwise fun x y =>
      (stays y).answeredBy before = true → (stays x).answeredBy before = true) :
    Parted before stays (items.take ((gallop side stays items).answeredBy before))
      (items.drop ((gallop side stays items).answeredBy before)) := by
  obtain ⟨front, back, rfl, hparted⟩ := exists_parted h
  rw [answeredBy_gallop side hparted, List.take_left, List.drop_left]
  exact hparted

/-! ## Searching a list in order -/

/-- What comes before what, as seen from an end. -/
def End.sees (side : End) (before : α → α → Bool) (x y : α) : Bool :=
  match side with
  | .front => before x y
  | .back => before y x

@[simp] theorem End.answeredBy_comesBefore (side : End) (x y : α) :
    (side.comesBefore x y).answeredBy before = side.sees before x y := by
  cases side <;> rfl

theorem WeakOrder.sees (order : WeakOrder before) (side : End) : WeakOrder (side.sees before) := by
  cases side with
  | front => exact order
  | back => exact order.swap

variable (side : End) {items : List α} {count : Nat}

theorem pairwise_not_before (order : WeakOrder before) (h : InOrder (side.sees before) items)
    (y : α) : items.Pairwise fun x z =>
      ((side.comesBefore y z).map not).answeredBy before = true →
        ((side.comesBefore y x).map not).answeredBy before = true := by
  refine h.imp ?_
  intro x z hzx hz
  rw [Inquiry.answeredBy_map, End.answeredBy_comesBefore, Bool.not_eq_true'] at hz ⊢
  exact (order.sees side).not_before_trans hzx hz

theorem pairwise_before (order : WeakOrder before) (h : InOrder (side.sees before) items)
    (x : α) : items.Pairwise fun y z =>
      (side.comesBefore z x).answeredBy before = true →
        (side.comesBefore y x).answeredBy before = true := by
  refine h.imp ?_
  intro y z hzy hz
  rw [End.answeredBy_comesBefore] at hz ⊢
  exact (order.sees side).before_of_not_of_before hzy hz

/-- Parted by the items that `y` does not come before. -/
theorem Parted.not_before {side : End} {y : α}
    (h : Parted before (fun item => (side.comesBefore y item).map not) (items.take count)
      (items.drop count)) :
    (∀ x ∈ items.take count, side.sees before y x = false) ∧
      ∀ x ∈ items.drop count, side.sees before y x = true := by
  refine ⟨fun x hx => ?_, fun x hx => ?_⟩
  · have hfront := h.front_stays x hx
    rwa [Inquiry.answeredBy_map, End.answeredBy_comesBefore, Bool.not_eq_true'] at hfront
  · have hback := h.back_goes x hx
    rwa [Inquiry.answeredBy_map, End.answeredBy_comesBefore, Bool.not_eq_false'] at hback

/-- Insertion looks for the items that the inserted one does not come before. -/
theorem bisect_not_before (order : WeakOrder before) (h : InOrder (side.sees before) items)
    (y : α)
    (hcount : (bisect side (fun item => (side.comesBefore y item).map not) items 0
      items.length).answeredBy before = count) :
    (∀ x ∈ items.take count, side.sees before y x = false) ∧
      ∀ x ∈ items.drop count, side.sees before y x = true := by
  have hparted := parted_bisect side (pairwise_not_before side order h y)
  rw [hcount] at hparted
  exact hparted.not_before

theorem gallop_not_before (order : WeakOrder before) (h : InOrder (side.sees before) items)
    (y : α)
    (hcount : (gallop side (fun item => (side.comesBefore y item).map not) items).answeredBy
      before = count) :
    (∀ x ∈ items.take count, side.sees before y x = false) ∧
      ∀ x ∈ items.drop count, side.sees before y x = true := by
  have hparted := parted_gallop side (pairwise_not_before side order h y)
  rw [hcount] at hparted
  exact hparted.not_before

theorem gallop_before (order : WeakOrder before) (h : InOrder (side.sees before) items) (x : α)
    (hcount : (gallop side (fun item => side.comesBefore item x) items).answeredBy before =
      count) :
    (∀ y ∈ items.take count, side.sees before y x = true) ∧
      ∀ y ∈ items.drop count, side.sees before y x = false := by
  have hparted := parted_gallop side (pairwise_before side order h x)
  rw [hcount] at hparted
  refine ⟨fun y hy => ?_, fun y hy => ?_⟩
  · rw [← End.answeredBy_comesBefore]
    exact hparted.front_stays y hy
  · rw [← End.answeredBy_comesBefore]
    exact hparted.back_goes y hy

end Collate.Ordering
