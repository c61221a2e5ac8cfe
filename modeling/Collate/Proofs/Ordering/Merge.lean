import Collate.Proofs.Ordering.Permutation
import Collate.Proofs.Ordering.Search

/-!
# Merging is stable

A merge of two lists in order is a stable arrangement of the one followed by the other,
seen from either end (`sorts_mergeByItems`, `sorts_mergeByGallop`).

## Strategy

The invariant of a merge is `Mergeable`: both lists are in order, and everything in the
second comes before the last item of the first.  A turn of the merge takes a streak of
one list and the item of the other that ended it.  `Mergeable.sorts_keptTurn` and
`Mergeable.sorts_otherTurn` say what a turn does for streaks of any length; a merge item by
item has turns with streaks of no length.
-/

namespace Collate.Ordering

variable {α : Type} {before seen : α → α → Bool} {kept other : List α}

/-! ## The invariant -/

/-- Two lists in order, everything in the second before the last item of the first. -/
structure Mergeable (seen : α → α → Bool) (kept other : List α) : Prop where
  kept_inOrder : InOrder seen kept
  other_inOrder : InOrder seen other
  last : ∃ last ∈ kept.getLast?, ∀ y ∈ other, seen y last = true

namespace Mergeable

theorem drop_other (h : Mergeable seen kept other) (count : Nat) :
    Mergeable seen kept (other.drop count) := by
  obtain ⟨last, hlast, hother⟩ := h.last
  refine ⟨h.kept_inOrder, h.other_inOrder.sublist (List.drop_sublist count other), last, hlast, ?_⟩
  intro y hy
  exact hother y (List.mem_of_mem_drop hy)

theorem drop_kept (h : Mergeable seen kept other) (count : Nat) (hcount : kept.drop count ≠ []) :
    Mergeable seen (kept.drop count) other := by
  obtain ⟨last, hlast, hother⟩ := h.last
  rw [← List.take_append_drop count kept, List.getLast?_append_of_ne_nil _ hcount] at hlast
  exact ⟨h.kept_inOrder.sublist (List.drop_sublist count kept), h.other_inOrder, last, hlast,
    hother⟩

/-- The first list outlives any streak of items that something in the other does not come
before. -/
theorem drop_ne_nil {y : α} {count : Nat} (h : Mergeable seen kept other) (hy : y ∈ other)
    (hfront : ∀ x ∈ kept.take count, seen y x = false) : kept.drop count ≠ [] := by
  intro hnil
  obtain ⟨last, hlast, hother⟩ := h.last
  have htake := List.take_append_drop count kept
  rw [hnil, List.append_nil] at htake
  have hnot := hfront last (htake.symm ▸ List.mem_of_getLast? hlast)
  rw [hother y hy] at hnot
  cases hnot

/-- What is left when nothing is left to ask is in order. -/
theorem sorts_finished? {left : List α} (order : WeakOrder seen) (h : Mergeable seen kept other)
    (hleft : finished? kept other = some left) : Sorts seen (kept ++ other) left := by
  obtain ⟨last, hlast, hother⟩ := h.last
  cases kept with
  | nil => cases hlast
  | cons x rest =>
      cases other with
      | nil =>
          cases hleft
          rw [List.append_nil]
          exact .refl h.kept_inOrder
      | cons y others =>
          cases rest with
          | cons x' rest => cases hleft
          | nil =>
              cases hleft
              cases hlast
              -- a single item is left of the first list, and it is the one behind all of the second
              have hleads : Leads seen (y :: others) [x] := by
                intro z hz w hw
                rw [List.mem_singleton.mp hw]
                exact hother z hz
              have hnone : Precedes seen (y :: others) [] := by
                intro z _ w hw
                cases hw
              have hsorts := Sorts.append_of_leads order h.other_inOrder hleads hnone
                (.refl (inOrder_singleton x))
              rwa [List.append_nil] at hsorts

end Mergeable

/-! ## One turn -/

/-- What comes before the first item of a list in order comes before all of them. -/
theorem before_of_before_head {x y : α} (order : WeakOrder seen)
    (hkept : InOrder seen (x :: kept)) (hyx : seen y x = true) :
    ∀ z ∈ x :: kept, seen y z = true := by
  rw [inOrder_cons] at hkept
  intro z hz
  rcases List.mem_cons.mp hz with rfl | hz
  · exact hyx
  · exact order.before_of_before_of_not hyx (hkept.1 z hz)

/-- What the first item of a list in order does not come before, none of them does. -/
theorem not_before_of_head {x y : α} (order : WeakOrder seen)
    (hother : InOrder seen (y :: other)) (hyx : seen y x = false) :
    ∀ z ∈ y :: other, seen z x = false := by
  rw [inOrder_cons] at hother
  intro z hz
  rcases List.mem_cons.mp hz with rfl | hz
  · exact hyx
  · exact order.not_before_trans hyx (hother.1 z hz)

namespace Mergeable

variable {result : List α}

/-- A streak of the first list, and the item of the second that comes before the rest of
the first. -/
theorem sorts_keptTurn {y : α} (order : WeakOrder seen) (h : Mergeable seen kept (y :: other))
    (count : Nat) (hfront : ∀ x ∈ kept.take count, seen y x = false)
    (hback : ∀ x ∈ kept.drop count, seen y x = true)
    (hrest : Sorts seen (kept.drop count ++ other) result) :
    Sorts seen (kept ++ y :: other) (kept.take count ++ y :: result) := by
  have hkept := h.kept_inOrder
  rw [← List.take_append_drop count kept] at hkept
  obtain ⟨hfrontOrder, -, hfrontBack⟩ := inOrder_append.mp hkept
  have hleads : Leads seen [y] (kept.drop count) := by
    intro z hz x hx
    rw [List.mem_singleton.mp hz]
    exact hback x hx
  have hprecedes : Precedes seen [y] other := by
    intro z hz x hx
    rw [List.mem_singleton.mp hz]
    exact (inOrder_cons.mp h.other_inOrder).1 x hx
  have htail : Sorts seen (kept.drop count ++ y :: other) (y :: result) :=
    .append_of_leads order (inOrder_singleton y) hleads hprecedes hrest
  -- the streak stays in front: neither the rest of its own list nor `y`, nor anything
  -- behind `y`, comes before an item of it
  have hall : Sorts seen (kept.take count ++ (kept.drop count ++ y :: other))
      (kept.take count ++ y :: result) := by
    refine .append order (.refl hfrontOrder) htail ?_
    intro x hx z hz
    rcases List.mem_append.mp hz with hz | hz
    · exact hfrontBack x hx z hz
    · exact not_before_of_head order h.other_inOrder (hfront x hx) z hz
  rwa [← List.append_assoc, List.take_append_drop] at hall

/-- A streak of the second list, and the first item of the first, which the rest of the
second does not come before. -/
theorem sorts_otherTurn {x : α} (order : WeakOrder seen) (h : Mergeable seen (x :: kept) other)
    (count : Nat) (hfront : ∀ y ∈ other.take count, seen y x = true)
    (hback : ∀ y ∈ other.drop count, seen y x = false)
    (hrest : Sorts seen (kept ++ other.drop count) result) :
    Sorts seen (x :: kept ++ other) (other.take count ++ x :: result) := by
  have hother := h.other_inOrder
  rw [← List.take_append_drop count other] at hother
  obtain ⟨hfrontOrder, -, hfrontBack⟩ := inOrder_append.mp hother
  have hprecedes : Precedes seen [x] (kept ++ other.drop count) := by
    intro z hz y hy
    rw [List.mem_singleton.mp hz]
    rcases List.mem_append.mp hy with hy | hy
    · exact (inOrder_cons.mp h.kept_inOrder).1 y hy
    · exact hback y hy
  have htail : Sorts seen (x :: kept ++ other.drop count) (x :: result) :=
    .append order (.refl (inOrder_singleton x)) hrest hprecedes
  -- the streak comes before all of the first list, so it moves to the front
  have hall : Sorts seen (x :: kept ++ (other.take count ++ other.drop count))
      (other.take count ++ x :: result) := by
    refine .append_of_leads order hfrontOrder ?_ hfrontBack htail
    intro y hy
    exact before_of_before_head order h.kept_inOrder (hfront y hy)
  rwa [List.take_append_drop] at hall

end Mergeable

/-! ## Merging -/

/-- Merging fewer items than that is stable, whichever way it begins. -/
def MergesFewer (side : End) (before : α → α → Bool) (total : Nat) : Prop :=
  ∀ kept other : List α, kept.length + other.length < total →
    Mergeable (side.sees before) kept other →
    (∀ patience keptStreak otherStreak, Sorts (side.sees before) (kept ++ other)
      ((mergeByItems side patience keptStreak otherStreak kept other).answeredBy before).items) ∧
    ∀ patience turn round, Sorts (side.sees before) (kept ++ other)
      ((mergeByGallop side patience turn round kept other).answeredBy before).items

theorem items_behind (taken : List α) (inquiry : Inquiry α (Merged α)) :
    ((inquiry.map (Merged.behind taken)).answeredBy before).items =
      taken ++ (inquiry.answeredBy before).items := by
  rw [Inquiry.answeredBy_map]
  rfl

theorem sorts_getD_finished? (order : WeakOrder seen) (h : Mergeable seen kept other)
    (hnone : ∀ x x' rest y others, kept = x :: x' :: rest → other = y :: others → False) :
    Sorts seen (kept ++ other) ((finished? kept other).getD (kept ++ other)) := by
  cases hleft : finished? kept other with
  | some left => exact h.sorts_finished? order hleft
  | none =>
      unfold finished? at hleft
      split at hleft
      · cases hleft
      · cases hleft
      · cases hleft
      · exact (hnone _ _ _ _ _ rfl rfl).elim

theorem sorts_mergeByItems_of_fewer (side : End) (order : WeakOrder before)
    (h : Mergeable (side.sees before) kept other)
    (hfewer : MergesFewer side before (kept.length + other.length))
    (patience keptStreak otherStreak : Nat) :
    Sorts (side.sees before) (kept ++ other)
      ((mergeByItems side patience keptStreak otherStreak kept other).answeredBy before).items := by
  have order' := order.sees side
  rw [mergeByItems.eq_def]
  split
  · next x x' rest y others =>
    rw [Inquiry.answeredBy_bind, End.answeredBy_comesBefore]
    -- a merge item by item has turns with streaks of no length
    have hnone : ∀ list : List α, ∀ z ∈ list.take 0, False := by simp
    cases hanswer : side.sees before y x with
    | true =>
        have hturn : ∀ result, Sorts (side.sees before) (x :: x' :: rest ++ others) result →
            Sorts (side.sees before) (x :: x' :: rest ++ y :: others) (y :: result) := fun _ =>
          h.sorts_keptTurn order' 0 (fun z hz => (hnone _ z hz).elim)
            (before_of_before_head order' h.kept_inOrder hanswer)
        have hsmaller : Mergeable (side.sees before) (x :: x' :: rest) others := h.drop_other 1
        rw [if_pos rfl]
        split
        · next left hleft => exact hturn left (hsmaller.sorts_finished? order' hleft)
        · obtain ⟨hitems, hgallop⟩ := hfewer _ _ (by simp) hsmaller
          rw [items_behind]
          split
          · exact hturn _ (hgallop _ _ _)
          · exact hturn _ (hitems _ _ _)
    | false =>
        have hturn : ∀ result, Sorts (side.sees before) (x' :: rest ++ y :: others) result →
            Sorts (side.sees before) (x :: x' :: rest ++ y :: others) (x :: result) := fun _ =>
          h.sorts_otherTurn order' 0 (fun z hz => (hnone _ z hz).elim)
            (not_before_of_head order' h.other_inOrder hanswer)
        have hsmaller : Mergeable (side.sees before) (x' :: rest) (y :: others) :=
          h.drop_kept 1 (List.cons_ne_nil x' rest)
        rw [if_neg Bool.false_ne_true]
        split
        · next left hleft => exact hturn left (hsmaller.sorts_finished? order' hleft)
        · obtain ⟨hitems, hgallop⟩ := hfewer _ _ (by simp) hsmaller
          rw [items_behind]
          split
          · exact hturn _ (hgallop _ _ _)
          · exact hturn _ (hitems _ _ _)
  · exact sorts_getD_finished? order' h (by assumption)

theorem sorts_goOn {side : End} {total : Nat} (hfewer : MergesFewer side before total)
    (h : Mergeable (side.sees before) kept other) (hlength : kept.length + other.length < total)
    (patience : Nat) (turn : Turn) (round : Round) (streak : Bool) :
    Sorts (side.sees before) (kept ++ other)
      ((goOn side patience turn round streak kept other total hlength).answeredBy before).items := by
  obtain ⟨hitems, hgallop⟩ := hfewer kept other hlength h
  -- whichever way it goes on, there are fewer items now
  rcases goOn_cases side patience turn round streak kept other total hlength with
    ⟨patience', turn', round', hgoOn⟩ | ⟨patience', hgoOn⟩
  · rw [hgoOn]
    exact hgallop patience' turn' round'
  · rw [hgoOn]
    exact hitems patience' 0 0

theorem sorts_mergeByGallop_of_fewer (side : End) (order : WeakOrder before)
    (h : Mergeable (side.sees before) kept other)
    (hfewer : MergesFewer side before (kept.length + other.length))
    (patience : Nat) (turn : Turn) (round : Round) :
    Sorts (side.sees before) (kept ++ other)
      ((mergeByGallop side patience turn round kept other).answeredBy before).items := by
  have order' := order.sees side
  rw [mergeByGallop.eq_def]
  split
  · next x x' rest y others =>
    cases turn with
    | kept =>
        dsimp only
        rw [Inquiry.answeredBy_bind]
        -- how the streak was found does not matter, only where it ends
        generalize hcount : (gallop side (fun item => (side.comesBefore y item).map not)
          (x :: x' :: rest)).answeredBy before = count
        obtain ⟨hfront, hback⟩ := gallop_not_before side order h.kept_inOrder y hcount
        have hsmaller : Mergeable (side.sees before) ((x :: x' :: rest).drop count) others :=
          (h.drop_kept count (h.drop_ne_nil (List.mem_cons_self ..) hfront)).drop_other 1
        have hturn : ∀ result, Sorts (side.sees before) ((x :: x' :: rest).drop count ++ others)
            result → Sorts (side.sees before) (x :: x' :: rest ++ y :: others)
              ((x :: x' :: rest).take count ++ y :: result) := fun _ =>
          h.sorts_keptTurn order' count hfront hback
        split
        · next left hleft => exact hturn left (hsmaller.sorts_finished? order' hleft)
        · rw [items_behind, List.append_assoc]
          exact hturn _ (sorts_goOn hfewer hsmaller _ _ _ _ _)
    | other =>
        dsimp only
        rw [Inquiry.answeredBy_bind]
        -- the same for a streak of the second list, which comes before `x`
        generalize hcount : (gallop side (fun item => side.comesBefore item x)
          (y :: others)).answeredBy before = count
        obtain ⟨hfront, hback⟩ := gallop_before side order h.other_inOrder x hcount
        have hsmaller : Mergeable (side.sees before) (x' :: rest) ((y :: others).drop count) :=
          (h.drop_kept 1 (List.cons_ne_nil x' rest)).drop_other count
        have hturn : ∀ result, Sorts (side.sees before) (x' :: rest ++ (y :: others).drop count)
            result → Sorts (side.sees before) (x :: x' :: rest ++ y :: others)
              ((y :: others).take count ++ x :: result) := fun _ =>
          h.sorts_otherTurn order' count hfront hback
        split
        · next left hleft => exact hturn left (hsmaller.sorts_finished? order' hleft)
        · rw [items_behind, List.append_assoc]
          exact hturn _ (sorts_goOn hfewer hsmaller _ _ _ _ _)
  · exact sorts_getD_finished? order' h (by assumption)

theorem mergesFewer (side : End) (order : WeakOrder before) (total : Nat) :
    MergesFewer side before total := by
  induction total with
  | zero =>
      intro kept other hlength
      exact absurd hlength (Nat.not_lt_zero _)
  | succ total ih =>
      intro kept other hlength h
      -- both ways of merging hand over to each other, so they are treated at once
      have hfewer : MergesFewer side before (kept.length + other.length) := by
        intro kept' other' hlength' h'
        exact ih kept' other' (by omega) h'
      exact ⟨sorts_mergeByItems_of_fewer side order h hfewer,
        sorts_mergeByGallop_of_fewer side order h hfewer⟩

/-- Merging item by item is stable. -/
theorem sorts_mergeByItems (side : End) (order : WeakOrder before)
    (h : Mergeable (side.sees before) kept other) (patience keptStreak otherStreak : Nat) :
    Sorts (side.sees before) (kept ++ other)
      ((mergeByItems side patience keptStreak otherStreak kept other).answeredBy before).items :=
  (mergesFewer side order _ kept other (Nat.lt_succ_self _) h).1 patience keptStreak otherStreak

end Collate.Ordering
