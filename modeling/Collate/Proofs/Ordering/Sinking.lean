import Mathlib.Data.List.Chain
import Collate.Proofs.Ordering.Run

/-!
# Items that sink

Some items may sink: every other item comes before them, and they come before none of the
others.  How the items that sink compare with each other, and the others with each other,
is left open; these answers need not fit together at all.

A list of fewer than 64 items is sorted as a single run, and that puts the items that sink
behind all others (`sunk_sort`), although no other order of its result can be told.

## Strategy

The run at the start of a list changes only once between the two kinds, because no item that
sinks comes before one that does not.  A search for the place of another item is led astray
by arbitrary answers, but never past the border between the kinds
(`le_answeredBy_bisect`, `answeredBy_bisect_le`).
-/

namespace Collate.Ordering

variable {α : Type} {sinks : α → Bool} {before : α → α → Bool} {items run : List α}

/-- Every item that does not sink comes before every item that does, and not after it. -/
structure Sinking (sinks : α → Bool) (before : α → α → Bool) : Prop where
  before_of {x y : α} : sinks x = false → sinks y = true → before x y = true
  not_before_of {x y : α} : sinks x = true → sinks y = false → before x y = false

/-- No item that sinks stands in front of one that does not. -/
def Sunk (sinks : α → Bool) (items : List α) : Prop :=
  items.Pairwise fun x y => sinks x = true → sinks y = true

/-- Such a list has a border between the two kinds. -/
theorem Sunk.exists_border (h : Sunk sinks items) :
    ∃ front back, items = front ++ back ∧ (∀ x ∈ front, sinks x = false) ∧
      ∀ x ∈ back, sinks x = true := by
  induction items with
  | nil => exact ⟨[], [], rfl, by simp, by simp⟩
  | cons first rest ih =>
      obtain ⟨hfirst, hrest⟩ := List.pairwise_cons.mp h
      cases hsinks : sinks first with
      | true =>
          refine ⟨[], first :: rest, rfl, by simp, ?_⟩
          rw [List.forall_mem_cons]
          exact ⟨hsinks, fun x hx => hfirst x hx hsinks⟩
      | false =>
          obtain ⟨front, back, rfl, hfront, hback⟩ := ih hrest
          refine ⟨first :: front, back, rfl, ?_, hback⟩
          rw [List.forall_mem_cons]
          exact ⟨hsinks, hfront⟩

/-! ## The run at the start -/

theorem Sinking.sinks_of_before (h : Sinking sinks before) {x y : α}
    (hbefore : before y x = true) (hy : sinks y = true) : sinks x = true := by
  by_contra hx
  rw [h.not_before_of hy (Bool.eq_false_iff.mpr hx)] at hbefore
  cases hbefore

theorem Sinking.sinks_of_not_before (h : Sinking sinks before) {x y : α}
    (hbefore : before y x = false) (hx : sinks x = true) : sinks y = true := by
  by_contra hy
  rw [h.before_of (Bool.eq_false_iff.mpr hy) hx] at hbefore
  cases hbefore

theorem sunk_of_isChain (h : items.IsChain fun x y => sinks x = true → sinks y = true) :
    Sunk sinks items := by
  have : Trans (fun x y => sinks x = true → sinks y = true)
      (fun x y => sinks x = true → sinks y = true)
      fun x y => sinks x = true → sinks y = true := ⟨fun hxy hyz hx => hyz (hxy hx)⟩
  exact h.pairwise

/-- The run at the start of a list, turned around if it descends, has its border. -/
theorem sunk_firstRun (h : Sinking sinks before) (first : α) (rest : List α) {count : Nat}
    {descending : Bool} (hrun : (firstRun first rest).answeredBy before = (count, descending)) :
    Sunk sinks (if descending then (first :: rest.take count).reverse
      else first :: rest.take count) := by
  have hchain := isChain_firstRun first rest hrun
  cases descending with
  | true =>
      have hback : (first :: rest.take count).reverse.IsChain fun x y =>
          sinks x = true → sinks y = true := by
        rw [List.isChain_reverse]
        exact hchain.imp fun x y hyx => h.sinks_of_before hyx
      exact sunk_of_isChain hback
  | false => exact sunk_of_isChain (hchain.imp fun x y hyx => h.sinks_of_not_before hyx)

/-! ## Insertion -/

theorem sunk_insertBehind (h : Sunk sinks run) {item : α} {count : Nat}
    (hfront : ∀ x ∈ run.take count, sinks x = true → sinks item = true)
    (hback : ∀ x ∈ run.drop count, sinks item = true → sinks x = true) :
    Sunk sinks (insertBehind item count run) := by
  rw [← List.take_append_drop count run] at h
  obtain ⟨htake, hdrop, hacross⟩ := List.pairwise_append.mp h
  refine List.pairwise_append.mpr ⟨htake, List.pairwise_cons.mpr ⟨hback, hdrop⟩, ?_⟩
  intro x hx y hy
  rcases List.mem_cons.mp hy with rfl | hy
  · exact hfront x hx
  · exact hacross x hx y hy

/-- The place that is found for an item is on its side of the border, whatever the answers
about items of its own kind are. -/
theorem sunk_insertBehind_bisect (h : Sinking sinks before) (hrun : Sunk sinks run) (item : α)
    {count : Nat}
    (hcount : (bisect .front (fun other => (Inquiry.comesBefore item other).map not) run 0
      run.length).answeredBy before = count) :
    Sunk sinks (insertBehind item count run) := by
  obtain ⟨front, back, rfl, hfront, hback⟩ := hrun.exists_border
  cases hitem : sinks item with
  | true =>
      -- an item that sinks is placed behind the border
      have hle : front.length ≤ count := by
        rw [← hcount]
        refine le_answeredBy_bisect .front ?_ (by simp) (by simp)
        intro other hother
        rw [Inquiry.answeredBy_map]
        exact congrArg not (h.not_before_of hitem (hfront other hother))
      refine sunk_insertBehind hrun (fun _ _ _ => hitem) fun x hx _ => ?_
      rw [List.drop_append, List.drop_eq_nil_of_le hle, List.nil_append] at hx
      exact hback x (List.mem_of_mem_drop hx)
  | false =>
      -- any other one is placed in front of it
      have hle : count ≤ front.length := by
        rw [← hcount]
        refine answeredBy_bisect_le .front ?_ (Nat.zero_le _)
        intro other hother
        rw [Inquiry.answeredBy_map]
        exact congrArg not (h.before_of hitem (hback other hother))
      refine sunk_insertBehind hrun (fun x hx hsinks => ?_) fun _ _ hsinks => ?_
      · rw [List.take_append_of_le_length hle] at hx
        rw [hfront x (List.mem_of_mem_take hx)] at hsinks
        cases hsinks
      · rw [hitem] at hsinks
        cases hsinks

theorem sunk_insertAll (h : Sinking sinks before) (hrun : Sunk sinks run) (items : List α) :
    Sunk sinks ((insertAll run items).answeredBy before) := by
  induction items generalizing run with
  | nil => exact hrun
  | cons item rest ih =>
      unfold insertAll
      rw [Inquiry.answeredBy_bind]
      exact ih (sunk_insertBehind_bisect h hrun item rfl)

/-! ## A list that is one run -/

theorem sunk_takeRun (h : Sinking sinks before) (least : Nat) (first : α) (rest : List α) :
    Sunk sinks ((takeRun least first rest).answeredBy before).1 := by
  unfold takeRun
  rw [Inquiry.answeredBy_bind]
  cases hfound : (firstRun first rest).answeredBy before with
  | mk count descending =>
    have hrun := sunk_firstRun h first rest hfound
    dsimp only
    split
    · rw [Inquiry.answeredBy_map]
      exact sunk_insertAll h hrun _
    · exact hrun

/-- A run that has to be as long as the list takes all of it. -/
theorem length_le_takeRun (first : α) (rest : List α) :
    rest.length ≤ ((takeRun (rest.length + 1) first rest).answeredBy before).2 := by
  unfold takeRun
  rw [Inquiry.answeredBy_bind]
  cases (firstRun first rest).answeredBy before with
  | mk count descending =>
    dsimp only
    rw [Nat.add_sub_cancel, Nat.min_self]
    split
    · simp
    · next hcount => exact Nat.le_of_not_lt hcount

/-- A list of fewer than 64 items is sorted as a single run. -/
theorem answeredBy_sort_of_length_lt {first : α} {rest : List α}
    (hlength : (first :: rest).length < 64) :
    (sort (first :: rest)).answeredBy before =
      ((takeRun (rest.length + 1) first rest).answeredBy before).1 := by
  have hleast : leastRun (first :: rest).length = rest.length + 1 := by
    unfold leastRun
    rw [dif_neg (Nat.not_le_of_lt hlength), List.length_cons]
  have hall : rest.length ≤ ((takeRun (rest.length + 1) first rest).answeredBy before).2 :=
    length_le_takeRun first rest
  unfold sort
  rw [hleast, sortOnto, Inquiry.answeredBy_bind]
  cases htaken : (takeRun (rest.length + 1) first rest).answeredBy before with
  | mk run count =>
    rw [htaken] at hall
    dsimp only
    rw [Inquiry.answeredBy_bind]
    simp only [addRun, Inquiry.answeredBy_done]
    rw [List.drop_eq_nil_of_le hall, sortOnto, mergeAll, Inquiry.answeredBy_done]

/-- **A list of fewer than 64 items is sorted with the items that sink behind all others**,
whatever the answers within either kind are. -/
theorem sunk_sort (h : Sinking sinks before) {items : List α} (hlength : items.length < 64) :
    Sunk sinks ((sort items).answeredBy before) := by
  cases items with
  | nil =>
      unfold sort
      rw [sortOnto, mergeAll]
      exact List.Pairwise.nil
  | cons first rest =>
      rw [answeredBy_sort_of_length_lt hlength]
      exact sunk_takeRun h _ first rest

end Collate.Ordering
