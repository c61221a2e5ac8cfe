import Collate.Proofs.Ordering.Permutation
import Collate.Proofs.Ordering.Search
import Collate.Proofs.Ordering.Stable

/-!
# Runs are stable arrangements

The run that is taken from a list is a stable arrangement of the items that it takes
(`sorts_takeRun`).  A run that descends may be turned around, because it descends
strictly: no two of its items tie.  An item that is inserted goes behind all items that it
does not come before, so behind those that it ties with.
-/

namespace Collate.Ordering

variable {α : Type} {before : α → α → Bool} {items run : List α}

/-! ## The run at the start -/

theorem isChain_continuing (descending : Bool) (previous : α) (items : List α) :
    (previous :: items.take ((continuing descending previous items).answeredBy before)).IsChain
      fun x y => before y x = descending := by
  induction items generalizing previous with
  | nil => exact .singleton previous
  | cons item rest ih =>
      unfold continuing
      rw [Inquiry.answeredBy_bind]
      by_cases hanswer : before item previous = descending
      · have htrue : (Inquiry.comesBefore item previous).answeredBy before = descending := hanswer
        rw [if_pos htrue, Inquiry.answeredBy_map, List.take_succ_cons]
        exact .cons_cons hanswer (ih item)
      · have hfalse : ¬ (Inquiry.comesBefore item previous).answeredBy before = descending :=
          hanswer
        rw [if_neg hfalse]
        exact .singleton previous

/-- The run at the start of a list descends strictly or is in order. -/
theorem isChain_firstRun (first : α) (items : List α) {count : Nat} {descending : Bool}
    (h : (firstRun first items).answeredBy before = (count, descending)) :
    (first :: items.take count).IsChain fun x y => before y x = descending := by
  cases items with
  | nil =>
      rw [List.take_nil]
      exact .singleton first
  | cons second rest =>
      unfold firstRun at h
      rw [Inquiry.answeredBy_bind, Inquiry.answeredBy_map] at h
      cases h
      exact .cons_cons rfl (isChain_continuing _ second rest)

theorem inOrder_of_isChain (order : WeakOrder before)
    (h : items.IsChain fun x y => before y x = false) : InOrder before items := by
  have : Trans (fun x y => before y x = false) (fun x y => before y x = false)
      fun x y => before y x = false := ⟨fun hxy hyz => order.not_before_trans hxy hyz⟩
  exact h.pairwise

theorem sameClasses_reverse (order : WeakOrder before)
    (h : items.Pairwise fun x y => before y x = true) :
    SameClasses before items items.reverse := by
  induction items with
  | nil => exact .refl []
  | cons first rest ih =>
      rw [List.pairwise_cons] at h
      have hleads : Leads before rest.reverse [first] := by
        intro x hx y hy
        rw [List.mem_singleton.mp hy]
        exact h.1 x (List.mem_reverse.mp hx)
      have hrest : SameClasses before ([first] ++ rest) ([first] ++ rest.reverse) :=
        .append (.refl [first]) (ih h.2)
      rw [List.reverse_cons]
      exact hrest.trans (hleads.sameClasses_comm order)

/-- A list that descends strictly is in order when it is turned around, and no item changes
places with one that it ties with. -/
theorem sorts_reverse_of_isChain (order : WeakOrder before)
    (h : items.IsChain fun x y => before y x = true) : Sorts before items items.reverse := by
  have : Trans (fun x y => before y x = true) (fun x y => before y x = true)
      fun x y => before y x = true := ⟨fun hxy hyz => order.trans hyz hxy⟩
  -- neighbours descend, and then so do any two
  have hdescends : items.Pairwise fun x y => before y x = true := h.pairwise
  refine ⟨inOrder_reverse.mpr (hdescends.imp ?_), sameClasses_reverse order hdescends⟩
  intro x y hyx
  exact order.asymm hyx

/-! ## Insertion -/

theorem sorts_insertBehind (order : WeakOrder before) (hrun : InOrder before run) {item : α}
    {count : Nat} (hfront : ∀ x ∈ run.take count, before item x = false)
    (hback : ∀ x ∈ run.drop count, before item x = true) :
    Sorts before (run ++ [item]) (insertBehind item count run) := by
  rw [← List.take_append_drop count run] at hrun
  obtain ⟨htake, hdrop, hprecedes⟩ := inOrder_append.mp hrun
  have hleads : Leads before [item] (run.drop count) := by
    intro y hy x hx
    rw [List.mem_singleton.mp hy]
    exact hback x hx
  -- the item goes in front of all it comes before, and ties with none of them
  have htail : Sorts before (run.drop count ++ [item]) (item :: run.drop count) :=
    ⟨inOrder_cons.mpr ⟨fun x hx => order.asymm (hback x hx), hdrop⟩,
      hleads.sameClasses_comm order⟩
  have hall : Sorts before (run.take count ++ (run.drop count ++ [item]))
      (insertBehind item count run) := by
    refine .append order (.refl htake) htail ?_
    intro x hx y hy
    rcases List.mem_append.mp hy with hy | hy
    · exact hprecedes x hx y hy
    · rw [List.mem_singleton.mp hy]
      exact hfront x hx
  rwa [← List.append_assoc, List.take_append_drop] at hall

theorem sorts_insertAll (order : WeakOrder before) (hrun : InOrder before run)
    (items : List α) :
    Sorts before (run ++ items) ((insertAll run items).answeredBy before) := by
  induction items generalizing run with
  | nil =>
      rw [List.append_nil]
      exact .refl hrun
  | cons item rest ih =>
      unfold insertAll
      rw [Inquiry.answeredBy_bind]
      generalize hcount : (bisect .front (fun other => (Inquiry.comesBefore item other).map not)
        run 0 run.length).answeredBy before = count
      obtain ⟨hfront, hback⟩ := bisect_not_before .front order hrun item hcount
      have hinsert := sorts_insertBehind order hrun hfront hback
      have hrest := hinsert.of_append (ih hinsert.inOrder)
      rwa [List.append_assoc] at hrest

/-! ## Taking a run -/

/-- A run is a stable arrangement of the items that it takes. -/
theorem sorts_takeRun (order : WeakOrder before) (least : Nat) (first : α) (rest : List α)
    {count : Nat} (h : (takeRun least first rest).answeredBy before = (run, count)) :
    Sorts before (first :: rest.take count) run := by
  unfold takeRun at h
  rw [Inquiry.answeredBy_bind] at h
  cases hfound : (firstRun first rest).answeredBy before with
  | mk found descending =>
    rw [hfound] at h
    have hchain := isChain_firstRun first rest hfound
    have hrun : Sorts before (first :: rest.take found)
        (if descending then (first :: rest.take found).reverse else first :: rest.take found) := by
      cases descending with
      | true => exact sorts_reverse_of_isChain order hchain
      | false => exact .refl (inOrder_of_isChain order hchain)
    dsimp only at h
    -- a run that is too short takes up more items, by insertion
    split at h
    · next hshort =>
      rw [Inquiry.answeredBy_map] at h
      cases h
      have hinsert := hrun.of_append (sorts_insertAll order hrun.inOrder
        ((rest.take (min (least - 1) rest.length)).drop found))
      rwa [List.cons_append, take_append_drop_take (Nat.le_of_lt hshort)] at hinsert
    · cases h
      exact hrun

end Collate.Ordering
