import Collate.Proofs.Comparison.Verdict

/-!
# Sorting by several comparisons

Sorting by one comparison and, where it ties, by another one is the same as sorting by the
other one first and by the one after that (`sortBy_thenBy`): the second sort is stable, so it
keeps what the first one did wherever it has nothing to say itself.  So sorting by a list of
rules is sorting by each rule alone, the last one first (`sortBy_verdict_cons`).

Turning a comparison around turns its order around, if the items come in reverse
(`sortBy_reverse`).  Reversing all rules is turning the verdict around, as long as no value is
missing (`verdict_not`).
-/

namespace Collate

open scoped List

variable {α : Type} {among : α → Prop} {items : List α} {compare first second : α → α → Int}

/-! ## One comparison after another -/

theorem Ranking.self_eq_zero (h : Ranking among compare) {x : α} (hx : among x) :
    compare x x = 0 := by
  have hswap := h.swap hx hx
  omega

theorem decide_thenBy_eq_zero (x y : α) :
    decide (thenBy first second x y = 0) = (decide (second x y = 0) && decide (first x y = 0)) := by
  rw [Bool.eq_iff_iff, Bool.and_eq_true, decide_eq_true_eq, decide_eq_true_eq, decide_eq_true_eq,
    thenBy]
  split <;> omega

/-- A stable order by the first comparison of items in the order of the second one is in the
order of both. -/
theorem pairwise_thenBy {result sorted : List α} (hfirst : Ranking (· ∈ result) first)
    (hresult : result.Pairwise fun x y => first x y ≤ 0)
    (hsorted : sorted.Pairwise fun x y => second x y ≤ 0)
    (hstable : ∀ x ∈ result, result.filter (fun y => decide (first x y = 0)) =
      sorted.filter fun y => decide (first x y = 0)) :
    result.Pairwise fun x y => thenBy first second x y ≤ 0 := by
  rw [List.pairwise_iff_forall_sublist]
  intro x y hxy
  have hx : x ∈ result := hxy.subset (List.mem_cons_self ..)
  rw [thenBy]
  split
  · next htie =>
    -- tied items are in the same order in both lists
    have hclass : [x, y].filter (fun z => decide (first x z = 0)) = [x, y] := by
      simp [hfirst.self_eq_zero hx, htie]
    have hkept : [x, y].Sublist sorted := by
      calc [x, y] = [x, y].filter (fun z => decide (first x z = 0)) := hclass.symm
        _ <+ result.filter (fun z => decide (first x z = 0)) := hxy.filter _
        _ = sorted.filter (fun z => decide (first x z = 0)) := hstable x hx
        _ <+ sorted := List.filter_sublist
    exact hsorted.forall_sublist hkept
  · exact hresult.forall_sublist hxy

/-- **Sorting by two comparisons is sorting by the second one, and then by the first.** -/
theorem sortBy_thenBy (hfirst : Ranking (· ∈ items) first) (hsecond : Ranking (· ∈ items) second) :
    sortBy (thenBy first second) items = sortBy first (sortBy second items) := by
  obtain ⟨hperm, hordered, hstable⟩ := sort_of_ranking hsecond
  have hfirst' := hfirst.of_perm hperm
  obtain ⟨hperm', hordered', hstable'⟩ := sort_of_ranking hfirst'
  apply sortBy_eq_of_stable (hfirst.thenBy hsecond) (hperm'.trans hperm)
  · apply pairwise_thenBy (hfirst'.of_perm hperm') hordered' hordered
    intro x hx
    exact hstable' x (hperm'.mem_iff.mp hx)
  · intro x hx
    have hboth : ∀ list : List α, list.filter (fun y => decide (thenBy first second x y = 0)) =
        (list.filter fun y => decide (first x y = 0)).filter fun y => decide (second x y = 0) := by
      intro list
      rw [List.filter_filter]
      exact List.filter_congr fun y _ => decide_thenBy_eq_zero x y
    have hswap : ∀ list : List α,
        (list.filter fun y => decide (first x y = 0)).filter (fun y => decide (second x y = 0)) =
          (list.filter fun y => decide (second x y = 0)).filter fun y => decide (first x y = 0) :=
      fun list => List.filter_comm ..
    rw [hboth, hboth, hstable' x (hperm.mem_iff.mpr hx), hswap, hstable x hx, hswap]

/-! ## From the other end -/

theorem Ranking.flip (h : Ranking among compare) : Ranking among fun x y => compare y x where
  swap hx hy := h.swap hy hx
  trans hx hy hz hyx hzy := h.trans hz hy hx hzy hyx

/-- **Sorting in reverse, by the comparison turned around, reverses the order.** -/
theorem sortBy_reverse (h : Ranking (· ∈ items) compare) :
    sortBy (fun x y => compare y x) items.reverse = (sortBy compare items).reverse := by
  obtain ⟨hperm, hordered, hstable⟩ := sort_of_ranking h
  have hreversed : Ranking (· ∈ items.reverse) fun x y => compare y x :=
    h.flip.of_perm (List.reverse_perm items)
  apply sortBy_eq_of_stable hreversed
  · exact (List.reverse_perm _).trans (hperm.trans (List.reverse_perm items).symm)
  · exact List.pairwise_reverse.mpr hordered
  · intro x hx
    rw [List.mem_reverse] at hx
    have hclass : ∀ y ∈ items, decide (compare y x = 0) = decide (compare x y = 0) := by
      intro y hy
      rw [h.swap hx hy, decide_eq_decide]
      omega
    rw [List.filter_reverse, List.filter_reverse, List.filter_congr hclass,
      List.filter_congr fun y hy => hclass y (hperm.mem_iff.mp hy), hstable x hx]

/-! ## Rules -/

section Rules

variable {value : α → Rule → Value} {rules : List Rule}

/-- Sorting by a list of rules is sorting by its first rule what is sorted by the others. -/
theorem sortBy_verdict_cons (reverse : Bool) {rule : Rule} {rest : List Rule}
    (h : ValuesConsistent (· ∈ items) value (rule :: rest)) :
    sortBy (verdict value reverse (rule :: rest)) items =
      sortBy (verdict value reverse [rule]) (sortBy (verdict value reverse rest) items) := by
  have hrule : ValuesConsistent (· ∈ items) value [rule] :=
    h.mono (fun _ hother => List.mem_singleton.mp hother ▸ List.mem_cons_self ..) fun _ hx => hx
  have hrest : ValuesConsistent (· ∈ items) value rest :=
    h.mono (fun _ hother => List.mem_cons_of_mem rule hother) fun _ hx => hx
  have hverdict : verdict value reverse (rule :: rest) =
      thenBy (verdict value reverse [rule]) (verdict value reverse rest) := by
    funext x y
    simp only [verdict, thenBy]
    split <;> rfl
  rw [hverdict]
  exact sortBy_thenBy (ranking_verdict reverse hrule) (ranking_verdict reverse hrest)

/-- Turning a rule around turns its verdict on present values around. -/
theorem weight_not {amongst : Value → Prop} (h : Value.Consistent amongst) (flipped : Bool)
    {x y : Value} (hx : x.isMissing = false) (hy : y.isMissing = false) (hxAmong : amongst x)
    (hyAmong : amongst y) : weight (!flipped) x y = -weight flipped x y := by
  obtain ⟨forth, back, hforth, hback, -⟩ := h.exists_answers hxAmong hyAmong
  rw [weight_of_present h hx hy hxAmong hyAmong hforth hback,
    weight_of_present h hx hy hxAmong hyAmong hforth hback]
  cases forth <;> cases back <;> cases flipped <;> decide

/-- Reversing the rules turns their verdict around, if no value is missing. -/
theorem verdict_not (reverse : Bool) (h : ValuesConsistent among value rules) {x y : α}
    (hx : among x) (hy : among y) (hxPresent : ∀ rule ∈ rules, (value x rule).isMissing = false)
    (hyPresent : ∀ rule ∈ rules, (value y rule).isMissing = false) :
    verdict value (!reverse) rules x y = -verdict value reverse rules x y := by
  induction rules with
  | nil => rfl
  | cons rule rest ih =>
      rw [List.forall_mem_cons] at hxPresent hyPresent
      obtain ⟨hrule, hrest⟩ := List.forall_mem_cons.mp h
      have hweight : weight ((!reverse) != rule.descending) (value x rule) (value y rule) =
          -weight (reverse != rule.descending) (value x rule) (value y rule) := by
        have hdirection : ((!reverse) != rule.descending) = !(reverse != rule.descending) := by
          cases reverse <;> cases rule.descending <;> rfl
        rw [hdirection]
        exact weight_not hrule _ hxPresent.1 hyPresent.1 ⟨hxPresent.1, x, hx, rfl⟩
          ⟨hyPresent.1, y, hy, rfl⟩
      rw [verdict, verdict, thenBy, thenBy, hweight, ih hrest hxPresent.2 hyPresent.2]
      split <;> split <;> omega

end Rules

end Collate
