import Collate.Proofs.Comparison.Deciding
import Collate.Proofs.Value.Normal

/-!
# Comparing two items both ways

Values of any kinds may be compared by rules.  What has no order counts as greater,
whichever value is the first, and then each of the two items comes after the other.

The first rule on which two items do not tie decides (`decidingRule`).  If one of its values
is missing, or exactly one of them is the lesser, comparing the items the other way round
turns the answer around; otherwise it does not change the answer, and the two answers
contradict each other (`compareByRules_both_ways`).

## Strategy

A comparison comes to the weight of the deciding rule (`returns_weight`), which is the same rule
both ways as long as being the same is symmetric (`decidingRule_comm`).  The weight of one rule is
then turned around case by case.
-/

namespace Collate

/-! ## The weight of one rule -/

section Weight

variable {x y : Value} (flipped : Bool)

/-- What decides between two present values that do not tie is whether the first is the
lesser one. -/
theorem weight_of_not_ties (hx : x.isMissing = false) (hy : y.isMissing = false)
    (h : x.Answerable y) (hties : x.ties y = false) :
    weight flipped x y = if x.isLesser y = flipped then 1 else -1 := by
  rw [Value.ties_of_present hx hy] at hties
  rw [weight_of_answered hx hy h.lesser_eq, hties]
  rfl

/-- Of the two values the same one comes first, whichever way they are compared: the only one
that is present, or the only one that is the lesser. -/
def Value.Ranked (x y : Value) : Prop :=
  x.isMissing = true ∨ y.isMissing = true ∨ x.isLesser y ≠ y.isLesser x

theorem weight_swap_of_ranked (hforth : x.Answerable y) (hback : y.Answerable x)
    (hties : x.ties y = false) (hties' : y.ties x = false) (h : x.Ranked y) :
    weight flipped y x = -weight flipped x y := by
  cases hx : x.isMissing with
  | true => exact weight_swap_of_missing flipped (.inl hx)
  | false =>
      cases hy : y.isMissing with
      | true => exact weight_swap_of_missing flipped (.inr hy)
      | false =>
          -- both values are present, so exactly one of them is the lesser
          have hdiffer : x.isLesser y ≠ y.isLesser x := by
            simpa only [Value.Ranked, hx, hy, Bool.false_eq_true, false_or] using h
          rw [weight_of_not_ties flipped hx hy hforth hties,
            weight_of_not_ties flipped hy hx hback hties']
          revert hdiffer
          cases x.isLesser y <;> cases y.isLesser x <;> cases flipped <;> decide

theorem weight_comm_of_not_ranked (hforth : x.Answerable y) (hback : y.Answerable x)
    (hties : x.ties y = false) (hties' : y.ties x = false) (h : ¬ x.Ranked y) :
    weight flipped y x = weight flipped x y ∧
      weight flipped x y = if x.isLesser y = flipped then 1 else -1 := by
  simp only [Value.Ranked, not_or, Bool.not_eq_true, not_not] at h
  obtain ⟨hx, hy, hboth⟩ := h
  rw [weight_of_not_ties flipped hx hy hforth hties, weight_of_not_ties flipped hy hx hback hties',
    hboth]
  exact ⟨rfl, rfl⟩

end Weight

/-! ## Both ways -/

section Compare

variable {outlet : Outlet} {value : Value → Rule → Value} {lookup : Value → Rule → Reporting Value}
  {rules : List Rule}

theorem returns_weight {reverse : Bool} {a b : Value}
    (ha : ∀ rule ∈ rules, (lookup a rule).Returns outlet (value a rule))
    (hb : ∀ rule ∈ rules, (lookup b rule).Returns outlet (value b rule))
    (h : ∀ rule ∈ rules, (value a rule).Answerable (value b rule)) :
    (compareByRules lookup reverse a b rules).Returns outlet
      ((decidingRule value rules a b).elim 0 fun rule =>
        weight (reverse != rule.descending) (value a rule) (value b rule)) := by
  refine returns_compareByRules_of_judged ha hb ?_
  rw [judged_eq_preference]
  cases hrule : decidingRule value rules a b with
  | none => rfl
  | some rule =>
      have hanswerable := h rule (List.mem_of_find?_eq_some hrule)
      exact preference_of_answered _ fun _ _ => hanswerable.exists_lesser

/-- **What comparing two items both ways comes to.**  They tie on every rule, or the first rule
on which they do not tie puts one of them first both ways, or the two answers contradict each
other. -/
theorem compareByRules_both_ways (reverse : Bool) {a b : Value}
    (ha : ∀ rule ∈ rules, (lookup a rule).Returns outlet (value a rule))
    (hb : ∀ rule ∈ rules, (lookup b rule).Returns outlet (value b rule))
    (hanswerable : ∀ rule ∈ rules, (value a rule).Answerable (value b rule) ∧
      (value b rule).Answerable (value a rule))
    (hsame : ∀ rule ∈ rules,
      Value.same (value a rule) (value b rule) = Value.same (value b rule) (value a rule)) :
    ∃ forth back : Int,
      (compareByRules lookup reverse a b rules).Returns outlet forth ∧
      (compareByRules lookup reverse b a rules).Returns outlet back ∧
      (decidingRule value rules a b = none → forth = 0 ∧ back = 0) ∧
      ∀ rule, decidingRule value rules a b = some rule →
        ((value a rule).Ranked (value b rule) → back = -forth ∧ forth ≠ 0 ∧ back ≠ 0) ∧
        (¬ (value a rule).Ranked (value b rule) → back = forth ∧
          ((value a rule).isLesser (value b rule) = false →
            forth = if reverse = rule.descending then 1 else -1) ∧
          ((value a rule).isLesser (value b rule) = true →
            forth = if reverse = rule.descending then -1 else 1)) := by
  refine ⟨_, _, returns_weight ha hb fun rule hrule => (hanswerable rule hrule).1,
    returns_weight hb ha fun rule hrule => (hanswerable rule hrule).2, ?_, ?_⟩
  · intro hnone
    rw [decidingRule_comm hsame, hnone]
    exact ⟨rfl, rfl⟩
  · intro rule hsome
    rw [decidingRule_comm hsame, hsome, Option.elim_some, Option.elim_some]
    -- the deciding rule is one of the rules, and its values do not tie
    have hrule : rule ∈ rules := List.mem_of_find?_eq_some hsome
    obtain ⟨hforth, hback⟩ := hanswerable rule hrule
    have hties : (value a rule).ties (value b rule) = false := by
      simpa only [Bool.not_eq_true'] using List.find?_some hsome
    have hties' : (value b rule).ties (value a rule) = false :=
      (Value.ties_comm (hsame rule hrule)).symm.trans hties
    refine ⟨fun hranked => ?_, fun hranked => ?_⟩
    · have hswap := weight_swap_of_ranked (reverse != rule.descending) hforth hback hties hties'
        hranked
      -- a value that ties with none has some weight
      have hzero : weight (reverse != rule.descending) (value a rule) (value b rule) ≠ 0 := by
        rw [ne_eq, weight_eq_zero_iff _ fun _ _ => hforth.exists_lesser, hties]
        exact Bool.false_ne_true
      refine ⟨hswap, hzero, ?_⟩
      rw [hswap]
      exact neg_ne_zero.mpr hzero
    · obtain ⟨hcomm, hweight⟩ := weight_comm_of_not_ranked
        (reverse != rule.descending) hforth hback hties hties' hranked
      refine ⟨hcomm, fun hlesser => ?_, fun hlesser => ?_⟩
      · rw [hweight, hlesser]
        cases reverse <;> cases rule.descending <;> rfl
      · rw [hweight, hlesser]
        cases reverse <;> cases rule.descending <;> rfl

/-- A number and a text, each of them its own value: each comes after the other. -/
theorem compareByRules_both_ways_unordered :
    let lookup : Value → Rule → Reporting Value := fun item _ => pure item
    ∃ forth back : Int,
      (compareByRules lookup false (.int 1) (.text "1") Rule.defaults).Returns .journal forth ∧
      (compareByRules lookup false (.text "1") (.int 1) Rule.defaults).Returns .journal back ∧
      forth = 1 ∧ back = 1 := by
  intro lookup
  have hforth : (Value.int 1).Answerable (.text "1") := Value.answerable_of_isOrdered rfl rfl rfl
  have hback : (Value.text "1").Answerable (.int 1) := Value.answerable_of_isOrdered rfl rfl rfl
  have hsame : Value.same (.int 1) (.text "1") = false ∧
      Value.same (.text "1") (.int 1) = false := by
    rw [Value.same, Value.same, Value.equal_of_isOrdered rfl rfl rfl,
      Value.equal_of_isOrdered rfl rfl rfl]
    exact ⟨rfl, rfl⟩
  have hlesser : (Value.int 1).isLesser (.text "1") = false ∧
      (Value.text "1").isLesser (.int 1) = false := by
    rw [hforth.isLesser_eq, hback.isLesser_eq]
    exact ⟨rfl, rfl⟩
  let value : Value → Rule → Value := fun item _ => item
  have hlookup : ∀ item, ∀ rule ∈ Rule.defaults,
      (lookup item rule).Returns .journal (value item rule) := fun item _ _ => .pure item
  have hdeciding : decidingRule value Rule.defaults (.int 1) (.text "1") =
      some .visibleText := by
    refine List.find?_cons_of_pos ?_
    show (!(Value.int 1).ties (.text "1")) = true
    rw [Value.ties_of_present rfl rfl, hsame.1]
    rfl
  obtain ⟨forth, back, hreturns, hreturns', -, hdecided⟩ := compareByRules_both_ways false
    (hlookup (.int 1)) (hlookup (.text "1")) (fun _ _ => ⟨hforth, hback⟩)
    (fun _ _ => hsame.1.trans hsame.2.symm)
  obtain ⟨hcomm, hgreater, -⟩ := (hdecided _ hdeciding).2 <| by
    rintro (hmissing | hmissing | hdiffer)
    · cases hmissing
    · cases hmissing
    · exact hdiffer (hlesser.1.trans hlesser.2.symm)
  have hone : forth = 1 := hgreater hlesser.1
  exact ⟨forth, back, hreturns, hreturns', hone, hcomm.trans hone⟩

end Compare

end Collate
