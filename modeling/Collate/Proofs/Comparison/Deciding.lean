import Mathlib.Data.List.Find
import Collate.Proofs.Comparison.Verdict

/-!
# What decides a comparison

Two values tie if both are missing, or if they are the same.  The first rule on which two items do
not tie decides (`decidingRule`), and a comparison comes to the answer of that rule
(`judged_eq_preference`), which may also be a failure to compare its values.
-/

namespace Collate

/-! ## Ties -/

/-- Two values tie if both are missing, or if they are present and the same. -/
def Value.ties (x y : Value) : Bool :=
  if x.isMissing || y.isMissing then x.isMissing && y.isMissing else Value.same x y

section Ties

variable {x y : Value}

theorem Value.ties_comm (h : Value.same x y = Value.same y x) : x.ties y = y.ties x := by
  rw [Value.ties, Value.ties, h, Bool.or_comm, Bool.and_comm]

theorem Value.ties_of_present (hx : x.isMissing = false) (hy : y.isMissing = false) :
    x.ties y = Value.same x y := by
  rw [Value.ties, hx, hy]
  rfl

theorem Value.ties_of_missing_left (hx : x.isMissing = true) : x.ties y = y.isMissing := by
  rw [Value.ties, hx]
  rfl

theorem Value.ties_of_missing_right (hy : y.isMissing = true) : x.ties y = x.isMissing := by
  rw [Value.ties, hy]
  cases x.isMissing <;> rfl

end Ties

/-! ## The answer of one rule -/

/-- The answer of one rule about two values, zero if they tie. -/
def preference (flipped : Bool) (x y : Value) : Except Failure Int :=
  (precedence flipped x y).map fun decided => decided.getD 0

section Preference

variable {x y : Value} (flipped : Bool)

theorem preference_of_present (hx : x.isMissing = false) (hy : y.isMissing = false) :
    preference flipped x y =
      if Value.same x y then .ok 0
      else (Value.lesser x y).map fun lesser => if lesser = flipped then 1 else -1 := by
  rw [preference, precedence, hx, hy]
  cases Value.same x y with
  | true => rfl
  | false => cases Value.lesser x y <;> rfl

/-- The answer is the weight of the two values, unless their comparison fails. -/
theorem preference_of_answered
    (h : x.isMissing = false → y.isMissing = false → ∃ answer, Value.lesser x y = .ok answer) :
    preference flipped x y = .ok (weight flipped x y) := by
  rw [preference, precedence_of_answered flipped h]
  by_cases hzero : weight flipped x y = 0
  · rw [if_pos hzero, hzero]
    rfl
  · rw [if_neg hzero]
    rfl

theorem preference_of_missing (h : x.isMissing = true ∨ y.isMissing = true) :
    preference flipped x y = .ok (weight flipped x y) := by
  refine preference_of_answered flipped fun hx hy => ?_
  rw [hx, hy] at h
  simp at h

/-- A rule decides between two values unless they tie. -/
theorem weight_eq_zero_iff
    (h : x.isMissing = false → y.isMissing = false → ∃ answer, Value.lesser x y = .ok answer) :
    weight flipped x y = 0 ↔ x.ties y = true := by
  cases hx : x.isMissing with
  | true =>
      rw [weight_of_missing_left flipped hx, Value.ties_of_missing_left hx]
      cases y.isMissing <;> decide
  | false =>
      cases hy : y.isMissing with
      | true =>
          rw [weight_of_missing_right flipped hy, Value.ties_of_missing_right hy, hx]
          decide
      | false =>
          obtain ⟨answer, hanswer⟩ := h hx hy
          rw [weight_of_answered hx hy hanswer, Value.ties_of_present hx hy]
          cases Value.same x y <;> cases answer <;> cases flipped <;> decide

theorem precedence_of_ties (h : x.ties y = true) : precedence flipped x y = .ok none := by
  rw [precedence]
  cases hx : x.isMissing with
  | true =>
      rw [Value.ties_of_missing_left hx] at h
      rw [h]
      rfl
  | false =>
      cases hy : y.isMissing with
      | true =>
          rw [Value.ties_of_missing_right hy, hx] at h
          cases h
      | false =>
          rw [Value.ties_of_present hx hy] at h
          rw [h]
          rfl

/-- Values that do not tie are decided about, unless their comparison fails. -/
theorem precedence_of_not_ties (h : x.ties y = false) :
    precedence flipped x y = (preference flipped x y).map some := by
  rw [preference, precedence]
  cases hx : x.isMissing with
  | true =>
      rw [Value.ties_of_missing_left hx] at h
      rw [h]
      rfl
  | false =>
      cases hy : y.isMissing with
      | true => rfl
      | false =>
          rw [Value.ties_of_present hx hy] at h
          rw [h]
          cases Value.lesser x y <;> rfl

/-- The answer about two values that do not tie is not zero. -/
theorem preference_ne_zero {flipped : Bool} {answer : Int}
    (h : preference flipped x y = .ok answer) (hties : x.ties y = false) : answer ≠ 0 := by
  cases hx : x.isMissing with
  | true =>
      rw [Value.ties_of_missing_left hx] at hties
      rw [preference_of_missing _ (.inl hx), weight_of_missing_left _ hx, hties] at h
      cases h
      decide
  | false =>
      cases hy : y.isMissing with
      | true =>
          rw [preference_of_missing _ (.inr hy), weight_of_missing_right _ hy, hx] at h
          cases h
          decide
      | false =>
          rw [Value.ties_of_present hx hy] at hties
          rw [preference_of_present _ hx hy, hties, if_neg Bool.false_ne_true] at h
          obtain ⟨lesser, -, rfl⟩ := exists_of_map_eq_ok h
          split <;> decide

end Preference

/-! ## The deciding rule -/

/-- The first rule for which two items have values that do not tie. -/
def decidingRule {α : Type} (value : α → Rule → Value) (rules : List Rule) (x y : α) :
    Option Rule :=
  rules.find? fun rule => !(value x rule).ties (value y rule)

section Deciding

variable {α : Type} {value : α → Rule → Value} {rules : List Rule} {x y : α}

theorem decidingRule_cons (rule : Rule) (rest : List Rule) (x y : α) :
    decidingRule value (rule :: rest) x y =
      if (value x rule).ties (value y rule) then decidingRule value rest x y else some rule := by
  rw [decidingRule, List.find?_cons]
  cases (value x rule).ties (value y rule) <;> rfl

theorem ties_of_decidingRule_eq_none {rule : Rule}
    (h : decidingRule value rules x y = none) (hrule : rule ∈ rules) :
    (value x rule).ties (value y rule) = true := by
  have hties := List.find?_eq_none.mp h rule hrule
  simpa using hties

theorem ties_of_decidingRule_eq_some {rule : Rule}
    (h : decidingRule value rules x y = some rule) :
    (value x rule).ties (value y rule) = false := by
  have hties := List.find?_some h
  simpa using hties

theorem decidingRule_comm
    (h : ∀ rule ∈ rules,
      Value.same (value x rule) (value y rule) = Value.same (value y rule) (value x rule)) :
    decidingRule value rules y x = decidingRule value rules x y :=
  List.find?_congr fun rule hrule => congrArg not (Value.ties_comm (h rule hrule)).symm

/-- A comparison comes to the answer of its deciding rule. -/
theorem judged_eq_preference (reverse : Bool) (rules : List Rule) (x y : α) :
    judged value reverse rules x y =
      (decidingRule value rules x y).elim (.ok 0) fun rule =>
        preference (reverse != rule.descending) (value x rule) (value y rule) := by
  induction rules with
  | nil => rfl
  | cons rule rest ih =>
      rw [judged_cons, decidingRule_cons]
      cases hties : (value x rule).ties (value y rule) with
      | true =>
          rw [precedence_of_ties _ hties]
          exact ih
      | false =>
          rw [precedence_of_not_ties _ hties, if_neg Bool.false_ne_true, Option.elim_some]
          cases preference (reverse != rule.descending) (value x rule) (value y rule) <;> rfl

end Deciding

end Collate
