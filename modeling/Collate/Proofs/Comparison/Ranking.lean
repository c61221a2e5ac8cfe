import Collate.Comparison.ByRules
import Collate.Proofs.Value.Consistent

/-!
# Comparing by rules ranks the items

A comparison by a number ranks items if turning it around changes the sign of its answer,
and if being no greater is transitive (`Ranking`).

One rule ranks items whose values compare consistently, missing values last in either
direction (`ranking_weight`).  A rule that decides among the items on which an earlier one
ties ranks them too (`Ranking.thenBy`), and so a list of rules does (`ranking_verdict`).
-/

namespace Collate

variable {α : Type} {among : α → Prop}

/-! ## Rankings -/

/-- The comparison answers as if each of certain items had a rank. -/
structure Ranking (among : α → Prop) (compare : α → α → Int) : Prop where
  swap {x y : α} : among x → among y → compare y x = -compare x y
  trans {x y z : α} : among x → among y → among z → compare x y ≤ 0 → compare y z ≤ 0 →
    compare x z ≤ 0

/-- Compares by the second comparison where the first one ties. -/
def thenBy (first second : α → α → Int) (x y : α) : Int :=
  if first x y = 0 then second x y else first x y

namespace Ranking

variable {compare first second : α → α → Int}

theorem zero : Ranking among fun _ _ => 0 where
  swap _ _ := rfl
  trans _ _ _ _ _ := Int.le_refl 0

theorem comap {β : Type} {amongst : β → Prop} (h : Ranking among compare) (f : β → α)
    (hf : ∀ x, amongst x → among (f x)) : Ranking amongst fun x y => compare (f x) (f y) where
  swap hx hy := h.swap (hf _ hx) (hf _ hy)
  trans hx hy hz := h.trans (hf _ hx) (hf _ hy) (hf _ hz)

/-- Two items of which neither is greater tie. -/
theorem eq_zero_of_trans (h : Ranking among compare) {x y z : α} (hx : among x) (hy : among y)
    (hz : among z) (hxy : compare x y ≤ 0) (hyz : compare y z ≤ 0) (hxz : compare x z = 0) :
    compare x y = 0 ∧ compare y z = 0 := by
  have hzx : compare z x ≤ 0 := by
    rw [h.swap hx hz, hxz]
    decide
  have hyx : compare y x ≤ 0 := h.trans hy hz hx hyz hzx
  have hzy : compare z y ≤ 0 := h.trans hz hx hy hzx hxy
  rw [h.swap hx hy] at hyx
  rw [h.swap hy hz] at hzy
  omega

theorem thenBy (hfirst : Ranking among first) (hsecond : Ranking among second) :
    Ranking among (thenBy first second) where
  swap {x y} hx hy := by
    unfold Collate.thenBy
    rw [hfirst.swap hx hy, hsecond.swap hx hy]
    split <;> split <;> omega
  trans {x y z} hx hy hz hxy hyz := by
    have hle : ∀ u v : α, Collate.thenBy first second u v ≤ 0 → first u v ≤ 0 := by
      intro u v h
      unfold Collate.thenBy at h
      split at h <;> omega
    have hxz : first x z ≤ 0 := hfirst.trans hx hy hz (hle x y hxy) (hle y z hyz)
    unfold Collate.thenBy
    split
    · next hzero =>
      -- the first comparison ties all three items, so the second one decides
      obtain ⟨hxy', hyz'⟩ := hfirst.eq_zero_of_trans hx hy hz (hle x y hxy) (hle y z hyz) hzero
      rw [Collate.thenBy, if_pos hxy'] at hxy
      rw [Collate.thenBy, if_pos hyz'] at hyz
      exact hsecond.trans hx hy hz hxy hyz
    · exact hxz

end Ranking

/-! ## One rule -/

/-- The verdict of one rule on two values as a number. -/
def weight (flipped : Bool) (first second : Value) : Int :=
  match precedence flipped first second with
  | .ok (some verdict) => verdict
  | _ => 0

section Weight

variable {amongst : Value → Prop} {x y z : Value}

theorem precedence_of_present {flipped answer : Bool} (hx : x.isMissing = false)
    (hy : y.isMissing = false) (hlesser : Value.lesser x y = .ok answer) :
    precedence flipped x y =
      .ok (if Value.same x y then none else some (if answer = flipped then 1 else -1)) := by
  rw [precedence, hx, hy, hlesser]
  cases Value.same x y <;> rfl

/-- The verdict on two values that can be compared if both are present. -/
theorem precedence_of_answered (flipped : Bool)
    (h : x.isMissing = false → y.isMissing = false → ∃ answer, Value.lesser x y = .ok answer) :
    precedence flipped x y =
      .ok (if weight flipped x y = 0 then none else some (weight flipped x y)) := by
  cases hxMissing : x.isMissing with
  | true => cases hyMissing : y.isMissing <;> simp [weight, precedence, hxMissing, hyMissing]
  | false =>
      cases hyMissing : y.isMissing with
      | true => simp [weight, precedence, hxMissing, hyMissing]
      | false =>
          obtain ⟨answer, hanswer⟩ := h hxMissing hyMissing
          rw [weight, precedence_of_present hxMissing hyMissing hanswer]
          cases Value.same x y with
          | true => rfl
          | false => by_cases hflipped : answer = flipped <;> simp [hflipped]

theorem weight_of_answered {flipped answer : Bool} (hx : x.isMissing = false)
    (hy : y.isMissing = false) (hlesser : Value.lesser x y = .ok answer) :
    weight flipped x y = if Value.same x y then 0 else if answer = flipped then 1 else -1 := by
  rw [weight, precedence_of_present hx hy hlesser]
  cases Value.same x y <;> rfl

/-- The weight of two present values, by which of them is the lesser. -/
theorem weight_of_present {flipped forth back : Bool} (h : Value.Consistent amongst)
    (hx : x.isMissing = false) (hy : y.isMissing = false) (hxAmong : amongst x)
    (hyAmong : amongst y) (hforth : Value.lesser x y = .ok forth)
    (hback : Value.lesser y x = .ok back) :
    weight flipped x y =
      if forth = false ∧ back = false then 0 else if forth = flipped then 1 else -1 := by
  have hsame := h.same_iff hxAmong hyAmong
  rw [hforth, hback, Except.ok.injEq, Except.ok.injEq] at hsame
  rw [weight_of_answered hx hy hforth]
  cases hcase : Value.same x y with
  | true => exact (if_pos (hsame.mp hcase)).symm
  | false =>
      have hnot : ¬ (forth = false ∧ back = false) := by
        intro hties
        rw [hsame.mpr hties] at hcase
        cases hcase
      exact (if_neg hnot).symm

theorem weight_of_missing_left (flipped : Bool) (hx : x.isMissing = true) :
    weight flipped x y = if y.isMissing then 0 else 1 := by
  rw [weight, precedence, hx]
  cases y.isMissing <;> rfl

theorem weight_of_missing_right (flipped : Bool) (hy : y.isMissing = true) :
    weight flipped x y = if x.isMissing then 0 else -1 := by
  rw [weight, precedence, hy]
  cases x.isMissing <;> rfl

/-- A missing value comes last, whichever way it is compared. -/
theorem weight_swap_of_missing (flipped : Bool)
    (h : x.isMissing = true ∨ y.isMissing = true) :
    weight flipped y x = -weight flipped x y := by
  rcases h with hx | hy
  · rw [weight_of_missing_left flipped hx, weight_of_missing_right flipped hx]
    cases y.isMissing <;> rfl
  · rw [weight_of_missing_left flipped hy, weight_of_missing_right flipped hy]
    cases x.isMissing <;> rfl

/-- The weight of consistent values is turned around with them. -/
theorem weight_swap (h : Value.Consistent amongst) (flipped : Bool)
    (hx : x.isMissing = false → amongst x) (hy : y.isMissing = false → amongst y) :
    weight flipped y x = -weight flipped x y := by
  cases hxMissing : x.isMissing with
  | true => exact weight_swap_of_missing flipped (.inl hxMissing)
  | false =>
      cases hyMissing : y.isMissing with
      | true => exact weight_swap_of_missing flipped (.inr hyMissing)
      | false =>
          have hxAmong := hx hxMissing
          have hyAmong := hy hyMissing
          obtain ⟨forth, back, hforth, hback, hasymm⟩ := h.exists_answers hxAmong hyAmong
          rw [weight_of_present h hxMissing hyMissing hxAmong hyAmong hforth hback,
            weight_of_present h hyMissing hxMissing hyAmong hxAmong hback hforth]
          revert hasymm
          cases forth <;> cases back <;> cases flipped <;> decide

/-- Of two present values the first is no greater, if it is not the lesser one where the
greater value comes first, and the other is not where the lesser comes first. -/
theorem weight_nonpos_iff (h : Value.Consistent amongst) (flipped : Bool)
    (hx : x.isMissing = false) (hy : y.isMissing = false) (hxAmong : amongst x)
    (hyAmong : amongst y) :
    weight flipped x y ≤ 0 ↔
      (if flipped then Value.lesser x y else Value.lesser y x) = .ok false := by
  obtain ⟨forth, back, hforth, hback, hasymm⟩ := h.exists_answers hxAmong hyAmong
  rw [weight_of_present h hx hy hxAmong hyAmong hforth hback, hforth, hback]
  revert hasymm
  cases forth <;> cases back <;> cases flipped <;> simp

/-- One rule ranks values that compare consistently, missing ones last. -/
theorem ranking_weight (h : Value.Consistent amongst) (flipped : Bool) :
    Ranking (fun x => x.isMissing = false → amongst x) (weight flipped) where
  swap hx hy := weight_swap h flipped hx hy
  trans {x y z} hx hy hz hxy hyz := by
    cases hzMissing : z.isMissing with
    | true =>
        rw [weight_of_missing_right flipped hzMissing]
        split <;> decide
    | false =>
        -- what is no greater than a present value is present
        have hyMissing : y.isMissing = false := by
          rw [Bool.eq_false_iff]
          intro hmissing
          rw [weight_of_missing_left flipped hmissing, hzMissing] at hyz
          exact absurd hyz (by decide)
        have hxMissing : x.isMissing = false := by
          rw [Bool.eq_false_iff]
          intro hmissing
          rw [weight_of_missing_left flipped hmissing, hyMissing] at hxy
          exact absurd hxy (by decide)
        have hxAmong := hx hxMissing
        have hyAmong := hy hyMissing
        have hzAmong := hz hzMissing
        rw [weight_nonpos_iff h flipped hxMissing hyMissing hxAmong hyAmong] at hxy
        rw [weight_nonpos_iff h flipped hyMissing hzMissing hyAmong hzAmong] at hyz
        rw [weight_nonpos_iff h flipped hxMissing hzMissing hxAmong hzAmong]
        cases flipped with
        | true => exact h.not_lesser_trans hxAmong hyAmong hzAmong hxy hyz
        | false => exact h.not_lesser_trans hzAmong hyAmong hxAmong hyz hxy

end Weight

/-! ## A list of rules -/

/-- The verdict of rules on two items whose values are known. -/
def verdict (value : α → Rule → Value) (reverse : Bool) : List Rule → α → α → Int
  | [] => fun _ _ => 0
  | rule :: rest =>
    thenBy (fun x y => weight (reverse != rule.descending) (value x rule) (value y rule))
      (verdict value reverse rest)

/-- The values of certain items that are not missing compare consistently, for each rule. -/
def ValuesConsistent (among : α → Prop) (value : α → Rule → Value) (rules : List Rule) : Prop :=
  ∀ rule ∈ rules,
    Value.Consistent fun v => v.isMissing = false ∧ ∃ x, among x ∧ value x rule = v

theorem ValuesConsistent.mono {among' : α → Prop} {value : α → Rule → Value}
    {rules rules' : List Rule} (h : ValuesConsistent among value rules)
    (hrules : ∀ rule ∈ rules', rule ∈ rules) (hamong : ∀ x, among' x → among x) :
    ValuesConsistent among' value rules' := by
  intro rule hrule
  refine (h rule (hrules rule hrule)).mono ?_
  rintro v ⟨hpresent, x, hx, hvalue⟩
  exact ⟨hpresent, x, hamong x hx, hvalue⟩

/-- The values found on certain items, other than missing ones, compare consistently: their
comparisons fit together, or they are integers, or texts. -/
def ComparableAmong (among : α → Prop) (found : α → Value) : Prop :=
  Value.Consistent (fun v => v.isMissing = false ∧ ∃ x, among x ∧ found x = v) ∨
    (∀ x, among x → (found x).isMissing = false → ∃ n, Value.IsInteger (found x) n) ∨
    ∀ x, among x → (found x).isMissing = false → ∃ s, Value.IsText (found x) s

theorem ComparableAmong.consistent {found : α → Value} (h : ComparableAmong among found) :
    Value.Consistent fun v => v.isMissing = false ∧ ∃ x, among x ∧ found x = v := by
  rcases h with hconsistent | hintegers | htexts
  · exact hconsistent
  · refine Value.consistent_isInteger.mono ?_
    rintro v ⟨hmissing, x, hx, rfl⟩
    exact hintegers x hx hmissing
  · refine Value.consistent_isText.mono ?_
    rintro v ⟨hmissing, x, hx, rfl⟩
    exact htexts x hx hmissing

theorem ranking_verdict {value : α → Rule → Value} (reverse : Bool) {rules : List Rule}
    (h : ValuesConsistent among value rules) : Ranking among (verdict value reverse rules) := by
  induction rules with
  | nil => exact .zero
  | cons rule rest ih =>
      obtain ⟨hrule, hrest⟩ := List.forall_mem_cons.mp h
      refine .thenBy (.comap (ranking_weight hrule _) (value · rule) ?_) (ih hrest)
      intro x hx hmissing
      exact ⟨hmissing, x, hx, rfl⟩

end Collate
