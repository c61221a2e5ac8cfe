import Mathlib.Data.String.Basic
import Mathlib.Data.Rat.Lemmas
import Collate.Proofs.Value.Answerable

/-!
# Values that compare consistently

Sorting compares any two values, but for values of all kinds its answers need not fit
together.  Some values compare *consistently*: each comparison has an answer, the answers
are those of a weak order, and the values that tie are those that are the same.

Integers compare consistently, whether they are members of an enumeration or not, as long
as truth values are not among them; and so do texts.
-/

namespace Collate.Value

/-! ## Consistency -/

/-- Certain values have a weak order whose ties are the values that are the same. -/
structure Consistent (among : Value → Prop) : Prop where
  answered {x y : Value} : among x → among y → ∃ answer, lesser x y = .ok answer
  asymm {x y : Value} : among x → among y → lesser x y = .ok true → lesser y x = .ok false
  cotrans {x y z : Value} : among x → among y → among z → lesser x z = .ok true →
    lesser x y = .ok true ∨ lesser y z = .ok true
  same_iff {x y : Value} : among x → among y →
    (same x y = true ↔ lesser x y = .ok false ∧ lesser y x = .ok false)

theorem Consistent.mono {among fewer : Value → Prop} (h : Consistent among)
    (hfewer : ∀ x, fewer x → among x) : Consistent fewer where
  answered hx hy := h.answered (hfewer _ hx) (hfewer _ hy)
  asymm hx hy := h.asymm (hfewer _ hx) (hfewer _ hy)
  cotrans hx hy hz := h.cotrans (hfewer _ hx) (hfewer _ hy) (hfewer _ hz)
  same_iff hx hy := h.same_iff (hfewer _ hx) (hfewer _ hy)

/-- Two values are compared either way, and at most one of them is the lesser. -/
theorem Consistent.exists_answers {among : Value → Prop} (h : Consistent among) {x y : Value}
    (hx : among x) (hy : among y) :
    ∃ forth back, lesser x y = .ok forth ∧ lesser y x = .ok back ∧
      ¬ (forth = true ∧ back = true) := by
  obtain ⟨forth, hforth⟩ := h.answered hx hy
  obtain ⟨back, hback⟩ := h.answered hy hx
  refine ⟨forth, back, hforth, hback, ?_⟩
  rintro ⟨rfl, rfl⟩
  have hnot := h.asymm hx hy hforth
  rw [hback] at hnot
  cases hnot

/-- Not to be the lesser is transitive. -/
theorem Consistent.not_lesser_trans {among : Value → Prop} (h : Consistent among)
    {x y z : Value} (hx : among x) (hy : among y) (hz : among z)
    (hxy : lesser x y = .ok false) (hyz : lesser y z = .ok false) : lesser x z = .ok false := by
  obtain ⟨answer, hxz⟩ := h.answered hx hz
  cases answer with
  | false => exact hxz
  | true =>
      rcases h.cotrans hx hy hz hxz with hxy' | hyz'
      · rw [hxy] at hxy'
        cases hxy'
      · rw [hyz] at hyz'
        cases hyz'

/-- Values compare consistently if they compare like their keys in a linear order. -/
theorem consistent_of_keys {κ : Type} [LinearOrder κ] {HasKey : Value → κ → Prop}
    (hlesser : ∀ {x y i j}, HasKey x i → HasKey y j → lesser x y = .ok (decide (i < j)))
    (hsame : ∀ {x y i j}, HasKey x i → HasKey y j → same x y = decide (i = j)) :
    Consistent fun x => ∃ key, HasKey x key where
  answered := by
    rintro x y ⟨i, hi⟩ ⟨j, hj⟩
    exact ⟨_, hlesser hi hj⟩
  asymm := by
    rintro x y ⟨i, hi⟩ ⟨j, hj⟩ h
    rw [hlesser hi hj, Except.ok.injEq, decide_eq_true_eq] at h
    rw [hlesser hj hi, decide_eq_false (not_lt_of_gt h)]
  cotrans := by
    rintro x y z ⟨i, hi⟩ ⟨j, hj⟩ ⟨k, hk⟩ h
    rw [hlesser hi hk, Except.ok.injEq, decide_eq_true_eq] at h
    rw [hlesser hi hj, hlesser hj hk, Except.ok.injEq, Except.ok.injEq, decide_eq_true_eq,
      decide_eq_true_eq]
    -- every key lies above the first or below the second of two that differ
    rcases lt_or_ge i j with hij | hji
    · exact .inl hij
    · exact .inr (lt_of_le_of_lt hji h)
  same_iff := by
    rintro x y ⟨i, hi⟩ ⟨j, hj⟩
    rw [hsame hi hj, hlesser hi hj, hlesser hj hi, Except.ok.injEq, Except.ok.injEq,
      decide_eq_true_eq, decide_eq_false_iff_not, decide_eq_false_iff_not, not_lt, not_lt]
    exact ⟨fun heq => ⟨heq.ge, heq.le⟩, fun h => le_antisymm h.2 h.1⟩

/-! ## Integers -/

/-- The value is this integer, and not a truth value, and its class has no say in comparisons. -/
def IsInteger (x : Value) (n : Int) : Prop :=
  x.decides = false ∧ x.core.isBool = false ∧ x.int? = some n

theorem IsInteger.core_eq {x : Value} {n : Int} (h : IsInteger x n) :
    x.core = int n ∨ ∃ cls name, x.core = intMember cls name n := by
  obtain ⟨-, hbool, hint⟩ := h
  unfold int? at hint
  split at hint
  · next b hcore =>
    rw [hcore] at hbool
    cases hbool
  · next m hcore =>
    cases hint
    exact .inl hcore
  · next cls name m hcore =>
    cases hint
    exact .inr ⟨cls, name, hcore⟩
  · cases hint

theorem IsInteger.isOrdered {x : Value} {n : Int} (h : IsInteger x n) : x.isOrdered = true := by
  cases x with
  | object identity cls attributes refusals hooks comparisons scalar =>
      cases scalar with
      | none => cases h.2.2
      | some scalar => rfl
  | bool b => cases h.2.1
  | int m => rfl
  | intMember cls name m => rfl
  | _ => cases h.2.2

theorem IsInteger.isBool {x : Value} {n : Int} (h : IsInteger x n) : x.isBool = false := by
  cases x <;> first | rfl | cases h.2.1

theorem lessPlain_of_isInteger {x y : Value} {n m : Int} (hx : IsInteger x n)
    (hy : IsInteger y m) : lessPlain x y = .ok (decide (n < m)) := by
  have hless : (Quantity.exact n).less (Quantity.exact m) = decide (n < m) := by
    exact decide_eq_decide.mpr Rat.intCast_lt_intCast
  unfold lessPlain text? quantity? int?
  rcases hx.core_eq with hx | ⟨cls, name, hx⟩ <;> rcases hy.core_eq with hy | ⟨cls', name', hy⟩ <;>
    simp only [hx, hy] <;> exact congrArg Except.ok hless

theorem less_of_isInteger {x y : Value} {n m : Int} (hx : IsInteger x n) (hy : IsInteger y m) :
    less x y = .ok (decide (n < m)) :=
  (less_of_isOrdered hx.isOrdered hx.1 hy.1).trans (lessPlain_of_isInteger hx hy)

theorem equalPlain_of_isInteger {x y : Value} {n m : Int} (hx : IsInteger x n)
    (hy : IsInteger y m) : equalPlain x y = .ok (decide (n = m)) := by
  have hsame : (Quantity.exact n).same (Quantity.exact m) = decide (n = m) := by
    exact decide_eq_decide.mpr Rat.intCast_inj
  unfold equalPlain text? quantity? int?
  rcases hx.core_eq with hx | ⟨cls, name, hx⟩ <;> rcases hy.core_eq with hy | ⟨cls', name', hy⟩ <;>
    simp only [hx, hy] <;> exact congrArg Except.ok hsame

theorem equal_of_isInteger {x y : Value} {n m : Int} (hx : IsInteger x n) (hy : IsInteger y m) :
    equal x y = .ok (decide (n = m)) :=
  (equal_of_isOrdered hx.isOrdered hx.1 hy.1).trans (equalPlain_of_isInteger hx hy)

theorem lesser_of_isInteger {x y : Value} {n m : Int} (hx : IsInteger x n) (hy : IsInteger y m) :
    lesser x y = .ok (decide (n < m)) :=
  lesser_eq_ok (equal_of_isInteger hx hy) (less_of_isInteger hx hy)

theorem consistent_isInteger : Consistent fun x => ∃ n, IsInteger x n := by
  refine consistent_of_keys lesser_of_isInteger ?_
  · intro x y n m hx hy
    rw [same, hx.isBool, hy.isBool, equal_of_isInteger hx hy]
    rfl

/-! ## Texts -/

/-- The value is this text, and its class has no say in comparisons. -/
def IsText (x : Value) (s : String) : Prop := x.decides = false ∧ x.text? = some s

theorem IsText.core_eq {x : Value} {s : String} (h : IsText x s) :
    x.core = text s ∨ ∃ cls name, x.core = textMember cls name s := by
  obtain ⟨-, htext⟩ := h
  unfold text? at htext
  split at htext
  · next t hcore =>
    cases htext
    exact .inl hcore
  · next cls name t hcore =>
    cases htext
    exact .inr ⟨cls, name, hcore⟩
  · cases htext

theorem isOrdered_of_text? {x : Value} (h : x.text?.isSome = true) : x.isOrdered = true := by
  cases x with
  | object identity cls attributes refusals hooks comparisons scalar =>
      cases scalar with
      | none => cases h
      | some scalar => rfl
  | text t => rfl
  | textMember cls name t => rfl
  | _ => cases h

theorem IsText.isOrdered {x : Value} {s : String} (h : IsText x s) : x.isOrdered = true :=
  isOrdered_of_text? (by rw [h.2]; rfl)

theorem IsText.isBool {x : Value} {s : String} (h : IsText x s) : x.isBool = false := by
  cases x <;> first | rfl | cases h.2

theorem lessPlain_of_isText {x y : Value} {s t : String} (hx : IsText x s) (hy : IsText y t) :
    lessPlain x y = .ok (decide (s < t)) := by
  unfold lessPlain text?
  rcases hx.core_eq with hx | ⟨cls, name, hx⟩ <;> rcases hy.core_eq with hy | ⟨cls', name', hy⟩ <;>
    simp only [hx, hy]

theorem less_of_isText {x y : Value} {s t : String} (hx : IsText x s) (hy : IsText y t) :
    less x y = .ok (decide (s < t)) :=
  (less_of_isOrdered hx.isOrdered hx.1 hy.1).trans (lessPlain_of_isText hx hy)

theorem equalPlain_of_isText {x y : Value} {s t : String} (hx : IsText x s) (hy : IsText y t) :
    equalPlain x y = .ok (decide (s = t)) := by
  unfold equalPlain text?
  rcases hx.core_eq with hx | ⟨cls, name, hx⟩ <;> rcases hy.core_eq with hy | ⟨cls', name', hy⟩ <;>
    simp only [hx, hy] <;> rfl

theorem equal_of_isText {x y : Value} {s t : String} (hx : IsText x s) (hy : IsText y t) :
    equal x y = .ok (decide (s = t)) :=
  (equal_of_isOrdered hx.isOrdered hx.1 hy.1).trans (equalPlain_of_isText hx hy)

theorem lesser_of_isText {x y : Value} {s t : String} (hx : IsText x s) (hy : IsText y t) :
    lesser x y = .ok (decide (s < t)) :=
  lesser_eq_ok (equal_of_isText hx hy) (less_of_isText hx hy)

theorem consistent_isText : Consistent fun x => ∃ s, IsText x s := by
  refine consistent_of_keys lesser_of_isText ?_
  · intro x y s t hx hy
    rw [same, hx.isBool, hy.isBool, equal_of_isText hx hy]
    rfl

end Collate.Value
