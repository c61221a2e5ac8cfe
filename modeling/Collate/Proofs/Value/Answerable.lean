import Collate.Value.Normal
import Collate.Value.Order

/-!
# Comparisons that a sort survives

Asking whether two values are the same, or which one is the lesser, can fail.  Some failures
only mean that the values are not the same, or have no order; the others end the sort.  Two
values are *answerable* if comparing them has no failure of these others, and then sorting
takes the first for the lesser one or it does not (`Answerable.lesser_eq`).

So are any two scalars whose classes have no say in the matter (`answerable_of_isOrdered`):
they fail to compare only if they have no order, or if one of them signals.
-/

namespace Collate.Value

variable {x y : Value}

/-- Sorting takes the first value for the lesser one; it does not if the comparison fails. -/
def isLesser (x y : Value) : Bool := (lesser x y).toOption.getD false

/-- Comparing the two values, first value first, does not fail in a way that ends a sort. -/
structure Answerable (x y : Value) : Prop where
  survives_equal : ∀ failure, equal x y = .error failure → failure.isInterruption = false
  survives_less : ∀ failure, less x y = .error failure →
    failure.isUnorderable = true ∨ failure.isArithmetic = true

theorem interruption?_eq_none
    (h : ∀ failure, equal x y = .error failure → failure.isInterruption = false) :
    interruption? x y = Option.none := by
  unfold interruption?
  split
  · rfl
  cases hequal : equal x y with
  | ok answer => rfl
  | error failure => exact if_neg (Bool.eq_false_iff.mp (h failure hequal))

/-- Where both questions have an answer, sorting goes by it. -/
theorem lesser_eq_ok {answer lower : Bool} (hequal : equal x y = .ok answer)
    (hless : less x y = .ok lower) : lesser x y = .ok lower := by
  have hinterruption : interruption? x y = Option.none := by
    refine interruption?_eq_none fun failure hfailure => ?_
    rw [hequal] at hfailure
    cases hfailure
  rw [lesser, hinterruption, hless]

theorem Answerable.exists_lesser (h : Answerable x y) : ∃ answer, lesser x y = .ok answer := by
  rw [lesser, interruption?_eq_none h.survives_equal]
  cases hless : less x y with
  | ok answer => exact ⟨answer, rfl⟩
  | error failure => exact ⟨false, if_pos (Bool.or_eq_true_iff.mpr (h.survives_less failure hless))⟩

theorem Answerable.lesser_eq (h : Answerable x y) : lesser x y = .ok (x.isLesser y) := by
  obtain ⟨answer, hanswer⟩ := h.exists_lesser
  rw [isLesser, hanswer]
  rfl

/-- Whether the first value is the lesser one is what the values say, if they have an order. -/
theorem Answerable.isLesser_eq (h : Answerable x y) :
    x.isLesser y = (less x y).toOption.getD false := by
  rw [isLesser, lesser, interruption?_eq_none h.survives_equal]
  cases hless : less x y with
  | ok answer => rfl
  | error failure =>
      have hsurvives := Bool.or_eq_true_iff.mpr (h.survives_less failure hless)
      show (if _ then Except.ok false else Except.error failure).toOption.getD false = _
      rw [if_pos hsurvives]
      rfl

/-! ## Values without parts -/

theorem equalLeaf_of_decides (h : y.decides = false) : equalLeaf x y = equalPlain x y := by
  have hreflected : reflected? .equal x y = Option.none := by
    rw [reflected?, verdict?_eq_none h, ite_self]
  rw [equalLeaf, hreflected]

theorem lessLeaf_of_decides (h : y.decides = false) : lessLeaf x y = lessPlain x y := by
  have hreflected : reflected? .greater x y = Option.none := by
    rw [reflected?, verdict?_eq_none h, ite_self]
  rw [lessLeaf, hreflected]

/-- Where no class has a say, scalars are equal as their kinds have it. -/
theorem equal_of_isOrdered (hx : x.isOrdered = true) (hxPlain : x.decides = false)
    (hyPlain : y.decides = false) : equal x y = equalPlain x y := by
  have hleaf : equal x y = equalLeaf x y := by
    cases x with
    | object identity cls attributes refusals hooks comparisons scalar =>
        rw [equal, verdict?_eq_none hxPlain]
    | _ => first | (cases hx; done) | simp only [equal]
  rw [hleaf, equalLeaf_of_decides hyPlain]

/-- Where no class has a say, scalars are ordered as their kinds have it. -/
theorem less_of_isOrdered (hx : x.isOrdered = true) (hxPlain : x.decides = false)
    (hyPlain : y.decides = false) : less x y = lessPlain x y := by
  have hleaf : less x y = lessLeaf x y := by
    cases x with
    | object identity cls attributes refusals hooks comparisons scalar =>
        rw [less, verdict?_eq_none hxPlain]
    | _ => first | (cases hx; done) | simp only [less]
  rw [hleaf, lessLeaf_of_decides hyPlain]

theorem less_int (m n : Int) : less (int m) (int n) = .ok (decide (m < n)) := by
  rw [less_of_isOrdered rfl rfl rfl]
  show Except.ok (decide ((m : Rat) < n)) = _
  rw [decide_eq_decide.mpr Rat.intCast_lt_intCast]

/-- Two values without parts fail to compare only if they have no order, or one of them
signals. -/
theorem lessPlain_eq_error {failure : Failure} (h : lessPlain x y = .error failure) :
    failure = .unordered x.kind y.kind ∨ failure = .signalled := by
  unfold lessPlain at h
  grind

/-- Two values without parts fail to be told apart only if one of them signals. -/
theorem equalPlain_eq_error {failure : Failure} (h : equalPlain x y = .error failure) :
    failure = .signalled := by
  unfold equalPlain equalNumbers at h
  grind

/-- What is ordered compares with anything ordered, if only to find that they have no order, unless
one of the classes has a say. -/
theorem answerable_of_isOrdered (hx : x.isOrdered = true) (hxPlain : x.decides = false)
    (hyPlain : y.decides = false) : Answerable x y where
  survives_equal := by
    intro failure hequal
    rw [equal_of_isOrdered hx hxPlain hyPlain] at hequal
    rw [equalPlain_eq_error hequal]
    rfl
  survives_less := by
    intro failure hless
    rw [less_of_isOrdered hx hxPlain hyPlain] at hless
    rcases lessPlain_eq_error hless with rfl | rfl
    · exact .inl rfl
    · exact .inr rfl

end Collate.Value
