/-!
# Quantities

Numbers of different kinds compare by what they denote: an exact rational
number, one of the two infinities, or nothing at all.  No kind is converted into
another on the way, so an integer beyond the precision of a floating number
still compares exactly with it.

What denotes nothing is neither the same as, nor less than, anything, itself
included.
-/

namespace Collate

/-- What a number denotes. -/
inductive Quantity where
  /-- Not a number. -/
  | undefined
  /-- Above, or if negative below, every rational. -/
  | infinite (negative : Bool)
  /-- A rational number. -/
  | exact (value : Rat)
  deriving DecidableEq

namespace Quantity

/-- Whether two quantities are the same number. -/
def same : Quantity → Quantity → Bool
  | infinite a, infinite b => a == b
  | exact a, exact b => a == b
  | _, _ => false

/-- Whether the first quantity is below the second. -/
def less : Quantity → Quantity → Bool
  | undefined, _ | _, undefined => false
  | infinite a, infinite b => a && !b
  | infinite a, exact _ => a
  | exact _, infinite b => !b
  | exact a, exact b => a < b

/-- Whether the quantity is a number at all. -/
def isDefined : Quantity → Bool
  | undefined => false
  | _ => true

end Quantity

/-- The integer power `base ^ exponent` as a rational. -/
def ratPow (base : Nat) (exponent : Int) : Rat :=
  if 0 ≤ exponent then (Nat.pow base exponent.toNat : Rat)
  else mkRat 1 (Nat.pow base (-exponent).toNat)

end Collate
