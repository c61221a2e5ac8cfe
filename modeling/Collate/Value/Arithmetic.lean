import Collate.Value.Order

/-!
# Arithmetic on values

The little arithmetic that custom comparisons need: differences, remainders,
halves, signs and lengths of numbers, and entries of mappings.  Integers stay
exact; once a floating number takes part, results are rounded to the nearest one.
-/

namespace Collate.Value

/-- The floating number that a value stands for in floating arithmetic. -/
def floating? (value : Value) : Option Floating :=
  match value.core with
  | floating x => some x
  | _ => value.int?.map fun n => Floating.ofRat n

/-- The difference of two floating numbers. -/
def floatingMinus (x y : Floating) : Floating :=
  match x.quantity, y.quantity with
  | .exact a, .exact b =>
    -- zero has a sign only where both sides agree on it
    if a = b then
      match x, y with
      | .finite true 0 _, .finite false 0 _ => .zeroOf true
      | _, _ => .zeroOf false
    else Floating.ofRat (a - b)
  | .undefined, _ | _, .undefined => .undefined
  | .infinite a, .infinite b => if a = b then .undefined else .infinite a
  | .infinite a, _ => .infinite a
  | _, .infinite b => .infinite !b

/-- The difference of two values. -/
def minus (a b : Value) : Except Failure Value :=
  match a.int?, b.int? with
  | some x, some y => .ok (int (x - y))
  | _, _ =>
    match a.floating?, b.floating? with
    | some x, some y => .ok (floating (floatingMinus x y))
    | _, _ => .error (.operands "-" a.kind b.kind)

/-- The remainder of a value modulo three, which is never negative. -/
def moduloThree (a : Value) : Except Failure Value :=
  match a.int? with
  | some x => .ok (int (x % 3))
  | Option.none => .error (.operands "%" a.kind "int")

/-- Half of a value, as a floating number. -/
def half (a : Value) : Except Failure Value :=
  match a.int? with
  | some x =>
    match Floating.ofRat (mkRat x 2) with
    | .infinite _ => .error .quotientTooLarge
    | quotient => .ok (floating quotient)
  | Option.none =>
    match a.core with
    | floating x =>
      match x.quantity with
      | .exact (q : Rat) => .ok (floating (if q = 0 then x else Floating.ofRat (q / 2)))
      | _ => .ok (floating x)
    | _ => .error (.operands "/" a.kind "int")

/-- A decimal number as the result of arithmetic, if there is one. -/
def ofDecimal : Except Decimal.Fault Decimal → Except Failure Value
  | .ok x => .ok (decimal x)
  | .error .overflow => .error .decimalTooLarge
  | .error .signalled => .error .signalledOperand

/-- A value times one or minus one.  A sequence is repeated as often, which is never if the factor
is negative. -/
def withSign (negative : Bool) (a : Value) : Except Failure Value :=
  match a.core with
  | floating x => .ok (floating (turn x))
  | decimal x => ofDecimal (x.withSign negative)
  | fraction x => .ok (fraction (if negative then -x else x))
  | complex x y =>
    .ok (complex (floatingMinus (turn x) y.timesZero) (floatingMinus x.timesZero (turn y).negate))
  | span x => .ok (span ⟨if negative then -x.microseconds else x.microseconds⟩)
  | text s | textMember _ _ s => .ok (text (if negative then "" else s))
  | bytes octets => .ok (bytes (if negative then [] else octets))
  | list _ items => .ok (list 0 (if negative then [] else items))
  | tuple identity items => .ok (if negative then tuple 0 [] else tuple identity items)
  | _ =>
    match a.int? with
    | some x => .ok (int (if negative then -x else x))
    | Option.none => .error (.operands "*" a.kind "int")
where
  /-- The floating number with its sign, or the other one. -/
  turn (x : Floating) : Floating := if negative then x.negate else x

/-- An entry of a mapping. -/
def entry (a : Value) (name : String) : Except Failure Value :=
  match a with
  | mapping _ entries =>
    match entries.lookup name with
    | some value => .ok value
    | Option.none => .error (.absentEntry name)
  | _ => .error (.unusable a.kind "subscriptable")

/-- The length of a value as a number. -/
def lengthOf (a : Value) : Except Failure Value :=
  match a.length? with
  | some length => length.map fun n => int n
  | Option.none => .error (.noLength a.kind)

end Collate.Value
