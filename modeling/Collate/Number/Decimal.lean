import Collate.Number.Quantity
import Collate.Number.Floating

/-!
# Decimal numbers

Decimal numbers remember how they were written: `1.5` and `1.50` are the same
number with different coefficients.  Besides the two infinities there are values
that are not numbers, quiet or signalling, with a diagnostic code.

A decimal number is written with its exponent only when the point would fall
behind the last digit or far before the first.

What arithmetic gives is rounded to 28 significant digits, a tie going to the even
digit, and to the exponents that are left then; beyond the greatest of them the
operation fails.
-/

namespace Collate

/-- A decimal number.  The finite number with coefficient `c` and exponent `e` is
`c · 10 ^ e`. -/
inductive Decimal where
  | finite (negative : Bool) (coefficient : Nat) (exponent : Int)
  | infinite (negative : Bool)
  | undefined (negative signalling : Bool) (code : String)
  deriving DecidableEq

namespace Decimal

/-- What the number denotes. -/
def quantity : Decimal → Quantity
  | finite negative coefficient exponent =>
    let magnitude := (coefficient : Rat) * ratPow 10 exponent
    .exact (if negative then -magnitude else magnitude)
  | infinite negative => .infinite negative
  | undefined _ _ _ => .undefined

/-- Whether the value is not a number. -/
def isUndefined : Decimal → Bool
  | undefined _ _ _ => true
  | _ => false

/-- Whether every comparison with the value, equality included, is an error. -/
def isSignalling : Decimal → Bool
  | undefined _ signalling _ => signalling
  | _ => false

/-- Whether the number is not zero. -/
def isNonzero : Decimal → Bool
  | finite _ coefficient _ => coefficient != 0
  | _ => true

/-- An exponent with its sign. -/
def signedText (n : Int) : String := if n < 0 then toString n else "+" ++ toString n

/-- The magnitude of a finite number as a text. -/
def magnitudeText (coefficient : Nat) (exponent : Int) : String :=
  let digits := (toString coefficient).toList
  let count : Int := digits.length
  let leading := exponent + count
  let point : Int := if exponent ≤ 0 ∧ -6 < leading then leading else 1
  let body :=
    if point ≤ 0 then '0' :: '.' :: List.replicate (-point).toNat '0' ++ digits
    else if count ≤ point then digits ++ List.replicate (point - count).toNat '0'
    else digits.take point.toNat ++ '.' :: digits.drop point.toNat
  String.ofList body ++ (if leading = point then "" else "E" ++ signedText (leading - point))

/-- The number as a text. -/
def text : Decimal → String
  | finite negative coefficient exponent =>
    (if negative then "-" else "") ++ magnitudeText coefficient exponent
  | infinite negative => if negative then "-Infinity" else "Infinity"
  | undefined negative signalling code =>
    (if negative then "-" else "") ++ (if signalling then "sNaN" else "NaN") ++ code

/-! ## Rounding -/

/-- The number of significant digits of a result. -/
def precision : Nat := 28

/-- The greatest exponent of the first digit of a result. -/
def greatestExponent : Int := 999999

/-- The least exponent of the last digit of a result. -/
def leastExponent : Int := -999999 - (precision - 1 : Nat)

/-- Why arithmetic on decimal numbers does not give a result. -/
inductive Fault where
  | overflow
  | signalled
  deriving DecidableEq

/-- A coefficient without its last digits; more of them than there are leave nothing. -/
def withoutDigits (coefficient dropped : Nat) : Nat :=
  if (toString coefficient).length < dropped then 0
  else Floating.nearestEven coefficient (Nat.pow 10 dropped)

/-- The finite number with this coefficient and exponent as the result of an operation. -/
def rounded (negative : Bool) (coefficient : Nat) (exponent : Int) : Except Fault Decimal :=
  let digits := (toString coefficient).length
  let dropped := max (digits - precision) (leastExponent - exponent).toNat
  let kept := withoutDigits coefficient dropped
  -- rounding up may give a digit more
  let (kept, exponent) :=
    if kept = Nat.pow 10 precision then (kept / 10, exponent + dropped + 1)
    else (kept, exponent + dropped)
  if kept = 0 then .ok (.finite negative 0 (min exponent greatestExponent))
  else if greatestExponent < exponent + (toString kept).length - 1 then .error .overflow
  else .ok (.finite negative kept exponent)

/-- The number times one or minus one. -/
def withSign (turned : Bool) : Decimal → Except Fault Decimal
  | finite negative coefficient exponent => rounded (negative != turned) coefficient exponent
  | infinite negative => .ok (.infinite (negative != turned))
  | undefined _ true _ => .error .signalled
  | undefined negative false code =>
    let kept := (code.toList.drop (code.length - precision)).dropWhile (· = '0')
    .ok (.undefined negative false (String.ofList kept))

/-! ## Reading -/

/-- The diagnostic code of a value that is not a number. -/
def readCode? (signalling negative : Bool) (code : List Char) : Option Decimal :=
  if code.all fun c => (Text.decimalValue? c).isSome then
    let digits := Text.ofDigits (Floating.plainDigits code)
    some (.undefined negative signalling (if digits = 0 then "" else toString digits))
  else none

/-- A text as a decimal number. -/
def ofText? (written : String) : Option Decimal :=
  let (negative, body) :=
    match (Text.trim written.toList).filter (· ≠ '_') with
    | '-' :: rest => (true, rest)
    | '+' :: rest => (false, rest)
    | rest => (false, rest)
  match Text.lowerAscii body with
  | ['i', 'n', 'f'] | ['i', 'n', 'f', 'i', 'n', 'i', 't', 'y'] => some (.infinite negative)
  | 'n' :: 'a' :: 'n' :: code => readCode? false negative code
  | 's' :: 'n' :: 'a' :: 'n' :: code => readCode? true negative code
  | _ =>
    (Floating.readMagnitude? body).map fun (digits, power) => .finite negative digits power

end Decimal

end Collate
