import Collate.Number.Quantity
import Collate.Text.Letter
import Collate.Text.Numeral

/-!
# Floating numbers

Binary floating numbers of 53 significant bits, kept as what they are: a sign, a
significand and a power of two, or an infinity, or not a number.  Zero has two
signs.

## Strategy

`round` finds the floating number nearest to a rational, a tie going to the even
significand; it is all that reading a number and dividing need.  `digits?` finds
the shortest decimal that rounds back: it tries one significant digit, then two,
and so on, and for each count tests the two decimals next to the number.  At
seventeen digits one of them always rounds back.
-/

namespace Collate

/-- A binary floating number.  The finite number with significand `m` and
exponent `e` is `m · 2 ^ e`. -/
inductive Floating where
  | undefined
  | infinite (negative : Bool)
  | finite (negative : Bool) (significand : Nat) (exponent : Int)
  deriving DecidableEq

namespace Floating

/-- The least exponent of a floating number. -/
def leastExponent : Int := -1074

/-- The greatest exponent of a floating number. -/
def greatestExponent : Int := 971

/-- Zero, with a sign. -/
def zeroOf (negative : Bool) : Floating := .finite negative 0 leastExponent

/-- What the number denotes. -/
def quantity : Floating → Quantity
  | undefined => .undefined
  | infinite negative => .infinite negative
  | finite negative significand exponent =>
    let magnitude := (significand : Rat) * ratPow 2 exponent
    .exact (if negative then -magnitude else magnitude)

/-- Whether the number is neither zero nor minus zero. -/
def isNonzero : Floating → Bool
  | finite _ significand _ => significand != 0
  | _ => true

/-- The number with the other sign. -/
def negate : Floating → Floating
  | undefined => .undefined
  | infinite negative => .infinite !negative
  | finite negative significand exponent => .finite (!negative) significand exponent

/-- The number times zero. -/
def timesZero : Floating → Floating
  | finite negative _ _ => zeroOf negative
  | _ => undefined

/-! ## Rounding -/

/-- The integer nearest to `numerator / denominator`, a tie going to the even
one. -/
def nearestEven (numerator denominator : Nat) : Nat :=
  let quotient := numerator / denominator
  let remainder := 2 * (numerator % denominator)
  if remainder < denominator ∨ (remainder = denominator ∧ quotient % 2 = 0) then quotient
  else quotient + 1

/-- The number `numerator / denominator` in units of `2 ^ exponent`, as a
numerator and a denominator. -/
def inUnits (numerator denominator : Nat) (exponent : Int) : Nat × Nat :=
  if 0 ≤ exponent then (numerator, denominator <<< exponent.toNat)
  else (numerator <<< (-exponent).toNat, denominator)

/-- The exponent at which a positive number has 53 bits before the point. -/
def exponentFor (numerator denominator : Nat) : Int :=
  let guess : Int := (numerator.log2 : Int) - denominator.log2 - 53
  let (n, d) := inUnits numerator denominator guess
  max leastExponent (if 1 <<< 53 ≤ n / d then guess + 1 else guess)

/-- The floating number nearest to the magnitude `numerator / denominator`. -/
def round (negative : Bool) (numerator denominator : Nat) : Floating :=
  if numerator = 0 then zeroOf negative
  else
    let exponent := exponentFor numerator denominator
    let (n, d) := inUnits numerator denominator exponent
    let significand := nearestEven n d
    let (significand, exponent) :=
      if significand = 1 <<< 53 then (1 <<< 52, exponent + 1) else (significand, exponent)
    if greatestExponent < exponent then .infinite negative
    else .finite negative significand exponent

/-- The floating number nearest to a rational. -/
def ofRat (value : Rat) : Floating := round (value < 0) value.num.natAbs value.den

/-! ## Shortest decimals -/

/-- The decimal exponent `k` of a positive number: `10 ^ (k - 1)` is at most the
number, which is below `10 ^ k`. -/
def decimalExponent (numerator denominator : Nat) : Int :=
  if denominator ≤ numerator then (toString (numerator / denominator)).length
  else
    let places := (toString (denominator / numerator)).length
    -- the quotient is cut, so the number may reach the next power of ten
    if denominator ≤ numerator * Nat.pow 10 (places - 1) then 2 - (places : Int)
    else if denominator ≤ numerator * Nat.pow 10 places then 1 - (places : Int)
    else -(places : Int)

/-- The decimal with this many digits nearest to the number `numerator /
denominator`, as its digits and the power of ten of the last of them, if it
rounds to `target`. -/
def decimalWith? (target : Floating) (numerator denominator : Nat) (exponent : Int)
    (count : Nat) : Option (Nat × Int) :=
  let place := exponent - count
  let (n, d) :=
    if 0 ≤ place then (numerator, denominator * Nat.pow 10 place.toNat)
    else (numerator * Nat.pow 10 (-place).toNat, denominator)
  let readsBack (digits : Nat) : Bool :=
    let value := (digits : Rat) * ratPow 10 place
    round false value.num.natAbs value.den == target
  let below := n / d
  let preferred := nearestEven n d
  let other := if preferred = below then below + 1 else below
  if readsBack preferred then some (preferred, place)
  else if readsBack other then some (other, place)
  else none

/-- The shortest decimal that rounds to a positive finite number. -/
def shortestDecimal (significand : Nat) (exponent : Int) : Nat × Int :=
  let value := (significand : Rat) * ratPow 2 exponent
  let target := round false value.num.natAbs value.den
  let magnitude := decimalExponent value.num.natAbs value.den
  ((List.range 17).findSome? fun count =>
      decimalWith? target value.num.natAbs value.den magnitude (count + 1)).getD
    (significand, exponent)

/-- Digits and the position of the point before them: the text shows the point
inside or next to the digits when the number is neither tiny nor huge, and an
exponent of at least two digits otherwise. -/
def textOfDigits (digits : List Char) (point : Int) : List Char :=
  if -4 < point ∧ point ≤ 16 then
    if point ≤ 0 then '0' :: '.' :: List.replicate (-point).toNat '0' ++ digits
    else
      let whole := digits.take point.toNat
      let rest := digits.drop point.toNat
      whole ++ List.replicate (point.toNat - whole.length) '0' ++
        '.' :: (if rest = [] then ['0'] else rest)
  else
    let power := point - 1
    let magnitude := (toString power.natAbs).toList
    digits.take 1 ++ (if digits.length = 1 then [] else '.' :: digits.drop 1) ++
      'e' :: (if power < 0 then '-' else '+') ::
        (if magnitude.length = 1 then '0' :: magnitude else magnitude)

/-- The number as a text: the shortest one that reads back. -/
def text : Floating → String
  | undefined => "nan"
  | infinite negative => if negative then "-inf" else "inf"
  | finite negative significand exponent =>
    let body :=
      if significand = 0 then "0.0".toList
      else
        let (digits, place) := shortestDecimal significand exponent
        -- a decimal such as 10 at one place is 1 at the next
        let all := (toString digits).toList
        let kept := (all.reverse.dropWhile (· = '0')).reverse
        textOfDigits kept (place + all.length)
    String.ofList (if negative then '-' :: body else body)

/-! ## Reading -/

/-- The digits of a run, without underscores. -/
def plainDigits (run : List Char) : List Nat :=
  run.filterMap fun c => if c = '_' then none else Text.decimalValue? c

/-- A magnitude written as digits with an optional point and exponent. -/
def readMagnitude? (written : List Char) : Option (Nat × Int) :=
  let whole := written.takeWhile Text.isNumeral
  let afterWhole := written.dropWhile Text.isNumeral
  let (places, afterPoint) :=
    match afterWhole with
    | '.' :: rest => (rest.takeWhile Text.isNumeral, rest.dropWhile Text.isNumeral)
    | rest => ([], rest)
  let digits := plainDigits whole ++ plainDigits places
  let scale : Int := -((plainDigits places).length : Int)
  if digits = [] then none
  else
    match afterPoint with
    | [] => some (Text.ofDigits digits, scale)
    | mark :: rest =>
      if mark ≠ 'e' ∧ mark ≠ 'E' then none
      else
        match Text.readInteger rest with
        | .ok power => some (Text.ofDigits digits, scale + power)
        | .error _ => none

/-- A text as a floating number: the nearest one to the decimal it writes. -/
def ofText? (written : String) : Option Floating :=
  let (negative, body) :=
    match Text.trim written.toList with
    | '-' :: rest => (true, rest)
    | '+' :: rest => (false, rest)
    | rest => (false, rest)
  let word := String.ofList (Text.lowerAscii body)
  if word = "nan" then some .undefined
  else if word = "inf" ∨ word = "infinity" then some (.infinite negative)
  else
    (readMagnitude? body).map fun (digits, power) =>
      let value := (digits : Rat) * ratPow 10 power
      round negative value.num.natAbs value.den

end Floating

end Collate
