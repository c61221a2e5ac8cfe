import Collate.Text.Blank

/-!
# Digits

Two classes of characters count as digits.  The *decimal digits* are the ten
consecutive characters that each script writes its numbers with; they have a
value.  The *digit signs* (superscripts, circled digits and the like) look like
digits but take part in no positional notation, so they have none.

A segment of a path that consists of digits, of either class, is meant as a
position in a sequence.  Only decimal digits can be read as a number.
-/

namespace Collate.Text

/-! ## The two classes -/

/-- The zero of each script; its nine successors are the other digits. -/
def decimalZeros : List Nat :=
  [
   0x30, 0x660, 0x6F0, 0x7C0, 0x966, 0x9E6, 0xA66, 0xAE6, 0xB66, 0xBE6, 0xC66, 0xCE6, 0xD66,
   0xDE6, 0xE50, 0xED0, 0xF20, 0x1040, 0x1090, 0x17E0, 0x1810, 0x1946, 0x19D0, 0x1A80, 0x1A90,
   0x1B50, 0x1BB0, 0x1C40, 0x1C50, 0xA620, 0xA8D0, 0xA900, 0xA9D0, 0xA9F0, 0xAA50, 0xABF0, 0xFF10,
   0x104A0, 0x10D30, 0x11066, 0x110F0, 0x11136, 0x111D0, 0x112F0, 0x11450, 0x114D0, 0x11650,
   0x116C0, 0x11730, 0x118E0, 0x11950, 0x11C50, 0x11D50, 0x11DA0, 0x16A60, 0x16AC0, 0x16B50,
   0x1D7CE, 0x1D7D8, 0x1D7E2, 0x1D7EC, 0x1D7F6, 0x1E140, 0x1E2F0, 0x1E950, 0x1FBF0]

/-- The digits without a decimal value, as inclusive ranges of code points. -/
def digitSigns : List (Nat × Nat) :=
  [
   (0xB2, 0xB3), (0xB9, 0xB9), (0x1369, 0x1371), (0x19DA, 0x19DA), (0x2070, 0x2070),
   (0x2074, 0x2079), (0x2080, 0x2089), (0x2460, 0x2468), (0x2474, 0x247C), (0x2488, 0x2490),
   (0x24EA, 0x24EA), (0x24F5, 0x24FD), (0x24FF, 0x24FF), (0x2776, 0x277E), (0x2780, 0x2788),
   (0x278A, 0x2792), (0x10A40, 0x10A43), (0x10E60, 0x10E68), (0x11052, 0x1105A),
   (0x1F100, 0x1F10A)]

/-- The value of a decimal digit of any script. -/
def decimalValue? (c : Char) : Option Nat :=
  (decimalZeros.find? fun start => start ≤ c.toNat && c.toNat < start + 10).map (c.toNat - ·)

/-- Whether the character is a digit of either class. -/
def isDigit (c : Char) : Bool :=
  (decimalValue? c).isSome ||
    digitSigns.any fun range => range.1 ≤ c.toNat && c.toNat ≤ range.2

/-- A text of one or more digits, of either class. -/
def allDigits (text : List Char) : Bool := !text.isEmpty && text.all isDigit

/-! ## Reading an integer -/

/-- Why a text is not read as an integer. -/
inductive IntegerFault where
  /-- The text is not a sign followed by decimal digits. -/
  | malformed
  /-- The text has more digits in a row than are ever converted. -/
  | tooLong (digits : Nat)
  deriving DecidableEq

/-- The most digits that are converted to a number. -/
def digitLimit : Nat := 4300

/-- The digits' values, where one underscore may stand between two digits. -/
def digitValues? : List Char → Option (List Nat)
  | [] => none
  | [c] => (decimalValue? c).map ([·])
  | c :: '_' :: rest => do return (← decimalValue? c) :: (← digitValues? rest)
  | c :: rest => do return (← decimalValue? c) :: (← digitValues? rest)

/-- The number that a list of decimal digits denotes. -/
def ofDigits (digits : List Nat) : Nat := digits.foldl (fun n d => 10 * n + d) 0

/-- The blanks that may stand around a number: all but the separator controls. -/
def isPadding (c : Char) : Bool := isBlank c && !(0x1C ≤ c.toNat && c.toNat ≤ 0x1F)

/-- The characters that a number is written with, behind its sign. -/
def isNumeral (c : Char) : Bool := c = '_' || (decimalValue? c).isSome

/-- The integer that a run of digits writes, if blanks are all that follows it.  Too many digits are
found before anything that follows. -/
def readDigits (negative : Bool) (written : List Char) : Except IntegerFault Int :=
  match digitValues? (written.takeWhile isNumeral) with
  | none => .error .malformed
  | some values =>
    if digitLimit < values.length then .error (.tooLong values.length)
    else if (written.dropWhile isNumeral).all isPadding then
      .ok (if negative then -(ofDigits values : Int) else ofDigits values)
    else .error .malformed

/-- An integer, read from a text that may have blanks around it, a sign, and
single underscores between its digits. -/
def readInteger (text : List Char) : Except IntegerFault Int :=
  match text.dropWhile isPadding with
  | '-' :: rest => readDigits true rest
  | '+' :: rest => readDigits false rest
  | rest => readDigits false rest

end Collate.Text
