import Collate.Markup.Entity
import Collate.Text.Letter

/-!
# Character references

Markup can refer to a character by its name or by its number.  Numbers from 128 to
159 are taken from the old western code page, where they stand for characters that
have other numbers today.

A reference inside an attribute value is more forgiving than one in running text: a
name may run on into letters that do not belong to it, and the semicolon may be
missing.
-/

namespace Collate.Markup.Reference

/-- The character that stands where another cannot. -/
def replacement : Char := '\uFFFD'

/-- The code points that the numbers from 128 on stand for. -/
def westernCodes : List Nat :=
  [0x20AC, 0x81, 0x201A, 0x192, 0x201E, 0x2026, 0x2020, 0x2021, 0x2C6, 0x2030, 0x160, 0x2039,
   0x152, 0x8D, 0x17D, 0x8F, 0x90, 0x2018, 0x2019, 0x201C, 0x201D, 0x2022, 0x2013, 0x2014, 0x2DC,
   0x2122, 0x161, 0x203A, 0x153, 0x9D, 0x17E, 0x178]

/-- The character with this code point, if there is one. -/
def characterOf (n : Nat) : Char := if h : n.isValidChar then Char.ofNatAux n h else replacement

/-- The character that a number stands for. -/
def numbered (n : Nat) : Char :=
  if 128 ≤ n ∧ n < 160 then characterOf (westernCodes.getD (n - 128) n) else characterOf n

/-- The value of a hexadecimal digit. -/
def hexValue (c : Char) : Nat :=
  if c.isDigit then c.toNat - 48 else if c.toNat < 97 then c.toNat - 55 else c.toNat - 87

/-- Whether the character is a hexadecimal digit. -/
def isHexDigit (c : Char) : Bool :=
  c.isDigit || ('a' ≤ c && c ≤ 'f') || ('A' ≤ c && c ≤ 'F')

/-- The number that digits write in a base. -/
def numberOf (base : Nat) (digits : List Char) : Nat :=
  digits.foldl (fun n c => base * n + hexValue c) 0

/-! ## References in attribute values -/

/-- Whether a number stands for no character in an attribute value. -/
def isDropped (n : Nat) : Bool :=
  (1 ≤ n && n ≤ 8) || n == 11 || (14 ≤ n && n ≤ 31) || n == 127 || (0xFDD0 ≤ n && n ≤ 0xFDEF) ||
    (n ≤ 0x10FFFF && (n % 0x10000 == 0xFFFE || n % 0x10000 == 0xFFFF))

/-- The characters that a number stands for in an attribute value. -/
def numberedInValue (n : Nat) : List Char :=
  if n = 0 then [replacement] else if isDropped n then [] else [numbered n]

/-- The longest name without a semicolon at the start of a run, of at least two
characters, with the characters it stands for and what follows it. -/
def longestOpen? (run : List Char) : Nat → Option (List Char × List Char)
  | 0 | 1 => none
  | count + 1 =>
    match Entity.openNamed? (String.ofList (run.take (count + 1))) with
    | some found => some (found, run.drop (count + 1))
    | none => longestOpen? run count

/-- What a run of characters after `&` stands for, where the run may end with a
semicolon. -/
def namedInValue (run : List Char) (closed : Bool) : List Char :=
  match (if closed then Entity.named? (String.ofList run) else
      Entity.openNamed? (String.ofList run)) with
  | some found => found
  | none =>
    let tail := if closed then [';'] else []
    match longestOpen? run (if closed then run.length else run.length - 1) with
    | some (found, rest) => found ++ rest ++ tail
    | none => '&' :: run ++ tail

/-- Whether a character can be part of a name in an attribute value. -/
def isNamePart (c : Char) : Bool :=
  c ≠ '\t' && c ≠ '\n' && c ≠ '\x0c' && c ≠ ' ' && c ≠ '<' && c ≠ '&' && c ≠ '#' && c ≠ ';'

/-- What a reference stands for, when the text after `&` begins with one, and how many
characters it takes. -/
def inValue? (text : List Char) : Option (List Char × Nat) :=
  let closing (count : Nat) : Nat := if (text.drop count).head? = some ';' then 1 else 0
  match text with
  | '#' :: rest =>
    let digits := rest.takeWhile Char.isDigit
    if digits ≠ [] then
      let count := 1 + digits.length
      some (numberedInValue (numberOf 10 digits), count + closing count)
    else
      match rest with
      | x :: more =>
        let digits := more.takeWhile isHexDigit
        if (x = 'x' ∨ x = 'X') ∧ digits ≠ [] then
          let count := 2 + digits.length
          some (numberedInValue (numberOf 16 digits), count + closing count)
        else none
      | [] => none
  | _ =>
    let run := (text.takeWhile isNamePart).take 32
    if run = [] then none
    else some (namedInValue run (closing run.length = 1), run.length + closing run.length)

/-- An attribute value with its references replaced; `skip` characters of it belong to
the last one. -/
def unescapeAfter (skip : Nat) : List Char → List Char
  | [] => []
  | c :: rest =>
    match skip with
    | skip + 1 => unescapeAfter skip rest
    | 0 =>
      if c = '&' then
        match inValue? rest with
        | some (found, count) => found ++ unescapeAfter count rest
        | none => c :: unescapeAfter 0 rest
      else c :: unescapeAfter 0 rest

/-- An attribute value with its references replaced. -/
def unescape (value : List Char) : List Char := unescapeAfter 0 value

end Collate.Markup.Reference
