import Collate.Text.Printable

/-!
# Quoted text

Messages quote the text they speak about.  The quotes are single, unless the
text holds a single quote and no double one.  Inside, a backslash and the
enclosing quote are preceded by a backslash, line feed, carriage return and tab
have their own letters, and every other unprintable character is written as its
code point with two, four or eight hexadecimal digits.
-/

namespace Collate.Text

/-- The `width` lowest hexadecimal digits of `n`, most significant first. -/
def hexDigits (width n : Nat) : List Char :=
  (List.range width).reverse.map fun place =>
    (Nat.digitChar (n >>> (4 * place) % 16))

/-- A character that no text shows, spelled out by its code point. -/
def codePointEscape (c : Char) : List Char :=
  let n := c.toNat
  if n < 0x100 then '\\' :: 'x' :: hexDigits 2 n
  else if n < 0x10000 then '\\' :: 'u' :: hexDigits 4 n
  else '\\' :: 'U' :: hexDigits 8 n

/-- One character inside quotes of the given kind. -/
def quotedChar (quote c : Char) : List Char :=
  if c = quote ∨ c = '\\' then ['\\', c]
  else if c = '\n' then ['\\', 'n']
  else if c = '\r' then ['\\', 'r']
  else if c = '\t' then ['\\', 't']
  else if isPrintable c then [c]
  else codePointEscape c

/-- The kind of quote that encloses a text. -/
def quoteFor (text : List Char) : Char :=
  if '\'' ∈ text ∧ '"' ∉ text then '"' else '\''

/-- The text between quotes, as messages show it. -/
def quoted (text : String) : String :=
  let quote := quoteFor text.toList
  String.ofList (quote :: text.toList.flatMap (quotedChar quote) ++ [quote])

end Collate.Text
