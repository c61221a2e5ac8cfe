import Collate.Text.Quoted

/-!
# Summaries

A summary tells what a run has done, as an indented JSON object.  It is written in
unaccented characters only; any other character appears as its UTF-16 units.
-/

namespace Collate.CommandLine

/-- What a run has done. -/
structure Summary where
  rules : String
  containers : Nat
  moved : Nat
  warnings : List String

/-! ## Texts -/

/-- The UTF-16 units of a character. -/
def unitsOf (c : Char) : List Nat :=
  let n := c.toNat
  if n < 0x10000 then [n] else [0xD800 + (n - 0x10000) / 0x400, 0xDC00 + (n - 0x10000) % 0x400]

/-- A character inside a JSON text. -/
def jsonChar (c : Char) : List Char :=
  match c with
  | '"' => ['\\', '"']
  | '\\' => ['\\', '\\']
  | '\n' => ['\\', 'n']
  | '\r' => ['\\', 'r']
  | '\t' => ['\\', 't']
  | '\x08' => ['\\', 'b']
  | '\x0c' => ['\\', 'f']
  | c =>
    if ' ' ≤ c ∧ c ≤ '~' then [c]
    else (unitsOf c).flatMap fun unit => '\\' :: 'u' :: Text.hexDigits 4 unit

/-- A text as JSON. -/
def jsonText (text : String) : String :=
  String.ofList ('"' :: text.toList.flatMap jsonChar ++ ['"'])

/-! ## Lines -/

/-- A list of texts as JSON, two levels deep. -/
def jsonTexts : List String → String
  | [] => "[]"
  | texts => "[\n    " ++ ",\n    ".intercalate (texts.map jsonText) ++ "\n  ]"

/-- The summary as JSON. -/
def Summary.json (summary : Summary) : String :=
  "\x7b\n  \"rules\": " ++ jsonText summary.rules ++
    ",\n  \"containers\": " ++ toString summary.containers ++
    ",\n  \"moved\": " ++ toString summary.moved ++
    ",\n  \"warnings\": " ++ jsonTexts summary.warnings ++ "\n\x7d"

end Collate.CommandLine
