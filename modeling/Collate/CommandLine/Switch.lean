import Collate.Text.Numeral
import Collate.Text.Quoted

/-!
# Switches

The words of a command line are switches and arguments.  A switch may be shortened as
long as no other one begins the same way, and its value may be attached to it behind
an equals sign.  Negative numbers and texts with a space are arguments although they
begin with a hyphen; after two hyphens standing alone everything is an argument.
-/

namespace Collate.CommandLine

/-! ## The switches -/

/-- A switch of the command line. -/
inductive Switch where
  | help
  | container
  | by_
  | reverse
  | random
  | seed
  | all
  | strict
  | json
  | logLevel
  deriving DecidableEq

namespace Switch

/-- All switches. -/
def every : List Switch :=
  [help, container, by_, reverse, random, seed, all, strict, json, logLevel]

/-- The ways to write a switch. -/
def names : Switch → List String
  | help => ["-h", "--help"]
  | container => ["--container"]
  | by_ => ["--by"]
  | reverse => ["--reverse"]
  | random => ["--random"]
  | seed => ["--seed"]
  | all => ["--all"]
  | strict => ["--strict"]
  | json => ["--json"]
  | logLevel => ["--log-level"]

/-- A switch as it is called in messages. -/
def shown (switch : Switch) : String := "/".intercalate switch.names

/-- Whether a value follows the switch. -/
def takesValue : Switch → Bool
  | container | by_ | seed | logLevel => true
  | help | reverse | random | all | strict | json => false

/-- All ways to write a switch, with the switches. -/
def spellings : List (String × Switch) :=
  every.flatMap fun switch => switch.names.map fun name => (name, switch)

end Switch

/-! ## Refusals -/

/-- Why a command line is not carried out. -/
inductive Refusal where
  /-- It only asks for help. -/
  | help
  | ambiguous (written : String) (candidates : List String)
  | noValue (switch : Switch)
  | needlessValue (switch : Switch) (value : String)
  | noInteger (switch : Switch) (value : String)
  | required (switch : Switch)
  | unrecognized (words : List String)

namespace Refusal

/-- The exit code. -/
def code : Refusal → Nat
  | help => 0
  | _ => 2

/-- The wording of a fault of one switch. -/
def aboutSwitch (switch : Switch) (fault : String) : String :=
  "argument " ++ switch.shown ++ ": " ++ fault

/-- The wording of a refusal. -/
def message : Refusal → String
  | help => ""
  | ambiguous written candidates =>
    "ambiguous option: " ++ written ++ " could match " ++ ", ".intercalate candidates
  | noValue switch => aboutSwitch switch "expected one argument"
  | needlessValue switch value =>
    aboutSwitch switch ("ignored explicit argument " ++ Text.quoted value)
  | noInteger switch value => aboutSwitch switch ("invalid int value: " ++ Text.quoted value)
  | required switch => "the following arguments are required: " ++ switch.shown
  | unrecognized words => "unrecognized arguments: " ++ " ".intercalate words

/-- The name by which the program speaks of itself. -/
def programName : String := "sort_html.py"

/-- The line that a refusal writes. -/
def line : Refusal → String
  | help => ""
  | refusal => programName ++ ": error: " ++ refusal.message

end Refusal

/-! ## Words -/

/-- A word of a command line. -/
inductive Word where
  | argument (text : String)
  /-- A switch, perhaps with a value attached; `brief` says that it is written as a
  single letter. -/
  | switch (switch : Switch) (brief : Bool) (attached : Option String)
  /-- A word like a switch that is none. -/
  | unknown (text : String)
  /-- The two hyphens after which there are no more switches. -/
  | divider

/-- The parts before and after the first equals sign, if there is one. -/
def splitAtEquals (text : List Char) : List Char × Option (List Char) :=
  match text.dropWhile (· ≠ '=') with
  | [] => (text, none)
  | _ :: value => (text.takeWhile (· ≠ '='), some value)

/-- Whether a text is written like a negative number; a line end may follow. -/
def isNegativeNumber (text : List Char) : Bool :=
  match text with
  | '-' :: rest =>
    let isDecimal (c : Char) : Bool := (Text.decimalValue? c).isSome
    let number := if rest.getLast? = some '\n' then rest.dropLast else rest
    match number.dropWhile isDecimal with
    | [] => !number.isEmpty
    | '.' :: places => !places.isEmpty && places.all isDecimal
    | _ => false
  | _ => false

/-- The switches that a shortened spelling may stand for. -/
def candidates (text : List Char) : List (String × Word) :=
  match text with
  | '-' :: '-' :: _ =>
    let (start, value) := splitAtEquals text
    (Switch.spellings.filter fun spelling => start.isPrefixOf spelling.1.toList).map
      fun spelling => (spelling.1, .switch spelling.2 false (value.map String.ofList))
  | '-' :: _ :: _ =>
    let short := String.ofList (text.take 2)
    (Switch.spellings.filter fun spelling => spelling.1 == short).map
      fun spelling => (spelling.1, .switch spelling.2 true (some (String.ofList (text.drop 2))))
  | _ => []

/-- A word before any divider. -/
def readWord (word : String) : Except Refusal Word :=
  let text := word.toList
  let spelled? (spelling : List Char) (value : Option (List Char)) : Option Word :=
    (Switch.spellings.lookup (String.ofList spelling)).map fun switch =>
      .switch switch (spelling.length == 2) (value.map String.ofList)
  let (start, value) := splitAtEquals text
  if text.head? ≠ some '-' then .ok (.argument word)
  else if let some found := spelled? text none then .ok found
  else if text.length = 1 then .ok (.argument word)
  else if let some found := (value.bind fun v => spelled? start (some v)) then .ok found
  else
    match candidates text with
    | [(_, found)] => .ok found
    | [] =>
      if isNegativeNumber text || text.contains ' ' then .ok (.argument word)
      else .ok (.unknown word)
    | several => .error (.ambiguous word (several.map Prod.fst))

/-- The words of a command line. -/
def readWords : List String → Except Refusal (List Word)
  | [] => .ok []
  | "--" :: rest => .ok (.divider :: rest.map .argument)
  | word :: rest => do
    let first ← readWord word
    return first :: (← readWords rest)

end Collate.CommandLine
