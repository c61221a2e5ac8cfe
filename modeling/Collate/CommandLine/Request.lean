import Collate.CommandLine.Switch
import Collate.Failure

/-!
# Requests

A command line asks for the children of a container to be sorted, in the document of
a file or of the input.  The container must be named; at most one file can be.

## Strategy

The words are taken in from left to right, so that of two faults the first one is
reported.  Words that nothing asks for are only reported at the end.
-/

namespace Collate.CommandLine

/-- What a command line asks for. -/
structure Request where
  container : String
  file : Option String
  rulesText : Option String
  reverse : Bool
  random : Bool
  seed : Option Int
  all : Bool
  strict : Bool
  json : Bool
  logLevel : Option String

/-- A request in the making. -/
structure Draft where
  container : Option String := none
  file : Option String := none
  /-- Whether a file can still be named. -/
  expectsFile : Bool := true
  rulesText : Option String := none
  reverse : Bool := false
  random : Bool := false
  seed : Option Int := none
  all : Bool := false
  strict : Bool := false
  json : Bool := false
  logLevel : Option String := none
  /-- The words that nothing asked for. -/
  extra : List String := []

namespace Draft

/-- The draft with a switch turned on. -/
def turnOn (draft : Draft) : Switch → Except Refusal Draft
  | .help => .error .help
  | .reverse => .ok { draft with reverse := true }
  | .random => .ok { draft with random := true }
  | .all => .ok { draft with all := true }
  | .strict => .ok { draft with strict := true }
  | .json => .ok { draft with json := true }
  | .container | .by_ | .seed | .logLevel => .ok draft

/-- The draft with the value of a switch. -/
def withValue (draft : Draft) (switch : Switch) (value : String) : Except Refusal Draft :=
  match switch with
  | .container => .ok { draft with container := some value }
  | .by_ => .ok { draft with rulesText := some value }
  | .logLevel => .ok { draft with logLevel := some value }
  | .seed =>
    match Failure.readInteger value with
    | .ok seed => .ok { draft with seed := some seed }
    | .error _ => .error (.noInteger .seed value)
  | .help | .reverse | .random | .all | .strict | .json => .ok draft

/-- The draft with a value attached to a switch that takes none.  Single letters can be
joined, so that what follows the first one may be more of the same. -/
def refuseValue (draft : Draft) (switch : Switch) (brief : Bool) (value : String) :
    Except Refusal Draft :=
  let unread := if brief then value.toList.dropWhile (· = 'h') else value.toList
  if unread.isEmpty ∧ ¬ value.isEmpty then draft.turnOn switch
  else .error (.needlessValue switch (String.ofList unread))

/-- The draft with words that nothing asked for. -/
def withExtra (draft : Draft) (words : List String) : Draft :=
  { draft with extra := draft.extra ++ words }

/-- The draft with a file, after which no other one can be named. -/
def withFile (draft : Draft) (file : Option String) : Draft :=
  { draft with file, expectsFile := false }

/-- Takes in words.  A divider next to the file, or in its place, belongs to it. -/
def takeIn (draft : Draft) : List Word → Except Refusal Draft
  | [] => .ok draft
  | .argument text :: .divider :: rest =>
    if draft.expectsFile then (draft.withFile (some text)).takeIn rest
    else (draft.withExtra [text, "--"]).takeIn rest
  | .argument text :: rest =>
    if draft.expectsFile then (draft.withFile (some text)).takeIn rest
    else (draft.withExtra [text]).takeIn rest
  | .divider :: .argument text :: rest =>
    if draft.expectsFile then (draft.withFile (some text)).takeIn rest
    else (draft.withExtra ["--", text]).takeIn rest
  | .divider :: rest =>
    if draft.expectsFile then (draft.withFile none).takeIn rest
    else (draft.withExtra ["--"]).takeIn rest
  | .unknown text :: rest => (draft.withExtra [text]).takeIn rest
  | .switch switch brief (some value) :: rest =>
    (if switch.takesValue then draft.withValue switch value
      else draft.refuseValue switch brief value).bind fun draft => draft.takeIn rest
  | .switch switch _ none :: .argument value :: rest =>
    if switch.takesValue then (draft.withValue switch value).bind fun draft => draft.takeIn rest
    else (draft.turnOn switch).bind fun draft => draft.takeIn (.argument value :: rest)
  | .switch switch _ none :: rest =>
    if switch.takesValue then .error (.noValue switch)
    else (draft.turnOn switch).bind fun draft => draft.takeIn rest
termination_by words => words.length

/-- The request that a complete draft makes. -/
def request (draft : Draft) : Except Refusal Request :=
  match draft.container with
  | none => .error (.required .container)
  | some container =>
    if draft.extra.isEmpty then
      .ok {
        container
        file := draft.file
        rulesText := draft.rulesText
        reverse := draft.reverse
        random := draft.random
        seed := draft.seed
        all := draft.all
        strict := draft.strict
        json := draft.json
        logLevel := draft.logLevel }
    else .error (.unrecognized draft.extra)

end Draft

/-- The request that the words of a command line make. -/
def Request.read (words : List String) : Except Refusal Request := do
  let draft ← Draft.takeIn {} (← readWords words)
  draft.request

end Collate.CommandLine
