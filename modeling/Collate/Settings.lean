import Collate.Failure
import Collate.Text.Blank
import Collate.Text.Letter

/-!
# Settings

Defaults that can be set from outside by variables.  A variable that is not set has
its own default; one that should be a number and is not is a failure.
-/

namespace Collate

/-- The defaults of a run. -/
structure Settings where
  /-- The rule text of a sort that was given none. -/
  rulesText : String
  logLevel : String
  seed : Option Int
  warningCapacity : Int
  /-- The name of the reader of documents. -/
  documentReader : String

namespace Settings

/-- An integer; a blank text is none. -/
def optionalInteger (text : String) : Except Failure (Option Int) :=
  if Text.allBlank text.toList then .ok none else (Failure.readInteger text).map some

/-- A text in upper case. -/
def upperCased (text : String) : String := String.ofList (Text.upper text.toList)

/-- The settings under some variables. -/
def ofVariables (given : List (String × String)) : Except Failure Settings := do
  let set? (name : String) := given.lookup name
  let seed ← optionalInteger ((set? "SORTER_RANDOM_SEED").getD "")
  let warningCapacity ← Failure.readInteger ((set? "SORTER_MAX_WARNINGS").getD "200")
  return {
    rulesText := (set? "SORTER_DEFAULT_BY").getD ""
    logLevel := upperCased ((set? "SORTER_LOG_LEVEL").getD "WARNING")
    seed, warningCapacity
    documentReader := (set? "SORTER_HTML_PARSER").getD "html.parser" }

end Settings

end Collate
