import Collate.CommandLine.Run

/-!
# Command line

Sorts the children of the containers of a document from the command line.  The
document comes from a file or from the input, whose line ends are made plain.
-/

namespace Collate.CommandLine

/-- The settings that are read from variables of the environment. -/
def environmentSettings : IO (Except Failure Settings) := do
  let names :=
    ["SORTER_DEFAULT_BY", "SORTER_LOG_LEVEL", "SORTER_RANDOM_SEED", "SORTER_MAX_WARNINGS",
     "SORTER_HTML_PARSER"]
  let given ← names.filterMapM fun name => do
    return (← IO.getEnv name).map fun value => (name, value)
  return Settings.ofVariables given

/-- The wording of a fault that ends the program. -/
def faultMessage : Fault → String
  | .unknownLevel name => Fault.levelMessage name
  | .noFile name => Fault.fileMessage name
  | .sorter (.failure failure) => failure.shown
  | .sorter (.rule error) => error.message
  | .sorter (.list fault) => fault.message
  | .source fault => fault.message
  | .selector error => error.message

/-- Writes how a run ended and gives its exit code. -/
def report (outcome : Outcome) : IO UInt32 := do
  match outcome with
  | .refused refusal =>
    IO.eprintln refusal.line
    return refusal.code.toUInt32
  | .finished code output errors =>
    IO.eprint errors
    IO.print output
    return code.toUInt32
  | .failed fault errors =>
    IO.eprint errors
    IO.eprintln (faultMessage fault)
    return 1

/-- The text of the file of this name, if it can be read. -/
def readFile? (name : String) : IO (Option String) := do
  try
    return some (← IO.FS.readFile name)
  catch _ => return none

/-- All of the input. -/
partial def readInput (input : IO.FS.Stream) (before : String) : IO String := do
  let line ← input.getLine
  if line.isEmpty then return before
  readInput input (before ++ line)

end Collate.CommandLine

open Collate CommandLine in
def main (words : List String) : IO UInt32 := do
  match ← environmentSettings with
  | .error failure =>
    IO.eprintln failure.shown
    return 1
  | .ok settings =>
    match Task.ofWords settings words with
    | .error outcome => report outcome
    | .ok task =>
      match task.file? with
      | none =>
        let text ← readInput (← IO.getStdin) ""
        report (carryOut settings (fun _ => none) (plainLineEnds text) words)
      | some name =>
        let text ← readFile? name
        report (carryOut settings (fun _ => text) "" words)
