import Collate.CommandLine.Request
import Collate.CommandLine.Summary
import Collate.Markup.Source
import Collate.Placement

/-!
# Carrying out a request

A run reads a document, sorts its containers, and writes the document or a summary of
what was done.  Records of at least the wanted severity are written beside it.  Rule
text that strictness rejects and a selector without containers end a run with a
message; any other fault is not handled here.

## Strategy

`Task.ofWords` does what comes before the document is read and `Task.run` what comes
after, so that only the reading in between depends on the outside.
-/

namespace Collate.CommandLine

open Markup

/-! ## Levels -/

/-- The weight of a severity. -/
def weight : Severity → Nat
  | .debug => 10
  | .info => 20
  | .warning => 30

/-- The least weight that a level lets through. -/
def threshold? : String → Option Nat
  | "CRITICAL" | "FATAL" => some 50
  | "ERROR" => some 40
  | "WARNING" | "WARN" => some 30
  | "INFO" => some 20
  | "DEBUG" => some 10
  | "NOTSET" => some 0
  | _ => none

/-- The lines of the records that a level lets through. -/
def recordLines (threshold : Nat) (records : List Record) : String :=
  String.join <|
    (records.filter fun r => threshold ≤ weight r.severity).map fun r =>
      r.severity.name ++ " " ++ r.source ++ ": " ++ r.message ++ "\n"

/-! ## Outcomes -/

/-- A fault that a run does not handle. -/
inductive Fault where
  | unknownLevel (name : String)
  | noFile (name : String)
  | sorter (fault : SorterFault)
  | source (fault : SourceFault)
  | selector (error : Selector.Error)

/-- The wording of the fault that there is no such level. -/
def Fault.levelMessage (name : String) : String := "Unknown level: " ++ Text.quoted name

/-- The wording of the fault that there is no such file. -/
def Fault.fileMessage (name : String) : String :=
  "[Errno 2] No such file or directory: " ++ Text.quoted name

/-- How a run ends, with what it has written. -/
inductive Outcome where
  | refused (refusal : Refusal)
  | finished (code : Nat) (output errors : String)
  | failed (fault : Fault) (errors : String)

/-! ## Running -/

/-- A request that is ready for its document. -/
structure Task where
  request : Request
  threshold : Nat

/-- The task that the words of a command line make. -/
def Task.ofWords (settings : Settings) (words : List String) : Except Outcome Task := do
  let request ← (Request.read words).mapError .refused
  let level := Settings.upperCased (request.logLevel.getD settings.logLevel)
  match threshold? level with
  | some threshold => return { request, threshold }
  | none => throw (.failed (.unknownLevel level) "")

/-- The file that a task reads, unless it reads the input. -/
def Task.file? (task : Task) : Option String := task.request.file.filter (¬ ·.isEmpty)

/-- What was done by some sorts. -/
def summaryOf (rules : String) (results : List (Sorted Nat)) : Summary where
  rules := rules
  containers := results.length
  moved := results.foldr (fun result moved => result.moved + moved) 0
  warnings := results.flatMap Sorted.warnings

/-- Carries out a task on the text of its document. -/
def Task.run (task : Task) (settings : Settings) (text : String) : Outcome :=
  let request := task.request
  let shown (records : List Record) : String := recordLines task.threshold records
  let refused (message : String) (errors : String) : Outcome :=
    .finished 2 "" (errors ++ "error: " ++ message ++ "\n")
  let (made, repaired) := Sorter.forDocuments .standard settings request.rulesText
    (if request.strict then .strict else .repairing)
    { reverse := request.reverse, random := request.random, seed := request.seed }
  match made with
  | .error (.rule (.malformed fault)) => refused (Rule.Error.malformed fault).message ""
  | .error fault =>
    .failed (.sorter fault) (shown (repaired.map fun r => ⟨.debug, Sorter.repairSource, r.report⟩))
  | .ok sorter =>
    match Document.readBy settings.documentReader text with
    | .error fault => .failed (.source fault) (shown sorter.bulletin.journal)
    | .ok document =>
      let (outcome, desk) := (Desk.sortDocument request.container request.all).run.run
        { sorter, document, engine := .standard }
      let errors := shown desk.sorter.bulletin.journal
      match outcome with
      | .error (.noContainer selector) =>
        refused (PlacementFault.noContainerMessage selector) errors
      | .error (.selector error) => .failed (.selector error) errors
      | .error (.sorter fault) => .failed (.sorter fault) errors
      | .ok results =>
        let output :=
          if request.json then (summaryOf desk.sorter.rulesText results).json else desk.text
        .finished 0 (output ++ "\n") errors

/-- A text with every line end being a single line feed. -/
def withPlainLineEnds : List Char → List Char
  | '\r' :: '\n' :: rest => '\n' :: withPlainLineEnds rest
  | '\r' :: rest => '\n' :: withPlainLineEnds rest
  | c :: rest => c :: withPlainLineEnds rest
  | [] => []

/-- A text with plain line ends. -/
def plainLineEnds (text : String) : String := String.ofList (withPlainLineEnds text.toList)

/-- Carries out a command line, where some files can be read. -/
def carryOut (settings : Settings) (files : String → Option String) (input : String)
    (words : List String) : Outcome :=
  match Task.ofWords settings words with
  | .error outcome => outcome
  | .ok task =>
    match task.file? with
    | none => task.run settings input
    | some name =>
      match files name with
      | none => .failed (.noFile name) ""
      | some text => task.run settings (plainLineEnds text)

end Collate.CommandLine
