import Collate.Rule.Clause

/-!
# Reading rule text

A clause is an optional selector in braces, an optional `>` for descending
order, and a key: an attribute name, or a path written `.first.second`.  A
clause without a key reads the visible text.

Malformed clauses can be read in two ways.  Repairing, the reader makes the best
of them and reports every repair; strict, the first repair that would be needed
is an error.

## Strategy

`readKey` and `readParts` only repair: they return the parts of the clause
together with the list of repairs they needed, in the order in which they met
the faults.  `readClause` turns the parts into a rule, which can still fail: a
repair may leave an attribute name that no rule can have.  Strictness enters in
`readClauses` alone, where the first repair becomes an error.
-/

namespace Collate

open Text

/-! ## Repairs -/

/-- What a malformed clause needs before it can be read. -/
inductive Repair where
  | emptyClause
  | unmatchedOpening
  | openingInSelector
  | emptySelector
  | selectorNotFirst
  | repeatedDescending
  | strayClosing
  | blankInKey
  | emptySegment
  deriving DecidableEq

/-- The wording of a repair. -/
def Repair.message : Repair → String
  | emptyClause => "empty clause"
  | unmatchedOpening => "unmatched '\x7b'"
  | openingInSelector => "'\x7b' inside selector"
  | emptySelector => "empty selector"
  | selectorNotFirst => "selector must come first in a clause"
  | repeatedDescending => "repeated '>'"
  | strayClosing => "unexpected '\x7d' without a matching '\x7b'"
  | blankInKey => "whitespace inside key expression"
  | emptySegment => "empty property path segment"

/-- A repair, with the clause that needed it and the position of the clause. -/
structure Repaired where
  index : Nat
  clause : String
  repair : Repair
  deriving DecidableEq

/-- The report of a repair. -/
def Repaired.report (r : Repaired) : String :=
  "Recovered malformed rule clause " ++ toString r.index ++ " (" ++ quoted r.clause ++ "): " ++
    r.repair.message

/-- Why a rule text has no reading. -/
inductive Rule.Error where
  /-- Strict reading met a clause that needs a repair. -/
  | malformed (at_ : Repaired)
  /-- The parts of a clause, or of a payload, make no rule. -/
  | invalid (fault : Rule.Fault)

/-- The wording of an error. -/
def Rule.Error.message : Rule.Error → String
  | malformed r =>
    r.repair.message ++ " (clause " ++ toString r.index ++ ": " ++ quoted r.clause ++ ")"
  | invalid fault => fault.message

/-! ## The parts of a clause -/

/-- The segments between the dots of a path. -/
def splitDots : List Char → List (List Char)
  | [] => [[]]
  | c :: rest =>
    if c = '.' then [] :: splitDots rest
    else (splitDots rest).modifyHead (c :: ·)

/-- The key that an expression without reserved characters denotes. -/
def readPlainKey (expression : List Char) : Key × List Repair :=
  match expression with
  | [] => (.fallback, [])
  | '.' :: dotted =>
    let segments := splitDots dotted
    let used := segments.filter (· ≠ [])
    (if used = [] then .fallback else .path (used.map String.ofList),
      if used.length = segments.length then [] else [.emptySegment])
  | name => (.named (String.ofList name), [])

/-- The key of a clause.  A key ends at the first reserved character. -/
def readKey (expression : List Char) : Key × List Repair :=
  if expression = [] then (.fallback, [])
  else
    let (key, repairs) := readPlainKey (expression.takeWhile (!isReserved ·))
    (key,
      (if closeBrace ∈ expression then [.strayClosing] else []) ++
      (if expression.any isBlank then [.blankInKey] else []) ++ repairs)

/-- The selector of a clause that opens a brace, and what stands after it. -/
def readSelector (inner : List Char) : Option (List Char) × List Char × List Repair :=
  let closed := closeBrace ∈ inner
  let raw := trim (inner.takeWhile (· ≠ closeBrace))
  let rest := trim ((inner.dropWhile (· ≠ closeBrace)).drop 1)
  let nested := openBrace ∈ raw
  let selector := if nested then trim (raw.filter (· ≠ openBrace)) else raw
  (if selector = [] then none else some selector, rest,
    (if closed then [] else [.unmatchedOpening]) ++
    (if nested then [.openingInSelector] else []) ++
    (if selector = [] then [.emptySelector] else []))

/-- The parts of a clause, before they are known to make a rule. -/
structure ClauseParts where
  key : Key
  selector : Option String
  descending : Bool
  repairs : List Repair

/-- The direction and the key of a clause, after its selector. -/
def readDirectedKey (expression : List Char) : Bool × Key × List Repair :=
  match expression with
  | '>' :: rest =>
    let directed := trim rest
    if directed.head? = some '>' then
      let (key, repairs) := readKey (trim (directed.dropWhile (· = '>')))
      (true, key, .repeatedDescending :: repairs)
    else
      let (key, repairs) := readKey directed
      (true, key, repairs)
  | _ =>
    let (key, repairs) := readKey expression
    (false, key, repairs)

/-- The parts of a clause. -/
def readParts (clause : List Char) : ClauseParts :=
  let text := trim clause
  let (selector, expression, selectorRepairs) :=
    if text.head? = some openBrace then readSelector (text.drop 1)
    else (none, text, if openBrace ∈ text then [.selectorNotFirst] else [])
  let (descending, key, keyRepairs) := readDirectedKey expression
  { key, selector := selector.map String.ofList, descending,
    repairs := selectorRepairs ++ keyRepairs }

/-- The repairs that a clause needs and, unless it is blank, its rule. -/
def readClause (clause : List Char) : List Repair × Option (Except Rule.Fault Rule) :=
  if allBlank clause then ([.emptyClause], none)
  else
    let parts := readParts clause
    (parts.repairs, some (Rule.declare parts.key parts.selector parts.descending))

/-! ## Whole texts -/

/-- How malformed clauses are read. -/
inductive Strictness where
  /-- A clause that needs a repair is an error. -/
  | strict
  /-- Clauses are repaired, and the repairs reported. -/
  | repairing
  deriving DecidableEq

/-- The rules of a list of clauses, the first of which stands at `index`, and
the repairs made on the way. -/
def readClauses (mode : Strictness) :
    (index : Nat) → List (List Char) → Except Rule.Error (List Rule) × List Repaired
  | _, [] => (.ok [], [])
  | index, clause :: rest =>
    let (repairs, outcome) := readClause clause
    let repaired := repairs.map fun repair => { index, clause := String.ofList clause, repair }
    match mode, repaired with
    | .strict, first :: _ => (.error (.malformed first), [])
    | _, _ =>
      match outcome with
      | some (.error fault) => (.error (.invalid fault), repaired)
      | some (.ok rule) =>
        let (rules, later) := readClauses mode (index + 1) rest
        (rules.map (rule :: ·), repaired ++ later)
      | none =>
        let (rules, later) := readClauses mode (index + 1) rest
        (rules, repaired ++ later)

namespace Rule

/-- The rules of a rule text, and the repairs made in reading it.  A blank text
has no rules. -/
def read (mode : Strictness) (text : String) : Except Rule.Error (List Rule) × List Repaired :=
  if allBlank text.toList then (.ok [], [])
  else readClauses mode 0 (splitClauses (trim text.toList))

/-- The rules of a text that may be absent. -/
def read? (mode : Strictness) (text : Option String) :
    Except Rule.Error (List Rule) × List Repaired :=
  match text with
  | none => (.ok [], [])
  | some text => read mode text

/-- The rules of a text that is read strictly. -/
def readStrict (text : String) : Except Rule.Error (List Rule) := (read .strict text).1

end Rule

end Collate
