import Collate.Comparison.Comparator
import Collate.Hub.Publish
import Collate.Lookup.Resolve
import Collate.Rule.Mapping
import Collate.Rule.Reading

/-!
# Sorters

A sorter holds the rules and options by which it sorts, and announces on its hub
what it has done: every completed sort, and every change of its rules.  It always
has a rule; without any other, it sorts by visible text.

A sort builds a comparator from the configuration of the moment, clears the
warnings of the sort before, and asks its questions.  If a question fails, nothing
is announced.

## Strategy

Items are of any type with decidable equality, which says what counts as the same
item; `view` shows the value that an item is at the moment.
-/

namespace Collate

/-! ## State -/

/-- The outcome of a sort. -/
structure Sorted (α : Type) where
  order : List α
  /-- The number of positions that hold another item than before. -/
  moved : Nat
  warnings : List String

/-- What a sorter announces. -/
inductive Announcement (α : Type) where
  | sorted (result : Sorted α)
  | rulesChanged (rules : List Rule)

/-- The names of the events of a sorter. -/
def Announcement.eventName {α : Type} : Announcement α → String
  | sorted _ => "sort_completed"
  | rulesChanged _ => "rules_changed"

/-- A sorter of items of type `α`. -/
structure Sorter (α : Type) where
  reader : ItemReader
  rules : List Rule
  options : CompareOptions
  bulletin : Bulletin
  hub : Hub (Announcement α)
  rules_ne_nil : rules ≠ []

/-- Why a sorter does not do what it is asked for. -/
inductive SorterFault where
  | failure (failure : Failure)
  | rule (error : Rule.Error)
  | list (fault : Rule.ListFault)

namespace Sorter

variable {α : Type}

/-- A computation on a sorter. -/
abbrev OnSorter (α : Type) := ExceptT SorterFault (StateM (Sorter α))

/-! ## Configuration -/

/-- The rules to sort by, if these were asked for. -/
def orDefaults (rules : List Rule) : { rules : List Rule // rules ≠ [] } :=
  if h : rules = [] then ⟨Rule.defaults, by simp [Rule.defaults]⟩ else ⟨rules, h⟩

/-- A new sorter. -/
def create (reader : ItemReader) (rules : List Rule) (options : CompareOptions)
    (bulletin : Bulletin) : Sorter α :=
  let chosen := orDefaults rules
  { reader, options, bulletin, rules := chosen.1, hub := {}, rules_ne_nil := chosen.2 }

/-- The rules of the sorter as rule text. -/
def rulesText (sorter : Sorter α) : String := Rule.textOf sorter.rules

/-- The sorter with other rules; without any, those for visible text. -/
def withRules (sorter : Sorter α) (rules : List Rule) : Sorter α :=
  let chosen := orDefaults rules
  { sorter with rules := chosen.1, rules_ne_nil := chosen.2 }

/-- The source of the records about repairs. -/
def repairSource : String := "sorting.rule_parser"

/-- The bulletin with records about the repairs that rule text needed. -/
def recordRepairs (bulletin : Bulletin) (repaired : List Repaired) : Bulletin :=
  repaired.foldl (fun bulletin r => bulletin.record .debug repairSource r.report) bulletin

/-- A sorter with rules given as payloads, or else as rule text, or else none. -/
def establish (reader : ItemReader) (payload : Option Payload) (text : Option String)
    (options : CompareOptions) (capacity : Int) (outlet : Outlet) :
    Except SorterFault (Sorter α) := do
  let bulletin ← (Bulletin.open? capacity outlet).mapError .failure
  match payload with
  | some payload =>
    let rules ← (Rule.ofPayloads payload).mapError .list
    return create reader rules options bulletin
  | none =>
    let (outcome, repaired) := Rule.read? .repairing text
    let rules ← outcome.mapError .rule
    return create reader rules options (recordRepairs bulletin repaired)

/-- Lets the hub of a sorter act. -/
def onHub {β : Type} (action : Hub.OnHub (Announcement α) β) : OnSorter α β := fun sorter =>
  match action sorter.hub with
  | (.ok result, hub) => (.ok result, { sorter with hub })
  | (.error failure, hub) => (.error (.failure failure), { sorter with hub })

/-- Announces something to the subscribers. -/
def announce (announcement : Announcement α) : OnSorter α Unit :=
  onHub (Hub.publish ⟨announcement.eventName, announcement⟩)

/-- Replaces the rules. -/
def setRules (rules : List Rule) : OnSorter α Unit := do
  modify fun sorter => sorter.withRules rules
  announce (.rulesChanged (← get).rules)

/-- Replaces the rules by those that payloads denote. -/
def setPayloads (payload : Payload) : OnSorter α Unit := do
  match Rule.ofPayloads payload with
  | .error fault => throw (.list fault)
  | .ok rules => setRules rules

/-- Replaces the rules by those of a rule text, which is repaired where needed. -/
def setBy (text : Option String) : OnSorter α Unit := do
  let (outcome, repaired) := Rule.read? .repairing text
  modify fun sorter => { sorter with bulletin := recordRepairs sorter.bulletin repaired }
  match outcome with
  | .error error => throw (.rule error)
  | .ok rules => setRules rules

/-! ## Looking up and comparing -/

/-- Runs a computation that reports. -/
def reporting {β : Type} (action : Reporting β) : OnSorter α β := fun sorter =>
  match action sorter.bulletin with
  | (.ok result, bulletin) => (.ok result, { sorter with bulletin })
  | (.error failure, bulletin) => (.error (.failure failure), { sorter with bulletin })

/-- Looks up the value of a rule. -/
def lookup (item : Value) (rule : Rule) : OnSorter α Value := do
  reporting ((← get).reader.lookup item rule)

/-- The comparator of the present configuration. -/
def comparator (sorter : Sorter α) : Comparator := .build sorter.rules sorter.options

/-- Compares two items by a comparator that was built before. -/
def compare (comparator : Comparator) (a b : Value) : OnSorter α (Value × Comparator) := do
  let reader := (← get).reader
  reporting (comparator.compare reader.lookup a b)

/-! ## Sorting -/

/-- The number of positions at which two lists differ. -/
def differences [DecidableEq α] : List α → List α → Nat
  | x :: xs, y :: ys => (if x = y then 0 else 1) + differences xs ys
  | _, _ => 0

/-- The source of the records about sorts. -/
def sortSource : String := "sorting.sorter"

/-- The record of a sort. -/
def sortMessage (rulesShown : String) (count moved warnings : Nat) : String :=
  "Sorted " ++ toString count ++ " items by " ++ Text.quoted rulesShown ++ " (moved=" ++
    toString moved ++ ", warnings=" ++ toString warnings ++ ")"

/-- Sorts items by asking whether one of them comes before another, and announces their order.
The answers may depend on a state, which they may change. -/
def sortAsking [DecidableEq α] {σ : Type} (answer : α → α → StateT σ Reporting Bool) (state : σ)
    (items : List α) : OnSorter α (Sorted α) := do
  modify fun sorter => { sorter with bulletin := sorter.bulletin.cleared }
  let order ← reporting (((Ordering.sort items).run answer).run' state)
  let sorter ← get
  let result : Sorted α :=
    { order, moved := differences items order, warnings := sorter.bulletin.recent }
  let message := sortMessage sorter.rulesText order.length result.moved result.warnings.length
  modify fun sorter =>
    { sorter with bulletin := sorter.bulletin.record .debug sortSource message }
  announce (.sorted result)
  return result

/-- Sorts items by the comparator of the present configuration. -/
def sort [DecidableEq α] (view : α → Value) (items : List α) : OnSorter α (Sorted α) := do
  let sorter ← get
  sortAsking (Comparator.answer sorter.reader.lookup view) sorter.comparator items

end Sorter

end Collate
