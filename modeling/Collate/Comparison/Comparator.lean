import Collate.Comparison.ByRules
import Collate.Ordering.Sort
import Collate.Twister
import Collate.Value.Arithmetic

/-!
# Comparators

A comparator is what a sort asks: built once from rules and options, it is not
affected by what is changed later.  It shuffles, if that is wanted; else it
follows a custom comparison, whose sign is turned around when reversed; else it
compares by rules.

A shuffling comparator flips a coin for every question and keeps its own source of
flips; its items do not matter.

What a comparator answers is a value, which says yes if it is below zero.  A custom
comparison may answer anything; not everything can be turned around or compared with
zero, and a question that meets such an answer fails.

The custom comparison of a `Comparator` depends on the items alone.  A sort may also ask
one that remembers what it was asked (`Comparator.answerRemembering`); then the state of
its memory goes from question to question, as the source of flips does.
-/

namespace Collate

/-- A comparison of two items by a number; negative if the first comes first.  The answer depends
on the items alone. -/
abbrev CustomComparison := Value → Value → Except Failure Value

/-- A comparison that may remember what it was asked before, and answer accordingly. -/
abbrev RememberingComparison (σ : Type) := Value → Value → StateT σ (Except Failure) Value

/-- How items are compared, besides the rules. -/
structure CompareOptions where
  /-- Whether to shuffle. -/
  random : Bool := false
  reverse : Bool := false
  custom : Option CustomComparison := none
  seed : Option Int := none

/-- A comparison of items, ready to be asked. -/
inductive Comparator where
  | shuffle (source : Twister)
  | custom (compare : CustomComparison) (reverse : Bool)
  | byRules (rules : List Rule) (reverse : Bool)

namespace Comparator

/-- The comparator for these rules and options. -/
def build (rules : List Rule) (options : CompareOptions) : Comparator :=
  if options.random then .shuffle (Twister.ofSeed (options.seed.getD 0))
  else
    match options.custom with
    | some compare => .custom compare options.reverse
    | none => .byRules rules options.reverse

variable {m : Type → Type} [Monad m] [MonadExceptOf Failure m]

/-- Compares two items.  The answer is a number, which is negative if the first
comes first; the comparator that comes with it answers the next question. -/
def compare (lookup : Value → Rule → m Value) (a b : Value) :
    Comparator → m (Value × Comparator)
  | .shuffle source =>
    pure (.int (if source.flip.1 then -1 else 1), .shuffle source.flip.2)
  | .custom f reverse => do
    let result ← orRaise ((f a b).bind (Value.withSign reverse))
    pure (result, .custom f reverse)
  | .byRules rules reverse => do
    let result ← compareByRules lookup reverse a b rules
    pure (.int result, .byRules rules reverse)

/-- Answers the question whether one item comes before another, where `view` shows
the items. -/
def answer {α : Type} (lookup : Value → Rule → m Value) (view : α → Value) (a b : α) :
    StateT Comparator m Bool := fun asked => do
  let (result, next) ← asked.compare lookup (view a) (view b)
  let first ← orRaise (result.less (.int 0))
  pure (first, next)

/-- Answers the question likewise, where a comparison that may remember is followed. -/
def answerRemembering {α σ : Type} (compare : RememberingComparison σ) (reverse : Bool)
    (view : α → Value) (a b : α) : StateT σ m Bool := fun state => do
  let (result, next) ← orRaise (compare (view a) (view b) state)
  let signed ← orRaise (result.withSign reverse)
  let first ← orRaise (signed.less (.int 0))
  pure (first, next)

/-- Sorts items by asking a comparator. -/
def sort {α : Type} (lookup : Value → Rule → m Value) (view : α → Value) (items : List α)
    (comparator : Comparator) : m (List α) :=
  ((Ordering.sort items).run (answer lookup view)).run' comparator

end Comparator

end Collate
