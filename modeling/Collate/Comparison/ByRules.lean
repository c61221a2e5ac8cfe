import Collate.Rule.Basic
import Collate.Value.Order

/-!
# Comparison by rules

Two items are compared rule by rule, the first rule first.  The first rule on
which they do not tie decides: the item with the lesser value comes first, or the
other one if the rule is descending or the comparison is reversed, but not both.
Missing values come last in any direction.

Values that have no order count as greater, whichever comes first.

## Strategy

`precedence` is the verdict of one rule on two values; `compareByRules` looks the
values up, in any monad in which a lookup may happen, and stops at the first
verdict.
-/

namespace Collate

/-- The verdict of one rule on two values, negative if the first comes first;
none if they tie.  `flipped` says that the greater value comes first. -/
def precedence (flipped : Bool) (first second : Value) : Except Failure (Option Int) :=
  if first.isMissing && second.isMissing then .ok none
  else if first.isMissing then .ok (some 1)
  else if second.isMissing then .ok (some (-1))
  else if Value.same first second then .ok none
  else
    (Value.lesser first second).map fun lesser => some (if lesser = flipped then 1 else -1)

/-- Compares two items: negative if the first comes first, positive if the second
does, zero if they tie on every rule. -/
def compareByRules {m : Type → Type} [Monad m] [MonadExceptOf Failure m] {α : Type}
    (lookup : α → Rule → m Value) (reverse : Bool) (a b : α) : List Rule → m Int
  | [] => pure 0
  | rule :: rest => do
    let first ← lookup a rule
    let second ← lookup b rule
    match ← orRaise (precedence (reverse != rule.descending) first second) with
    | some verdict => pure verdict
    | none => compareByRules lookup reverse a b rest

end Collate
