import Collate.Ordering.Search

/-!
# Merging two runs

Two ordered lists that follow each other are merged into one.  Items of the first
list stay in front of equal items of the second.

A merge takes one item at a time until one list has delivered so many in a row
that searching for the end of its streak promises to be quicker; then it gallops
through both lists in turn, as long as the streaks stay long.  How many in a row
that takes (the *patience*) is learnt from one merge to the next.

## Strategy

Merging from the back is merging the reversed lists with the roles exchanged and
every question turned around, so there is one merge, seen from an `End`.  The
list called `kept` is the one whose last item is known to come last: the shorter
one.  `finished?` says when nothing is left to ask.
-/

namespace Collate.Ordering

variable {α : Type}

/-- A merged list, and the patience that the next merge starts with. -/
structure Merged (α : Type) where
  items : List α
  patience : Nat

/-- The merged list behind items that were taken before. -/
def Merged.behind (taken : List α) (merged : Merged α) : Merged α :=
  { merged with items := taken ++ merged.items }

/-- The length of a streak that is worth galloping for. -/
def longStreak : Nat := 7

/-- The list that is left to take when nothing is left to ask: the last item of
`kept` is known to come last. -/
def finished? : (kept other : List α) → Option (List α)
  | [], other => some other
  | kept, [] => some kept
  | [last], other => some (other ++ [last])
  | _ :: _ :: _, _ :: _ => none

/-- The list whose turn it is in a gallop. -/
inductive Turn where
  | kept
  | other
  deriving DecidableEq

/-- The turn after this one. -/
def Turn.next : Turn → Turn
  | kept => other
  | other => kept

/-- The turn that a gallop begins with. -/
def Turn.first : End → Turn
  | .front => kept
  | .back => other

/-- How far the current round of a gallop is. -/
inductive Round where
  | firstTurn
  /-- The other list has had its turn; its streak was long or it was not. -/
  | secondTurn (streak : Bool)

mutual

/-- Merges item by item.  `keptStreak` and `otherStreak` count the items that the
lists have just delivered in a row. -/
def mergeByItems (side : End) (patience keptStreak otherStreak : Nat) :
    (kept other : List α) → Inquiry α (Merged α)
  | x :: x' :: rest, y :: others =>
    (side.comesBefore y x).bind fun answer =>
      if answer then
        match finished? (x :: x' :: rest) others with
        | some left => .done ⟨y :: left, patience⟩
        | none =>
          (if patience ≤ otherStreak + 1 then
              mergeByGallop side patience (Turn.first side) .firstTurn (x :: x' :: rest) others
            else mergeByItems side patience 0 (otherStreak + 1) (x :: x' :: rest) others).map
            (Merged.behind [y])
      else
        match finished? (x' :: rest) (y :: others) with
        | some left => .done ⟨x :: left, patience⟩
        | none =>
          (if patience ≤ keptStreak + 1 then
              mergeByGallop side patience (Turn.first side) .firstTurn (x' :: rest) (y :: others)
            else mergeByItems side patience (keptStreak + 1) 0 (x' :: rest) (y :: others)).map
            (Merged.behind [x])
  | kept, other => .done ⟨(finished? kept other).getD (kept ++ other), patience⟩
termination_by kept other => 2 * (kept.length + other.length) + 1
decreasing_by all_goals simp +arith

/-- Merges streak by streak, each followed by the item that ended it. -/
def mergeByGallop (side : End) (patience : Nat) (turn : Turn) (round : Round) :
    (kept other : List α) → Inquiry α (Merged α)
  | x :: x' :: rest, y :: others =>
    let kept := x :: x' :: rest
    let other := y :: others
    match turn with
    | .kept =>
      (gallop side (fun item => (side.comesBefore y item).map not) kept).bind fun count =>
        match finished? (kept.drop count) others with
        | some left => .done ⟨kept.take count ++ y :: left, patience⟩
        | none =>
          (goOn side patience turn round (decide (longStreak ≤ count)) (kept.drop count) others
            (kept.length + other.length) (by simp [kept, other]; omega)).map
            (Merged.behind (kept.take count ++ [y]))
    | .other =>
      (gallop side (fun item => side.comesBefore item x) other).bind fun count =>
        match finished? (x' :: rest) (other.drop count) with
        | some left => .done ⟨other.take count ++ x :: left, patience⟩
        | none =>
          (goOn side patience turn round (decide (longStreak ≤ count)) (x' :: rest)
            (other.drop count) (kept.length + other.length) (by simp [kept, other]; omega)).map
            (Merged.behind (other.take count ++ [x]))
  | kept, other => .done ⟨(finished? kept other).getD (kept ++ other), patience⟩
termination_by kept other => 2 * (kept.length + other.length) + 1
decreasing_by all_goals simp +arith

/-- Goes on after one turn of a gallop: with the other turn, with another round, or
item by item if neither streak of the round was long. -/
def goOn (side : End) (patience : Nat) (turn : Turn) (round : Round) (streak : Bool)
    (kept other : List α) (bound : Nat) (_h : kept.length + other.length < bound) :
    Inquiry α (Merged α) :=
  match round with
  | .firstTurn => mergeByGallop side patience turn.next (.secondTurn streak) kept other
  | .secondTurn earlier =>
    if earlier || streak then
      mergeByGallop side (if 1 < patience then patience - 1 else patience) turn.next .firstTurn
        kept other
    else mergeByItems side (patience + 1) 0 0 kept other
termination_by 2 * bound
decreasing_by all_goals omega

end

end Collate.Ordering
