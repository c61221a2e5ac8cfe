import Collate.Ordering.Merge
import Collate.Ordering.Run

/-!
# Sorting

A list is sorted by cutting it into runs and merging neighbouring runs until one
is left.  The sort is stable, and it only ever asks whether one item comes before
another.

Which neighbours are merged when is decided by the *power* of the border between
them: the first binary digit in which the middles of the two runs, as fractions of
the whole list, differ.  Borders of greater power disappear first.

## Strategy

`Stack` holds the runs found so far, the last one on top.  `addRun` merges until
the borders in the stack have ascending powers; `mergeAll` merges what is left when
no run follows.
-/

namespace Collate.Ordering

variable {α : Type}

/-! ## Merging neighbours -/

/-- Two neighbouring runs as one.  Items that are in place already are set apart
before the merge, which starts from the end where the shorter run is. -/
def mergeRuns (patience : Nat) (left right : List α) : Inquiry α (Merged α) :=
  match right.head?, left.getLast? with
  | some firstRight, some lastLeft =>
    (gallop .front (fun item => (Inquiry.comesBefore firstRight item).map not) left).bind
      fun placed =>
        let before := left.take placed
        let left' := left.drop placed
        if left' = [] then .done ⟨left ++ right, patience⟩
        else
          (gallop .back (fun item => (Inquiry.comesBefore item lastLeft).map not)
            right.reverse).bind fun placedBack =>
              let right' := right.take (right.length - placedBack)
              let after := right.drop (right.length - placedBack)
              (mergeMiddle left' right').map fun merged =>
                { merged with items := before ++ merged.items ++ after }
  | _, _ => .done ⟨left ++ right, patience⟩
where
  /-- Two runs as one, the first item of the second and the last item of the first
  being out of place. -/
  mergeMiddle (left right : List α) : Inquiry α (Merged α) :=
    if left.length ≤ right.length then mergeFrom .front left right
    else
      (mergeFrom .back right.reverse left.reverse).map fun merged =>
        { merged with items := merged.items.reverse }
  /-- The merge from one end, where the first item of `other` comes first. -/
  mergeFrom (side : End) (kept other : List α) : Inquiry α (Merged α) :=
    match other with
    | [] => .done ⟨kept, patience⟩
    | first :: rest =>
      match finished? kept rest with
      | some left => .done ⟨first :: left, patience⟩
      | none => (mergeByItems side patience 0 0 kept rest).map (Merged.behind [first])

/-! ## Powers -/

/-- The first binary digit in which `a / n` and `b / n` differ, counted on from
`digit`. -/
def firstDifference (fuel digit a b n : Nat) : Nat :=
  match fuel with
  | 0 => digit
  | fuel + 1 =>
    if n ≤ a then firstDifference fuel (digit + 1) (2 * (a - n)) (2 * (b - n)) n
    else if n ≤ b then digit
    else firstDifference fuel (digit + 1) (2 * a) (2 * b) n

/-- The power of the border between two runs of these lengths, the first of which
starts at a position of a list of `n` items. -/
def borderPower (start left right n : Nat) : Nat :=
  firstDifference n 1 (2 * start + left) (2 * start + left + left + right) n

/-! ## The stack of runs -/

/-- A run, with the power of the border below it. -/
structure Pending (α : Type) where
  run : List α
  power : Nat

/-- The runs found so far, the last one first. -/
abbrev Stack (α : Type) := List (Pending α)

/-- The number of items in a stack. -/
def Stack.size (stack : Stack α) : Nat :=
  stack.foldr (fun pending size => pending.run.length + size) 0

/-- Merges the top run with those below it, as long as the border between them has
a greater power than the one to come. -/
def mergeAbove (patience power : Nat) (run : List α) (borderBelow : Nat) :
    Stack α → Inquiry α (Stack α × Nat)
  | [] => .done ([⟨run, borderBelow⟩], patience)
  | below :: rest =>
    if power < borderBelow then
      (mergeRuns patience below.run run).bind fun merged =>
        mergeAbove merged.patience power merged.items below.power rest
    else .done (⟨run, borderBelow⟩ :: below :: rest, patience)

/-- Puts a run on the stack. -/
def addRun (total patience : Nat) (run : List α) :
    Stack α → Inquiry α (Stack α × Nat)
  | [] => .done ([⟨run, 0⟩], patience)
  | top :: below =>
    let power := borderPower (Stack.size below) top.run.length run.length total
    (mergeAbove patience power top.run top.power below).map fun (stack, patience) =>
      (⟨run, power⟩ :: stack, patience)

/-- Merges the runs of a stack into one, the top two first unless the one below them
is shorter than the top one. -/
def mergeAll (patience : Nat) : Stack α → Inquiry α (List α)
  | [] => .done []
  | [last] => .done last.run
  | [top, below] => (mergeRuns patience below.run top.run).map Merged.items
  | top :: middle :: below :: rest =>
    if below.run.length < top.run.length then
      (mergeRuns patience below.run middle.run).bind fun merged =>
        mergeAll merged.patience (top :: ⟨merged.items, below.power⟩ :: rest)
    else
      (mergeRuns patience middle.run top.run).bind fun merged =>
        mergeAll merged.patience (⟨merged.items, middle.power⟩ :: below :: rest)
termination_by stack => stack.length

/-! ## The sort -/

/-- Sorts what follows the runs of a stack. -/
def sortOnto (least total patience : Nat) (stack : Stack α) :
    List α → Inquiry α (List α)
  | [] => mergeAll patience stack
  | first :: rest =>
    (takeRun least first rest).bind fun (run, count) =>
      (addRun total patience run stack).bind fun (stack, patience) =>
        sortOnto least total patience stack (rest.drop count)
termination_by items => items.length
decreasing_by simp only [List.length_drop, List.length_cons]; omega

/-- Sorts a list.  Lists of fewer than two items need no question. -/
def sort (items : List α) : Inquiry α (List α) :=
  sortOnto (leastRun items.length) items.length longStreak [] items

end Collate.Ordering
