import Collate.Ordering.Inquiry

/-!
# Searching an ordered list

Both searches count how many items at the front of a list *stay* in front of
some other item, in a list where those that stay come first.

`bisect` halves the stretch in question.  `gallop` looks at the items 0, 1, 3,
7, … until one does not stay, and halves only the last stretch; it is quick when
few items stay.

A search can run from either end of a list.  Seen from the back, the list is
reversed and so is the meaning of every question.  One thing stays as it is: of
the two middle items of an even stretch, the search looks at the one nearer to
the true end of the list.
-/

namespace Collate.Ordering

variable {α : Type}

/-- The end from which a list is seen. -/
inductive End where
  | front
  | back
  deriving DecidableEq

/-- Whether `x` comes before `y`, as seen from an end. -/
def End.comesBefore (side : End) (x y : α) : Inquiry α Bool :=
  match side with
  | .front => .comesBefore x y
  | .back => .comesBefore y x

/-- The middle of a stretch of items. -/
def End.middle (side : End) (count : Nat) : Nat :=
  match side with
  | .front => count / 2
  | .back => (count + 1) / 2 - 1

theorem End.middle_lt (side : End) {count : Nat} (h : 0 < count) : side.middle count < count := by
  cases side <;> simp only [middle] <;> omega

/-- How many of the first `start + count` items stay, if the first `start` do. -/
def bisect (side : End) (stays : α → Inquiry α Bool) (items : List α) (start count : Nat) :
    Inquiry α Nat :=
  if count = 0 then .done start
  else
    let half := side.middle count
    match items[start + half]? with
    | none => .done start
    | some item =>
      (stays item).bind fun answer =>
        if answer then bisect side stays items (start + half + 1) (count - half - 1)
        else bisect side stays items start half
termination_by count
decreasing_by
  · omega
  · exact side.middle_lt (by omega)

/-- How many items stay, if the items up to position `last` do and `next` is the
position to look at. -/
def gallopFrom (side : End) (stays : α → Inquiry α Bool) (items : List α) (last next : Nat) :
    Inquiry α Nat :=
  match h : items[next]? with
  | none => bisect side stays items (last + 1) (items.length - (last + 1))
  | some item =>
    (stays item).bind fun answer =>
      if answer then gallopFrom side stays items next (2 * next + 1)
      else bisect side stays items (last + 1) (next - (last + 1))
termination_by items.length - next
decreasing_by
  have := (List.getElem?_eq_some_iff.mp h).1
  omega

/-- How many items stay. -/
def gallop (side : End) (stays : α → Inquiry α Bool) (items : List α) : Inquiry α Nat :=
  match items with
  | [] => .done 0
  | first :: _ =>
    (stays first).bind fun answer =>
      if answer then gallopFrom side stays items 0 1 else .done 0

end Collate.Ordering
