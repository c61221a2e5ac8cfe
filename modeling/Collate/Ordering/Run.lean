import Collate.Ordering.Search

/-!
# Runs

A list is cut into runs: stretches that are in order already, or in strictly
descending order and can be turned around.  A run that is too short takes in the
items after it, each inserted behind the items that it does not come before.

Up to 63 items a list is a single run.
-/

namespace Collate.Ordering

variable {α : Type}

/-- How many of the items after `previous` continue a run, which descends or does
not. -/
def continuing (descending : Bool) (previous : α) : List α → Inquiry α Nat
  | [] => .done 0
  | item :: rest =>
    (Inquiry.comesBefore item previous).bind fun answer =>
      if answer = descending then (continuing descending item rest).map (· + 1) else .done 0

/-- How many of the items after the first belong to the run at the start of a list,
and whether the run descends. -/
def firstRun (first : α) : List α → Inquiry α (Nat × Bool)
  | [] => .done (0, false)
  | second :: rest =>
    (Inquiry.comesBefore second first).bind fun descending =>
      (continuing descending second rest).map fun count => (count + 1, descending)

/-- A list with an item inserted behind the first `count` ones. -/
def insertBehind (item : α) (count : Nat) (items : List α) : List α :=
  items.take count ++ item :: items.drop count

/-- A run with more items inserted one after the other. -/
def insertAll (run : List α) : List α → Inquiry α (List α)
  | [] => .done run
  | item :: rest =>
    (bisect .front (fun other => (Inquiry.comesBefore item other).map not) run 0 run.length).bind
      fun count => insertAll (insertBehind item count run) rest

/-- The least length of a run in a list of `count` items, plus one if a larger
piece of the list was cut with a remainder. -/
def leastRun (count : Nat) : Nat :=
  if h : 64 ≤ count then
    if count % 2 = 1 then leastRunAbove (count / 2) else leastRun (count / 2)
  else count
termination_by count
where
  /-- The least length of a run when some remainder was already dropped. -/
  leastRunAbove (count : Nat) : Nat :=
    if h : 64 ≤ count then leastRunAbove (count / 2) else count + 1
  termination_by count

/-- The first run of a list that begins with `first`, of at least `least` items if
there are as many, with the number of items after the first that it takes. -/
def takeRun (least : Nat) (first : α) (rest : List α) : Inquiry α (List α × Nat) :=
  (firstRun first rest).bind fun (count, descending) =>
    let found := first :: rest.take count
    let run := if descending then found.reverse else found
    let wanted := min (least - 1) rest.length
    if count < wanted then
      (insertAll run ((rest.take wanted).drop count)).map fun longer => (longer, wanted)
    else .done (run, count)

end Collate.Ordering
