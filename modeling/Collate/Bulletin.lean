import Collate.Failure

/-!
# Bulletins

Sorting reports on itself in two ways.  Warnings are kept in a buffer that holds
the most recent ones, and are handed on one by one; where no listener takes them
they enter the journal, together with the records of other parts.

A listener may refuse a warning, after it has heard it.

## Strategy

`Bulletin` is the state, `Reporting` a computation that may add to it and may
fail; what was reported before a failure stays reported.  The buffer is always
the tail of what was posted since it was last cleared (`recent_post`).
-/

namespace Collate

/-! ## Records -/

/-- How serious a record is. -/
inductive Severity where
  | debug
  | info
  | warning
  deriving DecidableEq

/-- The name of a severity. -/
def Severity.name : Severity → String
  | debug => "DEBUG"
  | info => "INFO"
  | warning => "WARNING"

/-- An entry of the journal. -/
structure Record where
  severity : Severity
  /-- The part of the program that speaks. -/
  source : String
  message : String
  deriving DecidableEq

/-! ## The state -/

/-- Where warnings are handed to. -/
inductive Outlet where
  | journal
  /-- A listener; it may refuse every warning, after it has heard it. -/
  | listener (refusal : Option Failure)
  /-- A listener that decides by all that it has heard, oldest first, whether it refuses the
  latest warning. -/
  | critic (verdict : List String → Option Failure)

/-- What has been reported so far. -/
structure Bulletin where
  capacity : Nat
  outlet : Outlet
  /-- The most recent warnings, oldest first. -/
  recent : List String
  /-- What the listener has heard, oldest first. -/
  heard : List String
  journal : List Record

namespace Bulletin

/-- Nothing reported yet, with room for this many warnings. -/
def opened (capacity : Nat) (outlet : Outlet) : Bulletin :=
  { capacity, outlet, recent := [], heard := [], journal := [] }

/-- Nothing reported yet, with room for a number of warnings that should not be
negative. -/
def open? (capacity : Int) (outlet : Outlet) : Except Failure Bulletin :=
  if capacity < 0 then .error .negativeCapacity else .ok (opened capacity.toNat outlet)

/-- The last `count` members of a list. -/
def lastOf {α : Type} (count : Nat) (all : List α) : List α := all.drop (all.length - count)

/-- The state with a record added to the journal. -/
def record (bulletin : Bulletin) (severity : Severity) (source message : String) : Bulletin :=
  { bulletin with journal := bulletin.journal ++ [⟨severity, source, message⟩] }

/-- The state without what listener and journal have got so far. -/
def turned (bulletin : Bulletin) : Bulletin := { bulletin with heard := [], journal := [] }

/-- The state with an empty buffer. -/
def cleared (bulletin : Bulletin) : Bulletin := { bulletin with recent := [] }

/-- The source of warnings in the journal. -/
def warningSource : String := "sorting.value_lookup"

/-- The state after a warning. -/
def post (bulletin : Bulletin) (message : String) : Bulletin :=
  let kept := { bulletin with recent := lastOf bulletin.capacity (bulletin.recent ++ [message]) }
  match bulletin.outlet with
  | .journal => kept.record .warning warningSource message
  | .listener _ | .critic _ => { kept with heard := kept.heard ++ [message] }

/-- The refusal that answers a warning, if there is one. -/
def refusal? (bulletin : Bulletin) : Option Failure :=
  match bulletin.outlet with
  | .journal => none
  | .listener refusal => refusal
  | .critic verdict => verdict bulletin.heard

theorem lastOf_lastOf_append {α : Type} (count : Nat) (all : List α) (last : α) :
    lastOf count (lastOf count all ++ [last]) = lastOf count (all ++ [last]) := by
  simp only [lastOf, List.length_append, List.length_drop, List.length_singleton]
  rcases Nat.lt_or_ge all.length count with h | h
  · rw [show all.length - count = 0 by omega, List.drop_zero, Nat.sub_zero]
  · rcases Nat.eq_zero_or_pos count with rfl | hpos
    · simp
    · rw [show all.length - (all.length - count) + 1 - count = 1 by omega,
        show all.length + 1 - count = all.length - count + 1 by omega,
        List.drop_append_of_le_length (by simp; omega),
        List.drop_append_of_le_length (by omega), List.drop_drop]

/-- If the buffer is the tail of what was posted, it still is after one more
warning. -/
theorem recent_post {bulletin : Bulletin} {posted : List String}
    (h : bulletin.recent = lastOf bulletin.capacity posted) (message : String) :
    (bulletin.post message).recent = lastOf bulletin.capacity (posted ++ [message]) := by
  have hkept : (bulletin.post message).recent =
      lastOf bulletin.capacity (bulletin.recent ++ [message]) := by
    unfold post
    split <;> rfl
  rw [hkept, h, lastOf_lastOf_append]

end Bulletin

/-! ## Computations that report -/

/-- A computation that may report, and may fail. -/
abbrev Reporting := ExceptT Failure (StateM Bulletin)

namespace Reporting

/-- Posts a warning; fails if the listener refuses it. -/
def post (message : String) : Reporting Unit := do
  modify fun bulletin => bulletin.post message
  match (← get).refusal? with
  | none => return
  | some failure => throw failure

end Reporting

end Collate
