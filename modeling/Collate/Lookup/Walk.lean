import Collate.Value.Basic

/-!
# Walking a path

A path is walked segment by segment.  The walk ends at the first obstacle: a
segment that names nothing, or a value without parts before the last segment.
The obstacle names the segment that could not be taken and the one before it.
-/

namespace Collate

/-- Where a walk along a path ends. -/
inductive Walk where
  | found (value : Value)
  /-- The value that `previous` led to has no parts. -/
  | notContainer (segment previous : String)
  /-- The segment names nothing. -/
  | absent (segment : String) (previous : Option String)

namespace Walk

/-- How a part of a value is read, in any monad in which a reading may happen. -/
abbrev Reading (m : Type → Type) := Value → String → m Value

variable {m : Type → Type} [Monad m]

/-- Walks on from the value that the segment `previous` led to. -/
def onward (read : Reading m) (value : Value) (previous : String) : List String → m Walk
  | [] => pure (.found value)
  | segment :: rest =>
    if value matches .none ∨ value.isPrimitive then pure (.notContainer segment previous)
    else do
      let next ← read value segment
      if next.isAbsent then pure (.absent segment (some previous))
      else onward read next segment rest

/-- Walks a path from its start. -/
def along [MonadExceptOf Failure m] (read : Reading m) (root : Value) : List String → m Walk
  | [] => throw Failure.emptyPath
  | segment :: rest => do
    let value ← read root segment
    if value.isAbsent then pure (.absent segment none) else onward read value segment rest

end Walk

end Collate
