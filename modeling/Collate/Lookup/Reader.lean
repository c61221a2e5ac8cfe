import Collate.Lookup.Walk
import Collate.Value.Member
import Collate.Text.Blank

/-!
# Reading items

An item reader knows what an item is made of: it finds the part that a selector
points to, an attribute of a part, and a property of any value.  What is not
there reads as missing; a reader fails only where the item itself does.

`ItemReader.plain` reads plain data.  Its selectors are paths of segments with
slashes between them; blank segments and the blanks around segments do not count.
Its attributes are the members that are texts.
-/

namespace Collate

/-- How the values of items are read. -/
structure ItemReader where
  /-- The part of an item that a selector points to. -/
  resolve : Value → Option String → Except Failure Value
  attributeOf : Value → String → Except Failure Value
  property : Value → String → Except Failure Value

namespace ItemReader

/-- The segments of a selector for plain data: what stands between its slashes. -/
def selectorSegments (selector : String) : List String :=
  (((selector.toList.splitOn '/').map Text.trim).filter (· ≠ [])).map String.ofList

section Follow

variable {m : Type → Type} [Monad m]

/-- Follows segments from a value on; what counts as missing ends the way. -/
def follow (read : Walk.Reading m) (value : Value) : List String → m Value
  | [] => pure value
  | segment :: rest => do
    let next ← read value segment
    if next.isMissing then pure .missing else follow read next rest

/-- The part of a value that a selector for plain data points to. -/
def pointedTo (read : Walk.Reading m) (value : Value) (selector : Option String) : m Value :=
  follow read value (selectorSegments (selector.getD ""))

end Follow

/-- The reader of plain data. -/
def plain : ItemReader where
  resolve := pointedTo Value.readMember
  attributeOf value name :=
    (value.readMember name).map fun found => if found.text?.isSome then found else .missing
  property := Value.readMember

end ItemReader

end Collate
