import Collate.Value.Attribute

/-!
# Members of values

A segment of a path names an entry of a mapping; or, if it consists of digits, a
position in a sequence; or else an attribute.  What a value does not have reads
as missing.

A segment of digits that are too many, or have no decimal value, names no position;
reading it is a failure, and so is reading a position of a range that is too long
for a sequence.  Everything else about plain data can be read without failing.
-/

namespace Collate.Value

/-- The item at a position of a sequence. -/
def item (items : List Value) (position : Int) : Value := (items[position.toNat]?).getD missing

/-- A mapping with one entry set; other values stay as they are. -/
def withEntry (value : Value) (name : String) (entry : Value) : Value :=
  match value with
  | mapping identity entries =>
    if entries.any fun old => old.1 == name then
      mapping identity (entries.map fun old => if old.1 == name then (name, entry) else old)
    else mapping identity (entries ++ [(name, entry)])
  | other => other

/-- What a segment names in a value. -/
def readMember (value : Value) (segment : String) : Except Failure Value :=
  match value with
  | mapping _ entries => .ok ((entries.lookup segment).getD missing)
  | list _ items | tuple _ items =>
    if Text.allDigits segment.toList then (Failure.readInteger segment).map (item items)
    else attributeOf value segment
  | range start stop step =>
    if Text.allDigits segment.toList then
      (Failure.readInteger segment).bind fun position =>
        (rangeSize start stop step).map fun (length : Nat) =>
          if position < (length : Int) then int (start + position * step) else missing
    else attributeOf value segment
  | _ => attributeOf value segment

end Collate.Value
