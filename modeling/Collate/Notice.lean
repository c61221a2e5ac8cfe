import Collate.Failure
import Collate.Rule.Basic

/-!
# Notices

A lookup that finds nothing usable does not stop a sort; it leaves a notice.  The
same goes for a value that can only be ordered by something that stands for it.
`Notice.message` is the wording.
-/

namespace Collate

/-- Something worth telling about a single lookup. -/
inductive Notice where
  /-- The selector matches nothing inside the item. -/
  | noElement (selector : Option String)
  | noAttribute (name : String)
  /-- The first segment of a path names nothing. -/
  | noProperty (segment : String)
  /-- A later segment names nothing in what the one before it led to. -/
  | noNestedProperty (previous segment : String)
  /-- What a segment led to has no parts for the next one to name. -/
  | notContainer (segment previous : String)
  /-- Reading the item failed, for a reason of this class and wording. -/
  | failed (rule : Rule) (kind : Failure.Kind) (reason : String)
  /-- A member of an enumeration is ordered by its name. -/
  | orderedByName (name : String)
  /-- Something that can be called is ordered by its presence alone. -/
  | orderedByPresence
  /-- A value of this kind has nothing to order by. -/
  | unorderable (kind : String)

namespace Notice

/-- The wording of a notice. -/
def message : Notice → String
  | noElement selector =>
    "Selector " ++ selector.getD "None" ++ " did not return an element"
  | noAttribute name => "Element does not have attribute '" ++ name ++ "'"
  | noProperty segment => "Element does not have property '" ++ segment ++ "'"
  | noNestedProperty previous segment =>
    "Element property '" ++ previous ++ "' does not contain nested property '" ++ segment ++ "'"
  | notContainer segment previous =>
    "Cannot access nested property '" ++ segment ++ "' on element because property '" ++
      previous ++ "' is not an object"
  | failed rule kind reason =>
    "Lookup of '" ++ rule.text ++ "' failed: " ++ kind.name ++ ": " ++ reason
  | orderedByName name =>
    "The value being sorted by is an enum member. Using member name: \"" ++ name ++ "\"."
  | orderedByPresence => "The value being sorted by is a function. Using value \"True\"."
  | unorderable kind => "The value being sorted by (" ++ kind ++ ") has no comparable form."

end Notice

end Collate
