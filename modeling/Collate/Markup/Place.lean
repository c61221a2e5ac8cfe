import Collate.Markup.Node

/-!
# Places

A place is an element together with where it stands: its siblings, its parent
with the parent's siblings, and so on up to the document.  From a place every
other part of the document can be seen, so that what is said about an element
needs no second argument.

`Place.descendants` lists the elements below a place in document order.
-/

namespace Collate.Markup

/-- One step on the way up: the parent's tag and what stands on either side.  The
nodes before are listed nearest first. -/
structure Level where
  tag : Tag
  before : List Node
  after : List Node

/-- An element and where it stands; the nearest level comes first. -/
structure Place where
  tag : Tag
  children : List Node
  above : List Level

namespace Place

/-- The whole document as a place. -/
def ofDocument (document : Document) : Place := ⟨document.tag, document.content, []⟩

/-- The element at a place as a node. -/
def node (place : Place) : Node := .element place.tag place.children

/-- The place of the parent. -/
def parent? (place : Place) : Option Place :=
  match place.above with
  | [] => none
  | level :: above =>
    some ⟨level.tag, level.before.reverse ++ place.node :: level.after, above⟩

/-- The number of a place: that of its element. -/
def serial (place : Place) : Nat := place.tag.serial

/-! ## Going down -/

/-- The elements among the nodes after `before`, all of them children of `tag`. -/
def elementsAmong (tag : Tag) (above : List Level) (before : List Node) : List Node → List Place
  | [] => []
  | .data role content :: rest => elementsAmong tag above (.data role content :: before) rest
  | .element inner children :: rest =>
    ⟨inner, children, ⟨tag, before, rest⟩ :: above⟩ ::
      elementsAmong tag above (.element inner children :: before) rest

/-- The element children of a place. -/
def elements (place : Place) : List Place :=
  elementsAmong place.tag place.above [] place.children

mutual

/-- The elements at and below a node. -/
def fromNode (tag : Tag) (above : List Level) (before after : List Node) : Node → List Place
  | .data _ _ => []
  | .element inner children =>
    ⟨inner, children, ⟨tag, before, after⟩ :: above⟩ ::
      fromNodes inner (⟨tag, before, after⟩ :: above) [] children

/-- The elements at and below the nodes after `before`. -/
def fromNodes (tag : Tag) (above : List Level) (before : List Node) : List Node → List Place
  | [] => []
  | node :: rest =>
    fromNode tag above before rest node ++ fromNodes tag above (node :: before) rest

end

/-- The elements below a place, in document order. -/
def descendants (place : Place) : List Place :=
  fromNodes place.tag place.above [] place.children

/-! ## Looking around -/

/-- The elements before a place, nearest first. -/
def elementsBefore (place : Place) : List Place :=
  match place.above with
  | [] => []
  | level :: above =>
    let siblings :=
      elementsAmong level.tag above [] (level.before.reverse ++ place.node :: level.after)
    (siblings.take (level.before.countP Node.isElement)).reverse

/-- The elements after a place, nearest first. -/
def elementsAfter (place : Place) : List Place :=
  match place.above with
  | [] => []
  | level :: above =>
    elementsAmong level.tag above (place.node :: level.before) level.after

/-- The elements above a place, nearest first, the document included. -/
def ancestors (place : Place) : List Place :=
  go place place.above
where
  /-- The parent of a place whose levels are these, then the parent's ancestors. -/
  go (place : Place) : List Level → List Place
    | [] => []
    | level :: above =>
      let parent : Place :=
        ⟨level.tag, level.before.reverse ++ place.node :: level.after, above⟩
      parent :: go parent above

/-- Whether the place is the whole document. -/
def isDocument (place : Place) : Bool := place.above.isEmpty

end Place

end Collate.Markup
