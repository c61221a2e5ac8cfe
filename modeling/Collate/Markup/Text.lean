import Collate.Markup.Node
import Collate.Text.Blank

/-!
# The text of an element

The text of an element is made of the pieces of character data below it that are
meant to be read.  The pieces inside a holder, such as a `script`, belong to the
holder: they count for the text of the holder itself and for that of no other
element.

The visible text of an element is the sequence of its words, a word never going
beyond one piece.
-/

namespace Collate.Markup

/-- Whether a piece of character data counts for the text of an element that is this
holder, or none. -/
def Role.counts (holder : Option Holder) (role : Role) : Bool :=
  match holder, role with
  | none, .plain | none, .cdata => true
  | some holder, .held other => holder == other
  | _, _ => false

mutual

/-- The pieces of text in a node. -/
def Node.strings (holder : Option Holder) : Node → List String
  | .data role content => if role.counts holder then [content] else []
  | .element _ children => stringsOf holder children

/-- The pieces of text in some nodes. -/
def stringsOf (holder : Option Holder) : List Node → List String
  | [] => []
  | node :: rest => node.strings holder ++ stringsOf holder rest

end

/-- The pieces of text of an element. -/
def textPieces (tag : Tag) (children : List Node) : List String :=
  stringsOf (Holder.ofName? tag.name) children

/-- The text of an element. -/
def textContent (tag : Tag) (children : List Node) : String :=
  String.join (textPieces tag children)

/-- The visible text of an element. -/
def visibleText (tag : Tag) (children : List Node) : String :=
  String.ofList
    (Text.joinedWords (" ".intercalate (textPieces tag children)).toList)

end Collate.Markup
