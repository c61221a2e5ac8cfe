/-!
# Markup documents

A document is a list of nodes.  A node is an element, with a tag and nodes of its
own, or a piece of character data.  Character data is not always text to be read:
comments and the like are kept only to be written again, and the text of a script
belongs to the script alone.

Every element has a serial number.  Serial numbers tell elements apart that look
the same, and survive when elements are moved.
-/

namespace Collate.Markup

/-! ## Attributes -/

/-- The value of an attribute. -/
inductive Attribute where
  | single (text : String)
  /-- A value that is a list of words, such as the classes of an element. -/
  | words (list : List String)
  /-- The name of an encoding; a written document names its own. -/
  | encodingName (text : String)
  /-- A content type, which may name an encoding. -/
  | contentType (text : String)
  deriving DecidableEq

/-- The value as one text. -/
def Attribute.text : Attribute → String
  | .single text | .encodingName text | .contentType text => text
  | .words list => " ".intercalate list

/-! ## Tags -/

/-- What an opening tag says about its element. -/
structure Tag where
  serial : Nat
  name : String
  attributes : List (String × Attribute)
  deriving DecidableEq

namespace Tag

/-- The value of an attribute. -/
def attribute? (tag : Tag) (name : String) : Option Attribute := tag.attributes.lookup name

/-- The value of an attribute as one text. -/
def attributeText? (tag : Tag) (name : String) : Option String :=
  (tag.attribute? name).map Attribute.text

/-- Whether the tag has the attribute. -/
def has (tag : Tag) (name : String) : Bool := (tag.attribute? name).isSome

/-- Attributes with one value set, in its old place if there is one. -/
def assign (attributes : List (String × Attribute)) (name : String) (value : Attribute) :
    List (String × Attribute) :=
  if attributes.any fun entry => entry.1 == name then
    attributes.map fun entry => if entry.1 == name then (name, value) else entry
  else attributes ++ [(name, value)]

/-- The tag with one attribute set. -/
def set (tag : Tag) (name : String) (value : Attribute) : Tag :=
  { tag with attributes := assign tag.attributes name value }

end Tag

/-! ## Nodes -/

/-- The elements whose character data is not part of the text around them. -/
inductive Holder where
  | style
  | script
  | template
  | rubyText
  | rubyParenthesis
  deriving DecidableEq

/-- The holder that an element of this name is. -/
def Holder.ofName? : String → Option Holder
  | "style" => some .style
  | "script" => some .script
  | "template" => some .template
  | "rt" => some .rubyText
  | "rp" => some .rubyParenthesis
  | _ => none

/-- What a piece of character data is. -/
inductive Role where
  | plain
  | cdata
  | comment
  | doctype
  | instruction
  | declaration
  /-- Text that belongs to a holder. -/
  | held (holder : Holder)
  deriving DecidableEq

/-- A node of a document. -/
inductive Node where
  | element (tag : Tag) (children : List Node)
  | data (role : Role) (content : String)

instance : Inhabited Node := ⟨.data .plain ""⟩

namespace Node

/-- Whether the node is an element. -/
@[simp] def isElement : Node → Bool
  | element _ _ => true
  | data _ _ => false

/-- The serial number of an element. -/
def serial? : Node → Option Nat
  | element tag _ => some tag.serial
  | data _ _ => none

end Node

/-- The name of the element that stands for the whole document. -/
def documentName : String := "[document]"

/-- A document.  It behaves as an element without a parent. -/
structure Document where
  tag : Tag
  content : List Node

/-! ## Changing one element -/

mutual

/-- The node with `change` applied to the element of this serial number. -/
def Node.update (serial : Nat) (change : Tag → List Node → Tag × List Node) : Node → Node
  | .element tag children =>
    if tag.serial = serial then
      let (tag, children) := change tag children
      .element tag children
    else .element tag (updateAll serial change children)
  | .data role content => .data role content

/-- The nodes with `change` applied to the element of this serial number. -/
def updateAll (serial : Nat) (change : Tag → List Node → Tag × List Node) :
    List Node → List Node
  | [] => []
  | node :: rest => node.update serial change :: updateAll serial change rest

end

/-- The document with `change` applied to the element of this serial number. -/
def Document.update (serial : Nat) (change : Tag → List Node → Tag × List Node)
    (document : Document) : Document :=
  if document.tag.serial = serial then
    let (tag, content) := change document.tag document.content
    { tag, content }
  else { document with content := updateAll serial change document.content }

end Collate.Markup
