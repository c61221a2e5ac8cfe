import Collate.Markup.Node
import Collate.Markup.Piece

/-!
# From pieces to documents

Opening and closing tags nest the pieces into a document.  No tag is implied: an
element stays open until its own closing tag, or that of an element around it, or
the end.  A closing tag without an open element has no effect.  Void elements, such
as `br`, have no content and are closed at once.

Neighbouring pieces of text are one text.  A text of nothing but spaces and line
ends comes down to a single one, except where spacing is preserved.

## Strategy

`Builder` holds the open elements, innermost first, each with the children it has so
far in reverse; `Builder.add` takes in one piece.
-/

namespace Collate.Markup

/-! ## What is special about some elements -/

/-- The elements without content. -/
def voidNames : List String :=
  ["area", "base", "br", "col", "embed", "hr", "img", "input", "keygen", "link", "menuitem",
   "meta", "param", "source", "track", "wbr", "basefont", "bgsound", "command", "frame", "image",
   "isindex", "nextid", "spacer"]

/-- Whether an element of this name has no content. -/
def isVoid (name : String) : Bool := voidNames.contains name

/-- Whether spacing matters inside an element of this name. -/
def preservesSpace (name : String) : Bool := name == "pre" || name == "textarea"

/-- Whether an attribute holds a list of words. -/
def holdsWords (tagName attributeName : String) : Bool :=
  ["class", "accesskey", "dropzone"].contains attributeName ||
    (match tagName with
    | "a" | "link" => ["rel", "rev"]
    | "td" | "th" => ["headers"]
    | "form" => ["accept-charset"]
    | "object" => ["archive"]
    | "area" => ["rel"]
    | "icon" => ["sizes"]
    | "iframe" => ["sandbox"]
    | "output" => ["for"]
    | _ => []).contains attributeName

/-- The value of an attribute as it was written. -/
def attributeOf (tagName attributeName value : String) : Attribute :=
  if holdsWords tagName attributeName then .words (Text.wordsOf value) else .single value

/-- The attributes of a `meta` element, where those that name the encoding of the
document are marked. -/
def markEncoding (attributes : List (String × Attribute)) : List (String × Attribute) :=
  let value (name : String) := (attributes.lookup name).map Attribute.text
  match value "charset", value "content", value "http-equiv" with
  | some charset, _, _ => Tag.assign attributes "charset" (.encodingName charset)
  | none, some content, some what =>
    if Text.lower what.toList = "content-type".toList then
      Tag.assign attributes "content" (.contentType content)
    else attributes
  | none, _, _ => attributes

/-- The tag that an opening tag makes; of repeated attributes the last one counts. -/
def tagOf (serial : Nat) (name : String) (written : List (String × String)) : Tag :=
  let attributes := written.foldl
    (fun attributes (key, value) => Tag.assign attributes key (attributeOf name key value)) []
  { serial, name, attributes := if name = "meta" then markEncoding attributes else attributes }

/-! ## Building -/

/-- An element that is not closed yet, with its children in reverse. -/
structure OpenElement where
  tag : Tag
  children : List Node

/-- A document in the making. -/
structure Builder where
  /-- The open elements, innermost first; the document itself comes last. -/
  inner : List OpenElement
  outermost : OpenElement
  /-- The text since the last tag, in reverse; none if there was no piece of text. -/
  pending : Option (List Char)
  /-- The void elements that a closing tag may still follow. -/
  voids : List String
  nextSerial : Nat

namespace Builder

/-- The start of a document. -/
def empty : Builder where
  inner := []
  outermost := ⟨⟨0, documentName, []⟩, []⟩
  pending := none
  voids := []
  nextSerial := 1

/-- Adds a node to the innermost open element. -/
def append (builder : Builder) (node : Node) : Builder :=
  match builder.inner with
  | [] =>
    { builder with
      outermost := { builder.outermost with children := node :: builder.outermost.children } }
  | element :: others =>
    { builder with inner := { element with children := node :: element.children } :: others }

/-- The holder that text belongs to at this point. -/
def holder? (builder : Builder) : Option Holder :=
  builder.inner.findSome? fun element => Holder.ofName? element.tag.name

/-- Whether the character is a space, a line end or the like of the basic alphabet. -/
def isSpacing (c : Char) : Bool :=
  c == ' ' || c == '\n' || c == '\t' || c == '\x0c' || c == '\r'

/-- A text of nothing but spacing comes down to a line end or a space. -/
def tidied (content : List Char) : List Char :=
  if content.all isSpacing then (if '\n' ∈ content then ['\n'] else [' ']) else content

/-- Adds the pending text as a node. -/
def flush (builder : Builder) (role : Role) : Builder :=
  match builder.pending with
  | none => builder
  | some reversed =>
    let content := reversed.reverse
    let kept :=
      if builder.inner.any fun element => preservesSpace element.tag.name then content
      else tidied content
    let role :=
      match role, builder.holder? with
      | .plain, some holder => .held holder
      | role, _ => role
    { builder.append (.data role (String.ofList kept)) with pending := none }

/-- Adds text to what is pending. -/
def addText (builder : Builder) (content : List Char) : Builder :=
  { builder with pending := some (content.reverse ++ builder.pending.getD []) }

/-- Adds character data that stands by itself. -/
def addData (builder : Builder) (role : Role) (content : List Char) : Builder :=
  ((builder.flush .plain).addText content).flush role

/-- Closes the innermost open element. -/
def closeInnermost (builder : Builder) : Builder :=
  match builder.inner with
  | [] => builder
  | element :: others =>
    { builder with inner := others }.append (.element element.tag element.children.reverse)

/-- Closes a number of open elements. -/
def closeMany : Nat → Builder → Builder
  | 0, builder => builder
  | count + 1, builder => closeMany count builder.closeInnermost

/-- Closes the innermost open element of this name and all elements inside it; if none
is open, nothing is closed. -/
def close (builder : Builder) (name : String) : Builder :=
  let builder := builder.flush .plain
  match builder.inner.findIdx? fun element => element.tag.name == name with
  | none => builder
  | some depth => closeMany (depth + 1) builder

/-- Opens an element. -/
def openElement (builder : Builder) (name : String) (attributes : List (String × String)) :
    Builder :=
  let builder := builder.flush .plain
  { builder with
    inner := ⟨tagOf builder.nextSerial name attributes, []⟩ :: builder.inner
    nextSerial := builder.nextSerial + 1 }

/-- Whether a declaration is a section of character data. -/
def isCharacterSection (content : List Char) : Bool :=
  Text.upper (content.take 6) == "CDATA[".toList

/-- Takes in a piece. -/
def add (builder : Builder) : Piece → Builder
  | .opening name attributes selfClosed =>
    let opened := builder.openElement name attributes
    if selfClosed then opened.close name
    else if isVoid name then { opened.close name with voids := name :: opened.voids }
    else opened
  | .closing name =>
    -- the closing tag of a void element does not even part the text around it
    if builder.voids.contains name then { builder with voids := builder.voids.erase name }
    else builder.close name
  | .text content => builder.addText content
  | .comment content => builder.addData .comment content
  | .doctype content => builder.addData .doctype content
  | .instruction content => builder.addData .instruction content
  | .declaration content =>
    if isCharacterSection content then builder.addData .cdata (content.drop 6)
    else builder.addData .declaration content

/-- The document, all open elements being closed. -/
def finish (builder : Builder) : Document :=
  let flushed := builder.flush .plain
  let closed := closeMany flushed.inner.length flushed
  { tag := closed.outermost.tag, content := closed.outermost.children.reverse }

end Builder

/-- The document that pieces make. -/
def Document.ofPieces (pieces : List Piece) : Document :=
  (pieces.foldl Builder.add .empty).finish

/-- A text as a document. -/
def Document.read (text : String) : Except Rejection Document :=
  (piecesOf text.toList).map Document.ofPieces

end Collate.Markup
