import Collate.Markup.Node
import Collate.Markup.Tree

/-!
# Writing documents

A document is written with its attributes in alphabetical order, every value between
quotes, and void elements closed at once.  In text and values the characters that
would be taken for markup are written as references, except in the raw text of a
`script` or `style`.  A document names the encoding it is written in.
-/

namespace Collate.Markup

/-- The encoding that a written document names. -/
def writtenEncoding : List Char := "utf-8".toList

/-- A character that is not taken for markup. -/
def escapedChar : Char → List Char
  | '&' => "&amp;".toList
  | '<' => "&lt;".toList
  | '>' => "&gt;".toList
  | c => [c]

/-- A text in which nothing is taken for markup. -/
def escaped (text : List Char) : List Char := text.flatMap escapedChar

/-- The value between quotes: double ones, unless the value holds only double ones. -/
def quotedValue (value : List Char) : List Char :=
  if '"' ∈ value then
    if '\'' ∈ value then
      '"' :: value.flatMap (fun c => if c = '"' then "&quot;".toList else [c]) ++ ['"']
    else '\'' :: value ++ ['\'']
  else '"' :: value ++ ['"']

/-- A content type with the encoding it names replaced; `fresh` says that a parameter
may begin here. -/
def withEncoding (fresh : Bool) (skip : Nat) : List Char → List Char
  | [] => []
  | c :: rest =>
    match skip with
    | skip + 1 => withEncoding false skip rest
    | 0 =>
      let mark := "charset=".toList
      if fresh && (c :: rest).take mark.length == mark then
        let value := ((c :: rest).drop mark.length).takeWhile (· ≠ ';')
        mark ++ writtenEncoding ++ withEncoding false (mark.length + value.length - 1) rest
      else c :: withEncoding (c == ';' || Text.isBlank c) 0 rest

/-- The value of an attribute as it is written, before quoting. -/
def Attribute.written : Attribute → List Char
  | .encodingName _ => writtenEncoding
  | .contentType text => withEncoding true 0 text.toList
  | value => value.text.toList

/-- An attribute of an opening tag. -/
def attributeText (entry : String × Attribute) : List Char :=
  ' ' :: entry.1.toList ++ '=' :: quotedValue (escaped entry.2.written)

/-- The attributes of a tag in alphabetical order. -/
def sortedAttributes (tag : Tag) : List (String × Attribute) :=
  tag.attributes.mergeSort fun a b => !(b.1 < a.1)

/-- A piece of character data in an element of this name. -/
def dataText (parent : String) (role : Role) (content : List Char) : List Char :=
  match role with
  | .plain | .held _ => if hasRawText parent then content else escaped content
  | .cdata => "<![CDATA[".toList ++ content ++ "]]>".toList
  | .comment => "<!--".toList ++ content ++ "-->".toList
  | .doctype => "<!DOCTYPE ".toList ++ content ++ ">\n".toList
  | .instruction => "<?".toList ++ content ++ ">".toList
  | .declaration => "<?".toList ++ content ++ "?>".toList

mutual

/-- A node in an element of this name. -/
def Node.written (parent : String) : Node → List Char
  | .data role content => dataText parent role content.toList
  | .element tag children =>
    let start := '<' :: tag.name.toList ++ (sortedAttributes tag).flatMap attributeText
    if children.isEmpty && isVoid tag.name then start ++ ['/', '>']
    else start ++ '>' :: nodesWritten tag.name children ++ '<' :: '/' :: tag.name.toList ++ ['>']

/-- Nodes in an element of this name. -/
def nodesWritten (parent : String) : List Node → List Char
  | [] => []
  | node :: rest => node.written parent ++ nodesWritten parent rest

end

/-- The document as a text. -/
def Document.text (document : Document) : String :=
  String.ofList (nodesWritten document.tag.name document.content)

end Collate.Markup
