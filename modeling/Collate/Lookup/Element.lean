import Collate.Lookup.Reader
import Collate.Markup.Dataset
import Collate.Markup.Text
import Collate.Selector.Engine

/-!
# Reading elements

`ItemReader.markup` reads the elements of a document.  Its selectors lead to the
first element below that they pick, as a selector engine has it.  A selector that
cannot be read leads nowhere.

An element has a number of properties with a meaning of their own, such as its
visible text; any other property is the attribute of that name.  What is not an
element is read as plain data.
-/

namespace Collate

open Markup

namespace Markup.Place

/-! ## Properties of elements -/

/-- The visible text of an element. -/
def visibleText (place : Place) : String := Markup.visibleText place.tag place.children

/-- The text of an element. -/
def textContent (place : Place) : String := Markup.textContent place.tag place.children

/-- The text of an attribute, which is empty if there is none. -/
def attributeText (place : Place) (name : String) : String :=
  (place.tag.attributeText? name).getD ""

/-- The names of the elements whose value is an attribute. -/
def valuedNames : List String := ["input", "option", "button", "param", "data"]

/-- The value of an element other than a selection. -/
def plainValue? (place : Place) : Option String :=
  if place.tag.name = "textarea" then some place.textContent
  else if place.tag.name = "option" ∧ ¬ place.tag.has "value" then some place.visibleText
  else if place.tag.name ∈ valuedNames then some (place.attributeText "value")
  else none

/-- The option that a selection shows: the first one that is selected, or else the
first one. -/
def shownOption? (place : Place) : Option Place :=
  let options := place.descendants.filter fun other => other.tag.name == "option"
  (options.find? fun option => option.tag.has "selected").or options.head?

/-- The value of an element, if elements of its kind have one. -/
def value? (place : Place) : Option String :=
  if place.tag.name = "select" then
    match place.shownOption? with
    | some option => option.plainValue?
    | none => some ""
  else place.plainValue?

/-- The name of the attribute that a property asks for by its presence. -/
def flagOf? : String → Option String
  | "checked" => some "checked"
  | "disabled" => some "disabled"
  | "selected" => some "selected"
  | "hidden" => some "hidden"
  | "required" => some "required"
  | "readOnly" => some "readonly"
  | "multiple" => some "multiple"
  | _ => none

/-- The value of an attribute. -/
def attributeValue : Attribute → Value
  | .words list => .list 0 (list.map .text)
  | value => .text value.text

/-- The classes of an element; a value that is one text counts by its characters. -/
def classList (place : Place) : List String :=
  match place.tag.attribute? "class" with
  | none => []
  | some (.words list) => list
  | some value => value.text.toList.map fun c => String.ofList [c]

/-- The property of an element that has a meaning of its own, if there is one of this
name. -/
def ownProperty? (place : Place) (name : String) : Option Value :=
  match name with
  | "text" | "innerText" => some (.text place.visibleText)
  | "textContent" => some (.text place.textContent)
  | "tagName" => some (.text (String.ofList (Text.upper place.tag.name.toList)))
  | "localName" => some (.text place.tag.name)
  | "id" => some (.text (place.attributeText "id"))
  | "className" => some (.text (place.attributeText "class"))
  | "classList" => some (.list 0 (place.classList.map .text))
  | "dataset" => some (.mapping 0 (place.tag.dataset.map fun entry => (entry.1, .text entry.2)))
  | "attributes" =>
    some (.mapping 0 (place.tag.attributes.map fun entry => (entry.1, attributeValue entry.2)))
  | "children" => some (.list 0 (place.elements.map .element))
  | "childElementCount" => some (.int place.elements.length)
  | "value" => some ((place.value?.map Value.text).getD .missing)
  | name => (flagOf? name).map fun flag => .bool (place.tag.has flag)

/-- An attribute of an element as one text. -/
def reflected (place : Place) (name : String) : Value :=
  ((place.tag.attributeText? name).map Value.text).getD .missing

/-- A property of an element. -/
def property (place : Place) (name : String) : Value :=
  (place.ownProperty? name).getD (place.reflected name)

/-- The first place below that a selector picks, if it can be read and picks any. -/
def first? (engine : Selector.Engine) (place : Place) (selector : String) : Option Place :=
  match engine.select selector place with
  | .ok picked => picked.head?
  | .error _ => none

end Markup.Place

/-! ## The reader -/

/-- The reader of markup. -/
def ItemReader.markup (engine : Selector.Engine) : ItemReader where
  resolve item selector :=
    match selector, item with
    | none, _ => .ok item
    | some selector, .element place =>
      if selector.isEmpty then .ok item
      else .ok (((place.first? engine selector).map Value.element).getD .missing)
    | some selector, _ => .ok (if selector.isEmpty then item else .missing)
  attributeOf value name :=
    match value with
    | .element place => .ok (place.reflected name)
    | _ => .ok .missing
  property value name :=
    match value with
    | .element place => .ok (place.property name)
    | other => other.readMember name

end Collate
