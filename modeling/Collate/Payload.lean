import Collate.Number.Floating
import Collate.Text.Quoted

/-!
# Plain payloads

Rules are stored next to other settings as plain data: null, truth values,
numbers, texts, lists and mappings.  A mapping keeps its entries in order.

Messages show a payload in one notation (`Payload.shown`) and name its kind
(`Payload.kind`).
-/

namespace Collate

/-- Plain data, as a settings file holds it. -/
inductive Payload where
  | null
  | bool (value : Bool)
  | int (value : Int)
  | floating (value : Floating)
  | text (value : String)
  | list (items : List Payload)
  | mapping (entries : List (String × Payload))
  deriving Inhabited

namespace Payload

/-- The kind of a payload, as messages name it. -/
def kind : Payload → String
  | null => "NoneType"
  | bool _ => "bool"
  | int _ => "int"
  | floating _ => "float"
  | text _ => "str"
  | list _ => "list"
  | mapping _ => "dict"

/-- The payload as messages show it. -/
def shown : Payload → String
  | null => "None"
  | bool true => "True"
  | bool false => "False"
  | int value => toString value
  | floating value => value.text
  | text value => Text.quoted value
  | list items => "[" ++ ", ".intercalate (shownItems items) ++ "]"
  | mapping entries => "\x7b" ++ ", ".intercalate (shownEntries entries) ++ "\x7d"
where
  /-- The items of a list, each as messages show it. -/
  shownItems : List Payload → List String
    | [] => []
    | item :: rest => item.shown :: shownItems rest
  /-- The entries of a mapping, each as messages show it. -/
  shownEntries : List (String × Payload) → List String
    | [] => []
    | (name, value) :: rest => (Text.quoted name ++ ": " ++ value.shown) :: shownEntries rest

/-- The value of an entry of a mapping. -/
def entry? (entries : List (String × Payload)) (name : String) : Option Payload :=
  entries.lookup name

/-- What a loop over the payload runs through: the items of a list, the
characters of a text, the names of a mapping.  Other payloads have no items. -/
def items? : Payload → Option (List Payload)
  | list items => some items
  | text value => some (value.toList.map fun c => text (String.singleton c))
  | mapping entries => some (entries.map fun (name, _) => text name)
  | null | bool _ | int _ | floating _ => none

/-- The text that a payload is, if it is one. -/
def text? : Payload → Option String
  | text value => some value
  | _ => none

end Payload

end Collate
