import Collate.Markup.Node
import Collate.Text.Letter

/-!
# Data of elements

Attributes whose names begin with `data-` hold data of the document's own.  Seen
together they are a table, whose keys are the rest of the names with the hyphens
left out and the letter after each hyphen in upper case: `data-row-index` becomes
`rowIndex`.
-/

namespace Collate.Markup

/-- A part of a name with its first character in upper case. -/
def capitalized : List Char → List Char
  | [] => []
  | c :: rest => Text.upperOf c ++ rest

/-- A name with hyphens as one word; a capital marks where a hyphen was. -/
def camelCased (name : String) : String :=
  match name.toList.splitOn '-' with
  | [] => ""
  | first :: rest => String.ofList (first ++ rest.flatMap capitalized)

/-- What precedes the name of a datum. -/
def datumMark : String := "data-"

/-- The key of a datum, if the attribute of this name is one. -/
def datumKey? (name : String) : Option String :=
  if datumMark.toList.isPrefixOf name.toList then
    some (camelCased (String.ofList (name.toList.drop datumMark.length)))
  else none

/-- Entries with one more; an entry of the same key gives way. -/
def withDatum (entries : List (String × String)) (key value : String) : List (String × String) :=
  if entries.any fun entry => entry.1 == key then
    entries.map fun entry => if entry.1 == key then (key, value) else entry
  else entries ++ [(key, value)]

/-- The data of an element. -/
def Tag.dataset (tag : Tag) : List (String × String) :=
  tag.attributes.foldl
    (fun entries (name, value) =>
      match datumKey? name with
      | some key => withDatum entries key value.text
      | none => entries) []

end Collate.Markup
