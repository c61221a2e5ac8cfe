import Collate.Proofs.Lookup.Attribute
import Collate.Proofs.Markup.Dataset
import Collate.Proofs.Markup.Tags

/-!
# Data as properties

A datum can be read by the name of its attribute, or along the path that leads through the data of
the element to its key.  Both readings agree where no other datum has the same key; otherwise the
path leads to the last one of those that have it (`ItemReader.lookup_datum`).  This is said about
tags whose attributes have different names, as all those of a document that was read have
(`Document.distinct_of_mem_places`).

## Strategy

Where the path leads is a question about the data of the element as a table
(`Tag.lookup_dataset_iff`): the walk takes one step to this table, and one step to an entry of it
(`ItemReader.markup_readKey_datum`).
-/

namespace Collate

open Markup

theorem Value.lookup_map_text (entries : List (String × String)) (key : String) :
    (entries.map fun entry => (entry.1, Value.text entry.2)).lookup key =
      (entries.lookup key).map Value.text := by
  induction entries with
  | nil => rfl
  | cons entry rest ih =>
      rw [List.map_cons, List.lookup_cons, List.lookup_cons, ih]
      cases key == entry.1 <;> rfl

namespace ItemReader

variable {engine : Selector.Engine} {item : Value} {place : Place} {key text : String}

/-- The path through the data of an element leads to the text of the key. -/
theorem markup_readKey_datum (h : place.tag.dataset.lookup key = some text) :
    (markup engine).readKey (.element place) (.path ["dataset", key]) = .found (.text text) := by
  let table : Value := .mapping 0 (place.tag.dataset.map fun entry => (entry.1, .text entry.2))
  have htable : (markup engine).property (.element place) "dataset" = .ok table := rfl
  have hparts : ¬ table.HasNoParts := fun h => h.elim Value.noConfusion Bool.false_ne_true
  have hentry : (markup engine).property table key = .ok (.text text) := by
    show table.readMember key = _
    rw [Value.readMember, Value.lookup_map_text, h]
    rfl
  rw [readKey, Walk.along_pair (markup engine).property htable Value.noConfusion hparts hentry]
  rfl

/-- **An attribute and the key of its datum lead to the same text, unless names come to one key.**
Both come to a text, without a warning: the attribute to its own, and the key to that of the last
attribute whose name comes to it (`Tag.Shows`).  This is the same text if no other name comes to
that key.  The data of the element have an entry for every attribute, in their order, exactly if no
two names come to one key.  So all is well with names in which every hyphen is followed by a small
letter, and that have no capitals. -/
theorem lookup_datum {byDatum byAttribute : Rule} {name : String} {value : Attribute}
    (htag : place.tag.Distinct)
    (hattribute : place.tag.attribute? (datumMark ++ name) = some value)
    (hdatum : byDatum.key = .path ["dataset", camelCased name])
    (hnamed : byAttribute.key = .named (datumMark ++ name))
    (hpart : (markup engine).resolve item byDatum.selector = .ok (.element place))
    (hpart' : (markup engine).resolve item byAttribute.selector = .ok (.element place)) :
    ∃ shown, place.tag.Shows (camelCased name) shown ∧
      (∀ bulletin,
        (markup engine).lookup item byAttribute bulletin = (.ok (.text value.text), bulletin) ∧
        (markup engine).lookup item byDatum bulletin = (.ok (.text shown), bulletin)) ∧
      ((∀ datum ∈ place.tag.data, camelCased datum.1 = camelCased name → datum.1 = name) →
        shown = value.text) ∧
      (place.tag.dataset = place.tag.keyed ↔
        ∀ datum ∈ place.tag.data, ∀ other ∈ place.tag.data,
          camelCased datum.1 = camelCased other.1 → datum.1 = other.1) ∧
      ((∀ datum ∈ place.tag.data, isRegular datum.1.toList = true) →
        place.tag.dataset = place.tag.keyed ∧ shown = value.text) := by
  have hmem := (Tag.attribute?_eq_some_iff htag).mp hattribute
  have hdata : (name, value.text) ∈ place.tag.data := Tag.mem_data_iff.mpr ⟨value, hmem, rfl⟩
  obtain ⟨shown, hshows⟩ := Tag.exists_shows hdata
  have hsame := hshows.eq_of_unshared htag hdata
  refine ⟨shown, hshows, fun bulletin => ⟨?_, ?_⟩, hsame, Tag.dataset_eq_keyed_iff htag, ?_⟩
  · have htext : place.tag.attributeText? (datumMark ++ name) = some value.text := by
      rw [Tag.attributeText?, hattribute, Option.map_some]
    apply lookup_of_silent
    rw [read_of_resolve hpart' rfl, hnamed, markup_readKey_named,
      Place.attributeOr_of_some htext]
  · apply lookup_of_silent
    rw [read_of_resolve hpart rfl, hdatum,
      markup_readKey_datum (Tag.lookup_dataset_iff.mpr hshows)]
  · intro hregular
    have hinj : ∀ datum ∈ place.tag.data, ∀ other ∈ place.tag.data,
        camelCased datum.1 = camelCased other.1 → datum.1 = other.1 :=
      fun datum hdatum other hother =>
        camelCased_injOn (hregular datum hdatum) (hregular other hother)
    exact ⟨(Tag.dataset_eq_keyed_iff htag).mpr hinj,
      hsame fun datum hdatum => hinj datum hdatum _ hdata⟩

/-- A datum of two words, on an element with another one. -/
theorem lookup_datum_row_index :
    let byDatum : Rule :=
      ⟨.path ["dataset", "rowIndex"], none, false, by decide, fun _ h => nomatch h⟩
    let byAttribute : Rule :=
      ⟨.named "data-row-index", none, false, by decide, fun _ h => nomatch h⟩
    let place : Place :=
      ⟨⟨1, "td", [("data-row-index", .single "4"), ("data-row", .single "a")]⟩, [], []⟩
    let bulletin := Bulletin.opened 5 .journal
    let reader := markup .standard
    reader.lookup (.element place) byAttribute bulletin = (.ok (.text "4"), bulletin) ∧
      reader.lookup (.element place) byDatum bulletin = (.ok (.text "4"), bulletin) ∧
      place.tag.dataset = place.tag.keyed := by
  intro byDatum byAttribute place bulletin reader
  have htag : place.tag.Distinct := by decide
  have hattribute : place.tag.attribute? (datumMark ++ "row-index") = some (.single "4") := by
    decide
  have hdatum : byDatum.key = .path ["dataset", camelCased "row-index"] := by decide
  have hnamed : byAttribute.key = .named (datumMark ++ "row-index") := by decide
  have hpart : reader.resolve (.element place) none = .ok (.element place) := rfl
  obtain ⟨shown, -, hlookup, -, -, hregular⟩ :=
    lookup_datum htag hattribute hdatum hnamed hpart hpart
  obtain ⟨hdataset, rfl⟩ := hregular (by decide)
  exact ⟨(hlookup bulletin).1, (hlookup bulletin).2, hdataset⟩

/-- Names may come to one key: then one of the two data is lost, and the key of the other leads to
its text. -/
theorem lookup_datum_collapses :
    let byDatum : Rule := ⟨.path ["dataset", "a1"], none, false, by decide, fun _ h => nomatch h⟩
    let byAttribute : Rule := ⟨.named "data-a1", none, false, by decide, fun _ h => nomatch h⟩
    let place : Place :=
      ⟨⟨1, "p", [("data-a1", .single "x"), ("data-a-1", .single "y")]⟩, [], []⟩
    let bulletin := Bulletin.opened 5 .journal
    let reader := markup .standard
    place.tag.Distinct ∧ camelCased "a1" = "a1" ∧
      reader.lookup (.element place) byAttribute bulletin = (.ok (.text "x"), bulletin) ∧
      reader.lookup (.element place) byDatum bulletin = (.ok (.text "y"), bulletin) ∧
      place.tag.dataset = [("a1", "y")] := by
  intro byDatum byAttribute place bulletin reader
  have hshown : place.tag.dataset.lookup "a1" = some "y" := by decide
  refine ⟨by decide, by decide, rfl, ?_, by decide⟩
  have hpart : reader.resolve (.element place) byDatum.selector = .ok (.element place) := rfl
  apply lookup_of_silent
  rw [read_of_resolve hpart rfl]
  exact markup_readKey_datum hshown

end ItemReader

end Collate
