import Collate.Lookup.Element
import Collate.Proofs.Lookup.Soft

/-!
# Attributes as properties

An attribute can be read by its name, or as a property, along a path of one segment.  Both readings
agree (`ItemReader.lookup_named_eq_path`):

* in plain data, an attribute is a member that is a text, and a text is in normal form, so the path
  leads to the same value;
* an element reflects its attributes as properties, those apart that have a meaning of their own
  (`Place.ownNames`); and where there is no attribute, there is no property.

Only the warnings differ, which say what was missing.
-/

namespace Collate

open Markup

/-! ## Properties of elements -/

namespace Markup.Place

/-- The names of the properties that ask for an attribute by its presence. -/
def flagNames : List String :=
  ["checked", "disabled", "selected", "hidden", "required", "readOnly", "multiple"]

/-- The names of the properties of an element that have a meaning of their own. -/
def ownNames : List String :=
  ["text", "innerText", "textContent", "tagName", "localName", "id", "className", "classList",
   "dataset", "attributes", "children", "childElementCount", "value"] ++ flagNames

variable {place : Place} {name text : String}

theorem flagOf?_eq_none_iff : flagOf? name = none ↔ name ∉ flagNames := by
  unfold flagOf?
  split <;> simp_all [flagNames]

theorem ownProperty?_eq_none_iff : place.ownProperty? name = none ↔ name ∉ ownNames := by
  unfold ownProperty?
  split
  -- any other name may still be that of a flag
  case h_14 => simp_all [ownNames, flagOf?_eq_none_iff]
  all_goals simp [ownNames]

theorem property_eq_reflected (h : name ∉ ownNames) :
    place.property name = place.reflected name := by
  rw [property, ownProperty?_eq_none_iff.mpr h, Option.getD_none]

/-- The text of an attribute, or a notice that there is none. -/
def attributeOr (place : Place) (name : String) (notice : Notice) : Finding :=
  match place.tag.attributeText? name with
  | some text => .found (.text text)
  | none => .missed notice

theorem attributeOr_of_some (h : place.tag.attributeText? name = some text) (notice : Notice) :
    place.attributeOr name notice = .found (.text text) := by
  rw [attributeOr, h]

theorem attributeOr_of_none (h : place.tag.attributeText? name = none) (notice : Notice) :
    place.attributeOr name notice = .missed notice := by
  rw [attributeOr, h]

end Markup.Place

/-! ## Reading a key -/

namespace ItemReader

variable {engine : Selector.Engine} {item value : Value} {rule byName byPath : Rule}
  {name : String}

theorem markup_readKey_named (place : Place) (name : String) :
    (markup engine).readKey (.element place) (.named name) =
      place.attributeOr name (.noAttribute name) := by
  have hattribute :
      (markup engine).attributeOf (.element place) name = .ok (place.reflected name) := rfl
  rw [readKey, hattribute, Place.reflected, Place.attributeOr]
  cases place.tag.attributeText? name <;> rfl

/-- A property without a meaning of its own is the attribute of its name. -/
theorem markup_readKey_path (place : Place) (hname : name ∉ Place.ownNames) :
    (markup engine).readKey (.element place) (.path [name]) =
      place.attributeOr name (.noProperty name) := by
  have hproperty : (markup engine).property (.element place) name = .ok (place.reflected name) :=
    congrArg Except.ok (Place.property_eq_reflected hname)
  rw [readKey_singleton hproperty, Place.reflected, Place.attributeOr]
  cases place.tag.attributeText? name <;> rfl

/-! ## Reading an item -/

/-- A selector leads from an element to an element or to nothing. -/
theorem markup_resolve (place : Place) (selector : Option String) :
    (∃ part, (markup engine).resolve (.element place) selector = .ok (.element part)) ∨
      (markup engine).resolve (.element place) selector = .ok .missing := by
  cases selector with
  | none => exact .inl ⟨place, rfl⟩
  | some selector =>
      simp only [markup]
      split
      · exact .inl ⟨place, rfl⟩
      · cases place.first? engine selector with
        | none => exact .inr rfl
        | some part => exact .inl ⟨part, rfl⟩

theorem read_of_nothing {reader : ItemReader}
    (h : reader.resolve item rule.selector = .ok .missing) :
    reader.read item rule = .missed (.noElement rule.selector) := by
  rw [read, h]
  rfl

/-- An attribute of plain data is a text, and a path leads to it as it is. -/
theorem plain_readKey_path_of_named {part : Value} {notice : Option Notice}
    (h : plain.readKey part (.named name) = { outcome := .ok value, notice })
    (hvalue : value ≠ .missing) :
    notice = none ∧ plain.readKey part (.path [name]) = .found value := by
  obtain ⟨found, hfound, hvalue'⟩ := Finding.exists_of_after_eq_ok h
  obtain ⟨member, hmember, hattribute⟩ := exists_of_map_eq_ok hfound
  split at hvalue'
  · cases hvalue'
    exact absurd rfl hvalue
  cases hvalue'
  split at hattribute
  · next htext =>
    subst hattribute
    -- a text is there, so the path does not end before it
    have hpresent : member.isAbsent = false := by
      cases member <;> first | rfl | cases htext
    rw [readKey_singleton hmember, hpresent]
    exact ⟨rfl, Value.normalize_of_isNormal (Value.isNormal_of_text? htext)⟩
  · exact absurd hattribute.symm hvalue

theorem plain_read_path_of_named (hname : byName.key = .named name)
    (hpath : byPath.key = .path [name]) (hselector : byPath.selector = byName.selector)
    {notice : Option Notice} (h : plain.read item byName = { outcome := .ok value, notice })
    (hvalue : value ≠ .missing) :
    notice = none ∧ plain.read item byPath = .found value := by
  obtain ⟨part, hpart, hread⟩ := Finding.exists_of_after_eq_ok h
  split at hread
  · cases hread
    exact absurd rfl hvalue
  next hpresent =>
  rw [hname] at hread
  rw [read_of_resolve (hselector ▸ hpart) (Bool.eq_false_iff.mpr hpresent), hpath]
  exact plain_readKey_path_of_named hread hvalue

/-- What is read off an element by either rule: the text of an attribute; or nothing, and each rule
tells in its own way why. -/
theorem markup_read_cases (hname : byName.key = .named name) (hpath : byPath.key = .path [name])
    (hselector : byPath.selector = byName.selector) (hown : name ∉ Place.ownNames) (place : Place) :
    (∃ part text, (markup engine).resolve (.element place) byName.selector = .ok (.element part) ∧
      part.tag.attributeText? name = some text ∧
      (markup engine).read (.element place) byName = .found (.text text) ∧
      (markup engine).read (.element place) byPath = .found (.text text)) ∨
    (∀ part, (markup engine).resolve (.element place) byName.selector = .ok (.element part) →
        part.tag.attributeText? name = none) ∧
      ∃ notice notice', (markup engine).read (.element place) byName = .missed notice ∧
        (markup engine).read (.element place) byPath = .missed notice' := by
  rcases markup_resolve place byName.selector with ⟨part, hpart⟩ | hnothing
  · have hread : (markup engine).read (.element place) byName =
        part.attributeOr name (.noAttribute name) := by
      rw [read_of_resolve hpart rfl, hname, markup_readKey_named]
    -- both rules look at the same part, as they have the same selector
    have hread' : (markup engine).read (.element place) byPath =
        part.attributeOr name (.noProperty name) := by
      rw [read_of_resolve (hselector ▸ hpart) rfl, hpath, markup_readKey_path part hown]
    cases htext : part.tag.attributeText? name with
    | some text =>
        rw [Place.attributeOr_of_some htext] at hread hread'
        exact .inl ⟨part, text, hpart, htext, hread, hread'⟩
    | none =>
        rw [Place.attributeOr_of_none htext] at hread hread'
        refine .inr ⟨fun other hother => ?_, _, _, hread, hread'⟩
        cases hpart.symm.trans hother
        exact htext
  · refine .inr ⟨fun part hpart => ?_, _, _, read_of_nothing hnothing,
      read_of_nothing (hselector ▸ hnothing)⟩
    cases hnothing.symm.trans hpart

/-- **Rules for an attribute and for the property of its name agree**, if their selectors are the
same.  In plain data, a value that the first one comes to is what the second one comes to, without a
warning.  In markup, where the name is not that of a property with a meaning of its own, either both
come to the text of the attribute, without a warning; or there is no such attribute, and both come
to nothing, with one warning each if none is refused. -/
theorem lookup_named_eq_path (engine : Selector.Engine) {byName byPath : Rule} {name : String}
    (hname : byName.key = .named name) (hpath : byPath.key = .path [name])
    (hselector : byPath.selector = byName.selector) :
    (∀ (item value : Value) (bulletin later : Bulletin),
      plain.lookup item byName bulletin = (.ok value, later) → value ≠ .missing →
        later = bulletin ∧ plain.lookup item byPath bulletin = (.ok value, bulletin)) ∧
    (name ∉ Place.ownNames → ∀ place : Place,
      (∃ part text,
        (markup engine).resolve (.element place) byName.selector = .ok (.element part) ∧
        part.tag.attributeText? name = some text ∧ ∀ bulletin,
          (markup engine).lookup (.element place) byName bulletin = (.ok (.text text), bulletin) ∧
          (markup engine).lookup (.element place) byPath bulletin = (.ok (.text text), bulletin)) ∨
      (∀ part, (markup engine).resolve (.element place) byName.selector = .ok (.element part) →
          part.tag.attributeText? name = none) ∧
        (∀ (value : Value) (bulletin later : Bulletin),
          (markup engine).lookup (.element place) byName bulletin = (.ok value, later) ∨
            (markup engine).lookup (.element place) byPath bulletin = (.ok value, later) →
          value = .missing) ∧
        ∃ warning warning', ∀ bulletin : Bulletin, bulletin.outlet.Accepts →
          (markup engine).lookup (.element place) byName bulletin =
            (.ok .missing, bulletin.post warning) ∧
          (markup engine).lookup (.element place) byPath bulletin =
            (.ok .missing, bulletin.post warning')) := by
  refine ⟨fun item value bulletin later hlookup hvalue => ?_, fun hown place => ?_⟩
  · obtain ⟨notice, hread⟩ := exists_read_of_lookup hlookup hvalue
    obtain ⟨rfl, hread'⟩ := plain_read_path_of_named hname hpath hselector hread hvalue
    rw [lookup_of_silent hread] at hlookup
    cases hlookup
    exact ⟨rfl, lookup_of_silent hread' bulletin⟩
  · rcases markup_read_cases hname hpath hselector hown place with
      ⟨part, text, hpart, htext, hread, hread'⟩ | ⟨hnone, notice, notice', hread, hread'⟩
    · exact .inl ⟨part, text, hpart, htext, fun bulletin =>
        ⟨lookup_of_silent hread bulletin, lookup_of_silent hread' bulletin⟩⟩
    · refine .inr ⟨hnone, fun value bulletin later hlookup => ?_, notice.message, notice'.message,
        fun bulletin houtlet => ⟨lookup_of_read houtlet hread, lookup_of_read houtlet hread'⟩⟩
      rcases hlookup with hlookup | hlookup
      · exact eq_missing_of_lookup hread hlookup
      · exact eq_missing_of_lookup hread' hlookup

/-- A relation of links, as a member of an enumeration of texts and as an attribute of two words. -/
theorem lookup_named_eq_path_rel :
    let byName : Rule := ⟨.named "rel", none, false, by decide, fun _ h => nomatch h⟩
    let byPath : Rule := ⟨.path ["rel"], none, false, by decide, fun _ h => nomatch h⟩
    let member : Value := .textMember "Relation" "NEXT" "next"
    let place : Place := ⟨⟨1, "a", [("rel", .words ["next", "first"])]⟩, [], []⟩
    let bulletin := Bulletin.opened 5 .journal
    let reader := markup .standard
    plain.lookup (.mapping 1 [("rel", member)]) byPath bulletin = (.ok member, bulletin) ∧
      reader.lookup (.element place) byName bulletin = (.ok (.text "next first"), bulletin) ∧
      reader.lookup (.element place) byPath bulletin = (.ok (.text "next first"), bulletin) := by
  intro byName byPath member place bulletin reader
  obtain ⟨hplain, hmarkup⟩ := lookup_named_eq_path .standard
    (show byName.key = .named "rel" from rfl) (show byPath.key = .path ["rel"] from rfl) rfl
  have hread : plain.read (.mapping 1 [("rel", member)]) byName = .found member := by
    rw [plain_read_without_selector _ rfl rfl]
    rfl
  have hmember : member ≠ .missing := Value.noConfusion
  refine ⟨(hplain _ _ _ _ (lookup_of_silent hread bulletin) hmember).2, ?_⟩
  have htext : place.tag.attributeText? "rel" = some "next first" := by decide
  rcases hmarkup (by decide) place with ⟨part, text, hpart, htext', hlookup⟩ | ⟨hnone, -⟩
  · cases hpart
    cases htext.symm.trans htext'
    exact hlookup bulletin
  · cases htext.symm.trans (hnone place rfl)

end ItemReader

end Collate
