import Mathlib.Data.List.Induction
import Mathlib.Data.List.Nodup
import Collate.Markup.Dataset
import Collate.Markup.Tree

/-!
# Tables of attributes and data

Attributes and data are kept in tables, lists of entries by key.  To set an entry puts it into the
place of the one with the same key, or at the end (`assigned`).  So no key comes twice in a table
that is built by setting one entry after the other (`tableOf`), a key leads to what was set last
(`lookup_tableOf_eq_some_iff`), and all entries are left exactly if their keys are different
(`tableOf_eq_self_iff`).

The attributes of a tag that was read have different names (`distinct_tagOf`), also where some are
set afterwards (`Tag.Distinct.set`), and then a name leads to any attribute that has it
(`Tag.attribute?_eq_some_iff`).
-/

namespace Collate.Markup

/-! ## Setting entries -/

section Table

variable {β : Type} {entries : List (String × β)} {key : String} {value : β}

/-- A table with one entry set, in its old place if there is one. -/
def assigned (entries : List (String × β)) (key : String) (value : β) : List (String × β) :=
  if entries.any fun entry => entry.1 == key then
    entries.map fun entry => if entry.1 == key then (key, value) else entry
  else entries ++ [(key, value)]

theorem assign_eq_assigned : Tag.assign = assigned := rfl

theorem withDatum_eq_assigned : withDatum = assigned := rfl

theorem any_key_iff :
    (entries.any fun entry => entry.1 == key) = true ↔ key ∈ entries.map Prod.fst := by
  simp

theorem assigned_of_mem (h : key ∈ entries.map Prod.fst) :
    assigned entries key value =
      entries.map fun entry => if entry.1 == key then (key, value) else entry :=
  if_pos (any_key_iff.mpr h)

theorem assigned_of_not_mem (h : key ∉ entries.map Prod.fst) :
    assigned entries key value = entries ++ [(key, value)] :=
  if_neg fun hany => h (any_key_iff.mp hany)

theorem keys_assigned :
    (assigned entries key value).map Prod.fst =
      if key ∈ entries.map Prod.fst then entries.map Prod.fst
      else entries.map Prod.fst ++ [key] := by
  split
  · next h =>
    rw [assigned_of_mem h, List.map_map]
    apply List.map_congr_left
    intro entry _
    simp only [Function.comp_apply]
    split
    · next hkey => exact (eq_of_beq hkey).symm
    · rfl
  · next h => rw [assigned_of_not_mem h, List.map_append, List.map_singleton]

theorem nodup_keys_assigned (h : (entries.map Prod.fst).Nodup) (key : String) (value : β) :
    ((assigned entries key value).map Prod.fst).Nodup := by
  rw [keys_assigned]
  split
  · exact h
  · next hkey => exact List.nodup_append.mpr ⟨h, List.nodup_singleton key, by grind⟩

theorem lookup_cons_of_ne {other : String} (h : other ≠ key) :
    ((key, value) :: entries).lookup other = entries.lookup other := by
  rw [List.lookup_cons, beq_eq_false_iff_ne.mpr h]

theorem lookup_replaced (entries : List (String × β)) (key : String) (value : β) (other : String) :
    (entries.map fun entry => if entry.1 == key then (key, value) else entry).lookup other =
      if other = key then (entries.lookup key).map fun _ => value else entries.lookup other := by
  induction entries with
  | nil => simp
  | cons entry rest ih =>
      obtain ⟨name, old⟩ := entry
      rw [List.map_cons]
      by_cases hname : name = key
      · subst hname
        rw [if_pos (beq_self_eq_true name)]
        by_cases hother : other = name
        · simp [hother]
        · simp only [lookup_cons_of_ne hother, ih, if_neg hother]
      · rw [if_neg (by simpa using hname), lookup_cons_of_ne (Ne.symm hname)]
        by_cases hother : other = name
        · rw [if_neg (hother ▸ hname), hother, List.lookup_cons_self, List.lookup_cons_self]
        · rw [lookup_cons_of_ne hother, lookup_cons_of_ne hother, ih]

theorem lookup_eq_none_iff_not_mem : entries.lookup key = none ↔ key ∉ entries.map Prod.fst := by
  rw [List.lookup_eq_none_iff]
  grind

theorem lookup_assigned (entries : List (String × β)) (key : String) (value : β) (other : String) :
    (assigned entries key value).lookup other =
      if other = key then some value else entries.lookup other := by
  cases hkey : entries.lookup key with
  | none =>
      rw [assigned_of_not_mem (lookup_eq_none_iff_not_mem.mp hkey), List.lookup_append]
      by_cases hother : other = key
      · simp [hother, hkey]
      · rw [lookup_cons_of_ne hother, if_neg hother, List.lookup_nil, Option.or_none]
  | some old =>
      -- an entry that is found is replaced in its place
      have hmem : key ∈ entries.map Prod.fst := by
        by_contra hnot
        simp [lookup_eq_none_iff_not_mem.mpr hnot] at hkey
      rw [assigned_of_mem hmem, lookup_replaced, hkey, Option.map_some]

/-! ## Setting one entry after the other -/

/-- The table that some entries make, set one after the other. -/
def tableOf (entries : List (String × β)) : List (String × β) :=
  entries.foldl (fun table entry => assigned table entry.1 entry.2) []

theorem tableOf_concat (entries : List (String × β)) (entry : String × β) :
    tableOf (entries ++ [entry]) = assigned (tableOf entries) entry.1 entry.2 :=
  List.foldl_concat ..

theorem nodup_keys_tableOf (entries : List (String × β)) :
    ((tableOf entries).map Prod.fst).Nodup := by
  induction entries using List.reverseRecOn with
  | nil => exact List.nodup_nil
  | append_singleton entries entry ih =>
      rw [tableOf_concat]
      exact nodup_keys_assigned ih _ _

/-- A key leads to what was set last. -/
theorem lookup_tableOf (entries : List (String × β)) (key : String) :
    (tableOf entries).lookup key = entries.reverse.lookup key := by
  induction entries using List.reverseRecOn with
  | nil => rfl
  | append_singleton entries entry ih =>
      obtain ⟨name, value⟩ := entry
      rw [tableOf_concat, lookup_assigned, List.reverse_concat, ih]
      by_cases h : key = name
      · rw [if_pos h, h, List.lookup_cons_self]
      · rw [if_neg h, lookup_cons_of_ne h]

/-- So a key leads to the last of the entries that have it. -/
theorem lookup_tableOf_eq_some_iff : (tableOf entries).lookup key = some value ↔
    ∃ before after, entries = before ++ (key, value) :: after ∧ ∀ entry ∈ after, entry.1 ≠ key := by
  rw [lookup_tableOf, List.lookup_eq_some_iff]
  constructor
  · rintro ⟨after, before, hentries, hafter⟩
    refine ⟨before.reverse, after.reverse, ?_, fun entry hentry => ?_⟩
    · rw [← List.reverse_reverse entries, hentries]
      simp
    · have hne := hafter entry (List.mem_reverse.mp hentry)
      exact Ne.symm (by simpa using hne)
  · rintro ⟨before, after, rfl, hafter⟩
    refine ⟨after.reverse, before.reverse, by simp, fun entry hentry => ?_⟩
    simpa using (hafter entry (List.mem_reverse.mp hentry)).symm

/-- **No entry gives way exactly if their keys are different.** -/
theorem tableOf_eq_self_iff : tableOf entries = entries ↔ (entries.map Prod.fst).Nodup := by
  constructor
  · intro h
    rw [← h]
    exact nodup_keys_tableOf entries
  · intro h
    induction entries using List.reverseRecOn with
    | nil => rfl
    | append_singleton entries entry ih =>
        rw [List.map_append, List.map_singleton, List.nodup_append] at h
        have hnew : entry.1 ∉ entries.map Prod.fst := fun hmem =>
          h.2.2 _ hmem _ (List.mem_singleton_self _) rfl
        rw [tableOf_concat, ih h.1, assigned_of_not_mem hnew]

end Table

/-! ## Attributes -/

/-- No two attributes have the same name. -/
def Tag.Distinct (tag : Tag) : Prop := (tag.attributes.map Prod.fst).Nodup

instance (tag : Tag) : Decidable tag.Distinct :=
  inferInstanceAs (Decidable (tag.attributes.map Prod.fst).Nodup)

/-- A name leads to any attribute that has it. -/
theorem Tag.attribute?_eq_some_iff {tag : Tag} (htag : tag.Distinct) {name : String}
    {value : Attribute} : tag.attribute? name = some value ↔ (name, value) ∈ tag.attributes := by
  rw [attribute?, List.lookup_eq_some_iff]
  constructor
  · rintro ⟨before, after, hattributes, -⟩
    rw [hattributes]
    exact List.mem_append_right _ (List.mem_cons_self ..)
  · intro hmem
    obtain ⟨before, after, hattributes⟩ := List.append_of_mem hmem
    refine ⟨before, after, hattributes, fun entry hentry => ?_⟩
    have hnodup : ((before ++ (name, value) :: after).map Prod.fst).Nodup := hattributes ▸ htag
    rw [List.map_append, List.nodup_append] at hnodup
    have hne := hnodup.2.2 _ (List.mem_map_of_mem hentry) _ (List.mem_cons_self ..)
    simpa using hne.symm

theorem Tag.Distinct.set {tag : Tag} (h : tag.Distinct) (name : String) (value : Attribute) :
    (tag.set name value).Distinct := nodup_keys_assigned h name value

theorem nodup_names_markEncoding {attributes : List (String × Attribute)}
    (h : (attributes.map Prod.fst).Nodup) : ((markEncoding attributes).map Prod.fst).Nodup := by
  simp only [markEncoding, assign_eq_assigned]
  split
  · exact nodup_keys_assigned h _ _
  · split
    · exact nodup_keys_assigned h _ _
    · exact h
  · exact h

theorem attributes_tagOf (serial : Nat) (name : String) (written : List (String × String)) :
    (tagOf serial name written).attributes =
      if name = "meta" then
        markEncoding (tableOf (written.map fun entry =>
          (entry.1, attributeOf name entry.1 entry.2)))
      else tableOf (written.map fun entry => (entry.1, attributeOf name entry.1 entry.2)) := by
  rw [tableOf, List.foldl_map, ← assign_eq_assigned]
  rfl

/-- The attributes of a tag that was read have different names. -/
theorem distinct_tagOf (serial : Nat) (name : String) (written : List (String × String)) :
    (tagOf serial name written).Distinct := by
  rw [Tag.Distinct, attributes_tagOf]
  split
  · exact nodup_names_markEncoding (nodup_keys_tableOf _)
  · exact nodup_keys_tableOf _

end Collate.Markup
