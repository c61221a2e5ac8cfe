import Collate.Lookup.Resolve
import Collate.Proofs.Lookup.Returns
import Collate.Proofs.Lookup.Walk

/-!
# Entries of plain data

A rule reads its key off the part that its selector points to (`ItemReader.read_of_resolve`).  In
plain data, a rule without a selector, whose key is a path of one segment, reads the entry of that
name (`ItemReader.plain_read_eq_normalize`).
-/

namespace Collate.ItemReader

variable {reader : ItemReader} {item part : Value} {rule : Rule} {name : String} {entry : Value}

/-- A rule reads its key off the part that its selector points to. -/
theorem read_of_resolve (hpart : reader.resolve item rule.selector = .ok part)
    (hpresent : part.isMissing = false) : reader.read item rule = reader.readKey part rule.key := by
  rw [read, hpart, Finding.after, hpresent]
  rfl

/-- A path of one segment reads the property that the segment names. -/
theorem readKey_singleton (h : reader.property part name = .ok entry) :
    reader.readKey part (.path [name]) =
      if entry.isAbsent then .missed (.noProperty name) else entry.normalize := by
  rw [readKey, Walk.along_singleton reader.property h]
  cases entry.isAbsent <;> rfl

theorem plain_read_without_selector (item : Value) {rule : Rule}
    (hselector : rule.selector = none) (hitem : item.isMissing = false) :
    plain.read item rule = plain.readKey item rule.key := by
  have hresolve : plain.resolve item rule.selector = .ok item := by
    rw [hselector]
    rfl
  exact read_of_resolve hresolve hitem

/-- A path of one segment leads to the entry of a mapping, in normal form. -/
theorem plain_read_eq_normalize (hselector : rule.selector = none) (hkey : rule.key = .path [name])
    (identity : Nat) {entries : List (String × Value)} (hentry : entries.lookup name = some entry)
    (hpresent : entry.isAbsent = false) :
    plain.read (.mapping identity entries) rule = entry.normalize := by
  have hmember : plain.property (.mapping identity entries) name = .ok entry := by
    show Value.readMember (.mapping identity entries) name = _
    rw [Value.readMember, hentry, Option.getD_some]
  rw [plain_read_without_selector _ hselector rfl, hkey, readKey_singleton hmember, hpresent]
  rfl

theorem plain_read_of_lookup (hselector : rule.selector = none) (hkey : rule.key = .path [name])
    (identity : Nat) {entries : List (String × Value)} (hentry : entries.lookup name = some entry)
    (hnormal : entry.isNormal = true) (hpresent : entry.isAbsent = false) :
    plain.read (.mapping identity entries) rule = .found entry := by
  rw [plain_read_eq_normalize hselector hkey identity hentry hpresent]
  exact Value.normalize_of_isNormal hnormal

theorem plain_valueOf_of_lookup (hselector : rule.selector = none) (hkey : rule.key = .path [name])
    (identity : Nat) {entries : List (String × Value)} (hentry : entries.lookup name = some entry)
    (hnormal : entry.isNormal = true) (hpresent : entry.isAbsent = false) :
    plain.valueOf (.mapping identity entries) rule = entry := by
  rw [valueOf, plain_read_of_lookup hselector hkey identity hentry hnormal hpresent]
  rfl

/-- A path of one segment reads the only entry of a mapping. -/
theorem plain_read_entry (hselector : rule.selector = none) (hkey : rule.key = .path [name])
    (identity : Nat) (hnormal : entry.isNormal = true) (hpresent : entry.isAbsent = false) :
    plain.read (.mapping identity [(name, entry)]) rule = .found entry :=
  plain_read_of_lookup hselector hkey identity List.lookup_cons_self hnormal hpresent

end Collate.ItemReader
