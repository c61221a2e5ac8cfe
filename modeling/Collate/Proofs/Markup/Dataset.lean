import Collate.Proofs.Markup.Attributes
import Collate.Proofs.Text.Parts

/-!
# The data of an element

The name of a datum becomes a key by leaving out its hyphens.  What this does to a name follows from
two equations: a character stays as it is (`camelOf_cons`), and one behind a hyphen is raised
(`camelOf_hyphen_cons`).  So different names may come to one key.  Where every hyphen is followed by
a small letter, and no letter is a capital, a name can be recovered from its key
(`hyphenated_camelOf`).

If names come to one key, the last attribute counts (`Tag.lookup_dataset_iff`).  The data of an
element have an entry for every attribute exactly if this does not happen
(`Tag.dataset_eq_keyed_iff`), which is so with names that can be recovered
(`Tag.nodup_keyed_of_isRegular`).
-/

namespace Collate.Markup

/-! ## Names in one word -/

/-- The characters of a name in one word. -/
def camelOf (name : List Char) : List Char :=
  match name.splitOn '-' with
  | [] => []
  | first :: rest => first ++ rest.flatMap capitalized

variable {c : Char}

theorem toList_camelCased (name : String) : (camelCased name).toList = camelOf name.toList := by
  unfold camelCased camelOf
  split <;> simp_all

theorem camelOf_cons (h : c ≠ '-') (rest : List Char) :
    camelOf (c :: rest) = c :: camelOf rest := by
  obtain ⟨first, others, hparts⟩ := List.exists_cons_of_ne_nil (List.splitOn_ne_nil '-' rest)
  rw [camelOf, camelOf, Text.splitOn_cons_of_ne h, hparts]
  rfl

theorem camelOf_hyphen_cons (h : c ≠ '-') (rest : List Char) :
    camelOf ('-' :: c :: rest) = Text.upperOf c ++ camelOf rest := by
  obtain ⟨first, others, hparts⟩ := List.exists_cons_of_ne_nil (List.splitOn_ne_nil '-' rest)
  rw [camelOf, camelOf, Text.splitOn_cons_self, Text.splitOn_cons_of_ne h, hparts]
  simp [capitalized]

/-! ## Names that can be recovered -/

/-- Every hyphen is followed by a small letter, and no letter is a capital. -/
def isRegular : List Char → Bool
  | [] => true
  | '-' :: c :: rest => c.isLower && isRegular rest
  | c :: rest => c != '-' && !c.isUpper && isRegular rest

/-- A word with a hyphen before every capital, which becomes a small letter. -/
def hyphenated (word : List Char) : List Char :=
  word.flatMap fun c => if c.isUpper then ['-', c.toLower] else [c]

theorem exists_ofNat_of_isLower (h : c.isLower = true) : ∃ n < 26, c = Char.ofNat (97 + n) := by
  have hletter : (c.val ≥ 'a'.val && c.val ≤ 'z'.val) = true := h
  have hrange : 97 ≤ c.toNat ∧ c.toNat ≤ 122 := by
    simpa [UInt32.le_iff_toNat_le, ← Char.toNat_val] using hletter
  refine ⟨c.toNat - 97, by omega, ?_⟩
  rw [Nat.add_sub_cancel' hrange.1, Char.ofNat_toNat]

/-- A small letter is raised to a capital, which is lowered to it. -/
theorem raised_of_isLower (h : c.isLower = true) :
    c ≠ '-' ∧ Text.upperOf c = [c.toUpper] ∧ c.toUpper.isUpper = true ∧ c.toUpper.toLower = c := by
  obtain ⟨n, hn, rfl⟩ := exists_ofNat_of_isLower h
  -- there are 26 of them
  have hall : ∀ n < 26, Char.ofNat (97 + n) ≠ '-' ∧ (Char.ofNat (97 + n)).toNat < 0x80 ∧
      (Char.ofNat (97 + n)).toUpper.isUpper = true ∧
      (Char.ofNat (97 + n)).toUpper.toLower = Char.ofNat (97 + n) := by decide
  obtain ⟨hhyphen, hascii, hupper, hlower⟩ := hall n hn
  exact ⟨hhyphen, if_pos hascii, hupper, hlower⟩

theorem hyphenated_camelOf {name : List Char} (h : isRegular name = true) :
    hyphenated (camelOf name) = name := by
  fun_induction isRegular name with
  | case1 => rfl
  | case2 c rest ih =>
      obtain ⟨hlower, hrest⟩ := Bool.and_eq_true_iff.mp h
      -- the capital says where the hyphen was
      obtain ⟨hhyphen, hraised, hupper, hback⟩ := raised_of_isLower hlower
      rw [camelOf_hyphen_cons hhyphen, hraised, List.singleton_append, hyphenated,
        List.flatMap_cons, if_pos hupper, hback]
      exact congrArg (['-', c] ++ ·) (ih hrest)
  | case3 c rest hnot ih =>
      simp only [Bool.and_eq_true, bne_iff_ne, Bool.not_eq_true'] at h
      obtain ⟨⟨hhyphen, hupper⟩, hrest⟩ := h
      rw [camelOf_cons hhyphen, hyphenated, List.flatMap_cons, if_neg (by simp [hupper])]
      exact congrArg (c :: ·) (ih hrest)

/-- **A name that can be recovered shares its key with no other.** -/
theorem camelCased_injOn {name other : String} (hname : isRegular name.toList = true)
    (hother : isRegular other.toList = true) (h : camelCased name = camelCased other) :
    name = other := by
  apply String.toList_injective
  have hsame := congrArg String.toList h
  rw [toList_camelCased, toList_camelCased] at hsame
  rw [← hyphenated_camelOf hname, hsame, hyphenated_camelOf hother]

/-! ## The names of data -/

/-- The name of a datum: what follows the mark in the name of its attribute. -/
def datumName? (name : String) : Option String :=
  if datumMark.toList.isPrefixOf name.toList then
    some (String.ofList (name.toList.drop datumMark.length))
  else none

theorem datumKey?_eq (name : String) : datumKey? name = (datumName? name).map camelCased := by
  unfold datumKey? datumName?
  split <;> rfl

theorem datumName?_eq_some_iff {name rest : String} :
    datumName? name = some rest ↔ name = datumMark ++ rest := by
  unfold datumName?
  constructor
  · intro h
    split at h
    · next hprefix =>
      cases h
      obtain ⟨after, hafter⟩ := List.isPrefixOf_iff_prefix.mp hprefix
      apply String.toList_injective
      rw [String.toList_append, String.toList_ofList, ← hafter]
      exact congrArg _ List.drop_left.symm
    · cases h
  · rintro rfl
    have hprefix : datumMark.toList.isPrefixOf (datumMark ++ rest).toList = true := by
      rw [String.toList_append]
      exact List.isPrefixOf_iff_prefix.mpr (List.prefix_append _ _)
    rw [if_pos hprefix, String.toList_append]
    exact congrArg some (String.toList_injective ((String.toList_ofList).trans List.drop_left))

/-! ## The data of an element -/

namespace Tag

variable {tag : Tag} {name text : String}

/-- The data of an element, by their names. -/
def data (tag : Tag) : List (String × String) :=
  tag.attributes.filterMap fun entry => (datumName? entry.1).map fun name => (name, entry.2.text)

/-- The data of an element, by their keys. -/
def keyed (tag : Tag) : List (String × String) :=
  tag.data.map fun datum => (camelCased datum.1, datum.2)

theorem mem_data_iff : (name, text) ∈ tag.data ↔
    ∃ value, (datumMark ++ name, value) ∈ tag.attributes ∧ value.text = text := by
  simp only [data, List.mem_filterMap, Option.map_eq_some_iff, datumName?_eq_some_iff]
  constructor
  · rintro ⟨⟨_, value⟩, hmem, _, rfl, hdatum⟩
    cases hdatum
    exact ⟨value, hmem, rfl⟩
  · rintro ⟨value, hmem, rfl⟩
    exact ⟨_, hmem, name, rfl, rfl⟩

/-- Different attributes hold data of different names. -/
theorem Distinct.nodup_data (h : tag.Distinct) : (tag.data.map Prod.fst).Nodup := by
  have hnames : tag.data.map Prod.fst = (tag.attributes.map Prod.fst).filterMap datumName? := by
    rw [data, List.map_filterMap, List.filterMap_map]
    apply List.filterMap_congr
    intro entry _
    rw [Function.comp_apply, Option.map_map]
    exact Option.map_id'
  rw [hnames]
  refine List.Nodup.filterMap (fun name other rest hname hother => ?_) h
  rw [datumName?_eq_some_iff.mp hname, datumName?_eq_some_iff.mp hother]

/-- The data of an element are the table that its data make by their keys. -/
theorem dataset_eq_tableOf (tag : Tag) : tag.dataset = tableOf tag.keyed := by
  rw [tableOf, keyed, List.foldl_map, data, List.foldl_filterMap, dataset]
  congr 1
  funext entries entry
  simp only [datumKey?_eq, withDatum_eq_assigned]
  cases datumName? entry.1 <;> rfl

/-- The key of some data leads to this text: that of the last one among them. -/
def Shows (tag : Tag) (key text : String) : Prop :=
  ∃ before name after, tag.data = before ++ (name, text) :: after ∧ camelCased name = key ∧
    ∀ datum ∈ after, camelCased datum.1 ≠ key

/-- **Of data with one key the last one counts.** -/
theorem lookup_dataset_iff {key : String} :
    tag.dataset.lookup key = some text ↔ tag.Shows key text := by
  rw [dataset_eq_tableOf, lookup_tableOf_eq_some_iff, keyed]
  constructor
  · rintro ⟨before, after, hkeyed, hafter⟩
    obtain ⟨before', rest, hsplit, -, hrest⟩ := List.map_eq_append_iff.mp hkeyed
    obtain ⟨⟨name, held⟩, after', rfl, hentry, rfl⟩ := List.map_eq_cons_iff.mp hrest
    cases hentry
    exact ⟨before', name, after', hsplit, rfl, fun datum hdatum =>
      hafter _ (List.mem_map_of_mem hdatum)⟩
  · rintro ⟨before, name, after, hdata, rfl, hafter⟩
    refine ⟨_, _, by rw [hdata, List.map_append, List.map_cons], fun entry hentry => ?_⟩
    obtain ⟨datum, hdatum, rfl⟩ := List.mem_map.mp hentry
    exact hafter datum hdatum

/-- Every datum has a key, and its key leads to some text. -/
theorem exists_shows (h : (name, text) ∈ tag.data) :
    ∃ shown, tag.Shows (camelCased name) shown := by
  cases hlookup : tag.dataset.lookup (camelCased name) with
  | some shown => exact ⟨shown, lookup_dataset_iff.mp hlookup⟩
  | none =>
      rw [dataset_eq_tableOf, lookup_tableOf, lookup_eq_none_iff_not_mem] at hlookup
      refine absurd ?_ hlookup
      have hkeyed : (camelCased name, text) ∈ tag.keyed := List.mem_map_of_mem h
      exact List.mem_map_of_mem (List.mem_reverse.mpr hkeyed)

/-- Where no other datum has its key, the key of a datum leads to its own text. -/
theorem Shows.eq_of_unshared (htag : tag.Distinct) (h : (name, text) ∈ tag.data)
    (hunshared : ∀ datum ∈ tag.data, camelCased datum.1 = camelCased name → datum.1 = name)
    {shown : String} (hshown : tag.Shows (camelCased name) shown) : shown = text := by
  obtain ⟨before, other, after, hdata, hkey, -⟩ := hshown
  have hmem : (other, shown) ∈ tag.data := by
    rw [hdata]
    exact List.mem_append_right _ (List.mem_cons_self ..)
  obtain rfl : other = name := hunshared _ hmem hkey
  obtain ⟨value, hvalue, rfl⟩ := mem_data_iff.mp hmem
  obtain ⟨value', hvalue', rfl⟩ := mem_data_iff.mp h
  rw [← attribute?_eq_some_iff htag] at hvalue hvalue'
  rw [Option.some.inj (hvalue.symm.trans hvalue')]

/-- **The data have an entry for every attribute exactly if no two names come to one key.** -/
theorem dataset_eq_keyed_iff (htag : tag.Distinct) :
    tag.dataset = tag.keyed ↔
      ∀ datum ∈ tag.data, ∀ other ∈ tag.data,
        camelCased datum.1 = camelCased other.1 → datum.1 = other.1 := by
  have hkeys : tag.keyed.map Prod.fst = (tag.data.map Prod.fst).map camelCased := by
    rw [keyed, List.map_map, List.map_map]
    rfl
  rw [dataset_eq_tableOf, tableOf_eq_self_iff, hkeys, List.nodup_map_iff_inj_on htag.nodup_data]
  simp

end Tag

end Collate.Markup
