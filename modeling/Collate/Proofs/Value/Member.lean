import Collate.Proofs.Text.Numeral
import Collate.Value.Member

/-!
# Reading members of plain data

Plain data (`Plain`) has no parts that refuse to be read.  A segment names an entry of a mapping,
or the element at the position that it denotes, or an attribute (`Names`); what it does not name
is missing.

All the same, reading can fail, and `Refusal` says when: a segment of digits is taken for a
position of a sequence before it is known to denote one.

```text
a segment of digits that               list or tuple        range
begins with too many decimal digits    too long             too long
has a digit without a decimal value    malformed            malformed
denotes a number                       element or missing   the same, unless it is oversized
```

The elements of a range are computed, not stored: a range has the positions at which its
progression has not reached its end (`lt_rangeLength_iff`).
-/

namespace Collate.Value

variable {value found : Value} {segment : String} {start stop step : Int} {n : Nat}

/-! ## Plain data -/

/-- Data put together from primitive values, sequences, ranges and mappings. -/
inductive Plain : Value → Prop
  | none : Plain none
  | primitive {value : Value} (h : value.isPrimitive = true) (hown : value.isForeign = false) :
    Plain value
  | range (start stop step : Int) : Plain (range start stop step)
  | list {identity : Nat} {items : List Value} (h : ∀ item ∈ items, Plain item) :
    Plain (list identity items)
  | tuple {identity : Nat} {items : List Value} (h : ∀ item ∈ items, Plain item) :
    Plain (tuple identity items)
  | mapping {identity : Nat} {entries : List (String × Value)}
    (h : ∀ entry ∈ entries, Plain entry.2) : Plain (mapping identity entries)

/-- Whether the value has elements at positions. -/
def isSequence : Value → Bool
  | list _ _ | tuple _ _ | range _ _ _ => true
  | _ => false

/-- Whether the value has entries. -/
def isMapping : Value → Bool
  | mapping _ _ => true
  | _ => false

/-- The element at a position. -/
def elementAt? : Value → Nat → Option Value
  | list _ items, n | tuple _ items, n => items[n]?
  | range start stop step, n =>
    if 0 < step ∧ start + n * step < stop ∨ step < 0 ∧ stop < start + n * step then
      some (int (start + n * step))
    else Option.none
  | _, _ => Option.none

/-- Whether the value is a range of more integers than a length can count. -/
def isOversized : Value → Bool
  | range start stop step => greatestLength < rangeLength start stop step
  | _ => false

/-- The segment names this member of the value. -/
inductive Names (segment : String) : Value → Value → Prop
  | ofEntry {identity : Nat} {entries : List (String × Value)} {found : Value}
    (h : entries.lookup segment = some found) : Names segment (mapping identity entries) found
  | ofElement {value found : Value} {n : Nat} (hsegment : Text.Denotes segment.toList n)
    (h : value.elementAt? n = some found) : Names segment value found
  | ofAttribute {value found : Value} (hmapping : value.isMapping = false)
    (hposition : value.isSequence = true → Text.allDigits segment.toList = false)
    (h : value.attributeOf segment = .ok found) (hfound : found ≠ missing) :
    Names segment value found

/-- A segment of digits is refused: they are too many, or they denote no number, or they denote a
position of a range that is oversized. -/
inductive Refusal (value : Value) (segment : String) : Failure → Prop
  | tooLong (hsequence : value.isSequence = true) (hdigits : Text.allDigits segment.toList = true)
    (hlong : Text.digitLimit < (Text.leadingDecimals segment.toList).length) :
    Refusal value segment
      (.integerText segment (.tooLong (Text.leadingDecimals segment.toList).length))
  | malformed (hsequence : value.isSequence = true)
    (hdigits : Text.allDigits segment.toList = true)
    (hlength : (Text.leadingDecimals segment.toList).length ≤ Text.digitLimit)
    (hnone : ∀ n, ¬ Text.Denotes segment.toList n) :
    Refusal value segment (.integerText segment .malformed)
  | oversized {n : Nat} (hvalue : value.isOversized = true)
    (hlength : (Text.leadingDecimals segment.toList).length ≤ Text.digitLimit)
    (hn : Text.Denotes segment.toList n) : Refusal value segment .rangeTooLong

/-- What reading a segment gives: the member that it names, or else the missing value. -/
structure Reads (value : Value) (segment : String) (found : Value) : Prop where
  named : Names segment value found ∨ found = missing ∧ ∀ other, ¬ Names segment value other
  element : value.isSequence = true → ∀ n, Text.Denotes segment.toList n →
    found = (value.elementAt? n).getD missing
  plain : found.Plain ∨ found = missing ∨ value.attributeOf segment = .ok found

/-! ## Positions of ranges -/

theorem lt_toNat_fdiv_iff {width extent : Int} (h : 0 < width) :
    n < ((extent + width - 1).fdiv width).toNat ↔ n * width < extent := by
  rw [Int.fdiv_eq_ediv_of_nonneg _ h.le, Int.lt_toNat, ← Int.add_one_le_iff,
    Int.le_ediv_iff_mul_le h, Int.add_mul, Int.one_mul]
  omega

/-- A range has the positions at which its progression has not reached its end. -/
theorem lt_rangeLength_iff :
    n < rangeLength start stop step ↔
      0 < step ∧ start + n * step < stop ∨ step < 0 ∧ stop < start + n * step := by
  rw [rangeLength]
  by_cases hup : 0 < step
  · rw [if_pos hup, lt_toNat_fdiv_iff hup]
    omega
  rw [if_neg hup]
  by_cases hdown : step < 0
  · have hflip : start - stop - step - 1 = start - stop + -step - 1 := by ring
    rw [hflip, lt_toNat_fdiv_iff (by omega), Int.mul_neg]
    omega
  · obtain rfl : step = 0 := by omega
    simp

theorem elementAt?_range :
    elementAt? (range start stop step) n =
      if n < rangeLength start stop step then some (int (start + n * step)) else Option.none := by
  simp only [elementAt?, lt_rangeLength_iff]

/-! ## Parts of plain data -/

theorem Plain.of_elementAt? (h : value.Plain) (hfound : value.elementAt? n = some found) :
    found.Plain := by
  cases h with
  | range start stop step =>
      rw [elementAt?_range] at hfound
      split at hfound
      · cases hfound
        exact .primitive rfl rfl
      · cases hfound
  | list h | tuple h => exact h found (List.mem_of_getElem? hfound)
  | none | mapping => cases hfound
  | primitive h hown =>
      cases value <;> first | (cases hown; done) | (cases h; done) | cases hfound

theorem Plain.of_lookup {identity : Nat} {entries : List (String × Value)}
    (h : (Value.mapping identity entries).Plain) (hfound : entries.lookup segment = some found) :
    found.Plain := by
  obtain ⟨before, after, rfl, -⟩ := List.lookup_eq_some_iff.mp hfound
  cases h with
  | mapping h => exact h (segment, found) (List.mem_append_right _ List.mem_cons_self)
  | primitive h hown => cases h

/-- No attribute of plain data refuses to be read. -/
theorem Plain.exists_attributeOf (h : value.Plain) (segment : String) :
    ∃ found, value.attributeOf segment = .ok found := by
  cases value with
  | object =>
      cases h with
      | primitive h hown => cases hown
  | member =>
      cases h with
      | primitive h hown => cases h
  | _ => exact ⟨_, rfl⟩

theorem isSequence_of_elementAt? (h : value.elementAt? n = some found) :
    value.isSequence = true := by
  cases value <;> first | rfl | cases h

theorem isSequence_of_isOversized (h : value.isOversized = true) : value.isSequence = true := by
  cases value <;> first | rfl | cases h

theorem exists_of_isMapping (h : value.isMapping = true) :
    ∃ identity entries, value = mapping identity entries := by
  cases value with
  | mapping identity entries => exact ⟨identity, entries, rfl⟩
  | _ => cases h

/-- What is neither an entry nor a position is an attribute. -/
theorem readMember_of_attribute (hmapping : value.isMapping = false)
    (hposition : value.isSequence = true → Text.allDigits segment.toList = false) :
    value.readMember segment = value.attributeOf segment := by
  cases value with
  | mapping => cases hmapping
  | list | tuple | range => simp only [readMember, hposition rfl, Bool.false_eq_true, if_false]
  | _ => rfl

/-! ## Reading a position -/

theorem readMember_of_readInteger_eq_error {failure : Failure} (hsequence : value.isSequence = true)
    (hdigits : Text.allDigits segment.toList = true)
    (h : Failure.readInteger segment = .error failure) :
    value.readMember segment = .error failure := by
  cases value with
  | list | tuple | range => rw [readMember, if_pos hdigits, h]; rfl
  | _ => cases hsequence

/-- Once its segment is an integer, only the length of a range is in the way of an element. -/
theorem readMember_of_readInteger (hsequence : value.isSequence = true)
    (hdigits : Text.allDigits segment.toList = true)
    (h : Failure.readInteger segment = .ok (n : Int)) :
    value.readMember segment =
      if value.isOversized then .error .rangeTooLong
      else .ok ((value.elementAt? n).getD missing) := by
  cases value with
  | list | tuple => rw [readMember, if_pos hdigits, h]; rfl
  | range start stop step =>
      rw [readMember, if_pos hdigits, h, elementAt?_range, isOversized, rangeSize]
      simp only [Except.bind, decide_eq_true_eq, Int.ofNat_lt]
      -- the length of a range is asked for before its element
      by_cases hlong : greatestLength < rangeLength start stop step
      · rw [if_pos hlong, if_pos hlong]
        rfl
      · rw [if_neg hlong, if_neg hlong, Except.map]
        split <;> rfl
  | _ => cases hsequence

theorem readInteger_of_denotes (h : Text.Denotes segment.toList n)
    (hlength : (Text.leadingDecimals segment.toList).length ≤ Text.digitLimit) :
    Failure.readInteger segment = .ok (n : Int) := by
  rw [Failure.readInteger, Text.readInteger_of_denotes h hlength]
  rfl

theorem Refusal.readMember_eq {failure : Failure} (h : value.Refusal segment failure) :
    value.readMember segment = .error failure := by
  cases h with
  | tooLong hsequence hdigits hlong =>
      apply readMember_of_readInteger_eq_error hsequence hdigits
      rw [Failure.readInteger, Text.readInteger_of_tooLong hdigits hlong]
      rfl
  | malformed hsequence hdigits hlength hnone =>
      apply readMember_of_readInteger_eq_error hsequence hdigits
      rw [Failure.readInteger, Text.readInteger_of_not_denotes hdigits hnone hlength]
      rfl
  | oversized hvalue hlength hn =>
      rw [readMember_of_readInteger (isSequence_of_isOversized hvalue)
        (Text.allDigits_of_denotes hn) (readInteger_of_denotes hn hlength), if_pos hvalue]

/-- A position in a sequence is refused, or its segment denotes it. -/
theorem refusal_or_denotes (hsequence : value.isSequence = true)
    (hdigits : Text.allDigits segment.toList = true) :
    (∃ failure, value.Refusal segment failure) ∨
      ∃ n, Text.Denotes segment.toList n ∧
        (Text.leadingDecimals segment.toList).length ≤ Text.digitLimit ∧
        ¬ value.isOversized = true := by
  by_cases hlong : Text.digitLimit < (Text.leadingDecimals segment.toList).length
  · exact .inl ⟨_, .tooLong hsequence hdigits hlong⟩
  -- the length is looked at before the digits are
  have hlength := Nat.le_of_not_lt hlong
  by_cases hdenotes : ∃ n, Text.Denotes segment.toList n
  · obtain ⟨n, hn⟩ := hdenotes
    by_cases hvalue : value.isOversized = true
    · exact .inl ⟨_, .oversized hvalue hlength hn⟩
    · exact .inr ⟨n, hn, hlength, hvalue⟩
  · exact .inl ⟨_, .malformed hsequence hdigits hlength (not_exists.mp hdenotes)⟩

/-! ## Reading a member -/

theorem Plain.reads_element (h : value.Plain) (hsequence : value.isSequence = true)
    (hn : Text.Denotes segment.toList n) :
    value.Reads segment ((value.elementAt? n).getD missing) where
  named := by
    cases helement : value.elementAt? n with
    | some found => exact .inl (.ofElement hn helement)
    | none =>
        refine .inr ⟨rfl, fun other hother => ?_⟩
        -- no other position has this segment, and a segment of digits is no attribute
        cases hother with
        | ofEntry => cases hsequence
        | ofElement hn' h' =>
            rw [hn'.unique hn, helement] at h'
            cases h'
        | ofAttribute _ hposition =>
            rw [Text.allDigits_of_denotes hn] at hposition
            cases hposition hsequence
  element := by
    intro _ n' hn'
    rw [hn'.unique hn]
  plain := by
    cases helement : value.elementAt? n with
    | some found => exact .inl (h.of_elementAt? helement)
    | none => exact .inr (.inl rfl)

theorem Plain.reads_entry {identity : Nat} {entries : List (String × Value)}
    (h : (Value.mapping identity entries).Plain) (segment : String) :
    (Value.mapping identity entries).Reads segment ((entries.lookup segment).getD missing) where
  named := by
    cases hentry : entries.lookup segment with
    | some found => exact .inl (.ofEntry hentry)
    | none =>
        refine .inr ⟨rfl, fun other hother => ?_⟩
        cases hother with
        | ofEntry h' =>
            rw [hentry] at h'
            cases h'
        | ofElement _ h' => cases h'
        | ofAttribute hmapping => cases hmapping
  element := by
    intro hsequence
    cases hsequence
  plain := by
    cases hentry : entries.lookup segment with
    | some found => exact .inl (h.of_lookup hentry)
    | none => exact .inr (.inl rfl)

theorem reads_attribute (hmapping : value.isMapping = false)
    (hposition : value.isSequence = true → Text.allDigits segment.toList = false)
    (hfound : value.attributeOf segment = .ok found) : value.Reads segment found where
  named := by
    by_cases hmissing : found = missing
    · refine .inr ⟨hmissing, fun other hother => ?_⟩
      cases hother with
      | ofEntry => cases hmapping
      | ofElement hn h' =>
          have hdigits := hposition (isSequence_of_elementAt? h')
          rw [Text.allDigits_of_denotes hn] at hdigits
          cases hdigits
      | ofAttribute _ _ h' hpresent =>
          rw [hfound] at h'
          cases h'
          exact hpresent hmissing
    · exact .inl (.ofAttribute hmapping hposition hfound hmissing)
  element := by
    intro hsequence n hn
    have hdigits := hposition hsequence
    rw [Text.allDigits_of_denotes hn] at hdigits
    cases hdigits
  plain := .inr (.inr hfound)

/-- **Reading a member of plain data.**  It is refused exactly in the cases of `Refusal`: too many
digits, digits that denote no number, a range that is oversized.  In every other case it gives the
member that the segment names, for a position in a sequence the element that is there, or the
missing value if the segment names nothing. -/
theorem readMember_of_plain (h : value.Plain) (segment : String) :
    (∀ failure, value.readMember segment = .error failure ↔ value.Refusal segment failure) ∧
      ((∃ failure, value.Refusal segment failure) ∨
        ∃ found, value.readMember segment = .ok found ∧ value.Reads segment found) := by
  have hread : (∃ failure, value.Refusal segment failure) ∨
      ∃ found, value.readMember segment = .ok found ∧ value.Reads segment found := by
    by_cases hposition : value.isSequence = true ∧ Text.allDigits segment.toList = true
    · obtain ⟨hsequence, hdigits⟩ := hposition
      apply (refusal_or_denotes hsequence hdigits).imp_right
      rintro ⟨n, hn, hlength, hvalue⟩
      refine ⟨_, ?_, h.reads_element hsequence hn⟩
      rw [readMember_of_readInteger hsequence hdigits (readInteger_of_denotes hn hlength),
        if_neg hvalue]
    right
    -- what is no position is an entry of a mapping, or else an attribute
    by_cases hmapping : value.isMapping = true
    · obtain ⟨identity, entries, rfl⟩ := exists_of_isMapping hmapping
      exact ⟨_, rfl, h.reads_entry segment⟩
    · have hplain : value.isMapping = false := Bool.eq_false_iff.mpr hmapping
      have hother : value.isSequence = true → Text.allDigits segment.toList = false :=
        fun hsequence => Bool.eq_false_iff.mpr fun hdigits => hposition ⟨hsequence, hdigits⟩
      obtain ⟨found, hfound⟩ := h.exists_attributeOf segment
      refine ⟨found, ?_, reads_attribute hplain hother hfound⟩
      rw [readMember_of_attribute hplain hother, hfound]
  refine ⟨fun failure => ⟨fun herror => ?_, Refusal.readMember_eq⟩, hread⟩
  rcases hread with ⟨other, hother⟩ | ⟨found, hfound, -⟩
  · rw [hother.readMember_eq] at herror
    cases herror
    exact hother
  · rw [hfound] at herror
    cases herror

theorem plain_text (value : String) : (text value).Plain := .primitive rfl rfl

/-- A position can be written in any script. -/
theorem readMember_of_plain_devanagari :
    let letters : Value := list 1 [text "a", text "b"]
    letters.Plain ∧ (∀ failure, ¬ letters.Refusal "१" failure) ∧
      letters.readMember "१" = .ok (text "b") := by
  intro letters
  have hplain : letters.Plain := .list (by simp [plain_text])
  have hone : Text.Denotes "१".toList 1 := ⟨by decide, [1], .cons (by decide) .nil, rfl⟩
  have hnone : ∀ failure, ¬ letters.Refusal "१" failure := by
    intro failure h
    cases h with
    | tooLong _ _ hlong => exact absurd hlong (by decide)
    | malformed _ _ _ hnothing => exact hnothing 1 hone
    | oversized hvalue => cases hvalue
  refine ⟨hplain, hnone, ?_⟩
  obtain ⟨failure, h⟩ | ⟨found, hfound, hreads⟩ := (readMember_of_plain hplain "१").2
  · exact absurd h (hnone failure)
  · rw [hfound, hreads.element rfl 1 hone]
    rfl

/-- A superscript is a digit and no position; a list does not take it for an attribute either. -/
theorem readMember_superscript :
    let letters : Value := list 1 [text "a"]
    letters.Plain ∧ Text.allDigits "²".toList = true ∧
      letters.readMember "²" = .error (.integerText "²" .malformed) ∧
      ¬ ∃ found, letters.readMember "²" = .ok found := by
  intro letters
  have hread : letters.readMember "²" = .error (.integerText "²" .malformed) := by rfl
  refine ⟨.list (by simp [plain_text]), by decide, hread, ?_⟩
  rintro ⟨found, hfound⟩
  rw [hread] at hfound
  cases hfound

end Collate.Value
