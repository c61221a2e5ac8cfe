import Mathlib.Data.List.Basic
import Mathlib.Data.List.TakeWhile
import Collate.Text.Blank

/-!
# Trimmed texts

What trimming takes away is blank (`exists_eq_append_trim`), and it takes away all
of it: neither end of a trimmed text is blank, and a text with such ends is trimmed
already (`hasPlainEnds_trim`, `trim_of_hasPlainEnds`).  So blanks around a text do not
matter for `trim`.
-/

namespace Collate.Text

variable {text gap : List Char}

/-! ## Texts of blanks -/

theorem allBlank_iff : allBlank text = true ↔ ∀ c ∈ text, isBlank c = true := by
  rw [allBlank, List.all_eq_true]

theorem allBlank_append {left right : List Char} :
    allBlank (left ++ right) = true ↔ allBlank left = true ∧ allBlank right = true := by
  simp [allBlank, List.all_append]

theorem trimStart_eq_nil_iff : trimStart text = [] ↔ allBlank text = true := by
  rw [trimStart, List.dropWhile_eq_nil_iff, allBlank_iff]

theorem trimStart_append (h : allBlank gap = true) (text : List Char) :
    trimStart (gap ++ text) = trimStart text := by
  rw [trimStart, List.dropWhile_append_of_pos (allBlank_iff.mp h), trimStart]

theorem trimEnd_append (text : List Char) (h : allBlank gap = true) :
    trimEnd (text ++ gap) = trimEnd text := by
  have hreverse : ∀ c ∈ gap.reverse, isBlank c = true := by
    simpa using allBlank_iff.mp h
  rw [trimEnd, List.reverse_append, List.dropWhile_append_of_pos hreverse, trimEnd]

/-! ## Leading blanks -/

theorem allBlank_leadingBlanks (text : List Char) : allBlank (leadingBlanks text) = true :=
  allBlank_iff.mpr fun _ hc => List.mem_takeWhile_imp hc

/-- A text that is cut behind its leading blanks keeps them. -/
theorem leadingBlanks_take {n : Nat} (h : (leadingBlanks text).length ≤ n) :
    leadingBlanks (text.take n) = leadingBlanks text := by
  induction text generalizing n with
  | nil => rw [List.take_nil]
  | cons c rest ih =>
      cases hc : isBlank c with
      | false => cases n <;> simp [leadingBlanks, hc]
      | true =>
          cases n with
          | zero => simp [leadingBlanks, hc] at h
          | succ n =>
              have hrest : (leadingBlanks rest).length ≤ n := by
                simpa [leadingBlanks, hc] using h
              simpa [leadingBlanks, hc] using ih hrest

theorem drop_length_leadingBlanks (text : List Char) :
    text.drop (leadingBlanks text).length = trimStart text := by
  calc text.drop (leadingBlanks text).length
      = (leadingBlanks text ++ trimStart text).drop (leadingBlanks text).length := by
        rw [leadingBlanks_append_trimStart]
    _ = trimStart text := List.drop_left' rfl

/-! ## What trimming leaves -/

/-- No end of the text is blank. -/
def HasPlainEnds (text : List Char) : Prop :=
  (∀ c ∈ text.head?, isBlank c = false) ∧ ∀ c ∈ text.getLast?, isBlank c = false

theorem trimStart_eq_self_iff :
    trimStart text = text ↔ ∀ c ∈ text.head?, isBlank c = false := by
  rw [trimStart, List.dropWhile_eq_self_iff]
  cases text with
  | nil => simp
  | cons c rest => simp

theorem trimEnd_eq_self_iff :
    trimEnd text = text ↔ ∀ c ∈ text.getLast?, isBlank c = false := by
  have h : trimStart text.reverse = text.reverse ↔ ∀ c ∈ text.reverse.head?, isBlank c = false :=
    trimStart_eq_self_iff
  rw [List.head?_reverse] at h
  rw [← h, trimEnd, trimStart, List.reverse_eq_iff]

theorem trim_of_hasPlainEnds (h : HasPlainEnds text) : trim text = text := by
  rw [trim, trimStart_eq_self_iff.mpr h.1, trimEnd_eq_self_iff.mpr h.2]

/-- What is trimmed off the end is blank. -/
theorem exists_eq_trimEnd_append (text : List Char) :
    ∃ after, allBlank after = true ∧ text = trimEnd text ++ after := by
  refine ⟨(text.reverse.takeWhile isBlank).reverse, ?_, ?_⟩
  · rw [allBlank_iff]
    intro c hc
    exact List.mem_takeWhile_imp (List.mem_reverse.mp hc)
  · rw [trimEnd, ← List.reverse_append, List.takeWhile_append_dropWhile, List.reverse_reverse]

/-- What is trimmed off is blank. -/
theorem exists_eq_append_trim (text : List Char) :
    ∃ before after, allBlank before = true ∧ allBlank after = true ∧
      text = before ++ trim text ++ after := by
  obtain ⟨after, hblank, htrim⟩ := exists_eq_trimEnd_append (trimStart text)
  refine ⟨leadingBlanks text, after, allBlank_leadingBlanks text, hblank, ?_⟩
  rw [trim, List.append_assoc, ← htrim, leadingBlanks_append_trimStart]

theorem hasPlainEnds_trim (text : List Char) : HasPlainEnds (trim text) := by
  refine ⟨?_, trimEnd_eq_self_iff.mp (trimEnd_trimEnd _)⟩
  exact trimStart_eq_self_iff.mp (trimStart_trimEnd_of_trimStart (trimStart_trimStart text))

/-- Blanks in front of a text do not matter. -/
theorem trim_append_left (hgap : allBlank gap = true) (text : List Char) :
    trim (gap ++ text) = trim text := by
  rw [trim, trimStart_append hgap, trim]

/-- Blanks behind a text do not matter. -/
theorem trim_append_right (text : List Char) (hgap : allBlank gap = true) :
    trim (text ++ gap) = trim text := by
  by_cases hblank : allBlank text = true
  · have hall : allBlank (text ++ gap) = true := allBlank_append.mpr ⟨hblank, hgap⟩
    rw [trim, trim, trimStart_eq_nil_iff.mpr hall, trimStart_eq_nil_iff.mpr hblank]
  · -- the blanks behind the text do not reach its start, so they are trimmed off the end
    have hne : trimStart text ≠ [] := fun h => hblank (trimStart_eq_nil_iff.mp h)
    have hstart : trimStart (text ++ gap) = trimStart text ++ gap := by
      rw [trimStart, List.dropWhile_append, if_neg (by simpa [trimStart] using hne), trimStart]
    rw [trim, hstart, trimEnd_append _ hgap, trim]

/-- Blanks around a text do not matter. -/
theorem trim_append_append {before after : List Char} (hbefore : allBlank before = true)
    (text : List Char) (hafter : allBlank after = true) :
    trim (before ++ text ++ after) = trim text := by
  rw [trim_append_right _ hafter, trim_append_left hbefore]

/-- Trimming the end first does not matter. -/
theorem trim_trimEnd (text : List Char) : trim (trimEnd text) = trim text := by
  obtain ⟨after, hafter, htext⟩ := exists_eq_trimEnd_append text
  have htrim := trim_append_right (trimEnd text) hafter
  rw [← htext] at htrim
  exact htrim.symm

/-- What is trimmed off the end of a text is trimmed off with one more character in front. -/
theorem trimEnd_cons_trimEnd (c : Char) (text : List Char) :
    trimEnd (c :: trimEnd text) = trimEnd (c :: text) := by
  obtain ⟨after, hafter, htext⟩ := exists_eq_trimEnd_append text
  have hend := trimEnd_append (c :: trimEnd text) hafter
  rw [List.cons_append, ← htext] at hend
  exact hend.symm

/-- Blanks in front of a text that is trimmed already are all there is to trim. -/
theorem trim_append_of_hasPlainEnds (hgap : allBlank gap = true) (h : HasPlainEnds text) :
    trim (gap ++ text) = text := by
  rw [trim_append_left hgap, trim_of_hasPlainEnds h]

theorem trim_eq_nil_iff : trim text = [] ↔ allBlank text = true := by
  constructor
  · intro h
    obtain ⟨before, after, hbefore, hafter, htext⟩ := exists_eq_append_trim text
    rw [h, List.append_nil] at htext
    rw [htext]
    exact allBlank_append.mpr ⟨hbefore, hafter⟩
  · intro h
    rw [trim, trimStart_eq_nil_iff.mpr h]
    rfl

/-- Only blanks are trimmed off. -/
theorem mem_trim_of_mem {c : Char} (hmem : c ∈ text) (hplain : isBlank c = false) :
    c ∈ trim text := by
  obtain ⟨before, after, hbefore, hafter, htext⟩ := exists_eq_append_trim text
  rw [htext, List.mem_append, List.mem_append] at hmem
  rcases hmem with (hmem | hmem) | hmem
  · rw [allBlank_iff.mp hbefore c hmem] at hplain
    cases hplain
  · exact hmem
  · rw [allBlank_iff.mp hafter c hmem] at hplain
    cases hplain

/-! ## Plain ends of parts -/

theorem HasPlainEnds.of_append_right {left right : List Char}
    (h : HasPlainEnds (left ++ right)) (hhead : ∀ c ∈ right.head?, isBlank c = false) :
    HasPlainEnds right := by
  refine ⟨hhead, fun c hc => h.2 c ?_⟩
  rw [Option.mem_def] at hc ⊢
  rw [List.getLast?_append, hc]
  rfl

/-- At the end of a text with plain ends, trimming takes blanks away in front only. -/
theorem HasPlainEnds.exists_gap {left right : List Char} (h : HasPlainEnds (left ++ right)) :
    ∃ gap, allBlank gap = true ∧ right = gap ++ trim right := by
  obtain ⟨gap, after, hgap, hafter, hright⟩ := exists_eq_append_trim right
  have hnil : after = [] := by
    by_contra hne
    obtain ⟨c, hc⟩ := Option.ne_none_iff_exists'.mp (mt List.getLast?_eq_none_iff.mp hne)
    have hlast : (left ++ right).getLast? = some c := by
      rw [hright, ← List.append_assoc, List.getLast?_append, hc]
      rfl
    have hplain := h.2 c hlast
    rw [allBlank_iff.mp hafter c (List.mem_of_getLast? hc)] at hplain
    cases hplain
  rw [hnil, List.append_nil] at hright
  exact ⟨gap, hgap, hright⟩

theorem isBlank_head?_append {left right : List Char}
    (hleft : ∀ c ∈ left.head?, isBlank c = false) (hright : ∀ c ∈ right.head?, isBlank c = false) :
    ∀ c ∈ (left ++ right).head?, isBlank c = false := by
  intro c hc
  rw [List.head?_append, Option.mem_def, Option.or_eq_some_iff] at hc
  rcases hc with hc | ⟨-, hc⟩
  · exact hleft c hc
  · exact hright c hc

/-- Only the outer ends of a text matter. -/
theorem HasPlainEnds.append_append {left right : List Char} (hleft : HasPlainEnds left)
    (hright : HasPlainEnds right) (hleftne : left ≠ []) (hrightne : right ≠ [])
    (middle : List Char) : HasPlainEnds (left ++ middle ++ right) := by
  obtain ⟨c, rest, rfl⟩ := List.exists_cons_of_ne_nil hleftne
  refine ⟨fun d hd => hleft.1 d (by simpa using hd), fun d hd => hright.2 d ?_⟩
  rw [List.getLast?_append_of_ne_nil _ hrightne] at hd
  exact hd

theorem hasPlainEnds_of_forall (h : ∀ c ∈ text, isBlank c = false) : HasPlainEnds text :=
  ⟨fun _ hc => h _ (List.mem_of_mem_head? hc), fun _ hc => h _ (List.mem_of_mem_getLast? hc)⟩

end Collate.Text
