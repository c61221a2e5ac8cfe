import Mathlib.Data.List.Basic
import Collate.Proofs.Text.Trim

/-!
# The words of a text

A blank is part of no word and parts the words before it from those after it
(`words_append_cons_blank`).  All that is said here about words follows from this equation:

* a run of blanks counts as a single one, and at the ends of a text it does not count, so texts
  that differ in their runs of blanks only have the same words (`Respaced.words_eq`);
* texts that are joined by spaces have the words of each, one text after the other
  (`words_intercalate`).

Words that are joined by single spaces make a text in which every blank is one of these spaces
(`singlySpaced_intercalate`).
-/

namespace Collate.Text

variable {text other gap word : List Char} {c d : Char}

/-! ## Where words end -/

@[simp] theorem words_nil : words [] = [] := rfl

theorem words_cons (c : Char) (rest : List Char) :
    words (c :: rest) =
      if isBlank c then words rest
      else
        match rest with
        | [] => [[c]]
        | d :: _ =>
          if isBlank d then [c] :: words rest
          else
            match words rest with
            | [] => [[c]]
            | word :: others => (c :: word) :: others := rfl

theorem words_cons_blank (h : isBlank c = true) (rest : List Char) :
    words (c :: rest) = words rest := by
  rw [words_cons, if_pos h]

/-- A character before a blank is a word, or the end of one. -/
theorem words_cons_cons_blank (hc : isBlank c = false) (hd : isBlank d = true)
    (rest : List Char) : words (c :: d :: rest) = [c] :: words rest := by
  rw [words_cons, ← words_cons_blank hd rest]
  simp [hc, hd]

/-- A character that is not blank begins a word. -/
theorem exists_words_cons (h : isBlank c = false) (rest : List Char) :
    ∃ word others, words (c :: rest) = (c :: word) :: others := by
  cases rest with
  | nil => exact ⟨[], [], by simp [words_cons, h]⟩
  | cons d rest =>
      rw [words_cons]
      simp only [h, Bool.false_eq_true, if_false]
      split
      · exact ⟨[], _, rfl⟩
      · split
        · exact ⟨[], [], rfl⟩
        · exact ⟨_, _, rfl⟩

/-- Before a character that is not blank, it belongs to the word that this one begins. -/
theorem words_cons_cons_plain {rest : List Char} {others : List (List Char)}
    (hc : isBlank c = false) (hd : isBlank d = false) (h : words (d :: rest) = word :: others) :
    words (c :: d :: rest) = (c :: word) :: others := by
  rw [words_cons, h]
  simp [hc, hd]

/-- **A blank parts the words before it from those after it.** -/
theorem words_append_cons_blank (h : isBlank c = true) (left right : List Char) :
    words (left ++ c :: right) = words left ++ words right := by
  induction left with
  | nil => exact words_cons_blank h right
  | cons first rest ih =>
      by_cases hfirst : isBlank first = true
      · rw [List.cons_append, words_cons_blank hfirst, words_cons_blank hfirst, ih]
      rw [Bool.not_eq_true] at hfirst
      cases rest with
      | nil =>
          have hword : words [first] = [[first]] := by simp [words_cons, hfirst]
          rw [hword]
          exact words_cons_cons_blank hfirst h right
      | cons next rest =>
          simp only [List.cons_append] at ih ⊢
          -- the first character ends a word if a blank comes next, and begins its word otherwise
          by_cases hnext : isBlank next = true
          · rw [words_cons_blank hnext, words_cons_blank hnext] at ih
            rw [words_cons_cons_blank hfirst hnext, words_cons_cons_blank hfirst hnext, ih]
            rfl
          · rw [Bool.not_eq_true] at hnext
            obtain ⟨word, others, hwords⟩ := exists_words_cons hnext rest
            rw [hwords] at ih
            rw [words_cons_cons_plain hfirst hnext ih, words_cons_cons_plain hfirst hnext hwords]
            rfl

/-- Not empty, and nowhere blank. -/
def IsWord (word : List Char) : Prop := word ≠ [] ∧ ∀ c ∈ word, isBlank c = false

theorem isWord_of_mem_words (text : List Char) : ∀ word ∈ words text, IsWord word := by
  fun_induction words text with
  | case1 => simp
  | case2 c rest hc ih => exact ih
  | case3 c hc => simp [IsWord, hc]
  | case4 c hc d rest hd ih => exact List.forall_mem_cons.mpr ⟨by simp [IsWord, hc], ih⟩
  | case5 c hc d rest hd hnil ih => simp [IsWord, hnil, hc]
  | case6 c hc d rest hd word others hwords ih =>
      rw [Bool.not_eq_true] at hc
      rw [hwords] at ih ⊢
      obtain ⟨⟨-, hword⟩, hothers⟩ := List.forall_mem_cons.mp ih
      exact List.forall_mem_cons.mpr
        ⟨⟨List.cons_ne_nil _ _, List.forall_mem_cons.mpr ⟨hc, hword⟩⟩, hothers⟩

/-! ## Runs of blanks -/

/-- Blanks at the beginning do not count. -/
theorem words_append_of_allBlank (h : allBlank gap = true) (text : List Char) :
    words (gap ++ text) = words text := by
  induction gap with
  | nil => rfl
  | cons c rest ih =>
      obtain ⟨hc, hrest⟩ := List.forall_mem_cons.mp (allBlank_iff.mp h)
      rw [List.cons_append, words_cons_blank hc, ih (allBlank_iff.mpr hrest)]

theorem words_eq_nil_of_allBlank (h : allBlank gap = true) : words gap = [] := by
  simpa using words_append_of_allBlank h []

/-- Some blanks, at least one. -/
def IsGap (gap : List Char) : Prop := gap ≠ [] ∧ allBlank gap = true

/-- A run of blanks counts as a single one. -/
theorem IsGap.words_append_append (h : IsGap gap) (left right : List Char) :
    words (left ++ (gap ++ right)) = words left ++ words right := by
  obtain ⟨c, rest, rfl⟩ := List.exists_cons_of_ne_nil h.1
  obtain ⟨hc, hrest⟩ := List.forall_mem_cons.mp (allBlank_iff.mp h.2)
  rw [List.cons_append, words_append_cons_blank hc,
    words_append_of_allBlank (allBlank_iff.mpr hrest)]

/-- The texts differ in their runs of blanks only: where one of them has some blanks, so has the
other. -/
inductive Respaced : List Char → List Char → Prop
  | nil : Respaced [] []
  | keep (c : Char) {text other : List Char} (h : Respaced text other) :
    Respaced (c :: text) (c :: other)
  | change {gap gap' text other : List Char} (hgap : IsGap gap) (hgap' : IsGap gap')
    (h : Respaced text other) : Respaced (gap ++ text) (gap' ++ other)

/-- Texts that differ in their runs of blanks only have the same words, whatever is before them. -/
theorem Respaced.words_append_eq (h : Respaced text other) (before : List Char) :
    words (before ++ text) = words (before ++ other) := by
  induction h generalizing before with
  | nil => rfl
  | keep c h ih => simpa using ih (before ++ [c])
  | change hgap hgap' h ih =>
      rw [hgap.words_append_append, hgap'.words_append_append]
      exact congrArg (words before ++ ·) (ih [])

theorem Respaced.words_eq (h : Respaced text other) : words text = words other :=
  h.words_append_eq []

/-! ## Texts that are joined -/

/-- Texts that are joined by spaces have the words of each. -/
theorem words_intercalate (texts : List (List Char)) :
    words ([' '].intercalate texts) = texts.flatMap words := by
  induction texts with
  | nil => rfl
  | cons first rest ih =>
      cases rest with
      | nil => simp
      | cons next rest =>
          have hspace : isBlank ' ' = true := by decide
          rw [List.intercalate_cons_cons, List.append_assoc, List.flatMap_cons, ← ih]
          exact words_append_cons_blank hspace first _

/-- Every blank in the text is a single space between two characters that are not blank. -/
def SinglySpaced (text : List Char) : Prop :=
  ∀ before c after, text = before ++ c :: after → isBlank c = true →
    c = ' ' ∧ (∃ last ∈ before.getLast?, isBlank last = false) ∧
      ∃ first ∈ after.head?, isBlank first = false

theorem IsWord.singlySpaced (h : IsWord word) : SinglySpaced word := by
  rintro before c after rfl hc
  have hplain := h.2 c (by simp)
  rw [hc] at hplain
  cases hplain

/-- A space between a word and a text that begins with none is a single one. -/
theorem IsWord.singlySpaced_append (h : IsWord word) (hother : SinglySpaced other)
    (hfirst : ∃ first ∈ other.head?, isBlank first = false) :
    SinglySpaced (word ++ ' ' :: other) := by
  intro before c after htext hc
  obtain ⟨last, hlast⟩ : ∃ last, word.getLast? = some last :=
    Option.isSome_iff_exists.mp (by simp [h.1])
  have hplain := h.2 last (List.mem_of_getLast? hlast)
  -- the blank is the space itself, or lies in the text behind it; the word has none
  rcases List.append_eq_append_iff.mp htext with ⟨more, rfl, hmore⟩ | ⟨more, rfl, hmore⟩
  · cases more with
    | nil =>
        cases hmore
        exact ⟨rfl, ⟨last, by simpa using hlast, hplain⟩, hfirst⟩
    | cons space more =>
        simp only [List.cons_append, List.cons.injEq] at hmore
        obtain ⟨hspace, ⟨last', hlast', hplain'⟩, hafter⟩ := hother more c after hmore.2 hc
        refine ⟨hspace, ⟨last', ?_, hplain'⟩, hafter⟩
        rw [Option.mem_def] at hlast' ⊢
        rw [List.getLast?_append, List.getLast?_cons, hlast']
        rfl
  · cases more with
    | nil =>
        cases hmore
        exact ⟨rfl, ⟨last, by simpa using hlast, hplain⟩, hfirst⟩
    | cons first more =>
        simp only [List.cons_append, List.cons.injEq] at hmore
        have hfirst' := h.2 c (by simp [hmore.1])
        rw [hc] at hfirst'
        cases hfirst'

/-- **Words that are joined by single spaces are singly spaced.** -/
theorem singlySpaced_intercalate {all : List (List Char)} (h : ∀ word ∈ all, IsWord word) :
    SinglySpaced ([' '].intercalate all) := by
  induction all with
  | nil => simp [SinglySpaced]
  | cons word rest ih =>
      obtain ⟨hword, hrest⟩ := List.forall_mem_cons.mp h
      cases rest with
      | nil => simpa using hword.singlySpaced
      | cons next rest =>
          obtain ⟨first, letters, rfl⟩ := List.exists_cons_of_ne_nil (hrest next (by simp)).1
          have hplain := (hrest _ List.mem_cons_self).2 first List.mem_cons_self
          rw [List.intercalate_cons_cons, List.append_assoc]
          -- what follows the space begins with a letter of the next word
          refine hword.singlySpaced_append (ih hrest) ⟨first, ?_, hplain⟩
          cases rest <;> simp [List.intercalate_cons_cons]

end Collate.Text
