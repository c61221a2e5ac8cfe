/-!
# Blank characters

Rule text, selectors and visible text all agree on what separates words: the
characters of Unicode that stand for white space, together with the four
separator controls `U+001C` to `U+001F`.  Zero-width characters such as
`U+200B` or `U+FEFF` are not among them.

Everything here works on lists of characters; `trimmed` and `wordsOf` are the
same operations on `String`.
-/

namespace Collate.Text

/-- The characters that separate words. -/
def isBlank (c : Char) : Bool :=
  let n := c.toNat
  (9 ≤ n && n ≤ 13) || (0x1C ≤ n && n ≤ 0x20) || n == 0x85 || n == 0xA0 || n == 0x1680 ||
    (0x2000 ≤ n && n ≤ 0x200A) || n == 0x2028 || n == 0x2029 || n == 0x202F || n == 0x205F ||
    n == 0x3000

/-! ## Trimming -/

/-- The text without its leading blanks. -/
def trimStart (text : List Char) : List Char := text.dropWhile isBlank

/-- The text without its trailing blanks. -/
def trimEnd (text : List Char) : List Char := (text.reverse.dropWhile isBlank).reverse

/-- The text without blanks at either end. -/
def trim (text : List Char) : List Char := trimEnd (trimStart text)

theorem mem_of_mem_trimStart {c : Char} {text : List Char} (h : c ∈ trimStart text) : c ∈ text :=
  (List.dropWhile_suffix isBlank).subset h

theorem mem_of_mem_trimEnd {c : Char} {text : List Char} (h : c ∈ trimEnd text) : c ∈ text := by
  rw [trimEnd, List.mem_reverse] at h
  exact List.mem_reverse.mp ((List.dropWhile_suffix isBlank).subset h)

theorem mem_of_mem_trim {c : Char} {text : List Char} (h : c ∈ trim text) : c ∈ text :=
  mem_of_mem_trimStart (mem_of_mem_trimEnd h)

theorem trimStart_trimStart (text : List Char) : trimStart (trimStart text) = trimStart text := by
  induction text with
  | nil => rfl
  | cons c rest ih =>
    by_cases h : isBlank c
    · simpa [trimStart, List.dropWhile_cons, h] using ih
    · simp [trimStart, h]

theorem trimEnd_trimEnd (text : List Char) : trimEnd (trimEnd text) = trimEnd text := by
  have h := trimStart_trimStart text.reverse
  simp only [trimStart] at h
  simp [trimEnd, h]

/-- Trimming the end of a text that starts with no blank does not uncover one. -/
theorem trimStart_trimEnd_of_trimStart {text : List Char} (h : trimStart text = text) :
    trimStart (trimEnd text) = trimEnd text := by
  cases text with
  | nil => rfl
  | cons c rest =>
    have hc : isBlank c = false := by
      cases hb : isBlank c with
      | false => rfl
      | true =>
        have hlength := congrArg List.length h
        have hle := (List.dropWhile_sublist isBlank (l := rest)).length_le
        simp only [trimStart, List.dropWhile_cons, hb, if_true, List.length_cons] at hlength
        omega
    have hend : ∃ tail, trimEnd (c :: rest) = c :: tail := by
      obtain ⟨kept, hkept⟩ : ∃ kept, (c :: rest).reverse.dropWhile isBlank = kept ++ [c] := by
        rw [List.reverse_cons]
        induction rest.reverse with
        | nil => exact ⟨[], by simp [hc]⟩
        | cons d others ih =>
          rw [List.cons_append, List.dropWhile_cons]
          split
          · exact ih
          · exact ⟨d :: others, rfl⟩
      exact ⟨kept.reverse, by rw [trimEnd, hkept]; simp⟩
    obtain ⟨tail, htail⟩ := hend
    rw [htail]
    simp [trimStart, hc]

theorem trim_trim (text : List Char) : trim (trim text) = trim text := by
  rw [trim, trim, trimStart_trimEnd_of_trimStart (trimStart_trimStart text), trimEnd_trimEnd]

/-- The leading blanks of a text. -/
def leadingBlanks (text : List Char) : List Char := text.takeWhile isBlank

theorem leadingBlanks_append_trimStart (text : List Char) :
    leadingBlanks text ++ trimStart text = text :=
  List.takeWhile_append_dropWhile

/-- A text of blanks only, the empty text included. -/
def allBlank (text : List Char) : Bool := text.all isBlank

/-! ## Words -/

/-- The maximal runs of characters that are not blank, in order. -/
def words : List Char → List (List Char)
  | [] => []
  | c :: rest =>
    if isBlank c then words rest
    else
      match rest with
      | [] => [[c]]
      | d :: _ =>
        if isBlank d then [c] :: words rest
        else
          match words rest with
          | [] => [[c]]
          | word :: others => (c :: word) :: others

/-- The words of a text, joined by single spaces. -/
def joinedWords (text : List Char) : List Char :=
  (words text).intersperse [' '] |>.flatten

/-! ## The same on strings -/

/-- `trim` on strings. -/
def trimmed (text : String) : String := String.ofList (trim text.toList)

/-- `words` on strings. -/
def wordsOf (text : String) : List String := (words text.toList).map String.ofList

end Collate.Text
