import Mathlib.Data.List.Forall2
import Mathlib.Data.Nat.Digits.Defs
import Collate.Text.Numeral

/-!
# Reading texts of digits

A text of digits has no sign and no blanks, so it is read digit by digit, up to the first one that
has no decimal value.  If there is none, the text denotes a number in positional notation
(`Denotes`), and that number is what is read.  Otherwise it denotes nothing.  The number of the
digits is what counts first: if they are too many, it makes no difference what comes after them.
`readInteger_of_allDigits` has all three cases.
-/

namespace Collate.Text

variable {text : List Char} {digits : List Nat} {c : Char} {d n : Nat}

/-! ## What is no digit -/

/-- The code points of the blanks. -/
def blankCodes : List Nat :=
  [0x9, 0xA, 0xB, 0xC, 0xD, 0x1C, 0x1D, 0x1E, 0x1F, 0x20, 0x85, 0xA0, 0x1680, 0x2000, 0x2001,
    0x2002, 0x2003, 0x2004, 0x2005, 0x2006, 0x2007, 0x2008, 0x2009, 0x200A, 0x2028, 0x2029, 0x202F,
    0x205F, 0x3000]

theorem mem_blankCodes_of_isBlank (h : isBlank c = true) : c.toNat ∈ blankCodes := by
  simp only [isBlank, Bool.or_eq_true, Bool.and_eq_true, decide_eq_true_eq, beq_iff_eq] at h
  simp only [blankCodes, List.mem_cons, List.not_mem_nil, or_false]
  omega

theorem isBlank_of_isDigit (h : isDigit c = true) : isBlank c = false := by
  have hblanks : ∀ code ∈ blankCodes, isDigit (Char.ofNat code) = false := by decide
  rw [Bool.eq_false_iff]
  intro hblank
  have hdigit := hblanks _ (mem_blankCodes_of_isBlank hblank)
  rw [Char.ofNat_toNat, h] at hdigit
  cases hdigit

theorem isPadding_of_isDigit (h : isDigit c = true) : isPadding c = false := by
  rw [isPadding, isBlank_of_isDigit h, Bool.false_and]

theorem isNumeral_of_isDigit (h : isDigit c = true) :
    isNumeral c = (decimalValue? c).isSome := by
  have hline : c ≠ '_' := by
    rintro rfl
    exact absurd h (by decide)
  rw [isNumeral, decide_eq_false hline, Bool.false_or]

/-! ## Positional notation -/

/-- The characters of the text are decimal digits of these values. -/
abbrev Spells (text : List Char) (digits : List Nat) : Prop :=
  List.Forall₂ (fun c d => decimalValue? c = some d) text digits

/-- The text consists of decimal digits, and the number is theirs in positional notation. -/
def Denotes (text : List Char) (n : Nat) : Prop :=
  text ≠ [] ∧ ∃ digits, Spells text digits ∧ Nat.ofDigits 10 digits.reverse = n

/-- The values of the decimal digits that a text begins with. -/
def leadingDecimals : List Char → List Nat
  | [] => []
  | c :: rest =>
    match decimalValue? c with
    | some d => d :: leadingDecimals rest
    | none => []

theorem leadingDecimals_cons_of_eq_some (h : decimalValue? c = some d) (text : List Char) :
    leadingDecimals (c :: text) = d :: leadingDecimals text := by
  rw [leadingDecimals, h]

theorem leadingDecimals_cons_of_eq_none (h : decimalValue? c = none) (text : List Char) :
    leadingDecimals (c :: text) = [] := by
  rw [leadingDecimals, h]

theorem Spells.eq_nil_iff (h : Spells text digits) : text = [] ↔ digits = [] := by
  cases h <;> simp

theorem Spells.leadingDecimals_eq (h : Spells text digits) : leadingDecimals text = digits := by
  induction h with
  | nil => rfl
  | cons hvalue _ ih => rw [leadingDecimals_cons_of_eq_some hvalue, ih]

/-- A text is decimal to its end exactly if no character lacks a decimal value. -/
theorem length_leadingDecimals_eq_iff :
    (leadingDecimals text).length = text.length ↔ Spells text (leadingDecimals text) := by
  constructor
  · intro h
    induction text with
    | nil => exact .nil
    | cons c rest ih =>
        cases hvalue : decimalValue? c with
        | some d =>
            rw [leadingDecimals_cons_of_eq_some hvalue] at h ⊢
            exact .cons hvalue (ih (Nat.succ.inj h))
        | none =>
            rw [leadingDecimals_cons_of_eq_none hvalue] at h
            cases h
  · intro h
    exact h.length_eq.symm

theorem denotes_iff :
    Denotes text n ↔ text ≠ [] ∧ (leadingDecimals text).length = text.length ∧
      Nat.ofDigits 10 (leadingDecimals text).reverse = n := by
  constructor
  · rintro ⟨hne, digits, hdigits, hn⟩
    obtain rfl := hdigits.leadingDecimals_eq
    exact ⟨hne, length_leadingDecimals_eq_iff.mpr hdigits, hn⟩
  · rintro ⟨hne, hlength, hn⟩
    exact ⟨hne, leadingDecimals text, length_leadingDecimals_eq_iff.mp hlength, hn⟩

theorem Denotes.unique {m : Nat} (hm : Denotes text m) (hn : Denotes text n) : m = n :=
  (denotes_iff.mp hm).2.2.symm.trans (denotes_iff.mp hn).2.2

theorem ofDigits_eq (digits : List Nat) : ofDigits digits = Nat.ofDigits 10 digits.reverse := by
  rw [ofDigits, Nat.ofDigits_eq_foldr, List.foldr_reverse]
  congr 1
  funext n d
  exact Nat.add_comm _ _

/-! ## Reading digits -/

theorem Spells.digitValues?_eq (h : Spells text digits) (hne : text ≠ []) :
    digitValues? text = some digits := by
  induction h with
  | nil => exact absurd rfl hne
  | @cons c d rest others hvalue hrest ih =>
      cases hrest with
      | nil => rw [digitValues?, hvalue]; rfl
      | @cons c' d' rest' others' hvalue' hrest' =>
          have hline : c' ≠ '_' := by
            rintro rfl
            have hnone : decimalValue? '_' = none := by decide
            rw [hnone] at hvalue'
            cases hvalue'
          rw [digitValues?, hvalue, ih (List.cons_ne_nil _ _)]
          · rfl
          · exact List.cons_ne_nil _ _
          · rintro rest'' ⟨⟩
            exact hline rfl

/-- Reading a text of digits goes as far as its decimal digits go. -/
theorem spells_takeWhile_isNumeral (h : ∀ c ∈ text, isDigit c = true) :
    Spells (text.takeWhile isNumeral) (leadingDecimals text) := by
  induction text with
  | nil => exact .nil
  | cons c rest ih =>
      have hnumeral := isNumeral_of_isDigit (h c List.mem_cons_self)
      cases hvalue : decimalValue? c with
      | some d =>
          rw [hvalue] at hnumeral
          rw [leadingDecimals_cons_of_eq_some hvalue, List.takeWhile_cons_of_pos hnumeral]
          exact .cons hvalue (ih fun c hc => h c (List.mem_cons_of_mem _ hc))
      | none =>
          rw [hvalue] at hnumeral
          rw [leadingDecimals_cons_of_eq_none hvalue,
            List.takeWhile_cons_of_neg (Bool.eq_false_iff.mp hnumeral)]
          exact .nil

theorem all_dropWhile_isNumeral (h : ∀ c ∈ text, isDigit c = true) :
    (text.dropWhile isNumeral).all isPadding = true ↔
      (leadingDecimals text).length = text.length := by
  induction text with
  | nil => exact iff_of_true rfl rfl
  | cons c rest ih =>
      have hdigit := h c List.mem_cons_self
      have hnumeral := isNumeral_of_isDigit hdigit
      cases hvalue : decimalValue? c with
      | some d =>
          rw [hvalue] at hnumeral
          rw [leadingDecimals_cons_of_eq_some hvalue, List.dropWhile_cons_of_pos hnumeral,
            ih fun c hc => h c (List.mem_cons_of_mem _ hc)]
          exact Nat.succ_inj.symm
      | none =>
          rw [hvalue] at hnumeral
          rw [leadingDecimals_cons_of_eq_none hvalue,
            List.dropWhile_cons_of_neg (Bool.eq_false_iff.mp hnumeral), List.all_cons,
            isPadding_of_isDigit hdigit, Bool.false_and]
          exact iff_of_false Bool.false_ne_true (Nat.succ_ne_zero _).symm

theorem forall_isDigit_of_allDigits (h : allDigits text = true) :
    (∀ c ∈ text, isDigit c = true) ∧ ∃ c rest, text = c :: rest := by
  cases text with
  | nil => cases h
  | cons c rest => exact ⟨List.all_eq_true.mp h, c, rest, rfl⟩

/-- A text that begins with a digit has neither blanks nor a sign in front of it. -/
theorem readInteger_of_isDigit (h : isDigit c = true) (text : List Char) :
    readInteger (c :: text) = readDigits false (c :: text) := by
  have hminus : c ≠ '-' := by
    rintro rfl
    exact absurd h (by decide)
  have hplus : c ≠ '+' := by
    rintro rfl
    exact absurd h (by decide)
  rw [readInteger, List.dropWhile_cons_of_neg (Bool.eq_false_iff.mp (isPadding_of_isDigit h))]
  split
  · next heq => exact absurd (List.cons.inj heq).1 hminus
  · next heq => exact absurd (List.cons.inj heq).1 hplus
  · rfl

/-! ## What is read -/

/-- A text of digits is too long, or it denotes a number, or it has a digit without a value. -/
theorem readInteger_of_allDigits (h : allDigits text = true) :
    readInteger text =
      if digitLimit < (leadingDecimals text).length then
        .error (.tooLong (leadingDecimals text).length)
      else if (leadingDecimals text).length = text.length then
        .ok (Nat.ofDigits 10 (leadingDecimals text).reverse : Nat)
      else .error .malformed := by
  obtain ⟨hdigits, c, rest, rfl⟩ := forall_isDigit_of_allDigits h
  have hc := hdigits c List.mem_cons_self
  rw [readInteger_of_isDigit hc, readDigits]
  have hrun := spells_takeWhile_isNumeral hdigits
  by_cases hnil : leadingDecimals (c :: rest) = []
  · -- there is no run at all
    rw [hrun.eq_nil_iff.mpr hnil, hnil]
    simp [digitValues?, digitLimit]
  · have hne : (c :: rest).takeWhile isNumeral ≠ [] := fun hnone => hnil (hrun.eq_nil_iff.mp hnone)
    rw [hrun.digitValues?_eq hne]
    simp only [all_dropWhile_isNumeral hdigits, Bool.false_eq_true, if_false, ofDigits_eq]

theorem readInteger_of_tooLong (h : allDigits text = true)
    (hlong : digitLimit < (leadingDecimals text).length) :
    readInteger text = .error (.tooLong (leadingDecimals text).length) := by
  rw [readInteger_of_allDigits h, if_pos hlong]

theorem readInteger_of_not_denotes (h : allDigits text = true) (hnone : ∀ n, ¬ Denotes text n)
    (hlength : (leadingDecimals text).length ≤ digitLimit) :
    readInteger text = .error .malformed := by
  obtain ⟨-, c, rest, rfl⟩ := forall_isDigit_of_allDigits h
  rw [readInteger_of_allDigits h, if_neg (Nat.not_lt.mpr hlength), if_neg]
  intro hdecimal
  exact hnone _ (denotes_iff.mpr ⟨List.cons_ne_nil _ _, hdecimal, rfl⟩)

theorem Spells.forall_isDigit (h : Spells text digits) : ∀ c ∈ text, isDigit c = true := by
  induction h with
  | nil => simp
  | cons hvalue _ ih =>
      rw [List.forall_mem_cons]
      exact ⟨by simp [isDigit, hvalue], ih⟩

theorem allDigits_of_denotes (h : Denotes text n) : allDigits text = true := by
  obtain ⟨hne, digits, hdigits, -⟩ := h
  rw [allDigits, Bool.and_eq_true, List.all_eq_true]
  exact ⟨by simpa using hne, hdigits.forall_isDigit⟩

theorem readInteger_of_denotes (h : Denotes text n)
    (hlength : (leadingDecimals text).length ≤ digitLimit) : readInteger text = .ok n := by
  obtain ⟨-, hdecimal, rfl⟩ := denotes_iff.mp h
  rw [readInteger_of_allDigits (allDigits_of_denotes h), if_neg (Nat.not_lt.mpr hlength),
    if_pos hdecimal]

end Collate.Text
