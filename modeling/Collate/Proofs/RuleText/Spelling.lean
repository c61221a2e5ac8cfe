import Collate.Proofs.RuleText.RoundTrip

/-!
# Ways to write rules

A clause can be written in many ways.  Blanks may stand around it, inside the braces of its
selector, behind them, and behind the mark of its direction; its selector may hold commas; and
its key may be left out if anything else is written.  A `Spelling` is one of these ways, and
`Spelling.rule` is the rule that it stands for.

However the clauses are written, they can be joined by commas and are read as their rules,
strictly or repairing, without a repair (`Rule.read_spellings`).

## Strategy

A spelling is a sentence of the grammar with blanks around it (`Spelling.isSentence_body`), so it
is read as its rule (`Spelling.readsAs_text`) and is found again where it was joined to
others (`Spelling.separable_text`).  Joined, the first and the last spelling lose the blanks at the
ends of the text; that is no loss, since the clauses of a text are the same up to blanks when
the text is trimmed (`map_trim_splitClauses_trim`).
-/

namespace Collate

open Text

/-! ## Spellings -/

/-- A selector in braces, with blanks behind them. -/
structure BracedSelector where
  /-- All that stands between the braces. -/
  inner : List Char
  gap : List Char
  inner_plain : inner.any isBrace = false
  inner_not_blank : allBlank inner = false
  gap_blank : allBlank gap = true

namespace BracedSelector

def text (braced : BracedSelector) : List Char :=
  openBrace :: braced.inner ++ closeBrace :: braced.gap

/-- The selector without the blanks inside the braces. -/
def selector (braced : BracedSelector) : String := String.ofList (trim braced.inner)

theorem writes (braced : BracedSelector) : WritesSelector (some braced.selector) braced.text :=
  .braced braced.inner_plain braced.inner_not_blank braced.gap_blank

end BracedSelector

/-- A way to write a clause. -/
structure Spelling where
  /-- The blanks in front of the clause. -/
  before : List Char
  selector : Option BracedSelector
  /-- The blanks behind the mark of the descending direction, if there is such a mark. -/
  mark : Option (List Char)
  /-- The key, unless it is left out. -/
  key : Option Key
  /-- The blanks behind the clause. -/
  after : List Char
  before_blank : allBlank before = true
  mark_blank : ∀ gap ∈ mark, allBlank gap = true
  key_legal : ∀ written ∈ key, written.Legal
  after_blank : allBlank after = true
  /-- The key is left out only where something else is written. -/
  not_empty : selector ≠ none ∨ mark ≠ none ∨ key ≠ none

namespace Spelling

variable (spelling : Spelling)

/-- The clause without the blanks around it. -/
def body : List Char :=
  spelling.selector.elim [] BracedSelector.text ++ spelling.mark.elim [] ('>' :: ·) ++
    spelling.key.elim [] (·.text.toList)

/-- The clause as it is written. -/
def text : List Char := spelling.before ++ spelling.body ++ spelling.after

/-- The rule that the clause stands for: one that reads the visible text, if the key is left
out. -/
def rule : Rule where
  key := spelling.key.getD .fallback
  selector := spelling.selector.map BracedSelector.selector
  descending := spelling.mark.isSome
  key_legal := by
    cases hkey : spelling.key with
    | none => exact Key.fallback_legal
    | some key => exact spelling.key_legal key hkey
  selector_legal := by
    intro text htext
    obtain ⟨braced, -, rfl⟩ := Option.map_eq_some_iff.mp htext
    exact legalSelector_trim braced.inner_plain braced.inner_not_blank

/-! ## Reading a spelling -/

theorem isSentence_body : IsSentence spelling.rule spelling.body := by
  refine ⟨_, _, _, rfl, ?_, ?_, ?_⟩
  · show WritesSelector (spelling.selector.map BracedSelector.selector) _
    cases spelling.selector with
    | none => exact .none
    | some braced => exact braced.writes
  · show WritesDirection spelling.mark.isSome _
    cases hmark : spelling.mark with
    | none => exact .ascending
    | some gap => exact .descending (spelling.mark_blank gap hmark)
  · show WritesKey (spelling.key.getD .fallback) _
    cases hkey : spelling.key with
    | none => exact .omitted
    | some key => exact writesKey_text (spelling.key_legal key hkey)

theorem body_ne_nil : spelling.body ≠ [] := by
  intro hnil
  simp only [body, List.append_eq_nil_iff] at hnil
  obtain ⟨⟨hselector, hmark⟩, hkey⟩ := hnil
  rcases spelling.not_empty with h | h | h
  · obtain ⟨braced, hbraced⟩ := Option.ne_none_iff_exists'.mp h
    rw [hbraced] at hselector
    cases hselector
  · obtain ⟨gap, hgap⟩ := Option.ne_none_iff_exists'.mp h
    rw [hgap] at hmark
    cases hmark
  · obtain ⟨key, hwritten⟩ := Option.ne_none_iff_exists'.mp h
    rw [hwritten] at hkey
    exact Key.text_ne_nil (spelling.key_legal key hwritten) hkey

theorem trim_text : trim spelling.text = trim spelling.body :=
  trim_append_append spelling.before_blank _ spelling.after_blank

theorem allBlank_text : allBlank spelling.text = false := by
  rw [Bool.eq_false_iff, ne_eq, ← trim_eq_nil_iff, trim_text, trim_eq_nil_iff]
  obtain ⟨c, rest, hbody⟩ := List.exists_cons_of_ne_nil spelling.body_ne_nil
  have hplain : isBlank c = false :=
    spelling.isSentence_body.head?_plain c (by rw [hbody]; rfl)
  intro hblank
  rw [hbody] at hblank
  rw [allBlank_iff.mp hblank c (List.mem_cons_self ..)] at hplain
  cases hplain

/-- A spelling is read as its rule. -/
theorem readsAs_text : ReadsAs spelling.text spelling.rule := by
  refine readsAs_of_isSentence spelling.allBlank_text ?_
  rw [trim_text]
  exact isSentence_trim spelling.isSentence_body

/-- A spelling is found again where it was joined to others. -/
theorem separable_text : Separable spelling.text :=
  ((separable_of_allBlank spelling.before_blank).append spelling.isSentence_body.separable).append
    (separable_of_allBlank spelling.after_blank)

end Spelling

/-! ## Joined spellings -/

/-- The clauses of joined spellings are the spellings, up to blanks. -/
theorem map_trim_splitClauses_spellings (first : Spelling) (others : List Spelling) :
    (splitClauses ([','].intercalate ((first :: others).map Spelling.text))).map trim =
      (first :: others).map (trim ∘ Spelling.text) := by
  have hseparable : ∀ clause ∈ first.text :: others.map Spelling.text, Separable clause := by
    rw [← List.map_cons]
    intro clause hclause
    obtain ⟨spelling, -, rfl⟩ := List.mem_map.mp hclause
    exact spelling.separable_text
  have htrim : ∀ clause : List Char, trim (trimStart clause) = trim clause := fun clause => by
    rw [trim, trimStart_trimStart, trim]
  rw [List.map_cons, splitClauses_intercalate hseparable, List.map_cons, List.map_map, List.map_map,
    List.map_cons]
  exact congrArg _ (List.map_congr_left fun spelling _ => htrim spelling.text)

/-- **However clauses are written, they are read as the rules that they stand for**, one for each
of them, in either mode and without a repair. -/
theorem Rule.read_spellings (mode : Strictness) (spellings : List Spelling) :
    Rule.read mode (String.ofList ([','].intercalate (spellings.map Spelling.text))) =
      (.ok (spellings.map Spelling.rule), []) := by
  cases spellings with
  | nil => rfl
  | cons first others =>
      apply Rule.read_of_forall₂
      have hclauses : List.Forall₂ ReadsAs ((first :: others).map Spelling.text)
          ((first :: others).map Spelling.rule) := by
        rw [List.forall₂_map_left_iff, List.forall₂_map_right_iff, List.forall₂_same]
        exact fun spelling _ => spelling.readsAs_text
      rwa [← forall₂_readsAs_map_trim, List.map_map, ← map_trim_splitClauses_spellings,
        forall₂_readsAs_map_trim] at hclauses

/-- A selector with a comma and with blanks inside and behind its braces, a mark and no key; and
then a path with blanks around it. -/
theorem Rule.read_spellings_selector :
    Rule.read .strict " \x7b h2, .name \x7d\t> ,  .size " =
      (.ok [⟨.fallback, some "h2, .name", true, by decide, by simp [LegalSelector]; decide⟩,
        ⟨.path ["size"], none, false, by decide, by simp⟩], []) := by
  let names : BracedSelector := ⟨" h2, .name ".toList, ['\t'], by decide, by decide, by decide⟩
  let byNames : Spelling :=
    ⟨[' '], some names, some [' '], none, [], by decide, by decide, by decide, by decide,
      by decide⟩
  let bySize : Spelling :=
    ⟨[' ', ' '], none, none, some (.path ["size"]), [' '], by decide, by decide, by decide,
      by decide, by decide⟩
  exact Rule.read_spellings .strict [byNames, bySize]

end Collate
