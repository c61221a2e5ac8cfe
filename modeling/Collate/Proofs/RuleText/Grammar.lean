import Collate.Proofs.Text.Trim
import Collate.Rule.Reading

/-!
# The grammar of a clause

A trimmed clause of rule text is

```text
[ "{" selector "}" blanks ] [ ">" blanks ] key
```

where the selector is neither blank nor has braces, and the key is left out, an
attribute name, or a path of segments that begin with a dot each.  `IsSentence` says
so without reading the clause, one relation for each of the three parts; it relates a
text to the rule that it denotes.

The key is what a clause says after its selector and direction; `expressionOf` is all
that it says after its selector.
-/

namespace Collate

open Text

/-! ## The parts of a clause -/

/-- The written forms of a key.  The fallback key may be left out. -/
inductive WritesKey : Key → List Char → Prop
  | omitted : WritesKey .fallback []
  | name {name : List Char} : Key.LegalName name → WritesKey (.named (String.ofList name)) name
  | path {segments : List (List Char)} : segments ≠ [] →
      (∀ segment ∈ segments, Key.LegalSegment segment) →
      WritesKey (.path (segments.map String.ofList)) (segments.flatMap ('.' :: ·))

/-- The written forms of a direction: nothing, or the mark with blanks after it. -/
inductive WritesDirection : Bool → List Char → Prop
  | ascending : WritesDirection false []
  | descending {gap : List Char} : allBlank gap = true → WritesDirection true ('>' :: gap)

/-- The written forms of a selector: nothing, or the selector in braces with blanks
after them. -/
inductive WritesSelector : Option String → List Char → Prop
  | none : WritesSelector none []
  | braced {inner gap : List Char} : inner.any isBrace = false → allBlank inner = false →
      allBlank gap = true →
      WritesSelector (some (String.ofList (trim inner))) (openBrace :: inner ++ closeBrace :: gap)

/-- The text is a trimmed clause that denotes the rule. -/
def IsSentence (rule : Rule) (text : List Char) : Prop :=
  ∃ selector direction key, text = selector ++ direction ++ key ∧
    WritesSelector rule.selector selector ∧ WritesDirection rule.descending direction ∧
    WritesKey rule.key key

/-- What a clause says after its selector. -/
def expressionOf (clause : List Char) : List Char :=
  let text := trim clause
  if text.head? = some openBrace then trim ((text.dropWhile (· ≠ closeBrace)).drop 1) else text

/-! ## Reserved characters -/

theorem closeBrace_not_mem_of_any {text : List Char} (h : text.any isBrace = false) :
    closeBrace ∉ text := by
  rw [List.any_eq_false] at h
  exact fun hmem => h _ hmem (by decide)

theorem isBlank_eq_false_of_isReserved {c : Char} (h : isReserved c = false) :
    isBlank c = false := by
  simp only [isReserved, Bool.or_eq_false_iff] at h
  exact h.1.1

theorem isBrace_eq_false_of_isReserved {c : Char} (h : isReserved c = false) :
    isBrace c = false := by
  simp only [isReserved, Bool.or_eq_false_iff] at h
  exact h.2

theorem isBrace_eq_false_of_isBlank {c : Char} (h : isBlank c = true) : isBrace c = false := by
  cases hbrace : isBrace c with
  | false => rfl
  | true =>
      simp only [isBrace, Bool.or_eq_true, beq_iff_eq] at hbrace
      rcases hbrace with rfl | rfl <;> exact absurd h (by decide)

/-! ## Keys without reserved characters -/

theorem WritesKey.forall_isReserved {key : Key} {written : List Char}
    (h : WritesKey key written) : ∀ c ∈ written, isReserved c = false := by
  cases h with
  | omitted => simp
  | name hname =>
      have hany := hname.2.2.2
      simpa using hany
  | path hne hsegments =>
      intro c hc
      obtain ⟨segment, hsegment, hmem⟩ := List.mem_flatMap.mp hc
      rcases List.mem_cons.mp hmem with rfl | hmem
      · decide
      · have hany := (hsegments segment hsegment).2.2
        rw [List.any_eq_false] at hany
        simpa using hany c hmem

/-- A key does not begin with the mark of a direction. -/
theorem WritesKey.head?_ne {key : Key} {written : List Char} (h : WritesKey key written) :
    written.head? ≠ some '>' := by
  cases h with
  | omitted => simp
  | name hname => exact hname.2.2.1
  | @path segments hne hsegments =>
      cases segments with
      | nil => exact absurd rfl hne
      | cons segment rest => simp

theorem WritesKey.hasPlainEnds {key : Key} {written : List Char} (h : WritesKey key written) :
    HasPlainEnds written :=
  hasPlainEnds_of_forall fun c hc =>
    isBlank_eq_false_of_isReserved (h.forall_isReserved c hc)

/-- Every legal key has a written form, the one that rule text gives it. -/
theorem writesKey_text {key : Key} (h : key.Legal) : WritesKey key key.text.toList := by
  cases key with
  | named name =>
      have hname : WritesKey (.named (String.ofList name.toList)) name.toList := .name h
      rwa [String.ofList_toList] at hname
  | path segments =>
      have hpath : WritesKey (.path ((segments.map String.toList).map String.ofList))
          ((segments.map String.toList).flatMap ('.' :: ·)) := by
        refine .path (by simpa using h.1) fun segment hsegment => ?_
        obtain ⟨original, horiginal, rfl⟩ := List.mem_map.mp hsegment
        exact h.2 original horiginal
      have hsegments : (segments.map String.toList).map String.ofList = segments := by
        simp [Function.comp_def]
      have htext : (segments.map String.toList).flatMap ('.' :: ·) =
          (Key.path segments).text.toList := by
        simp [Key.text, String.toList_join, List.flatMap_def, Function.comp_def]
      rwa [hsegments, htext] at hpath

/-! ## Sentences of rules -/

theorem WritesDirection.forall_isBrace {descending : Bool} {written : List Char}
    (h : WritesDirection descending written) : ∀ c ∈ written, isBrace c = false := by
  cases h with
  | ascending => simp
  | descending hgap =>
      intro c hc
      rcases List.mem_cons.mp hc with rfl | hc
      · decide
      · exact isBrace_eq_false_of_isBlank (allBlank_iff.mp hgap c hc)

/-- What stands in braces without being blank is a selector, up to blanks around it. -/
theorem legalSelector_trim {inner : List Char} (hbrace : inner.any isBrace = false)
    (hblank : allBlank inner = false) : LegalSelector (String.ofList (trim inner)) := by
  rw [LegalSelector, String.toList_ofList, List.any_eq_false]
  rw [List.any_eq_false] at hbrace
  refine ⟨?_, trim_trim inner, fun c hc => hbrace c (mem_of_mem_trim hc)⟩
  rw [ne_eq, trim_eq_nil_iff, hblank]
  exact Bool.false_ne_true

theorem WritesSelector.head?_plain {selector : Option String} {written : List Char}
    (h : WritesSelector selector written) : ∀ c ∈ written.head?, isBlank c = false := by
  cases h with
  | none => simp
  | braced =>
      rintro c ⟨⟩
      decide

theorem WritesDirection.head?_plain {descending : Bool} {written : List Char}
    (h : WritesDirection descending written) : ∀ c ∈ written.head?, isBlank c = false := by
  cases h with
  | ascending => simp
  | descending =>
      rintro c ⟨⟩
      decide

/-- A sentence does not begin with a blank. -/
theorem IsSentence.head?_plain {rule : Rule} {text : List Char} (h : IsSentence rule text) :
    ∀ c ∈ text.head?, isBlank c = false := by
  obtain ⟨braced, direction, written, rfl, hselector, hdirection, hkey⟩ := h
  exact isBlank_head?_append (isBlank_head?_append hselector.head?_plain hdirection.head?_plain)
    hkey.hasPlainEnds.1

/-- The blanks behind a selector may be left out. -/
theorem WritesSelector.exists_plain_end {selector : Option String} {written : List Char}
    (h : WritesSelector selector written) : ∃ braced gap, written = braced ++ gap ∧
      allBlank gap = true ∧ WritesSelector selector braced ∧
      ∀ c ∈ braced.getLast?, isBlank c = false := by
  have hnil : allBlank [] = true := rfl
  cases h with
  | none => exact ⟨[], [], rfl, hnil, .none, by simp⟩
  | @braced inner gap hbrace hblank hgap =>
      refine ⟨openBrace :: inner ++ [closeBrace], gap, by simp, hgap, .braced hbrace hblank hnil,
        ?_⟩
      rw [List.getLast?_append_of_ne_nil _ (List.cons_ne_nil _ _)]
      rintro c ⟨⟩
      decide

/-- The blanks behind a direction may be left out. -/
theorem WritesDirection.exists_plain_end {descending : Bool} {written : List Char}
    (h : WritesDirection descending written) : ∃ direction gap, written = direction ++ gap ∧
      allBlank gap = true ∧ WritesDirection descending direction ∧
      ∀ c ∈ direction.getLast?, isBlank c = false := by
  have hnil : allBlank [] = true := rfl
  cases h with
  | ascending => exact ⟨[], [], rfl, hnil, .ascending, by simp⟩
  | @descending gap hgap =>
      refine ⟨['>'], gap, rfl, hgap, .descending hnil, ?_⟩
      rintro c ⟨⟩
      decide

/-- The blanks at the end of a sentence may be left out, whichever part they stand behind. -/
theorem IsSentence.exists_plain_end {rule : Rule} {text : List Char} (h : IsSentence rule text) :
    ∃ sentence gap, text = sentence ++ gap ∧ allBlank gap = true ∧ IsSentence rule sentence ∧
      ∀ c ∈ sentence.getLast?, isBlank c = false := by
  obtain ⟨braced, direction, written, rfl, hselector, hdirection, hkey⟩ := h
  by_cases hwritten : written = []
  · subst hwritten
    obtain ⟨mark, gap, rfl, hgap, hdirection, hmark⟩ := hdirection.exists_plain_end
    by_cases hnil : mark = []
    · subst hnil
      obtain ⟨front, gap', rfl, hgap', hselector, hfront⟩ := hselector.exists_plain_end
      refine ⟨front, gap' ++ gap, by simp, allBlank_append.mpr ⟨hgap', hgap⟩, ?_, hfront⟩
      exact ⟨front, [], [], by simp, hselector, hdirection, hkey⟩
    · refine ⟨braced ++ mark, gap, by simp, hgap, ?_, ?_⟩
      · exact ⟨braced, mark, [], by simp, hselector, hdirection, hkey⟩
      · rw [List.getLast?_append_of_ne_nil _ hnil]
        exact hmark
  · refine ⟨_, [], (List.append_nil _).symm, rfl, ⟨_, _, _, rfl, hselector, hdirection, hkey⟩, ?_⟩
    rw [List.getLast?_append_of_ne_nil _ hwritten]
    exact hkey.hasPlainEnds.2

/-- A sentence is one when it is trimmed. -/
theorem isSentence_trim {rule : Rule} {text : List Char} (h : IsSentence rule text) :
    IsSentence rule (trim text) := by
  obtain ⟨sentence, gap, rfl, hgap, hsentence, hlast⟩ := h.exists_plain_end
  rwa [trim_append_right sentence hgap, trim_of_hasPlainEnds ⟨hsentence.head?_plain, hlast⟩]

/-- A selector as rule text writes it. -/
def writtenSelector : Option String → List Char
  | some selector => openBrace :: selector.toList ++ closeBrace :: [' ']
  | none => []

/-- A direction as rule text writes it. -/
def writtenDirection (descending : Bool) : List Char := if descending then ['>'] else []

theorem Rule.toList_text (rule : Rule) : rule.text.toList =
    writtenSelector rule.selector ++ writtenDirection rule.descending ++
      rule.key.text.toList := by
  unfold Rule.text writtenSelector writtenDirection
  cases rule.selector <;> cases rule.descending <;> simp [openBrace, closeBrace]

/-- The written form that rule text gives a rule is a sentence. -/
theorem isSentence_text (rule : Rule) : IsSentence rule rule.text.toList := by
  refine ⟨writtenSelector rule.selector, writtenDirection rule.descending,
    rule.key.text.toList, rule.toList_text, ?_, ?_, writesKey_text rule.key_legal⟩
  · cases hselector : rule.selector with
    | none => exact .none
    | some selector =>
        obtain ⟨hne, htrim, hbrace⟩ := rule.selector_legal selector hselector
        have hblank : allBlank selector.toList = false := by
          rw [Bool.eq_false_iff, ne_eq, ← trim_eq_nil_iff, htrim]
          exact hne
        have hwritten : WritesSelector (some (String.ofList (trim selector.toList)))
            (openBrace :: selector.toList ++ closeBrace :: [' ']) :=
          .braced hbrace hblank (by decide)
        rwa [htrim, String.ofList_toList] at hwritten
  · cases rule.descending with
    | false => exact .ascending
    | true => exact .descending (show allBlank [] = true from rfl)

end Collate
