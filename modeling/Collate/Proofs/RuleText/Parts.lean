import Collate.Proofs.Rule.Declaration
import Collate.Proofs.RuleText.Key
import Collate.Proofs.RuleText.Splitting

/-!
# Reading clauses

A clause is read in two parts that know nothing of each other: its selector
(`selectorOf`) and its expression (`expressionOf`), which gives the direction and the
key (`readParts_eq`).

A sentence of the grammar is read as the rule that it denotes, without a repair
(`readsAs_of_isSentence`).  A clause that needs no repair is a sentence, unless its
expression holds an opening brace; the reader passes over that brace and what follows
it (`exists_sentence_of_readsAs`).
-/

namespace Collate

open Text

/-! ## Directions -/

/-- A written direction and key are read, without a repair. -/
theorem readDirectedKey_of_writes {descending : Bool} {key : Key} {direction written : List Char}
    (hdirection : WritesDirection descending direction) (hkey : WritesKey key written)
    (hends : HasPlainEnds (direction ++ written)) :
    readDirectedKey (direction ++ written) = (descending, key, []) := by
  cases hdirection with
  | ascending =>
      rw [List.nil_append, readDirectedKey]
      · rw [readKey_of_writesKey hkey]
      · intro rest hrest
        exact hkey.head?_ne (by rw [hrest]; rfl)
  | @descending gap hgap =>
      have hwritten : HasPlainEnds written := hkey.hasPlainEnds
      have htrim : trim (gap ++ written) = written := trim_append_of_hasPlainEnds hgap hwritten
      rw [List.cons_append, readDirectedKey, htrim]
      simp only [hkey.head?_ne, if_false, readKey_of_writesKey hkey]

/-- An expression that needs no repair consists of a written direction and a written
key, apart from what the reader passes over. -/
theorem exists_writes_of_readDirectedKey {descending : Bool} {key : Key} {expression : List Char}
    (hends : HasPlainEnds expression) (hcomma : ',' ∈ expression → closeBrace ∈ expression)
    (h : readDirectedKey expression = (descending, key, [])) :
    ∃ direction written passed, expression = direction ++ written ++ passed ∧
      WritesDirection descending direction ∧ WritesKey key written ∧
      (passed = [] ∨ passed.head? = some openBrace) := by
  unfold readDirectedKey at h
  split at h
  · next rest =>
    dsimp only at h
    split at h
    · simp at h
    · next hmark =>
      simp only [Prod.mk.injEq] at h
      obtain ⟨rfl, hkey, hrepairs⟩ := h
      obtain ⟨gap, hgap, hrest⟩ := @HasPlainEnds.exists_gap ['>'] rest hends
      -- the closing brace that shelters a comma stands behind the mark, as the comma does
      have hinner : ',' ∈ trim rest → closeBrace ∈ trim rest := by
        intro hmem
        have hclose := hcomma (List.mem_cons_of_mem _ (mem_of_mem_trim hmem))
        rw [hrest] at hclose
        rcases List.mem_cons.mp hclose with hc | hclose
        · exact absurd hc (by decide)
        rcases List.mem_append.mp hclose with hclose | hclose
        · exact absurd (allBlank_iff.mp hgap _ hclose) (by decide)
        · exact hclose
      obtain ⟨written, passed, hexpression, hwritten, hpassed⟩ :=
        exists_writesKey_of_readKey hinner hmark (Prod.ext hkey hrepairs)
      refine ⟨'>' :: gap, written, passed, ?_, .descending hgap, hwritten, hpassed⟩
      rw [hrest, hexpression, List.cons_append, List.cons_append, List.append_assoc]
  · next hmark =>
    simp only [Prod.mk.injEq] at h
    obtain ⟨rfl, hkey, hrepairs⟩ := h
    have hhead : expression.head? ≠ some '>' := by
      intro hhead
      obtain ⟨rest, hrest⟩ := List.head?_eq_some_iff.mp hhead
      exact hmark rest hrest
    obtain ⟨written, passed, hexpression, hwritten, hpassed⟩ :=
      exists_writesKey_of_readKey hcomma hhead (Prod.ext hkey hrepairs)
    exact ⟨[], written, passed, hexpression, .ascending, hwritten, hpassed⟩

/-! ## Selectors -/

/-- A text up to a closing brace, and what stands after it. -/
theorem eq_append_closeBrace {text : List Char} (h : closeBrace ∈ text) :
    text = text.takeWhile (· ≠ closeBrace) ++
      closeBrace :: (text.dropWhile (· ≠ closeBrace)).drop 1 := by
  have hne : text.dropWhile (· ≠ closeBrace) ≠ [] := by
    rw [ne_eq, List.dropWhile_eq_nil_iff]
    exact fun hall => by simpa using hall closeBrace h
  obtain ⟨c, rest, hdrop⟩ := List.exists_cons_of_ne_nil hne
  have hc : c = closeBrace := by
    have hhead := List.head?_dropWhile_not (· ≠ closeBrace) text
    rw [hdrop] at hhead
    simpa using hhead
  have hall := List.takeWhile_append_dropWhile (p := (· ≠ closeBrace)) (l := text)
  rw [hdrop, hc] at hall
  rw [hdrop]
  exact hall.symm

theorem takeWhile_append_closeBrace {inner : List Char} (h : closeBrace ∉ inner)
    (rest : List Char) : (inner ++ closeBrace :: rest).takeWhile (· ≠ closeBrace) = inner := by
  rw [List.takeWhile_append_of_pos fun c hc => by
    simpa using fun heq : c = closeBrace => h (heq ▸ hc)]
  simp

theorem dropWhile_append_closeBrace {inner : List Char} (h : closeBrace ∉ inner)
    (rest : List Char) :
    (inner ++ closeBrace :: rest).dropWhile (· ≠ closeBrace) = closeBrace :: rest := by
  rw [List.dropWhile_append_of_pos fun c hc => by
    simpa using fun heq : c = closeBrace => h (heq ▸ hc)]
  simp

/-- The selector of a clause, and the repairs that it needs. -/
def selectorOf (clause : List Char) : Option (List Char) × List Repair :=
  let text := trim clause
  if text.head? = some openBrace then
    let (selector, _, repairs) := readSelector (text.drop 1)
    (selector, repairs)
  else (none, if openBrace ∈ text then [.selectorNotFirst] else [])

/-- A clause is read in two parts. -/
theorem readParts_eq (clause : List Char) :
    readParts clause =
      { selector := (selectorOf clause).1.map String.ofList
        descending := (readDirectedKey (expressionOf clause)).1
        key := (readDirectedKey (expressionOf clause)).2.1
        repairs := (selectorOf clause).2 ++ (readDirectedKey (expressionOf clause)).2.2 } := by
  unfold readParts selectorOf expressionOf
  by_cases hbrace : (trim clause).head? = some openBrace
  · obtain ⟨inner, htext⟩ := List.head?_eq_some_iff.mp hbrace
    simp only [htext, List.head?_cons, if_true, List.drop_succ_cons,
      List.drop_zero]
    rw [List.dropWhile_cons_of_pos (by decide)]
    rfl
  · simp only [hbrace, if_false]

variable {clause inner rest : List Char}

/-- The selector of a clause that begins with one in braces. -/
theorem selectorOf_braced
    (htext : trim clause = openBrace :: inner ++ closeBrace :: rest)
    (hbrace : inner.any isBrace = false) (hblank : allBlank inner = false) :
    selectorOf clause = (some (trim inner), []) := by
  have hinner : ∀ c ∈ inner, isBrace c = false := by simpa using hbrace
  have hnot : closeBrace ∉ inner := closeBrace_not_mem_of_any hbrace
  have hopen : openBrace ∉ trim inner := fun hmem =>
    absurd (hinner _ (mem_of_mem_trim hmem)) (by decide)
  have hne : trim inner ≠ [] := by
    rw [ne_eq, trim_eq_nil_iff, hblank]
    simp
  unfold selectorOf
  rw [htext]
  simp only [List.cons_append, List.head?_cons, if_true, List.drop_one, List.tail_cons,
    readSelector, takeWhile_append_closeBrace hnot]
  simp [hopen, hne]

theorem expressionOf_braced
    (htext : trim clause = openBrace :: inner ++ closeBrace :: rest)
    (hbrace : closeBrace ∉ inner) : expressionOf clause = trim rest := by
  have hopen : closeBrace ∉ openBrace :: inner := by
    rw [List.mem_cons, not_or]
    exact ⟨by decide, hbrace⟩
  unfold expressionOf
  dsimp only
  rw [htext, dropWhile_append_closeBrace hopen, List.cons_append, List.head?_cons, if_pos rfl]
  rfl

theorem expressionOf_of_head?_ne (h : (trim clause).head? ≠ some openBrace) :
    expressionOf clause = trim clause := by
  rw [expressionOf, if_neg h]

theorem hasPlainEnds_expressionOf (clause : List Char) : HasPlainEnds (expressionOf clause) := by
  unfold expressionOf
  dsimp only
  split
  · exact hasPlainEnds_trim _
  · exact hasPlainEnds_trim _

/-- Behind its opening brace, a selector that needs no repair is closed, holds no other
brace and is not blank. -/
theorem exists_inner_of_readSelector {text : List Char}
    (h : (readSelector text).2.2 = []) :
    ∃ inner rest, text = inner ++ closeBrace :: rest ∧ inner.any isBrace = false ∧
      allBlank inner = false ∧ (readSelector text).1 = some (trim inner) := by
  simp only [readSelector, List.append_eq_nil_iff, ite_eq_right_iff, ite_eq_left_iff,
    List.cons_ne_nil, imp_false, not_not] at h
  obtain ⟨⟨hclosed, hnested⟩, hne⟩ := h
  rw [if_neg hnested] at hne
  have hinner : closeBrace ∉ text.takeWhile (· ≠ closeBrace) := fun hmem => by
    simpa using List.mem_takeWhile_imp hmem
  refine ⟨text.takeWhile (· ≠ closeBrace), _, eq_append_closeBrace hclosed, ?_, ?_, ?_⟩
  · rw [List.any_eq_false]
    intro c hc hbrace
    simp only [isBrace, Bool.or_eq_true, beq_iff_eq] at hbrace
    rcases hbrace with rfl | rfl
    · exact hnested (mem_trim_of_mem hc (by decide))
    · exact hinner hc
  · rw [Bool.eq_false_iff, ne_eq, ← trim_eq_nil_iff]
    exact hne
  · unfold readSelector
    dsimp only
    rw [if_neg hnested, if_neg hne]

/-- A selector that needs no repair stands in braces before the expression, or there
is none and no brace at all. -/
theorem exists_writesSelector_of_selectorOf {selector : Option (List Char)}
    (h : selectorOf clause = (selector, [])) :
    ∃ written, trim clause = written ++ expressionOf clause ∧
      WritesSelector (selector.map String.ofList) written ∧
      (selector = none → openBrace ∉ expressionOf clause) := by
  by_cases hbrace : (trim clause).head? = some openBrace
  · obtain ⟨text, htext⟩ := List.head?_eq_some_iff.mp hbrace
    have hread : ((readSelector text).1, (readSelector text).2.2) = (selector, []) := by
      rw [← h, selectorOf, htext]
      rfl
    rw [Prod.mk.injEq] at hread
    obtain ⟨inner, rest, hsplit, hplain, hblank, hselector⟩ :=
      exists_inner_of_readSelector hread.2
    rw [hread.1] at hselector
    rw [hsplit] at htext
    have hnot : closeBrace ∉ inner := closeBrace_not_mem_of_any hplain
    -- the clause is trimmed, so what stands behind the brace ends as the expression does
    have hends : HasPlainEnds ((openBrace :: inner ++ [closeBrace]) ++ rest) := by
      rw [List.append_assoc, List.singleton_append, List.cons_append, ← htext]
      exact hasPlainEnds_trim clause
    obtain ⟨gap, hgap, hrest⟩ := hends.exists_gap
    refine ⟨openBrace :: inner ++ closeBrace :: gap, ?_, ?_, ?_⟩
    · rw [expressionOf_braced htext hnot, htext, List.append_assoc, List.cons_append,
        List.cons_append, ← hrest]
    · rw [hselector]
      exact .braced hplain hblank hgap
    · intro hnone
      rw [hselector] at hnone
      cases hnone
  · unfold selectorOf at h
    simp only [hbrace, if_false, Prod.mk.injEq, ite_eq_right_iff, List.cons_ne_nil,
      imp_false] at h
    rw [expressionOf_of_head?_ne hbrace, ← h.1]
    exact ⟨[], rfl, .none, fun _ => h.2⟩

/-! ## Written clauses -/

section Written

variable {selector : Option String} {descending : Bool} {key : Key}
  {braced direction written expression : List Char}

theorem forall_isBrace_of_writes (hdirection : WritesDirection descending direction)
    (hkey : WritesKey key written) : ∀ c ∈ direction ++ written, isBrace c = false := by
  intro c hc
  rcases List.mem_append.mp hc with hc | hc
  · exact hdirection.forall_isBrace c hc
  · exact isBrace_eq_false_of_isReserved (hkey.forall_isReserved c hc)

theorem hasPlainEnds_of_writes (hdirection : WritesDirection descending direction)
    (hkey : WritesKey key written) (htext : trim clause = braced ++ (direction ++ written)) :
    HasPlainEnds (direction ++ written) := by
  have hends : HasPlainEnds (braced ++ (direction ++ written)) :=
    htext ▸ hasPlainEnds_trim clause
  refine hends.of_append_right ?_
  cases hdirection with
  | ascending => exact hkey.hasPlainEnds.1
  | descending hgap =>
      intro c hc
      obtain rfl : c = '>' := by simpa using hc.symm
      decide

/-- The written selector of a clause is read, without a repair. -/
theorem selectorOf_of_writesSelector (hselector : WritesSelector selector braced)
    (htext : trim clause = braced ++ expression)
    (hplain : ∀ c ∈ expression, isBrace c = false) :
    selectorOf clause = (selector.map String.toList, []) := by
  cases hselector with
  | none =>
      -- without a selector, neither the direction nor the key has a brace
      have hopen : openBrace ∉ trim clause := fun hmem =>
        absurd (hplain _ (htext ▸ hmem)) (by decide)
      have hfirst : (trim clause).head? ≠ some openBrace := fun hfirst =>
        hopen (List.mem_of_mem_head? hfirst)
      rw [selectorOf, if_neg hfirst, if_neg hopen]
      rfl
  | @braced inner gap hbrace hblank hgap =>
      rw [List.append_assoc, List.cons_append] at htext
      rw [selectorOf_braced htext hbrace hblank]
      simp

/-- What is written behind the selector of a clause is its expression. -/
theorem expressionOf_of_writesSelector (hselector : WritesSelector selector braced)
    (htext : trim clause = braced ++ expression)
    (hplain : ∀ c ∈ expression, isBrace c = false) (hends : HasPlainEnds expression) :
    expressionOf clause = expression := by
  cases hselector with
  | none =>
      rw [List.nil_append] at htext
      rw [expressionOf_of_head?_ne, htext]
      rw [htext]
      exact fun hfirst => absurd (hplain _ (List.mem_of_mem_head? hfirst)) (by decide)
  | @braced inner gap hbrace hblank hgap =>
      rw [List.append_assoc, List.cons_append] at htext
      rw [expressionOf_braced htext (closeBrace_not_mem_of_any hbrace)]
      exact trim_append_of_hasPlainEnds hgap hends

end Written

/-! ## Clauses -/

/-- A written selector is tidy already. -/
theorem WritesSelector.bind_tidySelector {selector : Option String} {written : List Char}
    (h : WritesSelector selector written) : selector.bind Rule.tidySelector = selector := by
  cases h with
  | none => rfl
  | braced hbrace hblank hgap =>
      rw [Option.bind_some, Rule.tidySelector_of_legal (legalSelector_trim hbrace hblank)]

/-- The clause needs no repair and makes this rule. -/
def ReadsAs (clause : List Char) (rule : Rule) : Prop := readClause clause = ([], some (.ok rule))

/-- Blanks around a clause do not matter. -/
theorem readClause_trim (clause : List Char) : readClause (trim clause) = readClause clause := by
  have hblank : allBlank (trim clause) = allBlank clause := by
    rw [Bool.eq_iff_iff, ← trim_eq_nil_iff, ← trim_eq_nil_iff, trim_trim]
  simp only [readClause, readParts, hblank, trim_trim]

theorem readsAs_trim_iff {rule : Rule} : ReadsAs (trim clause) rule ↔ ReadsAs clause rule := by
  rw [ReadsAs, readClause_trim, ReadsAs]

/-- A sentence is read as the rule that it denotes, without a repair. -/
theorem readsAs_of_isSentence {rule : Rule} (hblank : allBlank clause = false)
    (h : IsSentence rule (trim clause)) : ReadsAs clause rule := by
  obtain ⟨braced, direction, written, htext, hselector, hdirection, hkey⟩ := h
  rw [List.append_assoc] at htext
  have hplain := forall_isBrace_of_writes hdirection hkey
  have hends := hasPlainEnds_of_writes hdirection hkey htext
  have hread := selectorOf_of_writesSelector hselector htext hplain
  have hexpression := expressionOf_of_writesSelector hselector htext hplain hends
  have hparts : readParts clause =
      { selector := rule.selector, descending := rule.descending, key := rule.key
        repairs := [] } := by
    rw [readParts_eq, hread, hexpression, readDirectedKey_of_writes hdirection hkey hends]
    cases rule.selector <;> simp
  rw [ReadsAs, readClause, hblank, if_neg (by simp), hparts]
  exact congrArg (fun outcome => ([], some outcome)) rule.declare_parts

/-- The expression of a sentence has no braces. -/
theorem IsSentence.openBrace_not_mem {rule : Rule} (h : IsSentence rule (trim clause)) :
    openBrace ∉ expressionOf clause := by
  obtain ⟨braced, direction, written, htext, hselector, hdirection, hkey⟩ := h
  rw [List.append_assoc] at htext
  have hplain := forall_isBrace_of_writes hdirection hkey
  have hends := hasPlainEnds_of_writes hdirection hkey htext
  rw [expressionOf_of_writesSelector hselector htext hplain hends]
  intro hmem
  exact absurd (hplain _ hmem) (by decide)

/-- A clause that needs no repair is a sentence for its rule, apart from an opening
brace behind a selector and what follows it. -/
theorem exists_sentence_of_readsAs {rule : Rule} (hsheltered : Sheltered clause)
    (h : ReadsAs clause rule) :
    ∃ sentence passed, trim clause = sentence ++ passed ∧ IsSentence rule sentence ∧
      passed <:+ expressionOf clause ∧
      (passed = [] ∨ passed.head? = some openBrace ∧ rule.selector ≠ none) := by
  unfold ReadsAs readClause at h
  split at h
  · simp at h
  rw [readParts_eq] at h
  simp only [Prod.mk.injEq, List.append_eq_nil_iff, Option.some.injEq] at h
  obtain ⟨⟨hselectorRepairs, hkeyRepairs⟩, hdeclare⟩ := h
  obtain ⟨-, hkey, hselector, hdescending⟩ := Rule.declare_eq_ok_iff.mp hdeclare
  have hread : selectorOf clause = ((selectorOf clause).1, []) := Prod.ext rfl hselectorRepairs
  obtain ⟨braced, htext, hbraced, hnone⟩ := exists_writesSelector_of_selectorOf hread
  -- the expression is the end of the clause, so it is sheltered as well
  have hcomma : ',' ∈ expressionOf clause → closeBrace ∈ expressionOf clause := by
    refine Sheltered.closeBrace_mem ?_
    have htrim := sheltered_trim hsheltered
    rw [htext] at htrim
    exact htrim.of_append_right
  obtain ⟨direction, written, passed, hexpression, hdirection, hwritten, hpassed⟩ :=
    exists_writes_of_readDirectedKey (hasPlainEnds_expressionOf clause) hcomma
      (Prod.ext rfl (Prod.ext rfl hkeyRepairs))
  have hwrites : WritesSelector rule.selector braced := by
    rw [hselector, hbraced.bind_tidySelector]
    exact hbraced
  have hsuffix : passed <:+ expressionOf clause := by
    rw [hexpression]
    exact List.suffix_append _ _
  refine ⟨braced ++ direction ++ written, passed, ?_, ?_, hsuffix, ?_⟩
  · rw [htext, hexpression, List.append_assoc, List.append_assoc, List.append_assoc]
  · exact ⟨braced, direction, written, rfl, hwrites, hdescending ▸ hdirection, hkey ▸ hwritten⟩
  · -- without a selector, the reader asks for a repair wherever it meets an opening brace
    refine hpassed.imp_right fun hopen => ⟨hopen, fun hselectorNone => ?_⟩
    rw [hselector, hbraced.bind_tidySelector, Option.map_eq_none_iff] at hselectorNone
    exact hnone hselectorNone (hsuffix.subset (List.mem_of_mem_head? hopen))

end Collate
