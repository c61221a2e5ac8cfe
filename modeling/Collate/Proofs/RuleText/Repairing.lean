import Collate.Proofs.RuleText.RoundTrip

/-!
# Reading malformed rule text

A repairing reader copes with every malformed clause but one kind.  It counts marks of
the descending direction that follow each other as one; when it meets such a group
behind the first mark, it takes the group away and the blanks after it, but not a
further mark behind those blanks (`MarksApart`).  That mark then begins an attribute
name, which no rule can have.

So a text is read without failure exactly if no clause has its marks apart, and the
rules it is read as can always be written and read again
(`read_repairing_isOk_iff`).
-/

namespace Collate

open Text

/-! ## Marks apart -/

/-- After the first mark of a direction stands a group of marks, and behind blanks one
more mark. -/
def MarksApart (expression : List Char) : Prop :=
  ∃ gap marks blanks rest,
    expression = '>' :: (gap ++ '>' :: (marks ++ (blanks ++ '>' :: rest))) ∧
      allBlank gap = true ∧ (∀ c ∈ marks, c = '>') ∧ allBlank blanks = true ∧ blanks ≠ []

theorem Key.fault?_of_mark (rest : List Char) :
    (Key.named (String.ofList ('>' :: rest))).fault? =
      some (.nameStart '>' (String.ofList ('>' :: rest))) := by
  simp [Key.fault?]

/-- Where the reader trims blanks off, it stops at a mark. -/
theorem trim_append_mark {left gap rest : List Char} (hends : HasPlainEnds (left ++ '>' :: rest))
    (hgap : allBlank gap = true) : trim (gap ++ '>' :: rest) = '>' :: rest := by
  have hmark : isBlank '>' = false := by decide
  have hrest : HasPlainEnds ('>' :: rest) := hends.of_append_right (by simp [hmark])
  exact trim_append_of_hasPlainEnds hgap hrest

/-- The reader meets a mark where it looks for the key, if the marks are apart. -/
theorem readDirectedKey_of_marksApart {expression : List Char}
    (hends : HasPlainEnds expression) (h : MarksApart expression) :
    .repeatedDescending ∈ (readDirectedKey expression).2.2 ∧
      ∃ name, (readDirectedKey expression).2.1.fault? = some (.nameStart '>' name) := by
  obtain ⟨gap, marks, blanks, rest, rfl, hgap, hmarks, hblanks, hne⟩ := h
  have hdirected : trim (gap ++ '>' :: (marks ++ (blanks ++ '>' :: rest))) =
      '>' :: (marks ++ (blanks ++ '>' :: rest)) :=
    @trim_append_mark ('>' :: gap) _ _ (by rwa [List.cons_append]) hgap
  -- the group ends at the blanks, so the mark behind them is not taken away
  have hdrop : ('>' :: (marks ++ (blanks ++ '>' :: rest))).dropWhile (· = '>') =
      blanks ++ '>' :: rest := by
    obtain ⟨blank, others, rfl⟩ := List.exists_cons_of_ne_nil hne
    have hblank : blank ≠ '>' := by
      rintro rfl
      exact absurd (allBlank_iff.mp hblanks _ (List.mem_cons_self ..)) (by decide)
    rw [List.dropWhile_cons_of_pos (by simp), List.dropWhile_append_of_pos (by simpa using hmarks),
      List.cons_append, List.dropWhile_cons_of_neg (by simpa using hblank)]
  have hkey : trim (blanks ++ '>' :: rest) = '>' :: rest :=
    @trim_append_mark ('>' :: (gap ++ '>' :: (marks ++ blanks))) _ _ (by simpa using hends) hblanks
  rw [readDirectedKey, hdirected]
  simp only [List.head?_cons, if_true, hdrop, hkey, readKey_of_mark]
  exact ⟨List.mem_cons_self .., _, Key.fault?_of_mark _⟩

/-- Everything else gives a key that a rule can have. -/
theorem legal_readDirectedKey {expression : List Char} (h : ¬ MarksApart expression) :
    (readDirectedKey expression).2.1.Legal := by
  unfold readDirectedKey
  split
  · next rest =>
    dsimp only
    split
    · next hmark =>
      refine legal_readKey fun hhead => h ?_
      obtain ⟨gap, after, hgap, -, hrest⟩ := exists_eq_append_trim rest
      obtain ⟨more, hmore⟩ := List.head?_eq_some_iff.mp hmark
      obtain ⟨blanks, after', hblanks, -, hkey⟩ :=
        exists_eq_append_trim ((trim rest).dropWhile (· = '>'))
      obtain ⟨tail, htail⟩ := List.head?_eq_some_iff.mp hhead
      rw [htail] at hkey
      -- without blanks the mark would have been taken away with the group
      have hne : blanks ≠ [] := by
        rintro rfl
        have hfirst := List.head?_dropWhile_not (· = '>') (trim rest)
        rw [hkey] at hfirst
        simp at hfirst
      refine ⟨gap, more.takeWhile (· = '>'), blanks, tail ++ after' ++ after, ?_, hgap, ?_,
        hblanks, hne⟩
      · have hdrop : (trim rest).dropWhile (· = '>') = more.dropWhile (· = '>') := by
          rw [hmore, List.dropWhile_cons_of_pos (by simp)]
        have hsplit := List.takeWhile_append_dropWhile (p := (· = '>')) (l := more)
        rw [← hdrop, hkey] at hsplit
        generalize more.takeWhile (· = '>') = marks at hsplit ⊢
        rw [hrest, hmore, ← hsplit]
        simp
      · intro c hc
        simpa using List.mem_takeWhile_imp hc
    · next hmark => exact legal_readKey hmark
  · next hmark =>
    refine legal_readKey fun hhead => ?_
    obtain ⟨rest, hrest⟩ := List.head?_eq_some_iff.mp hhead
    exact hmark rest hrest

/-! ## Repaired clauses -/

/-- A repaired selector has no braces. -/
theorem any_isBrace_selectorOf {clause selector : List Char}
    (h : (selectorOf clause).1 = some selector) : selector.any isBrace = false := by
  unfold selectorOf at h
  dsimp only at h
  split at h
  · simp only [readSelector, Option.ite_none_left_eq_some, Option.some.injEq] at h
    obtain ⟨-, rfl⟩ := h
    have hclose : closeBrace ∉ trim (((trim clause).drop 1).takeWhile (· ≠ closeBrace)) :=
      fun hmem => by simpa using List.mem_takeWhile_imp (mem_of_mem_trim hmem)
    rw [List.any_eq_false]
    intro c hc hbrace
    simp only [isBrace, Bool.or_eq_true, beq_iff_eq] at hbrace
    split at hc
    · have hfilter := List.mem_filter.mp (mem_of_mem_trim hc)
      rcases hbrace with rfl | rfl
      · simpa using hfilter.2
      · exact hclose hfilter.1
    · next hopen =>
      rcases hbrace with rfl | rfl
      · exact hopen hc
      · exact hclose hc
  · cases h

/-- A clause with its marks apart makes no rule. -/
theorem readClause_of_marksApart {clause : List Char} (h : MarksApart (expressionOf clause)) :
    ∃ name, (readClause clause).2 = some (.error (.nameStart '>' name)) := by
  have hblank : ¬ allBlank clause = true := by
    rw [← trim_eq_nil_iff]
    intro hnil
    have hexpression : expressionOf clause = [] := by
      rw [expressionOf_of_head?_ne (by simp [hnil]), hnil]
    obtain ⟨gap, marks, blanks, rest, hmarks, -⟩ := h
    rw [hexpression] at hmarks
    cases hmarks
  obtain ⟨-, name, hfault⟩ :=
    readDirectedKey_of_marksApart (hasPlainEnds_expressionOf clause) h
  refine ⟨name, ?_⟩
  rw [readClause, if_neg hblank, readParts_eq]
  exact congrArg some (Rule.declare_of_fault hfault _ _)

/-- Every other clause makes a rule, unless it is blank. -/
theorem exists_rule_of_readClause {clause : List Char} (hblank : ¬ allBlank clause = true)
    (h : ¬ MarksApart (expressionOf clause)) :
    ∃ rule, (readClause clause).2 = some (.ok rule) := by
  -- the braces were taken out of the selector, so the rule accepts it
  have hbrace : ∀ text ∈ (selectorOf clause).1.map String.ofList,
      text.toList.any isBrace = false := by
    intro text htext
    obtain ⟨selector, hselector, rfl⟩ := Option.map_eq_some_iff.mp htext
    rw [String.toList_ofList]
    exact any_isBrace_selectorOf hselector
  obtain ⟨rule, hrule⟩ := Rule.exists_declare (legal_readDirectedKey h) hbrace
    (readDirectedKey (expressionOf clause)).1
  refine ⟨rule, ?_⟩
  rw [readClause, if_neg hblank, readParts_eq]
  exact congrArg some hrule

theorem readClause_of_allBlank {clause : List Char} (h : allBlank clause = true) :
    readClause clause = ([.emptyClause], none) := by
  rw [readClause, if_pos h]

/-! ## Repaired texts -/

/-- The rules of repaired clauses, the first of which may have none. -/
theorem readClauses_repairing_cons (index : Nat) (clause : List Char)
    (others : List (List Char)) :
    (readClauses .repairing index (clause :: others)).1 =
      match (readClause clause).2 with
      | some (.error fault) => .error (.invalid fault)
      | some (.ok rule) => (readClauses .repairing (index + 1) others).1.map (rule :: ·)
      | none => (readClauses .repairing (index + 1) others).1 := by
  rw [readClauses]
  obtain ⟨repairs, outcome⟩ := readClause clause
  cases outcome with
  | none => rfl
  | some outcome => cases outcome <;> rfl

theorem exists_rules_of_readClauses {clauses : List (List Char)}
    (h : ∀ clause ∈ clauses, ¬ MarksApart (expressionOf clause)) (index : Nat) :
    ∃ rules, (readClauses .repairing index clauses).1 = .ok rules := by
  induction clauses generalizing index with
  | nil => exact ⟨[], rfl⟩
  | cons clause others ih =>
      obtain ⟨rules, hrules⟩ := ih (fun c hc => h c (List.mem_cons_of_mem _ hc)) (index + 1)
      rw [readClauses_repairing_cons]
      by_cases hblank : allBlank clause = true
      · rw [readClause_of_allBlank hblank]
        exact ⟨rules, hrules⟩
      · obtain ⟨rule, hrule⟩ := exists_rule_of_readClause hblank (h clause (List.mem_cons_self ..))
        rw [hrule, hrules]
        exact ⟨rule :: rules, rfl⟩

theorem readClauses_of_marksApart {clauses : List (List Char)}
    (h : ∃ clause ∈ clauses, MarksApart (expressionOf clause)) (index : Nat) :
    ∃ name, (readClauses .repairing index clauses).1 = .error (.invalid (.nameStart '>' name)) := by
  induction clauses generalizing index with
  | nil => simp at h
  | cons clause others ih =>
      rw [readClauses_repairing_cons]
      by_cases hclause : MarksApart (expressionOf clause)
      · obtain ⟨name, hname⟩ := readClause_of_marksApart hclause
        rw [hname]
        exact ⟨name, rfl⟩
      · -- a clause that can be read is not the one that makes reading fail
        have hothers : ∃ clause ∈ others, MarksApart (expressionOf clause) := by
          obtain ⟨other, hmem, hother⟩ := h
          rcases List.mem_cons.mp hmem with rfl | hmem
          · exact absurd hother hclause
          · exact ⟨other, hmem, hother⟩
        obtain ⟨name, hname⟩ := ih hothers (index + 1)
        refine ⟨name, ?_⟩
        by_cases hblank : allBlank clause = true
        · rw [readClause_of_allBlank hblank, hname]
        · obtain ⟨rule, hrule⟩ := exists_rule_of_readClause hblank hclause
          rw [hrule, hname]
          rfl

/-- **Repaired text can be read, and what is read can be written and read again**,
exactly as long as no clause has its marks apart.  What is read from a text with such a
clause is no rule, since an attribute name begins with a mark. -/
theorem Rule.read_repairing_isOk_iff (text : String) :
    ((∃ rules, (Rule.read .repairing text).1 = .ok rules) ↔
      ∀ clause ∈ splitClauses (trim text.toList), ¬ MarksApart (expressionOf clause)) ∧
    (∀ rules, (Rule.read .repairing text).1 = .ok rules →
      Rule.readStrict (Rule.textOf rules) = .ok rules) ∧
    (∀ error, (Rule.read .repairing text).1 = .error error →
      ∃ name, error = .invalid (.nameStart '>' name)) := by
  have hread : (Rule.read .repairing text).1 =
      (readClauses .repairing 0 (splitClauses (trim text.toList))).1 := by
    by_cases hblank : allBlank text.toList = true
    · rw [Rule.read, if_pos hblank, trim_eq_nil_iff.mpr hblank]
      rfl
    · rw [Rule.read, if_neg hblank]
  have hrewrite : ∀ rules, Rule.readStrict (Rule.textOf rules) = .ok rules := fun rules => by
    rw [Rule.readStrict, Rule.read_textOf]
  rw [hread]
  by_cases h : ∀ clause ∈ splitClauses (trim text.toList), ¬ MarksApart (expressionOf clause)
  · obtain ⟨rules, hrules⟩ := exists_rules_of_readClauses h 0
    refine ⟨⟨fun _ => h, fun _ => ⟨rules, hrules⟩⟩, fun others _ => hrewrite others, ?_⟩
    intro error herror
    rw [hrules] at herror
    cases herror
  · have hapart : ∃ clause ∈ splitClauses (trim text.toList), MarksApart (expressionOf clause) := by
      simpa using h
    obtain ⟨name, hname⟩ := readClauses_of_marksApart hapart 0
    rw [hname]
    refine ⟨⟨?_, fun hall => absurd hall h⟩, ?_, ?_⟩
    · rintro ⟨rules, hrules⟩
      cases hrules
    · intro rules hrules
      cases hrules
    · rintro error ⟨⟩
      exact ⟨name, rfl⟩

/-- Reading `>> >x` fails, although every mark of it could be taken for one. -/
theorem Rule.read_repairing_marks_apart :
    (Rule.read .repairing ">> >x").1 = .error (.invalid (.nameStart '>' ">x")) := by
  rfl

end Collate
