import Collate.Proofs.RuleText.Grammar
import Collate.Proofs.Text.Parts
import Collate.Rule.Clause

/-!
# Where rule text is cut

A clause is *sheltered* if the next brace after each of its commas is a closing one
of the clause itself.  Every clause that a text is cut into is sheltered
(`sheltered_of_mem_splitClauses`): the lookahead for a brace never passes the end of
the clause.  Conversely, sheltered clauses that do not begin with a stray closing
brace are found again after they were joined by commas (`splitClauses_intercalate`),
up to the blanks that follow a separating comma.
-/

namespace Collate

open Text

/-! ## The next brace -/

theorem closesFirst_cons_of_isBrace_eq_false {c : Char} (h : isBrace c = false)
    (rest : List Char) : closesFirst (c :: rest) = closesFirst rest := by
  simp [closesFirst, h]

/-- Once the next brace is known, what follows the text does not matter. -/
theorem closesFirst_append_of_any {left : List Char} (h : left.any isBrace = true)
    (right : List Char) : closesFirst (left ++ right) = closesFirst left := by
  obtain ⟨brace, hbrace⟩ := Option.isSome_iff_exists.mp (List.find?_isSome.mpr
    (List.any_eq_true.mp h))
  simp [closesFirst, List.find?_append, hbrace]

theorem closesFirst_append_of_any_eq_false {left : List Char} (h : left.any isBrace = false)
    (right : List Char) : closesFirst (left ++ right) = closesFirst right := by
  have hnone : left.find? isBrace = none := by
    rw [List.find?_eq_none]
    simpa using h
  simp [closesFirst, List.find?_append, hnone]

theorem any_of_closesFirst {text : List Char} (h : closesFirst text = true) :
    text.any isBrace = true := by
  have hfind : text.find? isBrace = some closeBrace := by simpa [closesFirst] using h
  exact List.any_eq_true.mpr ⟨closeBrace, List.mem_of_find?_eq_some hfind, by decide⟩

/-- If a closing brace comes next, there is one. -/
theorem mem_of_closesFirst {text : List Char} (h : closesFirst text = true) :
    closeBrace ∈ text :=
  List.mem_of_find?_eq_some (by simpa [closesFirst] using h)

/-- A text without a closing brace has none to offer as the next one. -/
theorem closesFirst_eq_false_of_not_mem {text : List Char} (h : closeBrace ∉ text) :
    closesFirst text = false := by
  cases hcloses : closesFirst text with
  | false => rfl
  | true => exact absurd (mem_of_closesFirst hcloses) h

/-- What follows a text does not matter either if it offers no closing brace first. -/
theorem closesFirst_append (left : List Char) {right : List Char}
    (h : closesFirst right = false) : closesFirst (left ++ right) = closesFirst left := by
  cases hany : left.any isBrace with
  | true => exact closesFirst_append_of_any hany right
  | false =>
      have hleft := closesFirst_eq_false_of_not_mem (closeBrace_not_mem_of_any hany)
      rw [closesFirst_append_of_any_eq_false hany, h, hleft]

/-! ## Sheltered clauses -/

/-- The next brace after each comma is a closing one of the clause itself. -/
def Sheltered (clause : List Char) : Prop :=
  ∀ before after, clause = before ++ ',' :: after → closesFirst after = true

theorem sheltered_nil : Sheltered [] := by
  intro before after h
  cases before <;> cases h

theorem sheltered_cons {c : Char} {rest : List Char} :
    Sheltered (c :: rest) ↔ (c = ',' → closesFirst rest = true) ∧ Sheltered rest := by
  constructor
  · intro h
    refine ⟨fun hcomma => h [] rest (by rw [hcomma]; rfl), fun before after hrest => ?_⟩
    exact h (c :: before) after (by rw [hrest]; rfl)
  · rintro ⟨hcomma, hrest⟩ before after h
    cases before with
    | nil =>
        obtain ⟨rfl, rfl⟩ := List.cons_eq_cons.mp h
        exact hcomma rfl
    | cons d before =>
        obtain ⟨rfl, htail⟩ := List.cons_eq_cons.mp h
        exact hrest before after htail

theorem Sheltered.of_append_right {before after : List Char} (h : Sheltered (before ++ after)) :
    Sheltered after := by
  intro left right hafter
  exact h (before ++ left) right (by rw [hafter, List.append_assoc])

theorem sheltered_trimStart {clause : List Char} (h : Sheltered clause) :
    Sheltered (trimStart clause) := by
  rw [← leadingBlanks_append_trimStart clause] at h
  exact h.of_append_right

theorem Sheltered.of_append_blank {clause gap : List Char} (h : Sheltered (clause ++ gap))
    (hgap : gap.any isBrace = false) : Sheltered clause := by
  intro before after hclause
  have hcloses := h before (after ++ gap) (by rw [hclause, List.append_assoc, List.cons_append])
  by_cases hany : after.any isBrace = true
  · rwa [closesFirst_append_of_any hany] at hcloses
  · rw [closesFirst_append_of_any_eq_false (by simpa using hany)] at hcloses
    -- the brace would have to be among the blanks
    rw [any_of_closesFirst hcloses] at hgap
    cases hgap

theorem sheltered_trim {clause : List Char} (h : Sheltered clause) : Sheltered (trim clause) := by
  obtain ⟨before, after, -, hafter, hclause⟩ := exists_eq_append_trim clause
  rw [hclause, List.append_assoc] at h
  refine h.of_append_right.of_append_blank ?_
  rw [List.any_eq_false]
  exact fun c hc => by simp [isBrace_eq_false_of_isBlank (allBlank_iff.mp hafter c hc)]

/-- A sheltered comma has a closing brace behind it. -/
theorem Sheltered.closeBrace_mem {clause : List Char} (h : Sheltered clause) (hcomma : ',' ∈ clause) :
    closeBrace ∈ clause := by
  obtain ⟨before, after, hclause⟩ := List.append_of_mem hcomma
  have hmem := mem_of_closesFirst (h before after hclause)
  rw [hclause]
  exact List.mem_append_right _ (List.mem_cons_of_mem _ hmem)

/-- Braces after a text shelter no comma of it that was not sheltered before, and
expose none. -/
theorem sheltered_append {left right : List Char} (hleft : Sheltered left)
    (hright : Sheltered right) : Sheltered (left ++ right) := by
  induction left with
  | nil => exact hright
  | cons c rest ih =>
      obtain ⟨hcomma, hrest⟩ := sheltered_cons.mp hleft
      rw [List.cons_append, sheltered_cons]
      refine ⟨fun hc => ?_, ih hrest⟩
      rw [closesFirst_append_of_any (any_of_closesFirst (hcomma hc)), hcomma hc]

theorem sheltered_of_not_mem {clause : List Char} (h : ',' ∉ clause) : Sheltered clause := by
  intro before after hclause
  exact absurd (hclause ▸ List.mem_append_right before (List.mem_cons_self ..)) h

/-- Commas are sheltered by the closing brace after a text without braces. -/
theorem sheltered_append_closeBrace {inner : List Char} (h : inner.any isBrace = false) :
    Sheltered (inner ++ [closeBrace]) := by
  induction inner with
  | nil => exact sheltered_of_not_mem (by decide)
  | cons c rest ih =>
      rw [List.any_cons, Bool.or_eq_false_iff] at h
      rw [List.cons_append, sheltered_cons]
      refine ⟨fun _ => ?_, ih h.2⟩
      rw [closesFirst_append_of_any_eq_false h.2]
      rfl

/-! ## Clauses of a text -/

/-- The first clause shows the next brace of the whole text, if that is a closing
one. -/
theorem closesFirst_of_splitClauses {text clause : List Char} {others : List (List Char)}
    (hcloses : closesFirst text = true) (hsplit : splitClauses text = clause :: others) :
    closesFirst clause = true := by
  induction text generalizing clause others with
  | nil => simp [closesFirst] at hcloses
  | cons c rest ih =>
      obtain ⟨head, tail, hrest⟩ := List.exists_cons_of_ne_nil (splitClauses_ne_nil rest)
      by_cases hbrace : isBrace c = true
      · -- the brace itself is the one that closes
        have hc : c = closeBrace := by simpa [closesFirst, List.find?_cons, hbrace] using hcloses
        have hnot : ¬ (c = ',' ∧ closesFirst rest = false) := by
          rintro ⟨rfl, -⟩
          exact absurd hbrace (by decide)
        rw [splitClauses, if_neg hnot, hrest, List.modifyHead_cons, List.cons.injEq] at hsplit
        rw [← hsplit.1, hc]
        rfl
      · have hplain : isBrace c = false := by simpa using hbrace
        rw [closesFirst_cons_of_isBrace_eq_false hplain] at hcloses
        rw [splitClauses, if_neg (by simp [hcloses]), hrest, List.modifyHead_cons,
          List.cons.injEq] at hsplit
        rw [← hsplit.1, closesFirst_cons_of_isBrace_eq_false hplain]
        exact ih hcloses hrest

/-- Every clause of a text shelters its own commas. -/
theorem sheltered_of_mem_splitClauses {text clause : List Char}
    (hmem : clause ∈ splitClauses text) : Sheltered clause := by
  induction text generalizing clause with
  | nil =>
      rw [splitClauses, List.mem_singleton] at hmem
      exact hmem ▸ sheltered_nil
  | cons c rest ih =>
      obtain ⟨head, tail, hrest⟩ := List.exists_cons_of_ne_nil (splitClauses_ne_nil rest)
      have hhead : head ∈ splitClauses rest := by rw [hrest]; exact List.mem_cons_self ..
      have htail : ∀ other ∈ tail, Sheltered other := fun other hother =>
        ih (by rw [hrest]; exact List.mem_cons_of_mem _ hother)
      rw [splitClauses, hrest, List.modifyHead_cons, List.modifyHead_cons] at hmem
      split at hmem
      · rcases List.mem_cons.mp hmem with rfl | hmem
        · exact sheltered_nil
        rcases List.mem_cons.mp hmem with rfl | hmem
        · exact sheltered_trimStart (ih hhead)
        · exact htail clause hmem
      · next hinside =>
        rcases List.mem_cons.mp hmem with rfl | hmem
        · -- a comma that does not separate has a closing brace next, which its clause shows
          refine sheltered_cons.mpr ⟨fun hc => ?_, ih hhead⟩
          exact closesFirst_of_splitClauses (by simpa [hc] using hinside) hrest
        · exact htail clause hmem

theorem splitClauses_of_sheltered {clause : List Char} (h : Sheltered clause) :
    splitClauses clause = [clause] := by
  induction clause with
  | nil => rfl
  | cons c rest ih =>
      obtain ⟨hcomma, hrest⟩ := sheltered_cons.mp h
      rw [splitClauses, if_neg (by rintro ⟨hc, hopen⟩; simp [hcomma hc] at hopen), ih hrest]
      rfl

/-! ## Blanks around a text -/

/-- Blanks in front of a text belong to its first clause. -/
theorem splitClauses_append_left {gap : List Char} (hgap : allBlank gap = true)
    (text : List Char) :
    splitClauses (gap ++ text) = (splitClauses text).modifyHead (gap ++ ·) := by
  induction gap with
  | nil =>
      rw [List.nil_append]
      cases splitClauses text <;> rfl
  | cons c rest ih =>
      have hblank := allBlank_iff.mp hgap
      have hcomma : c ≠ ',' := by
        rintro rfl
        exact absurd (hblank _ (List.mem_cons_self ..)) (by decide)
      have hrest : allBlank rest = true :=
        allBlank_iff.mpr fun d hd => hblank d (List.mem_cons_of_mem c hd)
      rw [List.cons_append, splitClauses, if_neg (fun h => hcomma h.1), ih hrest]
      cases splitClauses text <;> rfl

/-- Blanks behind a text are blanks behind its last clause, if they are not lost after a
separating comma. -/
theorem map_trimEnd_splitClauses_append (text : List Char) {gap : List Char}
    (hgap : allBlank gap = true) :
    (splitClauses (text ++ gap)).map trimEnd = (splitClauses text).map trimEnd := by
  have hbrace : gap.any isBrace = false := by
    rw [List.any_eq_false]
    exact fun c hc => by simp [isBrace_eq_false_of_isBlank (allBlank_iff.mp hgap c hc)]
  induction text with
  | nil =>
      -- blanks alone make one clause, of which nothing is left
      have hcomma : ',' ∉ gap := fun hmem => absurd (allBlank_iff.mp hgap _ hmem) (by decide)
      have hend : trimEnd gap = trimEnd [] := trimEnd_append [] hgap
      rw [List.nil_append, splitClauses_of_sheltered (sheltered_of_not_mem hcomma), splitClauses,
        List.map_singleton, List.map_singleton, hend]
  | cons c rest ih =>
      have hgap := closesFirst_eq_false_of_not_mem (closeBrace_not_mem_of_any hbrace)
      rw [List.cons_append, splitClauses, splitClauses, closesFirst_append rest hgap]
      split
      · rw [List.map_cons, List.map_cons]
        refine congrArg _ (map_modifyHead_congr (fun x y hxy => ?_) ih)
        show trim x = trim y
        rw [← trim_trimEnd x, hxy, trim_trimEnd]
      · refine map_modifyHead_congr (fun x y hxy => ?_) ih
        rw [← trimEnd_cons_trimEnd c x, hxy, trimEnd_cons_trimEnd]

/-- Blanks around a text are blanks around its clauses. -/
theorem map_trim_splitClauses_trim (text : List Char) :
    (splitClauses (trim text)).map trim = (splitClauses text).map trim :=
  map_trim_cut_trim (fun _ text hgap => splitClauses_append_left hgap text)
    (fun text _ hgap => map_trimEnd_splitClauses_append text hgap) text

/-! ## Joined clauses -/

/-- A comma between two texts separates their clauses, unless a closing brace comes next. -/
theorem splitClauses_append_comma (left : List Char) {right : List Char}
    (h : closesFirst right = false) :
    splitClauses (left ++ ',' :: right) =
      splitClauses left ++ (splitClauses right).modifyHead trimStart := by
  induction left with
  | nil =>
      rw [show splitClauses [] = [[]] from rfl, List.nil_append, splitClauses, if_pos ⟨rfl, h⟩,
        List.singleton_append]
  | cons c rest ih =>
      have hcomma : closesFirst (',' :: right) = false := by
        rw [closesFirst_cons_of_isBrace_eq_false (by decide), h]
      obtain ⟨head, tail, hrest⟩ := List.exists_cons_of_ne_nil (splitClauses_ne_nil rest)
      rw [List.cons_append, splitClauses, splitClauses, closesFirst_append rest hcomma, ih, hrest]
      split <;> rfl

/-- A clause that joining and cutting leave whole: its commas are sheltered, and it
shelters none before it. -/
structure Separable (clause : List Char) : Prop where
  sheltered : Sheltered clause
  opens : closesFirst clause = false

theorem closesFirst_intercalate {clauses : List (List Char)}
    (h : ∀ clause ∈ clauses, Separable clause) :
    closesFirst ([','].intercalate clauses) = false := by
  induction clauses with
  | nil => rfl
  | cons clause others ih =>
      have hclause := h clause (List.mem_cons_self ..)
      cases others with
      | nil => simpa [List.intercalate] using hclause.opens
      | cons next more =>
          have hmore := ih fun other hother => h other (List.mem_cons_of_mem _ hother)
          rw [List.intercalate_cons_cons, List.append_assoc, closesFirst_append clause]
          · exact hclause.opens
          · rw [List.singleton_append, closesFirst_cons_of_isBrace_eq_false (by decide), hmore]

/-- Clauses joined by commas are cut where they were joined; the blanks after the
commas are lost. -/
theorem splitClauses_intercalate {clause : List Char} {others : List (List Char)}
    (h : ∀ c ∈ clause :: others, Separable c) :
    splitClauses ([','].intercalate (clause :: others)) = clause :: others.map trimStart := by
  induction others generalizing clause with
  | nil =>
      have hclause := h clause (List.mem_cons_self ..)
      simpa [List.intercalate] using splitClauses_of_sheltered hclause.sheltered
  | cons next more ih =>
      have hclause := h clause (List.mem_cons_self ..)
      have hmore : ∀ c ∈ next :: more, Separable c := fun c hc =>
        h c (List.mem_cons_of_mem _ hc)
      rw [List.intercalate_cons_cons, List.append_assoc, List.singleton_append,
        splitClauses_append_comma clause (closesFirst_intercalate hmore),
        splitClauses_of_sheltered hclause.sheltered, ih hmore]
      rfl

end Collate
