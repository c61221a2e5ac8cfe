import Collate.Proofs.RuleText.Repairing

/-!
# Rule texts joined by a comma

Two rule texts can be joined by a comma, whatever faults they have: the rules of the whole are
those of the first text, followed by those of the second one (`Rule.read_joined`).  The second
text must not begin, as far as braces go, with a closing one, because the comma would then be
taken for part of a selector.

## Strategy

A repairing reader takes each clause by itself, so the rules of a list of clauses are those of its
parts (`repairedRules_append`), and blanks around a clause do not matter
(`repairedRules_map_trim`).  A text is trimmed before it is cut, but that moves only blanks at the
ends of its clauses, and a blank text is one blank clause, which has no rule; so the rules of any
text are those of its clauses (`Rule.fst_read_repairing`).  The clauses of the whole are those of
the first text followed by those of the second (`splitClauses_append_comma`).
-/

namespace Collate

open Text

/-! ## The rules of repaired clauses -/

/-- The rules of clauses that are repaired where they need it.  Blank clauses have none. -/
def repairedRules (clauses : List (List Char)) : Except Rule.Error (List Rule) :=
  (clauses.filterMap fun clause => (readClause clause).2).mapM fun outcome =>
    outcome.mapError .invalid

theorem fst_readClauses_repairing (index : Nat) (clauses : List (List Char)) :
    (readClauses .repairing index clauses).1 = repairedRules clauses := by
  induction clauses generalizing index with
  | nil => rfl
  | cons clause others ih =>
      rw [readClauses_repairing_cons, ih]
      unfold repairedRules
      rw [List.filterMap_cons]
      generalize List.filterMap (fun clause => (readClause clause).2) others = outcomes
      cases (readClause clause).2 with
      | none => rfl
      | some outcome =>
          dsimp only
          rw [List.mapM_cons]
          cases outcome with
          | error fault => rfl
          | ok rule =>
              cases outcomes.mapM fun outcome => outcome.mapError Rule.Error.invalid <;> rfl

theorem repairedRules_append (left right : List (List Char)) :
    repairedRules (left ++ right) = do
      let rules ← repairedRules left
      let others ← repairedRules right
      return rules ++ others := by
  rw [repairedRules, List.filterMap_append, List.mapM_append]
  rfl

theorem repairedRules_map_trim (clauses : List (List Char)) :
    repairedRules (clauses.map trim) = repairedRules clauses := by
  simp only [repairedRules, List.filterMap_map, Function.comp_def, readClause_trim]

/-! ## Whole texts -/

/-- The rules of a text are those of its clauses, with or without the blanks around it. -/
theorem Rule.fst_read_repairing (text : String) :
    (Rule.read .repairing text).1 = repairedRules (splitClauses text.toList) := by
  rw [← repairedRules_map_trim, ← map_trim_splitClauses_trim, repairedRules_map_trim, Rule.read]
  split
  · next hblank =>
    rw [trim_eq_nil_iff.mpr hblank]
    rfl
  · exact fst_readClauses_repairing 0 _

/-- The blanks behind the comma belong to no clause, but they would not matter if they did. -/
theorem repairedRules_splitClauses_append_comma (left : List Char) {right : List Char}
    (h : closesFirst right = false) :
    repairedRules (splitClauses (left ++ ',' :: right)) =
      repairedRules (splitClauses left ++ splitClauses right) := by
  have htrim : ((splitClauses right).modifyHead trimStart).map trim =
      (splitClauses right).map trim := by
    obtain ⟨clause, others, hright⟩ := List.exists_cons_of_ne_nil (splitClauses_ne_nil right)
    rw [hright, List.modifyHead_cons, List.map_cons, List.map_cons, trim, trimStart_trimStart, trim]
  rw [splitClauses_append_comma left h, ← repairedRules_map_trim, List.map_append, htrim,
    ← List.map_append, repairedRules_map_trim]

/-- **Joining rule texts joins their rules.**  The rules of two texts with a comma between them are
those of the first text followed by those of the second one, and reading the whole fails exactly
if reading one of them does. -/
theorem Rule.read_joined (first second : String) (h : closesFirst second.toList = false) :
    (Rule.read .repairing (first ++ "," ++ second)).1 = (do
      let rules ← (Rule.read .repairing first).1
      let others ← (Rule.read .repairing second).1
      return rules ++ others) ∧
    ((∃ error, (Rule.read .repairing (first ++ "," ++ second)).1 = .error error) ↔
      (∃ error, (Rule.read .repairing first).1 = .error error) ∨
        ∃ error, (Rule.read .repairing second).1 = .error error) := by
  have htext : (first ++ "," ++ second).toList = first.toList ++ ',' :: second.toList := by
    rw [String.toList_append, String.toList_append, List.append_assoc]
    rfl
  rw [fst_read_repairing, fst_read_repairing, fst_read_repairing, htext,
    repairedRules_splitClauses_append_comma _ h, repairedRules_append]
  refine ⟨rfl, ?_⟩
  cases repairedRules (splitClauses first.toList) with
  | error error => simp [bind, Except.bind]
  | ok rules =>
      cases repairedRules (splitClauses second.toList) with
      | error error => simp [bind, Except.bind]
      | ok others => simp [bind, Except.bind, pure, Except.pure]

/-- The first text opens a brace and ends in commas; the second one has a blank in a key, an empty
segment and a comma at its end. -/
theorem Rule.read_joined_faulty :
    closesFirst " b c,\x7bs\x7d.p..q,".toList = false ∧
      (Rule.read .repairing ("\x7ba, >x ,, " ++ "," ++ " b c,\x7bs\x7d.p..q,")).1.map Rule.textOf =
        .ok "\x7ba\x7d .text, >x, b, \x7bs\x7d .p.q" := by
  have hsecond : closesFirst " b c,\x7bs\x7d.p..q,".toList = false := by rfl
  refine ⟨hsecond, ?_⟩
  rw [(Rule.read_joined _ _ hsecond).1]
  rfl

/-- A closing brace that comes first takes the comma into the selector. -/
example : (Rule.read .repairing "\x7ba,b\x7d c").1.map List.length = .ok 1 := rfl

end Collate
