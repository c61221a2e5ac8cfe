import Collate.Proofs.RuleText.Repairing

/-!
# Strict and repairing readers agree

Strict and repairing reading are the same as long as nothing is to be repaired, and strict
reading fails exactly where the other one makes its first repair
(`Rule.readStrict_of_repairs`).

## Strategy

A list of clauses is parted at the first one that needs a repair (`exists_first_repair`).  The
clauses before it are read alike in both modes and leave no trace (`readClauses_append`); at
the clause itself, the first repair is the error of one mode and the first report of the other
(`readClauses_cons_of_repair`).  There is nothing else that a strict reader could fail at, because
a clause that needs no repair always makes a rule (`exists_readsAs`).
-/

namespace Collate

open Text

/-! ## One clause -/

/-- A clause that needs no repair makes a rule. -/
theorem exists_readsAs {clause : List Char} (h : (readClause clause).1 = []) :
    ∃ rule, ReadsAs clause rule := by
  have hblank : ¬ allBlank clause = true := by
    intro hblank
    rw [readClause_of_allBlank hblank] at h
    cases h
  -- marks apart call for a repair, so there are none
  have hmarks : ¬ MarksApart (expressionOf clause) := by
    intro hmarks
    have hrepair := (readDirectedKey_of_marksApart (hasPlainEnds_expressionOf clause) hmarks).1
    rw [readClause, if_neg hblank, readParts_eq, List.append_eq_nil_iff] at h
    rw [h.2] at hrepair
    cases hrepair
  obtain ⟨rule, hrule⟩ := exists_rule_of_readClause hblank hmarks
  exact ⟨rule, Prod.ext h hrule⟩

/-- A clause that needs no repair is a text that is read strictly. -/
theorem ReadsAs.readStrict {clause : List Char} {rule : Rule} (h : ReadsAs clause rule)
    (hsheltered : Sheltered clause) : Rule.readStrict (String.ofList clause) = .ok [rule] := by
  have hclauses : List.Forall₂ ReadsAs (splitClauses clause) [rule] := by
    rw [splitClauses_of_sheltered hsheltered]
    exact .cons h .nil
  rw [Rule.readStrict, Rule.read_of_forall₂ hclauses]

/-! ## The first repair -/

/-- Either no clause needs a repair, or there is a first one that does. -/
theorem exists_first_repair (clauses : List (List Char)) :
    (∃ rules, List.Forall₂ ReadsAs clauses rules) ∨
      ∃ before clause after rules repair repairs, clauses = before ++ clause :: after ∧
        List.Forall₂ ReadsAs before rules ∧ (readClause clause).1 = repair :: repairs := by
  induction clauses with
  | nil => exact .inl ⟨[], .nil⟩
  | cons clause others ih =>
      cases hrepairs : (readClause clause).1 with
      | cons repair repairs =>
          exact .inr ⟨[], clause, others, [], repair, repairs, rfl, .nil, hrepairs⟩
      | nil =>
          obtain ⟨rule, hrule⟩ := exists_readsAs hrepairs
          rcases ih with ⟨rules, hrules⟩ |
            ⟨before, repaired, after, rules, repair, repairs, rfl, hbefore, hrepaired⟩
          · exact .inl ⟨rule :: rules, .cons hrule hrules⟩
          · exact .inr ⟨clause :: before, repaired, after, rule :: rules, repair, repairs, rfl,
              .cons hrule hbefore, hrepaired⟩

/-- At a clause that needs a repair, a strict reader fails by the report that a repairing reader
makes first. -/
theorem readClauses_cons_of_repair {clause : List Char} {repair : Repair} {repairs : List Repair}
    (h : (readClause clause).1 = repair :: repairs) (index : Nat) (after : List (List Char)) :
    readClauses .strict index (clause :: after) =
        (.error (.malformed ⟨index, String.ofList clause, repair⟩), []) ∧
      (readClauses .repairing index (clause :: after)).2.head? =
        some ⟨index, String.ofList clause, repair⟩ := by
  rw [readClauses, readClauses]
  cases hread : readClause clause with
  | mk found outcome =>
    rw [hread] at h
    obtain rfl : found = repair :: repairs := h
    refine ⟨rfl, ?_⟩
    cases outcome with
    | none => rfl
    | some outcome => cases outcome <;> rfl

/-! ## Whole texts -/

theorem Rule.read_eq_readClauses (mode : Strictness) {text : String}
    (hblank : ¬ allBlank text.toList = true) :
    Rule.read mode text = readClauses mode 0 (splitClauses (trim text.toList)) := by
  rw [Rule.read, if_neg hblank]

/-- **Strict reading succeeds exactly where repairing makes no repair**, and then reads the same
rules.  Elsewhere it fails by the first repair that repairing makes: at this clause of the text,
while each clause before it can be read strictly by itself. -/
theorem Rule.readStrict_of_repairs (text : String) :
    ((∃ rules, Rule.readStrict text = .ok rules) ↔ (Rule.read .repairing text).2 = []) ∧
    ((Rule.read .repairing text).2 = [] →
      Rule.read .strict text = Rule.read .repairing text) ∧
    ∀ first later, (Rule.read .repairing text).2 = first :: later →
      Rule.readStrict text = .error (.malformed first) ∧
      (splitClauses (trim text.toList))[first.index]? = some first.clause.toList ∧
      ∀ clause ∈ (splitClauses (trim text.toList)).take first.index,
        ∃ rule, Rule.readStrict (String.ofList clause) = .ok [rule] := by
  by_cases hblank : allBlank text.toList = true
  · have hread : ∀ mode, Rule.read mode text = (.ok [], []) := fun mode => if_pos hblank
    simp [Rule.readStrict, hread]
  have hsheltered : ∀ clause ∈ splitClauses (trim text.toList), Sheltered clause :=
    fun clause hclause => sheltered_of_mem_splitClauses hclause
  rw [Rule.readStrict, read_eq_readClauses _ hblank, read_eq_readClauses _ hblank]
  rcases exists_first_repair (splitClauses (trim text.toList)) with ⟨rules, hrules⟩ |
    ⟨before, clause, after, rules, repair, repairs, hclauses, hbefore, hrepair⟩
  · simp [readClauses_of_forall₂ hrules]
  · -- both modes come to the first clause that needs a repair
    obtain ⟨hstrict, hrepairing⟩ :=
      readClauses_cons_of_repair hrepair (0 + before.length) after
    rw [hclauses] at hsheltered ⊢
    rw [readClauses_append hbefore, readClauses_append hbefore, hstrict]
    refine ⟨⟨?_, ?_⟩, ?_, ?_⟩
    · rintro ⟨rules, hrules⟩
      cases hrules
    · intro hnil
      rw [hnil] at hrepairing
      cases hrepairing
    · intro hnil
      rw [hnil] at hrepairing
      cases hrepairing
    · intro first later hfirst
      rw [hfirst, List.head?_cons, Option.some.injEq, Nat.zero_add] at hrepairing
      subst hrepairing
      refine ⟨?_, by simp, ?_⟩
      · rw [Nat.zero_add]
        rfl
      · intro earlier hearlier
        rw [List.take_left] at hearlier
        obtain ⟨rule, hrule⟩ := exists_of_mem_of_forall₂ hbefore hearlier
        exact ⟨rule, hrule.readStrict
          (hsheltered earlier (List.mem_append_left _ hearlier))⟩

/-- The second of three clauses has a blank in its key. -/
theorem Rule.readStrict_of_repairs_blank_in_key :
    Rule.readStrict "a, \x7bb, c\x7d d e, \x7b\x7d" =
      .error (.malformed ⟨1, "\x7bb, c\x7d d e", .blankInKey⟩) := by
  have hrepairs : (Rule.read .repairing "a, \x7bb, c\x7d d e, \x7b\x7d").2 =
      ⟨1, "\x7bb, c\x7d d e", .blankInKey⟩ :: [⟨2, "\x7b\x7d", .emptySelector⟩] := by
    rfl
  obtain ⟨-, -, hfirst⟩ := Rule.readStrict_of_repairs "a, \x7bb, c\x7d d e, \x7b\x7d"
  exact (hfirst _ _ hrepairs).1

end Collate
