import Collate.Proofs.RuleText.Agreement

/-!
# Strict reading and the grammar

Rules that are read strictly come from one clause each, and each clause is a sentence
of the grammar for its rule, with one exception (`readStrict_sentences`).  Behind a
selector the reader does not look for opening braces: it ends the key at such a brace
and passes over the rest of the clause without a word, although a clause without a
selector is refused for the same brace.
-/

namespace Collate

open Text

/-- Clauses that are read strictly need no repair, and each of them makes a rule. -/
theorem forall₂_of_readClauses_strict {clauses : List (List Char)} {rules : List Rule}
    {index : Nat} (h : (readClauses .strict index clauses).1 = .ok rules) :
    List.Forall₂ ReadsAs clauses rules := by
  rcases exists_first_repair clauses with ⟨others, hothers⟩ |
    ⟨before, clause, after, others, repair, repairs, rfl, hbefore, hrepair⟩
  · rw [readClauses_of_forall₂ hothers, Except.ok.injEq] at h
    rwa [← h]
  · rw [readClauses_append hbefore, (readClauses_cons_of_repair hrepair _ after).1] at h
    cases h

/-- The clause is a sentence for the rule, but for what the reader passes over: nothing,
or an opening brace behind the selector and all that follows it. -/
def IsSentenceUpTo (passed : List Char) (rule : Rule) (clause : List Char) : Prop :=
  ∃ sentence, trim clause = sentence ++ passed ∧ IsSentence rule sentence ∧
    passed <:+ expressionOf clause ∧
    (passed = [] ∨ passed.head? = some openBrace ∧ rule.selector ≠ none)

theorem IsSentenceUpTo.isSentence {passed clause : List Char} {rule : Rule}
    (h : IsSentenceUpTo passed rule clause) (hopen : openBrace ∉ expressionOf clause) :
    IsSentence rule (trim clause) := by
  obtain ⟨sentence, htext, hsentence, hsuffix, hpassed⟩ := h
  rcases hpassed with rfl | ⟨hhead, -⟩
  · rw [htext, List.append_nil]
    exact hsentence
  · exact absurd (hsuffix.subset (List.mem_of_mem_head? hhead)) hopen

/-- Each clause of a text that is read strictly is a sentence, up to what is passed over. -/
theorem forall₂_isSentenceUpTo {clauses : List (List Char)} {rules : List Rule}
    (hsheltered : ∀ clause ∈ clauses, Sheltered clause)
    (hforall : List.Forall₂ ReadsAs clauses rules) :
    List.Forall₂ (fun clause rule => ∃ passed, IsSentenceUpTo passed rule clause)
      clauses rules := by
  induction hforall with
  | nil => exact .nil
  | @cons clause rule clauses rules hclause hothers ih =>
      rw [List.forall_mem_cons] at hsheltered
      obtain ⟨sentence, passed, hsentence⟩ := exists_sentence_of_readsAs hsheltered.1 hclause
      exact .cons ⟨passed, sentence, hsentence⟩ (ih hsheltered.2)

theorem forall₂_isSentence {clauses : List (List Char)} {rules : List Rule}
    (h : List.Forall₂ (fun clause rule => ∃ passed, IsSentenceUpTo passed rule clause)
      clauses rules)
    (hopen : ∀ clause ∈ clauses, openBrace ∉ expressionOf clause) :
    List.Forall₂ (fun clause rule => IsSentence rule (trim clause)) clauses rules := by
  induction h with
  | nil => exact .nil
  | cons hclause hothers ih =>
      rw [List.forall_mem_cons] at hopen
      obtain ⟨passed, hupTo⟩ := hclause
      exact .cons (hupTo.isSentence hopen.1) (ih hopen.2)

/-- **Strict reading accepts only the grammar, as long as no clause has an opening
brace behind its selector.**  Every clause makes one rule; what is passed over in it is
nothing, or begins with such a brace. -/
theorem Rule.readStrict_sentences {text : String} {rules : List Rule}
    (hread : Rule.readStrict text = .ok rules) (hne : rules ≠ []) :
    List.Forall₂ (fun clause rule => ∃ passed, IsSentenceUpTo passed rule clause)
      (splitClauses (trim text.toList)) rules ∧
    (List.Forall₂ (fun clause rule => IsSentence rule (trim clause))
      (splitClauses (trim text.toList)) rules ↔
      ∀ clause ∈ splitClauses (trim text.toList), openBrace ∉ expressionOf clause) := by
  have hblank : ¬ allBlank text.toList = true := by
    intro hblank
    rw [Rule.readStrict, Rule.read, if_pos hblank] at hread
    cases hread
    exact hne rfl
  rw [Rule.readStrict, Rule.read, if_neg hblank] at hread
  have hsentences := forall₂_isSentenceUpTo
    (fun clause hclause => sheltered_of_mem_splitClauses hclause)
    (forall₂_of_readClauses_strict hread)
  -- conversely, a sentence has no opening brace behind its selector
  refine ⟨hsentences, ?_, forall₂_isSentence hsentences⟩
  intro hforall clause hclause
  obtain ⟨rule, hrule⟩ := exists_of_mem_of_forall₂ hforall hclause
  exact hrule.openBrace_not_mem

/-- Two clauses without an opening brace behind their selectors. -/
theorem Rule.readStrict_sentences_braced_and_path :
    ∃ rules, Rule.readStrict "\x7btd, th\x7d >, .a.b" = .ok rules ∧ rules.length = 2 ∧
      List.Forall₂ (fun clause rule => IsSentence rule (trim clause))
        (splitClauses (trim "\x7btd, th\x7d >, .a.b".toList)) rules := by
  refine ⟨_, rfl, rfl, ?_⟩
  have hread : Rule.readStrict "\x7btd, th\x7d >, .a.b" = .ok _ := rfl
  refine (Rule.readStrict_sentences hread (by simp)).2.mpr ?_
  decide

/-- What follows an opening brace behind a selector is lost: the clause is accepted, and it
is a sentence for no rule. -/
theorem Rule.readStrict_brace_behind_selector :
    (∃ rule, Rule.readStrict "\x7ba\x7d b\x7bc" = .ok [rule]) ∧
    splitClauses (trim "\x7ba\x7d b\x7bc".toList) = ["\x7ba\x7d b\x7bc".toList] ∧
    ∀ rule, ¬ IsSentence rule (trim "\x7ba\x7d b\x7bc".toList) := by
  refine ⟨⟨_, rfl⟩, by decide, ?_⟩
  intro rule hsentence
  exact absurd hsentence.openBrace_not_mem (by decide)

end Collate
