import Mathlib.Data.List.Forall2
import Collate.Proofs.RuleText.Parts

/-!
# Writing rules and reading them again

Rule text for a list of rules is read as that list, strictly or repairing, and no
repair is needed (`read_textOf`).  The clauses are found again because the text of a
rule is separable: the commas of its selector are sheltered by the closing brace, and
the first brace after a separating comma opens a selector, in whichever later clause
it stands.
-/

namespace Collate

open Text

/-! ## Sentences are separable -/

theorem separable_of_forall {text : List Char} (hbrace : ∀ c ∈ text, isBrace c = false)
    (hcomma : ',' ∉ text) : Separable text where
  sheltered := sheltered_of_not_mem hcomma
  opens := closesFirst_eq_false_of_not_mem fun hmem => absurd (hbrace _ hmem) (by decide)

/-- A separable text stays so with more text behind it that is separable. -/
theorem Separable.append {left right : List Char} (hleft : Separable left)
    (hright : Separable right) : Separable (left ++ right) where
  sheltered := sheltered_append hleft.sheltered hright.sheltered
  opens := by
    by_cases hany : left.any isBrace = true
    · rw [closesFirst_append_of_any hany, hleft.opens]
    · rw [closesFirst_append_of_any_eq_false (by simpa using hany), hright.opens]

theorem separable_of_allBlank {gap : List Char} (h : allBlank gap = true) : Separable gap :=
  separable_of_forall (fun c hc => isBrace_eq_false_of_isBlank (allBlank_iff.mp h c hc))
    fun hmem => absurd (allBlank_iff.mp h _ hmem) (by decide)

theorem WritesSelector.separable {selector : Option String} {written : List Char}
    (h : WritesSelector selector written) : Separable written := by
  cases h with
  | none => exact separable_of_forall (by simp) (by simp)
  | @braced inner gap hbrace hblank hgap =>
      have hbraced : Separable (openBrace :: (inner ++ [closeBrace])) := by
        refine ⟨sheltered_cons.mpr ⟨?_, sheltered_append_closeBrace hbrace⟩, rfl⟩
        exact fun h => absurd h (by decide)
      have happend := hbraced.append (separable_of_allBlank hgap)
      rwa [List.cons_append, List.append_assoc, List.singleton_append, ← List.cons_append]
        at happend

theorem WritesDirection.separable {descending : Bool} {written : List Char}
    (h : WritesDirection descending written) : Separable written := by
  refine separable_of_forall h.forall_isBrace ?_
  cases h with
  | ascending => simp
  | descending hgap =>
      rw [List.mem_cons, not_or]
      exact ⟨by decide, fun hmem => absurd (allBlank_iff.mp hgap _ hmem) (by decide)⟩

theorem WritesKey.separable {key : Key} {written : List Char} (h : WritesKey key written) :
    Separable written :=
  separable_of_forall
    (fun c hc => isBrace_eq_false_of_isReserved (h.forall_isReserved c hc))
    fun hmem => absurd (h.forall_isReserved _ hmem) (by decide)

theorem IsSentence.separable {rule : Rule} {text : List Char} (h : IsSentence rule text) :
    Separable text := by
  obtain ⟨braced, direction, written, rfl, hselector, hdirection, hkey⟩ := h
  exact (hselector.separable.append hdirection.separable).append hkey.separable

/-! ## The text of a rule -/

theorem Key.text_ne_nil {key : Key} (h : key.Legal) : key.text.toList ≠ [] := by
  cases key with
  | named name => exact h.1
  | path segments =>
      obtain ⟨segment, others, rfl⟩ := List.exists_cons_of_ne_nil h.1
      simp [Key.text, String.toList_join]

/-- Nothing is to be trimmed off the text of a rule. -/
theorem Rule.hasPlainEnds_text (rule : Rule) : HasPlainEnds rule.text.toList := by
  have hkey := (writesKey_text rule.key_legal).hasPlainEnds
  obtain ⟨front, htext, hfront⟩ : ∃ front, rule.text.toList = front ++ rule.key.text.toList ∧
      ∀ d ∈ front.head?, isBlank d = false := by
    refine ⟨writtenSelector rule.selector ++ writtenDirection rule.descending,
      rule.toList_text, ?_⟩
    cases rule.selector <;> cases rule.descending <;>
      simp [writtenSelector, writtenDirection] <;> decide
  rw [htext]
  constructor
  · -- the key is the start of the text only where nothing is written before it
    rw [List.head?_append]
    cases hhead : front.head? with
    | none => exact hkey.1
    | some d =>
        rintro other ⟨⟩
        exact hfront d hhead
  · intro d hd
    rw [List.getLast?_append_of_ne_nil _ (Key.text_ne_nil rule.key_legal)] at hd
    exact hkey.2 d hd

theorem Rule.text_ne_nil (rule : Rule) : rule.text.toList ≠ [] := by
  have hkey := Key.text_ne_nil rule.key_legal
  rw [Rule.text, String.toList_append]
  exact fun hnil => hkey (List.append_eq_nil_iff.mp hnil).2

/-- The text of a rule is read as the rule. -/
theorem Rule.readsAs_text (rule : Rule) : ReadsAs rule.text.toList rule := by
  have htrim := trim_of_hasPlainEnds rule.hasPlainEnds_text
  refine readsAs_of_isSentence ?_ (by rw [htrim]; exact isSentence_text rule)
  rw [Bool.eq_false_iff, ne_eq, ← trim_eq_nil_iff, htrim]
  exact rule.text_ne_nil

/-! ## Lists of clauses -/

theorem exists_of_mem_of_forall₂ {α β : Type} {relates : α → β → Prop} {left : List α}
    {right : List β} (h : List.Forall₂ relates left right) {x : α} (hmem : x ∈ left) :
    ∃ y, relates x y := by
  obtain ⟨index, hindex, rfl⟩ := List.mem_iff_getElem.mp hmem
  exact ⟨_, h.get hindex (h.length_eq ▸ hindex)⟩

/-- Clauses that need no repair are read as their rules, in either mode, and leave no trace in
what is read behind them. -/
theorem readClauses_append {clauses : List (List Char)} {rules : List Rule}
    (h : List.Forall₂ ReadsAs clauses rules) (mode : Strictness) (index : Nat)
    (others : List (List Char)) :
    readClauses mode index (clauses ++ others) =
      ((readClauses mode (index + clauses.length) others).1.map (rules ++ ·),
        (readClauses mode (index + clauses.length) others).2) := by
  induction h generalizing index with
  | nil =>
      rw [List.nil_append, List.length_nil, Nat.add_zero]
      obtain ⟨outcome, later⟩ := readClauses mode index others
      cases outcome <;> rfl
  | @cons clause rule clauses rules hclause _ ih =>
      have hnext : index + 1 + clauses.length = index + (clause :: clauses).length := by
        rw [List.length_cons]
        omega
      rw [List.cons_append, readClauses, hclause]
      simp only [List.map_nil, ih, hnext]
      cases mode <;> cases (readClauses _ _ others).1 <;> rfl

theorem readClauses_of_forall₂ {clauses : List (List Char)} {rules : List Rule}
    (h : List.Forall₂ ReadsAs clauses rules) (mode : Strictness) (index : Nat) :
    readClauses mode index clauses = (.ok rules, []) := by
  have hread := readClauses_append h mode index []
  rw [List.append_nil, readClauses] at hread
  rw [hread, Except.map, List.append_nil]

/-- Blanks around clauses do not matter for their rules. -/
theorem forall₂_readsAs_map_trim {clauses : List (List Char)} {rules : List Rule} :
    List.Forall₂ ReadsAs (clauses.map trim) rules ↔ List.Forall₂ ReadsAs clauses rules := by
  rw [List.forall₂_map_left_iff]
  simp only [readsAs_trim_iff]

/-- A text whose clauses need no repair is read as their rules, in either mode. -/
theorem Rule.read_of_forall₂ {text : List Char} {rules : List Rule}
    (h : List.Forall₂ ReadsAs (splitClauses text) rules) (mode : Strictness) :
    Rule.read mode (String.ofList text) = (.ok rules, []) := by
  rw [← forall₂_readsAs_map_trim, ← map_trim_splitClauses_trim, forall₂_readsAs_map_trim] at h
  have hblank : ¬ allBlank text = true := by
    rw [← trim_eq_nil_iff]
    intro hnil
    rw [hnil] at h
    cases h with
    | cons hclause => cases hclause
  rw [Rule.read, String.toList_ofList, if_neg hblank]
  exact readClauses_of_forall₂ h mode 0

/-- Joining by a comma and a blank is joining by a comma, with a blank before all
clauses but the first. -/
theorem intercalate_comma_blank (clause : List Char) (others : List (List Char)) :
    [',', ' '].intercalate (clause :: others) =
      [','].intercalate (clause :: others.map (' ' :: ·)) := by
  induction others generalizing clause with
  | nil => rfl
  | cons next more ih =>
      rw [List.map_cons, List.intercalate_cons_cons, List.intercalate_cons_cons, ih]
      cases more <;> simp [List.intercalate_cons_cons]

theorem hasPlainEnds_intercalate {clause : List Char} {others : List (List Char)}
    (h : ∀ c ∈ clause :: others, c ≠ [] ∧ HasPlainEnds c) (separator : List Char) :
    separator.intercalate (clause :: others) ≠ [] ∧
      HasPlainEnds (separator.intercalate (clause :: others)) := by
  induction others generalizing clause with
  | nil => simpa [List.intercalate] using h clause (List.mem_cons_self ..)
  | cons next more ih =>
      obtain ⟨hne, hends⟩ := h clause (List.mem_cons_self ..)
      obtain ⟨hmorene, hmore⟩ := ih fun c hc => h c (List.mem_cons_of_mem _ hc)
      rw [List.intercalate_cons_cons]
      exact ⟨List.append_ne_nil_of_right_ne_nil _ hmorene,
        hends.append_append hmore hne hmorene separator⟩

/-! ## Rule text -/

theorem Rule.toList_textOf (rules : List Rule) :
    (Rule.textOf rules).toList = [',', ' '].intercalate (rules.map fun rule => rule.text.toList) := by
  rw [Rule.textOf, String.toList_intercalate, List.map_map]
  rfl

/-- The clauses of rule text are the texts of its rules. -/
theorem Rule.splitClauses_textOf (rule : Rule) (others : List Rule) :
    splitClauses (trim (Rule.textOf (rule :: others)).toList) =
      (rule :: others).map fun rule => rule.text.toList := by
  have hplain : ∀ c ∈ rule.text.toList :: others.map (fun rule => rule.text.toList),
      c ≠ [] ∧ HasPlainEnds c := by
    rw [← List.map_cons (f := fun rule : Rule => rule.text.toList)]
    intro c hc
    obtain ⟨member, -, rfl⟩ := List.mem_map.mp hc
    exact ⟨member.text_ne_nil, member.hasPlainEnds_text⟩
  have hseparable : ∀ c ∈ rule.text.toList ::
      (others.map fun rule => rule.text.toList).map (' ' :: ·), Separable c := by
    intro c hc
    rcases List.mem_cons.mp hc with rfl | hc
    · exact (isSentence_text rule).separable
    · obtain ⟨text, htext, rfl⟩ := List.mem_map.mp hc
      obtain ⟨member, -, rfl⟩ := List.mem_map.mp htext
      have hblank : Separable [' '] := separable_of_allBlank (by decide)
      exact hblank.append (isSentence_text member).separable
  -- cutting takes away the blank behind each comma, and nothing else
  have htrim : ∀ text ∈ others.map (fun rule => rule.text.toList),
      trimStart (' ' :: text) = text := by
    intro text htext
    obtain ⟨member, -, rfl⟩ := List.mem_map.mp htext
    have hblank : allBlank [' '] = true := by decide
    have hstart := trimStart_append hblank member.text.toList
    rwa [trimStart_eq_self_iff.mpr member.hasPlainEnds_text.1] at hstart
  rw [Rule.toList_textOf, List.map_cons,
    trim_of_hasPlainEnds (hasPlainEnds_intercalate hplain _).2, intercalate_comma_blank,
    splitClauses_intercalate hseparable, List.map_map]
  exact congrArg _ ((List.map_congr_left (g := id) htrim).trans (List.map_id _))

/-- **Rule text is read as the rules that it was written for**, in either mode, and
without a repair. -/
theorem Rule.read_textOf (mode : Strictness) (rules : List Rule) :
    Rule.read mode (Rule.textOf rules) = (.ok rules, []) := by
  cases rules with
  | nil => rfl
  | cons rule others =>
      have hforall : List.Forall₂ ReadsAs ((rule :: others).map fun rule => rule.text.toList)
          (rule :: others) := by
        rw [List.forall₂_map_left_iff, List.forall₂_same]
        exact fun member _ => member.readsAs_text
      have hblank : ¬ allBlank (Rule.textOf (rule :: others)).toList = true := by
        rw [← trim_eq_nil_iff]
        intro hnil
        have hsplit := Rule.splitClauses_textOf rule others
        rw [hnil] at hsplit
        have hfirst : ([] : List Char) = rule.text.toList := (List.cons.inj hsplit).1
        exact rule.text_ne_nil hfirst.symm
      rw [Rule.read, if_neg hblank, Rule.splitClauses_textOf]
      exact readClauses_of_forall₂ hforall mode 0

/-- Rules can be written and read again, strictly or repairing, without a repair.  So
different lists of rules have different texts. -/
theorem Rule.textOf_roundTrip :
    (∀ rules : List Rule, Rule.read .strict (Rule.textOf rules) = (.ok rules, []) ∧
      Rule.read .repairing (Rule.textOf rules) = (.ok rules, [])) ∧
    Function.Injective Rule.textOf := by
  refine ⟨fun rules => ⟨Rule.read_textOf .strict rules, Rule.read_textOf .repairing rules⟩, ?_⟩
  intro rules others htext
  have hread := Rule.read_textOf .strict rules
  rw [htext, Rule.read_textOf .strict others] at hread
  exact (Except.ok.inj (Prod.mk.inj hread).1).symm

end Collate
