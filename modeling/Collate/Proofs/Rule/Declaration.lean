import Collate.Rule.Basic

/-!
# Declaring rules

`Rule.declare` accepts exactly the parts that make a rule: a legal key, and a selector
without braces, which it tidies (`declare_eq_ok_iff`).  So every rule is what its own
parts declare (`declare_parts`), and unchecked parts fail by their key first, then by
their selector.
-/

namespace Collate.Rule

open Text

variable {key : Key} {selector : Option String} {descending : Bool}

/-- A key with a fault is reported before anything else. -/
theorem declare_of_fault {fault : Fault} (h : key.fault? = some fault) (selector : Option String)
    (descending : Bool) : declare key selector descending = .error fault := by
  unfold declare
  split
  · next found hfound =>
    rw [h, Option.some.injEq] at hfound
    rw [hfound]
  · next hnone =>
    rw [h] at hnone
    cases hnone

/-- A rule is declared by its key, its direction, and any selector without braces that
tidies to its own. -/
theorem declare_eq_ok_iff {rule : Rule} :
    declare key selector descending = .ok rule ↔
      (∀ text ∈ selector, text.toList.any isBrace = false) ∧ rule.key = key ∧
        rule.selector = selector.bind tidySelector ∧ rule.descending = descending := by
  constructor
  · intro h
    unfold declare at h
    split at h
    · cases h
    · split at h
      · cases h
        exact ⟨by simp, rfl, rfl, rfl⟩
      · next text =>
        split at h
        · cases h
        · next hbrace =>
          cases h
          refine ⟨?_, rfl, rfl, rfl⟩
          rintro other ⟨⟩
          simpa using hbrace
  · rintro ⟨hbrace, hkey, hselector, hdescending⟩
    obtain ⟨ruleKey, ruleSelector, ruleDescending, key_legal, selector_legal⟩ := rule
    simp only at hkey hselector hdescending
    subst hkey hselector hdescending
    have hnone : ruleKey.fault? = none := (Key.fault?_eq_none_iff _).mpr key_legal
    unfold declare
    split
    · next found hfound =>
      rw [hnone] at hfound
      cases hfound
    · cases selector with
      | none => rfl
      | some text =>
          dsimp only
          rw [dif_neg (by simpa using hbrace text rfl)]
          rfl

/-- A legal selector is tidy. -/
theorem tidySelector_of_legal {text : String} (h : LegalSelector text) :
    tidySelector text = some text := by
  obtain ⟨hne, htrim, -⟩ := h
  rw [tidySelector, if_neg (by rwa [htrim]), trimmed, htrim, String.ofList_toList]

/-- A rule is what its parts declare. -/
theorem declare_parts (rule : Rule) :
    declare rule.key rule.selector rule.descending = .ok rule := by
  refine declare_eq_ok_iff.mpr ⟨fun text htext => ?_, rfl, ?_, rfl⟩
  · exact (rule.selector_legal text htext).2.2
  · cases hselector : rule.selector with
    | none => rfl
    | some text => exact (tidySelector_of_legal (rule.selector_legal text hselector)).symm

/-- Legal parts declare a rule. -/
theorem exists_declare (hkey : key.Legal)
    (hbrace : ∀ text ∈ selector, text.toList.any isBrace = false) (descending : Bool) :
    ∃ rule, declare key selector descending = .ok rule := by
  have hselector : ∀ text ∈ selector.bind tidySelector, LegalSelector text := by
    intro text htext
    obtain ⟨original, horiginal, htidy⟩ := Option.mem_bind_iff.mp htext
    exact tidySelector_legal (hbrace original horiginal) text htidy
  exact ⟨⟨key, selector.bind tidySelector, descending, hkey, hselector⟩,
    declare_eq_ok_iff.mpr ⟨hbrace, rfl, rfl, rfl⟩⟩

end Collate.Rule
