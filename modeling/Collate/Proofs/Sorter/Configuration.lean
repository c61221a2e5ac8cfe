import Collate.Proofs.RuleText.RoundTrip
import Collate.Proofs.Sorter.Session

/-!
# The rules of a sorter at work

Only assignments change the rules of a sorter: after any steps they are those of the last
assignment that denoted any, or those the sorter was made with (`Session.rules_after`).

An assignment is all or nothing.  All of its rules are known before the first thing changes; then
they replace those of the sorter, and this is announced once.  If they do not denote rules, there
is a failure, and nothing has changed and nobody is told.  So a sorter always has rules, its rule
text is theirs, and to assign that text changes nothing (`Session.configuration_of_steps`).
-/

namespace Collate

open Sorter

variable {α : Type}

/-! ## Assignments -/

namespace Sorter

/-- A payload that denotes no rule spoils the list that it stands in, wherever it stands. -/
theorem exists_denoted_eq_error {items : List Payload}
    (h : ∃ payload ∈ items, ∃ fault, Rule.ofMapping payload = .error fault) :
    ∃ fault, (Assignment.payloads (.list items)).denoted = .error fault := by
  obtain ⟨fault, hfault⟩ := exists_mapM_eq_error h
  refine ⟨.list (.item fault), ?_⟩
  show ((items.mapM Rule.ofMapping).mapError Rule.ListFault.item).mapError SorterFault.list = _
  rw [hfault]
  rfl

theorem denoted_rulesText (sorter : Sorter α) :
    (Assignment.text sorter.rulesText).denoted = .ok sorter.rules := by
  have hread : (Rule.read? .repairing (some sorter.rulesText)).1 = .ok sorter.rules :=
    congrArg Prod.fst (Rule.read_textOf .repairing sorter.rules)
  show (Rule.read? .repairing (some sorter.rulesText)).1.mapError SorterFault.rule = _
  rw [hread]
  rfl

end Sorter

/-! ## Steps -/

namespace Session

variable [DecidableEq α]

/-- **Whatever is done with a sorter, its rules are those assigned last**, or those it was made
with: it has at least one, its rule text is read strictly as them, and to assign that text leaves
them as they are.  An assignment of rules replaces them and is announced once, with the rules that
there are now; only the announcement can fail then.  An assignment that denotes no rules, as it
has a payload somewhere that denotes none or a text whose parts make none, fails and changes
nothing but the journal. -/
theorem configuration_of_steps {reader : ItemReader} {payload : Option Payload}
    {text : Option String} {options : CompareOptions} {capacity : Int} {outlet : Outlet}
    {made : Sorter α} (hmade : establish reader payload text options capacity outlet = .ok made)
    (hub : Hub (Announcement α)) (steps : List (Step α)) :
    let sorter := (Session.after ⟨{ made with hub }, []⟩ steps).sorter
    (∃ rules, (Assignment.given payload text).denoted = .ok rules ∧
      sorter.rules = steps.foldl Step.rulesAfter (orDefaults rules).1) ∧
    sorter.rules ≠ [] ∧
    Rule.readStrict sorter.rulesText = .ok sorter.rules ∧
    (assign (.text sorter.rulesText) sorter).2.rules = sorter.rules ∧
    (∀ assignment rules, assignment.denoted = .ok rules → ∃ published later,
      assign assignment sorter = (published.mapError .failure, later) ∧
      later.rules = (orDefaults rules).1 ∧ later.options = sorter.options ∧
      Hub.publish ⟨"rules_changed", .rulesChanged later.rules⟩ sorter.hub =
        (published, later.hub)) ∧
    (∀ assignment fault, assignment.denoted = .error fault → ∃ journal,
      assign assignment sorter = (.error fault, { sorter with bulletin.journal := journal })) ∧
    (∀ items, (∃ payload ∈ items, ∃ fault, Rule.ofMapping payload = .error fault) →
      ∃ fault, (Assignment.payloads (.list items)).denoted = .error fault) := by
  intro sorter
  refine ⟨?_, sorter.rules_ne_nil, ?_, ?_, ?_, ?_, fun items => exists_denoted_eq_error⟩
  · obtain ⟨rules, hrules, hcreate⟩ := exists_of_establish hmade
    refine ⟨rules, hrules, ?_⟩
    show (Session.after _ steps).sorter.rules = _
    rw [rules_after, hcreate]
    rfl
  · -- the rule text is written from the rules, so it is read as them
    exact congrArg Prod.fst (Rule.read_textOf .strict sorter.rules)
  · rw [assign_of_denoted_eq_ok sorter.denoted_rulesText, setRules_apply, onHub_apply]
    exact orDefaults_of_ne_nil sorter.rules_ne_nil
  · intro assignment rules hdenoted
    have hassign := assign_of_denoted_eq_ok hdenoted sorter
    rw [setRules_apply, onHub_apply] at hassign
    exact ⟨_, _, hassign, rfl, rfl, rfl⟩
  · intro assignment fault hdenoted
    obtain ⟨journal, hjournal⟩ := exists_recordRepairs_eq sorter.bulletin assignment.repairs
    refine ⟨journal, ?_⟩
    rw [assign_of_denoted_eq_error hdenoted, withRepairs, hjournal]

/-- A sorter that is made without rules gets one, sorts, and then is to have a list of two, of
which the second is none: it keeps the one it has. -/
theorem configuration_of_steps_refused :
    let first : Rule := ⟨.path ["x"], none, true, by decide, by simp⟩
    let refused : List Payload := [.mapping [("key", .text "y")], .null]
    let steps : List (Step Nat) :=
      [.assign (.rules [first]), .sort (fun k => .int k) [2, 1],
        .assign (.payloads (.list refused))]
    ∃ made, establish .plain none none {} 5 .journal = .ok made ∧
      (Session.after ⟨made, []⟩ steps).sorter.rules = [first] ∧
      Rule.readStrict (Session.after ⟨made, []⟩ steps).sorter.rulesText = .ok [first] := by
  intro first refused steps
  have hmade : ∃ made : Sorter Nat, establish .plain none none {} 5 .journal = .ok made :=
    ⟨_, rfl⟩
  obtain ⟨made, hmade⟩ := hmade
  obtain ⟨⟨rules, -, hrules⟩, -, hread, -, -, -, hrefused⟩ :=
    configuration_of_steps hmade made.hub steps
  obtain ⟨fault, hfault⟩ := hrefused refused
    ⟨.null, by simp [refused], _, rfl⟩
  -- the refused assignment leaves the rule of the first one
  have hfirst : steps.foldl Step.rulesAfter (orDefaults rules).1 = [first] := by
    show Step.rulesAfter (orDefaults [first]).1
      (.assign (.payloads (.list refused)) : Step Nat) = [first]
    rw [orDefaults_of_ne_nil (List.cons_ne_nil first [])]
    simp only [Step.rulesAfter, hfault]
  rw [hrules, hfirst] at hread
  exact ⟨made, hmade, hrules.trans hfirst, hread⟩

end Session

end Collate
