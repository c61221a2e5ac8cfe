import Collate.Lookup.Resolve
import Collate.Proofs.Comparison.Deciding
import Collate.Proofs.Lookup.Entry
import Collate.Proofs.Lookup.Spared

/-!
# Turning a comparison around

Reversing a comparison and turning every rule around are the same
(`compareByRules_reversed`).  Either turns the answer around, whatever values there are and even
if they have no order, with one exception: where the deciding rule has exactly one value that is
missing, that value comes last in either direction, and the answer stays as it is.

## Strategy

The deciding rule does not depend on any direction, so only the answer of a single rule has to be
turned around (`preference_not`).  A comparison of two values that fails does so in either
direction, so failures need no exception.
-/

namespace Collate

/-! ## Directions -/

/-- The rule in this direction. -/
def Rule.directed (rule : Rule) (descending : Bool) : Rule := { rule with descending }

/-- The rule in the other direction. -/
def Rule.turned (rule : Rule) : Rule := rule.directed !rule.descending

/-- The values that rules find do not depend on the directions of the rules. -/
def IgnoresDirection {α : Type} (value : α → Rule → Value) : Prop :=
  ∀ item rule descending, value item (rule.directed descending) = value item rule

/-- What a reader finds does not depend on any direction. -/
theorem ItemReader.ignoresDirection_valueOf (reader : ItemReader) :
    IgnoresDirection reader.valueOf := fun _ _ _ => rfl

/-! ## The answer of the deciding rule -/

/-- Turning a rule around turns its answer around, unless exactly one value is missing. -/
theorem preference_not (flipped : Bool) (x y : Value) :
    preference (!flipped) x y =
      if x.isMissing = y.isMissing then (preference flipped x y).map Neg.neg
      else preference flipped x y := by
  cases hx : x.isMissing with
  | true =>
      rw [preference_of_missing _ (.inl hx), preference_of_missing _ (.inl hx),
        weight_of_missing_left _ hx, weight_of_missing_left _ hx]
      cases y.isMissing <;> rfl
  | false =>
      cases hy : y.isMissing with
      | true =>
          rw [preference_of_missing _ (.inr hy), preference_of_missing _ (.inr hy),
            weight_of_missing_right _ hy, weight_of_missing_right _ hy, hx]
          rfl
      | false =>
          rw [preference_of_present _ hx hy, preference_of_present _ hx hy]
          -- the lesser of two values is looked for in the same way in both directions
          cases Value.same x y with
          | true => rfl
          | false =>
              cases Value.lesser x y with
              | error failure => rfl
              | ok lesser => cases lesser <;> cases flipped <;> rfl

section Judged

variable {α : Type} {value : α → Rule → Value}

theorem decidingRule_map_turned (hdirection : IgnoresDirection value) (rules : List Rule)
    (x y : α) :
    decidingRule value (rules.map Rule.turned) x y =
      (decidingRule value rules x y).map Rule.turned := by
  induction rules with
  | nil => rfl
  | cons rule rest ih =>
      rw [List.map_cons, decidingRule_cons, decidingRule_cons, Rule.turned, hdirection, hdirection,
        ih]
      split <;> rfl

/-- Turning every rule around is the same as comparing in reverse. -/
theorem judged_map_turned (hdirection : IgnoresDirection value) (reverse : Bool)
    (rules : List Rule) (x y : α) :
    judged value reverse (rules.map Rule.turned) x y = judged value (!reverse) rules x y := by
  rw [judged_eq_preference, judged_eq_preference, decidingRule_map_turned hdirection]
  cases decidingRule value rules x y with
  | none => rfl
  | some rule =>
      -- the rule and the comparison are turned around in the same place
      have hflipped : (reverse != rule.turned.descending) = ((!reverse) != rule.descending) := by
        show (reverse != !rule.descending) = _
        cases reverse <;> cases rule.descending <;> rfl
      rw [Option.map_some, Option.elim_some, Option.elim_some, hflipped, Rule.turned, hdirection,
        hdirection]

/-- Comparing in reverse turns the answer around, unless the deciding rule has exactly one value
that is missing. -/
theorem judged_not (value : α → Rule → Value) (reverse : Bool) (rules : List Rule) (x y : α) :
    judged value (!reverse) rules x y =
      if (decidingRule value rules x y).all fun rule =>
          (value x rule).isMissing == (value y rule).isMissing
      then (judged value reverse rules x y).map Neg.neg
      else judged value reverse rules x y := by
  rw [judged_eq_preference, judged_eq_preference]
  cases decidingRule value rules x y with
  | none => rfl
  | some rule =>
      have hflipped : ((!reverse) != rule.descending) = !(reverse != rule.descending) := by
        cases reverse <;> cases rule.descending <;> rfl
      simp only [Option.elim_some, Option.all_some, beq_iff_eq]
      rw [hflipped, preference_not]

end Judged

/-! ## Comparisons -/

section Compare

variable {outlet : Outlet} {value : Value → Rule → Value} {lookup : Value → Rule → Reporting Value}

open Reporting

/-- **Reversing a comparison is turning every rule around, and never moves missing values.**  The
answer in reverse is that of the rules turned around.  It is the answer with its sign changed,
unless the first rule on which the items do not tie has exactly one value that is missing; then it
is the same answer.  If the values cannot be compared, that holds of the failure. -/
theorem compareByRules_reversed (rules : List Rule) {a b : Value}
    (ha : ∀ rule, (lookup a rule).Returns outlet (value a rule))
    (hb : ∀ rule, (lookup b rule).Returns outlet (value b rule))
    (hdirection : IgnoresDirection value) :
    ∃ forth back : Except Failure Int,
      (compareByRules lookup false a b rules).Concludes outlet forth ∧
      (compareByRules lookup true a b rules).Concludes outlet back ∧
      (compareByRules lookup false a b (rules.map Rule.turned)).Concludes outlet back ∧
      ((∃ rule, decidingRule value rules a b = some rule ∧
        (value a rule).isMissing ≠ (value b rule).isMissing) → back = forth) ∧
      ((∀ rule, decidingRule value rules a b = some rule →
        (value a rule).isMissing = (value b rule).isMissing) → back = forth.map Neg.neg) ∧
      ((∀ rule ∈ rules, (value a rule).Answerable (value b rule)) →
        ∃ answer, forth = .ok answer) := by
  have hback := judged_not value false rules a b
  refine ⟨judged value false rules a b, judged value true rules a b,
    concludes_judged false (fun rule _ => ha rule) fun rule _ => hb rule,
    concludes_judged true (fun rule _ => ha rule) fun rule _ => hb rule, ?_, ?_, ?_, ?_⟩
  · have hturned := judged_map_turned hdirection false rules a b
    rw [Bool.not_false] at hturned
    rw [← hturned]
    exact concludes_judged false (fun rule _ => ha rule) fun rule _ => hb rule
  · rintro ⟨rule, hrule, hmissing⟩
    rw [hrule] at hback
    exact hback.trans (if_neg (by simpa using hmissing))
  · intro hmissing
    refine hback.trans (if_pos ?_)
    cases hrule : decidingRule value rules a b with
    | none => rfl
    | some rule => exact beq_iff_eq.mpr (hmissing rule hrule)
  · intro hanswerable
    exact ⟨_, judged_of_answered false fun rule hrule _ _ => (hanswerable rule hrule).exists_lesser⟩

/-- Three items, by a descending number that only the last one has and by something that has no
order: the first two are told apart the other way round in reverse, the last one stays first. -/
theorem compareByRules_reversed_entries :
    let bySize : Rule := ⟨.path ["size"], none, true, by decide, by simp⟩
    let byName : Rule := ⟨.path ["name"], none, false, by decide, by simp⟩
    let rules := [bySize, byName]
    let item (identity : Nat) (size name : Value) : Value :=
      .mapping identity [("size", size), ("name", name)]
    let number := item 1 .none (.int 1)
    let text := item 2 .none (.text "1")
    let sized := item 3 (.int 4) (.int 1)
    let lookup := ItemReader.plain.lookup
    (∃ forth back : Except Failure Int,
      (compareByRules lookup false number text rules).Concludes .journal forth ∧
      (compareByRules lookup true number text rules).Concludes .journal back ∧
      (compareByRules lookup false number text (rules.map Rule.turned)).Concludes .journal back ∧
      back = forth.map Neg.neg) ∧
    ∃ forth back : Except Failure Int,
      (compareByRules lookup false number sized rules).Concludes .journal forth ∧
      (compareByRules lookup true number sized rules).Concludes .journal back ∧
      (compareByRules lookup false number sized (rules.map Rule.turned)).Concludes .journal back ∧
      back = forth := by
  intro bySize byName rules item number text sized lookup
  have haccepts : Outlet.journal.Accepts := trivial
  have hlookup : ∀ item ∈ [number, text, sized], ∀ rule,
      (lookup item rule).Returns .journal (ItemReader.plain.valueOf item rule) := by
    intro item hitem rule
    have hfalters : ∀ item ∈ [number, text, sized], item.falters = false := by decide
    exact ItemReader.returns_lookup_plain haccepts (hfalters item hitem) rule
  have hsize : ∀ (identity : Nat) (size name : Value), size.isNormal = true →
      size.isAbsent = false → ItemReader.plain.valueOf (item identity size name) bySize = size :=
    fun identity _ _ => ItemReader.plain_valueOf_of_lookup rfl rfl identity rfl
  have hname : ∀ (identity : Nat) (size name : Value), name.isNormal = true →
      name.isAbsent = false → ItemReader.plain.valueOf (item identity size name) byName = name :=
    fun identity _ _ => ItemReader.plain_valueOf_of_lookup rfl rfl identity rfl
  constructor
  · obtain ⟨forth, back, hforth, hback, hturned, -, hnegated, -⟩ :=
      compareByRules_reversed rules (hlookup number (by simp)) (hlookup text (by simp))
        ItemReader.plain.ignoresDirection_valueOf
    refine ⟨forth, back, hforth, hback, hturned, hnegated fun rule hrule => ?_⟩
    -- no rule finds a value on one of the two items only
    rcases List.mem_pair.mp (List.mem_of_find?_eq_some hrule) with rfl | rfl
    · rw [hsize 1 .none _ rfl rfl, hsize 2 .none _ rfl rfl]
    · rw [hname 1 _ (.int 1) rfl rfl, hname 2 _ (.text "1") rfl rfl]
      rfl
  · obtain ⟨forth, back, hforth, hback, hturned, hkept, -⟩ :=
      compareByRules_reversed rules (hlookup number (by simp)) (hlookup sized (by simp))
        ItemReader.plain.ignoresDirection_valueOf
    have hnone := hsize 1 .none (.int 1) rfl rfl
    have hfour := hsize 3 (.int 4) (.int 1) rfl rfl
    refine ⟨forth, back, hforth, hback, hturned, hkept ⟨bySize, ?_, ?_⟩⟩
    · rw [decidingRule_cons, hnone, hfour]
      rfl
    · rw [hnone, hfour]
      decide

end Compare

end Collate
