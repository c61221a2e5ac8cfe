import Mathlib.Data.Ordering.Basic
import Collate.Lookup.Resolve
import Collate.Proofs.Comparison.Verdict
import Collate.Proofs.Lookup.Entry
import Collate.Proofs.Lookup.Spared

/-!
# Comparing by rules compares lists of keys

For each rule an item has a *key*: the value that the rule finds on it, or nothing if that
value is missing, whichever way it is missing.  Nothing comes after any value, in either
direction; two values come in their order, which the rule or the comparison may turn around
(`SortKey.before`).

A comparison by rules compares the lists of keys of its items lexicographically, as long as
the values that are found compare consistently (`compareByRules_lexicographic`).  So its
answers are those of a total preorder.

## Strategy

The weight of one rule is the sign of the comparison of two keys (`weight_eq_signOf`), and
what decides where it is zero is the rest of the list (`signOf_then`).
-/

namespace Collate

/-! ## Keys -/

/-- What one rule compares of an item: the value that it finds, or nothing, and whether the
greater value comes first. -/
structure SortKey where
  flipped : Bool
  found : Option Value

namespace SortKey

/-- The key for this value, which may be missing. -/
def ofValue (flipped : Bool) (x : Value) : SortKey where
  flipped
  found := if x.isMissing then none else some x

/-- The first key comes before the second one. -/
def before (k l : SortKey) : Bool :=
  match k.found, l.found with
  | some x, some y => if k.flipped then y.isLesser x else x.isLesser y
  | some _, none => true
  | none, _ => false

/-- Keys of which neither comes before the other are equal. -/
def compare (k l : SortKey) : Ordering :=
  if k.before l then .lt else if l.before k then .gt else .eq

variable {flipped : Bool} {x y : Value}

/-- It does not matter in which way a value is missing. -/
theorem ofValue_of_missing (hx : x.isMissing = true) : ofValue flipped x = ⟨flipped, none⟩ := by
  rw [ofValue, hx]
  rfl

theorem ofValue_of_present (hx : x.isMissing = false) : ofValue flipped x = ⟨flipped, some x⟩ := by
  rw [ofValue, hx]
  rfl

theorem before_of_present (hx : x.isMissing = false) (hy : y.isMissing = false) :
    (ofValue flipped x).before (ofValue flipped y) =
      if flipped then y.isLesser x else x.isLesser y := by
  rw [ofValue_of_present hx, ofValue_of_present hy]
  rfl

theorem before_of_missing_left (k : SortKey) (hx : x.isMissing = true) :
    (ofValue flipped x).before k = false := by
  rw [ofValue_of_missing hx]
  rfl

theorem before_of_missing_right (hy : y.isMissing = true) :
    (ofValue flipped x).before (ofValue flipped y) = !x.isMissing := by
  rw [ofValue_of_missing hy]
  cases hx : x.isMissing with
  | true => exact before_of_missing_left _ hx
  | false =>
      rw [ofValue_of_present hx]
      rfl

end SortKey

section Keys

variable {α : Type}

/-- The keys of an item, one for each rule. -/
def sortKeys (value : α → Rule → Value) (reverse : Bool) (rules : List Rule) (x : α) :
    List SortKey :=
  rules.map fun rule => .ofValue (reverse != rule.descending) (value x rule)

/-- Compares two items by their keys, the first key first. -/
def lexicographic (value : α → Rule → Value) (reverse : Bool) (rules : List Rule) (x y : α) :
    Ordering :=
  List.compareLex SortKey.compare (sortKeys value reverse rules x)
    (sortKeys value reverse rules y)

theorem lexicographic_cons (value : α → Rule → Value) (reverse : Bool) (rule : Rule)
    (rest : List Rule) (x y : α) :
    lexicographic value reverse (rule :: rest) x y =
      ((SortKey.ofValue (reverse != rule.descending) (value x rule)).compare
        (SortKey.ofValue (reverse != rule.descending) (value y rule))).then
          (lexicographic value reverse rest x y) :=
  List.compareLex_cons_cons

end Keys

/-! ## Signs -/

/-- The answer of a comparison as a number. -/
def signOf : Ordering → Int
  | .lt => -1
  | .eq => 0
  | .gt => 1

theorem signOf_then (first second : Ordering) :
    signOf (first.then second) = if signOf first = 0 then signOf second else signOf first := by
  cases first <;> rfl

/-! ## Verdicts -/

section Verdict

variable {amongst : Value → Prop} {x y : Value}

/-- The weight of one rule is the sign of the comparison of the two keys. -/
theorem weight_eq_signOf (h : Value.Consistent amongst) (flipped : Bool)
    (hx : x.isMissing = false → amongst x) (hy : y.isMissing = false → amongst y) :
    weight flipped x y =
      signOf ((SortKey.ofValue flipped x).compare (SortKey.ofValue flipped y)) := by
  rw [SortKey.compare]
  cases hxMissing : x.isMissing with
  | true =>
      rw [weight_of_missing_left flipped hxMissing, SortKey.before_of_missing_left _ hxMissing,
        SortKey.before_of_missing_right hxMissing]
      cases y.isMissing <;> rfl
  | false =>
      cases hyMissing : y.isMissing with
      | true =>
          rw [weight_of_missing_right flipped hyMissing,
            SortKey.before_of_missing_right hyMissing, hxMissing]
          rfl
      | false =>
          have hxAmong := hx hxMissing
          have hyAmong := hy hyMissing
          obtain ⟨forth, back, hforth, hback, hasymm⟩ := h.exists_answers hxAmong hyAmong
          rw [weight_of_present h hxMissing hyMissing hxAmong hyAmong hforth hback,
            SortKey.before_of_present hxMissing hyMissing,
            SortKey.before_of_present hyMissing hxMissing, Value.isLesser, Value.isLesser, hforth,
            hback]
          -- not both values are the lesser one
          revert hasymm
          cases forth <;> cases back <;> cases flipped <;> decide

end Verdict

section Verdict

variable {α : Type} {among : α → Prop} {value : α → Rule → Value} {rules : List Rule}

/-- The verdict of rules is the sign of the comparison of the lists of keys. -/
theorem verdict_eq_signOf (reverse : Bool) (h : ValuesConsistent among value rules) {x y : α}
    (hx : among x) (hy : among y) :
    verdict value reverse rules x y = signOf (lexicographic value reverse rules x y) := by
  induction rules with
  | nil => rfl
  | cons rule rest ih =>
      obtain ⟨hrule, hrest⟩ := List.forall_mem_cons.mp h
      have hweight := weight_eq_signOf hrule (reverse != rule.descending)
        (fun hmissing => ⟨hmissing, x, hx, rfl⟩) (fun hmissing => ⟨hmissing, y, hy, rfl⟩)
      rw [verdict, thenBy, ih hrest, hweight, lexicographic_cons, signOf_then]

end Verdict

/-! ## Comparisons by rules -/

section Compare

variable {among : Value → Prop} {outlet : Outlet} {value : Value → Rule → Value}
  {lookup : Value → Rule → Reporting Value} {rules : List Rule}

/-- **A comparison by rules compares the lists of keys of its items**, lexicographically, and
ranks the items. -/
theorem compareByRules_lexicographic (reverse : Bool)
    (hlookup : ∀ x, among x → ∀ rule ∈ rules, (lookup x rule).Returns outlet (value x rule))
    (hcomparable : ∀ rule ∈ rules, ComparableAmong among (value · rule)) :
    ∃ compared : Value → Value → Int,
      (∀ x y, among x → among y →
        (compareByRules lookup reverse x y rules).Returns outlet (compared x y) ∧
          compared x y = signOf (lexicographic value reverse rules x y) ∧
          compared x y = -compared y x) ∧
      ∀ x y z, among x → among y → among z → compared x y ≤ 0 → compared y z ≤ 0 →
        compared x z ≤ 0 := by
  have hvalues : ValuesConsistent among value rules :=
    fun rule hrule => (hcomparable rule hrule).consistent
  have hranking := ranking_verdict reverse hvalues
  refine ⟨verdict value reverse rules, ?_, fun x y z hx hy hz => hranking.trans hx hy hz⟩
  intro x y hx hy
  exact ⟨returns_compareByRules reverse hlookup hvalues hx hy,
    verdict_eq_signOf reverse hvalues hx hy, hranking.swap hy hx⟩

/-- Five items, in reverse, by a descending number that one of them lacks and by a text. -/
theorem compareByRules_lexicographic_entries :
    let rules : List Rule := [⟨.path ["size"], none, true, by decide, by simp⟩,
      ⟨.path ["name"], none, false, by decide, by simp⟩]
    let size : Nat → Value := fun k => if k = 2 then .none else .int (k / 2)
    let view : Nat → Value := fun k =>
      .mapping k [("size", size k), ("name", .text (if k % 2 = 0 then "even" else "odd"))]
    let among : Value → Prop := (∃ k ∈ [0, 1, 2, 3, 4], view k = ·)
    ∃ compared : Value → Value → Int,
      (∀ x y, among x → among y →
        (compareByRules ItemReader.plain.lookup true x y rules).Returns .journal (compared x y) ∧
          compared x y = signOf (lexicographic ItemReader.plain.valueOf true rules x y) ∧
          compared x y = -compared y x) ∧
      ∀ x y z, among x → among y → among z → compared x y ≤ 0 → compared y z ≤ 0 →
        compared x z ≤ 0 := by
  intro rules size view among
  apply compareByRules_lexicographic
  · rintro _ ⟨k, hk, rfl⟩ rule _
    have haccepts : Outlet.journal.Accepts := trivial
    have hfalters : ∀ k ∈ [0, 1, 2, 3, 4], (view k).falters = false := by decide
    exact ItemReader.returns_lookup_plain haccepts (hfalters k hk) rule
  · intro rule hrule
    rcases List.mem_pair.mp hrule with rfl | rfl
    · -- the numbers
      refine .inr (.inl ?_)
      rintro _ ⟨k, -, rfl⟩ hpresent
      have hsize : (size k).isNormal = true ∧ (size k).isAbsent = false := by
        simp only [size]
        split <;> exact ⟨rfl, rfl⟩
      dsimp only at hpresent ⊢
      rw [ItemReader.plain_valueOf_of_lookup rfl rfl k rfl hsize.1 hsize.2] at hpresent ⊢
      simp only [size] at hpresent ⊢
      split at hpresent
      · cases hpresent
      · next hother =>
        rw [if_neg hother]
        exact ⟨k / 2, rfl, rfl, rfl⟩
    · -- the texts
      refine .inr (.inr ?_)
      rintro _ ⟨k, -, rfl⟩ _
      dsimp only
      rw [ItemReader.plain_valueOf_of_lookup rfl rfl k rfl rfl rfl]
      exact ⟨_, rfl, rfl⟩

end Compare

end Collate
