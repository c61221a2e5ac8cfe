import Collate.Proofs.Comparison.Direction

/-!
# The rules that a comparison reads

A comparison by some rules followed by others comes to what the first ones come to, and to what
the others come to only where the first ones tie (`judged_append`).  So a rule that reads the same
as an earlier one never matters, whatever its direction (`judged_of_repeated`).

Values are looked up rule by rule, for the first item and then for the second, up to the deciding
rule.  No later rule is looked up, and so nothing is reported about it.  To say so, a comparison is
run with lookups that keep a record of themselves (`recorded`).

## Strategy

A comparison does nothing to the state but by its lookups (`compareByRules_apply`, for states of
any kind).  With recorded lookups the state is the record beside the bulletin.
-/

namespace Collate

/-! ## Which rule decides -/

section Deciding

variable {α : Type} {value : α → Rule → Value} {reverse : Bool} {x y : α}

theorem decidingRule_append (earlier later : List Rule) (x y : α) :
    decidingRule value (earlier ++ later) x y =
      (decidingRule value earlier x y).or (decidingRule value later x y) :=
  List.find?_append

/-- Rules are followed by others where they tie. -/
theorem judged_append (earlier later : List Rule) (x y : α) :
    judged value reverse (earlier ++ later) x y =
      (judged value reverse earlier x y).bind fun answer =>
        if answer = 0 then judged value reverse later x y else .ok answer := by
  rw [judged_eq_preference, judged_eq_preference reverse earlier, decidingRule_append]
  cases hrule : decidingRule value earlier x y with
  | none => exact (judged_eq_preference reverse later x y).symm
  | some rule =>
      rw [Option.some_or, Option.elim_some]
      cases hanswer : preference (reverse != rule.descending) (value x rule) (value y rule) with
      | error failure => rfl
      | ok answer =>
          -- a rule on which the items do not tie never answers with zero, so the later rules are
          -- not asked
          have hzero := preference_ne_zero hanswer (ties_of_decidingRule_eq_some hrule)
          exact (if_neg hzero).symm

theorem Rule.eq_directed {rule other : Rule} (hkey : other.key = rule.key)
    (hselector : other.selector = rule.selector) : rule = other.directed rule.descending := by
  cases rule
  cases other
  cases hkey
  cases hselector
  rfl

/-- A rule that reads the same as an earlier one ties where the earlier one does. -/
theorem judged_of_repeated (hdirection : IgnoresDirection value) {earlier later : List Rule}
    {rule : Rule}
    (h : ∃ other ∈ earlier, other.key = rule.key ∧ other.selector = rule.selector) :
    judged value reverse (earlier ++ rule :: later) x y =
      judged value reverse (earlier ++ later) x y := by
  -- only the deciding rule matters, and the repeated one is never the first not to tie
  have hdeciding : decidingRule value (earlier ++ rule :: later) x y =
      decidingRule value (earlier ++ later) x y := by
    rw [decidingRule_append, decidingRule_append]
    cases hnone : decidingRule value earlier x y with
    | some first => rfl
    | none =>
        obtain ⟨other, hother, hkey, hselector⟩ := h
        have hties := ties_of_decidingRule_eq_none hnone hother
        rw [Option.none_or, Option.none_or, decidingRule_cons, Rule.eq_directed hkey hselector,
          hdirection, hdirection, if_pos hties]
  rw [judged_eq_preference, judged_eq_preference, hdeciding]

end Deciding

/-! ## Which values are looked up -/

/-- The rules up to the deciding one, or all of them if there is none. -/
def readRules {α : Type} (value : α → Rule → Value) (rules : List Rule) (x y : α) : List Rule :=
  rules.take (rules.findIdx (fun rule => !(value x rule).ties (value y rule)) + 1)

/-- The lookups of some rules for two items, rule by rule. -/
def lookupsOf {α : Type} (rules : List Rule) (x y : α) : List (α × Rule) :=
  rules.flatMap fun rule => [(x, rule), (y, rule)]

theorem readRules_cons {α : Type} {value : α → Rule → Value} (rule : Rule) (rest : List Rule)
    (x y : α) :
    readRules value (rule :: rest) x y =
      rule :: if (value x rule).ties (value y rule) then readRules value rest x y else [] := by
  rw [readRules, List.findIdx_cons]
  cases (value x rule).ties (value y rule) <;> rfl

section Lookups

variable {α σ : Type} {value : α → Rule → Value} {reverse : Bool} {x y : α} {ready : σ → Prop}
  {lookup : α → Rule → ExceptT Failure (StateM σ) Value}

/-- The state that some lookups leave, one after the other. -/
def afterLookups (lookup : α → Rule → ExceptT Failure (StateM σ) Value) (state : σ)
    (asked : List (α × Rule)) : σ :=
  asked.foldl (fun state call => (lookup call.1 call.2 state).2) state

/-- In every state that is ready, looking up these rules for this item comes to its values and
leaves a state that is ready. -/
def Finds (lookup : α → Rule → ExceptT Failure (StateM σ) Value) (ready : σ → Prop)
    (value : α → Rule → Value) (rules : List Rule) (x : α) : Prop :=
  ∀ rule ∈ rules, ∀ state, ready state →
    (lookup x rule state).1 = .ok (value x rule) ∧ ready (lookup x rule state).2

/-- A comparison comes to what the values say, and leaves what its lookups leave. -/
theorem compareByRules_apply {rules : List Rule} {state : σ} (hx : Finds lookup ready value rules x)
    (hy : Finds lookup ready value rules y) (hstate : ready state) :
    compareByRules lookup reverse x y rules state =
      (judged value reverse rules x y,
        afterLookups lookup state (lookupsOf (readRules value rules x y) x y)) := by
  induction rules generalizing state with
  | nil => rfl
  | cons rule rest ih =>
      obtain ⟨hxRule, hxRest⟩ := List.forall_mem_cons.mp hx
      obtain ⟨hyRule, hyRest⟩ := List.forall_mem_cons.mp hy
      -- the two lookups of the first rule
      obtain ⟨hfirst, hbetween⟩ := hxRule state hstate
      obtain ⟨hsecond, hlater⟩ := hyRule _ hbetween
      rw [compareByRules, bind_apply, show lookup x rule state = (_, _) from Prod.ext hfirst rfl]
      dsimp only
      rw [bind_apply, show lookup y rule _ = (_, _) from Prod.ext hsecond rfl]
      dsimp only
      rw [bind_apply, orRaise_apply, judged_cons, readRules_cons]
      cases hties : (value x rule).ties (value y rule) with
      | true =>
          rw [precedence_of_ties _ hties]
          exact ih hxRest hyRest hlater
      | false =>
          rw [precedence_of_not_ties _ hties]
          cases preference (reverse != rule.descending) (value x rule) (value y rule) <;> rfl

end Lookups

/-! ## Comparisons -/

/-- A computation that reports and keeps a record of its lookups. -/
abbrev Recording := ExceptT Failure (StateM (List (Value × Rule) × Bulletin))

/-- Looks up a value and records that it was looked up. -/
def recorded (lookup : Value → Rule → Reporting Value) (item : Value) (rule : Rule) :
    Recording Value := fun (asked, bulletin) =>
  ((lookup item rule bulletin).1, (asked ++ [(item, rule)], (lookup item rule bulletin).2))

section Compare

variable {outlet : Outlet} {value : Value → Rule → Value} {lookup : Value → Rule → Reporting Value}

/-- The record holds the lookups, and the bulletin is the same as without the record. -/
theorem afterLookups_recorded (asked calls : List (Value × Rule)) (bulletin : Bulletin) :
    afterLookups (recorded lookup) (asked, bulletin) calls =
      (asked ++ calls, afterLookups lookup bulletin calls) := by
  induction calls generalizing asked bulletin with
  | nil => exact congrArg (·, bulletin) (List.append_nil asked).symm
  | cons call rest ih =>
      show afterLookups (recorded lookup)
        (asked ++ [call], (lookup call.1 call.2 bulletin).2) rest = _
      rw [ih, List.append_assoc]
      rfl

theorem finds_of_returns {item : Value}
    (h : ∀ rule, (lookup item rule).Returns outlet (value item rule)) (rules : List Rule) :
    Finds lookup (fun bulletin => bulletin.outlet = outlet) value rules item := by
  intro rule _ bulletin hbulletin
  obtain ⟨later, hlater, houtlet⟩ := h rule bulletin hbulletin
  rw [hlater]
  exact ⟨rfl, houtlet⟩

theorem finds_recorded {ready : Bulletin → Prop} {rules : List Rule} {item : Value}
    (h : Finds lookup ready value rules item) :
    Finds (recorded lookup) (fun state => ready state.2) value rules item :=
  fun rule hrule state hstate => h rule hrule state.2 hstate

open Reporting

/-- **A list of rules is compared lexicographically, and no further than needed.**  Rules followed
by others come to what the first ones come to, unless they tie; then they come to what the others
come to.  A rule with the key and the selector of an earlier one never matters, whatever its
direction.  And the lookups are those of the first item and the second one for each rule up to the
deciding one, in this order: no later rule is looked up, and what has been reported in the end is
what these lookups report. -/
theorem compareByRules_composes (reverse : Bool) {a b : Value}
    (ha : ∀ rule, (lookup a rule).Returns outlet (value a rule))
    (hb : ∀ rule, (lookup b rule).Returns outlet (value b rule)) :
    ∃ compared : List Rule → Except Failure Int,
      (∀ rules, (compareByRules lookup reverse a b rules).Concludes outlet (compared rules)) ∧
      (∀ rules, (∀ rule ∈ rules, (value a rule).Answerable (value b rule)) →
        ∃ answer, compared rules = .ok answer) ∧
      (∀ earlier later, compared (earlier ++ later) =
        (compared earlier).bind fun answer =>
          if answer = 0 then compared later else .ok answer) ∧
      (IgnoresDirection value → ∀ earlier later rule,
        (∃ other ∈ earlier, other.key = rule.key ∧ other.selector = rule.selector) →
          compared (earlier ++ rule :: later) = compared (earlier ++ later)) ∧
      ∀ rules bulletin, bulletin.outlet = outlet →
        let asked := lookupsOf (readRules value rules a b) a b
        let later := afterLookups lookup bulletin asked
        compareByRules (recorded lookup) reverse a b rules ([], bulletin) =
            (compared rules, (asked, later)) ∧
          compareByRules lookup reverse a b rules bulletin = (compared rules, later) := by
  refine ⟨fun rules => judged value reverse rules a b, ?_, ?_, ?_, ?_, ?_⟩
  · exact fun rules => concludes_judged reverse (fun rule _ => ha rule) fun rule _ => hb rule
  · intro rules hanswerable
    exact ⟨_, judged_of_answered reverse fun rule hrule _ _ =>
      (hanswerable rule hrule).exists_lesser⟩
  · exact fun earlier later => judged_append earlier later a b
  · exact fun hdirection earlier later rule hrepeated => judged_of_repeated hdirection hrepeated
  · intro rules bulletin houtlet asked later
    -- keeping a record is another lookup, which finds the same
    have hfinds := finds_of_returns ha rules
    have hfinds' := finds_of_returns hb rules
    refine ⟨?_, compareByRules_apply hfinds hfinds' houtlet⟩
    rw [compareByRules_apply (finds_recorded hfinds) (finds_recorded hfinds') houtlet,
      afterLookups_recorded]
    rfl

/-- Two items are compared by four rules, of which the second decides.  Neither the third one,
which repeats the first in the other direction, nor the fourth is looked up. -/
theorem compareByRules_composes_entries :
    let bySize : Rule := ⟨.path ["size"], none, true, by decide, by simp⟩
    let byName : Rule := ⟨.path ["name"], none, false, by decide, by simp⟩
    let byColor : Rule := ⟨.path ["color"], none, false, by decide, by simp⟩
    let rules := [bySize, byName, bySize.turned, byColor]
    let a : Value := .mapping 1 [("name", .int 1)]
    let b : Value := .mapping 2 [("name", .int 2)]
    let lookup := ItemReader.plain.lookup
    ∃ (compared : List Rule → Except Failure Int) (later : Bulletin),
      (∀ rules, (compareByRules lookup false a b rules).Concludes .journal (compared rules)) ∧
      compared rules = compared [bySize, byName, byColor] ∧
      compareByRules (recorded lookup) false a b rules ([], .opened 5 .journal) =
        (compared rules, ([(a, bySize), (b, bySize), (a, byName), (b, byName)], later)) := by
  intro bySize byName byColor rules a b lookup
  have hlookup : ∀ item : Value, item.falters = false → ∀ rule,
      (lookup item rule).Returns .journal (ItemReader.plain.valueOf item rule) :=
    fun _ => ItemReader.returns_lookup_plain trivial
  obtain ⟨compared, hcompared, -, -, hrepeated, hasked⟩ :=
    compareByRules_composes false (hlookup a rfl) (hlookup b rfl)
  have hsize : ∀ (identity : Nat) (name : Value), ItemReader.plain.valueOf
      (.mapping identity [("name", name)]) bySize = .missing := by
    intro identity name
    rw [ItemReader.valueOf, ItemReader.plain_read_without_selector _ rfl rfl]
    rfl
  have hname : ∀ identity n, ItemReader.plain.valueOf
      (.mapping identity [("name", .int n)]) byName = .int n := fun identity n =>
    ItemReader.plain_valueOf_of_lookup rfl rfl identity rfl rfl rfl
  have hdiffer : Value.ties (.int 1) (.int 2) = false := by
    rw [Value.ties_of_present rfl rfl, Value.same, Value.equal_of_isOrdered rfl rfl rfl]
    rfl
  -- neither has a size, and the names differ
  have hread : readRules ItemReader.plain.valueOf rules a b = [bySize, byName] := by
    rw [readRules_cons, readRules_cons, hsize, hsize, hname, hname, hdiffer]
    rfl
  obtain ⟨hrecord, -⟩ := hasked rules (.opened 5 .journal) rfl
  rw [hread] at hrecord
  refine ⟨compared, _, hcompared, ?_, hrecord⟩
  exact hrepeated ItemReader.plain.ignoresDirection_valueOf [bySize, byName] [byColor]
    bySize.turned ⟨bySize, List.mem_cons_self .., rfl, rfl⟩

end Compare

end Collate
