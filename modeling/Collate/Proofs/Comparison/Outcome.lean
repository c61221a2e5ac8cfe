import Collate.Comparison.Comparator
import Collate.Proofs.Lookup.Outcome
import Collate.Proofs.Ordering.Permutation
import Collate.Proofs.Value.Answerable

/-!
# What a comparison by rules comes to

Where looking up always comes to the same, a comparison by rules comes to what the rules say of
what is found (`concludes_compareByRules`): a verdict, or the failure of a lookup or of the
comparison of two present values (`exists_of_compareByRules_eq_error`).  A sort by rules comes to
the order that these answers lead to, or fails as one of them does (`concludes_sort`).

Where every lookup finds a value, the items are judged by these values (`judged`), and only
comparing two of them can fail.  Nothing is asked of the values here; their answers may contradict
each other.
-/

namespace Collate

open Reporting

variable {α : Type} {found : α → Rule → Except Failure Value} {value : α → Rule → Value}
  {reverse : Bool} {rules : List Rule}

/-! ## Known outcomes of lookups -/

theorem orRaise_eq {β : Type} (outcome : Except Failure β) :
    (orRaise outcome : Except Failure β) = outcome := by
  cases outcome <;> rfl

theorem orRaise_apply {σ β : Type} (outcome : Except Failure β) (state : σ) :
    (orRaise outcome : ExceptT Failure (StateM σ) β) state = (outcome, state) := by
  cases outcome <;> rfl

theorem compareByRules_cons (rule : Rule) (rest : List Rule) (x y : α) :
    compareByRules found reverse x y (rule :: rest) =
      (found x rule).bind fun first => (found y rule).bind fun second =>
        (precedence (reverse != rule.descending) first second).bind fun decided =>
          match decided with
          | some verdict => .ok verdict
          | none => compareByRules found reverse x y rest := by
  show (found x rule).bind (fun first => (found y rule).bind fun second =>
    (orRaise (precedence _ _ _) : Except Failure (Option Int)) >>= _) = _
  simp only [orRaise_eq]
  refine congrArg (found x rule).bind (funext fun first => ?_)
  refine congrArg (found y rule).bind (funext fun second => ?_)
  refine congrArg (precedence _ first second).bind (funext fun decided => ?_)
  cases decided <;> rfl

/-- Only the order of two values that are both present can fail to be told. -/
theorem precedence_eq_error {flipped : Bool} {x y : Value} {failure : Failure}
    (h : precedence flipped x y = .error failure) :
    x.isMissing = false ∧ y.isMissing = false ∧ Value.lesser x y = .error failure := by
  rw [precedence] at h
  cases hx : x.isMissing <;> cases hy : y.isMissing <;> rw [hx, hy] at h
  case false.false =>
    refine ⟨rfl, rfl, ?_⟩
    cases hsame : Value.same x y <;> rw [hsame] at h
    case true => cases h
    case false =>
      cases hlesser : Value.lesser x y <;> rw [hlesser] at h <;> cases h
      rfl
  all_goals cases h

/-- Two present values are found, and sorting cannot tell which one is the lesser. -/
def ClashesAt (found : α → Rule → Except Failure Value) (x y : α) (failure : Failure)
    (rule : Rule) : Prop :=
  ∃ first second, found x rule = .ok first ∧ found y rule = .ok second ∧
    first.isMissing = false ∧ second.isMissing = false ∧ Value.lesser first second = .error failure

/-- A comparison fails as one of its lookups does, or as two present values do not compare. -/
theorem exists_of_compareByRules_eq_error {x y : α} {failure : Failure}
    (h : compareByRules found reverse x y rules = .error failure) :
    ∃ rule ∈ rules, found x rule = .error failure ∨ found y rule = .error failure ∨
      ClashesAt found x y failure rule := by
  induction rules with
  | nil => cases h
  | cons rule rest ih =>
      rw [compareByRules_cons] at h
      obtain hfirst | ⟨first, hfirst, h⟩ := eq_error_of_bind h
      · exact ⟨rule, List.mem_cons_self .., .inl hfirst⟩
      obtain hsecond | ⟨second, hsecond, h⟩ := eq_error_of_bind h
      · exact ⟨rule, List.mem_cons_self .., .inr (.inl hsecond)⟩
      obtain hprecedence | ⟨decided, -, h⟩ := eq_error_of_bind h
      · exact ⟨rule, List.mem_cons_self .., .inr (.inr ⟨first, second, hfirst, hsecond,
          precedence_eq_error hprecedence⟩)⟩
      cases decided with
      | some verdict => cases h
      | none =>
          obtain ⟨later, hlater, hfails⟩ := ih h
          exact ⟨later, List.mem_cons_of_mem rule hlater, hfails⟩

/-- The answer that a sort by rules gets. -/
def answered (found : α → Rule → Except Failure Value) (reverse : Bool) (rules : List Rule)
    (x y : α) : Except Failure Bool :=
  (compareByRules found reverse x y rules).map fun verdict => decide (verdict < 0)

/-! ## Known values -/

/-- The comparison of two items whose values are known. -/
def judged (value : α → Rule → Value) (reverse : Bool) (rules : List Rule) (x y : α) :
    Except Failure Int :=
  compareByRules (fun item rule => .ok (value item rule)) reverse x y rules

/-- The answer that a sort by rules gets, if the values are known. -/
def settled (value : α → Rule → Value) (reverse : Bool) (rules : List Rule) (x y : α) :
    Except Failure Bool :=
  (judged value reverse rules x y).map fun verdict => decide (verdict < 0)

theorem judged_cons (rule : Rule) (rest : List Rule) (x y : α) :
    judged value reverse (rule :: rest) x y =
      (precedence (reverse != rule.descending) (value x rule) (value y rule)).bind fun decided =>
        match decided with
        | some verdict => .ok verdict
        | none => judged value reverse rest x y :=
  compareByRules_cons rule rest x y

/-- Items whose values are known fail to compare only as two present values do. -/
theorem exists_of_judged_eq_error {x y : α} {failure : Failure}
    (h : judged value reverse rules x y = .error failure) :
    ∃ rule ∈ rules, (value x rule).isMissing = false ∧ (value y rule).isMissing = false ∧
      Value.lesser (value x rule) (value y rule) = .error failure := by
  obtain ⟨rule, hrule, hx | hy | ⟨first, second, hfirst, hsecond, hclash⟩⟩ :=
    exists_of_compareByRules_eq_error h
  · cases hx
  · cases hy
  · cases hfirst
    cases hsecond
    exact ⟨rule, hrule, hclash⟩

/-! ## Computations that look up -/

section Lookup

variable {outlet : Outlet} {view : α → Value} {lookup : Value → Rule → Reporting Value}

theorem concludes_compareByRules {x y : α}
    (hx : ∀ rule ∈ rules, (lookup (view x) rule).Concludes outlet (found x rule))
    (hy : ∀ rule ∈ rules, (lookup (view y) rule).Concludes outlet (found y rule)) :
    (compareByRules lookup reverse (view x) (view y) rules).Concludes outlet
      (compareByRules found reverse x y rules) := by
  induction rules with
  | nil => exact concludes_pure 0
  | cons rule rest ih =>
      obtain ⟨hxRule, hxRest⟩ := List.forall_mem_cons.mp hx
      obtain ⟨hyRule, hyRest⟩ := List.forall_mem_cons.mp hy
      rw [compareByRules_cons]
      refine hxRule.bind fun first _ => hyRule.bind fun second _ => ?_
      refine (concludes_orRaise _).bind fun decided _ => ?_
      cases decided with
      | some verdict => exact concludes_pure verdict
      | none => exact ih hxRest hyRest

theorem concludes_judged {value : Value → Rule → Value} (reverse : Bool) {a b : Value}
    (ha : ∀ rule ∈ rules, (lookup a rule).Returns outlet (value a rule))
    (hb : ∀ rule ∈ rules, (lookup b rule).Returns outlet (value b rule)) :
    (compareByRules lookup reverse a b rules).Concludes outlet
      (judged value reverse rules a b) := by
  show (compareByRules lookup reverse (id a) (id b) rules).Concludes outlet _
  exact concludes_compareByRules ha hb

theorem concludes_answer {x y : α}
    (hx : ∀ rule ∈ rules, (lookup (view x) rule).Concludes outlet (found x rule))
    (hy : ∀ rule ∈ rules, (lookup (view y) rule).Concludes outlet (found y rule)) :
    (Comparator.answer lookup view x y (.byRules rules reverse)).Concludes outlet
      ((answered found reverse rules x y).map (·, .byRules rules reverse)) := by
  have hcompare : ((Comparator.byRules rules reverse).compare lookup (view x) (view y)).Concludes
      outlet (compareByRules found reverse x y rules >>= fun verdict =>
        .ok (.int verdict, .byRules rules reverse)) :=
    (concludes_compareByRules hx hy).bind fun verdict _ => concludes_pure _
  have hanswer := hcompare.bind (γ := Bool × Comparator) fun compared _ =>
    (concludes_orRaise (compared.1.less (.int 0))).bind fun first _ =>
      concludes_pure (first, compared.2)
  -- the answer is a comparison with zero, in the program as in what it comes to
  have hanswered : (answered found reverse rules x y).map (·, Comparator.byRules rules reverse) =
      (compareByRules found reverse x y rules >>= fun verdict =>
        Except.ok (Value.int verdict, Comparator.byRules rules reverse)) >>= fun compared =>
          compared.1.less (.int 0) >>= fun first => .ok (first, compared.2) := by
    unfold answered
    cases compareByRules found reverse x y rules with
    | error failure => rfl
    | ok verdict =>
        show _ = ((Value.int verdict).less (.int 0)).bind fun first =>
          .ok (first, Comparator.byRules rules reverse)
        rw [Value.less_int]
        rfl
  rw [hanswered]
  exact hanswer

/-- A sort by rules comes to what the answers about what is found lead to. -/
theorem concludes_sort {items : List α}
    (hlookup : ∀ x ∈ items, ∀ rule ∈ rules,
      (lookup (view x) rule).Concludes outlet (found x rule)) :
    ((Comparator.byRules rules reverse).sort lookup view items).Concludes outlet
      ((Ordering.sort items).run (answered found reverse rules)) := by
  have hrun : ((Ordering.sort items).run (Comparator.answer lookup view)
      (.byRules rules reverse)).Concludes outlet
        (((Ordering.sort items).run (answered found reverse rules)).map
          (·, .byRules rules reverse)) :=
    concludes_run (Ordering.asksOnly_sort items) fun x y hx hy =>
      concludes_answer (hlookup x hx) (hlookup y hy)
  have hsort := hrun.bind (γ := List α) fun result _ => concludes_pure result.1
  -- a sort by rules leaves the comparator as it is, so only the items are returned
  have heq : (Ordering.sort items).run (answered found reverse rules) =
      (((Ordering.sort items).run (answered found reverse rules)).map
        (·, Comparator.byRules rules reverse)) >>= fun result => .ok result.1 := by
    cases (Ordering.sort items).run (answered found reverse rules) <;> rfl
  rw [heq]
  exact hsort

end Lookup

end Collate
