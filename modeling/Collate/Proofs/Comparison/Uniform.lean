import Collate.Comparison.Comparator
import Collate.Proofs.Lookup.Uniform

/-!
# Comparisons do not depend on earlier reports

Where lookups are uniform, so is every comparison (`Comparator.uniform_compare`), and so is a
whole sort: whatever was reported before, it comes to the same order, or the same failure, and
posts the same warnings (`Comparator.uniform_sort`).

## Strategy

A comparison is put together from lookups and from computations that report nothing.  So whatever
is true of these and of one computation after another (`Reporting.Composes`) is true of every
comparison and every sort.
-/

namespace Collate

open Reporting

variable {α β σ : Type} {lookup : Value → Rule → Reporting Value}

/-- What is true of computations that report nothing, and of one computation after another if it is
true of both. -/
structure Reporting.Composes (holds : ∀ β : Type, Reporting β → Prop) : Prop where
  pure : ∀ (β : Type) (result : β), holds β (pure result)
  throw : ∀ (β : Type) (failure : Failure), holds β (throw failure)
  bind : ∀ (β γ : Type) (action : Reporting β) (next : β → Reporting γ), holds β action →
    (∀ result, holds γ (next result)) → holds γ (action >>= next)

namespace Reporting.Composes

variable {holds : ∀ β : Type, Reporting β → Prop}

theorem orRaise (h : Composes holds) (outcome : Except Failure β) :
    holds β (orRaise outcome) := by
  cases outcome with
  | ok result => exact h.pure β result
  | error failure => exact h.throw β failure

theorem compareByRules (h : Composes holds) (hlookup : ∀ item rule, holds Value (lookup item rule))
    (reverse : Bool) (a b : Value) (rules : List Rule) :
    holds Int (compareByRules lookup reverse a b rules) := by
  induction rules with
  | nil => exact h.pure Int 0
  | cons rule rest ih =>
      refine h.bind _ _ _ _ (hlookup a rule) fun first => ?_
      refine h.bind _ _ _ _ (hlookup b rule) fun second => ?_
      refine h.bind _ _ _ _ (h.orRaise _) fun decided => ?_
      cases decided with
      | some verdict => exact h.pure Int verdict
      | none => exact ih

theorem run (h : Composes holds) {answer : α → α → StateT σ Reporting Bool}
    (hanswer : ∀ x y state, holds (Bool × σ) (answer x y state)) (inquiry : Inquiry α β)
    (state : σ) : holds (β × σ) (inquiry.run answer state) := by
  induction inquiry generalizing state with
  | done result => exact h.pure _ (result, state)
  | ask x y next ih =>
      exact h.bind _ _ _ _ (hanswer x y state) fun answered => ih answered.1 answered.2

theorem compare (h : Composes holds) (hlookup : ∀ item rule, holds Value (lookup item rule))
    (a b : Value) (comparator : Comparator) :
    holds (Value × Comparator) (comparator.compare lookup a b) := by
  cases comparator with
  | shuffle source => exact h.pure _ _
  | custom f reverse => exact h.bind _ _ _ _ (h.orRaise _) fun _ => h.pure _ _
  | byRules rules reverse =>
      exact h.bind _ _ _ _ (h.compareByRules hlookup reverse a b rules) fun _ => h.pure _ _

theorem answer (h : Composes holds) (hlookup : ∀ item rule, holds Value (lookup item rule))
    (view : α → Value) (a b : α) (comparator : Comparator) :
    holds (Bool × Comparator) (Comparator.answer lookup view a b comparator) := by
  refine h.bind _ _ _ _ (h.compare hlookup (view a) (view b) comparator) fun compared => ?_
  exact h.bind _ _ _ _ (h.orRaise _) fun first => h.pure _ _

theorem sort (h : Composes holds) (hlookup : ∀ item rule, holds Value (lookup item rule))
    (view : α → Value) (items : List α) (comparator : Comparator) :
    holds (List α) (comparator.sort lookup view items) :=
  h.bind _ _ _ _ (h.run (h.answer hlookup view) (Ordering.sort items) comparator) fun _ =>
    h.pure _ _

end Reporting.Composes

theorem composes_uniform : Composes fun _ action => Uniform action where
  pure _ result := uniform_pure result
  throw _ failure := uniform_throw failure
  bind _ _ _ _ h hnext := h.bind hnext

namespace Comparator

theorem uniform_compare (hlookup : ∀ item rule, Uniform (lookup item rule)) (a b : Value)
    (comparator : Comparator) : Uniform (comparator.compare lookup a b) :=
  composes_uniform.compare hlookup a b comparator

theorem uniform_answer (hlookup : ∀ item rule, Uniform (lookup item rule)) (view : α → Value)
    (a b : α) (comparator : Comparator) : Uniform (answer lookup view a b comparator) :=
  composes_uniform.answer hlookup view a b comparator

theorem uniform_sort (hlookup : ∀ item rule, Uniform (lookup item rule)) (view : α → Value)
    (items : List α) (comparator : Comparator) :
    Uniform (comparator.sort lookup view items) :=
  composes_uniform.sort hlookup view items comparator

end Comparator

end Collate
