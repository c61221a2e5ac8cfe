import Collate.Proofs.Comparison.Outcome
import Collate.Proofs.Comparison.Uniform

/-!
# Comparators that always answer

A comparator *answers* for two items if comparing them tells whether the first one comes before
the second, whatever was reported before (`Comparator.Answers`).  A sort whose comparator answers
for all its items has a result, however the answers contradict each other
(`Comparator.exists_sort`).

A shuffling comparator always answers (`Comparator.answers_shuffle`), and a custom one wherever
what it comes to can be turned around and compared with zero (`Comparator.answers_custom`).  One
that goes by rules does where its values are known and can be compared
(`Comparator.answers_byRules`).
-/

namespace Collate

variable {α : Type} {outlet : Outlet} {lookup : Value → Rule → Reporting Value}

open Reporting

namespace Comparator

variable {a b : Value} {comparator : Comparator}

theorem compare_shuffle (source : Twister) :
    (shuffle source).compare lookup a b =
      pure (.int (if source.flip.1 then -1 else 1), shuffle source.flip.2) := rfl

theorem compare_custom (f : CustomComparison) (reverse : Bool) :
    (custom f reverse).compare lookup a b =
      orRaise ((f a b).bind (Value.withSign reverse)) >>= fun result =>
        pure (result, custom f reverse) := rfl

theorem compare_byRules (rules : List Rule) (reverse : Bool) :
    (byRules rules reverse).compare lookup a b =
      compareByRules lookup reverse a b rules >>= fun result =>
        pure (.int result, byRules rules reverse) := rfl

/-! ## One question after the other -/

/-- The comparator for the question after this one: only a shuffling comparator is another one
then. -/
def next : Comparator → Comparator
  | shuffle source => shuffle source.flip.2
  | custom f reverse => custom f reverse
  | byRules rules reverse => byRules rules reverse

theorem next_of_compare {answer : Value} {following : Comparator} {bulletin later : Bulletin}
    (h : comparator.compare lookup a b bulletin = (.ok (answer, following), later)) :
    following = comparator.next := by
  cases comparator with
  | shuffle source =>
      cases h
      rfl
  | custom f reverse =>
      rw [compare_custom, bind_apply] at h
      split at h
      · cases h
        rfl
      · cases h
  | byRules rules reverse =>
      rw [compare_byRules, bind_apply] at h
      split at h
      · cases h
        rfl
      · cases h

/-- Whoever fails to answer will go by the same the next time. -/
theorem next_eq_self_of_compare_fails {failure : Failure} {bulletin later : Bulletin}
    (h : comparator.compare lookup a b bulletin = (.error failure, later)) :
    comparator.next = comparator := by
  cases comparator with
  | shuffle source => cases h
  | custom f reverse => rfl
  | byRules rules reverse => rfl

/-! ## Answers -/

/-- Comparing the two items comes to an answer, whatever was reported before: to something that
is either below zero or not. -/
def Answers (comparator : Comparator) (lookup : Value → Rule → Reporting Value) (outlet : Outlet)
    (a b : Value) : Prop :=
  ∀ bulletin, bulletin.outlet = outlet →
    ∃ reply, (answer lookup id a b comparator bulletin).1 = .ok reply

theorem answer_apply (lookup : Value → Rule → Reporting Value) (view : α → Value) (x y : α)
    (bulletin : Bulletin) :
    answer lookup view x y comparator bulletin =
      match comparator.compare lookup (view x) (view y) bulletin with
      | (.ok (result, next), later) => ((result.less (.int 0)).map (·, next), later)
      | (.error failure, later) => (.error failure, later) := by
  unfold answer
  rw [bind_apply]
  cases comparator.compare lookup (view x) (view y) bulletin with
  | mk outcome later =>
    cases outcome with
    | error failure => rfl
    | ok compared =>
        simp only [bind_apply, orRaise_apply]
        cases compared.1.less (.int 0) <;> rfl

theorem answers_shuffle (source : Twister) (a b : Value) :
    (shuffle source).Answers lookup outlet a b := by
  intro bulletin _
  refine ⟨(decide ((if source.flip.1 then -1 else 1 : Int) < 0), shuffle source.flip.2), ?_⟩
  rw [answer_apply, compare_shuffle, pure_apply]
  dsimp only
  rw [Value.less_int]
  rfl

/-- A custom comparison answers if its sign can be turned, and what comes of it be compared with
zero. -/
theorem answers_custom {f : CustomComparison} {reverse : Bool} {result : Value} {first : Bool}
    (h : (f a b).bind (Value.withSign reverse) = .ok result)
    (hfirst : result.less (.int 0) = .ok first) :
    (custom f reverse).Answers lookup outlet a b := by
  intro bulletin _
  refine ⟨(first, custom f reverse), ?_⟩
  rw [answer_apply, compare_custom, bind_apply, orRaise_apply, id, id, h]
  show Except.map _ (result.less (.int 0)) = _
  rw [hfirst]
  rfl

/-- Rules answer where their values are known and present values can be compared. -/
theorem answers_byRules {value : Value → Rule → Value} {rules : List Rule} {reverse : Bool}
    (ha : ∀ rule ∈ rules, (lookup a rule).Returns outlet (value a rule))
    (hb : ∀ rule ∈ rules, (lookup b rule).Returns outlet (value b rule))
    (hanswerable : ∀ rule ∈ rules, (value a rule).isMissing = false →
      (value b rule).isMissing = false → (value a rule).Answerable (value b rule)) :
    (byRules rules reverse).Answers lookup outlet a b := by
  intro bulletin houtlet
  have hconcludes : (answer lookup id a b (byRules rules reverse)).Concludes outlet
      (((judged value reverse rules a b).map fun verdict => decide (verdict < 0)).map
        (·, byRules rules reverse)) := concludes_answer ha hb
  obtain ⟨later, hanswer, -⟩ := hconcludes bulletin houtlet
  cases hverdict : judged value reverse rules a b with
  | ok verdict =>
      refine ⟨(decide (verdict < 0), byRules rules reverse), ?_⟩
      rw [hanswer, hverdict]
      rfl
  | error failure =>
      obtain ⟨rule, hrule, haPresent, hbPresent, hfails⟩ := exists_of_judged_eq_error hverdict
      obtain ⟨answer, hlesser⟩ := (hanswerable rule hrule haPresent hbPresent).exists_lesser
      rw [hlesser] at hfails
      cases hfails

/-! ## Sorting -/

/-- The comparator that answers next answers wherever this one does. -/
theorem Answers.next {x y : Value} (h : comparator.Answers lookup outlet x y) :
    comparator.next.Answers lookup outlet x y := by
  cases comparator with
  | shuffle source => exact answers_shuffle _ x y
  | custom f reverse => exact h
  | byRules rules reverse => exact h

theorem next_of_answer {view : α → Value} {x y : α} {first : Bool} {following : Comparator}
    {bulletin later : Bulletin}
    (h : answer lookup view x y comparator bulletin = (.ok (first, following), later)) :
    following = comparator.next := by
  rw [answer_apply] at h
  split at h
  · next compared next between hcompare =>
    obtain ⟨answered, -, hfollowing⟩ := exists_of_map_eq_ok (congrArg Prod.fst h)
    cases hfollowing
    exact next_of_compare hcompare
  · cases h

/-- Warnings go to this outlet, and the comparator answers for any two of the items. -/
def AnswersAll (lookup : Value → Rule → Reporting Value) (view : α → Value) (outlet : Outlet)
    (items : List α) (asked : Comparator) (bulletin : Bulletin) : Prop :=
  bulletin.outlet = outlet ∧
    ∀ x ∈ items, ∀ y ∈ items, asked.Answers lookup outlet (view x) (view y)

/-- A question that is answered leaves a comparator that answers. -/
theorem AnswersAll.exists_answer {view : α → Value} {items : List α} {bulletin : Bulletin}
    (hlookup : ∀ item rule, Uniform (lookup item rule))
    (h : AnswersAll lookup view outlet items comparator bulletin) {x y : α} (hx : x ∈ items)
    (hy : y ∈ items) :
    ∃ reply next later, answer lookup view x y comparator bulletin = (.ok (reply, next), later) ∧
      AnswersAll lookup view outlet items next later := by
  obtain ⟨houtlet, hanswers⟩ := h
  obtain ⟨⟨reply, next⟩, hreply⟩ := hanswers x hx y hy bulletin houtlet
  have hkept := (uniform_answer hlookup view x y comparator).outlet_eq bulletin
  cases hanswer : answer lookup view x y comparator bulletin with
  | mk outcome later =>
    rw [show answer lookup id (view x) (view y) comparator bulletin = (outcome, later) from
      hanswer] at hreply
    rw [hanswer] at hkept
    cases hreply
    refine ⟨reply, next, later, rfl, hkept.trans houtlet, fun x' hx' y' hy' => ?_⟩
    rw [next_of_answer hanswer]
    exact (hanswers x' hx' y' hy').next

/-- A sort has a result if its comparator answers for all its items. -/
theorem exists_sort {view : α → Value} {items : List α} {bulletin : Bulletin}
    (hlookup : ∀ item rule, Uniform (lookup item rule))
    (h : ∀ x ∈ items, ∀ y ∈ items, comparator.Answers lookup outlet (view x) (view y))
    (houtlet : bulletin.outlet = outlet) :
    ∃ order later, comparator.sort lookup view items bulletin = (.ok order, later) ∧
      order.Perm items := by
  have hready : AnswersAll lookup view outlet items comparator bulletin := ⟨houtlet, h⟩
  obtain ⟨order, next, later, hrun, hperm, -⟩ := exists_run (Ordering.asksOnly_sort items)
    (fun _ _ _ _ hx hy hready => hready.exists_answer hlookup hx hy) hready
  refine ⟨order, later, ?_, hperm⟩
  have hsort : comparator.sort lookup view items bulletin =
      ((Ordering.sort items).run (answer lookup view) comparator >>= fun asked =>
        pure asked.1) bulletin := rfl
  rw [hsort, bind_apply, hrun]
  rfl

end Comparator

end Collate
