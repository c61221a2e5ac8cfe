import Mathlib.Logic.Function.Iterate
import Collate.Proofs.Comparison.Answering
import Collate.Proofs.Sorter.Session

/-!
# A comparator that was built stays as it is

A comparator goes by the rules and options that there were when it was built.  Whatever is done
with its sorter from then on, and whatever other comparators are built and asked, changes nothing
in it; only its own questions count, and these only if it shuffles: every question takes one coin
flip (`Session.built_after`).

So a question to it has the reply that it would have had at once.  A shuffling comparator replies
with the flips of its seed, in their order (`Session.reply_of_built`).

## Strategy

Comparators are kept at the positions at which they were built, each as it will answer the next
question.  What `Session.built_perform` says of one step becomes the number of questions to that
position (`Step.asks`) over a run.
-/

namespace Collate

open Sorter

variable {α : Type}

/-! ## The flips of a comparator -/

namespace Twister

/-- The flips in their order, each from what the flips before it leave. -/
theorem getElem?_flips {count k : Nat} (hk : k < count) (t : Twister) :
    (flips count t)[k]? = some ((fun t : Twister => t.flip.2)^[k] t).flip.1 := by
  induction count generalizing k t with
  | zero => cases hk
  | succ count ih =>
      cases k with
      | zero => rfl
      | succ k =>
          rw [Function.iterate_succ_apply]
          exact ih (Nat.lt_of_succ_lt_succ hk) t.flip.2

end Twister

namespace Comparator

theorem iterate_next_shuffle (k : Nat) (t : Twister) :
    next^[k] (shuffle t) = shuffle ((fun t : Twister => t.flip.2)^[k] t) := by
  induction k generalizing t with
  | zero => rfl
  | succ k ih =>
      rw [Function.iterate_succ_apply, Function.iterate_succ_apply]
      exact ih t.flip.2

/-- A comparator that does not shuffle is the same for every question. -/
theorem iterate_next_build {options : CompareOptions} (h : options.random = false)
    (rules : List Rule) (k : Nat) : next^[k] (build rules options) = build rules options := by
  apply Function.iterate_fixed
  unfold build
  rw [h]
  cases options.custom <;> rfl

end Comparator

/-! ## Steps -/

/-- Whether the step asks the comparator that was built at this position. -/
def Sorter.Step.asks (position : Nat) : Step α → Bool
  | .compare asked _ _ => asked == position
  | _ => false

namespace Session

variable {session : Session α} {position : Nat} {comparator : Comparator}

theorem reply_ask (session : Session α) (position : Nat) (comparator : Comparator) (a b : Value) :
    (session.ask position comparator a b).1 =
      Reply.of .answered (((comparator.compare session.sorter.reader.lookup a b
        session.sorter.bulletin).1.map Prod.fst).mapError .failure) := by
  simp only [ask]
  rw [compare_apply, reporting_apply]
  cases (comparator.compare session.sorter.reader.lookup a b session.sorter.bulletin).1 <;> rfl

/-- A question to one comparator leaves the others as they are. -/
theorem built_ask_of_ne {asked : Nat} (h : asked ≠ position) (other : Comparator) (a b : Value) :
    (session.ask asked other a b).2.built[position]? = session.built[position]? := by
  simp only [ask]
  cases (Sorter.compare other a b session.sorter).1 with
  | error fault => rfl
  | ok answer => exact List.getElem?_set_ne h

theorem built_ask (h : session.built[position]? = some comparator) (a b : Value) :
    (session.ask position comparator a b).2.built[position]? = some comparator.next := by
  simp only [ask]
  rw [compare_apply, reporting_apply]
  cases hcompare : comparator.compare session.sorter.reader.lookup a b session.sorter.bulletin with
  | mk outcome later =>
    cases outcome with
    | error failure =>
        rw [Comparator.next_eq_self_of_compare_fails hcompare]
        exact h
    | ok answer =>
        have hnext : answer.2 = comparator.next := Comparator.next_of_compare hcompare
        have hposition := (List.getElem?_eq_some_iff.mp h).1
        show (session.built.set position answer.2)[position]? = _
        rw [List.getElem?_set_self hposition, hnext]

variable [DecidableEq α]

/-- Only a question to it makes the next comparator of one that was built. -/
theorem built_perform (h : session.built[position]? = some comparator) (step : Step α) :
    (session.perform step).2.built[position]? =
      some (if step.asks position then comparator.next else comparator) := by
  cases step with
  | assign assignment => exact h
  | configure change => exact h
  | build =>
      -- the new one comes behind it
      have hposition := (List.getElem?_eq_some_iff.mp h).1
      exact (List.getElem?_append_left hposition).trans h
  | compare asked a b =>
      simp only [perform, Step.asks, beq_iff_eq]
      by_cases heq : asked = position
      · subst heq
        rw [if_pos rfl, h]
        exact built_ask h a b
      · rw [if_neg heq]
        cases session.built[asked]? with
        | none => exact h
        | some other => exact (built_ask_of_ne heq other a b).trans h
  | lookup item rule => exact h
  | sort view items => exact h
  | act action => exact h

/-- After any steps, a comparator that was built has gone on by the number of its questions. -/
theorem built_after (h : session.built[position]? = some comparator) (steps : List (Step α)) :
    (session.after steps).built[position]? =
      some (Comparator.next^[steps.countP (Step.asks position)] comparator) := by
  induction steps generalizing session comparator with
  | nil => exact h
  | cons step rest ih =>
      have hstep := built_perform h step
      rw [after_cons, ih hstep]
      cases hasks : step.asks position with
      | true =>
          rw [List.countP_cons_of_pos hasks, Function.iterate_succ_apply]
          rfl
      | false =>
          rw [List.countP_cons_of_neg (by rw [hasks]; exact Bool.false_ne_true)]
          rfl

end Session

/-! ## Replies -/

/-- What the comparator of the present configuration answers, after these reports. -/
def Sorter.answerTo (sorter : Sorter α) (bulletin : Bulletin) (a b : Value) :
    Except Failure Value :=
  (sorter.comparator.compare sorter.reader.lookup a b bulletin).1.map Prod.fst

namespace Session

variable [DecidableEq α]

/-- **A comparator that was built replies as it would have replied at once**, whatever is done
before it is asked: rules are assigned, options are changed, items are sorted, other comparators
are built and asked.  It goes by the rules and options that there were when it was built, and by
nothing else but the outlet, if a warning is refused because of those before it.  If it shuffles
by a seed, its questions are answered one after the other by the flips of a new source with that
seed; the count goes by the questions to this comparator alone. -/
theorem reply_of_built (session : Session α) (steps : List (Step α)) (a b : Value) :
    let sorter := session.sorter
    let position := session.built.length
    let later := (session.perform .build).2.after steps
    let reply := (later.perform (.compare position a b)).1
    let asked := steps.countP (Step.asks position)
    (sorter.options.random = false →
      reply = Reply.of .answered
        ((sorter.answerTo later.sorter.bulletin a b).mapError .failure) ∧
      (sorter.bulletin.outlet.Forgetful →
        reply = Reply.of .answered ((sorter.answerTo sorter.bulletin a b).mapError .failure))) ∧
    ∀ seed, sorter.options.random = true → sorter.options.seed = some seed →
      ∃ heads, (Twister.flips (asked + 1) (.ofSeed seed))[asked]? = some heads ∧
        reply = .answered (.int (if heads then -1 else 1)) := by
  intro sorter position later reply asked
  have hbuilt : (session.perform .build).2.built[position]? = some sorter.comparator :=
    List.getElem?_concat_length
  have hlater : later.built[position]? = some (Comparator.next^[asked] sorter.comparator) :=
    built_after hbuilt steps
  have hask : reply =
      (later.ask position (Comparator.next^[asked] sorter.comparator) a b).1 := by
    show (later.perform (.compare position a b)).1 = _
    simp only [perform]
    rw [hlater]
  obtain ⟨hreader, houtlet, -⟩ := source_after (session.perform .build).2 steps
  rw [reply_ask] at hask
  refine ⟨fun hrandom => ?_, fun seed hrandom hseed => ?_⟩
  · have hnext : Comparator.next^[asked] sorter.comparator = sorter.comparator :=
      Comparator.iterate_next_build hrandom sorter.rules asked
    have hreply : reply = Reply.of .answered
        ((sorter.answerTo later.sorter.bulletin a b).mapError .failure) := by
      rw [hask, hnext, hreader]
      rfl
    refine ⟨hreply, fun hforgetful => ?_⟩
    -- much may have been reported in between, but the outlet does not go by it
    have halike : Bulletin.Alike later.sorter.bulletin sorter.bulletin :=
      Bulletin.alike_of_forgetful houtlet (houtlet ▸ hforgetful)
    have huniform := Comparator.uniform_compare sorter.reader.uniform_lookup a b sorter.comparator
    rw [hreply, answerTo, huniform.outcome_eq halike]
    rfl
  · have hshuffle : sorter.comparator = .shuffle (.ofSeed seed) := by
      unfold Sorter.comparator Comparator.build
      rw [if_pos hrandom, hseed]
      rfl
    refine ⟨_, Twister.getElem?_flips (Nat.lt_succ_self asked) _, ?_⟩
    rw [hask, hshuffle, Comparator.iterate_next_shuffle]
    rfl

/-- A comparator is asked twice, rules and options are replaced, another comparator is built and
asked, and items are sorted at random.  If it shuffles, its third reply is the third flip of its
seed; if not, it replies as at first. -/
theorem reply_of_built_interleaved :
    let rule : Rule := ⟨.path ["x"], none, true, by decide, by simp⟩
    let start (options : CompareOptions) : Session Nat :=
      ⟨Sorter.create .plain [rule] options (.opened 5 .journal), []⟩
    let steps : List (Step Nat) :=
      [.compare 0 (.int 1) (.int 2), .assign (.rules []),
        .configure fun _ => { random := true, seed := some 3 }, .build, .compare 1 .none .none,
        .sort (fun k => .int k) [2, 1], .compare 0 (.int 2) (.int 1)]
    let reply (options : CompareOptions) (a b : Value) : Reply Nat :=
      ((((start options).perform .build).2.after steps).perform (.compare 0 a b)).1
    ∀ a b,
      (∃ heads, (Twister.flips 3 (.ofSeed 7))[2]? = some heads ∧
        reply { random := true, seed := some 7 } a b =
          .answered (.int (if heads then -1 else 1))) ∧
      reply {} a b = Reply.of .answered
        (((start {}).sorter.answerTo (.opened 5 .journal) a b).mapError .failure) := by
  intro rule start steps reply a b
  have hshuffles := (reply_of_built (start { random := true, seed := some 7 }) steps a b).2
  have hcompares := (reply_of_built (start {}) steps a b).1
  exact ⟨hshuffles 7 rfl rfl, (hcompares rfl).2 Outlet.forgetful_journal⟩

end Session

end Collate
