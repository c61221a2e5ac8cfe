import Collate.Proofs.Comparison.Answering
import Collate.Proofs.Comparison.Verdict
import Collate.Proofs.Hub.Calm
import Collate.Proofs.Sorter.Outcome

/-!
# Sorts that complete

Once a sort has found an order, nothing but an interrupted handler can keep it from returning
it (`Sorter.exists_sortAsking_of_calm`).  It finds one if every question it asks is answered, by
whatever keeps an invariant of its state (`Sorter.exists_sortAsking_of_answers`), in particular
if its comparator answers for all items (`Sorter.exists_sort_of_answers`); and if the answers are
those of rules whose values compare consistently, it is known which one
(`Sorter.exists_sort_verdict`).
-/

namespace Collate.Sorter

variable {α : Type} {sorter : Sorter α} {view : α → Value} {items order : List α}
  {bulletin : Bulletin}

theorem comparator_eq_shuffle (hrandom : sorter.options.random = true) :
    sorter.comparator = .shuffle (Twister.ofSeed (sorter.options.seed.getD 0)) := by
  unfold Sorter.comparator Comparator.build
  rw [hrandom]
  rfl

/-- A sorter that shuffles answers for any two items. -/
theorem answers_of_random (h : sorter.options.random = false → ∀ x ∈ items, ∀ y ∈ items,
      sorter.comparator.Answers sorter.reader.lookup sorter.bulletin.outlet (view x) (view y)) :
    ∀ x ∈ items, ∀ y ∈ items, sorter.comparator.Answers sorter.reader.lookup
      sorter.bulletin.outlet (view x) (view y) := by
  cases hrandom : sorter.options.random with
  | false => exact h hrandom
  | true =>
      intro x _ y _
      rw [comparator_eq_shuffle hrandom]
      exact Comparator.answers_shuffle _ _ _

theorem calm_create (reader : ItemReader) (rules : List Rule) (options : CompareOptions)
    (bulletin : Bulletin) : (create reader rules options bulletin : Sorter α).hub.Calm := by
  intro subscription hsubscription
  cases hsubscription

variable [DecidableEq α]

/-- A sort that has found an order returns it, if no handler interrupts. -/
theorem exists_sortAsking_of_calm {σ : Type} {answer : α → α → StateT σ Reporting Bool} {state : σ}
    (hcalm : sorter.hub.Calm)
    (h : ((Ordering.sort items).run answer).run' state sorter.bulletin.cleared =
      (.ok order, bulletin)) :
    ∃ hub, sortAsking answer state items sorter = (.ok (resultOf items order bulletin),
      sorter.noted (resultOf items order bulletin) bulletin hub) ∧ hub.Calm := by
  rcases sorter.sortAsking_cases answer state items with
    ⟨_, _, hrun, -⟩ | ⟨order', bulletin', hub, hrun, hsort⟩
  · rw [h] at hrun
    cases hrun
  rw [h] at hrun
  cases hrun
  obtain ⟨later, hpublish, hlater⟩ := Hub.exists_publish_of_calm hcalm
    ⟨"sort_completed", .sorted (resultOf items order bulletin)⟩
  rcases hsort with ⟨hannounced, hsort⟩ | ⟨failure, hannounced, -⟩
  · rw [hpublish] at hannounced
    cases hannounced
    exact ⟨hub, hsort, hlater⟩
  · rw [hpublish] at hannounced
    cases hannounced

theorem exists_sort_of_calm (hcalm : sorter.hub.Calm)
    (h : sorter.comparator.sort sorter.reader.lookup view items sorter.bulletin.cleared =
      (.ok order, bulletin)) :
    ∃ hub, Sorter.sort view items sorter = (.ok (resultOf items order bulletin),
      sorter.noted (resultOf items order bulletin) bulletin hub) ∧ hub.Calm := by
  rw [sort_eq_sortAsking]
  exact exists_sortAsking_of_calm hcalm h

/-- A sort whose questions are all answered, where answering keeps some invariant of the state and
of what was reported, returns the items. -/
theorem exists_sortAsking_of_answers {σ : Type} {answer : α → α → StateT σ Reporting Bool}
    {ready : σ → Bulletin → Prop} {start : σ} (hcalm : sorter.hub.Calm)
    (hstart : ready start sorter.bulletin.cleared)
    (hanswer : ∀ x ∈ items, ∀ y ∈ items, ∀ state bulletin, ready state bulletin →
      ∃ first next later, answer x y state bulletin = (.ok (first, next), later) ∧
        ready next later) :
    ∃ result later, sortAsking answer start items sorter = (.ok result, later) ∧
      result.order.Perm items ∧ result.moved = differences items result.order := by
  obtain ⟨order, last, bulletin, hrun, -⟩ := exists_run (Ordering.asksOnly_sort items)
    (fun x y state bulletin hx hy => hanswer x hx y hy state bulletin) hstart
  have hfound : ((Ordering.sort items).run answer).run' start sorter.bulletin.cleared =
      (.ok order, bulletin) := by
    show ((Ordering.sort items).run answer start >>= fun asked => pure asked.1)
      sorter.bulletin.cleared = _
    rw [bind_apply, hrun]
    rfl
  obtain ⟨hub, hsort, -⟩ := exists_sortAsking_of_calm hcalm hfound
  exact ⟨resultOf items order bulletin, _, hsort, perm_of_sortAsking hsort⟩

/-- A sort whose comparator answers for all items returns them. -/
theorem exists_sort_of_answers (hcalm : sorter.hub.Calm)
    (h : ∀ x ∈ items, ∀ y ∈ items, sorter.comparator.Answers sorter.reader.lookup
      sorter.bulletin.outlet (view x) (view y)) :
    ∃ result later, Sorter.sort view items sorter = (.ok result, later) ∧
      result.order.Perm items ∧ result.moved = differences items result.order := by
  obtain ⟨order, bulletin, hrun, hperm⟩ := Comparator.exists_sort
    sorter.reader.uniform_lookup h (show sorter.bulletin.cleared.outlet = _ from rfl)
  obtain ⟨hub, hsort, -⟩ := exists_sort_of_calm hcalm hrun
  exact ⟨resultOf items order bulletin, _, hsort, hperm, rfl⟩

/-- A sort by rules returns the items in the order of the verdict on their values. -/
theorem exists_sort_verdict {value : α → Rule → Value} (hcalm : sorter.hub.Calm)
    (hrandom : sorter.options.random = false) (hcustom : sorter.options.custom = none)
    (hlookup : ∀ x ∈ items, ∀ rule ∈ sorter.rules,
      (sorter.reader.lookup (view x) rule).Returns sorter.bulletin.outlet (value x rule))
    (hvalues : ValuesConsistent (· ∈ items) value sorter.rules) :
    ∃ result later, Sorter.sort view items sorter = (.ok result, later) ∧
      result.order = sortBy (verdict value sorter.options.reverse sorter.rules) items ∧
      SameSetup sorter later ∧ later.hub.Calm := by
  have hreturns := returns_sortBy sorter.options.reverse hlookup hvalues
  rw [← comparator_eq_byRules hrandom hcustom] at hreturns
  obtain ⟨bulletin, hrun, houtlet⟩ := hreturns sorter.bulletin.cleared rfl
  obtain ⟨hub, hsort, hlater⟩ := exists_sort_of_calm hcalm hrun
  exact ⟨_, _, hsort, rfl, ⟨rfl, rfl, rfl, houtlet⟩, hlater⟩

end Collate.Sorter
