import Mathlib.Data.List.Range
import Collate.Proofs.Sorter.Completing

/-!
# The items that a sort moves

A sort returns the items that it was given, as often as each of them was given, whatever the
answers to its questions are and whatever they depend on, and says at how many positions there
is another item than before (`Sorter.sort_keeps_items`).  That number is zero if nothing has
changed, and it is never one: an item that has left its position has taken that of another one.
-/

namespace Collate.Sorter

variable {α : Type} [DecidableEq α] {items order : List α}

/-! ## Positions that have changed -/

/-- The positions at which there is another item, counted one by one. -/
theorem differences_eq_countP (hlength : order.length = items.length) :
    differences items order =
      (List.range items.length).countP fun i => decide (items[i]? ≠ order[i]?) := by
  induction items generalizing order with
  | nil =>
      obtain rfl := List.eq_nil_of_length_eq_zero hlength
      rfl
  | cons x xs ih =>
      cases order with
      | nil => cases hlength
      | cons y ys =>
          have htail : ((fun i => decide ((x :: xs)[i]? ≠ (y :: ys)[i]?)) ∘ Nat.succ) =
              fun i => decide (xs[i]? ≠ ys[i]?) := by
            funext i
            simp only [Function.comp_apply, List.getElem?_cons_succ]
          have hhead : decide ((x :: xs)[0]? ≠ (y :: ys)[0]?) = decide (x ≠ y) := by simp
          rw [differences, ih (Nat.succ.inj hlength), List.length_cons, List.range_succ_eq_map,
            List.countP_cons, List.countP_map, htail, hhead]
          by_cases hxy : x = y <;> simp [hxy, Nat.add_comm]

/-- Lists that differ once differ in a single item. -/
theorem exists_of_differences_eq_one (hlength : order.length = items.length)
    (h : differences items order = 1) :
    ∃ front x y back, x ≠ y ∧ items = front ++ x :: back ∧ order = front ++ y :: back := by
  induction items generalizing order with
  | nil => cases h
  | cons x xs ih =>
      cases order with
      | nil => cases h
      | cons y ys =>
          have hlength' : ys.length = xs.length := Nat.succ.inj hlength
          rw [differences] at h
          by_cases hxy : x = y
          · rw [if_pos hxy, Nat.zero_add] at h
            obtain ⟨front, x', y', back, hne, hxs, hys⟩ := ih hlength' h
            refine ⟨x :: front, x', y', back, hne, ?_, ?_⟩
            · rw [hxs, List.cons_append]
            · rw [← hxy, hys, List.cons_append]
          · rw [if_neg hxy] at h
            have hrest : ys = xs := eq_of_differences_eq_zero hlength' (by omega)
            exact ⟨[], x, y, xs, hxy, rfl, by rw [hrest, List.nil_append]⟩

/-- An order of the same items does not differ from them once. -/
theorem differences_ne_one (hperm : order.Perm items) : differences items order ≠ 1 := by
  intro h
  obtain ⟨front, x, y, back, hne, hitems, horder⟩ :=
    exists_of_differences_eq_one hperm.length_eq h
  rw [hitems, horder, List.perm_append_left_iff] at hperm
  -- the item that has left is missing in the order
  have hcount := hperm.count_eq x
  rw [List.count_cons_self, List.count_cons_of_ne hne.symm] at hcount
  omega

theorem differences_eq_zero_iff (hlength : order.length = items.length) :
    differences items order = 0 ↔ order = items := by
  constructor
  · exact eq_of_differences_eq_zero hlength
  · rintro rfl
    exact differences_self order

/-! ## The sort -/

/-- The sort has returned every item as often as it was given, and says how many positions hold
another item than before. -/
structure KeepsItems (items : List α) (result : Sorted α) : Prop where
  perm : result.order.Perm items
  moved_eq : result.moved =
    (List.range items.length).countP fun i => decide (items[i]? ≠ result.order[i]?)
  moved_eq_zero_iff : result.moved = 0 ↔ result.order = items
  moved_ne_one : result.moved ≠ 1

theorem keepsItems_of_perm {result : Sorted α} (hperm : result.order.Perm items)
    (hmoved : result.moved = differences items result.order) : KeepsItems items result where
  perm := hperm
  moved_eq := hmoved.trans (differences_eq_countP hperm.length_eq)
  moved_eq_zero_iff := by rw [hmoved, differences_eq_zero_iff hperm.length_eq]
  moved_ne_one := by
    rw [hmoved]
    exact differences_ne_one hperm

omit [DecidableEq α] in
/-- A comparison that may remember answers where it comes to something that can be turned around
and compared with zero. -/
theorem answerRemembering_apply {σ : Type} {compare : RememberingComparison σ} {reverse : Bool}
    {view : α → Value} {x y : α} {state next : σ} {result signed : Value} {first : Bool}
    (hcompare : compare (view x) (view y) state = .ok (result, next))
    (hsigned : result.withSign reverse = .ok signed) (hfirst : signed.less (.int 0) = .ok first)
    (bulletin : Bulletin) :
    (Comparator.answerRemembering compare reverse view x y state : Reporting (Bool × σ)) bulletin =
      (.ok (first, next), bulletin) := by
  unfold Comparator.answerRemembering
  rw [bind_apply, orRaise_apply, hcompare]
  dsimp only
  rw [bind_apply, orRaise_apply, hsigned]
  dsimp only
  rw [bind_apply, orRaise_apply, hfirst]
  rfl

/-- **A sort loses nothing, whatever the answers to its questions are.**  It asks any questioner
with a state that goes from question to question, as long as every question is answered, where
answering keeps some invariant of the state and of what was reported; so it asks any comparison that
may remember, as long as that does not fail and comes to something that can be turned around and
compared with zero; and so it asks the comparator of a sorter, which draws its answers at random or
answers for all items.  It returns every item as often as it was given, and says how many positions
hold another item than before; that is zero if the order is the one that was given, and it is never
one. -/
theorem sort_keeps_items (sorter : Sorter α) (view : α → Value) (items : List α)
    (hcalm : sorter.hub.Calm) :
    (∀ (σ : Type) (answer : α → α → StateT σ Reporting Bool) (ready : σ → Bulletin → Prop)
      (start : σ), ready start sorter.bulletin.cleared →
      (∀ x ∈ items, ∀ y ∈ items, ∀ state bulletin, ready state bulletin →
        ∃ first next later, answer x y state bulletin = (.ok (first, next), later) ∧
          ready next later) →
      ∃ result later, sortAsking answer start items sorter = (.ok result, later) ∧
        KeepsItems items result) ∧
    (∀ (σ : Type) (compare : RememberingComparison σ) (reverse : Bool) (start : σ),
      (∀ x ∈ items, ∀ y ∈ items, ∀ state, ∃ result next signed first,
        compare (view x) (view y) state = .ok (result, next) ∧
        result.withSign reverse = .ok signed ∧ signed.less (.int 0) = .ok first) →
      ∃ result later,
        sortAsking (Comparator.answerRemembering compare reverse view) start items sorter =
          (.ok result, later) ∧ KeepsItems items result) ∧
    ((sorter.options.random = false → ∀ x ∈ items, ∀ y ∈ items,
        sorter.comparator.Answers sorter.reader.lookup sorter.bulletin.outlet (view x) (view y)) →
      ∃ result later, Sorter.sort view items sorter = (.ok result, later) ∧
        KeepsItems items result) := by
  -- the first part is about any questioner; the other two are cases of it, or like it
  have hasking : ∀ (σ : Type) (answer : α → α → StateT σ Reporting Bool)
      (ready : σ → Bulletin → Prop) (start : σ), ready start sorter.bulletin.cleared →
      (∀ x ∈ items, ∀ y ∈ items, ∀ state bulletin, ready state bulletin →
        ∃ first next later, answer x y state bulletin = (.ok (first, next), later) ∧
          ready next later) →
      ∃ result later, sortAsking answer start items sorter = (.ok result, later) ∧
        KeepsItems items result := by
    intro σ answer ready start hstart hanswer
    obtain ⟨result, later, hsort, hperm, hmoved⟩ :=
      exists_sortAsking_of_answers hcalm hstart hanswer
    exact ⟨result, later, hsort, keepsItems_of_perm hperm hmoved⟩
  refine ⟨hasking, fun σ compare reverse start hcompare => ?_, fun hanswers => ?_⟩
  · -- nothing is asked of the memory, or of what was reported
    refine hasking σ _ (fun _ _ => True) start trivial fun x hx y hy state bulletin _ => ?_
    obtain ⟨result, next, signed, first, hresult, hsigned, hfirst⟩ := hcompare x hx y hy state
    exact ⟨first, next, bulletin, answerRemembering_apply hresult hsigned hfirst bulletin, trivial⟩
  · obtain ⟨result, later, hsort, hperm, hmoved⟩ :=
      exists_sort_of_answers hcalm (answers_of_random hanswers)
    exact ⟨result, later, hsort, keepsItems_of_perm hperm hmoved⟩

/-- Five items, two of them the same: by a comparison that goes round in a circle and puts
every item before itself; and by one that remembers how often it was asked, and puts the first of
two items first every other time, whatever the items are. -/
theorem sort_keeps_items_circle :
    let circle : CustomComparison := fun a b => do
      let remainder ← (← a.minus b).moduloThree
      remainder.minus (.int 1)
    let moody : RememberingComparison Nat := fun _ _ count =>
      .ok (.decimal (.finite (count % 2 == 0) 15 (-1)), count + 1)
    let sorter : Sorter Nat := Sorter.create .plain [] { custom := some circle, reverse := true }
      (.opened 3 .journal)
    let view : Nat → Value := fun n => .int n
    (∃ result later, Sorter.sort view [0, 1, 2, 1, 3] sorter = (.ok result, later) ∧
      KeepsItems [0, 1, 2, 1, 3] result) ∧
    ∃ result later,
      sortAsking (Comparator.answerRemembering moody true view) 0 [0, 1, 2, 1, 3] sorter =
        (.ok result, later) ∧ KeepsItems [0, 1, 2, 1, 3] result := by
  intro circle moody sorter view
  have hcalm : sorter.hub.Calm := calm_create _ _ _ _
  obtain ⟨-, hremembering, hsorter⟩ := sort_keeps_items sorter view [0, 1, 2, 1, 3] hcalm
  have hturned : ∀ b, (Value.decimal (.finite b 15 (-1))).withSign true =
      .ok (.decimal (.finite (!b) 15 (-1))) := by
    intro b
    cases b <;> rfl
  have hbelow : ∀ b, (Value.decimal (.finite b 15 (-1))).less (.int 0) = .ok b := by
    intro b
    rw [Value.less_of_isOrdered rfl rfl rfl]
    cases b <;> exact congrArg Except.ok (by decide +kernel)
  refine ⟨hsorter ?_, hremembering Nat moody true 0 ?_⟩
  · intro _ x _ y _
    -- the comparison comes to an integer, so it can be turned around and compared with zero
    have hcircle : (circle (view x) (view y)).bind (Value.withSign true) =
        .ok (.int (-(((x : Int) - y) % 3 - 1))) := rfl
    exact Comparator.answers_custom hcircle (Value.less_int _ 0)
  · intro x _ y _ count
    exact ⟨_, _, _, _, rfl, hturned _, hbelow _⟩

end Collate.Sorter
