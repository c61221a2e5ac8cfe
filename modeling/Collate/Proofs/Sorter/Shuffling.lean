import Collate.Proofs.Ordering.Renaming
import Collate.Proofs.Sorter.Completing
import Collate.Proofs.Sorter.History
import Collate.Proofs.Sorter.Warnings

/-!
# Shuffling moves positions

A sort at random answers its questions by flips of a coin, without a look at the items.  So it asks
the same questions about the positions of any list of that length, and the places where the items
go depend on the seed and their number alone (`Sorter.sort_shuffles_positions`).  It makes no
lookup, so there is nothing to warn of.

## Strategy

`Inquiry.flipped` is an inquiry with all its questions answered by flips; renaming the items changes
nothing but the names in the result (`Inquiry.flipped_rename`).  A list of items is the list of its
positions, renamed to what stands there.
-/

namespace Collate

/-! ## Questions answered by flips -/

namespace Inquiry

variable {α γ β δ : Type}

/-- The result of an inquiry whose questions are answered by flips, and the source after them. -/
def flipped : Inquiry α β → Twister → β × Twister
  | done result, source => (result, source)
  | ask _ _ next, source => (next source.flip.1).flipped source.flip.2

theorem flipped_rename (f : α → γ) (g : β → δ) (inquiry : Inquiry α β) (source : Twister) :
    (inquiry.rename f g).flipped source = Prod.map g id (inquiry.flipped source) := by
  induction inquiry generalizing source with
  | done result => rfl
  | ask x y next ih => exact ih source.flip.1 source.flip.2

theorem AsksOnly.flipped {among : α → Prop} {post : β → Prop} {inquiry : Inquiry α β}
    (h : inquiry.AsksOnly among post) (source : Twister) : post (inquiry.flipped source).1 := by
  induction inquiry generalizing source with
  | done result => exact h
  | ask x y next ih => exact ih source.flip.1 (h.2.2 _) source.flip.2

end Inquiry

/-! ## Shuffling -/

namespace Comparator

variable {α : Type} {m : Type → Type} [Monad m] [LawfulMonad m] [MonadExceptOf Failure m]

theorem answer_shuffle (lookup : Value → Rule → m Value) (view : α → Value) (x y : α)
    (source : Twister) :
    answer lookup view x y (.shuffle source) = pure (source.flip.1, .shuffle source.flip.2) := by
  unfold answer compare
  rw [pure_bind]
  cases source.flip.1
  all_goals
    dsimp only
    rw [Value.less_int]
    exact pure_bind _ _

/-- A comparator that shuffles answers by flips, and looks nothing up. -/
theorem run_shuffle {β : Type} (lookup : Value → Rule → m Value) (view : α → Value)
    (inquiry : Inquiry α β) (source : Twister) :
    (inquiry.run (answer lookup view)) (.shuffle source) =
      pure ((inquiry.flipped source).1, .shuffle (inquiry.flipped source).2) := by
  induction inquiry generalizing source with
  | done result => rfl
  | ask x y next ih =>
      show (answer lookup view x y (.shuffle source) >>= fun answered =>
        ((next answered.1).run (answer lookup view)) answered.2) = _
      rw [answer_shuffle, pure_bind]
      exact ih source.flip.1 source.flip.2

/-- The items in the order in which they are shuffled. -/
def shuffled (source : Twister) (items : List α) : List α :=
  ((Ordering.sort items).flipped source).1

theorem sort_shuffle (lookup : Value → Rule → m Value) (view : α → Value) (items : List α)
    (source : Twister) :
    Comparator.sort lookup view items (.shuffle source) = pure (shuffled source items) := by
  show (fun answered : List α × Comparator => answered.1) <$>
    (Ordering.sort items).run (answer lookup view) (.shuffle source) = _
  rw [run_shuffle, map_pure]
  rfl

theorem perm_shuffled (source : Twister) (items : List α) : (shuffled source items).Perm items :=
  (Ordering.asksOnly_sort items).flipped source

theorem shuffled_map {γ : Type} (f : α → γ) (source : Twister) (items : List α) :
    shuffled source (items.map f) = (shuffled source items).map f := by
  unfold shuffled
  rw [Ordering.sort_map, Inquiry.flipped_rename]
  rfl

/-- Shuffled items are what stands at the shuffled positions. -/
theorem map_some_shuffled (source : Twister) (items : List α) :
    (shuffled source items).map some =
      (shuffled source (List.range items.length)).map fun position => items[position]? := by
  -- every item is what stands at its position
  have hitems :
      items.map some = (List.range items.length).map fun position => items[position]? := by
    refine List.ext_getElem (by simp) fun position _ _ => ?_
    simp
  rw [← shuffled_map, ← shuffled_map, hitems]

end Comparator

/-! ## Sorting at random -/

namespace Sorter

variable {α : Type} {sorter : Sorter α} {seed : Int}

theorem sort_comparator_of_random {m : Type → Type} [Monad m] [LawfulMonad m]
    [MonadExceptOf Failure m] (hrandom : sorter.options.random = true)
    (hseed : sorter.options.seed = some seed) (lookup : Value → Rule → m Value) (view : α → Value)
    (items : List α) :
    sorter.comparator.sort lookup view items =
      pure (Comparator.shuffled (Twister.ofSeed seed) items) := by
  rw [comparator_eq_shuffle hrandom, hseed]
  exact Comparator.sort_shuffle lookup view items _

/-- **Shuffling moves positions only.**  To a seed and a number of items belongs one permutation of
positions, and a sort at random takes the items there, whatever items, rules, direction and custom
comparison there are.  Its comparisons look nothing up, in whatever way values would be looked up;
so there are no warnings, and none is handed on. -/
theorem sort_shuffles_positions (seed : Int) (count : Nat) :
    ∃ positions : List Nat, positions.Perm (List.range count) ∧
      ∀ {α : Type} [DecidableEq α] (sorter : Sorter α) (view : α → Value) (items : List α),
        sorter.options.random = true → sorter.options.seed = some seed → items.length = count →
        ∃ result : Sorted α,
          sorter.SortsTo view items (.ok result) ∧
          result.order.map some = positions.map (fun position => items[position]?) ∧
          result.warnings = [] ∧
          (Sorter.sort view items sorter).2.bulletin.handed = sorter.bulletin.handed ∧
          ∀ {m : Type → Type} [Monad m] [LawfulMonad m] [MonadExceptOf Failure m]
            (lookup : Value → Rule → m Value),
            sorter.comparator.sort lookup view items = pure result.order := by
  refine ⟨Comparator.shuffled (Twister.ofSeed seed) (List.range count),
    Comparator.perm_shuffled _ _, ?_⟩
  rintro α _ sorter view items hrandom hseed rfl
  -- no lookup is made, so the bulletin is only cleared
  have hfinding : sorter.finding view items =
      (.ok (Comparator.shuffled (Twister.ofSeed seed) items), sorter.bulletin.cleared) :=
    congrFun (sort_comparator_of_random hrandom hseed sorter.reader.lookup view items)
      sorter.bulletin.cleared
  have houtcome := sorter.sortsTo_outcome view items
  unfold outcome at houtcome
  rw [hfinding] at houtcome
  refine ⟨_, houtcome, Comparator.map_some_shuffled _ items, rfl, ?_,
    fun lookup => sort_comparator_of_random hrandom hseed lookup view items⟩
  rw [sort_of_finding_eq_ok hfinding, noted, Bulletin.handed_record_debug, Bulletin.handed_cleared]

/-- Three numbers, of which nothing can be looked up, and three texts, with a comparison that fails,
go to the same places with the same seed. -/
theorem sort_shuffles_positions_alike :
    let refusing : ItemReader := ⟨fun _ _ => .error .emptyPath, fun _ _ => .ok .missing,
      fun _ _ => .ok .missing⟩
    let numbers : Sorter Nat := Sorter.create refusing Rule.defaults
      { random := true, seed := some 7 } (.opened 3 (.listener none))
    let texts : Sorter String := Sorter.create .plain
      [⟨.path ["size"], none, true, by decide, by simp⟩]
      { random := true, reverse := true, custom := some fun _ _ => .error .emptyPath,
        seed := some 7 } (.opened 5 .journal)
    ∃ (positions : List Nat) (first : Sorted Nat) (second : Sorted String),
      positions.Perm [0, 1, 2] ∧
      numbers.SortsTo (fun n => .int n) [30, 10, 20] (.ok first) ∧
      texts.SortsTo Value.text ["b", "a", "b"] (.ok second) ∧
      first.order.map some = positions.map (fun position => [30, 10, 20][position]?) ∧
      second.order.map some = positions.map (fun position => ["b", "a", "b"][position]?) ∧
      first.warnings = [] ∧ second.warnings = [] := by
  intro refusing numbers texts
  obtain ⟨positions, hperm, hsorts⟩ := sort_shuffles_positions 7 3
  obtain ⟨first, hfirst, hnumbers, hquiet, -⟩ :=
    hsorts numbers (fun n => .int n) [30, 10, 20] rfl rfl rfl
  obtain ⟨second, hsecond, htexts, hquiet', -⟩ :=
    hsorts texts Value.text ["b", "a", "b"] rfl rfl rfl
  exact ⟨positions, first, second, hperm, hfirst, hsecond, hnumbers, htexts, hquiet, hquiet'⟩

end Sorter

end Collate
