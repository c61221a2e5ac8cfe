import Mathlib.Data.List.Basic
import Mathlib.Data.Nat.Find
import Collate.Lookup.Walk
import Collate.Value.Member

/-!
# Where a walk ends

A walk reads the segments of its path in turn, each from the value that the segments before it lead
to (`Walk.reached`).  It ends at the first obstacle (`Walk.along_stops`), and names it:

* the value before a segment, other than the first one, has no parts (`Walk.Blocked`), and then the
  segment is not read;
* the segment names nothing (`Walk.Absent`).

To say what is read, readings are announced before they happen (`Walk.announced`).  In any monad, a
walk announces the readings up to the first obstacle, and nothing else.

## Strategy

Where there is no obstacle up to a segment, the walk has announced the readings of the segments so
far, and walks on from what they lead to (`Walk.along_eq_onward`, by induction on the number of
these segments).  The next step shows how it ends.
-/

namespace Collate

/-- The value has no parts that a path could name; what is missing ends a path for itself. -/
def Value.HasNoParts (value : Value) : Prop := value = .none ∨ value.isPrimitive = true

namespace Walk

variable {get : Value → String → Value} {root value : Value} {path : List String} {i : Nat}

/-! ## Readings one after the other -/

/-- What some segments lead to, one after the other. -/
def reached (get : Value → String → Value) (root : Value) (segments : List String) : Value :=
  segments.foldl get root

/-- The readings of some segments, each from what the segments before it lead to. -/
def readings (get : Value → String → Value) (root : Value) : List String → List (Value × String)
  | [] => []
  | segment :: rest => (root, segment) :: readings get (get root segment) rest

theorem reached_take_succ (hi : i < path.length) :
    reached get root (path.take (i + 1)) = get (reached get root (path.take i)) path[i] := by
  rw [reached, List.take_succ_eq_append_getElem hi, List.foldl_concat, reached]

theorem readings_append (segments others : List String) :
    readings get root (segments ++ others) =
      readings get root segments ++ readings get (reached get root segments) others := by
  induction segments generalizing root with
  | nil => rfl
  | cons segment rest ih => simp [readings, reached, ih]

theorem readings_take_succ (hi : i < path.length) :
    readings get root (path.take (i + 1)) =
      readings get root (path.take i) ++ [(reached get root (path.take i), path[i])] := by
  rw [List.take_succ_eq_append_getElem hi, readings_append]
  rfl

@[simp] theorem length_readings (segments : List String) :
    (readings get root segments).length = segments.length := by
  induction segments generalizing root with
  | nil => rfl
  | cons segment rest ih => simp [readings, ih]

theorem getElem_readings (hi : i < (readings get root path).length) :
    (readings get root path)[i] =
      (reached get root (path.take i), path.get ⟨i, by simpa using hi⟩) := by
  induction path generalizing root i with
  | nil => cases hi
  | cons segment rest ih =>
      cases i with
      | zero => rfl
      | succ i => exact ih (by simpa [readings] using hi)

/-- A reading that is announced before it happens. -/
def announced {m : Type → Type} [Monad m] (announce : Value → String → m Unit)
    (get : Value → String → Value) : Reading m :=
  fun value segment => do
    announce value segment
    return get value segment

/-! ## Obstacles -/

/-- The value before a segment has no parts.  The start of a path is taken as it is. -/
def Blocked (get : Value → String → Value) (root : Value) (path : List String) (i : Nat) : Prop :=
  0 < i ∧ (reached get root (path.take i)).HasNoParts

/-- The segments up to this one lead to nothing. -/
def Absent (get : Value → String → Value) (root : Value) (path : List String) (i : Nat) : Prop :=
  reached get root (path.take (i + 1)) = .missing

/-- The segment cannot be taken. -/
def Obstacle (get : Value → String → Value) (root : Value) (path : List String) (i : Nat) : Prop :=
  Blocked get root path i ∨ Absent get root path i

/-- The segment before this one, if there is one. -/
def previous? (path : List String) : Nat → Option String
  | 0 => none
  | i + 1 => path[i]?

/-- How the walk along a path ends, and after how many readings. -/
inductive Ends (get : Value → String → Value) (root : Value) (path : List String) :
    Walk → Nat → Prop
  | found (hclear : ∀ i < path.length, ¬ Obstacle get root path i) :
    Ends get root path (.found (reached get root path)) path.length
  | blocked {i : Nat} (hi : i < path.length) (hclear : ∀ j < i, ¬ Obstacle get root path j)
    (h : Blocked get root path i) : Ends get root path (.notContainer path[i] path[i - 1]) i
  | absent {i : Nat} (hi : i < path.length) (hclear : ∀ j < i, ¬ Obstacle get root path j)
    (hparts : ¬ Blocked get root path i) (h : Absent get root path i) :
    Ends get root path (.absent path[i] (previous? path i)) (i + 1)

theorem eq_of_first_obstacle {j : Nat} (hi : Obstacle get root path i)
    (hclear : ∀ j < i, ¬ Obstacle get root path j) (hj : Obstacle get root path j)
    (hclear' : ∀ k < j, ¬ Obstacle get root path k) : i = j := by
  rcases Nat.lt_trichotomy i j with hlt | rfl | hlt
  · exact absurd hi (hclear' i hlt)
  · rfl
  · exact absurd hj (hclear j hlt)

theorem Ends.unique {walk walk' : Walk} {count count' : Nat} (h : Ends get root path walk count)
    (h' : Ends get root path walk' count') : walk = walk' ∧ count = count' := by
  cases h with
  | found hclear =>
      cases h' with
      | found => exact ⟨rfl, rfl⟩
      | blocked hi _ h => exact absurd (.inl h) (hclear _ hi)
      | absent hi _ _ h => exact absurd (.inr h) (hclear _ hi)
  -- both ways of stopping are at the first obstacle, so they stop in the same place
  | blocked hi hclear h =>
      cases h' with
      | found hclear' => exact absurd (.inl h) (hclear' _ hi)
      | blocked _ hclear' h' =>
          obtain rfl := eq_of_first_obstacle (.inl h) hclear (.inl h') hclear'
          exact ⟨rfl, rfl⟩
      | absent _ hclear' hparts h' =>
          obtain rfl := eq_of_first_obstacle (.inl h) hclear (.inr h') hclear'
          exact absurd h hparts
  | absent hi hclear hparts h =>
      cases h' with
      | found hclear' => exact absurd (.inr h) (hclear' _ hi)
      | blocked _ hclear' h' =>
          obtain rfl := eq_of_first_obstacle (.inr h) hclear (.inl h') hclear'
          exact absurd h' hparts
      | absent _ hclear' _ h' =>
          obtain rfl := eq_of_first_obstacle (.inr h) hclear (.inr h') hclear'
          exact ⟨rfl, rfl⟩

theorem exists_ends (get : Value → String → Value) (root : Value) (path : List String) :
    ∃ walk count, Ends get root path walk count := by
  classical
  by_cases h : ∃ i, i < path.length ∧ Obstacle get root path i
  · obtain ⟨hi, hobstacle⟩ := Nat.find_spec h
    have hclear : ∀ j < Nat.find h, ¬ Obstacle get root path j := fun j hj hj' =>
      Nat.find_min h hj ⟨Nat.lt_trans hj hi, hj'⟩
    by_cases hblocked : Blocked get root path (Nat.find h)
    · exact ⟨_, _, .blocked hi hclear hblocked⟩
    · exact ⟨_, _, .absent hi hclear hblocked (hobstacle.resolve_left hblocked)⟩
  · exact ⟨_, _, .found fun i hi hobstacle => h ⟨i, hi, hobstacle⟩⟩

/-- No segment that is read is blocked. -/
theorem Ends.not_blocked {walk : Walk} {count : Nat} (h : Ends get root path walk count) :
    ∀ i < count, ¬ Blocked get root path i := by
  intro i hi hblocked
  cases h with
  | found hclear => exact hclear i hi (.inl hblocked)
  | blocked _ hclear _ => exact hclear i hi (.inl hblocked)
  | absent _ hclear hparts _ =>
      rcases Nat.lt_succ_iff_lt_or_eq.mp hi with hlt | rfl
      · exact hclear i hlt (.inl hblocked)
      · exact hparts hblocked

/-- So only the first segment may be read from a value without parts. -/
theorem Ends.not_hasNoParts {walk : Walk} {count : Nat} (h : Ends get root path walk count)
    {call : Value × String} (hcall : call ∈ (readings get root (path.take count)).tail) :
    ¬ call.1.HasNoParts := by
  obtain ⟨i, hi, rfl⟩ := List.mem_iff_getElem.mp hcall
  -- the calls behind the first one read the segments from the second one on
  have hcount : i + 1 < count := by
    simp only [List.length_tail, length_readings, List.length_take] at hi
    omega
  rw [List.getElem_tail, getElem_readings, List.take_take, Nat.min_eq_left (Nat.le_of_lt hcount)]
  exact fun hparts => h.not_blocked (i + 1) hcount ⟨Nat.succ_pos i, hparts⟩

/-! ## Walking on -/

section Step

variable {m : Type → Type} [Monad m]

theorem onward_of_hasNoParts (read : Reading m) (h : value.HasNoParts) (previous segment : String)
    (rest : List String) :
    onward read value previous (segment :: rest) = pure (.notContainer segment previous) := by
  unfold onward
  rcases h with rfl | h
  · exact if_pos (.inl rfl)
  · exact if_pos (.inr h)

theorem onward_of_not_hasNoParts (read : Reading m) (h : ¬ value.HasNoParts)
    (previous segment : String) (rest : List String) :
    onward read value previous (segment :: rest) = (do
      let next ← read value segment
      if next.isAbsent then pure (.absent segment (some previous))
      else onward read next segment rest) := by
  refine if_neg ?_
  rintro (hnone | hprimitive)
  · cases value with
    | none => exact h (.inl rfl)
    | _ => cases hnone
  · exact h (.inr hprimitive)

theorem isAbsent_eq_false (h : value ≠ .missing) : value.isAbsent = false := by
  cases value with
  | missing => exact absurd rfl h
  | _ => rfl

/-- A path of one segment finds what the segment names. -/
theorem along_singleton (read : Reading (Except Failure)) {segment : String}
    (hread : read root segment = .ok value) :
    along read root [segment] =
      .ok (if value.isAbsent then .absent segment none else .found value) := by
  simp only [along, hread, bind, Except.bind]
  split <;> rfl

/-- A path of two segments finds what the second one names in what the first one leads to. -/
theorem along_pair (read : Reading (Except Failure)) {first second : String} {next : Value}
    (hfirst : read root first = .ok value) (hpresent : value ≠ .missing)
    (hparts : ¬ value.HasNoParts) (hsecond : read value second = .ok next) :
    along read root [first, second] =
      .ok (if next.isAbsent then .absent second (some first) else .found next) := by
  simp only [along, hfirst, bind, Except.bind, isAbsent_eq_false hpresent]
  rw [if_neg Bool.false_ne_true, onward_of_not_hasNoParts read hparts]
  simp only [hsecond, bind, Except.bind]
  split <;> rfl

end Step

section Run

variable {m : Type → Type} [Monad m] [LawfulMonad m] [MonadExceptOf Failure m]
  {announce : Value → String → m Unit}

/-- Where nothing is in the way up to a segment, the walk goes on from there. -/
theorem along_eq_onward (hi : i < path.length) (hclear : ∀ j ≤ i, ¬ Obstacle get root path j) :
    along (announced announce get) root path = (do
      forM (readings get root (path.take (i + 1))) fun call => announce call.1 call.2
      onward (announced announce get) (reached get root (path.take (i + 1))) path[i]
        (path.drop (i + 1))) := by
  induction i with
  | zero =>
      have hpresent := isAbsent_eq_false (not_or.mp (hclear 0 le_rfl)).2
      obtain ⟨first, rest, rfl⟩ := List.exists_cons_of_length_pos hi
      simp_all [along, announced, readings, reached]
  | succ i ih =>
      obtain ⟨hparts, hvalue⟩ := not_or.mp (hclear (i + 1) le_rfl)
      -- the value before the segment has parts, and the segment leads to something
      have hpresent := isAbsent_eq_false hvalue
      rw [ih (by omega) fun j hj => hclear j (by omega), List.drop_eq_getElem_cons hi,
        onward_of_not_hasNoParts _ fun h => hparts ⟨Nat.succ_pos i, h⟩, readings_take_succ hi]
      rw [reached_take_succ hi] at hpresent ⊢
      simp [announced, hpresent]

/-- A walk announces the readings up to its end. -/
theorem Ends.along_eq {walk : Walk} {count : Nat} (h : Ends get root path walk count)
    (hpath : path ≠ []) :
    along (announced announce get) root path = (do
      forM (readings get root (path.take count)) fun call => announce call.1 call.2
      pure walk) := by
  cases h with
  | found hclear =>
      have hlength := List.length_pos_of_ne_nil hpath
      -- the walk goes on from behind the last segment, where there is nothing to read
      have hlast : path.length - 1 < path.length := by omega
      rw [along_eq_onward hlast fun j hj => hclear j (by omega), Nat.sub_add_cancel hlength,
        List.take_length, List.drop_length]
      rfl
  | blocked hi hclear h =>
      obtain ⟨hpos, hparts⟩ := h
      cases count with
      | zero => exact absurd hpos (Nat.lt_irrefl 0)
      | succ i =>
          have hbefore : i < path.length := by omega
          rw [along_eq_onward hbefore fun j hj => hclear j (by omega),
            List.drop_eq_getElem_cons hi, onward_of_hasNoParts _ hparts]
          rfl
  | @absent i hi hclear hparts h =>
      have hvalue : (get (reached get root (path.take i)) path[i]).isAbsent = true := by
        have hmissing : reached get root (path.take (i + 1)) = .missing := h
        rw [reached_take_succ hi] at hmissing
        rw [hmissing]
        rfl
      cases i with
      | zero =>
          obtain ⟨first, rest, rfl⟩ := List.exists_cons_of_length_pos hi
          simp_all [along, announced, readings, reached, previous?]
      | succ i =>
          have hbefore : i < path.length := by omega
          rw [along_eq_onward hbefore fun j hj => hclear j (by omega),
            List.drop_eq_getElem_cons hi,
            onward_of_not_hasNoParts _ fun h => hparts ⟨Nat.succ_pos i, h⟩, readings_take_succ hi]
          simp [announced, hvalue, previous?, List.getElem?_eq_getElem hbefore]

end Run

/-- **A walk stops at the first obstacle and names it.**  It finds a value exactly if there is no
obstacle, and this is the value that the whole path leads to.  Otherwise it ends at the first
segment that is blocked, which is not read any more, or that names nothing.  It announces the
readings of the segments up to there, each from the value that the segments before it lead to, and
no others; so it never reads a part of a value that has none, but for the start of the path. -/
theorem along_stops (get : Value → String → Value) (root : Value) {path : List String}
    (hpath : path ≠ []) :
    ∃ (walk : Walk) (count : Nat),
      (∀ {m : Type → Type} [Monad m] [LawfulMonad m] [MonadExceptOf Failure m]
        (announce : Value → String → m Unit),
        along (announced announce get) root path = (do
          forM (readings get root (path.take count)) fun call => announce call.1 call.2
          pure walk)) ∧
      (∀ last, walk = .found last ↔
        last = reached get root path ∧ ∀ i < path.length, ¬ Obstacle get root path i) ∧
      ((∀ i < path.length, ¬ Obstacle get root path i) → count = path.length) ∧
      (∀ i (hi : i < path.length), (∀ j < i, ¬ Obstacle get root path j) →
        (Blocked get root path i → walk = .notContainer path[i] path[i - 1] ∧ count = i) ∧
        (¬ Blocked get root path i → Absent get root path i →
          walk = .absent path[i] (previous? path i) ∧ count = i + 1)) ∧
      ∀ call ∈ (readings get root (path.take count)).tail, ¬ call.1.HasNoParts := by
  obtain ⟨walk, count, hends⟩ := exists_ends get root path
  refine ⟨walk, count, fun announce => hends.along_eq hpath, fun last => ⟨?_, ?_⟩, ?_, ?_, ?_⟩
  · rintro rfl
    cases hends with
    | found hclear => exact ⟨rfl, hclear⟩
  · rintro ⟨rfl, hclear⟩
    exact (hends.unique (.found hclear)).1
  · intro hclear
    exact (hends.unique (.found hclear)).2
  · intro i hi hclear
    exact ⟨fun h => hends.unique (.blocked hi hclear h),
      fun hparts h => hends.unique (.absent hi hclear hparts h)⟩
  · exact fun call => hends.not_hasNoParts

/-- A path that goes on from a text: the first two segments are read, and the third one is named as
the obstacle, with the second one before it. -/
theorem along_stops_at_text :
    let get (value : Value) (segment : String) : Value :=
      (value.readMember segment).toOption.getD .missing
    let item : Value := .mapping 1 [("data", .mapping 2 [("row", .text "3")])]
    let record (_ : Value) (segment : String) : ExceptT Failure (StateM (List String)) Unit :=
      modify (· ++ [segment])
    along (announced record get) item ["data", "row", "size"] [] =
      (.ok (.notContainer "size" "row"), ["data", "row"]) := by
  intro get item record
  obtain ⟨walk, count, hrun, -, -, hstops, -⟩ :=
    along_stops get item (List.cons_ne_nil "data" ["row", "size"])
  have hdata : reached get item ["data"] = .mapping 2 [("row", .text "3")] := rfl
  have hrow : reached get item ["data", "row"] = .text "3" := rfl
  have hclear : ∀ j < 2, ¬ Obstacle get item ["data", "row", "size"] j := by
    rintro (_ | _ | j) hj (⟨hpos, hparts⟩ | habsent)
    · exact absurd hpos (Nat.lt_irrefl 0)
    · cases hdata.symm.trans habsent
    · rcases hparts with h | h <;> cases h
    · cases hrow.symm.trans habsent
    · omega
    · omega
  have hblocked : Blocked get item ["data", "row", "size"] 2 := ⟨Nat.two_pos, .inr rfl⟩
  obtain ⟨rfl, rfl⟩ := (hstops 2 (Nat.lt_succ_self 2) hclear).1 hblocked
  rw [hrun record]
  rfl

end Walk

end Collate
