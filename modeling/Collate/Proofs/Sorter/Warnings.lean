import Collate.Proofs.Lookup.Warnings
import Collate.Proofs.Sorter.Session

/-!
# The warnings of a sort

A sort clears the warnings and reports nothing but by lookups (`Sorter.exists_finding_snd`).  So the
result of a sort holds the last warnings that were emitted during this sort, as many as there is
room for, and the outlet has been handed all of them (`Sorter.warnings_of_sort`).

A result is a snapshot: it is in the replies of a session when the sort is carried out, and stays
there as it is, whatever is done with the sorter later on (`Session.getElem?_useAll`).
-/

namespace Collate

open Bulletin Sorter

variable {α β γ : Type}

/-! ## Computations that report by lookups -/

/-- The computation leaves what some lookups leave, one after the other. -/
def Reporting.ByLookups (reader : ItemReader) (action : Reporting β) : Prop :=
  ∀ bulletin, ∃ lookups : List (Value × Rule),
    (action bulletin).2 =
      reader.useAll bulletin (lookups.map fun asked => .lookup asked.1 asked.2)

theorem Reporting.composes_byLookups (reader : ItemReader) :
    Composes fun _ action => ByLookups reader action where
  pure _ _ _ := ⟨[], rfl⟩
  throw _ _ _ := ⟨[], rfl⟩
  bind β γ action next h hnext bulletin := by
    obtain ⟨first, hfirst⟩ := h bulletin
    rw [bind_apply]
    cases haction : action bulletin with
    | mk outcome later =>
      rw [haction] at hfirst
      cases outcome with
      | error failure => exact ⟨first, hfirst⟩
      | ok result =>
          obtain ⟨rest, hrest⟩ := hnext result later
          refine ⟨first ++ rest, hrest.trans ?_⟩
          rw [show later = _ from hfirst, ItemReader.useAll, ItemReader.useAll, ItemReader.useAll,
            List.map_append, List.foldl_append]

theorem ItemReader.byLookups_lookup (reader : ItemReader) (item : Value) (rule : Rule) :
    Reporting.ByLookups reader (reader.lookup item rule) :=
  fun _ => ⟨[(item, rule)], rfl⟩

/-- Lookups emit warnings, and clear none. -/
theorem ItemReader.exists_emissions_of_lookups (reader : ItemReader) (bulletin : Bulletin)
    (lookups : List (Value × Rule)) :
    ∃ messages : List String,
      reader.emissions bulletin (lookups.map fun asked => .lookup asked.1 asked.2) =
        messages.map Emission.emitted := by
  induction lookups generalizing bulletin with
  | nil => exact ⟨[], rfl⟩
  | cons asked rest ih =>
      obtain ⟨messages, hmessages⟩ := ih (reader.use bulletin (.lookup asked.1 asked.2))
      refine ⟨reader.emitted asked.1 asked.2 bulletin ++ messages, ?_⟩
      rw [List.map_cons, emissions, hmessages, List.map_append]
      rfl

/-- A record that is no warning is not handed on. -/
theorem Bulletin.handed_record_debug (bulletin : Bulletin) (source message : String) :
    (bulletin.record .debug source message).handed = bulletin.handed := by
  unfold handed
  cases houtlet : bulletin.outlet <;> simp [record, houtlet]

/-! ## One sort -/

/-- Two items are sorted by one question. -/
theorem Ordering.sort_pair (x y : α) :
    Ordering.sort [x, y] =
      (Inquiry.comesBefore y x).bind fun answer => .done (if answer then [y, x] else [x, y]) := by
  have hleast : Ordering.leastRun 2 = 2 := by
    unfold Ordering.leastRun
    rfl
  show Ordering.sortOnto (Ordering.leastRun 2) 2 Ordering.longStreak [] [x, y] = _
  rw [hleast, Ordering.sortOnto]
  simp [Ordering.takeRun, Ordering.firstRun, Ordering.continuing, Inquiry.comesBefore,
    Inquiry.bind, Inquiry.map, Ordering.addRun, Ordering.sortOnto, Ordering.mergeAll]

namespace Sorter

/-- What a sort has reported when its questions are answered: it has cleared the warnings and made
some lookups. -/
theorem exists_finding_snd (sorter : Sorter α) (view : α → Value) (items : List α) :
    ∃ lookups : List (Value × Rule),
      (sorter.finding view items).2 =
        sorter.reader.useAll sorter.bulletin.cleared
          (lookups.map fun asked => .lookup asked.1 asked.2) :=
  (Reporting.composes_byLookups sorter.reader).sort sorter.reader.byLookups_lookup view items
    sorter.comparator sorter.bulletin.cleared

variable [DecidableEq α] {sorter later : Sorter α} {view : α → Value} {items : List α}
  {result : Sorted α}

/-- The result of a sort holds the last of the warnings that its lookups emitted, and the outlet has
been handed them all. -/
theorem warnings_of_sort (h : Sorter.sort view items sorter = (.ok result, later)) :
    ∃ (lookups : List (Value × Rule)) (messages : List String),
      sorter.reader.emissions sorter.bulletin.cleared
        (lookups.map fun asked => .lookup asked.1 asked.2) = messages.map .emitted ∧
      result.warnings = lastOf sorter.bulletin.capacity messages ∧
      later.bulletin.handed = sorter.bulletin.handed ++ messages := by
  obtain ⟨lookups, hlookups⟩ := sorter.exists_finding_snd view items
  obtain ⟨messages, hmessages⟩ :=
    sorter.reader.exists_emissions_of_lookups sorter.bulletin.cleared lookups
  refine ⟨lookups, messages, hmessages, ?_⟩
  cases hfinding : sorter.finding view items with
  | mk outcome bulletin =>
    rw [hfinding] at hlookups
    -- the sort starts with an empty buffer
    have hempty : sorter.bulletin.cleared.recent = lastOf sorter.bulletin.cleared.capacity [] := by
      simp [Bulletin.cleared, lastOf]
    have hrecent : bulletin.recent = lastOf sorter.bulletin.capacity messages := by
      rw [show bulletin = _ from hlookups, ItemReader.recent_useAll _ hempty, hmessages,
        Emission.foldl_since_map_emitted]
      rfl
    have hhanded : bulletin.handed = sorter.bulletin.handed ++ messages := by
      rw [show bulletin = _ from hlookups, ItemReader.handed_useAll, hmessages, handed_cleared,
        Emission.filterMap_message?_map_emitted]
    cases outcome with
    | error failure =>
        rw [sort_of_finding_eq_error hfinding] at h
        cases h
    | ok order =>
        rw [sort_of_finding_eq_ok hfinding, Prod.mk.injEq] at h
        obtain ⟨houtcome, rfl⟩ := h
        -- the handlers are told after the warnings were counted, and they warn nobody
        cases hpublish : (publishSorted (resultOf items order bulletin) sorter.hub).1 with
        | error failure =>
            rw [hpublish] at houtcome
            cases houtcome
        | ok done =>
            rw [hpublish] at houtcome
            obtain rfl := Except.ok.inj houtcome
            refine ⟨hrecent, ?_⟩
            rw [noted, handed_record_debug, hhanded]

end Sorter

/-! ## Sorts among other uses -/

/-- What a sorter is used for: a step of work, or clearing its warnings. -/
inductive Sorter.Use (α : Type) where
  | work (step : Step α)
  | clear

namespace Session

variable [DecidableEq α]

/-- What comes of one use. -/
def use (session : Session α) : Use α → Reply α × Session α
  | .work step => session.perform step
  | .clear =>
    (.done, { session with sorter.bulletin := session.sorter.bulletin.cleared })

/-- The replies to some uses, one after the other, and what the session is then. -/
def useAll (session : Session α) : List (Use α) → List (Reply α) × Session α
  | [] => ([], session)
  | use :: rest =>
    ((session.use use).1 :: ((session.use use).2.useAll rest).1,
      ((session.use use).2.useAll rest).2)

theorem length_useAll (session : Session α) (uses : List (Use α)) :
    (session.useAll uses).1.length = uses.length := by
  induction uses generalizing session with
  | nil => rfl
  | cons use rest ih => simp [useAll, ih]

theorem useAll_append (session : Session α) (uses more : List (Use α)) :
    session.useAll (uses ++ more) =
      ((session.useAll uses).1 ++ ((session.useAll uses).2.useAll more).1,
        ((session.useAll uses).2.useAll more).2) := by
  induction uses generalizing session with
  | nil => rfl
  | cons use rest ih => simp [useAll, ih]

/-- The reply to a use is the one that it gets when it is carried out. -/
theorem getElem?_useAll (session : Session α) (before after : List (Use α)) (use : Use α) :
    (session.useAll (before ++ use :: after)).1[before.length]? =
      some ((session.useAll before).2.use use).1 := by
  rw [useAll_append, List.getElem?_append_right (Nat.le_of_eq (session.length_useAll before))]
  simp [length_useAll, useAll]

/-- No use changes how much room there is for warnings, or how items are read. -/
theorem source_useAll (session : Session α) (uses : List (Use α)) :
    (session.useAll uses).2.sorter.bulletin.capacity = session.sorter.bulletin.capacity ∧
      (session.useAll uses).2.sorter.reader = session.sorter.reader := by
  induction uses generalizing session with
  | nil => exact ⟨rfl, rfl⟩
  | cons use rest ih =>
      obtain ⟨hcapacity, hreader⟩ := ih (session.use use).2
      cases use with
      | work step =>
          have hleaves := session.leaves_perform step
          exact ⟨hcapacity.trans hleaves.capacity, hreader.trans hleaves.reader⟩
      | clear => exact ⟨hcapacity, hreader⟩

/-- **Warnings are the tail of what was emitted.**  After lookups and clearings on a new bulletin,
the buffer holds the last warnings since the last clearing, as many as there is room for, and the
outlet has been handed all there were, in their order.  The result of a sort holds the last
warnings that the lookups of this sort emitted, and keeps them, whatever else the sorter is used
for before and afterwards. -/
theorem warnings_are_tails :
    (∀ (reader : ItemReader) (capacity : Nat) (outlet : Outlet) (uses : List ItemReader.Use),
      let start := Bulletin.opened capacity outlet
      let last := reader.useAll start uses
      let since := (reader.emissions start uses).foldl Emission.since []
      last.recent = lastOf capacity since ∧ last.recent <:+ since ∧
        last.recent.length = min capacity since.length ∧
        last.handed = (reader.emissions start uses).filterMap Emission.message?) ∧
    ∀ (session : Session α) (before after : List (Use α)) (view : α → Value) (items : List α),
      let now := (session.useAll before).2
      let sorted := now.use (.work (.sort view items))
      (session.useAll (before ++ .work (.sort view items) :: after)).1[before.length]? =
          some sorted.1 ∧
        ∀ result, sorted.1 = .sorted result →
          ∃ (lookups : List (Value × Rule)) (messages : List String),
            session.sorter.reader.emissions now.sorter.bulletin.cleared
              (lookups.map fun asked => .lookup asked.1 asked.2) = messages.map .emitted ∧
            result.warnings = lastOf session.sorter.bulletin.capacity messages ∧
            sorted.2.sorter.bulletin.handed = now.sorter.bulletin.handed ++ messages := by
  refine ⟨fun reader => reader.warnings_of_uses, ?_⟩
  intro session before after view items now sorted
  refine ⟨getElem?_useAll session before after _, fun result hresult => ?_⟩
  obtain ⟨hcapacity, hreader⟩ := source_useAll session before
  have hsorted : sorted = now.carryOut (Sorter.sort view items) .sorted := rfl
  -- the reply says that the sort has returned
  have hsort : Sorter.sort view items now.sorter = (.ok result, sorted.2.sorter) := by
    rw [hsorted] at hresult ⊢
    unfold carryOut at hresult ⊢
    cases houtcome : Sorter.sort view items now.sorter with
    | mk outcome later =>
      rw [houtcome] at hresult
      cases outcome with
      | ok found =>
          cases hresult
          rfl
      | error fault => cases hresult
  rw [← hcapacity, ← hreader]
  exact warnings_of_sort hsort

/-- Two items that have nothing to compare them by: four warnings are emitted, and there is room for
three of them. -/
theorem warnings_are_tails_pair :
    let reader : ItemReader :=
      ⟨fun item _ => .ok item, fun _ _ => .ok .missing, fun _ _ => .ok .missing⟩
    let rules : List Rule :=
      [⟨.named "x", none, true, by decide, by simp⟩, ⟨.named "y", none, true, by decide, by simp⟩]
    let session : Session Nat := ⟨Sorter.create reader rules {} (.opened 3 .journal), []⟩
    let view : Nat → Value := fun k => .int k
    let now := (session.useAll [.clear]).2
    ∃ (result : Sorted Nat) (lookups : List (Value × Rule)) (messages : List String),
      (session.useAll [.clear, .work (.sort view [0, 1]), .clear,
        .work (.sort view [1])]).1[1]? = some (.sorted result) ∧
      reader.emissions now.sorter.bulletin.cleared
        (lookups.map fun asked => .lookup asked.1 asked.2) = messages.map .emitted ∧
      result.warnings = lastOf 3 messages ∧
      result.warnings = [(Notice.noAttribute "x").message, (Notice.noAttribute "y").message,
        (Notice.noAttribute "y").message] := by
  intro reader rules session view now
  have hsort : (now.use (.work (.sort view [0, 1]))).1 =
      .sorted (resultOf [0, 1] [0, 1] (now.sorter.finding view [0, 1]).2) := by
    have hfinding : now.sorter.finding view [0, 1] =
        (.ok [0, 1], (now.sorter.finding view [0, 1]).2) := by
      unfold finding Comparator.sort
      rw [Ordering.sort_pair]
      rfl
    show Reply.of _ (Sorter.sort view [0, 1] now.sorter).1 = _
    rw [sort_of_finding_eq_ok hfinding]
    rfl
  -- the result is that of the second use, whatever comes after it
  obtain ⟨hreply, hresult⟩ :=
    warnings_are_tails.2 session [.clear] [.clear, .work (.sort view [1])] view [0, 1]
  obtain ⟨lookups, messages, hemitted, hwarnings, -⟩ := hresult _ hsort
  refine ⟨_, lookups, messages, hreply.trans (congrArg some hsort), hemitted, hwarnings, ?_⟩
  show (now.sorter.finding view [0, 1]).2.recent = _
  unfold finding Comparator.sort
  rw [Ordering.sort_pair]
  rfl

end Session

end Collate
