import Collate.Proofs.Lookup.Uniform

/-!
# The warnings of lookups

A lookup emits at most two warnings: what there is to tell about the value that was read, and,
if reading fails or the outlet refuses that first warning, that the lookup failed
(`ItemReader.emitted`).  What it leaves behind is the bulletin with these warnings posted
(`ItemReader.lookup_snd`), whether or not the lookup itself comes to a value.

Over lookups and clearings one after the other, the buffer holds the last warnings emitted since
the last clearing, as many as there is room for, and the outlet has been handed all that were ever
emitted, in their order (`ItemReader.warnings_of_uses`).
-/

namespace Collate

open Bulletin

variable {bulletin : Bulletin}

/-! ## What is handed on -/

namespace Bulletin

/-- The warnings that the outlet has been handed: what the listener has heard, or the warnings in
the journal. -/
def handed (bulletin : Bulletin) : List String :=
  match bulletin.outlet with
  | .journal =>
    bulletin.journal.filterMap fun record =>
      if record.severity = .warning ∧ record.source = warningSource then some record.message
      else none
  | .listener _ => bulletin.heard
  | .critic _ => bulletin.heard

@[simp] theorem handed_cleared (bulletin : Bulletin) : bulletin.cleared.handed = bulletin.handed :=
  rfl

theorem handed_post (bulletin : Bulletin) (message : String) :
    (bulletin.post message).handed = bulletin.handed ++ [message] := by
  unfold handed
  rw [outlet_post]
  unfold post
  cases bulletin.outlet with
  | journal => simp [record]
  | listener refusal => rfl
  | critic verdict => rfl

theorem handed_foldl_post (messages : List String) (bulletin : Bulletin) :
    (messages.foldl post bulletin).handed = bulletin.handed ++ messages := by
  induction messages generalizing bulletin with
  | nil => simp
  | cons message rest ih => simp [ih, handed_post]

theorem length_lastOf {α : Type} (count : Nat) (all : List α) :
    (lastOf count all).length = min count all.length := by
  rw [lastOf, List.length_drop]
  omega

theorem lastOf_suffix {α : Type} (count : Nat) (all : List α) : lastOf count all <:+ all :=
  List.drop_suffix _ all

end Bulletin

/-! ## One lookup -/

namespace ItemReader

variable (reader : ItemReader)

/-- What is told about the end of a reading: that it failed.  An interruption is not turned into a
warning, nor is a failure that cannot be put into words. -/
def complaints (rule : Rule) : Except Failure Value → List String
  | .ok _ => []
  | .error failure =>
    if failure.isInterruption then []
    else
      match failure.message with
      | .ok reason => [(Notice.failed rule failure.kind reason).message]
      | .error _ => []

/-- The warnings that a lookup emits. -/
def emitted (item : Value) (rule : Rule) (bulletin : Bulletin) : List String :=
  let finding := reader.read item rule
  match finding.notice with
  | none => complaints rule finding.outcome
  | some notice =>
    notice.message ::
      match (bulletin.post notice.message).refusal? with
      | none => complaints rule finding.outcome
      | some refusal => complaints rule (.error refusal)

theorem length_complaints_le (rule : Rule) (outcome : Except Failure Value) :
    (complaints rule outcome).length ≤ 1 := by
  unfold complaints
  split
  · exact Nat.zero_le 1
  split
  · exact Nat.zero_le 1
  split <;> simp

/-- What is told about a failure is all that warning about it leaves behind. -/
theorem warnFailed_snd (rule : Rule) (failure : Failure) (bulletin : Bulletin) :
    (warnFailed rule failure bulletin).2 =
      (complaints rule (.error failure)).foldl post bulletin := by
  unfold warnFailed
  cases hfailure : failure.isInterruption with
  | true =>
      simp only [complaints, hfailure, if_true]
      rfl
  | false =>
      simp only [complaints, hfailure, Bool.false_eq_true, if_false, bind_apply]
      cases hmessage : failure.message with
      | error cause => rfl
      | ok reason =>
          simp only [orRaise, pure_apply, Reporting.post_eq]
          cases (bulletin.post (Notice.failed rule failure.kind reason).message).refusal? <;> rfl

/-- What is raised at the end of a reading is turned into a complaint. -/
theorem tryCatch_orRaise_snd (rule : Rule) (outcome : Except Failure Value)
    (bulletin : Bulletin) :
    (tryCatch (orRaise outcome) (warnFailed rule) bulletin).2 =
      (complaints rule outcome).foldl post bulletin := by
  rw [tryCatch_apply]
  cases outcome with
  | ok value => rfl
  | error failure => exact warnFailed_snd rule failure bulletin

/-- A lookup leaves the bulletin with the warnings posted that it emits. -/
theorem lookup_snd (item : Value) (rule : Rule) (bulletin : Bulletin) :
    (reader.lookup item rule bulletin).2 =
      (reader.emitted item rule bulletin).foldl post bulletin := by
  unfold lookup emitted told
  cases hnotice : (reader.read item rule).notice with
  | none => simpa [hnotice] using tryCatch_orRaise_snd rule (reader.read item rule).outcome bulletin
  | some notice =>
      have hlater := tryCatch_orRaise_snd rule (reader.read item rule).outcome
        (bulletin.post notice.message)
      rw [tryCatch_apply] at hlater
      simp only [hnotice, tryCatch_apply, bind_apply, Reporting.post_eq]
      cases hrefusal : (bulletin.post notice.message).refusal? with
      | none => simpa [hrefusal] using hlater
      | some failure =>
          -- the refusal makes the lookup fail, and that is told as well
          simpa [hrefusal] using warnFailed_snd rule failure (bulletin.post notice.message)

end ItemReader

/-! ## Lookups and clearings -/

/-- What a reader is used for: a lookup, or clearing the warnings. -/
inductive ItemReader.Use where
  | lookup (item : Value) (rule : Rule)
  | clear

/-- What becomes of the warnings: one more is emitted, or they are cleared. -/
inductive Emission where
  | emitted (message : String)
  | cleared

namespace Emission

/-- The warning that is emitted. -/
def message? : Emission → Option String
  | emitted message => some message
  | cleared => none

/-- The warnings since the last clearing, one emission further. -/
def since (messages : List String) : Emission → List String
  | emitted message => messages ++ [message]
  | cleared => []

theorem foldl_since_map_emitted (messages more : List String) :
    (more.map emitted).foldl since messages = messages ++ more := by
  induction more generalizing messages with
  | nil => simp
  | cons message rest ih => simp [since, ih]

theorem filterMap_message?_map_emitted (messages : List String) :
    (messages.map emitted).filterMap message? = messages := by
  rw [List.filterMap_map]
  exact List.filterMap_some

end Emission

namespace ItemReader

variable (reader : ItemReader)

/-- The bulletin after one use. -/
def use (bulletin : Bulletin) : Use → Bulletin
  | .lookup item rule => (reader.lookup item rule bulletin).2
  | .clear => bulletin.cleared

/-- The bulletin after some uses, one after the other. -/
def useAll (bulletin : Bulletin) (uses : List Use) : Bulletin := uses.foldl reader.use bulletin

/-- What becomes of the warnings by one use. -/
def emissionsOf (bulletin : Bulletin) : Use → List Emission
  | .lookup item rule => (reader.emitted item rule bulletin).map .emitted
  | .clear => [.cleared]

/-- What becomes of the warnings by some uses, one after the other. -/
def emissions (bulletin : Bulletin) : List Use → List Emission
  | [] => []
  | use :: rest => reader.emissionsOf bulletin use ++ emissions (reader.use bulletin use) rest

theorem capacity_use (bulletin : Bulletin) (use : Use) :
    (reader.use bulletin use).capacity = bulletin.capacity := by
  cases use with
  | lookup item rule => exact (reader.uniform_lookup item rule).capacity_eq bulletin
  | clear => rfl

theorem recent_use {posted : List String}
    (h : bulletin.recent = lastOf bulletin.capacity posted) (use : Use) :
    (reader.use bulletin use).recent =
      lastOf bulletin.capacity ((reader.emissionsOf bulletin use).foldl Emission.since posted) := by
  cases use with
  | lookup item rule =>
      simp only [ItemReader.use, emissionsOf]
      rw [lookup_snd, recent_foldl_post h, Emission.foldl_since_map_emitted]
  | clear => simp [ItemReader.use, emissionsOf, Emission.since, Bulletin.cleared, lastOf]

theorem handed_use (bulletin : Bulletin) (use : Use) :
    (reader.use bulletin use).handed =
      bulletin.handed ++ (reader.emissionsOf bulletin use).filterMap Emission.message? := by
  cases use with
  | lookup item rule =>
      simp only [ItemReader.use, emissionsOf]
      rw [lookup_snd, handed_foldl_post, Emission.filterMap_message?_map_emitted]
  | clear => simp [ItemReader.use, emissionsOf, Emission.message?]

/-- The buffer holds the last warnings since the last clearing. -/
theorem recent_useAll {posted : List String}
    (h : bulletin.recent = lastOf bulletin.capacity posted) (uses : List Use) :
    (reader.useAll bulletin uses).recent =
      lastOf bulletin.capacity ((reader.emissions bulletin uses).foldl Emission.since posted) := by
  induction uses generalizing bulletin posted with
  | nil => exact h
  | cons use rest ih =>
      have hnext : (reader.use bulletin use).recent =
          lastOf (reader.use bulletin use).capacity
            ((reader.emissionsOf bulletin use).foldl Emission.since posted) := by
        rw [capacity_use]
        exact reader.recent_use h use
      rw [useAll, List.foldl_cons, ← useAll, ih hnext, capacity_use, emissions, List.foldl_append]

/-- The outlet has been handed all warnings, in their order. -/
theorem handed_useAll (bulletin : Bulletin) (uses : List Use) :
    (reader.useAll bulletin uses).handed =
      bulletin.handed ++ (reader.emissions bulletin uses).filterMap Emission.message? := by
  induction uses generalizing bulletin with
  | nil => simp [useAll, emissions]
  | cons use rest ih =>
      rw [useAll, List.foldl_cons, ← useAll, ih, handed_use, emissions, List.filterMap_append,
        List.append_assoc]

/-- **The buffer is the tail of what was emitted.** -/
theorem warnings_of_uses (capacity : Nat) (outlet : Outlet) (uses : List Use) :
    let start := Bulletin.opened capacity outlet
    let last := reader.useAll start uses
    let since := (reader.emissions start uses).foldl Emission.since []
    last.recent = lastOf capacity since ∧ last.recent <:+ since ∧
      last.recent.length = min capacity since.length ∧
      last.handed = (reader.emissions start uses).filterMap Emission.message? := by
  intro start last since
  have hempty : start.recent = lastOf start.capacity [] := by simp [start, opened, lastOf]
  have hrecent : last.recent = lastOf capacity since := reader.recent_useAll hempty uses
  have hhanded : start.handed = [] := by cases outlet <;> rfl
  refine ⟨hrecent, ?_, ?_, ?_⟩
  · rw [hrecent]
    exact lastOf_suffix capacity since
  · rw [hrecent, length_lastOf]
  · show (reader.useAll start uses).handed = _
    rw [handed_useAll, hhanded, List.nil_append]

end ItemReader

end Collate
