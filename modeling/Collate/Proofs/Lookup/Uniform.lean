import Collate.Proofs.Lookup.Returns

/-!
# Lookups do not depend on earlier reports

What was reported before a lookup could matter only to the outlet, which may refuse a warning
because of those before it.  Two bulletins are *alike* if it does not (`Bulletin.Alike`): for
example, if their outlet has heard the same, or goes by each warning alone (`Outlet.Forgetful`).

A computation that reports is *uniform* if on bulletins that are alike it comes to the same
outcome and posts the same warnings (`Reporting.Uniform`).  So does every lookup
(`ItemReader.uniform_lookup`).

## Strategy

A bulletin is alike to itself.  So a uniform computation does nothing but post warnings, even
if the outlet is not forgetful, and leaves the outlet and the room for warnings as they were.
-/

namespace Collate

variable {β γ : Type} {bulletin other : Bulletin}

/-! ## Warnings that are posted -/

theorem capacity_post (bulletin : Bulletin) (message : String) :
    (bulletin.post message).capacity = bulletin.capacity := by
  unfold Bulletin.post
  split <;> rfl

theorem outlet_foldl_post (messages : List String) (bulletin : Bulletin) :
    (messages.foldl Bulletin.post bulletin).outlet = bulletin.outlet := by
  induction messages generalizing bulletin with
  | nil => rfl
  | cons message rest ih => rw [List.foldl_cons, ih, outlet_post]

theorem capacity_foldl_post (messages : List String) (bulletin : Bulletin) :
    (messages.foldl Bulletin.post bulletin).capacity = bulletin.capacity := by
  induction messages generalizing bulletin with
  | nil => rfl
  | cons message rest ih => rw [List.foldl_cons, ih, capacity_post]

/-- The buffer is the tail of all that was posted. -/
theorem recent_foldl_post {posted : List String}
    (h : bulletin.recent = Bulletin.lastOf bulletin.capacity posted) (messages : List String) :
    (messages.foldl Bulletin.post bulletin).recent =
      Bulletin.lastOf bulletin.capacity (posted ++ messages) := by
  induction messages generalizing bulletin posted with
  | nil => rw [List.foldl_nil, List.append_nil, h]
  | cons message rest ih =>
      have hposted : (bulletin.post message).recent =
          Bulletin.lastOf (bulletin.post message).capacity (posted ++ [message]) := by
        rw [capacity_post]
        exact Bulletin.recent_post h message
      rw [List.foldl_cons, ih hposted, capacity_post, List.append_assoc, List.singleton_append]

theorem recent_foldl_post_cleared (messages : List String) (bulletin : Bulletin) :
    (messages.foldl Bulletin.post bulletin.cleared).recent =
      Bulletin.lastOf bulletin.capacity messages := by
  have hcleared : bulletin.cleared.recent = Bulletin.lastOf bulletin.cleared.capacity [] := by
    simp [Bulletin.cleared, Bulletin.lastOf]
  exact recent_foldl_post hcleared messages

/-! ## Bulletins that are alike -/

/-- Whether a warning is refused depends on the warning alone, not on those before it. -/
def Outlet.Forgetful (outlet : Outlet) : Prop :=
  ∃ refuses : String → Option Failure, ∀ (bulletin : Bulletin) (message : String),
    bulletin.outlet = outlet → (bulletin.post message).refusal? = refuses message

theorem Outlet.forgetful_journal : Outlet.journal.Forgetful := by
  refine ⟨fun _ => none, fun bulletin message houtlet => ?_⟩
  unfold Bulletin.refusal?
  rw [outlet_post, houtlet]

theorem Outlet.forgetful_listener (refusal : Option Failure) :
    (Outlet.listener refusal).Forgetful := by
  refine ⟨fun _ => refusal, fun bulletin message houtlet => ?_⟩
  unfold Bulletin.refusal?
  rw [outlet_post, houtlet]

theorem Outlet.Accepts.forgetful {outlet : Outlet} (h : outlet.Accepts) : outlet.Forgetful := by
  cases outlet with
  | journal => exact forgetful_journal
  | listener refusal => exact forgetful_listener refusal
  | critic verdict =>
      refine ⟨fun _ => none, fun bulletin message houtlet => ?_⟩
      unfold Bulletin.refusal?
      rw [outlet_post, houtlet]
      exact h _

/-- The outlets are the same and, whatever is posted on both from now on, they refuse the same. -/
structure Bulletin.Alike (bulletin other : Bulletin) : Prop where
  outlet : bulletin.outlet = other.outlet
  refusal : ∀ (messages : List String) (message : String),
    ((messages.foldl post bulletin).post message).refusal? =
      ((messages.foldl post other).post message).refusal?

namespace Bulletin

theorem heard_post_congr (houtlet : bulletin.outlet = other.outlet)
    (hheard : bulletin.heard = other.heard) (message : String) :
    (bulletin.post message).heard = (other.post message).heard := by
  unfold post
  rw [houtlet]
  split <;> simp [record, hheard]

/-- Outlets that have heard the same go on to refuse the same. -/
theorem alike_of_heard_eq (houtlet : bulletin.outlet = other.outlet)
    (hheard : bulletin.heard = other.heard) : Alike bulletin other := by
  refine ⟨houtlet, fun messages message => ?_⟩
  induction messages generalizing bulletin other with
  | nil =>
      rw [List.foldl_nil, List.foldl_nil]
      unfold refusal?
      rw [outlet_post, outlet_post, houtlet, heard_post_congr houtlet hheard]
  | cons first rest ih =>
      refine ih ?_ (heard_post_congr houtlet hheard first)
      rw [outlet_post, outlet_post, houtlet]

theorem alike_of_forgetful (houtlet : bulletin.outlet = other.outlet)
    (h : bulletin.outlet.Forgetful) : Alike bulletin other := by
  obtain ⟨refuses, hrefuses⟩ := h
  refine ⟨houtlet, fun messages message => ?_⟩
  rw [hrefuses _ message (outlet_foldl_post messages bulletin),
    hrefuses _ message ((outlet_foldl_post messages other).trans houtlet.symm)]

theorem Alike.refl (bulletin : Bulletin) : Alike bulletin bulletin := ⟨rfl, fun _ _ => rfl⟩

theorem Alike.trans {last : Bulletin} (h : Alike bulletin other) (hlast : Alike other last) :
    Alike bulletin last where
  outlet := h.outlet.trans hlast.outlet
  refusal messages message := (h.refusal messages message).trans (hlast.refusal messages message)

/-- Neither the buffer nor the journal matters. -/
theorem Alike.congr {later last : Bulletin} (h : Alike bulletin other)
    (hlater : later.outlet = bulletin.outlet ∧ later.heard = bulletin.heard)
    (hlast : last.outlet = other.outlet ∧ last.heard = other.heard) : Alike later last :=
  ((alike_of_heard_eq hlater.1 hlater.2).trans h).trans
    (alike_of_heard_eq hlast.1.symm hlast.2.symm)

theorem Alike.foldl_post (h : Alike bulletin other) (messages : List String) :
    Alike (messages.foldl post bulletin) (messages.foldl post other) where
  outlet := by rw [outlet_foldl_post, outlet_foldl_post, h.outlet]
  refusal more message := by
    rw [← List.foldl_append, ← List.foldl_append]
    exact h.refusal (messages ++ more) message

/-- What refuses a warning on one bulletin refuses it on the other. -/
theorem Alike.refusal?_post (h : Alike bulletin other) (message : String) :
    (bulletin.post message).refusal? = (other.post message).refusal? :=
  h.refusal [] message

end Bulletin

/-! ## Uniform computations -/

/-- On bulletins that are alike, the computation comes to the same outcome and does nothing but
post the same warnings. -/
def Reporting.Uniform (action : Reporting β) : Prop :=
  ∀ bulletin other, Bulletin.Alike bulletin other →
    ∃ (outcome : Except Failure β) (messages : List String),
      action bulletin = (outcome, messages.foldl Bulletin.post bulletin) ∧
        action other = (outcome, messages.foldl Bulletin.post other)

namespace Reporting

theorem uniform_pure (result : β) : Uniform (pure result) :=
  fun _ _ _ => ⟨.ok result, [], rfl, rfl⟩

theorem uniform_throw (failure : Failure) : Uniform (throw failure : Reporting β) :=
  fun _ _ _ => ⟨.error failure, [], rfl, rfl⟩

theorem Uniform.bind {action : Reporting β} {next : β → Reporting γ} (h : Uniform action)
    (hnext : ∀ result, Uniform (next result)) : Uniform (action >>= next) := by
  intro bulletin other halike
  obtain ⟨outcome, messages, haction, haction'⟩ := h bulletin other halike
  rw [bind_apply, bind_apply, haction, haction']
  cases outcome with
  | error failure => exact ⟨.error failure, messages, rfl, rfl⟩
  | ok result =>
      obtain ⟨last, more, hlast, hlast'⟩ := hnext result _ _ (halike.foldl_post messages)
      refine ⟨last, messages ++ more, ?_, ?_⟩
      · rw [List.foldl_append]
        exact hlast
      · rw [List.foldl_append]
        exact hlast'

theorem Uniform.tryCatch {action : Reporting β} {handler : Failure → Reporting β}
    (h : Uniform action) (hhandler : ∀ failure, Uniform (handler failure)) :
    Uniform (tryCatch action handler) := by
  intro bulletin other halike
  obtain ⟨outcome, messages, haction, haction'⟩ := h bulletin other halike
  rw [tryCatch_apply, tryCatch_apply, haction, haction']
  cases outcome with
  | ok result => exact ⟨.ok result, messages, rfl, rfl⟩
  | error failure =>
      obtain ⟨last, more, hlast, hlast'⟩ := hhandler failure _ _ (halike.foldl_post messages)
      refine ⟨last, messages ++ more, ?_, ?_⟩
      · rw [List.foldl_append]
        exact hlast
      · rw [List.foldl_append]
        exact hlast'

theorem uniform_post (message : String) : Uniform (Reporting.post message) := by
  intro bulletin other halike
  unfold Reporting.post
  simp only [bind_apply, modify_apply, get_apply]
  rw [halike.refusal?_post message]
  cases (other.post message).refusal? with
  | none => exact ⟨.ok (), [message], rfl, rfl⟩
  | some failure => exact ⟨.error failure, [message], rfl, rfl⟩

variable {action : Reporting β}

theorem Uniform.outcome_eq (h : Uniform action) (halike : Bulletin.Alike bulletin other) :
    (action bulletin).1 = (action other).1 := by
  obtain ⟨outcome, messages, haction, haction'⟩ := h bulletin other halike
  rw [haction, haction']

theorem Uniform.alike (h : Uniform action) (halike : Bulletin.Alike bulletin other) :
    Bulletin.Alike (action bulletin).2 (action other).2 := by
  obtain ⟨outcome, messages, haction, haction'⟩ := h bulletin other halike
  rw [haction, haction']
  exact halike.foldl_post messages

theorem Uniform.outlet_eq (h : Uniform action) (bulletin : Bulletin) :
    (action bulletin).2.outlet = bulletin.outlet := by
  obtain ⟨outcome, messages, haction, -⟩ := h bulletin bulletin (.refl bulletin)
  rw [haction, outlet_foldl_post]

theorem Uniform.capacity_eq (h : Uniform action) (bulletin : Bulletin) :
    (action bulletin).2.capacity = bulletin.capacity := by
  obtain ⟨outcome, messages, haction, -⟩ := h bulletin bulletin (.refl bulletin)
  rw [haction, capacity_foldl_post]

/-- A computation that starts with an empty buffer leaves the same warnings in it, if there is
the same room for them. -/
theorem Uniform.recent_eq (h : Uniform action)
    (halike : Bulletin.Alike bulletin.cleared other.cleared)
    (hcapacity : bulletin.capacity = other.capacity) :
    (action bulletin.cleared).2.recent = (action other.cleared).2.recent := by
  obtain ⟨outcome, messages, haction, haction'⟩ := h _ _ halike
  rw [haction, haction', recent_foldl_post_cleared, recent_foldl_post_cleared, hcapacity]

end Reporting

/-! ## Lookups -/

open Reporting

theorem Reporting.uniform_orRaise (outcome : Except Failure β) :
    Uniform (orRaise outcome) := by
  cases outcome with
  | ok result => exact uniform_pure result
  | error failure => exact uniform_throw failure

theorem ItemReader.uniform_told (finding : Finding) : Uniform (told finding) := by
  unfold told
  cases finding.notice with
  | none => exact uniform_orRaise _
  | some notice => exact (uniform_post _).bind fun _ => uniform_orRaise _

theorem ItemReader.uniform_warnFailed (rule : Rule) (failure : Failure) :
    Uniform (warnFailed rule failure) := by
  unfold warnFailed
  split
  · exact (uniform_throw failure).bind fun _ => (uniform_orRaise _).bind fun _ =>
      (uniform_post _).bind fun _ => uniform_pure _
  · exact (uniform_orRaise _).bind fun _ => (uniform_post _).bind fun _ => uniform_pure _

theorem ItemReader.uniform_lookup (reader : ItemReader) (item : Value) (rule : Rule) :
    Uniform (reader.lookup item rule) :=
  (uniform_told _).tryCatch (uniform_warnFailed rule)

end Collate
