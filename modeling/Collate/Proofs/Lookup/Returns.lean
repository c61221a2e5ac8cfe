import Collate.Lookup.Resolve
import Collate.Proofs.Computation

/-!
# Lookups that always come to the same

A computation that reports *concludes* with an outcome, a result or a failure, if it comes
to it whatever was reported before, as long as the reports go to a certain outlet
(`Reporting.Concludes`).  It *returns* a result if it concludes with it (`Reporting.Returns`).

With an outlet that refuses no warning, every lookup concludes (`ItemReader.concludes_lookup`).
It returns a value, unless reading the item is interrupted or fails in a way that cannot be put
into words (`ItemReader.returns_lookup`).
-/

namespace Collate

/-! ## Computations that return -/

/-- The computation comes to this outcome, whatever was reported before, and leaves the
outlet as it is. -/
def Reporting.Concludes {β : Type} (action : Reporting β) (outlet : Outlet)
    (outcome : Except Failure β) : Prop :=
  ∀ bulletin, bulletin.outlet = outlet →
    ∃ later, action bulletin = (outcome, later) ∧ later.outlet = outlet

/-- The computation comes to this result, whatever was reported before, and goes on
reporting to the same outlet. -/
def Reporting.Returns {β : Type} (action : Reporting β) (outlet : Outlet) (result : β) : Prop :=
  ∀ bulletin, bulletin.outlet = outlet →
    ∃ later, action bulletin = (.ok result, later) ∧ later.outlet = outlet

namespace Reporting

variable {β γ : Type} {outlet : Outlet} {outcome : Except Failure β}

theorem returns_iff {action : Reporting β} {result : β} :
    Returns action outlet result ↔ Concludes action outlet (.ok result) := Iff.rfl

theorem Returns.pure (result : β) : Returns (pure result) outlet result :=
  fun bulletin houtlet => ⟨bulletin, rfl, houtlet⟩

theorem concludes_pure (result : β) : Concludes (pure result) outlet (.ok result) :=
  Returns.pure result

theorem concludes_throw (failure : Failure) :
    Concludes (throw failure : Reporting β) outlet (.error failure) :=
  fun bulletin houtlet => ⟨bulletin, rfl, houtlet⟩

theorem concludes_orRaise (outcome : Except Failure β) :
    Concludes (orRaise outcome) outlet outcome := by
  cases outcome with
  | ok result => exact concludes_pure result
  | error failure => exact concludes_throw failure

theorem Concludes.bind {action : Reporting β} {next : β → Reporting γ}
    {after : β → Except Failure γ} (h : Concludes action outlet outcome)
    (hnext : ∀ result, outcome = .ok result → Concludes (next result) outlet (after result)) :
    Concludes (action >>= next) outlet (outcome >>= after) := by
  intro bulletin houtlet
  obtain ⟨between, hbetween, houtlet'⟩ := h bulletin houtlet
  rw [bind_apply, hbetween]
  cases outcome with
  | ok result => exact hnext result rfl between houtlet'
  | error failure => exact ⟨between, rfl, houtlet'⟩

theorem Concludes.tryCatch {action : Reporting β} {handler : Failure → Reporting β}
    {handled : Failure → Except Failure β} (h : Concludes action outlet outcome)
    (hhandler : ∀ failure, outcome = .error failure →
      Concludes (handler failure) outlet (handled failure)) :
    Concludes (tryCatch action handler) outlet (outcome.tryCatch handled) := by
  intro bulletin houtlet
  obtain ⟨between, hbetween, houtlet'⟩ := h bulletin houtlet
  rw [tryCatch_apply, hbetween]
  cases outcome with
  | ok result => exact ⟨between, rfl, houtlet'⟩
  | error failure => exact hhandler failure rfl between houtlet'

theorem Returns.bind {action : Reporting β} {next : β → Reporting γ} {result : β} {last : γ}
    (h : Returns action outlet result) (hnext : Returns (next result) outlet last) :
    Returns (action >>= next) outlet last := by
  show Concludes (action >>= next) outlet (Except.ok result >>= fun _ => .ok last)
  refine Concludes.bind h fun found hfound => ?_
  cases hfound
  exact hnext

theorem Returns.bind_concludes {action : Reporting γ} {next : γ → Reporting β} {result : γ}
    (h : Returns action outlet result) (hnext : Concludes (next result) outlet outcome) :
    Concludes (action >>= next) outlet outcome := by
  show Concludes (action >>= next) outlet (Except.ok result >>= fun _ => outcome)
  refine Concludes.bind h fun found hfound => ?_
  cases hfound
  exact hnext

end Reporting

/-! ## Lookups -/

/-- No warning is refused. -/
def Outlet.Accepts : Outlet → Prop
  | .journal => True
  | .listener refusal => refusal = none
  | .critic verdict => ∀ heard, verdict heard = none

theorem outlet_post (bulletin : Bulletin) (message : String) :
    (bulletin.post message).outlet = bulletin.outlet := by
  unfold Bulletin.post
  split <;> rfl

/-- Only an outlet that may refuse a warning does. -/
theorem Outlet.Accepts.refusal?_eq_none {bulletin : Bulletin} (h : bulletin.outlet.Accepts) :
    bulletin.refusal? = none := by
  unfold Bulletin.refusal?
  cases houtlet : bulletin.outlet with
  | journal => rfl
  | listener refusal =>
      rw [houtlet] at h
      exact h
  | critic verdict =>
      rw [houtlet] at h
      exact h _

/-- A warning is posted whether or not it is refused. -/
theorem Reporting.post_eq (message : String) (bulletin : Bulletin) :
    Reporting.post message bulletin =
      (match (bulletin.post message).refusal? with
        | none => .ok ()
        | some failure => .error failure, bulletin.post message) := by
  unfold Reporting.post
  simp only [bind_apply, modify_apply, get_apply]
  cases (bulletin.post message).refusal? <;> rfl

/-- Where no warning is refused, posting one does nothing else. -/
theorem Reporting.post_apply {bulletin : Bulletin} (h : bulletin.outlet.Accepts)
    (message : String) : Reporting.post message bulletin = (.ok (), bulletin.post message) := by
  have hrefusal : (bulletin.post message).refusal? = none := by
    apply Outlet.Accepts.refusal?_eq_none
    rw [outlet_post]
    exact h
  rw [Reporting.post_eq, hrefusal]

theorem Reporting.returns_post {outlet : Outlet} (h : outlet.Accepts) (message : String) :
    (Reporting.post message).Returns outlet () := by
  rintro bulletin rfl
  exact ⟨bulletin.post message, Reporting.post_apply h message, outlet_post bulletin message⟩

/-- What comes out of a lookup because the item failed to be read: an interruption, or the failure
to put the cause into words. -/
def Failure.SurfacesAs (cause failure : Failure) : Prop :=
  if cause.isInterruption then failure = cause else cause.message = .error failure

theorem Failure.SurfacesAs.isTellable {cause failure : Failure} (h : cause.SurfacesAs failure) :
    cause.isTellable = false := by
  rw [Bool.eq_false_iff]
  intro htellable
  obtain ⟨hcause, reason, hreason⟩ := Failure.isTellable_iff.mp htellable
  rw [Failure.SurfacesAs, hcause, hreason] at h
  cases h

namespace ItemReader

/-- The value of a rule, missing where reading it fails. -/
def valueOf (reader : ItemReader) (item : Value) (rule : Rule) : Value :=
  match (reader.read item rule).outcome with
  | .ok value => value
  | .error _ => .missing

/-- What becomes of a failure to read an item: there is no value, unless the failure is an
interruption or cannot be put into words. -/
def settled (failure : Failure) : Except Failure Value :=
  if failure.isInterruption then .error failure else failure.message.map fun _ => .missing

/-- What a lookup comes to where no warning is refused. -/
def outcomeOf (reader : ItemReader) (item : Value) (rule : Rule) : Except Failure Value :=
  (reader.read item rule).outcome.tryCatch settled

theorem settled_of_isTellable {failure : Failure} (h : failure.isTellable = true) :
    settled failure = .ok .missing := by
  obtain ⟨hfailure, reason, hreason⟩ := Failure.isTellable_iff.mp h
  unfold settled
  rw [hfailure, hreason]
  rfl

theorem settled_eq_error_iff {cause failure : Failure} :
    settled cause = .error failure ↔ cause.SurfacesAs failure := by
  unfold settled Failure.SurfacesAs
  split
  · exact ⟨fun h => (Except.error.inj h).symm, fun h => congrArg Except.error h.symm⟩
  · cases cause.message with
    | ok reason => exact ⟨(nomatch ·), (nomatch ·)⟩
    | error error => exact ⟨fun h => congrArg Except.error (Except.error.inj h),
        fun h => congrArg Except.error (Except.error.inj h)⟩

/-- A lookup fails only as reading the item does. -/
theorem exists_of_outcomeOf_eq_error {reader : ItemReader} {item : Value} {rule : Rule}
    {failure : Failure} (h : reader.outcomeOf item rule = .error failure) :
    ∃ cause, (reader.read item rule).outcome = .error cause ∧ cause.SurfacesAs failure := by
  unfold outcomeOf at h
  cases hread : (reader.read item rule).outcome with
  | ok value =>
      rw [hread] at h
      cases h
  | error cause =>
      rw [hread] at h
      exact ⟨cause, rfl, settled_eq_error_iff.mp h⟩

/-- With nothing to tell about it, a lookup comes to what is read, and does nothing else. -/
theorem lookup_of_silent {reader : ItemReader} {item found : Value} {rule : Rule}
    (hread : reader.read item rule = .found found) (bulletin : Bulletin) :
    reader.lookup item rule bulletin = (.ok found, bulletin) := by
  unfold lookup
  rw [hread]
  rfl

theorem returns_of_silent {reader : ItemReader} {item found : Value} {rule : Rule}
    (hread : reader.read item rule = .found found) (outlet : Outlet) :
    (reader.lookup item rule).Returns outlet found :=
  fun bulletin houtlet => ⟨bulletin, lookup_of_silent hread bulletin, houtlet⟩

theorem concludes_warnFailed {outlet : Outlet} (h : outlet.Accepts) (rule : Rule)
    (failure : Failure) : (warnFailed rule failure).Concludes outlet (settled failure) := by
  unfold warnFailed settled
  cases failure.isInterruption with
  | true =>
      -- nothing happens after the interruption
      show Reporting.Concludes _ outlet
        (Except.error failure >>= fun _ : PUnit => Except.error failure)
      exact (Reporting.concludes_throw failure).bind fun _ h => nomatch h
  | false =>
      refine (Reporting.concludes_orRaise failure.message).bind fun reason _ => ?_
      exact Reporting.Returns.bind (Reporting.returns_post h _) (.pure _)

theorem concludes_told {outlet : Outlet} (h : outlet.Accepts) (finding : Finding) :
    (told finding).Concludes outlet finding.outcome := by
  unfold told
  cases finding.notice with
  | none => exact Reporting.concludes_orRaise _
  | some notice =>
      exact (Reporting.returns_post h notice.message).bind_concludes
        (Reporting.concludes_orRaise _)

/-- What a lookup comes to is a function of item and rule, as long as warnings are accepted. -/
theorem concludes_lookup {outlet : Outlet} (h : outlet.Accepts) (reader : ItemReader)
    (item : Value) (rule : Rule) :
    (reader.lookup item rule).Concludes outlet (reader.outcomeOf item rule) :=
  (concludes_told h _).tryCatch fun failure _ => concludes_warnFailed h rule failure

/-- What is looked up is a function of item and rule, as long as warnings are accepted, reading is
not interrupted, and every failure can be put into words. -/
theorem returns_lookup {outlet : Outlet} (h : outlet.Accepts) (reader : ItemReader)
    (item : Value) (rule : Rule)
    (hread : ∀ failure, (reader.read item rule).outcome = .error failure →
      failure.isTellable = true) :
    (reader.lookup item rule).Returns outlet (reader.valueOf item rule) := by
  have houtcome : reader.outcomeOf item rule = .ok (reader.valueOf item rule) := by
    unfold outcomeOf valueOf
    cases hfound : (reader.read item rule).outcome with
    | ok value => rfl
    | error failure => exact settled_of_isTellable (hread failure hfound)
  rw [Reporting.returns_iff, ← houtcome]
  exact concludes_lookup h reader item rule

end ItemReader

end Collate
