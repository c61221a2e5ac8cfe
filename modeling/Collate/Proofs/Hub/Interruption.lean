import Collate.Hub.Publish
import Collate.Proofs.Computation

/-!
# What ends a delivery

A handler that fails stops no other one, and its failure is kept.  So publishing an event
comes to its end, unless a handler is interrupted (`isInterruption_of_publish`).

## Strategy

A computation on a hub is *spared* grave failures if it does not fail in this way, and leads to a
hub that has some invariant (`Spares`).  Which failures are grave and what the invariant is are
parameters.  So is a handler if its actions are, an attempt to call it for whatever the handler
does, and a delivery if all attempts are.
-/

namespace Collate.Hub

variable {π β γ : Type} {invariant : Hub π → Prop} {grave : Failure → Bool} {hub : Hub π}

/-- From this hub the computation leads to one with the invariant, and does not fail gravely. -/
def Spares (invariant : Hub π → Prop) (grave : Failure → Bool) (hub : Hub π)
    (action : OnHub π β) : Prop :=
  invariant (action hub).2 ∧ Spared grave (fun _ => True) (action hub).1

theorem spares_pure (h : invariant hub) (result : β) :
    Spares invariant grave hub (pure result) := ⟨h, trivial⟩

theorem spares_modify {change : Hub π → Hub π} (h : invariant (change hub)) :
    Spares invariant grave hub (modify change) := ⟨h, trivial⟩

theorem spares_throw (h : invariant hub) {failure : Failure} (hfailure : grave failure = false) :
    Spares invariant grave hub (throw failure : OnHub π β) := ⟨h, hfailure⟩

theorem spares_get_bind {next : Hub π → OnHub π γ} (h : Spares invariant grave hub (next hub)) :
    Spares invariant grave hub (get >>= next) := h

theorem Spares.bind {action : OnHub π β} {next : β → OnHub π γ}
    (h : Spares invariant grave hub action)
    (hnext : ∀ result later, invariant later → Spares invariant grave later (next result)) :
    Spares invariant grave hub (action >>= next) := by
  obtain ⟨hkept, houtcome⟩ := h
  unfold Spares
  rw [bind_apply]
  cases haction : action hub with
  | mk outcome later =>
    rw [haction] at hkept houtcome
    cases outcome with
    | ok result => exact hnext result later hkept
    | error failure => exact ⟨hkept, houtcome⟩

/-- What is grave for the computation need not be what is grave behind the handler. -/
theorem Spares.tryCatch {grave' : Failure → Bool} {action : OnHub π β}
    {handler : Failure → OnHub π β} (h : Spares invariant grave' hub action)
    (hhandler : ∀ failure later, grave' failure = false → invariant later →
      Spares invariant grave later (handler failure)) :
    Spares invariant grave hub (tryCatch action handler) := by
  obtain ⟨hkept, houtcome⟩ := h
  unfold Spares
  rw [tryCatch_apply]
  cases haction : action hub with
  | mk outcome later =>
    rw [haction] at hkept houtcome
    cases outcome with
    | ok result => exact ⟨hkept, trivial⟩
    | error failure => exact hhandler failure later houtcome hkept

/-- Where nothing is grave and there is no invariant, there is nothing to spare. -/
theorem spares_any (hub : Hub π) (action : OnHub π β) :
    Spares (fun _ => True) (fun _ => false) hub action := by
  refine ⟨trivial, ?_⟩
  cases (action hub).1 with
  | ok result => trivial
  | error failure => rfl

/-! ## Invariants of hubs -/

/-- The invariant is kept by whatever happens on a hub, but perhaps not when someone subscribes. -/
structure Lasting (invariant : Hub π → Prop) : Prop where
  cancel : ∀ {hub : Hub π} (serial : Nat), invariant hub → invariant (hub.cancel serial)
  spent : ∀ {hub : Hub π} (serial : Nat), invariant hub →
    invariant (hub.modifySubscription serial Subscription.spend)
  /-- It does not matter who is listed, what has failed and what was delivered. -/
  noted : ∀ {hub : Hub π} (lists : List (String × List Nat)) (failures : List (Event π × Failure))
    (deliveries : List (String × Event π)), invariant hub →
    invariant { hub with lists, failures, deliveries }

theorem lasting_true : Lasting fun _ : Hub π => True :=
  ⟨fun _ _ => trivial, fun _ _ => trivial, fun _ _ _ _ => trivial⟩

namespace Lasting

variable (hlasting : Lasting invariant)

include hlasting

theorem withdraw (serial : Nat) (h : invariant hub) : invariant (hub.withdraw serial) := by
  unfold Hub.withdraw
  split
  · exact h
  · exact hlasting.noted _ _ _ (hlasting.cancel serial h)

theorem foldl_withdraw (serials : List Nat) (h : invariant hub) :
    invariant (serials.foldl Hub.withdraw hub) := by
  induction serials generalizing hub with
  | nil => exact h
  | cons serial rest ih => exact ih (hlasting.withdraw serial h)

end Lasting

/-! ## Handlers -/

section Handlers

variable {inner : Event π → OnHub π Unit}

theorem spares_serialOf (h : invariant hub) (label : String) :
    Spares invariant Failure.isInterruption hub (serialOf label) := by
  refine spares_get_bind ?_
  split
  · exact spares_pure h _
  · exact spares_throw h rfl

/-- An action does not interrupt, unless it publishes and that does. -/
theorem spares_perform (hlasting : Lasting invariant) (h : invariant hub) {action : Action π}
    (hsubscribe : ∀ label event once handler, action = .subscribe label event once handler →
      invariant (hub.subscribe label event once handler))
    (hpublish : ∀ name payload, action = .publish name payload →
      Spares invariant Failure.isInterruption hub (inner ⟨name, payload⟩)) :
    Spares invariant Failure.isInterruption hub (perform inner action) := by
  cases action with
  | subscribe label event once handler =>
      exact (spares_modify (hsubscribe _ _ _ _ rfl)).bind fun _ _ hlater => spares_pure hlater _
  | withdraw label =>
      refine (spares_serialOf h label).bind fun serial _ hfound => ?_
      exact (spares_modify (hlasting.withdraw serial hfound)).bind fun _ _ hlater =>
        spares_pure hlater _
  | cancel label =>
      refine (spares_serialOf h label).bind fun serial _ hfound => ?_
      exact (spares_modify (hlasting.cancel serial hfound)).bind fun _ _ hlater =>
        spares_pure hlater _
  | publish name payload =>
      exact (hpublish name payload rfl).bind fun _ _ hlater => spares_pure hlater _
  | clear =>
      exact (spares_modify (hlasting.noted _ _ _ h)).bind fun _ _ hlater => spares_pure hlater _
  | count event => exact spares_get_bind (spares_pure h _)

theorem spares_performAll (h : invariant hub) {actions : List (Action π)}
    (hactions : ∀ action ∈ actions, ∀ hub, invariant hub →
      Spares invariant grave hub (perform inner action)) :
    Spares invariant grave hub (performAll inner actions) := by
  induction actions generalizing hub with
  | nil => exact spares_pure h ()
  | cons action rest ih =>
      have hdiscard : Spares invariant grave hub (discard (perform inner action)) :=
        (hactions action (List.mem_cons_self ..) hub h).bind fun _ _ hlater =>
          spares_pure hlater ()
      exact hdiscard.bind fun _ _ hlater =>
        ih hlater fun other hother => hactions other (List.mem_cons_of_mem _ hother)

theorem spares_call (hlasting : Lasting invariant) (h : invariant hub) (event : Event π)
    (serial : Nat) {subscription : Subscription π}
    (hactions : ∀ action ∈ subscription.handler.actions, ∀ hub, invariant hub →
      Spares invariant grave hub (perform inner action))
    (hfailure : ∀ failure ∈ subscription.handler.failure, grave failure = false) :
    Spares invariant grave hub (call inner event serial subscription) := by
  unfold call
  refine (spares_modify (hlasting.noted _ _ _ h)).bind fun _ delivered hdelivered => ?_
  dsimp only
  -- the handler ends in the same way, whether or not it has acted
  by_cases hbudget : 0 < subscription.handler.budget
  · rw [if_pos hbudget]
    refine (spares_modify (hlasting.spent serial hdelivered)).bind fun _ _ hbegun => ?_
    refine (spares_performAll hbegun hactions).bind fun _ _ hlater => ?_
    split
    · next failure hsome => exact spares_throw hlater (hfailure failure hsome)
    · exact spares_pure hlater ()
  · rw [if_neg hbudget]
    split
    · next failure hsome => exact spares_throw hdelivered (hfailure failure hsome)
    · exact spares_pure hdelivered ()

/-! ## Deliveries -/

/-- A failure of a handler is caught and kept, unless it is an interruption. -/
theorem spares_attempt (hlasting : Lasting invariant) {grave' : Failure → Bool} {event : Event π}
    {serial : Nat} {subscription : Subscription π}
    (hcall : Spares invariant grave' hub (call inner event serial subscription))
    (hpasses : ∀ failure, grave' failure = false → failure.isInterruption = true →
      grave failure = false) :
    Spares invariant grave hub (attempt inner event serial subscription) := by
  have hcalls : Spares invariant grave' hub
      (do call inner event serial subscription; return true) :=
    hcall.bind fun _ _ hcalled => spares_pure hcalled true
  refine hcalls.tryCatch fun failure later hfailure hlater => ?_
  split
  · next hinterruption =>
    exact (spares_throw hlater (hpasses failure hfailure hinterruption)).bind fun _ _ hthrown =>
      (spares_modify (hlasting.noted _ _ _ hthrown)).bind fun _ _ hkept => spares_pure hkept false
  · exact (spares_modify (hlasting.noted _ _ _ hlater)).bind fun _ _ hkept =>
      spares_pure hkept false

theorem spares_deliver (h : invariant hub) (event : Event π) (serials : List Nat)
    (hattempt : ∀ hub serial subscription, invariant hub → subscription ∈ hub.subscriptions →
      Spares invariant grave hub (attempt inner event serial subscription)) :
    Spares invariant grave hub (deliver inner event serials) := by
  induction serials generalizing hub with
  | nil => exact spares_pure h []
  | cons serial rest ih =>
      refine spares_get_bind ?_
      split
      · exact ih h
      next subscription hfound =>
      split
      · refine (hattempt hub serial subscription h (List.mem_of_getElem? hfound)).bind ?_
        intro ended later hlater
        exact (ih hlater).bind fun others _ hdelivered => spares_pure hdelivered _
      · exact ih h

theorem spares_publishOver (hlasting : Lasting invariant) (h : invariant hub) (event : Event π)
    (hattempt : ∀ hub serial subscription, invariant hub → subscription ∈ hub.subscriptions →
      Spares invariant grave hub (attempt inner event serial subscription)) :
    Spares invariant grave hub (publishOver inner event) := by
  refine spares_get_bind ?_
  refine (spares_deliver h event _ hattempt).bind fun served _ hlater => ?_
  exact spares_modify (hlasting.foldl_withdraw served hlater)

end Handlers

/-! ## Publishing -/

/-- Publishing fails only if a handler is interrupted. -/
theorem isInterruption_of_publish {event : Event π} {failure : Failure}
    (h : (publish event hub).1 = .error failure) : failure.isInterruption = true := by
  have hspares : Spares (fun _ => True) (fun failure => !failure.isInterruption) hub
      (publish event) := by
    refine spares_get_bind (spares_publishOver lasting_true trivial event ?_)
    intro hub serial subscription _ _
    refine spares_attempt lasting_true (spares_any hub _) fun failure _ hinterruption => ?_
    rw [hinterruption]
    rfl
  have hspared := hspares.2
  rw [h] at hspared
  simpa only [Spared, Bool.not_eq_false'] using hspared

end Collate.Hub
