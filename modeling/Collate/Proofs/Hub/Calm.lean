import Collate.Proofs.Hub.Interruption

/-!
# Hubs whose handlers do not interrupt

Handlers may fail, and their failures are kept; only an interruption gets through to whoever
publishes.  On a hub of which no handler interrupts, nor any handler that is subscribed on the
way (`Hub.Calm`), publishing an event comes to its end, and leaves such a hub
(`exists_publish_of_calm`).
-/

namespace Collate.Hub

variable {π β : Type} {hub : Hub π}

/-! ## Calm hubs -/

mutual

/-- Whether a handler that the action subscribes interrupts. -/
def Action.interrupts : Action π → Bool
  | .subscribe _ _ _ ⟨_, actions, failure⟩ =>
    failure.any Failure.isInterruption || actionsInterrupt actions
  | .withdraw _ | .cancel _ | .publish _ _ | .clear | .count _ => false

/-- Whether a handler that one of these actions subscribes interrupts. -/
def actionsInterrupt : List (Action π) → Bool
  | [] => false
  | action :: rest => action.interrupts || actionsInterrupt rest

end

/-- Whether the handler interrupts, or one that it subscribes. -/
def Handler.interrupts (handler : Handler (Action π)) : Bool :=
  handler.failure.any Failure.isInterruption || actionsInterrupt handler.actions

/-- No handler of the hub interrupts, nor one that these subscribe. -/
def Calm (hub : Hub π) : Prop :=
  ∀ subscription ∈ hub.subscriptions, subscription.handler.interrupts = false

theorem Calm.subscribe (h : hub.Calm) (label event : String) (once : Bool)
    {handler : Handler (Action π)} (hhandler : handler.interrupts = false) :
    (hub.subscribe label event once handler).Calm := by
  intro subscription hsubscription
  rcases List.mem_append.mp hsubscription with hold | hnew
  · exact h subscription hold
  · cases List.mem_singleton.mp hnew
    exact hhandler

theorem Calm.modifySubscription (h : hub.Calm) (serial : Nat)
    {change : Subscription π → Subscription π}
    (hchange : ∀ subscription, subscription.handler.interrupts = false →
      (change subscription).handler.interrupts = false) :
    (hub.modifySubscription serial change).Calm := by
  intro subscription hsubscription
  obtain ⟨position, hposition⟩ := List.mem_iff_getElem?.mp hsubscription
  rw [Hub.modifySubscription, List.getElem?_modify, Option.map_eq_map,
    Option.map_eq_some_iff] at hposition
  obtain ⟨old, hold, rfl⟩ := hposition
  have hcalm := h old (List.mem_of_getElem? hold)
  split
  · exact hchange old hcalm
  · exact hcalm

theorem lasting_calm : Lasting fun hub : Hub π => hub.Calm where
  cancel serial h := h.modifySubscription serial fun _ hsubscription => hsubscription
  spent serial h := h.modifySubscription serial fun _ hsubscription => hsubscription
  noted _ _ _ h := h

/-! ## Publishing -/

section Publish

variable {inner : Event π → OnHub π Unit}

/-- The computation leaves a calm hub, and is not interrupted. -/
abbrev StaysCalm (hub : Hub π) (action : OnHub π β) : Prop :=
  Spares Calm Failure.isInterruption hub action

theorem staysCalm_perform (hinner : ∀ event hub, Calm hub → StaysCalm hub (inner event))
    (h : hub.Calm) {action : Action π} (haction : action.interrupts = false) :
    StaysCalm hub (perform inner action) := by
  refine spares_perform lasting_calm h ?_ fun name payload _ => hinner ⟨name, payload⟩ hub h
  rintro label event once handler rfl
  exact h.subscribe label event once haction

theorem interrupts_eq_false_of_mem {actions : List (Action π)} {action : Action π}
    (h : actionsInterrupt actions = false) (haction : action ∈ actions) :
    action.interrupts = false := by
  induction actions with
  | nil => cases haction
  | cons first rest ih =>
      rw [actionsInterrupt, Bool.or_eq_false_iff] at h
      rcases List.mem_cons.mp haction with rfl | hrest
      · exact h.1
      · exact ih h.2 hrest

theorem staysCalm_attempt (hinner : ∀ event hub, Calm hub → StaysCalm hub (inner event))
    (h : hub.Calm) (event : Event π) (serial : Nat) {subscription : Subscription π}
    (hsubscription : subscription ∈ hub.subscriptions) :
    StaysCalm hub (attempt inner event serial subscription) := by
  have hhandler := h subscription hsubscription
  rw [Handler.interrupts, Bool.or_eq_false_iff] at hhandler
  obtain ⟨hfailure, hactions⟩ := hhandler
  have hcall : StaysCalm hub (call inner event serial subscription) := by
    refine spares_call lasting_calm h event serial ?_ fun failure hsome => ?_
    · exact fun action haction _ hlater =>
        staysCalm_perform hinner hlater (interrupts_eq_false_of_mem hactions haction)
    · rw [Option.mem_def.mp hsome] at hfailure
      exact hfailure
  exact spares_attempt lasting_calm hcall fun _ hcalm _ => hcalm

end Publish

theorem staysCalm_publishAt (levels : Nat) (event : Event π) (h : hub.Calm) :
    StaysCalm hub (publishAt levels event) := by
  induction levels generalizing hub event with
  | zero => exact spares_pure h ()
  | succ levels ih =>
      exact spares_publishOver lasting_calm h event fun hub serial _ hcalm hsubscription =>
        staysCalm_attempt (fun event _ hlater => ih event hlater) hcalm event serial hsubscription

/-- Publishing on a calm hub comes to its end, and leaves a calm hub. -/
theorem exists_publish_of_calm (h : hub.Calm) (event : Event π) :
    ∃ later, publish event hub = (.ok (), later) ∧ later.Calm := by
  have hstays : StaysCalm hub (publish event) :=
    spares_get_bind (staysCalm_publishAt (hub.potential + 1) event h)
  obtain ⟨hcalm, houtcome⟩ := hstays
  cases hpublish : publish event hub with
  | mk outcome later =>
    rw [hpublish] at hcalm houtcome
    cases outcome with
    | ok done => exact ⟨later, rfl, hcalm⟩
    | error failure =>
        -- the failure would have to be an interruption, and none is left
        have hinterruption := isInterruption_of_publish (congrArg Prod.fst hpublish)
        rw [show failure.isInterruption = false from houtcome] at hinterruption
        cases hinterruption

end Collate.Hub
