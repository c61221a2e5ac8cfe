import Collate.Hub.Basic

/-!
# Publishing

Publishing an event calls, in order, the handlers of those who were subscribed to
it when publishing began and are still active when their turn comes.  A handler
that fails stops no other one; its failure is kept.  Only an interruption ends the
delivery.

A handler may act on the hub, and so publish in turn.  Nested publishing comes to an
end, because every level of it uses up some handler's budget.

## Strategy

The level below is a parameter: `publishOver inner` publishes where its handlers
publish by `inner`.  `publishAt` closes the loop after a number of levels, and
`Hub.potential` bounds how many levels there can be.
-/

namespace Collate.Hub

variable {π : Type}

/-- A computation on a hub. -/
abbrev OnHub (π : Type) := ExceptT Failure (StateM (Hub π))

/-- What an action answers. -/
inductive Reply (π : Type) where
  | silent
  | published (event : Event π)
  | counted (count : Nat)

/-! ## Actions -/

/-- The number of the subscription that a label names. -/
def serialOf (label : String) : OnHub π Nat := do
  match (← get).labels.lookup label with
  | some serial => return serial
  | none => throw (.absentEntry label)

/-- Performs an action, where events are published by `publish`. -/
def perform (publish : Event π → OnHub π Unit) : Action π → OnHub π (Reply π)
  | .subscribe label event once handler => do
    modify fun hub => hub.subscribe label event once handler
    return .silent
  | .withdraw label => do
    let serial ← serialOf label
    modify fun hub => hub.withdraw serial
    return .silent
  | .cancel label => do
    let serial ← serialOf label
    modify fun hub => hub.cancel serial
    return .silent
  | .publish name payload => do
    publish ⟨name, payload⟩
    return .published ⟨name, payload⟩
  | .clear => do
    modify Hub.cleared
    return .silent
  | .count event => return .counted ((← get).subscriberCount event)

/-- Performs actions one after the other. -/
def performAll (publish : Event π → OnHub π Unit) : List (Action π) → OnHub π Unit
  | [] => return
  | action :: rest => do
    discard (perform publish action)
    performAll publish rest

/-! ## Deliveries -/

/-- The subscription with one performance of its actions less. -/
def Subscription.spend (subscription : Subscription π) : Subscription π :=
  { subscription with
    handler := { subscription.handler with budget := subscription.handler.budget - 1 } }

/-- Calls the handler of a subscription. -/
def call (inner : Event π → OnHub π Unit) (event : Event π) (serial : Nat)
    (subscription : Subscription π) : OnHub π Unit := do
  modify fun hub =>
    { hub with deliveries := hub.deliveries ++ [(subscription.label, event)] }
  if 0 < subscription.handler.budget then
    modify fun hub => hub.modifySubscription serial Subscription.spend
    performAll inner subscription.handler.actions
  match subscription.handler.failure with
  | some failure => throw failure
  | none => return

/-- Calls a handler and keeps its failure; says whether it came to its end. -/
def attempt (inner : Event π → OnHub π Unit) (event : Event π) (serial : Nat)
    (subscription : Subscription π) : OnHub π Bool :=
  tryCatch
    (do
      call inner event serial subscription
      return true)
    fun failure => do
      if failure.isInterruption then throw failure
      modify fun hub => { hub with failures := hub.failures ++ [(event, failure)] }
      return false

/-- Delivers an event to the subscriptions of these numbers, as far as they are
active; returns those that are to be withdrawn. -/
def deliver (inner : Event π → OnHub π Unit) (event : Event π) :
    List Nat → OnHub π (List Nat)
  | [] => return []
  | serial :: rest => do
    match (← get).subscriptions[serial]? with
    | none => deliver inner event rest
    | some subscription =>
      if subscription.active then
        let ended ← attempt inner event serial subscription
        let others ← deliver inner event rest
        return if ended && subscription.once then serial :: others else others
      else deliver inner event rest

/-- Publishes an event, where handlers publish by `inner`. -/
def publishOver (inner : Event π → OnHub π Unit) (event : Event π) : OnHub π Unit := do
  let served ← deliver inner event ((← get).subscribers event.name)
  modify fun hub => served.foldl withdraw hub

/-- Publishes an event, to a number of levels. -/
def publishAt : Nat → Event π → OnHub π Unit
  | 0, _ => return
  | levels + 1, event => publishOver (publishAt levels) event

/-! ## How deep publishing can go -/

mutual

/-- How often the handlers of the subscriptions that an action makes can act. -/
def Action.weight : Action π → Nat
  | .subscribe _ _ _ ⟨budget, actions, _⟩ => budget * (1 + actionsWeight actions)
  | .withdraw _ | .cancel _ | .publish _ _ | .clear | .count _ => 0

/-- How often the handlers of the subscriptions that some actions make can act. -/
def actionsWeight : List (Action π) → Nat
  | [] => 0
  | action :: rest => action.weight + actionsWeight rest

end

/-- How often the handlers of a hub can act. -/
def potential (hub : Hub π) : Nat :=
  hub.subscriptions.foldr (fun subscription rest =>
    subscription.handler.budget * (1 + actionsWeight subscription.handler.actions) + rest) 0

/-- Publishes an event. -/
def publish (event : Event π) : OnHub π Unit := do
  publishAt ((← get).potential + 1) event

/-- Performs an action. -/
def act (action : Action π) : OnHub π (Reply π) := perform publish action

end Collate.Hub
