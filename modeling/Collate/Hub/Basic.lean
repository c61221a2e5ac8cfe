import Collate.Failure

/-!
# Subscriptions

A hub delivers events to those who subscribed to their names.  A subscription is
known by its serial number, the position at which it was made.  It can be
cancelled, which only silences it, or withdrawn, which also removes it from the
list of its event; a subscription for a single delivery is withdrawn after it.

What a handler does when an event reaches it is described by data: it may act on
the hub itself a limited number of times, and it may fail.

## Strategy

`Hub.subscriptions` only grows.  `Hub.lists` holds, for every event name that has
subscribers, their serial numbers in order; a name without subscribers has no list.
-/

namespace Collate.Hub

/-! ## Handlers -/

/-- What a handler does: a number of times it performs some actions on the hub, and
after that, every time, it may fail. -/
structure Handler (Action : Type) where
  budget : Nat
  actions : List Action
  failure : Option Failure

/-- An action on a hub whose events carry payloads of type `π`.  Subscriptions are
named by labels; a label names the latest subscription made with it. -/
inductive Action (π : Type) where
  | subscribe (label event : String) (once : Bool) (handler : Handler (Action π))
  | withdraw (label : String)
  | cancel (label : String)
  | publish (event : String) (payload : π)
  | clear
  | count (event : String)

instance {π : Type} : Inhabited (Action π) := ⟨.clear⟩

/-- An event on its way to the subscribers. -/
structure Event (π : Type) where
  name : String
  payload : π

/-- A subscription. -/
structure Subscription (π : Type) where
  label : String
  event : String
  once : Bool
  active : Bool
  handler : Handler (Action π)

end Hub

/-! ## The state -/

/-- A hub: its subscriptions and what has come of its events. -/
structure Hub (π : Type) where
  /-- All subscriptions ever made; the position of a subscription is its number. -/
  subscriptions : List (Hub.Subscription π) := []
  /-- The subscribers of each event name. -/
  lists : List (String × List Nat) := []
  /-- The subscription that each label names. -/
  labels : List (String × Nat) := []
  /-- The failures of handlers, with the event that reached them. -/
  failures : List (Hub.Event π × Failure) := []
  /-- Every delivery, by the label of the subscription. -/
  deliveries : List (String × Hub.Event π) := []

namespace Hub

variable {π : Type}

/-- The subscribers of an event name, in the order of their subscriptions. -/
def subscribers (hub : Hub π) (event : String) : List Nat := (hub.lists.lookup event).getD []

/-- The lists with the list of one name replaced; an empty list is left out. -/
def setList (lists : List (String × List Nat)) (event : String) (serials : List Nat) :
    List (String × List Nat) :=
  let others := lists.filter fun entry => entry.1 != event
  if serials = [] then others else (event, serials) :: others

/-- The hub with one more subscription. -/
def subscribe (hub : Hub π) (label event : String) (once : Bool)
    (handler : Handler (Action π)) : Hub π :=
  let serial := hub.subscriptions.length
  { hub with
    subscriptions := hub.subscriptions ++ [⟨label, event, once, true, handler⟩]
    lists := setList hub.lists event (hub.subscribers event ++ [serial])
    labels := (label, serial) :: hub.labels.filter fun entry => entry.1 != label }

/-- The hub with one subscription changed. -/
def modifySubscription (hub : Hub π) (serial : Nat)
    (change : Subscription π → Subscription π) : Hub π :=
  { hub with subscriptions := hub.subscriptions.modify serial change }

/-- The hub after a subscription was cancelled. -/
def cancel (hub : Hub π) (serial : Nat) : Hub π :=
  hub.modifySubscription serial fun subscription => { subscription with active := false }

/-- The hub after a subscription was withdrawn. -/
def withdraw (hub : Hub π) (serial : Nat) : Hub π :=
  match hub.subscriptions[serial]? with
  | none => hub
  | some subscription =>
    { hub.cancel serial with
      lists :=
        setList hub.lists subscription.event
          ((hub.subscribers subscription.event).filter (· != serial)) }

/-- The hub without any subscribers or failures. -/
def cleared (hub : Hub π) : Hub π := { hub with lists := [], failures := [] }

/-- How many subscribers an event name has. -/
def subscriberCount (hub : Hub π) (event : String) : Nat := (hub.subscribers event).length

theorem lookup_filter_ne (lists : List (String × List Nat)) (event other : String)
    (h : other ≠ event) :
    (lists.filter fun entry => entry.1 != event).lookup other = lists.lookup other := by
  induction lists with
  | nil => rfl
  | cons entry rest ih =>
    obtain ⟨name, serials⟩ := entry
    by_cases hentry : name = event
    · have hne : (other == name) = false := by simpa [hentry] using h
      simp [hentry, ih, List.lookup_cons, show (other == event) = false by simpa using h]
    · simp only [List.filter_cons, bne_iff_ne, ne_eq, hentry, not_false_eq_true, if_true,
        List.lookup_cons, ih]

/-- Changing the list of one name leaves the subscribers of another as they are. -/
theorem lookup_setList_of_ne (lists : List (String × List Nat)) (serials : List Nat)
    {event other : String} (h : other ≠ event) :
    (setList lists event serials).lookup other = lists.lookup other := by
  unfold setList
  have hne : (other == event) = false := by simpa using h
  split
  · exact lookup_filter_ne lists event other h
  · simp [List.lookup_cons, hne, lookup_filter_ne lists event other h]

end Hub

end Collate
