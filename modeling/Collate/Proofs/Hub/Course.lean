import Collate.Hub.Publish
import Collate.Proofs.Hub.Lists

/-!
# The course of events on a hub

What happens on a hub is a sequence of small happenings: somebody subscribes, withdraws or
cancels a subscription or clears the hub, a publish begins, comes to the turn of a subscription,
calls its handler or skips it, and ends.  A publish under way is a *round*.  Rounds are nested: a
handler that is running may begin another one.

A *course* (`Hub.Course`) is such a sequence, from one situation to another.  Handlers are free:
while a handler runs, it may do whatever can be done with a hub, and then complete, fail or be
interrupted.  So what is shown of every course holds whatever handlers do.

## Strategy

`Happens` says all that one happening can do.  Every invariant is shown for one happening by
cases, and for a course by induction (`Course.terms?_eq`, `Course.inOrder`).  That publishing and
acting on a hub follow courses is shown in another module.
-/

namespace Collate.Hub

variable {π : Type}

/-! ## Happenings -/

/-- What happens on a hub. -/
inductive Happening (π : Type) where
  /-- A subscription gets this number. -/
  | subscribed (serial : Nat) (event : String) (once : Bool)
  | withdrawn (serial : Nat)
  | cancelled (serial : Nat)
  | cleared
  /-- A publish begins. -/
  | began (event : Event π)
  /-- It is the turn of a subscription that is not active. -/
  | skipped (serial : Nat)
  /-- It is the turn of a subscription that is active, and its handler is called. -/
  | called (serial : Nat) (event : Event π)
  /-- The handler comes to its end. -/
  | completed (serial : Nat)
  /-- The handler fails, and its failure is kept. -/
  | failed (serial : Nat) (event : Event π) (failure : Failure)
  /-- A publish ends, and withdraws the subscriptions that it has served. -/
  | finished (event : Event π) (served : List Nat)
  /-- A publish ends because a handler was interrupted. -/
  | interrupted (event : Event π)

/-- A publish under way. -/
structure Round (π : Type) where
  event : Event π
  /-- The subscriptions whose turn is still to come. -/
  waiting : List Nat
  /-- The subscriptions for a single delivery whose handlers have completed. -/
  served : List Nat
  /-- The subscription whose handler is running. -/
  running : Option Nat

/-- A hub with the publishes that are under way on it, the innermost first. -/
structure Situation (π : Type) where
  hub : Hub π
  rounds : List (Round π)

/-- A handler is running, or no publish is under way; then anything can be done with the hub. -/
def Acting : List (Round π) → Prop
  | [] => True
  | round :: _ => round.running ≠ none

theorem acting_nil : Acting ([] : List (Round π)) := trivial

/-- The hub when a handler is called: the delivery is recorded, and the handler will act once
less. -/
def begun (hub : Hub π) (event : Event π) (serial : Nat) (subscription : Subscription π) :
    Hub π :=
  let delivered := { hub with deliveries := hub.deliveries ++ [(subscription.label, event)] }
  if 0 < subscription.handler.budget then delivered.modifySubscription serial Subscription.spend
  else delivered

/-- The hub with one more failure. -/
def withFailure (hub : Hub π) (event : Event π) (failure : Failure) : Hub π :=
  { hub with failures := hub.failures ++ [(event, failure)] }

/-- What a happening turns a situation into. -/
inductive Happens : Situation π → Happening π → Situation π → Prop
  | subscribed {hub rounds} (hacting : Acting rounds) (label event : String) (once : Bool)
      (handler : Handler (Action π)) :
      Happens ⟨hub, rounds⟩ (.subscribed hub.subscriptions.length event once)
        ⟨hub.subscribe label event once handler, rounds⟩
  | withdrawn {hub rounds serial} (hacting : Acting rounds)
      (hserial : serial < hub.subscriptions.length) :
      Happens ⟨hub, rounds⟩ (.withdrawn serial) ⟨hub.withdraw serial, rounds⟩
  | cancelled {hub rounds serial} (hacting : Acting rounds)
      (hserial : serial < hub.subscriptions.length) :
      Happens ⟨hub, rounds⟩ (.cancelled serial) ⟨hub.cancel serial, rounds⟩
  | cleared {hub rounds} (hacting : Acting rounds) :
      Happens ⟨hub, rounds⟩ .cleared ⟨hub.cleared, rounds⟩
  | began {hub rounds} (hacting : Acting rounds) (event : Event π) :
      Happens ⟨hub, rounds⟩ (.began event)
        ⟨hub, ⟨event, hub.subscribers event.name, [], none⟩ :: rounds⟩
  | skipped {hub rounds event serial waiting served} (hactive : hub.isActive serial = false) :
      Happens ⟨hub, ⟨event, serial :: waiting, served, none⟩ :: rounds⟩ (.skipped serial)
        ⟨hub, ⟨event, waiting, served, none⟩ :: rounds⟩
  | called {hub rounds event serial waiting served} {subscription : Subscription π}
      (hfound : hub.subscriptions[serial]? = some subscription)
      (hactive : subscription.active = true) :
      Happens ⟨hub, ⟨event, serial :: waiting, served, none⟩ :: rounds⟩ (.called serial event)
        ⟨hub.begun event serial subscription, ⟨event, waiting, served, some serial⟩ :: rounds⟩
  | completed {hub rounds event serial waiting served} :
      Happens ⟨hub, ⟨event, waiting, served, some serial⟩ :: rounds⟩ (.completed serial)
        ⟨hub, ⟨event, waiting, if hub.isOnce serial then served ++ [serial] else served, none⟩ ::
          rounds⟩
  | failed {hub rounds event serial waiting served} {failure : Failure}
      (hfailure : failure.isInterruption = false) :
      Happens ⟨hub, ⟨event, waiting, served, some serial⟩ :: rounds⟩
        (.failed serial event failure)
        ⟨hub.withFailure event failure, ⟨event, waiting, served, none⟩ :: rounds⟩
  | finished {hub rounds event served} :
      Happens ⟨hub, ⟨event, [], served, none⟩ :: rounds⟩ (.finished event served)
        ⟨served.foldl withdraw hub, rounds⟩
  | interrupted {hub rounds event serial waiting served} :
      Happens ⟨hub, ⟨event, waiting, served, some serial⟩ :: rounds⟩ (.interrupted event)
        ⟨hub, rounds⟩

/-! ## Courses -/

/-- One happening after the other. -/
inductive Course (start : Situation π) : List (Happening π) → Situation π → Prop
  | nil : Course start [] start
  | snoc {history happening between last} (h : Course start history between)
      (hstep : Happens between happening last) : Course start (history ++ [happening]) last

section Course

variable {first between last : Situation π} {history later : List (Happening π)}
  {happening : Happening π}

theorem Happens.course (h : Happens first happening last) : Course first [happening] last :=
  .snoc .nil h

theorem Course.trans (h : Course first history between) (hlater : Course between later last) :
    Course first (history ++ later) last := by
  induction hlater with
  | nil => simpa using h
  | snoc _ hstep ih => simpa using Course.snoc ih hstep

theorem Course.cons (h : Happens first happening between) (hlater : Course between later last) :
    Course first (happening :: later) last :=
  h.course.trans hlater

/-- A course can be parted anywhere. -/
theorem Course.exists_between (h : Course first (history ++ later) last) :
    ∃ between, Course first history between ∧ Course between later last := by
  generalize hall : history ++ later = all at h
  induction h generalizing later with
  | nil =>
      obtain ⟨rfl, rfl⟩ := List.append_eq_nil_iff.mp hall
      exact ⟨first, .nil, .nil⟩
  | @snoc before happening _ last hbefore hstep ih =>
      rcases List.eq_nil_or_concat later with rfl | ⟨later', last', rfl⟩
      · rw [List.append_nil] at hall
        exact ⟨last, hall ▸ hbefore.snoc hstep, .nil⟩
      · rw [List.concat_eq_append, ← List.append_assoc] at hall
        obtain ⟨hparts, hlast⟩ := List.append_inj' hall rfl
        obtain rfl := List.singleton_inj.mp hlast
        obtain ⟨between, hfirst, hsecond⟩ := ih hparts
        rw [List.concat_eq_append]
        exact ⟨between, hfirst, hsecond.snoc hstep⟩

theorem Course.eq_of_nil (h : Course first [] last) : last = first := by
  generalize hall : ([] : List (Happening π)) = all at h
  cases h with
  | nil => rfl
  | snoc _ _ => simp at hall

theorem Course.happens (h : Course first [happening] last) : Happens first happening last := by
  generalize hall : [happening] = all at h
  cases h with
  | nil => cases hall
  | @snoc before _ _ _ hbefore hstep =>
      cases before with
      | nil =>
          obtain rfl := hbefore.eq_of_nil
          obtain rfl := List.singleton_inj.mp hall
          exact hstep
      | cons _ _ => simp at hall

theorem Course.exists_of_cons (h : Course first (happening :: later) last) :
    ∃ between, Happens first happening between ∧ Course between later last := by
  have hparts : Course first ([happening] ++ later) last := h
  obtain ⟨between, hfirst, hlater⟩ := hparts.exists_between
  exact ⟨between, hfirst.happens, hlater⟩

/-- The moment at which something happens. -/
theorem Course.exists_around (h : Course first (history ++ happening :: later) last) :
    ∃ between next, Course first history between ∧ Happens between happening next ∧
      Course next later last := by
  obtain ⟨between, hbefore, hrest⟩ := h.exists_between
  obtain ⟨next, hstep, hafter⟩ := hrest.exists_of_cons
  exact ⟨between, next, hbefore, hstep, hafter⟩

theorem Course.exists_of_mem (h : Course first history last) (hmem : happening ∈ history) :
    ∃ before after between next, history = before ++ happening :: after ∧
      Course first before between ∧ Happens between happening next ∧ Course next after last := by
  obtain ⟨before, after, rfl⟩ := List.append_of_mem hmem
  obtain ⟨between, next, hbefore, hstep, hafter⟩ := h.exists_around
  exact ⟨before, after, between, next, rfl, hbefore, hstep, hafter⟩

end Course

/-! ## What happenings keep -/

section Begun

variable (hub : Hub π) (event : Event π) (serial : Nat) (subscription : Subscription π)

@[simp] theorem terms?_begun (other : Nat) :
    (hub.begun event serial subscription).terms? other = hub.terms? other := by
  unfold begun
  split
  · apply terms?_modifySubscription
    intro subscription
    rfl
  · rfl

@[simp] theorem isActive_begun (other : Nat) :
    (hub.begun event serial subscription).isActive other = hub.isActive other := by
  unfold begun
  split
  · apply isActive_modifySubscription
    intro subscription
    rfl
  · rfl

@[simp] theorem length_begun :
    (hub.begun event serial subscription).subscriptions.length = hub.subscriptions.length := by
  unfold begun
  split
  · exact length_modifySubscription _ serial
  · rfl

@[simp] theorem subscribers_begun (name : String) :
    (hub.begun event serial subscription).subscribers name = hub.subscribers name := by
  unfold begun
  split <;> rfl

@[simp] theorem lists_begun : (hub.begun event serial subscription).lists = hub.lists := by
  unfold begun
  split <;> rfl

@[simp] theorem labels_begun : (hub.begun event serial subscription).labels = hub.labels := by
  unfold begun
  split <;> rfl

@[simp] theorem failures_begun :
    (hub.begun event serial subscription).failures = hub.failures := by
  unfold begun
  split <;> rfl

@[simp] theorem deliveries_begun :
    (hub.begun event serial subscription).deliveries =
      hub.deliveries ++ [(subscription.label, event)] := by
  unfold begun
  split <;> rfl

end Begun

section Keeps

variable {before after : Situation π} {happening : Happening π} {history : List (Happening π)}
  {serial : Nat}

theorem Happens.length_le (h : Happens before happening after) :
    before.hub.subscriptions.length ≤ after.hub.subscriptions.length := by
  cases h with
  | subscribed _ label event once handler => simp
  | cleared _ => exact Nat.le_refl _
  | failed _ => exact Nat.le_refl _
  | _ => simp

/-- Subscriptions keep the terms on which they were made. -/
theorem Happens.terms?_eq (h : Happens before happening after)
    (hserial : serial < before.hub.subscriptions.length) :
    after.hub.terms? serial = before.hub.terms? serial := by
  cases h with
  | subscribed _ label event once handler =>
      rw [terms?_subscribe, if_neg (Nat.ne_of_lt hserial)]
  | cleared _ => rfl
  | failed _ => rfl
  | _ => simp

/-- Nothing makes a subscription active again. -/
theorem Happens.isActive_of_isActive (h : Happens before happening after)
    (hserial : serial < before.hub.subscriptions.length)
    (hactive : after.hub.isActive serial = true) : before.hub.isActive serial = true := by
  cases h with
  | subscribed _ label event once handler =>
      rw [isActive_subscribe] at hactive
      simpa [Nat.ne_of_lt hserial] using hactive
  | cleared _ => exact hactive
  | failed _ => exact hactive
  | _ => simp_all

theorem Happens.inOrder (h : Happens before happening after) (hbefore : before.hub.InOrder) :
    after.hub.InOrder := by
  cases h with
  | subscribed _ label event once handler => exact hbefore.subscribe label event once handler
  | withdrawn _ _ => exact hbefore.withdraw _
  | cancelled _ _ => exact hbefore.cancel _
  | cleared _ => exact hbefore.cleared
  | called _ _ =>
      exact hbefore.congr (lists_begun ..) (funext fun _ => terms?_begun ..) (labels_begun ..)
        (length_begun ..)
  | failed _ => exact hbefore.congr rfl rfl rfl rfl
  | finished => exact hbefore.foldl_withdraw _
  | _ => exact hbefore

theorem Course.length_le (h : Course before history after) :
    before.hub.subscriptions.length ≤ after.hub.subscriptions.length := by
  induction h with
  | nil => exact Nat.le_refl _
  | snoc _ hstep ih => exact Nat.le_trans ih hstep.length_le

theorem Course.terms?_eq (h : Course before history after)
    (hserial : serial < before.hub.subscriptions.length) :
    after.hub.terms? serial = before.hub.terms? serial := by
  induction h with
  | nil => rfl
  | snoc hbefore hstep ih =>
      rw [hstep.terms?_eq (Nat.lt_of_lt_of_le hserial hbefore.length_le), ih]

theorem Course.isActive_of_isActive (h : Course before history after)
    (hserial : serial < before.hub.subscriptions.length)
    (hactive : after.hub.isActive serial = true) : before.hub.isActive serial = true := by
  induction h with
  | nil => exact hactive
  | snoc hbefore hstep ih =>
      exact ih (hstep.isActive_of_isActive (Nat.lt_of_lt_of_le hserial hbefore.length_le) hactive)

theorem Course.inOrder (h : Course before history after) (hbefore : before.hub.InOrder) :
    after.hub.InOrder := by
  induction h with
  | nil => exact hbefore
  | snoc _ hstep ih => exact hstep.inOrder ih

end Keeps

/-! ## Rounds in order -/

/-- In a round every subscription has one turn, all are subscriptions to the event, and those
served are for a single delivery. -/
structure Round.InOrder (round : Round π) (hub : Hub π) : Prop where
  nodup : (round.served ++ (round.running.toList ++ round.waiting)).Nodup
  event_eq : ∀ serial ∈ round.served ++ (round.running.toList ++ round.waiting),
    (hub.terms? serial).map Terms.event = some round.event.name
  isOnce : ∀ serial ∈ round.served, hub.isOnce serial = true

/-- Hub and rounds are in order. -/
structure Situation.InOrder (situation : Situation π) : Prop where
  hub : situation.hub.InOrder
  rounds : ∀ round ∈ situation.rounds, round.InOrder situation.hub

/-- A new hub. -/
def fresh : Situation π := ⟨{}, []⟩

theorem inOrder_fresh : (fresh : Situation π).InOrder :=
  ⟨inOrder_empty, fun _ hround => by cases hround⟩

section Rounds

variable {before after : Situation π} {happening : Happening π} {history : List (Happening π)}
  {round : Round π} {hub later : Hub π}

theorem Round.InOrder.lt_length (h : round.InOrder hub) {serial : Nat}
    (hserial : serial ∈ round.served ++ (round.running.toList ++ round.waiting)) :
    serial < hub.subscriptions.length := by
  obtain ⟨terms, hterms, -⟩ := Option.map_eq_some_iff.mp (h.event_eq serial hserial)
  exact lt_length_of_terms?_eq_some hterms

theorem Round.InOrder.of_terms?_eq (h : round.InOrder hub)
    (hterms : ∀ serial < hub.subscriptions.length, later.terms? serial = hub.terms? serial) :
    round.InOrder later := by
  refine ⟨h.nodup, ?_, ?_⟩
  · intro serial hserial
    rw [hterms serial (h.lt_length hserial)]
    exact h.event_eq serial hserial
  · intro serial hserial
    rw [Hub.isOnce, hterms serial (h.lt_length (List.mem_append_left _ hserial))]
    exact h.isOnce serial hserial

/-- A round whose subscriptions are among those of another. -/
theorem Round.InOrder.sublist {shorter : Round π} (h : round.InOrder hub)
    (hevent : shorter.event = round.event)
    (hsublist : (shorter.served ++ (shorter.running.toList ++ shorter.waiting)).Sublist
      (round.served ++ (round.running.toList ++ round.waiting)))
    (honce : ∀ serial ∈ shorter.served, hub.isOnce serial = true) : shorter.InOrder hub := by
  refine ⟨h.nodup.sublist hsublist, ?_, honce⟩
  intro serial hserial
  rw [hevent]
  exact h.event_eq serial (hsublist.subset hserial)

theorem Happens.inOrder_situation (h : Happens before happening after)
    (hbefore : before.InOrder) : after.InOrder := by
  refine ⟨h.inOrder hbefore.hub, ?_⟩
  -- terms do not change, so all rounds stay in order on the later hub; only the innermost round
  -- itself changes
  have hkept : ∀ round ∈ before.rounds, round.InOrder after.hub := fun round hround =>
    (hbefore.rounds round hround).of_terms?_eq fun serial hserial => h.terms?_eq hserial
  cases h with
  | subscribed | withdrawn | cancelled | cleared => exact hkept
  | @began hub rounds hacting event =>
      intro round hround
      rcases List.mem_cons.mp hround with rfl | hrest
      · refine ⟨?_, ?_, by simp⟩
        · simpa using hbefore.hub.nodup_subscribers event.name
        · intro serial hserial
          exact hbefore.hub.event_eq_of_mem (by simpa using hserial)
      · exact hkept round hrest
  | @skipped hub rounds event serial waiting served hactive =>
      intro round hround
      rcases List.mem_cons.mp hround with rfl | hrest
      · have hfirst := hkept ⟨event, serial :: waiting, served, none⟩ (by simp)
        exact hfirst.sublist rfl (by simp) hfirst.isOnce
      · exact hkept round (by simp [hrest])
  | @called hub rounds event serial waiting served subscription hfound hactive =>
      intro round hround
      rcases List.mem_cons.mp hround with rfl | hrest
      · have hfirst := hkept ⟨event, serial :: waiting, served, none⟩ (by simp)
        exact hfirst.sublist rfl (by simp) hfirst.isOnce
      · exact hkept round (by simp [hrest])
  | @completed hub rounds event serial waiting served =>
      intro round hround
      rcases List.mem_cons.mp hround with rfl | hrest
      · have hfirst := hkept ⟨event, waiting, served, some serial⟩ (by simp)
        -- whoever completes is served if the subscription is for a single delivery
        cases honce : hub.isOnce serial with
        | false =>
            exact hfirst.sublist rfl (by simp) (by simpa using hfirst.isOnce)
        | true =>
            refine hfirst.sublist rfl (by simp) ?_
            intro other hother
            simp only [if_true, List.mem_append, List.mem_singleton] at hother
            rcases hother with hserved | rfl
            · exact hfirst.isOnce other hserved
            · exact honce
      · exact hkept round (by simp [hrest])
  | @failed hub rounds event serial waiting served failure hfailure =>
      intro round hround
      rcases List.mem_cons.mp hround with rfl | hrest
      · have hfirst := hkept ⟨event, waiting, served, some serial⟩ (by simp)
        exact hfirst.sublist rfl (by simp) hfirst.isOnce
      · exact hkept round (by simp [hrest])
  | finished | interrupted =>
      intro round hround
      exact hkept round (by simp [hround])

theorem Course.inOrder_situation (h : Course before history after) (hbefore : before.InOrder) :
    after.InOrder := by
  induction h with
  | nil => exact hbefore
  | snoc _ hstep ih => exact hstep.inOrder_situation ih

end Rounds

end Collate.Hub
