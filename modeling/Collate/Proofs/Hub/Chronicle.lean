import Collate.Proofs.Computation
import Collate.Proofs.Hub.Course

/-!
# Acting on a hub follows a course

Whatever is done with a hub, and whatever its handlers do in turn, is a course of happenings
(`Hub.exists_course_act`).  A publish begins, delivers its event turn by turn, and is finished,
or ended by the interruption of a handler (`Hub.exists_course_publishOver`).

So actions one after the other have a chronicle: for each action the happenings that it leads
to, beginning as that action has to begin (`Hub.exists_chronicle`).

## Strategy

One lemma for each function of `Hub.Publish`, in the order in which they call each other.  What
the handlers do is a parameter, `Performs`: happenings of some kind, as long as the actions of
the handlers lead to such happenings only.
-/

namespace Collate.Hub

variable {π β γ : Type} {hub : Hub π} {rounds : List (Round π)}

/-! ## Actions -/

/-- What actions lead to that neither publish nor clear. -/
def Happening.IsModest : Happening π → Prop
  | .subscribed _ _ _ | .withdrawn _ | .cancelled _ => True
  | _ => False

/-- Actions that neither publish nor clear. -/
def Action.IsModest : Action π → Prop
  | .publish _ _ | .clear => False
  | _ => True

/-- What an action leads to, at least to begin with. -/
def Action.LeadsTo (hub : Hub π) : Action π → List (Happening π) → Prop
  | .subscribe _ event once _, history =>
    history = [.subscribed hub.subscriptions.length event once]
  | .withdraw label, history => history = (hub.labels.lookup label).toList.map .withdrawn
  | .cancel label, history => history = (hub.labels.lookup label).toList.map .cancelled
  | .publish name payload, history => ∃ inside, history = .began ⟨name, payload⟩ :: inside
  | .clear, history => history = [.cleared]
  | .count _, history => history = []

section Perform

variable {inner : Event π → OnHub π Unit} {label : String} {serial : Nat}

theorem serialOf_of_lookup_eq_none (h : hub.labels.lookup label = none) :
    serialOf label hub = (.error (.absentEntry label), hub) := by
  unfold serialOf
  rw [bind_apply, get_apply]
  simp only [h]
  rfl

theorem serialOf_of_lookup_eq_some (h : hub.labels.lookup label = some serial) :
    serialOf label hub = (.ok serial, hub) := by
  unfold serialOf
  rw [bind_apply, get_apply]
  simp only [h]
  rfl

/-- To change a subscription that a label names changes nothing if there is none. -/
theorem change_snd (label : String) (change : Nat → Hub π → Hub π) (reply : Reply π)
    (hub : Hub π) :
    ((serialOf label >>= fun serial => modify (change serial) >>= fun _ => pure reply :
      OnHub π (Reply π)) hub).2 =
        (hub.labels.lookup label).elim hub fun serial => change serial hub := by
  rw [bind_apply]
  cases hlabel : hub.labels.lookup label with
  | none => rw [serialOf_of_lookup_eq_none hlabel, Option.elim_none]
  | some serial =>
      rw [serialOf_of_lookup_eq_some hlabel]
      rfl

/-- An action that does not publish happens at once, if it happens. -/
theorem exists_course_of_not_publish (inner : Event π → OnHub π Unit) (h : hub.InOrder)
    (hacting : Acting rounds) (action : Action π)
    (haction : ∀ name payload, action ≠ .publish name payload) :
    ∃ history, action.LeadsTo hub history ∧
      Course ⟨hub, rounds⟩ history ⟨(perform inner action hub).2, rounds⟩ := by
  cases action with
  | subscribe label event once handler =>
      exact ⟨_, rfl, (Happens.subscribed hacting label event once handler).course⟩
  | withdraw label =>
      refine ⟨_, rfl, ?_⟩
      simp only [perform]
      rw [change_snd label fun serial hub => hub.withdraw serial]
      cases hlabel : hub.labels.lookup label with
      | none => exact .nil
      | some serial => exact (Happens.withdrawn hacting (h.lt_length_of_lookup hlabel)).course
  | cancel label =>
      refine ⟨_, rfl, ?_⟩
      simp only [perform]
      rw [change_snd label fun serial hub => hub.cancel serial]
      cases hlabel : hub.labels.lookup label with
      | none => exact .nil
      | some serial => exact (Happens.cancelled hacting (h.lt_length_of_lookup hlabel)).course
  | publish name payload => exact absurd rfl (haction name payload)
  | clear => exact ⟨_, rfl, (Happens.cleared hacting).course⟩
  | count event => exact ⟨_, rfl, .nil⟩

theorem perform_publish_snd (name : String) (payload : π) :
    (perform inner (.publish name payload) hub).2 = (inner ⟨name, payload⟩ hub).2 := by
  simp only [perform]
  rw [bind_apply]
  cases inner ⟨name, payload⟩ hub with
  | mk outcome later => cases outcome <;> rfl

/-- An action leads to happenings of its own, if publishing begins with a publish. -/
theorem exists_course_perform (h : hub.InOrder) (hacting : Acting rounds) (action : Action π)
    (hinner : ∀ event, ∃ inside,
      Course ⟨hub, rounds⟩ (.began event :: inside) ⟨(inner event hub).2, rounds⟩) :
    ∃ history, action.LeadsTo hub history ∧
      Course ⟨hub, rounds⟩ history ⟨(perform inner action hub).2, rounds⟩ := by
  -- publishing is the only action that is more than one happening
  by_cases hpublish : ∃ name payload, action = .publish name payload
  · obtain ⟨name, payload, rfl⟩ := hpublish
    rw [perform_publish_snd]
    obtain ⟨inside, hcourse⟩ := hinner ⟨name, payload⟩
    exact ⟨_, ⟨inside, rfl⟩, hcourse⟩
  · exact exists_course_of_not_publish inner h hacting action fun name payload heq =>
      hpublish ⟨name, payload, heq⟩

end Perform

/-! ## Handlers -/

section Calls

variable {allowed : Happening π → Prop} {inner : Event π → OnHub π Unit}

/-- Wherever it is performed, the action leads to happenings of this kind only. -/
def Performs (allowed : Happening π → Prop) (inner : Event π → OnHub π Unit)
    (action : Action π) : Prop :=
  ∀ (hub : Hub π) (rounds : List (Round π)), hub.InOrder → Acting rounds →
    ∃ history, (∀ happening ∈ history, allowed happening) ∧
      Course ⟨hub, rounds⟩ history ⟨(perform inner action hub).2, rounds⟩

theorem performs_of_isModest {action : Action π} (h : action.IsModest) :
    Performs Happening.IsModest inner action := by
  intro hub rounds hhub hacting
  obtain ⟨history, hleads, hcourse⟩ := exists_course_of_not_publish inner hhub hacting action
    (by rintro name payload rfl; exact h)
  refine ⟨history, ?_, hcourse⟩
  cases action with
  | subscribe label event once handler =>
      obtain rfl := hleads
      simp [Happening.IsModest]
  | withdraw label =>
      obtain rfl := hleads
      simp [Happening.IsModest]
  | cancel label =>
      obtain rfl := hleads
      simp [Happening.IsModest]
  | publish name payload => exact h.elim
  | clear => exact h.elim
  | count event =>
      obtain rfl := hleads
      simp

theorem Performs.mono {allowed' : Happening π → Prop} {action : Action π}
    (h : Performs allowed inner action)
    (hallowed : ∀ happening, allowed happening → allowed' happening) :
    Performs allowed' inner action := by
  intro hub rounds hhub hacting
  obtain ⟨history, hhistory, hcourse⟩ := h hub rounds hhub hacting
  exact ⟨history, fun happening hmem => hallowed happening (hhistory happening hmem), hcourse⟩

theorem exists_course_performAll {actions : List (Action π)}
    (hactions : ∀ action ∈ actions, Performs allowed inner action) (h : hub.InOrder)
    {rounds : List (Round π)} (hacting : Acting rounds) :
    ∃ history, (∀ happening ∈ history, allowed happening) ∧
      Course ⟨hub, rounds⟩ history ⟨(performAll inner actions hub).2, rounds⟩ := by
  induction actions generalizing hub with
  | nil => exact ⟨[], by simp, .nil⟩
  | cons action rest ih =>
      obtain ⟨first, hfirst, hcourse⟩ := hactions action (by simp) hub rounds h hacting
      have hdiscard : discard (perform inner action) hub =
          ((perform inner action hub).1.map fun _ => (), (perform inner action hub).2) := by
        show (perform inner action >>= fun _ => pure ()) hub = _
        rw [bind_apply]
        cases perform inner action hub with
        | mk outcome later => cases outcome <;> rfl
      unfold performAll
      rw [bind_apply, hdiscard]
      -- an action that fails keeps the others from being performed
      cases houtcome : (perform inner action hub).1 with
      | error failure => exact ⟨first, hfirst, hcourse⟩
      | ok reply =>
          obtain ⟨others, hothers, hrest⟩ :=
            ih (fun other hother => hactions other (by simp [hother])) (hcourse.inOrder h)
          refine ⟨first ++ others, ?_, hcourse.trans hrest⟩
          intro happening hmem
          exact (List.mem_append.mp hmem).elim (hfirst happening) (hothers happening)

variable {event : Event π} {serial : Nat} {subscription : Subscription π} {served : List Nat}

/-- The actions that the handler of a subscription performs when it is called. -/
def Subscription.due (subscription : Subscription π) : List (Action π) :=
  if 0 < subscription.handler.budget then subscription.handler.actions else []

/-- A call of a handler: it begins, performs the actions that are due, and may fail after them. -/
theorem call_apply (inner : Event π → OnHub π Unit) (event : Event π) (serial : Nat)
    (subscription : Subscription π) (hub : Hub π) :
    call inner event serial subscription hub =
      (performAll inner subscription.due >>= fun _ =>
        subscription.handler.failure.elim (pure ()) throw)
          (hub.begun event serial subscription) := by
  unfold call begun Subscription.due
  rw [bind_apply, modify_apply]
  dsimp only
  by_cases hbudget : 0 < subscription.handler.budget
  · simp only [if_pos hbudget]
    rw [bind_apply, modify_apply]
    cases subscription.handler.failure <;> rfl
  · simp only [if_neg hbudget]
    cases subscription.handler.failure <;> rfl

/-- Failing after its actions, a handler leaves the hub as the actions did. -/
theorem call_snd (inner : Event π → OnHub π Unit) (event : Event π) (serial : Nat)
    (subscription : Subscription π) (hub : Hub π) :
    (call inner event serial subscription hub).2 =
      (performAll inner subscription.due (hub.begun event serial subscription)).2 := by
  rw [call_apply, bind_apply]
  cases performAll inner subscription.due (hub.begun event serial subscription) with
  | mk outcome later =>
    cases outcome with
    | error failure => rfl
    | ok done => cases subscription.handler.failure <;> rfl

theorem Subscription.mem_of_mem_due {action : Action π} (h : action ∈ subscription.due) :
    action ∈ subscription.handler.actions := by
  unfold due at h
  split at h
  · exact h
  · cases h

/-- A call of a handler: it begins with the delivery, and then what the handler does happens. -/
theorem exists_course_call (event : Event π) (waiting served : List Nat)
    (rounds : List (Round π))
    (hactions : ∀ action ∈ subscription.handler.actions, Performs allowed inner action)
    (h : hub.InOrder) (hfound : hub.subscriptions[serial]? = some subscription)
    (hactive : subscription.active = true) :
    ∃ history, (∀ happening ∈ history, allowed happening) ∧
      Course ⟨hub, ⟨event, serial :: waiting, served, none⟩ :: rounds⟩
        (.called serial event :: history)
        ⟨(call inner event serial subscription hub).2,
          ⟨event, waiting, served, some serial⟩ :: rounds⟩ := by
  have hcalled : Happens ⟨hub, ⟨event, serial :: waiting, served, none⟩ :: rounds⟩
      (.called serial event)
      ⟨hub.begun event serial subscription, ⟨event, waiting, served, some serial⟩ :: rounds⟩ :=
    .called hfound hactive
  have hacting : Acting (⟨event, waiting, served, some serial⟩ :: rounds) := by simp [Acting]
  obtain ⟨history, hhistory, hcourse⟩ := exists_course_performAll
    (fun action hdue => hactions action (Subscription.mem_of_mem_due hdue)) (hcalled.inOrder h)
    hacting
  refine ⟨history, hhistory, ?_⟩
  rw [call_snd]
  exact .cons hcalled hcourse

/-! ## Deliveries -/

/-- Somewhere a call of the handler, with the terms that it has on this hub, ends like this. -/
def Ends (hub : Hub π) (inner : Event π → OnHub π Unit) (event : Event π) (serial : Nat)
    (outcome : Except Failure Unit) : Prop :=
  ∃ (subscription : Subscription π) (moment later : Hub π),
    hub.terms? serial = some subscription.terms ∧
      call inner event serial subscription moment = (outcome, later)

/-- What the turns of these subscriptions consist of, besides what handlers do. -/
def Happening.IsTurn (hub : Hub π) (inner : Event π → OnHub π Unit) (event : Event π)
    (serials : List Nat) : Happening π → Prop
  | .skipped serial => serial ∈ serials
  | .called serial delivered => serial ∈ serials ∧ delivered = event
  | .completed serial => serial ∈ serials ∧ hub.Ends inner event serial (.ok ())
  | .failed serial delivered failure =>
    serial ∈ serials ∧ delivered = event ∧ hub.Ends inner event serial (.error failure)
  | _ => False

theorem Happening.IsTurn.of_rest {between : Hub π} {rest : List Nat} {happening : Happening π}
    (h : happening.IsTurn between inner event rest)
    (hterms : ∀ other ∈ rest, between.terms? other = hub.terms? other) :
    happening.IsTurn hub inner event (serial :: rest) := by
  -- how a handler ends is told by its terms, and both hubs have the same terms for it
  have hends : ∀ other ∈ rest, ∀ outcome, between.Ends inner event other outcome →
      hub.Ends inner event other outcome := by
    rintro other hother outcome ⟨subscription, moment, later, hfound, hcall⟩
    exact ⟨subscription, moment, later, hterms other hother ▸ hfound, hcall⟩
  cases happening with
  | skipped other => exact List.mem_cons_of_mem _ h
  | called other delivered => exact ⟨List.mem_cons_of_mem _ h.1, h.2⟩
  | completed other => exact ⟨List.mem_cons_of_mem _ h.1, hends other h.1 _ h.2⟩
  | failed other delivered failure =>
      exact ⟨List.mem_cons_of_mem _ h.1, h.2.1, hends other h.1 _ h.2.2⟩
  | _ => exact h.elim

/-- An attempt to call a handler fails only with an interruption. -/
theorem attempt_cases (inner : Event π → OnHub π Unit) (event : Event π) (serial : Nat)
    (subscription : Subscription π) (hub : Hub π) :
    (∃ later, call inner event serial subscription hub = (.ok (), later) ∧
      attempt inner event serial subscription hub = (.ok true, later)) ∨
    (∃ failure later, failure.isInterruption = false ∧
      call inner event serial subscription hub = (.error failure, later) ∧
      attempt inner event serial subscription hub =
        (.ok false, later.withFailure event failure)) ∨
    ∃ failure later, failure.isInterruption = true ∧
      call inner event serial subscription hub = (.error failure, later) ∧
      attempt inner event serial subscription hub = (.error failure, later) := by
  unfold attempt
  rw [tryCatch_apply, bind_apply]
  cases hcall : call inner event serial subscription hub with
  | mk outcome later =>
    cases outcome with
    | ok done => exact .inl ⟨later, rfl, rfl⟩
    | error failure =>
        cases hfailure : failure.isInterruption with
        | false =>
            refine .inr (.inl ⟨failure, later, hfailure, rfl, ?_⟩)
            simp only [hfailure]
            rfl
        | true =>
            refine .inr (.inr ⟨failure, later, hfailure, rfl, ?_⟩)
            simp only [hfailure]
            rfl

theorem deliver_of_not_active (h : hub.isActive serial = false) (rest : List Nat) :
    deliver inner event (serial :: rest) hub = deliver inner event rest hub := by
  simp only [deliver]
  rw [bind_apply, get_apply]
  dsimp only
  cases hfound : hub.subscriptions[serial]? with
  | none => rfl
  | some subscription =>
      have hactive : subscription.active = false := by simpa [isActive, hfound] using h
      simp only [hactive]
      rfl

theorem deliver_of_active (hfound : hub.subscriptions[serial]? = some subscription)
    (hactive : subscription.active = true) (rest : List Nat) :
    deliver inner event (serial :: rest) hub =
      (attempt inner event serial subscription >>= fun ended =>
        deliver inner event rest >>= fun others =>
          pure (if ended && subscription.once then serial :: others else others)) hub := by
  simp only [deliver]
  rw [bind_apply, get_apply]
  simp only [hfound, hactive, if_true]

/-- What a delivery comes to, from a situation in which these are served already: it takes turn
after turn until nobody waits, or it is ended by an interruption that somebody is to blame for. -/
inductive Delivered (allowed : Happening π → Prop) (event : Event π) (rounds : List (Round π))
    (blamed : Failure → Prop) (start : Situation π) (served : List Nat) :
    Except Failure (List Nat) × Hub π → Prop
  | through {more later history} (hhistory : ∀ happening ∈ history, allowed happening)
      (hcourse : Course start history ⟨later, ⟨event, [], served ++ more, none⟩ :: rounds⟩) :
      Delivered allowed event rounds blamed start served (.ok more, later)
  | broken {failure later history} (hhistory : ∀ happening ∈ history, allowed happening)
      (hblamed : blamed failure)
      (hcourse : Course start (history ++ [.interrupted event]) ⟨later, rounds⟩) :
      Delivered allowed event rounds blamed start served (.error failure, later)

/-- A delivery that goes on behind some happenings. -/
theorem Delivered.behind {blamed blamed' : Failure → Prop} {start between : Situation π}
    {served' : List Nat} {first : List (Happening π)}
    {outcome : Except Failure (List Nat) × Hub π}
    (h : Delivered allowed event rounds blamed between served' outcome)
    (hblamed : ∀ failure, blamed failure → blamed' failure)
    (hfirst : ∀ happening ∈ first, allowed happening) (hcourse : Course start first between)
    {f : List Nat → List Nat} (hf : ∀ more, served ++ f more = served' ++ more) :
    Delivered allowed event rounds blamed' start served (outcome.1.map f, outcome.2) := by
  have hmem : ∀ {history : List (Happening π)}, (∀ happening ∈ history, allowed happening) →
      ∀ happening ∈ first ++ history, allowed happening := by
    intro history hhistory happening hin
    exact (List.mem_append.mp hin).elim (hfirst happening) (hhistory happening)
  cases h with
  | through hhistory hrest =>
      refine .through (hmem hhistory) ?_
      rw [hf]
      exact hcourse.trans hrest
  | broken hhistory hblame hrest =>
      refine .broken (hmem hhistory) (hblamed _ hblame) ?_
      rw [List.append_assoc]
      exact hcourse.trans hrest

/-- The handler of one of these subscriptions is interrupted in this way. -/
def Blamed (hub : Hub π) (inner : Event π → OnHub π Unit) (event : Event π)
    (serials : List Nat) (failure : Failure) : Prop :=
  failure.isInterruption = true ∧ ∃ serial ∈ serials, hub.Ends inner event serial (.error failure)

/-- What a turn comes to, in a delivery that has served these already: it passes, and the delivery
goes on to those who wait, or it is ended by an interruption that somebody is to blame for. -/
inductive Turned (allowed : Happening π → Prop) (inner : Event π → OnHub π Unit)
    (event : Event π) (rounds : List (Round π)) (blamed : Failure → Prop) (start : Situation π)
    (served waiting : List Nat) : Except Failure (List Nat) × Hub π → Prop
  | passed {between served' first f} (hfirst : ∀ happening ∈ first, allowed happening)
      (hcourse : Course start first ⟨between, ⟨event, waiting, served', none⟩ :: rounds⟩)
      (hf : ∀ more, served ++ f more = served' ++ more) :
      Turned allowed inner event rounds blamed start served waiting
        ((deliver inner event waiting between).1.map f, (deliver inner event waiting between).2)
  | broken {failure later history} (hhistory : ∀ happening ∈ history, allowed happening)
      (hblamed : blamed failure)
      (hcourse : Course start (history ++ [.interrupted event]) ⟨later, rounds⟩) :
      Turned allowed inner event rounds blamed start served waiting (.error failure, later)

/-- The turn of a subscription that is not active passes at once. -/
theorem turned_of_not_active {waiting : List Nat} (blamed : Failure → Prop)
    (hskipped : allowed (.skipped serial)) (hactive : hub.isActive serial = false) :
    Turned allowed inner event rounds blamed
      ⟨hub, ⟨event, serial :: waiting, served, none⟩ :: rounds⟩ served waiting
      (deliver inner event (serial :: waiting) hub) := by
  have hcourse : Course ⟨hub, ⟨event, serial :: waiting, served, none⟩ :: rounds⟩
      [.skipped serial] ⟨hub, ⟨event, waiting, served, none⟩ :: rounds⟩ :=
    (Happens.skipped hactive).course
  have hpassed : Turned allowed inner event rounds blamed
      ⟨hub, ⟨event, serial :: waiting, served, none⟩ :: rounds⟩ served waiting
      ((deliver inner event waiting hub).1.map id, (deliver inner event waiting hub).2) :=
    .passed (by simpa using hskipped) hcourse fun _ => rfl
  rw [deliver_of_not_active hactive]
  rwa [Except.map_id] at hpassed

/-- The handler of a subscription that is active is called, and completes, fails or is
interrupted. -/
theorem turned_of_active {waiting : List Nat}
    (hturns : ∀ happening : Happening π, happening.IsTurn hub inner event (serial :: waiting) →
      allowed happening)
    (h : hub.InOrder) (hfound : hub.subscriptions[serial]? = some subscription)
    (hactive : subscription.active = true)
    (hactions : ∀ action ∈ subscription.handler.actions, Performs allowed inner action) :
    Turned allowed inner event rounds (hub.Blamed inner event (serial :: waiting))
      ⟨hub, ⟨event, serial :: waiting, served, none⟩ :: rounds⟩ served waiting
      (deliver inner event (serial :: waiting) hub) := by
  have hserial : serial ∈ serial :: waiting := List.mem_cons_self
  have hterms := terms?_eq_of_getElem? hfound
  obtain ⟨history, hhistory, hcall⟩ :=
    exists_course_call event waiting served rounds hactions h hfound hactive
  have hends : ∀ {outcome later}, call inner event serial subscription hub = (outcome, later) →
      hub.Ends inner event serial outcome :=
    fun houtcome => ⟨subscription, hub, _, hterms, houtcome⟩
  have hbefore : ∀ happening ∈ .called serial event :: history, allowed happening := by
    intro happening hmem
    rcases List.mem_cons.mp hmem with rfl | hin
    · exact hturns _ ⟨hserial, rfl⟩
    · exact hhistory happening hin
  have hallowed : ∀ last : Happening π, last.IsTurn hub inner event (serial :: waiting) →
      ∀ happening ∈ .called serial event :: history ++ [last], allowed happening := by
    intro last hlast happening hmem
    rcases List.mem_append.mp hmem with hin | hend
    · exact hbefore happening hin
    · rw [List.mem_singleton.mp hend]
      exact hturns last hlast
  rw [deliver_of_active hfound hactive, bind_apply]
  -- the call completes, fails or is interrupted, and in this order it goes on
  rcases attempt_cases inner event serial subscription hub with
    ⟨later, houtcome, hattempt⟩ | ⟨failure, later, hfailure, houtcome, hattempt⟩ |
      ⟨failure, later, hfailure, houtcome, hattempt⟩
  · rw [houtcome] at hcall
    rw [hattempt]
    dsimp only
    rw [bind_pure_apply]
    -- the handler may have changed the hub, but not whether its own subscription is for a single
    -- delivery
    have honce : later.isOnce serial = subscription.once := by
      rw [isOnce, hcall.terms?_eq (lt_length_of_terms?_eq_some hterms), hterms]
      rfl
    refine .passed (hallowed (.completed serial) ⟨hserial, hends houtcome⟩)
      (hcall.snoc .completed) fun more => ?_
    rw [honce]
    cases subscription.once <;> simp
  · rw [houtcome] at hcall
    rw [hattempt]
    dsimp only
    rw [bind_pure_apply]
    exact .passed (hallowed (.failed serial event failure) ⟨hserial, rfl, hends houtcome⟩)
      (hcall.snoc (.failed hfailure)) fun more => by simp
  · rw [houtcome] at hcall
    rw [hattempt]
    exact .broken hbefore ⟨hfailure, serial, hserial, hends houtcome⟩ (hcall.snoc .interrupted)

/-- A delivery takes turn after turn, and comes to its end unless a handler is interrupted. -/
theorem delivered_deliver {serials : List Nat}
    (hturns : ∀ happening : Happening π, happening.IsTurn hub inner event serials →
      allowed happening)
    (h : hub.InOrder) (hserials : ∀ serial ∈ serials, serial < hub.subscriptions.length)
    (hactions : ∀ serial ∈ serials, ∀ terms, hub.terms? serial = some terms →
      ∀ action ∈ terms.actions, Performs allowed inner action) :
    Delivered allowed event rounds (hub.Blamed inner event serials)
      ⟨hub, ⟨event, serials, served, none⟩ :: rounds⟩ served (deliver inner event serials hub) := by
  induction serials generalizing hub served with
  | nil =>
      have hcourse : Course ⟨hub, ⟨event, [], served, none⟩ :: rounds⟩ []
          ⟨hub, ⟨event, [], served ++ [], none⟩ :: rounds⟩ := by
        rw [List.append_nil]
        exact .nil
      exact .through (by simp) hcourse
  | cons serial rest ih =>
      have hserial : serial ∈ serial :: rest := List.mem_cons_self
      have hturned : Turned allowed inner event rounds (hub.Blamed inner event (serial :: rest))
          ⟨hub, ⟨event, serial :: rest, served, none⟩ :: rounds⟩ served rest
          (deliver inner event (serial :: rest) hub) := by
        cases hactive : hub.isActive serial with
        | false => exact turned_of_not_active _ (hturns _ hserial) hactive
        | true =>
            obtain ⟨subscription, hfound, hsubscription⟩ := exists_of_isActive hactive
            exact turned_of_active hturns h hfound hsubscription
              (hactions serial hserial _ (terms?_eq_of_getElem? hfound))
      -- from here on it only matters what the turn comes to
      generalize deliver inner event (serial :: rest) hub = outcome at hturned ⊢
      cases hturned with
      | broken hhistory hblamed hcourse => exact .broken hhistory hblamed hcourse
      | @passed between served' first f hfirst hcourse hf =>
          have hrest : ∀ other ∈ rest, other < hub.subscriptions.length :=
            fun other hother => hserials other (List.mem_cons_of_mem _ hother)
          -- whatever the handler did, those who wait have the terms that they had
          have hterms : ∀ other ∈ rest, between.terms? other = hub.terms? other :=
            fun other hother => hcourse.terms?_eq (hrest other hother)
          have hdelivered := @ih between served'
            (fun happening hturn => hturns happening (hturn.of_rest hterms)) (hcourse.inOrder h)
            (fun other hother => Nat.lt_of_lt_of_le (hrest other hother) hcourse.length_le)
            (fun other hother terms hfound => hactions other (List.mem_cons_of_mem _ hother) terms
              (hterms other hother ▸ hfound))
          refine hdelivered.behind ?_ hfirst hcourse hf
          -- who is to blame after the turn was to blame before it
          rintro failure ⟨hfailure, other, hother, subscription, moment, later, hfound, hcall⟩
          exact ⟨hfailure, other, List.mem_cons_of_mem _ hother, subscription, moment, later,
            hterms other hother ▸ hfound, hcall⟩

/-! ## Publishing -/

/-- What a publish comes to: it begins, these happenings follow, and it is finished, or ended by an
interruption that somebody is to blame for. -/
inductive Published (allowed : Happening π → Prop) (event : Event π) (rounds : List (Round π))
    (blamed : Failure → Prop) (start : Situation π) : Except Failure Unit × Hub π → Prop
  | finished {served later history} (hhistory : ∀ happening ∈ history, allowed happening)
      (hcourse : Course start (.began event :: history ++ [.finished event served])
        ⟨later, rounds⟩) :
      Published allowed event rounds blamed start (.ok (), later)
  | interrupted {failure later history} (hhistory : ∀ happening ∈ history, allowed happening)
      (hblamed : blamed failure)
      (hcourse : Course start (.began event :: history ++ [.interrupted event])
        ⟨later, rounds⟩) :
      Published allowed event rounds blamed start (.error failure, later)

theorem published_publishOver
    (hturns : ∀ happening : Happening π,
      happening.IsTurn hub inner event (hub.subscribers event.name) → allowed happening)
    (h : hub.InOrder) (hacting : Acting rounds)
    (hactions : ∀ serial ∈ hub.subscribers event.name, ∀ terms, hub.terms? serial = some terms →
      ∀ action ∈ terms.actions, Performs allowed inner action) :
    Published allowed event rounds (hub.Blamed inner event (hub.subscribers event.name))
      ⟨hub, rounds⟩ (publishOver inner event hub) := by
  have hbegan : Happens ⟨hub, rounds⟩ (.began event)
      ⟨hub, ⟨event, hub.subscribers event.name, [], none⟩ :: rounds⟩ := .began hacting event
  have hdelivered : Delivered allowed event rounds _ _ [] _ :=
    delivered_deliver hturns h (fun serial hserial => h.lt_length_of_mem hserial) hactions
  unfold publishOver
  rw [bind_apply, get_apply]
  dsimp only
  rw [bind_apply]
  cases houtcome : deliver inner event (hub.subscribers event.name) hub with
  | mk outcome later =>
    rw [houtcome] at hdelivered
    cases hdelivered with
    | @through more _ history hhistory hcourse =>
        have hfinished : Course ⟨hub, rounds⟩ (.began event :: (history ++ [.finished event more]))
            ⟨more.foldl withdraw later, rounds⟩ := .cons hbegan (hcourse.snoc .finished)
        exact .finished hhistory hfinished
    | broken hhistory hblamed hcourse =>
        exact .interrupted hhistory hblamed (.cons hbegan hcourse)

end Calls

/-- A publish is a course that begins with it, however it ends. -/
theorem Published.exists_course {allowed : Happening π → Prop} {event : Event π}
    {blamed : Failure → Prop} {start : Situation π} {outcome : Except Failure Unit × Hub π}
    (h : Published allowed event rounds blamed start outcome) :
    ∃ inside, Course start (.began event :: inside) ⟨outcome.2, rounds⟩ := by
  cases h with
  | finished _ hcourse => exact ⟨_, hcourse⟩
  | interrupted _ _ hcourse => exact ⟨_, hcourse⟩

/-- Handlers may do whatever can be done with a hub. -/
theorem performs_publishAt (levels : Nat) (action : Action π) :
    Performs (fun _ => True) (publishAt levels) action := by
  induction levels generalizing action with
  | zero =>
      intro hub rounds h hacting
      -- with no level left a publish is nothing at all
      by_cases hpublish : ∃ name payload, action = .publish name payload
      · obtain ⟨name, payload, rfl⟩ := hpublish
        rw [perform_publish_snd]
        exact ⟨[], by simp, .nil⟩
      · obtain ⟨history, -, hcourse⟩ := exists_course_of_not_publish (publishAt 0) h hacting action
          fun name payload heq => hpublish ⟨name, payload, heq⟩
        exact ⟨history, by simp, hcourse⟩
  | succ levels ih =>
      intro hub rounds h hacting
      -- one level up, the handlers publish by the level below
      have hinner : ∀ event, ∃ inside, Course ⟨hub, rounds⟩ (.began event :: inside)
          ⟨(publishAt (levels + 1) event hub).2, rounds⟩ := by
        intro event
        rw [publishAt]
        exact (published_publishOver (fun _ _ => trivial) h hacting
          fun _ _ _ _ other _ => ih other).exists_course
      obtain ⟨history, -, hcourse⟩ := exists_course_perform h hacting action hinner
      exact ⟨history, by simp, hcourse⟩

theorem publish_apply (event : Event π) (hub : Hub π) :
    publish event hub = publishOver (publishAt hub.potential) event hub := by
  unfold publish
  rw [bind_apply, get_apply]
  simp only [publishAt]

/-! ## Chronicles -/

/-- What is done with a hub from outside is a course that begins as the action has to begin. -/
theorem exists_course_act (h : hub.InOrder) (action : Action π) :
    ∃ history, action.LeadsTo hub history ∧
      Course ⟨hub, []⟩ history ⟨(act action hub).2, []⟩ := by
  apply exists_course_perform h acting_nil
  intro event
  rw [publish_apply]
  exact (published_publishOver (fun _ _ => trivial) h acting_nil
    fun _ _ _ _ other _ => performs_publishAt hub.potential other).exists_course

/-- The hub after these actions, one after the other.  Those that fail leave it as it is then. -/
def actAll (hub : Hub π) (actions : List (Action π)) : Hub π :=
  actions.foldl (fun hub action => (act action hub).2) hub

/-- The happenings that actions lead to, one after the other. -/
inductive Chronicle : Hub π → List (Action π) → List (Happening π) → Prop
  | nil {hub : Hub π} : Chronicle hub [] []
  | cons {hub : Hub π} {action rest first later} (hleads : action.LeadsTo hub first)
      (hcourse : Course ⟨hub, []⟩ first ⟨(act action hub).2, []⟩)
      (hrest : Chronicle (act action hub).2 rest later) :
      Chronicle hub (action :: rest) (first ++ later)

theorem Chronicle.course {actions : List (Action π)} {history : List (Happening π)}
    (h : Chronicle hub actions history) : Course ⟨hub, []⟩ history ⟨hub.actAll actions, []⟩ := by
  induction h with
  | nil => exact .nil
  | cons _ hcourse _ ih => exact hcourse.trans ih

/-- Whatever is done with a hub has a chronicle. -/
theorem exists_chronicle (h : hub.InOrder) (actions : List (Action π)) :
    ∃ history, Chronicle hub actions history := by
  induction actions generalizing hub with
  | nil => exact ⟨[], .nil⟩
  | cons action rest ih =>
      obtain ⟨first, hleads, hcourse⟩ := exists_course_act h action
      obtain ⟨later, hrest⟩ := ih (hcourse.inOrder h)
      exact ⟨first ++ later, .cons hleads hcourse hrest⟩

end Collate.Hub
