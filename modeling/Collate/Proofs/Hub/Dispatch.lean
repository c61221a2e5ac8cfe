import Collate.Proofs.Hub.Depth
import Collate.Proofs.Hub.Interruption
import Collate.Proofs.Hub.Standing

/-!
# What a publish does

A publish that no other one is nested in gives each subscriber of its event one turn, in the order
of the subscriptions.  Who is still active when the turn comes is called, with the event of the
publish, and completes or fails before the next turn; a failure is kept and prevents nothing.
Who subscribes meanwhile has no turn.  In the end those are withdrawn that are for a single
delivery and have completed (`Hub.Dispatch`).

Handlers that neither publish nor clear, and are not interrupted, lead to such a publish, and it
does not fail (`Hub.publish_of_modest`).

## Strategy

`Underway` says how far a publish has come.  It holds when the publish begins and is kept by
everything that can happen inside.
-/

namespace Collate.Hub

variable {π : Type}

/-- Happenings of a publish that is under way, without those of other publishes and without a
clearing. -/
def Happening.IsInside : Happening π → Prop
  | .cleared | .began _ | .finished _ _ | .interrupted _ => False
  | _ => True

/-- The subscription whose turn it is. -/
def Happening.turn? : Happening π → Option Nat
  | .skipped serial => some serial
  | .called serial _ => some serial
  | _ => none

/-- The subscription whose handler is called. -/
def Happening.call? : Happening π → Option Nat
  | .called serial _ => some serial
  | _ => none

/-- The subscription whose handler ends, by completing or by failing. -/
def Happening.ended? : Happening π → Option Nat
  | .completed serial => some serial
  | .failed serial _ _ => some serial
  | _ => none

/-- The subscription whose handler comes to its end. -/
def Happening.completion? : Happening π → Option Nat
  | .completed serial => some serial
  | _ => none

/-- The subscription was active on the hub, and nothing has silenced it since. -/
def stillActive (hub : Hub π) (history : List (Happening π)) (serial : Nat) : Bool :=
  hub.isActive serial && !history.any (Happening.silences serial)

/-- The contract of a publish: what happens inside, from this hub to the later one. -/
structure Dispatch (event : Event π) (hub : Hub π) (inside : List (Happening π))
    (served : List Nat) (later : Hub π) : Prop where
  /-- Each subscriber has one turn, in the order of the subscriptions. -/
  turns_eq : inside.filterMap Happening.turn? = hub.subscribers event.name
  nodup_turns : (inside.filterMap Happening.turn?).Nodup
  /-- Who is called is still active, and gets the event of the publish. -/
  of_called : ∀ before serial delivered after,
    inside = before ++ .called serial delivered :: after →
      delivered = event ∧ stillActive hub before serial = true
  /-- Who is passed over is not active any more. -/
  of_skipped : ∀ before serial after, inside = before ++ .skipped serial :: after →
    stillActive hub before serial = false
  /-- Who subscribes during the publish is not called by it. -/
  not_called_of_made : ∀ name, ∀ serial ∈ inside.filterMap (Happening.made? name),
    ∀ delivered, .called serial delivered ∉ inside
  /-- Every handler that is called ends, before the next one is called. -/
  ends_eq : ∀ before serial delivered after, inside = before ++ .called serial delivered :: after →
    before.filterMap Happening.ended? = before.filterMap Happening.call?
  ends_eq_calls : inside.filterMap Happening.ended? = inside.filterMap Happening.call?
  /-- Every failure is kept, with the event of the publish. -/
  failures_eq : later.failures = hub.failures ++ inside.filterMap Happening.failure?
  of_failed : ∀ serial delivered failure, .failed serial delivered failure ∈ inside →
    delivered = event
  deliveries_eq : later.deliveries = hub.deliveries ++ inside.filterMap (Happening.delivery? later)
  /-- The publish itself withdraws those for a single delivery that have completed. -/
  served_eq : served = (inside.filterMap Happening.completion?).filter hub.isOnce
  subscribers_eq : later.subscribers event.name =
    (hub.subscribers event.name ++ inside.filterMap (Happening.made? event.name)).filter
      fun serial => !inside.any (Happening.removes serial) && !served.contains serial
  /-- Other events keep their subscribers, but for what handlers do. -/
  others_eq : ∀ name, name ≠ event.name → later.subscribers name =
    (hub.subscribers name ++ inside.filterMap (Happening.made? name)).filter fun serial =>
      !inside.any (Happening.removes serial)

/-- How far a publish has come. -/
structure Underway (event : Event π) (hub : Hub π) (inside : List (Happening π))
    (round : Round π) : Prop where
  event_eq : round.event = event
  turns_eq : inside.filterMap Happening.turn? ++ round.waiting = hub.subscribers event.name
  calls_eq : inside.filterMap Happening.call? =
    inside.filterMap Happening.ended? ++ round.running.toList
  served_eq : round.served = (inside.filterMap Happening.completion?).filter hub.isOnce

section Inside

variable {event : Event π} {hub : Hub π} {rounds : List (Round π)} {last : Situation π}
  {inside : List (Happening π)}

theorem mem_turns_of_mem_calls {serial : Nat} (h : serial ∈ inside.filterMap Happening.call?) :
    serial ∈ inside.filterMap Happening.turn? := by
  obtain ⟨happening, hmem, hcall⟩ := List.mem_filterMap.mp h
  refine List.mem_filterMap.mpr ⟨happening, hmem, ?_⟩
  cases happening with
  | called other _ => exact hcall
  | _ => cases hcall

theorem Underway.mem_of_running {round : Round π} (h : Underway event hub inside round)
    {serial : Nat} (hrunning : round.running = some serial) :
    serial ∈ hub.subscribers event.name := by
  rw [← h.turns_eq]
  refine List.mem_append_left _ (mem_turns_of_mem_calls ?_)
  rw [h.calls_eq, hrunning]
  simp

/-- One happening further. -/
theorem Underway.concat {round next : Round π} {happening : Happening π}
    (h : Underway event hub inside round) (hevent : next.event = round.event)
    (hturns : happening.turn?.toList ++ next.waiting = round.waiting)
    (hcalls : round.running.toList ++ happening.call?.toList =
      happening.ended?.toList ++ next.running.toList)
    (hserved : next.served = round.served ++ happening.completion?.toList.filter hub.isOnce) :
    Underway event hub (inside ++ [happening]) next := by
  constructor
  · rw [hevent, h.event_eq]
  · rw [filterMap_concat, List.append_assoc, hturns, h.turns_eq]
  · rw [filterMap_concat, filterMap_concat, h.calls_eq, List.append_assoc, List.append_assoc,
      hcalls]
  · rw [filterMap_concat, List.filter_append, hserved, h.served_eq]

theorem Course.underway
    (h : Course ⟨hub, ⟨event, hub.subscribers event.name, [], none⟩ :: rounds⟩ inside last)
    (hhub : hub.InOrder) (hinside : ∀ happening ∈ inside, happening.IsInside) :
    ∃ round, last.rounds = round :: rounds ∧ Underway event hub inside round := by
  induction h with
  | nil => exact ⟨_, rfl, ⟨rfl, by simp, by simp, by simp⟩⟩
  | @snoc inside happening between last hbefore hstep ih =>
      obtain ⟨round, hrounds, hround⟩ := ih fun other hother => hinside other (by simp [hother])
      have hlast := hinside happening (by simp)
      cases hstep with
      | subscribed _ _ _ _ _ | withdrawn _ _ | cancelled _ _ =>
          exact ⟨round, hrounds, hround.concat rfl rfl (List.append_nil _) (List.append_nil _).symm⟩
      | cleared _ | began _ _ | finished | interrupted => exact hlast.elim
      | skipped _ | called _ _ | failed _ =>
          obtain ⟨rfl, rfl⟩ := List.cons.inj hrounds
          exact ⟨_, rfl, hround.concat rfl rfl rfl (List.append_nil _).symm⟩
      | @completed later _ _ serial waiting served =>
          obtain ⟨rfl, rfl⟩ := List.cons.inj hrounds
          have hserial := hhub.lt_length_of_mem (hround.mem_of_running rfl)
          -- nothing that happened since the publish began has changed the terms
          have honce : later.isOnce serial = hub.isOnce serial := by
            rw [isOnce, hbefore.terms?_eq hserial]
            rfl
          refine ⟨_, rfl, hround.concat rfl rfl rfl ?_⟩
          rw [honce]
          cases hcase : hub.isOnce serial <;> simp [Happening.completion?, hcase]

theorem mem_turns_of_mem_completions {round : Round π} (h : Underway event hub inside round)
    (hrunning : round.running = none) {serial : Nat}
    (hserial : serial ∈ inside.filterMap Happening.completion?) :
    serial ∈ hub.subscribers event.name := by
  have hended : serial ∈ inside.filterMap Happening.ended? := by
    obtain ⟨happening, hmem, hcompletion⟩ := List.mem_filterMap.mp hserial
    refine List.mem_filterMap.mpr ⟨happening, hmem, ?_⟩
    cases happening with
    | completed other => exact hcompletion
    | _ => cases hcompletion
  -- no handler is running, so whoever has ended was called
  have hcalls := h.calls_eq
  rw [hrunning, Option.toList_none, List.append_nil] at hcalls
  rw [← hcalls] at hended
  rw [← h.turns_eq]
  exact List.mem_append_left _ (mem_turns_of_mem_calls hended)

/-! ### One happening inside -/

section Within

variable {before after : List (Happening π)} {happening : Happening π} {serial : Nat}

/-- The moment at which something happens inside a publish. -/
theorem Course.exists_underway
    (h : Course ⟨hub, ⟨event, hub.subscribers event.name, [], none⟩ :: rounds⟩
      (before ++ happening :: after) last)
    (hhub : hub.InOrder) (hinside : ∀ other ∈ before ++ happening :: after, other.IsInside) :
    ∃ situation next round,
      Course ⟨hub, ⟨event, hub.subscribers event.name, [], none⟩ :: rounds⟩ before situation ∧
      Happens situation happening next ∧ situation.rounds = round :: rounds ∧
      Underway event hub before round := by
  obtain ⟨situation, next, hbefore, hstep, -⟩ := h.exists_around
  obtain ⟨round, hrounds, hround⟩ := hbefore.underway hhub fun other hother =>
    hinside other (List.mem_append_left _ hother)
  exact ⟨situation, next, round, hbefore, hstep, hrounds, hround⟩

/-- Whose turn it is was a subscriber when the publish began. -/
theorem Course.isActive_eq_stillActive {situation : Situation π} {round : Round π}
    (h : Course ⟨hub, ⟨event, hub.subscribers event.name, [], none⟩ :: rounds⟩ before situation)
    (hhub : hub.InOrder) (hround : Underway event hub before round)
    (hserial : serial ∈ round.waiting) :
    situation.hub.isActive serial = stillActive hub before serial := by
  have hmem : serial ∈ hub.subscribers event.name := by
    rw [← hround.turns_eq]
    exact List.mem_append_right _ hserial
  exact h.isActive_eq (hhub.lt_length_of_mem hmem)

theorem Course.of_called {delivered : Event π}
    (h : Course ⟨hub, ⟨event, hub.subscribers event.name, [], none⟩ :: rounds⟩
      (before ++ .called serial delivered :: after) last)
    (hhub : hub.InOrder)
    (hinside : ∀ other ∈ before ++ .called serial delivered :: after, other.IsInside) :
    delivered = event ∧ stillActive hub before serial = true ∧
      before.filterMap Happening.ended? = before.filterMap Happening.call? := by
  obtain ⟨situation, next, round, hbefore, hstep, hrounds, hround⟩ := h.exists_underway hhub hinside
  cases hstep with
  | called hfound hactive =>
      obtain ⟨rfl, rfl⟩ := List.cons.inj hrounds
      refine ⟨hround.event_eq, ?_, ?_⟩
      · rw [← hbefore.isActive_eq_stillActive hhub hround (by simp)]
        simp [isActive, hfound, hactive]
      · simpa using hround.calls_eq.symm

theorem Course.of_skipped
    (h : Course ⟨hub, ⟨event, hub.subscribers event.name, [], none⟩ :: rounds⟩
      (before ++ .skipped serial :: after) last)
    (hhub : hub.InOrder) (hinside : ∀ other ∈ before ++ .skipped serial :: after, other.IsInside) :
    stillActive hub before serial = false := by
  obtain ⟨situation, next, round, hbefore, hstep, hrounds, hround⟩ := h.exists_underway hhub hinside
  cases hstep with
  | skipped hactive =>
      obtain ⟨rfl, rfl⟩ := List.cons.inj hrounds
      rw [← hbefore.isActive_eq_stillActive hhub hround (by simp)]
      exact hactive

theorem Course.of_failed {delivered : Event π} {failure : Failure}
    (h : Course ⟨hub, ⟨event, hub.subscribers event.name, [], none⟩ :: rounds⟩
      (before ++ .failed serial delivered failure :: after) last)
    (hhub : hub.InOrder)
    (hinside : ∀ other ∈ before ++ .failed serial delivered failure :: after, other.IsInside) :
    delivered = event := by
  obtain ⟨situation, next, round, hbefore, hstep, hrounds, hround⟩ := h.exists_underway hhub hinside
  cases hstep with
  | failed _ =>
      obtain ⟨rfl, rfl⟩ := List.cons.inj hrounds
      exact hround.event_eq

end Within

/-! ### The whole publish -/

theorem Happening.IsModest.isInside {happening : Happening π} (h : happening.IsModest) :
    happening.IsInside := by
  cases happening <;> trivial

theorem Happening.IsTurn.isInside {inner : Event π → OnHub π Unit} {serials : List Nat}
    {happening : Happening π} (h : happening.IsTurn hub inner event serials) :
    happening.IsInside := by
  cases happening <;> trivial

theorem Happening.IsInside.clears_eq {happening : Happening π} (h : happening.IsInside) :
    happening.clears = false := by
  cases happening with
  | cleared => exact h.elim
  | _ => rfl

/-- A publish that no other one is nested in keeps the contract. -/
theorem Course.dispatch {served : List Nat} {later : Hub π}
    (h : Course ⟨hub, rounds⟩ (.began event :: inside ++ [.finished event served])
      ⟨later, rounds⟩)
    (hstart : Situation.InOrder ⟨hub, rounds⟩)
    (hinside : ∀ happening ∈ inside, happening.IsInside) :
    Dispatch event hub inside served later := by
  obtain ⟨first, hbegan, hrest⟩ := h.exists_of_cons
  have hhub : hub.InOrder := hstart.hub
  have hfirst := hbegan.inOrder_situation hstart
  cases hbegan with | began hacting _ =>
  obtain ⟨between, hcourse, hfinished⟩ := hrest.exists_between
  obtain ⟨round, hrounds, hround⟩ := hcourse.underway hhub hinside
  have hfinish := hfinished.happens
  cases hfinish with | @finished last _ _ _ =>
  obtain ⟨rfl, -⟩ := List.cons.inj hrounds
  have hlast : last.InOrder := hcourse.inOrder hhub
  have hclears : ∀ happening ∈ inside, happening.clears = false :=
    fun happening hmem => (hinside happening hmem).clears_eq
  have hturns : inside.filterMap Happening.turn? = hub.subscribers event.name := by
    simpa using hround.turns_eq
  -- without a clearing, lists only grow by who subscribes and shrink by who is removed
  have hsubscribers : ∀ name, last.subscribers name =
      (hub.subscribers name ++ inside.filterMap (Happening.made? name)).filter fun serial =>
        !inside.any (Happening.removes serial) := by
    intro name
    rw [hcourse.subscribers_eq hfirst, left_of_forall _ _ hclears]
  constructor
  case turns_eq => exact hturns
  case nodup_turns => exact hturns ▸ hhub.nodup_subscribers event.name
  case of_called =>
    rintro before serial delivered after rfl
    obtain ⟨hevent, hactive, -⟩ := hcourse.of_called hhub hinside
    exact ⟨hevent, hactive⟩
  case of_skipped =>
    rintro before serial after rfl
    exact hcourse.of_skipped hhub hinside
  case not_called_of_made =>
    intro name serial hmade delivered hcalled
    have hmem : serial ∈ hub.subscribers event.name := by
      rw [← hturns]
      exact List.mem_filterMap.mpr ⟨_, hcalled, rfl⟩
    have hlt := hhub.lt_length_of_mem hmem
    have hle := (hcourse.length_le_of_made hmade).1
    exact absurd hlt (Nat.not_lt.mpr hle)
  case ends_eq =>
    rintro before serial delivered after rfl
    exact (hcourse.of_called hhub hinside).2.2
  case ends_eq_calls => simpa using hround.calls_eq.symm
  case failures_eq =>
    rw [failures_foldl_withdraw, hcourse.failures_eq, left_of_forall _ _ hclears]
  case of_failed =>
    intro serial delivered failure hmem
    obtain ⟨before, after, rfl⟩ := List.append_of_mem hmem
    exact hcourse.of_failed hhub hinside
  case deliveries_eq =>
    have hlabels : ∀ happening : Happening π,
        happening.delivery? (served.foldl withdraw last) = happening.delivery? last := by
      intro happening
      cases happening <;> simp [Happening.delivery?]
    rw [deliveries_foldl_withdraw, hcourse.deliveries_eq, funext hlabels]
  case served_eq => exact hround.served_eq
  case subscribers_eq =>
    rw [hlast.subscribers_foldl_withdraw, hsubscribers, List.filter_filter]
    refine List.filter_congr fun serial _ => ?_
    simp [Bool.and_comm]
  case others_eq =>
    intro name hname
    rw [hlast.subscribers_foldl_withdraw, ← hsubscribers, List.filter_eq_self]
    intro serial hserial
    rw [decide_eq_true_eq]
    intro hmem
    -- a subscription that is served is to the event of the publish
    rw [show served = _ from hround.served_eq] at hmem
    have hsubscriber := mem_turns_of_mem_completions hround rfl (List.mem_of_mem_filter hmem)
    have hevent := hhub.event_eq_of_mem hsubscriber
    have hother := hlast.event_eq_of_mem hserial
    rw [hcourse.terms?_eq (hhub.lt_length_of_mem hsubscriber)] at hother
    exact hname (Option.some.inj (hother.symm.trans hevent))

end Inside

/-! ## Publishes that are finished -/

/-- The handler neither publishes nor clears, and is not interrupted. -/
def Terms.IsModest (terms : Terms π) : Prop :=
  (∀ action ∈ terms.actions, action.IsModest) ∧
    ∀ failure ∈ terms.failure, failure.isInterruption = false

section Modest

variable {inner : Event π → OnHub π Unit}

/-- A call of a modest handler is not interrupted, on whatever hub. -/
theorem uninterrupted_call {subscription : Subscription π} (h : subscription.terms.IsModest)
    (event : Event π) (serial : Nat) (hub : Hub π) :
    Uninterrupted (fun _ => True) (call inner event serial subscription hub).1 := by
  refine (spares_call lasting_true trivial event serial (fun action haction hub _ => ?_) h.2).2
  refine spares_perform lasting_true trivial (fun _ _ _ _ _ => trivial) ?_
  rintro name payload rfl
  exact (h.1 _ haction).elim

/-- What happens inside a publish to modest handlers: what handlers do, and turns that end as the
handlers do. -/
def Happening.IsWithin (hub : Hub π) (event : Event π) (happening : Happening π) : Prop :=
  happening.IsModest ∨ happening.IsTurn hub publish event (hub.subscribers event.name)

theorem Happening.IsWithin.isInside {hub : Hub π} {event : Event π} {happening : Happening π}
    (h : happening.IsWithin hub event) : happening.IsInside :=
  h.elim IsModest.isInside IsTurn.isInside

/-- A publish to modest handlers is finished, and keeps the contract. -/
theorem publish_of_modest {hub : Hub π} {rounds : List (Round π)} {event : Event π}
    (hstart : Situation.InOrder ⟨hub, rounds⟩) (hacting : Acting rounds)
    (hmodest : ∀ serial ∈ hub.subscribers event.name, ∀ terms, hub.terms? serial = some terms →
      terms.IsModest) :
    ∃ inside served later, publish event hub = (.ok (), later) ∧
      (∀ happening ∈ inside, happening.IsWithin hub event) ∧
      Course ⟨hub, rounds⟩ (.began event :: inside ++ [.finished event served]) ⟨later, rounds⟩ ∧
      Dispatch event hub inside served later := by
  have hpublished : Published (Happening.IsWithin hub event) event rounds _ ⟨hub, rounds⟩
      (publishOver publish event hub) :=
    published_publishOver (fun _ hturn => .inr hturn) hstart.hub hacting
      fun serial hserial terms hterms action haction =>
        (performs_of_isModest ((hmodest serial hserial terms hterms).1 action haction)).mono
          fun _ hhappening => .inl hhappening
  rw [← publish_eq_publishOver] at hpublished
  cases houtcome : publish event hub with
  | mk outcome later =>
    rw [houtcome] at hpublished
    cases hpublished with
    | finished hwithin hcourse =>
        exact ⟨_, _, later, rfl, hwithin, hcourse,
          hcourse.dispatch hstart fun happening hmem => (hwithin happening hmem).isInside⟩
    | @interrupted failure _ _ _ hblamed _ =>
        -- no handler is to blame
        obtain ⟨hfailure, serial, hserial, subscription, moment, after, hterms, hcall⟩ := hblamed
        have hnever : Uninterrupted (fun _ => True)
            (call publish event serial subscription moment).1 :=
          uninterrupted_call (hmodest serial hserial _ hterms) event serial moment
        rw [hcall] at hnever
        rw [show failure.isInterruption = false from hnever] at hfailure
        cases hfailure

end Modest

/-! ## All publishes -/

/-- Every publish that no other one is nested in and that is finished keeps the contract, whatever
handlers do.  From every hub that can be reached, a publish to modest handlers is such a publish:
it does not fail, and its turns end as the handlers do. -/
theorem dispatch_of_publishes :
    (∀ (history : List (Happening π)) (hub : Hub π) (rounds : List (Round π)) (event : Event π)
      (inside : List (Happening π)) (served : List Nat) (later : Hub π),
      Course fresh history ⟨hub, rounds⟩ →
      Course ⟨hub, rounds⟩ (.began event :: inside ++ [.finished event served]) ⟨later, rounds⟩ →
      (∀ happening ∈ inside, happening.IsInside) → Dispatch event hub inside served later) ∧
    ∀ (history : List (Happening π)) (hub : Hub π) (rounds : List (Round π)) (event : Event π),
      Course fresh history ⟨hub, rounds⟩ → Acting rounds →
      (∀ serial ∈ hub.subscribers event.name, ∀ terms, hub.terms? serial = some terms →
        terms.IsModest) →
      ∃ inside served later, publish event hub = (.ok (), later) ∧
        (∀ happening ∈ inside, happening.IsWithin hub event) ∧
        Course ⟨hub, rounds⟩ (.began event :: inside ++ [.finished event served])
          ⟨later, rounds⟩ ∧
        Dispatch event hub inside served later := by
  constructor
  · intro history hub rounds event inside served later hreached hcourse hinside
    exact hcourse.dispatch (hreached.inOrder_situation inOrder_fresh) hinside
  · intro history hub rounds event hreached hacting hmodest
    exact publish_of_modest (hreached.inOrder_situation inOrder_fresh) hacting hmodest

/-- The first handler subscribes another one, cancels the second subscription and fails; the third
subscription is for a single delivery. -/
theorem dispatch_of_publishes_three :
    ∃ hub : Hub Unit,
      hub = actAll {}
        [.subscribe "a" "e" false
          ⟨1, [.subscribe "c" "e" false ⟨0, [], none⟩, .cancel "b"], some (.raised .value "no")⟩,
          .subscribe "b" "e" false ⟨0, [], none⟩, .subscribe "o" "e" true ⟨0, [], none⟩] ∧
      Dispatch ⟨"e", ()⟩ hub
        [.called 0 ⟨"e", ()⟩, .subscribed 3 "e" false, .cancelled 1,
          .failed 0 ⟨"e", ()⟩ (.raised .value "no"), .skipped 1, .called 2 ⟨"e", ()⟩, .completed 2]
        [2] (hub.actAll [.publish "e" ()]) ∧
      ∃ inside served later, publish ⟨"e", ()⟩ hub = (.ok (), later) ∧
        (∀ happening ∈ inside, happening.IsWithin hub ⟨"e", ()⟩) ∧
        Course ⟨hub, []⟩ (.began ⟨"e", ()⟩ :: inside ++ [.finished ⟨"e", ()⟩ served])
          ⟨later, []⟩ ∧
        Dispatch ⟨"e", ()⟩ hub inside served later := by
  refine ⟨_, rfl, ?_, ?_⟩
  · refine dispatch_of_publishes.1
      [.subscribed 0 "e" false, .subscribed 1 "e" false, .subscribed 2 "e" true] _ [] _ _ _ _
      ?_ ?_ ?_
    · exact .cons (.subscribed acting_nil _ _ _ _)
        (.cons (.subscribed acting_nil _ _ _ _) (.cons (.subscribed acting_nil _ _ _ _) .nil))
    · exact .cons (.began acting_nil ⟨"e", ()⟩)
        (.cons (.called rfl rfl)
          (.cons (.subscribed (by simp [Acting]) "c" "e" false ⟨0, [], none⟩)
            (.cons (.cancelled (by simp [Acting]) (by decide))
              (.cons (.failed rfl)
                (.cons (.skipped rfl)
                  (.cons (.called rfl rfl)
                    (.cons .completed
                      (.cons .finished .nil))))))))
    · simp [Happening.IsInside]
  · refine dispatch_of_publishes.2
      [.subscribed 0 "e" false, .subscribed 1 "e" false, .subscribed 2 "e" true] _ [] _ ?_
      acting_nil ?_
    · exact .cons (.subscribed acting_nil _ _ _ _)
        (.cons (.subscribed acting_nil _ _ _ _) (.cons (.subscribed acting_nil _ _ _ _) .nil))
    · intro serial hserial terms hterms
      have hcases : serial ∈ [0, 1, 2] := hserial
      simp only [List.mem_cons, List.not_mem_nil, or_false] at hcases
      rcases hcases with rfl | rfl | rfl
      all_goals
        obtain rfl := Option.some.inj hterms
        simp [Terms.IsModest, Subscription.terms, Action.IsModest, Failure.isInterruption,
          Failure.kind, show Failure.Kind.value.isA .ordinary = true from rfl]

/-- An interruption ends a publish: the second subscription has no turn, and nothing is kept. -/
theorem publish_of_interrupted :
    ∃ hub later : Hub Unit,
      hub = actAll {} [.subscribe "a" "e" false ⟨0, [], some (.raised .interruption "")⟩,
        .subscribe "b" "e" false ⟨0, [], none⟩] ∧
      hub.subscribers "e" = [0, 1] ∧
      publish ⟨"e", ()⟩ hub = (.error (.raised .interruption ""), later) ∧
      later.deliveries = [("a", ⟨"e", ()⟩)] ∧ later.failures = [] :=
  ⟨_, _, rfl, rfl, rfl, rfl, rfl⟩

end Collate.Hub
