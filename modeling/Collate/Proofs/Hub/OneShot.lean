import Collate.Proofs.Hub.Counting

/-!
# Subscriptions for a single delivery

A subscription for a single delivery is withdrawn when the publish that has served it comes to its
end, and not before.  Until then another publish of its event would find it active and call it a
second time (`Hub.once_completes_twice`).  If no such publish begins, and the publish that has
served it is not interrupted, its handler completes at most once (`Hub.once_of_runs`), whatever
else handlers do, and in whatever order the subscriptions were made.

## Strategy

A publish *holds* a subscription from the call of its handler on.  In a course that leaves the
subscription undisturbed, no publish begun inside one that holds it is of the same event.  So a
subscription that has completed is either still held, and then it is nobody's turn, or it was
withdrawn (`Hub.Fired`).
-/

namespace Collate.Hub

variable {π : Type}

/-- The handler of the subscription is running in this publish, or the publish has served it. -/
def Round.Holds (serial : Nat) (round : Round π) : Prop :=
  serial ∈ round.served ++ round.running.toList

/-- While a publish holds the subscription, no publish of the same event begins, and no publish that
has served it is interrupted. -/
structure Undisturbed (serial : Nat) (history : List (Happening π)) : Prop where
  not_again : ∀ before event after situation, history = before ++ .began event :: after →
    Course fresh before situation → ∀ round ∈ situation.rounds, round.Holds serial →
      round.event.name ≠ event.name
  not_interrupted : ∀ before event after situation,
    history = before ++ .interrupted event :: after → Course fresh before situation →
      ∀ round ∈ situation.rounds.head?, serial ∉ round.served

theorem Undisturbed.of_append {serial : Nat} {history later : List (Happening π)}
    (h : Undisturbed serial (history ++ later)) : Undisturbed serial history := by
  constructor
  · rintro before event after situation rfl
    exact h.not_again before event (after ++ later) situation (by simp)
  · rintro before event after situation rfl
    exact h.not_interrupted before event (after ++ later) situation (by simp)

/-- Where the handler of a subscription has completed, it is not running, and the subscription is
silenced or will be at the end of a publish.  No publish of its event has begun while it was
held. -/
structure Fired (serial : Nat) (history : List (Happening π)) (situation : Situation π) :
    Prop where
  le_one : history.countP (Happening.completes serial) ≤ 1
  not_running : history.any (Happening.completes serial) = true →
    ∀ round ∈ situation.rounds, round.running ≠ some serial
  silenced : history.any (Happening.completes serial) = true →
    situation.hub.isActive serial = true → serial ∈ situation.served
  apart : situation.rounds.Pairwise fun inner outer =>
    outer.Holds serial → inner.event.name ≠ outer.event.name

theorem fired_fresh (serial : Nat) : Fired serial [] (fresh : Situation π) := by
  constructor <;> simp [fresh]

section Step

variable {before after : Situation π} {happening : Happening π} {history : List (Happening π)}
  {serial : Nat}

/-- Inside a publish that holds a subscription it is in no other publish. -/
theorem Fired.not_mem (h : Fired serial history before) (hbefore : before.InOrder)
    (first : Round π) {rest : List (Round π)} (hrounds : before.rounds = first :: rest)
    (hfirst : serial ∈ first.served ++ (first.running.toList ++ first.waiting)) :
    ∀ round ∈ rest, ¬ round.Holds serial := by
  intro round hround hholds
  have hapart := h.apart
  rw [hrounds, List.pairwise_cons] at hapart
  have hevent := (hbefore.rounds first (by simp [hrounds])).event_eq serial hfirst
  have hother := (hbefore.rounds round (by simp [hrounds, hround])).event_eq serial
    (by rw [← List.append_assoc]; exact List.mem_append_left _ hholds)
  exact hapart.1 round hround hholds (Option.some.inj (hevent.symm.trans hother))

/-- When the handler of a subscription is called, it has not completed before. -/
theorem Fired.not_completed_of_called (h : Fired serial history before) (hbefore : before.InOrder)
    {event : Event π} (hstep : Happens before (.called serial event) after) :
    history.any (Happening.completes serial) = false := by
  cases hstep with
  | @called hub rounds _ _ waiting served subscription hfound hactive =>
      by_contra hcompleted
      rw [Bool.not_eq_false] at hcompleted
      have hserved := h.silenced hcompleted (by simp [isActive, hfound, hactive])
      simp only [Situation.served, List.flatMap_cons, List.mem_append, List.mem_flatMap] at hserved
      rcases hserved with hmem | ⟨round, hround, hmem⟩
      · have hnodup := (hbefore.rounds ⟨event, serial :: waiting, served, none⟩ (by simp)).nodup
        exact (List.nodup_append.mp hnodup).2.2 serial hmem serial (by simp) rfl
      · exact h.not_mem hbefore ⟨event, serial :: waiting, served, none⟩ rfl (by simp)
          round hround (List.mem_append_left _ hmem)

/-- A handler that is running was running before, or is called. -/
theorem Happens.running_cases (h : Happens before happening after) {round : Round π}
    (hround : round ∈ after.rounds) (hrunning : round.running = some serial) :
    (∃ other ∈ before.rounds, other.running = some serial) ∨
      ∃ event, happening = .called serial event := by
  cases h with
  | began _ _ | skipped _ | completed | failed _ =>
      rcases List.mem_cons.mp hround with rfl | hrest
      · cases hrunning
      · exact .inl ⟨round, by simp [hrest], hrunning⟩
  | called _ _ =>
      rcases List.mem_cons.mp hround with rfl | hrest
      · obtain rfl := Option.some.inj hrunning
        exact .inr ⟨_, rfl⟩
      · exact .inl ⟨round, by simp [hrest], hrunning⟩
  | finished | interrupted => exact .inl ⟨round, by simp [hround], hrunning⟩
  | _ => exact .inl ⟨round, hround, hrunning⟩

theorem Fired.apart_of_happens (h : Fired serial history before)
    (hstep : Happens before happening after)
    (hagain : ∀ event, happening = .began event → ∀ round ∈ before.rounds, round.Holds serial →
      round.event.name ≠ event.name) :
    after.rounds.Pairwise fun inner outer =>
      outer.Holds serial → inner.event.name ≠ outer.event.name := by
  have hapart := h.apart
  cases hstep with
  | began hacting event =>
      rw [List.pairwise_cons]
      refine ⟨fun round hround hholds => ?_, hapart⟩
      exact (hagain event rfl round hround hholds).symm
  | skipped _ | called _ _ | completed | failed _ =>
      rw [List.pairwise_cons] at hapart ⊢
      exact hapart
  | finished | interrupted => exact (List.pairwise_cons.mp hapart).2
  | _ => exact hapart

/-- The handler of the subscription completes. -/
theorem Fired.of_completes (h : Fired serial history before) (hbefore : before.InOrder)
    (honce : before.hub.isOnce serial = true)
    (hstep : Happens before (.completed serial) after) :
    Fired serial (history ++ [.completed serial]) after := by
  have hapart := h.apart_of_happens hstep (by simp)
  cases hstep with
  | @completed hub rounds event _ waiting served =>
      -- a handler that has completed before is not running now
      have hfirst : history.any (Happening.completes serial) = false := by
        by_contra hcompleted
        rw [Bool.not_eq_false] at hcompleted
        exact h.not_running hcompleted ⟨event, waiting, served, some serial⟩ (by simp) rfl
      -- and no other round holds the subscription
      have hothers := h.not_mem hbefore ⟨event, waiting, served, some serial⟩ rfl (by simp)
      constructor
      case le_one =>
        have hzero : history.countP (Happening.completes serial) = 0 := by
          rw [List.countP_eq_zero]
          simpa using hfirst
        simp [hzero, Happening.completes]
      case not_running =>
        rintro - round hround hrunning
        rcases List.mem_cons.mp hround with rfl | hrest
        · cases hrunning
        · exact hothers round hrest (List.mem_append_right _ (by simp [hrunning]))
      case silenced =>
        rintro - -
        simp only at honce
        simp [Situation.served, honce]
      case apart => exact hapart

/-- Something else happens. -/
theorem Fired.of_not_completes (h : Fired serial history before)
    (hcourse : Course fresh history before) (hstep : Happens before happening after)
    (hcompletes : happening.completes serial = false)
    (hagain : ∀ event, happening = .began event → ∀ round ∈ before.rounds, round.Holds serial →
      round.event.name ≠ event.name)
    (hinterrupted : ∀ event, happening = .interrupted event →
      ∀ round ∈ before.rounds.head?, serial ∉ round.served) :
    Fired serial (history ++ [happening]) after := by
  have hbefore := hcourse.inOrder_situation inOrder_fresh
  -- nothing is added to what has completed
  have hany : (history ++ [happening]).any (Happening.completes serial) =
      history.any (Happening.completes serial) := by
    simp [hcompletes]
  constructor
  case le_one =>
    rw [List.countP_append, List.countP_singleton, if_neg (by simp [hcompletes]), Nat.add_zero]
    exact h.le_one
  case not_running =>
    rw [hany]
    intro hcompleted round hround hrunning
    rcases hstep.running_cases hround hrunning with ⟨other, hother, heq⟩ | ⟨event, rfl⟩
    · exact h.not_running hcompleted other hother heq
    · rw [h.not_completed_of_called hbefore hstep] at hcompleted
      cases hcompleted
  case silenced =>
    rw [hany]
    intro hcompleted hactive
    have hserial := hcourse.lt_length_of_completes inOrder_fresh hcompleted
    have hserved := h.silenced hcompleted (hstep.isActive_of_isActive hserial hactive)
    -- served by a publish under way, it stays so, or retires, or the publish is interrupted
    rcases hstep.served_cases hserved with hstill | hretires | ⟨round, hround, rfl, hmem⟩
    · exact hstill
    · rw [hstep.isActive_eq hserial, Happening.silences_of_retires hretires] at hactive
      simp at hactive
    · exact absurd hmem (hinterrupted round.event rfl round hround)
  case apart => exact h.apart_of_happens hstep hagain

end Step

/-! ## At most one completion -/

section Run

variable {last : Situation π} {history : List (Happening π)} {serial : Nat}

theorem Course.fired (h : Course fresh history last)
    (honce : serial < last.hub.subscriptions.length → last.hub.isOnce serial = true)
    (hundisturbed : Undisturbed serial history) : Fired serial history last := by
  induction h with
  | nil => exact fired_fresh serial
  | @snoc history happening between last hbefore hstep ih =>
      have hbetween := hbefore.inOrder_situation inOrder_fresh
      -- what is known about the end holds now, since terms do not change
      have honce' : serial < between.hub.subscriptions.length →
          between.hub.isOnce serial = true := by
        intro hserial
        have hlast := honce (Nat.lt_of_lt_of_le hserial hstep.length_le)
        rwa [isOnce, hstep.terms?_eq hserial] at hlast
      have hfired := ih honce' hundisturbed.of_append
      cases hcompletes : happening.completes serial with
      | false =>
          refine hfired.of_not_completes hbefore hstep hcompletes ?_ ?_
          · rintro event rfl
            exact hundisturbed.not_again history event [] between rfl hbefore
          · rintro event rfl
            exact hundisturbed.not_interrupted history event [] between rfl hbefore
      | true =>
          have hserial := hstep.lt_length_of_completes hbetween hcompletes
          cases happening with
          | completed other =>
              obtain rfl := beq_iff_eq.mp hcompletes
              exact hfired.of_completes hbetween (honce' hserial) hstep
          | _ => cases hcompletes

/-- The handler of a subscription for a single delivery completes at most once, if the
subscription is left undisturbed while a publish holds it. -/
theorem Course.countP_completes_le_one (h : Course fresh history last) {event : String}
    (hmade : .subscribed serial event true ∈ history)
    (hundisturbed : Undisturbed serial history) :
    history.countP (Happening.completes serial) ≤ 1 :=
  (h.fired (fun _ => h.isOnce_eq hmade) hundisturbed).le_one

end Run

/-! ## Publishes under way -/

/-- The names of the events whose publishes are under way, the innermost first. -/
def underWay (history : List (Happening π)) : List String :=
  history.foldl (fun names happening =>
    match happening with
    | .began event => event.name :: names
    | .finished _ _ => names.tail
    | .interrupted _ => names.tail
    | _ => names) []

theorem Course.map_name_rounds {history : List (Happening π)} {last : Situation π}
    (h : Course fresh history last) :
    last.rounds.map (fun round => round.event.name) = underWay history := by
  induction h with
  | nil => rfl
  | snoc hbefore hstep ih =>
      rw [underWay, List.foldl_append, ← underWay, ← ih]
      cases hstep <;> rfl

/-- A subscription is left undisturbed where no publish of an event begins while another one of it
is under way, and none is interrupted. -/
theorem undisturbed_of_underWay {serial : Nat} {history : List (Happening π)}
    (hagain : ∀ before event after, history = before ++ .began event :: after →
      event.name ∉ underWay before)
    (hinterrupted : ∀ event, .interrupted event ∉ history) : Undisturbed serial history := by
  constructor
  · intro before event after situation hsplit hcourse round hround _ hname
    apply hagain before event after hsplit
    rw [← hcourse.map_name_rounds, ← hname]
    exact List.mem_map_of_mem hround
  · rintro before event after situation rfl
    exact absurd (by simp) (hinterrupted event)

/-! ## All runs -/

/-- A subscription for a single delivery that is left undisturbed completes at most once in every
course, whatever handlers do; and whatever is done with a new hub is such a course, with the
deliveries that the hub records. -/
theorem once_of_runs :
    (∀ (history : List (Happening π)) (last : Situation π), Course fresh history last →
      ∀ serial event, .subscribed serial event true ∈ history → Undisturbed serial history →
        history.countP (Happening.completes serial) ≤ 1) ∧
    ∀ actions : List (Action π), ∃ history, Chronicle {} actions history ∧
      (actAll {} actions).deliveries =
        history.filterMap (Happening.delivery? (actAll {} actions)) ∧
      ∀ serial event, .subscribed serial event true ∈ history → Undisturbed serial history →
        history.countP (Happening.completes serial) ≤ 1 := by
  constructor
  · intro history last h serial event hmade hundisturbed
    exact h.countP_completes_le_one hmade hundisturbed
  · intro actions
    obtain ⟨history, hchronicle⟩ := exists_chronicle inOrder_empty actions
    have hcourse := hchronicle.course
    refine ⟨history, hchronicle, hcourse.deliveries_eq, fun serial event hmade hundisturbed => ?_⟩
    exact hcourse.countP_completes_le_one hmade hundisturbed

/-- Two publishes of an event, and inside the first one a publish of another event. -/
theorem once_of_runs_successive :
    ∃ history : List (Happening Unit),
      history =
        [.subscribed 0 "e" true, .subscribed 1 "e" false, .began ⟨"e", ()⟩, .called 0 ⟨"e", ()⟩,
          .completed 0, .called 1 ⟨"e", ()⟩, .began ⟨"f", ()⟩, .finished ⟨"f", ()⟩ [],
          .completed 1, .finished ⟨"e", ()⟩ [0], .began ⟨"e", ()⟩, .called 1 ⟨"e", ()⟩,
          .completed 1, .finished ⟨"e", ()⟩ []] ∧
      Course fresh history
        ⟨actAll {} [.subscribe "o" "e" true ⟨0, [], none⟩,
          .subscribe "h" "e" false ⟨1, [.publish "f" ()], none⟩, .publish "e" (),
          .publish "e" ()], []⟩ ∧
      Undisturbed 0 history ∧ history.countP (Happening.completes 0) ≤ 1 := by
  refine ⟨_, rfl, ?course, ?undisturbed, once_of_runs.1 _ _ ?course 0 "e" (by simp) ?undisturbed⟩
  case course =>
    exact .cons (.subscribed acting_nil "o" "e" true ⟨0, [], none⟩)
      (.cons (.subscribed acting_nil "h" "e" false ⟨1, [.publish "f" ()], none⟩)
        (.cons (.began acting_nil ⟨"e", ()⟩)
          (.cons (.called rfl rfl)
            (.cons .completed
              (.cons (.called rfl rfl)
                (.cons (.began (by simp [Acting]) ⟨"f", ()⟩)
                  (.cons .finished
                    (.cons .completed
                      (.cons .finished
                        (.cons (.began acting_nil ⟨"e", ()⟩)
                          (.cons (.called rfl rfl)
                            (.cons .completed
                              (.cons .finished .nil)))))))))))))
  case undisturbed =>
    apply undisturbed_of_underWay
    · intro before event after h
      simp only [List.cons_eq_append_iff, List.nil_eq, List.append_eq_nil_iff, List.cons.injEq,
        reduceCtorEq, and_false, false_and, exists_false, or_false, false_or,
        Happening.began.injEq] at h
      obtain ⟨_, rfl, _, rfl, ⟨rfl, rfl, -⟩ | ⟨_, rfl, _, rfl, _, rfl, _, rfl,
        ⟨rfl, rfl, -⟩ | ⟨_, rfl, _, rfl, _, rfl, _, rfl, rfl, rfl, -⟩⟩⟩ := h
      · decide
      · decide
      · decide
    · simp

/-- A publish of the event inside the publish that has served the subscription calls its handler a
second time. -/
theorem once_completes_twice :
    ∃ history : List (Happening Unit),
      history =
        [.subscribed 0 "e" true, .subscribed 1 "e" false, .began ⟨"e", ()⟩, .called 0 ⟨"e", ()⟩,
          .completed 0, .called 1 ⟨"e", ()⟩, .began ⟨"e", ()⟩, .called 0 ⟨"e", ()⟩,
          .completed 0, .called 1 ⟨"e", ()⟩, .completed 1, .finished ⟨"e", ()⟩ [0],
          .completed 1, .finished ⟨"e", ()⟩ [0]] ∧
      Course fresh history
        ⟨actAll {} [.subscribe "o" "e" true ⟨0, [], none⟩,
          .subscribe "h" "e" false ⟨1, [.publish "e" ()], none⟩, .publish "e" ()], []⟩ ∧
      (actAll {} [.subscribe "o" "e" true ⟨0, [], none⟩,
          .subscribe "h" "e" false ⟨1, [.publish "e" ()], none⟩, .publish "e" ()]).deliveries =
        [("o", ⟨"e", ()⟩), ("h", ⟨"e", ()⟩), ("o", ⟨"e", ()⟩), ("h", ⟨"e", ()⟩)] ∧
      history.countP (Happening.completes 0) = 2 := by
  refine ⟨_, rfl, ?_, rfl, rfl⟩
  exact .cons (.subscribed acting_nil "o" "e" true ⟨0, [], none⟩)
    (.cons (.subscribed acting_nil "h" "e" false ⟨1, [.publish "e" ()], none⟩)
      (.cons (.began acting_nil ⟨"e", ()⟩)
        (.cons (.called rfl rfl)
          (.cons .completed
            (.cons (.called rfl rfl)
              (.cons (.began (by simp [Acting]) ⟨"e", ()⟩)
                (.cons (.called rfl rfl)
                  (.cons .completed
                    (.cons (.called rfl rfl)
                      (.cons .completed
                        (.cons .finished
                          (.cons .completed
                            (.cons .finished .nil)))))))))))))

end Collate.Hub
