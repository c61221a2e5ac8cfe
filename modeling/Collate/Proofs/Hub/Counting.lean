import Collate.Proofs.Hub.Chronicle
import Collate.Proofs.Hub.Standing

/-!
# Counting subscribers

A subscription for a single delivery is served by a publish in which its handler completes; the
publish withdraws it when it comes to its end.  So where no publish of an event was interrupted,
outside a publish, the subscribers of the event are those made since the last clearing that were
neither withdrawn nor for a single delivery and completed (`Hub.Course.count_eq`).

A publish that is interrupted withdraws nobody.  There a subscription that has been served still
counts (`Hub.count_of_interrupted`).

## Strategy

`Situation.served` lists the subscriptions that the publishes under way have served so far.  A
subscription comes there by completing, and leaves when its publish is finished or interrupted.
-/

namespace Collate.Hub

variable {π : Type}

/-- The subscription is withdrawn by somebody. -/
def Happening.withdraws (serial : Nat) : Happening π → Bool
  | .withdrawn other => other == serial
  | _ => false

/-- The subscription is withdrawn by the end of a publish that it was served by. -/
def Happening.retires (serial : Nat) : Happening π → Bool
  | .finished _ served => served.contains serial
  | _ => false

/-- The handler of the subscription comes to its end. -/
def Happening.completes (serial : Nat) : Happening π → Bool
  | .completed other => other == serial
  | _ => false

/-- The subscription is made for a single delivery. -/
def Happening.makesOnce (serial : Nat) : Happening π → Bool
  | .subscribed other _ once => other == serial && once
  | _ => false

theorem Happening.removes_eq (serial : Nat) (happening : Happening π) :
    happening.removes serial = (happening.withdraws serial || happening.retires serial) := by
  cases happening <;> simp [removes, withdraws, retires]

theorem Happening.silences_of_retires {serial : Nat} {happening : Happening π}
    (h : happening.retires serial = true) : happening.silences serial = true := by
  cases happening with
  | finished _ _ => exact h
  | _ => cases h

theorem any_removes_eq (serial : Nat) (history : List (Happening π)) :
    history.any (Happening.removes serial) =
      (history.any (Happening.withdraws serial) || history.any (Happening.retires serial)) := by
  rw [Bool.eq_iff_iff]
  simp only [Bool.or_eq_true, List.any_eq_true, Happening.removes_eq, and_or_left, exists_or]

/-- How many of the subscriptions to an event made since the last clearing were neither withdrawn
nor for a single delivery and completed. -/
def remaining (history : List (Happening π)) (name : String) : Nat :=
  ((sinceCleared history).filterMap (Happening.made? name)).countP fun serial =>
    !(history.any (Happening.withdraws serial) ||
      (history.any (Happening.makesOnce serial) && history.any (Happening.completes serial)))

/-- The subscriptions that the publishes under way have served so far. -/
def Situation.served (situation : Situation π) : List Nat :=
  situation.rounds.flatMap Round.served

/-! ## Who is served -/

theorem Situation.InOrder.lt_length_of_mem_served {situation : Situation π}
    (h : situation.InOrder) {serial : Nat} (hserved : serial ∈ situation.served) :
    serial < situation.hub.subscriptions.length := by
  obtain ⟨round, hround, hmem⟩ := List.mem_flatMap.mp hserved
  exact (h.rounds round hround).lt_length (List.mem_append_left _ hmem)

section Step

variable {before after : Situation π} {happening : Happening π} {serial : Nat}

/-- A subscription whose handler completes has been made. -/
theorem Happens.lt_length_of_completes (h : Happens before happening after)
    (hbefore : before.InOrder) (hcompletes : happening.completes serial = true) :
    serial < before.hub.subscriptions.length := by
  cases h with
  | @completed hub rounds event other waiting served =>
      obtain rfl := beq_iff_eq.mp hcompletes
      exact (hbefore.rounds ⟨event, waiting, served, some other⟩ (by simp)).lt_length (by simp)
  | _ => cases hcompletes

theorem Happens.mem_served (h : Happens before happening after) (hserved : serial ∈ after.served) :
    serial ∈ before.served ∨ happening.completes serial = true := by
  cases h with
  | @completed hub rounds event other waiting served =>
      simp only [Situation.served, List.flatMap_cons, List.mem_append] at hserved ⊢
      rcases hserved with hfirst | hrest
      · split at hfirst
        · rcases List.mem_append.mp hfirst with hold | hnew
          · exact .inl (.inl hold)
          · simp [Happening.completes, List.mem_singleton.mp hnew]
        · exact .inl (.inl hfirst)
      · exact .inl (.inr hrest)
  | finished =>
      simp only [Situation.served, List.flatMap_cons, List.mem_append] at hserved ⊢
      exact .inl (.inr hserved)
  | interrupted =>
      simp only [Situation.served, List.flatMap_cons, List.mem_append] at hserved ⊢
      exact .inl (.inr hserved)
  | _ => exact .inl hserved

/-- A subscription that has been served leaves when its publish ends. -/
theorem Happens.served_cases (h : Happens before happening after)
    (hserved : serial ∈ before.served) :
    serial ∈ after.served ∨ happening.retires serial = true ∨
      ∃ round ∈ before.rounds.head?, happening = .interrupted round.event ∧
        serial ∈ round.served := by
  cases h with
  | @completed hub rounds event other waiting served =>
      simp only [Situation.served, List.flatMap_cons, List.mem_append] at hserved ⊢
      rcases hserved with hfirst | hrest
      · left; left
        split
        · exact List.mem_append_left _ hfirst
        · exact hfirst
      · exact .inl (.inr hrest)
  | @finished hub rounds event served =>
      simp only [Situation.served, List.flatMap_cons, List.mem_append] at hserved ⊢
      rcases hserved with hfirst | hrest
      · exact .inr (.inl (by simpa [Happening.retires] using hfirst))
      · exact .inl hrest
  | @interrupted hub rounds event other waiting served =>
      simp only [Situation.served, List.flatMap_cons, List.mem_append] at hserved ⊢
      rcases hserved with hfirst | hrest
      · exact .inr (.inr ⟨⟨event, waiting, served, some other⟩, rfl, rfl, hfirst⟩)
      · exact .inl hrest
  | _ => exact .inl hserved

end Step

section Run

variable {start last : Situation π} {history : List (Happening π)} {serial : Nat}

theorem Course.lt_length_of_completes (h : Course start history last) (hstart : start.InOrder)
    (hcompletes : history.any (Happening.completes serial) = true) :
    serial < last.hub.subscriptions.length := by
  obtain ⟨happening, hmem, hhappening⟩ := List.any_eq_true.mp hcompletes
  obtain ⟨before, after, between, next, rfl, hbefore, hstep, hafter⟩ := h.exists_of_mem hmem
  -- numbers are given once and for all, and there are only ever more of them
  calc
    serial < between.hub.subscriptions.length :=
      hstep.lt_length_of_completes (hbefore.inOrder_situation hstart) hhappening
    _ ≤ next.hub.subscriptions.length := hstep.length_le
    _ ≤ last.hub.subscriptions.length := hafter.length_le

theorem Course.mem_served (h : Course start history last) (hserved : serial ∈ last.served) :
    serial ∈ start.served ∨ history.any (Happening.completes serial) = true := by
  induction h with
  | nil => exact .inl hserved
  | snoc _ hstep ih =>
      rw [List.any_append, Bool.or_eq_true]
      rcases hstep.mem_served hserved with hold | hnew
      · exact (ih hold).imp_right .inl
      · exact .inr (.inr (by simpa using hnew))

theorem Course.served_cases (h : Course start history last) (hstart : start.InOrder)
    (hserved : serial ∈ start.served) :
    serial ∈ last.served ∨ history.any (Happening.retires serial) = true ∨
      ∃ event, .interrupted event ∈ history ∧
        (start.hub.terms? serial).map Terms.event = some event.name := by
  have hserial := hstart.lt_length_of_mem_served hserved
  induction h with
  | nil => exact .inl hserved
  | snoc hbefore hstep ih =>
      rw [List.any_append, Bool.or_eq_true]
      rcases ih with hstill | hretired | ⟨event, hevent, hname⟩
      · rcases hstep.served_cases hstill with hnow | hretires | ⟨round, hround, rfl, hmem⟩
        · exact .inl hnow
        · exact .inr (.inl (.inr (by simpa using hretires)))
        · -- interrupted rounds forget whom they have served
          have hname := ((hbefore.inOrder_situation hstart).rounds round
            (List.mem_of_head? hround)).event_eq serial (List.mem_append_left _ hmem)
          rw [hbefore.terms?_eq hserial] at hname
          exact .inr (.inr ⟨round.event, by simp, hname⟩)
      · exact .inr (.inl (.inl hretired))
      · exact .inr (.inr ⟨event, List.mem_append_left _ hevent, hname⟩)

/-- The end of a publish withdraws subscriptions for a single delivery that have completed. -/
theorem Course.of_retires (h : Course fresh history last)
    (hretires : history.any (Happening.retires serial) = true) :
    history.any (Happening.completes serial) = true ∧ last.hub.isOnce serial = true := by
  obtain ⟨happening, hmem, hhappening⟩ := List.any_eq_true.mp hretires
  obtain ⟨before, after, between, next, rfl, hbefore, hstep, hafter⟩ := h.exists_of_mem hmem
  have hbetween := hbefore.inOrder_situation inOrder_fresh
  cases hstep with
  | @finished hub rounds event served =>
      have hserved : serial ∈ served := List.contains_iff_mem.mp hhappening
      -- all who are served by a publish under way have completed in it
      have hround := hbetween.rounds ⟨event, [], served, none⟩ (by simp)
      constructor
      · have hmem : serial ∈ Situation.served ⟨hub, ⟨event, [], served, none⟩ :: rounds⟩ := by
          simp [Situation.served, hserved]
        rcases hbefore.mem_served hmem with hnone | hcompleted
        · cases hnone
        · rw [List.any_append, hcompleted, Bool.true_or]
      · have hserial : serial < hub.subscriptions.length := hround.lt_length (by simp [hserved])
        rw [isOnce, hafter.terms?_eq (by simpa using hserial), terms?_foldl_withdraw]
        exact hround.isOnce serial hserved
  | _ => cases hhappening

/-- A subscription for a single delivery that has completed is served by a publish under way, or
was withdrawn at the end of one, or a publish of its event was interrupted. -/
theorem Course.of_completes (h : Course start history last) (hstart : start.InOrder)
    (hcompletes : history.any (Happening.completes serial) = true)
    (honce : last.hub.isOnce serial = true) :
    serial ∈ last.served ∨ history.any (Happening.retires serial) = true ∨
      ∃ event, .interrupted event ∈ history ∧
        (last.hub.terms? serial).map Terms.event = some event.name := by
  obtain ⟨happening, hmem, hhappening⟩ := List.any_eq_true.mp hcompletes
  obtain ⟨before, after, between, next, rfl, hbefore, hstep, hafter⟩ := h.exists_of_mem hmem
  have hbetween := hbefore.inOrder_situation hstart
  have hnext := hstep.inOrder_situation hbetween
  cases hstep with
  | @completed hub rounds event other waiting served =>
      obtain rfl := beq_iff_eq.mp hhappening
      have hround := hbetween.rounds ⟨event, waiting, served, some other⟩ (by simp)
      have hother : other < hub.subscriptions.length := hround.lt_length (by simp)
      have hterms : last.hub.terms? other = hub.terms? other := hafter.terms?_eq hother
      rw [isOnce, hterms] at honce
      have hserved : other ∈ (⟨hub, ⟨event, waiting,
          if hub.isOnce other then served ++ [other] else served, none⟩ :: rounds⟩ :
            Situation π).served := by
        simp [Situation.served, isOnce, honce]
      rw [hterms]
      -- from the completion on, the publish holds the subscription until it ends
      rcases hafter.served_cases hnext hserved with hstill | hretires | ⟨ended, hended, hname⟩
      · exact .inl hstill
      · exact .inr (.inl (by simp [List.any_append, List.any_cons, hretires]))
      · exact .inr (.inr ⟨ended, by simp [hended], hname⟩)
  | _ => cases hhappening

/-! ## How many there are -/

/-- A subscription keeps its event, and whether it is for a single delivery. -/
theorem Course.terms?_of_subscribed (h : Course start history last) {event : String} {once : Bool}
    (hmade : .subscribed serial event once ∈ history) :
    (last.hub.terms? serial).map (fun terms => (terms.event, terms.once)) =
      some (event, once) := by
  obtain ⟨before, after, between, next, rfl, -, hstep, hafter⟩ := h.exists_of_mem hmade
  cases hstep with
  | subscribed _ label event once handler =>
      rw [hafter.terms?_eq (by simp), terms?_subscribe, if_pos rfl]
      rfl

theorem Course.isOnce_eq (h : Course start history last) {event : String} {once : Bool}
    (hmade : .subscribed serial event once ∈ history) : last.hub.isOnce serial = once := by
  have hterms := h.terms?_of_subscribed hmade
  cases hfound : last.hub.terms? serial with
  | none => simp [hfound] at hterms
  | some terms =>
      rw [hfound, Option.map_some, Option.some.injEq, Prod.mk.injEq] at hterms
      rw [isOnce, hfound, Option.any_some, hterms.2]

theorem Course.makesOnce_iff (h : Course start history last) {event : String} {once : Bool}
    (hmade : .subscribed serial event once ∈ history) :
    history.any (Happening.makesOnce serial) = true ↔ last.hub.isOnce serial = true := by
  constructor
  · intro hany
    obtain ⟨happening, hmem, hmakes⟩ := List.any_eq_true.mp hany
    cases happening with
    | subscribed other name once' =>
        simp only [Happening.makesOnce, Bool.and_eq_true, beq_iff_eq] at hmakes
        obtain ⟨rfl, rfl⟩ := hmakes
        exact h.isOnce_eq hmem
    | _ => cases hmakes
  · intro honce
    rw [h.isOnce_eq hmade] at honce
    exact List.any_eq_true.mpr ⟨_, hmade, by simp [Happening.makesOnce, honce]⟩

theorem exists_subscribed_of_made {name : String}
    (h : serial ∈ (sinceCleared history).filterMap (Happening.made? name)) :
    ∃ once, .subscribed serial name once ∈ history := by
  obtain ⟨happening, hmem, hmade⟩ := List.mem_filterMap.mp h
  have hin : happening ∈ history := (List.rtakeWhile_suffix _ _).subset hmem
  cases happening with
  | subscribed other event once =>
      simp only [Happening.made?, Option.ite_none_right_eq_some, Option.some.injEq] at hmade
      obtain ⟨rfl, rfl⟩ := hmade
      exact ⟨once, hin⟩
  | _ => cases hmade

/-- Outside a publish, where no publish of the event was interrupted, those removed are those
withdrawn and those for a single delivery that have completed. -/
theorem Course.removes_eq (h : Course fresh history last) (hrounds : last.rounds = [])
    {name : String} (hname : ∀ event, .interrupted event ∈ history → event.name ≠ name)
    {once : Bool} (hmade : .subscribed serial name once ∈ history) :
    history.any (Happening.removes serial) =
      (history.any (Happening.withdraws serial) ||
        (history.any (Happening.makesOnce serial) &&
          history.any (Happening.completes serial))) := by
  -- no publish is under way, so whoever has completed was retired by its end
  have hretires : history.any (Happening.retires serial) = true ↔
      history.any (Happening.makesOnce serial) = true ∧
        history.any (Happening.completes serial) = true := by
    rw [h.makesOnce_iff hmade]
    constructor
    · intro hretires
      exact (h.of_retires hretires).symm
    · rintro ⟨honce, hcompletes⟩
      rcases h.of_completes inOrder_fresh hcompletes honce with hserved | hretires |
        ⟨event, hended, hevent⟩
      · simp [Situation.served, hrounds] at hserved
      · exact hretires
      · have hterms := h.terms?_of_subscribed hmade
        obtain ⟨terms, hfound, hpair⟩ := Option.map_eq_some_iff.mp hterms
        rw [hfound, Option.map_some, Option.some.injEq] at hevent
        exact absurd (hevent.symm.trans (congrArg Prod.fst hpair)) (hname event hended)
  rw [any_removes_eq]
  congr 1
  rw [Bool.eq_iff_iff, hretires, Bool.and_eq_true]

theorem Course.count_eq (h : Course fresh history last) (hrounds : last.rounds = [])
    {name : String} (hname : ∀ event, .interrupted event ∈ history → event.name ≠ name) :
    last.hub.subscriberCount name = remaining history name := by
  have hstart : (fresh : Situation π).hub.subscribers name = [] := rfl
  rw [subscriberCount, h.subscribers_eq inOrder_fresh, hstart, left_of_empty,
    ← List.countP_eq_length_filter, remaining]
  refine List.countP_congr fun serial hserial => ?_
  obtain ⟨once, hmade⟩ := exists_subscribed_of_made hserial
  rw [h.removes_eq hrounds hname hmade]

end Run

/-! ## The standing of all subscriptions -/

/-- What holds of the subscriptions of a hub, after this history. -/
structure Standing (history : List (Happening π)) (situation : Situation π) : Prop where
  /-- Once a subscription was withdrawn, cancelled, or served by a publish that has ended, its
  handler is not called any more. -/
  not_called : ∀ before happening after serial event, history = before ++ happening :: after →
    happening.silences serial = true → .called serial event ∉ after
  /-- At any moment, the subscribers of an event are those made since the last clearing that were
  neither withdrawn nor retired by the end of a publish. -/
  subscribers_eq : ∀ name, situation.hub.subscribers name =
    ((sinceCleared history).filterMap (Happening.made? name)).filter fun serial =>
      !(history.any (Happening.withdraws serial) || history.any (Happening.retires serial))
  /-- Only subscriptions for a single delivery are retired, and only after completing. -/
  of_retires : ∀ serial, history.any (Happening.retires serial) = true →
    history.any (Happening.completes serial) = true ∧ situation.hub.isOnce serial = true
  /-- Outside a publish, and if none of the event was interrupted, those that were neither withdrawn
  nor for a single delivery and completed are counted. -/
  count_eq : ∀ name, situation.rounds = [] →
    (∀ event, .interrupted event ∈ history → event.name ≠ name) →
    situation.hub.subscriberCount name = remaining history name
  /-- The calls of handlers are the deliveries that the hub has recorded. -/
  deliveries_eq : situation.hub.deliveries =
    history.filterMap (Happening.delivery? situation.hub)
  ne_nil : ∀ entry ∈ situation.hub.lists, entry.2 ≠ []
  /-- No subscription stands twice, on one list or on two. -/
  nodup : (situation.hub.lists.flatMap Prod.snd).Nodup
  event_eq : ∀ entry ∈ situation.hub.lists, ∀ serial ∈ entry.2,
    (situation.hub.terms? serial).map Terms.event = some entry.1
  /-- To withdraw a subscription again, or after a clearing, changes no list. -/
  withdraw_again : ∀ before happening after serial, history = before ++ happening :: after →
    (happening.removes serial = true ∨
      happening.clears = true ∧ ∃ name, serial ∈ before.filterMap (Happening.made? name)) →
    ∀ name, (situation.hub.withdraw serial).subscribers name = situation.hub.subscribers name

theorem Course.standing {history : List (Happening π)} {last : Situation π}
    (h : Course fresh history last) : Standing history last := by
  have hlast := h.inOrder_situation inOrder_fresh
  constructor
  case not_called =>
    rintro before happening after serial event rfl hsilences
    exact h.not_called_of_silences inOrder_fresh hsilences event
  case subscribers_eq =>
    intro name
    have hstart : (fresh : Situation π).hub.subscribers name = [] := rfl
    rw [h.subscribers_eq inOrder_fresh, hstart, left_of_empty]
    refine List.filter_congr fun serial _ => ?_
    rw [any_removes_eq]
  case of_retires =>
    intro serial hretires
    exact h.of_retires hretires
  case count_eq =>
    intro name hrounds hname
    exact h.count_eq hrounds hname
  case deliveries_eq => exact h.deliveries_eq
  case ne_nil => exact hlast.hub.ne_nil
  case nodup => exact hlast.hub.nodup_flatMap
  case event_eq => exact hlast.hub.event_eq
  case withdraw_again =>
    rintro before happening after serial rfl hgone name
    -- who is gone is on no list, so there is nothing to withdraw
    have hmem := h.not_mem_subscribers inOrder_fresh hgone name
    rw [hlast.hub.subscribers_withdraw, List.filter_eq_self]
    intro other hother
    rw [bne_iff_ne]
    rintro rfl
    exact hmem hother

/-- The standing of subscriptions at every moment of every course, whatever handlers do; and
whatever is done with a new hub is such a course. -/
theorem standing_of_runs :
    (∀ (history : List (Happening π)) (last : Situation π), Course fresh history last →
      Standing history last) ∧
    ∀ actions : List (Action π), ∃ history, Chronicle {} actions history ∧
      Standing history ⟨actAll {} actions, []⟩ := by
  refine ⟨fun history last h => h.standing, fun actions => ?_⟩
  obtain ⟨history, hchronicle⟩ := exists_chronicle inOrder_empty actions
  exact ⟨history, hchronicle, hchronicle.course.standing⟩

/-- A subscription that is served, and one that is cancelled after its delivery. -/
theorem standing_of_runs_served :
    Standing (π := Unit)
      [.subscribed 0 "x" true, .subscribed 1 "x" false, .began ⟨"x", ()⟩, .called 0 ⟨"x", ()⟩,
        .completed 0, .called 1 ⟨"x", ()⟩, .completed 1, .finished ⟨"x", ()⟩ [0], .cancelled 1]
      ⟨actAll {} [.subscribe "o" "x" true ⟨0, [], none⟩, .subscribe "a" "x" false ⟨0, [], none⟩,
        .publish "x" (), .cancel "a"], []⟩ :=
  standing_of_runs.1 _ _
    (.cons (.subscribed acting_nil "o" "x" true ⟨0, [], none⟩)
      (.cons (.subscribed acting_nil "a" "x" false ⟨0, [], none⟩)
        (.cons (.began acting_nil ⟨"x", ()⟩)
          (.cons (.called rfl rfl)
            (.cons .completed
              (.cons (.called rfl rfl)
                (.cons .completed
                  (.cons .finished
                    (.cons (.cancelled acting_nil (by decide)) .nil)))))))))

/-- An interrupted publish withdraws nobody: the subscription that it has served still counts. -/
theorem count_of_interrupted :
    ∃ (history : List (Happening Unit)) (last : Situation Unit),
      history =
        [.subscribed 0 "x" true, .subscribed 1 "x" false, .began ⟨"x", ()⟩, .called 0 ⟨"x", ()⟩,
          .completed 0, .called 1 ⟨"x", ()⟩, .interrupted ⟨"x", ()⟩] ∧
      last =
        ⟨actAll {} [.subscribe "o" "x" true ⟨0, [], none⟩,
          .subscribe "a" "x" false ⟨0, [], some (.raised .interruption "")⟩, .publish "x" ()], []⟩ ∧
      Course fresh history last ∧ last.hub.subscriberCount "x" = 2 ∧ remaining history "x" = 1 := by
  refine ⟨_, _, rfl, rfl, ?_, rfl, rfl⟩
  exact .cons (.subscribed acting_nil "o" "x" true ⟨0, [], none⟩)
    (.cons (.subscribed acting_nil "a" "x" false ⟨0, [], some (.raised .interruption "")⟩)
      (.cons (.began acting_nil ⟨"x", ()⟩)
        (.cons (.called rfl rfl)
          (.cons .completed
            (.cons (.called rfl rfl)
              (.cons .interrupted .nil))))))

end Collate.Hub
