import Collate.Proofs.Hub.Chronicle

/-!
# How deep publishing goes

`Hub.publish` goes down as many levels as the handlers of the hub can act, and that is deep
enough: a handler that publishes, publishes in just the same way, however deep it is
(`Hub.publish_eq_publishOver`).  More levels would change nothing (`Hub.publishAt_eq_publish`).

## Strategy

The potential pays for the levels.  A handler that acts uses up a unit of its budget.  This takes
more from the potential than the subscriptions that its actions make can add.  So where a handler
publishes, the potential is less than it was when the handler was called, and it never grows.

`AgreeBelow` compares a computation that publishes in one way with the same computation that
publishes in another way.  If two ways agree on hubs whose potential is below a limit, then the
publishes one level up agree below the next limit.
-/

namespace Collate.Hub

variable {π β γ : Type}

/-! ## The potential -/

/-- How often the handler of a subscription can act, and the handlers of the subscriptions that it
makes. -/
def Subscription.weight (subscription : Subscription π) : Nat :=
  subscription.handler.budget * (1 + actionsWeight subscription.handler.actions)

/-- How often the handlers of some subscriptions can act. -/
def totalWeight (subscriptions : List (Subscription π)) : Nat :=
  subscriptions.foldr (fun subscription rest => subscription.weight + rest) 0

theorem potential_eq_totalWeight (hub : Hub π) :
    hub.potential = totalWeight hub.subscriptions := rfl

theorem totalWeight_cons (subscription : Subscription π) (rest : List (Subscription π)) :
    totalWeight (subscription :: rest) = subscription.weight + totalWeight rest := rfl

theorem totalWeight_concat (subscriptions : List (Subscription π))
    (subscription : Subscription π) :
    totalWeight (subscriptions ++ [subscription]) =
      totalWeight subscriptions + subscription.weight := by
  induction subscriptions with
  | nil => exact Nat.add_comm subscription.weight 0
  | cons first rest ih =>
      rw [List.cons_append, totalWeight_cons, totalWeight_cons, ih, Nat.add_assoc]

/-- Changing one subscription changes one summand. -/
theorem totalWeight_modify {subscriptions : List (Subscription π)} {serial : Nat}
    {subscription : Subscription π} (h : subscriptions[serial]? = some subscription)
    (change : Subscription π → Subscription π) :
    totalWeight (subscriptions.modify serial change) + subscription.weight =
      totalWeight subscriptions + (change subscription).weight := by
  induction subscriptions generalizing serial with
  | nil => cases h
  | cons first rest ih =>
      cases serial with
      | zero =>
          obtain rfl := Option.some.inj h
          simp only [List.modify_zero_cons, totalWeight_cons]
          omega
      | succ serial =>
          have hrest := ih h
          simp only [List.modify_succ_cons, totalWeight_cons]
          omega

theorem potential_subscribe (hub : Hub π) (label event : String) (once : Bool)
    (handler : Handler (Action π)) :
    (hub.subscribe label event once handler).potential =
      hub.potential + (Action.subscribe label event once handler).weight := by
  rw [potential_eq_totalWeight, subscribe, totalWeight_concat, ← potential_eq_totalWeight,
    Action.weight, Subscription.weight]

theorem potential_modifySubscription {hub : Hub π} {serial : Nat} {subscription : Subscription π}
    (h : hub.subscriptions[serial]? = some subscription)
    (change : Subscription π → Subscription π) :
    (hub.modifySubscription serial change).potential + subscription.weight =
      hub.potential + (change subscription).weight := by
  rw [potential_eq_totalWeight, potential_eq_totalWeight]
  exact totalWeight_modify h change

@[simp] theorem potential_cancel (hub : Hub π) (serial : Nat) :
    (hub.cancel serial).potential = hub.potential := by
  cases hfound : hub.subscriptions[serial]? with
  | none =>
      unfold cancel modifySubscription
      rw [List.modify_eq_self (List.getElem?_eq_none_iff.mp hfound)]
  | some subscription =>
      exact Nat.add_right_cancel (potential_modifySubscription hfound _)

@[simp] theorem potential_withdraw (hub : Hub π) (serial : Nat) :
    (hub.withdraw serial).potential = hub.potential := by
  rw [potential, subscriptions_withdraw]
  exact potential_cancel hub serial

@[simp] theorem potential_foldl_withdraw (hub : Hub π) (serials : List Nat) :
    (serials.foldl withdraw hub).potential = hub.potential := by
  induction serials generalizing hub with
  | nil => rfl
  | cons serial rest ih => simp [ih]

theorem Subscription.weight_spend {subscription : Subscription π}
    (h : 0 < subscription.handler.budget) :
    subscription.spend.weight + (1 + actionsWeight subscription.handler.actions) =
      subscription.weight := by
  unfold spend weight
  dsimp only
  rw [← Nat.succ_mul, Nat.succ_eq_add_one, Nat.sub_add_cancel h]

/-- A call takes more from the potential than the actions that are due can add. -/
theorem potential_begun_lt {hub : Hub π} (event : Event π) {serial : Nat}
    {subscription : Subscription π} (h : hub.subscriptions[serial]? = some subscription)
    (hbudget : 0 < subscription.handler.budget) :
    (hub.begun event serial subscription).potential + actionsWeight subscription.due <
      hub.potential := by
  have hspend := subscription.weight_spend hbudget
  have hmodify : _ = hub.potential + subscription.spend.weight :=
    potential_modifySubscription h Subscription.spend
  unfold begun Subscription.due
  rw [if_pos hbudget, if_pos hbudget]
  change (hub.modifySubscription serial Subscription.spend).potential + _ < _
  omega

/-! ## Computations that agree -/

/-- Where the potential, with this much more, is below the limit, the two computations do the same,
and the potential grows by no more than that. -/
def AgreeBelow (limit extra : Nat) (action action' : OnHub π β) : Prop :=
  ∀ hub : Hub π, hub.potential + extra < limit →
    action hub = action' hub ∧ (action hub).2.potential ≤ hub.potential + extra

section Agree

variable {limit extra : Nat}

theorem agreeBelow_pure (result : β) :
    AgreeBelow limit 0 (pure result : OnHub π β) (pure result) :=
  fun hub _ => ⟨rfl, Nat.le_refl hub.potential⟩

theorem agreeBelow_modify {change : Hub π → Hub π}
    (h : ∀ hub, (change hub).potential = hub.potential) :
    AgreeBelow limit 0 (modify change : OnHub π Unit) (modify change) :=
  fun hub _ => ⟨rfl, Nat.le_of_eq (h hub)⟩

theorem agreeBelow_serialOf (label : String) :
    AgreeBelow limit 0 (serialOf label : OnHub π Nat) (serialOf label) := by
  intro hub _
  refine ⟨rfl, ?_⟩
  cases hlabel : hub.labels.lookup label with
  | none => simp [serialOf_of_lookup_eq_none hlabel]
  | some serial => simp [serialOf_of_lookup_eq_some hlabel]

theorem AgreeBelow.bind {more : Nat} {action action' : OnHub π β} {next next' : β → OnHub π γ}
    (h : AgreeBelow limit extra action action')
    (hnext : ∀ result, AgreeBelow limit more (next result) (next' result)) :
    AgreeBelow limit (extra + more) (action >>= next) (action' >>= next') := by
  intro hub hlimit
  obtain ⟨heq, hle⟩ := h hub (by omega)
  rw [bind_apply, bind_apply, ← heq]
  cases houtcome : action hub with
  | mk outcome later =>
    rw [houtcome] at hle
    dsimp only at hle
    cases outcome with
    | error failure => exact ⟨rfl, by dsimp only; omega⟩
    | ok result =>
        obtain ⟨hrest, hmore⟩ := hnext result later (by omega)
        exact ⟨hrest, by dsimp only; omega⟩

theorem AgreeBelow.bind_zero {action action' : OnHub π β} {next next' : β → OnHub π γ}
    (h : AgreeBelow limit extra action action')
    (hnext : ∀ result, AgreeBelow limit 0 (next result) (next' result)) :
    AgreeBelow limit extra (action >>= next) (action' >>= next') :=
  h.bind hnext

/-- To change a subscription that a label names, without giving it more to do. -/
theorem agreeBelow_change (label : String) {change : Nat → Hub π → Hub π}
    (h : ∀ serial hub, (change serial hub).potential = hub.potential) (reply : Reply π) :
    AgreeBelow limit 0
      (serialOf label >>= fun serial => modify (change serial) >>= fun _ => pure reply)
      (serialOf label >>= fun serial => modify (change serial) >>= fun _ => pure reply) :=
  (agreeBelow_serialOf label).bind_zero fun serial =>
    (agreeBelow_modify (h serial)).bind_zero fun _ => agreeBelow_pure reply

variable {inner inner' : Event π → OnHub π Unit}

theorem agreeBelow_perform (hinner : ∀ event, AgreeBelow limit 0 (inner event) (inner' event))
    (action : Action π) :
    AgreeBelow limit action.weight (perform inner action) (perform inner' action) := by
  cases action with
  | subscribe label event once handler =>
      intro hub _
      exact ⟨rfl, Nat.le_of_eq (potential_subscribe hub label event once handler)⟩
  | withdraw label =>
      rw [Action.weight]
      exact agreeBelow_change label (fun serial hub => potential_withdraw hub serial) .silent
  | cancel label =>
      rw [Action.weight]
      exact agreeBelow_change label (fun serial hub => potential_cancel hub serial) .silent
  | publish name payload =>
      rw [Action.weight]
      exact (hinner ⟨name, payload⟩).bind_zero fun _ => agreeBelow_pure _
  | clear =>
      rw [Action.weight]
      exact fun hub _ => ⟨rfl, Nat.le_refl hub.potential⟩
  | count event =>
      rw [Action.weight]
      exact fun hub _ => ⟨rfl, Nat.le_refl hub.potential⟩

theorem agreeBelow_performAll (hinner : ∀ event, AgreeBelow limit 0 (inner event) (inner' event))
    (actions : List (Action π)) :
    AgreeBelow limit (actionsWeight actions) (performAll inner actions)
      (performAll inner' actions) := by
  induction actions with
  | nil => exact agreeBelow_pure ()
  | cons action rest ih =>
      have hfirst : AgreeBelow limit action.weight (discard (perform inner action))
          (discard (perform inner' action)) :=
        (agreeBelow_perform hinner action).bind_zero fun _ => agreeBelow_pure ()
      unfold performAll
      rw [actionsWeight]
      exact hfirst.bind fun _ => ih

variable {hub : Hub π} {serial : Nat} {subscription : Subscription π}

/-- Where the handlers' publishes agree, so do the calls of handlers, one level up. -/
theorem call_congr (hinner : ∀ event, AgreeBelow limit 0 (inner event) (inner' event))
    (hlimit : hub.potential < limit + 1) (event : Event π)
    (hfound : hub.subscriptions[serial]? = some subscription) :
    call inner event serial subscription hub = call inner' event serial subscription hub ∧
      (call inner event serial subscription hub).2.potential ≤ hub.potential := by
  rw [call_snd, call_apply, call_apply, bind_apply, bind_apply]
  by_cases hbudget : 0 < subscription.handler.budget
  · -- a handler that acts has used up some of the potential, so there is one level less below it
    have hbegun := potential_begun_lt event hfound hbudget
    obtain ⟨heq, hle⟩ := agreeBelow_performAll hinner subscription.due
      (hub.begun event serial subscription) (by omega)
    exact ⟨by rw [heq], by omega⟩
  · have hdue : subscription.due = [] := if_neg hbudget
    have hbegun : hub.begun event serial subscription =
      { hub with deliveries := hub.deliveries ++ [(subscription.label, event)] } := if_neg hbudget
    rw [hdue, hbegun]
    exact ⟨rfl, Nat.le_refl hub.potential⟩

theorem attempt_congr (hinner : ∀ event, AgreeBelow limit 0 (inner event) (inner' event))
    (hlimit : hub.potential < limit + 1) (event : Event π)
    (hfound : hub.subscriptions[serial]? = some subscription) :
    attempt inner event serial subscription hub = attempt inner' event serial subscription hub ∧
      (attempt inner event serial subscription hub).2.potential ≤ hub.potential := by
  obtain ⟨heq, hle⟩ := call_congr hinner hlimit event hfound
  constructor
  · unfold attempt
    rw [tryCatch_apply, tryCatch_apply, bind_apply, bind_apply, heq]
  · rcases attempt_cases inner event serial subscription hub with
      ⟨later, hcall, hattempt⟩ | ⟨failure, later, -, hcall, hattempt⟩ |
        ⟨failure, later, -, hcall, hattempt⟩
    all_goals
      rw [hcall] at hle
      rw [hattempt]
      exact hle

theorem agreeBelow_deliver (hinner : ∀ event, AgreeBelow limit 0 (inner event) (inner' event))
    (event : Event π) (serials : List Nat) :
    AgreeBelow (limit + 1) 0 (deliver inner event serials) (deliver inner' event serials) := by
  induction serials with
  | nil => exact agreeBelow_pure []
  | cons serial rest ih =>
      intro hub hlimit
      cases hactive : hub.isActive serial with
      | false =>
          rw [deliver_of_not_active hactive, deliver_of_not_active hactive]
          exact ih hub hlimit
      | true =>
          obtain ⟨subscription, hfound, hsubscription⟩ := exists_of_isActive hactive
          rw [deliver_of_active hfound hsubscription, deliver_of_active hfound hsubscription]
          obtain ⟨heq, hle⟩ := attempt_congr hinner hlimit event hfound
          rw [bind_apply, bind_apply, ← heq]
          cases hattempt : attempt inner event serial subscription hub with
          | mk outcome later =>
            rw [hattempt] at hle
            dsimp only at hle
            cases outcome with
            | error failure => exact ⟨rfl, hle⟩
            | ok ended =>
                -- the attempt leaves no more potential than there was, so the rest agrees as well
                obtain ⟨hrest, hmore⟩ :=
                  (ih.bind_zero fun others => agreeBelow_pure
                    (if ended && subscription.once then serial :: others else others))
                    later (by omega)
                exact ⟨hrest, Nat.le_trans hmore hle⟩

theorem agreeBelow_publishOver (hinner : ∀ event, AgreeBelow limit 0 (inner event) (inner' event))
    (event : Event π) :
    AgreeBelow (limit + 1) 0 (publishOver inner event) (publishOver inner' event) := by
  intro hub hlimit
  unfold publishOver
  rw [bind_apply, bind_apply, get_apply]
  exact ((agreeBelow_deliver hinner event (hub.subscribers event.name)).bind_zero fun served =>
    agreeBelow_modify fun later => potential_foldl_withdraw later served) hub hlimit

end Agree

/-! ## Levels enough -/

/-- Numbers of levels that both reach the limit make no difference below it. -/
theorem agreeBelow_publishAt (limit : Nat) {levels more : Nat} (hlevels : limit ≤ levels)
    (hmore : limit ≤ more) (event : Event π) :
    AgreeBelow limit 0 (publishAt levels event) (publishAt more event) := by
  induction limit generalizing levels more event with
  | zero => exact fun hub hlimit => absurd hlimit (Nat.not_lt_zero _)
  | succ limit ih =>
      obtain ⟨levels, rfl⟩ := Nat.exists_eq_add_of_le' hlevels
      obtain ⟨more, rfl⟩ := Nat.exists_eq_add_of_le' hmore
      rw [← Nat.add_assoc, ← Nat.add_assoc, publishAt, publishAt]
      exact agreeBelow_publishOver (fun event => ih (by omega) (by omega) event) event

/-- More levels than the potential of the hub change nothing. -/
theorem publishAt_eq_publish {hub : Hub π} {levels : Nat} (h : hub.potential < levels)
    (event : Event π) : publishAt levels event hub = publish event hub := by
  obtain ⟨heq, -⟩ := agreeBelow_publishAt (hub.potential + 1) h (Nat.le_refl _) event hub
    (Nat.lt_succ_self hub.potential)
  rw [heq, publishAt, publish_apply]

/-- A publish delivers to handlers that publish in the same way themselves, at every level. -/
theorem publish_eq_publishOver (event : Event π) :
    (publish event : OnHub π Unit) = publishOver publish event := by
  funext hub
  have hinner : ∀ event : Event π,
      AgreeBelow hub.potential 0 (publishAt hub.potential event) (publish event) := by
    intro event later hlater
    have heq : publishAt hub.potential event later = publish event later :=
      publishAt_eq_publish hlater event
    exact ⟨heq, (agreeBelow_publishAt _ (Nat.le_refl _) (Nat.le_refl _) event later hlater).2⟩
  rw [publish_apply]
  exact (agreeBelow_publishOver hinner event hub (Nat.lt_succ_self _)).1

end Collate.Hub
