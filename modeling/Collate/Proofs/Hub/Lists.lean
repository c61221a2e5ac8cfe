import Mathlib.Data.List.Nodup
import Collate.Hub.Basic

/-!
# What the operations of a hub do to its subscriptions

A hub is seen through four views: on what terms a subscription was made (`Hub.terms?`), whether
it is active (`Hub.isActive`), who subscribes to an event (`Hub.subscribers`), and how many
subscriptions there are.  Each operation has one equation for each view that it changes.

On a hub that is *in order* (`Hub.InOrder`) every list belongs to one event, is not empty, and
holds subscriptions to that event, each once.  Every operation keeps that.
-/

namespace Collate.Hub

variable {π : Type} {hub : Hub π}

/-! ## Terms -/

/-- What a subscription is made with and keeps.  Whether it is active and how often its handler
still acts are no part of it. -/
structure Terms (π : Type) where
  label : String
  event : String
  once : Bool
  actions : List (Action π)
  failure : Option Failure

/-- The terms of a subscription. -/
def Subscription.terms (subscription : Subscription π) : Terms π :=
  ⟨subscription.label, subscription.event, subscription.once, subscription.handler.actions,
    subscription.handler.failure⟩

/-- The terms on which the subscription of this number was made. -/
def terms? (hub : Hub π) (serial : Nat) : Option (Terms π) :=
  hub.subscriptions[serial]?.map Subscription.terms

/-- Whether there is an active subscription of this number. -/
def isActive (hub : Hub π) (serial : Nat) : Bool :=
  hub.subscriptions[serial]?.any Subscription.active

/-- Whether the subscription of this number is for a single delivery. -/
def isOnce (hub : Hub π) (serial : Nat) : Bool := (hub.terms? serial).any Terms.once

theorem lt_length_of_terms?_eq_some {serial : Nat} {terms : Terms π}
    (h : hub.terms? serial = some terms) : serial < hub.subscriptions.length := by
  obtain ⟨subscription, hsubscription, -⟩ := Option.map_eq_some_iff.mp h
  exact (List.getElem?_eq_some_iff.mp hsubscription).1

theorem terms?_eq_of_getElem? {serial : Nat} {subscription : Subscription π}
    (h : hub.subscriptions[serial]? = some subscription) :
    hub.terms? serial = some subscription.terms := by
  rw [terms?, h, Option.map_some]

theorem exists_of_isActive {serial : Nat} (h : hub.isActive serial = true) :
    ∃ subscription, hub.subscriptions[serial]? = some subscription ∧
      subscription.active = true := by
  rwa [isActive, Option.any_eq_true] at h

/-! ### Changing one subscription -/

section Modify

variable {change : Subscription π → Subscription π}

theorem getElem?_modifySubscription (hub : Hub π) (serial other : Nat) :
    (hub.modifySubscription serial change).subscriptions[other]? =
      hub.subscriptions[other]?.map fun subscription =>
        if serial = other then change subscription else subscription := by
  rw [modifySubscription, List.getElem?_modify, Option.map_eq_map]

@[simp] theorem length_modifySubscription (hub : Hub π) (serial : Nat) :
    (hub.modifySubscription serial change).subscriptions.length = hub.subscriptions.length := by
  simp [modifySubscription]

theorem terms?_modifySubscription (hchange : ∀ subscription, (change subscription).terms =
    subscription.terms) (hub : Hub π) (serial other : Nat) :
    (hub.modifySubscription serial change).terms? other = hub.terms? other := by
  rw [terms?, getElem?_modifySubscription, Option.map_map, terms?]
  congr 1
  funext subscription
  by_cases h : serial = other
  · simp [h, hchange]
  · simp [h]

theorem isActive_modifySubscription (hchange : ∀ subscription, (change subscription).active =
    subscription.active) (hub : Hub π) (serial other : Nat) :
    (hub.modifySubscription serial change).isActive other = hub.isActive other := by
  rw [isActive, getElem?_modifySubscription, Option.any_map, isActive]
  congr 1
  funext subscription
  by_cases h : serial = other
  · simp [h, hchange]
  · simp [h]

end Modify

/-! ### Silencing -/

@[simp] theorem length_cancel (hub : Hub π) (serial : Nat) :
    (hub.cancel serial).subscriptions.length = hub.subscriptions.length :=
  length_modifySubscription hub serial

@[simp] theorem terms?_cancel (hub : Hub π) (serial other : Nat) :
    (hub.cancel serial).terms? other = hub.terms? other := by
  apply terms?_modifySubscription
  intro subscription
  rfl

@[simp] theorem isActive_cancel (hub : Hub π) (serial other : Nat) :
    (hub.cancel serial).isActive other = (hub.isActive other && other != serial) := by
  rw [isActive, cancel, getElem?_modifySubscription, Option.any_map, isActive]
  cases hub.subscriptions[other]? with
  | none => rfl
  | some subscription =>
      by_cases h : serial = other
      · simp [h]
      · simp [h, Ne.symm h]

/-- Withdrawing silences a subscription, and otherwise only changes lists. -/
theorem subscriptions_withdraw (hub : Hub π) (serial : Nat) :
    (hub.withdraw serial).subscriptions = (hub.cancel serial).subscriptions := by
  unfold withdraw
  split
  · next hnone =>
    rw [cancel, modifySubscription, List.modify_eq_self (List.getElem?_eq_none_iff.mp hnone)]
  · rfl

@[simp] theorem length_withdraw (hub : Hub π) (serial : Nat) :
    (hub.withdraw serial).subscriptions.length = hub.subscriptions.length := by
  rw [subscriptions_withdraw, length_cancel]

@[simp] theorem terms?_withdraw (hub : Hub π) (serial other : Nat) :
    (hub.withdraw serial).terms? other = hub.terms? other := by
  rw [terms?, subscriptions_withdraw]
  exact terms?_cancel hub serial other

@[simp] theorem isActive_withdraw (hub : Hub π) (serial other : Nat) :
    (hub.withdraw serial).isActive other = (hub.isActive other && other != serial) := by
  rw [isActive, subscriptions_withdraw]
  exact isActive_cancel hub serial other

@[simp] theorem failures_withdraw (hub : Hub π) (serial : Nat) :
    (hub.withdraw serial).failures = hub.failures := by
  unfold withdraw
  split <;> rfl

@[simp] theorem deliveries_withdraw (hub : Hub π) (serial : Nat) :
    (hub.withdraw serial).deliveries = hub.deliveries := by
  unfold withdraw
  split <;> rfl

@[simp] theorem labels_withdraw (hub : Hub π) (serial : Nat) :
    (hub.withdraw serial).labels = hub.labels := by
  unfold withdraw
  split <;> rfl

/-! ### Subscribing -/

section Subscribe

variable (hub : Hub π) (label event : String) (once : Bool) (handler : Handler (Action π))

@[simp] theorem length_subscribe :
    (hub.subscribe label event once handler).subscriptions.length =
      hub.subscriptions.length + 1 := by
  simp [subscribe]

theorem terms?_subscribe (serial : Nat) :
    (hub.subscribe label event once handler).terms? serial =
      if serial = hub.subscriptions.length
        then some ⟨label, event, once, handler.actions, handler.failure⟩
        else hub.terms? serial := by
  simp only [terms?, subscribe]
  split
  · next h => simp [h, Subscription.terms]
  · next h =>
    rcases Nat.lt_or_gt_of_ne h with hlt | hgt
    · rw [List.getElem?_append_left hlt]
    · rw [List.getElem?_eq_none (by simp; omega), List.getElem?_eq_none (by omega)]

theorem isActive_subscribe (serial : Nat) :
    (hub.subscribe label event once handler).isActive serial =
      (hub.isActive serial || serial == hub.subscriptions.length) := by
  simp only [isActive, subscribe]
  rcases Nat.lt_trichotomy serial hub.subscriptions.length with hlt | heq | hgt
  · rw [List.getElem?_append_left hlt]
    simp [Nat.ne_of_lt hlt]
  · simp [heq]
  · rw [List.getElem?_eq_none (by simp; omega), List.getElem?_eq_none (by omega)]
    simp [Nat.ne_of_gt hgt]

theorem subscribers_subscribe (name : String) :
    (hub.subscribe label event once handler).subscribers name =
      hub.subscribers name ++ if event = name then [hub.subscriptions.length] else [] := by
  by_cases h : event = name
  · subst h
    simp [subscribers, subscribe, setList]
  · rw [if_neg h, List.append_nil]
    simp only [subscribers, subscribe]
    rw [lookup_setList_of_ne _ _ (Ne.symm h)]

end Subscribe

/-! ## Lists in order -/

/-- Every list of the hub belongs to one event, is not empty, and holds subscriptions to that
event, each once; labels name subscriptions. -/
structure InOrder (hub : Hub π) : Prop where
  nodup_names : (hub.lists.map Prod.fst).Nodup
  ne_nil : ∀ entry ∈ hub.lists, entry.2 ≠ []
  nodup : ∀ entry ∈ hub.lists, entry.2.Nodup
  event_eq : ∀ entry ∈ hub.lists, ∀ serial ∈ entry.2,
    (hub.terms? serial).map Terms.event = some entry.1
  label_lt : ∀ entry ∈ hub.labels, entry.2 < hub.subscriptions.length

theorem inOrder_empty : InOrder ({} : Hub π) := by
  constructor <;> simp

theorem lookup_eq_some_of_mem {lists : List (String × List Nat)} {entry : String × List Nat}
    (hnames : (lists.map Prod.fst).Nodup) (hentry : entry ∈ lists) :
    lists.lookup entry.1 = some entry.2 := by
  induction lists with
  | nil => cases hentry
  | cons first rest ih =>
      rw [List.map_cons, List.nodup_cons] at hnames
      rcases List.mem_cons.mp hentry with rfl | hrest
      · rw [List.lookup_cons, beq_self_eq_true]
      · have hne : (entry.1 == first.1) = false := by
          rw [beq_eq_false_iff_ne]
          intro heq
          exact hnames.1 (heq ▸ List.mem_map_of_mem hrest)
        rw [List.lookup_cons, hne]
        exact ih hnames.2 hrest

/-- A list is the list of its event. -/
theorem InOrder.subscribers_eq (h : hub.InOrder) {entry : String × List Nat}
    (hentry : entry ∈ hub.lists) : hub.subscribers entry.1 = entry.2 := by
  rw [subscribers, lookup_eq_some_of_mem h.nodup_names hentry, Option.getD_some]

theorem mem_lists_of_subscribers_ne_nil {name : String} (h : hub.subscribers name ≠ []) :
    (name, hub.subscribers name) ∈ hub.lists := by
  unfold subscribers at h ⊢
  cases hlookup : hub.lists.lookup name with
  | none => simp [hlookup] at h
  | some serials =>
      obtain ⟨before, after, hsplit, -⟩ := List.lookup_eq_some_iff.mp hlookup
      simp [hsplit]

theorem mem_lists_of_mem_subscribers {name : String} {serial : Nat}
    (h : serial ∈ hub.subscribers name) : (name, hub.subscribers name) ∈ hub.lists :=
  mem_lists_of_subscribers_ne_nil (List.ne_nil_of_mem h)

theorem InOrder.nodup_subscribers (h : hub.InOrder) (name : String) :
    (hub.subscribers name).Nodup := by
  by_cases hnil : hub.subscribers name = []
  · simp [hnil]
  · exact h.nodup _ (mem_lists_of_subscribers_ne_nil hnil)

theorem InOrder.event_eq_of_mem (h : hub.InOrder) {name : String} {serial : Nat}
    (hserial : serial ∈ hub.subscribers name) :
    (hub.terms? serial).map Terms.event = some name :=
  h.event_eq _ (mem_lists_of_mem_subscribers hserial) serial hserial

theorem InOrder.lt_length_of_mem (h : hub.InOrder) {name : String} {serial : Nat}
    (hserial : serial ∈ hub.subscribers name) : serial < hub.subscriptions.length := by
  obtain ⟨terms, hterms, -⟩ := Option.map_eq_some_iff.mp (h.event_eq_of_mem hserial)
  exact lt_length_of_terms?_eq_some hterms

/-- No subscription stands in two places. -/
theorem InOrder.nodup_flatMap (h : hub.InOrder) : (hub.lists.flatMap Prod.snd).Nodup := by
  rw [List.nodup_flatMap]
  refine ⟨h.nodup, ?_⟩
  have hnames : hub.lists.Pairwise fun first second => first.1 ≠ second.1 :=
    List.pairwise_map.mp h.nodup_names
  refine hnames.imp_of_mem ?_
  intro first second hfirst hsecond hne serial hserial hother
  -- a subscription is to one event only
  have hevent := (h.event_eq first hfirst serial hserial).symm.trans
    (h.event_eq second hsecond serial hother)
  exact hne (Option.some.inj hevent)

theorem InOrder.lt_length_of_lookup (h : hub.InOrder) {label : String} {serial : Nat}
    (hlabel : hub.labels.lookup label = some serial) : serial < hub.subscriptions.length := by
  obtain ⟨before, after, hsplit, -⟩ := List.lookup_eq_some_iff.mp hlabel
  exact h.label_lt (label, serial) (by simp [hsplit])

/-! ### Setting a list -/

section SetList

variable {lists : List (String × List Nat)} {event : String} {serials : List Nat}

theorem mem_setList {entry : String × List Nat} (h : entry ∈ setList lists event serials) :
    entry ∈ lists ∨ (entry = (event, serials) ∧ serials ≠ []) := by
  unfold setList at h
  split at h
  · exact .inl (List.mem_of_mem_filter h)
  · next hne =>
    rcases List.mem_cons.mp h with rfl | hrest
    · exact .inr ⟨rfl, hne⟩
    · exact .inl (List.mem_of_mem_filter hrest)

theorem nodup_names_setList (h : (lists.map Prod.fst).Nodup) :
    ((setList lists event serials).map Prod.fst).Nodup := by
  have hothers : ((lists.filter fun entry => entry.1 != event).map Prod.fst).Nodup :=
    h.sublist (List.filter_sublist.map Prod.fst)
  unfold setList
  split
  · exact hothers
  · rw [List.map_cons, List.nodup_cons]
    refine ⟨?_, hothers⟩
    intro hmem
    obtain ⟨entry, hentry, hname⟩ := List.mem_map.mp hmem
    simp [hname] at hentry

theorem lookup_setList_self : ((setList lists event serials).lookup event).getD [] = serials := by
  unfold setList
  split
  · next hnil =>
    have habsent : (lists.filter fun entry => entry.1 != event).lookup event = none := by
      rw [List.lookup_eq_none_iff]
      intro entry hentry
      have hne : entry.1 ≠ event := by simpa using (List.mem_filter.mp hentry).2
      simpa using Ne.symm hne
    simp [habsent, hnil]
  · simp

end SetList

/-! ### Operations keep the lists in order -/

theorem InOrder.subscribe (h : hub.InOrder) (label event : String) (once : Bool)
    (handler : Handler (Action π)) : (hub.subscribe label event once handler).InOrder := by
  -- the terms of the others stay
  have hold : ∀ serial < hub.subscriptions.length,
      (hub.subscribe label event once handler).terms? serial = hub.terms? serial := by
    intro serial hserial
    rw [terms?_subscribe, if_neg (Nat.ne_of_lt hserial)]
  constructor
  · exact nodup_names_setList h.nodup_names
  · intro entry hentry
    rcases mem_setList hentry with hmem | ⟨rfl, hne⟩
    · exact h.ne_nil entry hmem
    · exact hne
  · intro entry hentry
    rcases mem_setList hentry with hmem | ⟨rfl, -⟩
    · exact h.nodup entry hmem
    · rw [List.nodup_append]
      refine ⟨h.nodup_subscribers event, List.nodup_singleton _, ?_⟩
      intro serial hserial other hother
      -- the new number is behind all others
      have hlt := h.lt_length_of_mem hserial
      rw [List.mem_singleton.mp hother]
      exact Nat.ne_of_lt hlt
  · intro entry hentry serial hserial
    rcases mem_setList hentry with hmem | ⟨rfl, -⟩
    · have hevent := h.event_eq entry hmem serial hserial
      obtain ⟨terms, hterms, -⟩ := Option.map_eq_some_iff.mp hevent
      rw [hold serial (lt_length_of_terms?_eq_some hterms), hevent]
    · rcases List.mem_append.mp hserial with hbefore | hnew
      · rw [hold serial (h.lt_length_of_mem hbefore), h.event_eq_of_mem hbefore]
      · rw [List.mem_singleton.mp hnew, terms?_subscribe, if_pos rfl]
        rfl
  · intro entry hentry
    rw [length_subscribe]
    rcases List.mem_cons.mp hentry with rfl | hrest
    · exact Nat.lt_succ_self _
    · exact Nat.lt_succ_of_lt (h.label_lt entry (List.mem_of_mem_filter hrest))

/-- Only the lists, the terms and the labels count. -/
theorem InOrder.congr {later : Hub π} (h : hub.InOrder) (hlists : later.lists = hub.lists)
    (hterms : later.terms? = hub.terms?) (hlabels : later.labels = hub.labels)
    (hlength : later.subscriptions.length = hub.subscriptions.length) : later.InOrder := by
  constructor
  · rw [hlists]
    exact h.nodup_names
  · rw [hlists]
    exact h.ne_nil
  · rw [hlists]
    exact h.nodup
  · rw [hlists, hterms]
    exact h.event_eq
  · rw [hlabels, hlength]
    exact h.label_lt

theorem InOrder.cancel (h : hub.InOrder) (serial : Nat) : (hub.cancel serial).InOrder :=
  h.congr rfl (funext fun other => terms?_cancel hub serial other) rfl (length_cancel hub serial)

theorem InOrder.withdraw (h : hub.InOrder) (serial : Nat) : (hub.withdraw serial).InOrder := by
  unfold Hub.withdraw
  split
  · exact h
  next subscription hsubscription =>
  have hterms : ∀ other, (hub.cancel serial).terms? other = hub.terms? other :=
    fun other => terms?_cancel hub serial other
  constructor
  · exact nodup_names_setList h.nodup_names
  · intro entry hentry
    rcases mem_setList hentry with hmem | ⟨rfl, hne⟩
    · exact h.ne_nil entry hmem
    · exact hne
  · intro entry hentry
    rcases mem_setList hentry with hmem | ⟨rfl, -⟩
    · exact h.nodup entry hmem
    · exact (h.nodup_subscribers _).filter _
  · intro entry hentry other hother
    refine (congrArg (Option.map Terms.event) (hterms other)).trans ?_
    rcases mem_setList hentry with hmem | ⟨rfl, -⟩
    · exact h.event_eq entry hmem other hother
    · exact h.event_eq_of_mem (List.mem_of_mem_filter hother)
  · exact (h.cancel serial).label_lt

theorem InOrder.cleared (h : hub.InOrder) : hub.cleared.InOrder := by
  constructor
  · exact List.nodup_nil
  · simp [Hub.cleared]
  · simp [Hub.cleared]
  · simp [Hub.cleared]
  · exact h.label_lt

/-- Withdrawing takes a subscription off every list. -/
theorem InOrder.subscribers_withdraw (h : hub.InOrder) (serial : Nat) (name : String) :
    (hub.withdraw serial).subscribers name = (hub.subscribers name).filter (· != serial) := by
  unfold Hub.withdraw
  split
  · next hnone =>
    refine (List.filter_eq_self.mpr fun other hother => ?_).symm
    have hlt := h.lt_length_of_mem hother
    have hle := List.getElem?_eq_none_iff.mp hnone
    simp only [bne_iff_ne]
    omega
  next subscription hsubscription =>
  by_cases hname : name = subscription.event
  · subst hname
    exact lookup_setList_self
  · -- a subscription is on the list of its own event only
    have hother : ∀ other ∈ hub.subscribers name, other ≠ serial := by
      rintro other hmem rfl
      have hevent := h.event_eq_of_mem hmem
      simp only [terms?, hsubscription, Option.map_some, Subscription.terms,
        Option.some.injEq] at hevent
      exact hname hevent.symm
    have hself : (hub.subscribers name).filter (· != serial) = hub.subscribers name :=
      List.filter_eq_self.mpr fun other hmem => by simpa using hother other hmem
    rw [hself]
    exact congrArg (Option.getD · []) (lookup_setList_of_ne hub.lists _ hname)

/-! ### Withdrawing several -/

theorem InOrder.foldl_withdraw (h : hub.InOrder) (serials : List Nat) :
    (serials.foldl Hub.withdraw hub).InOrder := by
  induction serials generalizing hub with
  | nil => exact h
  | cons serial rest ih => exact ih (h.withdraw serial)

theorem InOrder.subscribers_foldl_withdraw (h : hub.InOrder) (serials : List Nat)
    (name : String) :
    (serials.foldl Hub.withdraw hub).subscribers name =
      (hub.subscribers name).filter (· ∉ serials) := by
  induction serials generalizing hub with
  | nil => simp
  | cons serial rest ih =>
      rw [List.foldl_cons, ih (h.withdraw serial), h.subscribers_withdraw, List.filter_filter]
      refine List.filter_congr fun other _ => ?_
      by_cases heq : other = serial <;> simp [heq]

@[simp] theorem length_foldl_withdraw (hub : Hub π) (serials : List Nat) :
    (serials.foldl Hub.withdraw hub).subscriptions.length = hub.subscriptions.length := by
  induction serials generalizing hub with
  | nil => rfl
  | cons serial rest ih => rw [List.foldl_cons, ih, length_withdraw]

@[simp] theorem terms?_foldl_withdraw (hub : Hub π) (serials : List Nat) (other : Nat) :
    (serials.foldl Hub.withdraw hub).terms? other = hub.terms? other := by
  induction serials generalizing hub with
  | nil => rfl
  | cons serial rest ih => rw [List.foldl_cons, ih, terms?_withdraw]

@[simp] theorem isActive_foldl_withdraw (hub : Hub π) (serials : List Nat) (other : Nat) :
    (serials.foldl Hub.withdraw hub).isActive other =
      (hub.isActive other && decide (other ∉ serials)) := by
  induction serials generalizing hub with
  | nil => simp
  | cons serial rest ih =>
      rw [List.foldl_cons, ih, isActive_withdraw, Bool.and_assoc]
      congr 1
      by_cases heq : other = serial <;> simp [heq]

@[simp] theorem failures_foldl_withdraw (hub : Hub π) (serials : List Nat) :
    (serials.foldl Hub.withdraw hub).failures = hub.failures := by
  induction serials generalizing hub with
  | nil => rfl
  | cons serial rest ih => rw [List.foldl_cons, ih, failures_withdraw]

@[simp] theorem deliveries_foldl_withdraw (hub : Hub π) (serials : List Nat) :
    (serials.foldl Hub.withdraw hub).deliveries = hub.deliveries := by
  induction serials generalizing hub with
  | nil => rfl
  | cons serial rest ih => rw [List.foldl_cons, ih, deliveries_withdraw]

end Collate.Hub
