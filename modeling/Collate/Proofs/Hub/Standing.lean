import Mathlib.Data.List.DropRight
import Collate.Proofs.Hub.Course

/-!
# The standing of subscriptions

What has become of a subscription can be read off what has happened.  It is active as long as
nothing has silenced it: nobody has withdrawn or cancelled it, and no publish that it was served
by has come to its end (`Hub.Course.isActive_eq`).  It stands on the list of its event if it was
made after the last clearing and nothing has removed it (`Hub.Course.subscribers_eq`).

## Strategy

Each view of a hub has one equation for a happening and one for a course.  The equation for a
course follows by induction, with the last happening split off.
-/

namespace Collate.Hub

variable {π β : Type}

/-! ## What happenings are about -/

/-- From now on the handler of the subscription is not called any more. -/
def Happening.silences (serial : Nat) : Happening π → Bool
  | .withdrawn other => other == serial
  | .cancelled other => other == serial
  | .finished _ served => served.contains serial
  | _ => false

/-- The subscription is taken off its list. -/
def Happening.removes (serial : Nat) : Happening π → Bool
  | .withdrawn other => other == serial
  | .finished _ served => served.contains serial
  | _ => false

/-- All lists are emptied. -/
def Happening.clears : Happening π → Bool
  | .cleared => true
  | _ => false

/-- The subscription to this event that is made. -/
def Happening.made? (name : String) : Happening π → Option Nat
  | .subscribed serial event _ => if event = name then some serial else none
  | _ => none

/-- The delivery that is recorded, with the labels of this hub. -/
def Happening.delivery? (hub : Hub π) : Happening π → Option (String × Event π)
  | .called serial event => (hub.terms? serial).map fun terms => (terms.label, event)
  | _ => none

/-- The failure that is kept. -/
def Happening.failure? : Happening π → Option (Event π × Failure)
  | .failed _ event failure => some (event, failure)
  | _ => none

theorem filterMap_concat (f : Happening π → Option β) (history : List (Happening π))
    (happening : Happening π) :
    (history ++ [happening]).filterMap f = history.filterMap f ++ (f happening).toList := by
  cases hf : f happening <;> simp [hf]

/-- What has happened since the last clearing. -/
def sinceCleared (history : List (Happening π)) : List (Happening π) :=
  history.rtakeWhile fun happening => !happening.clears

theorem sinceCleared_concat (history : List (Happening π)) (happening : Happening π) :
    sinceCleared (history ++ [happening]) =
      if happening.clears then [] else sinceCleared history ++ [happening] := by
  unfold sinceCleared
  rw [List.rtakeWhile_concat]
  cases happening.clears <;> rfl

/-- What is left of a list that is emptied whenever the hub is cleared and otherwise grows by
what happens. -/
def left (f : Happening π → Option β) (before : List β) (history : List (Happening π)) : List β :=
  (if history.any Happening.clears then [] else before) ++ (sinceCleared history).filterMap f

section Left

variable (f : Happening π → Option β) (before : List β)

@[simp] theorem left_nil : left f before [] = before := by
  simp [left, sinceCleared, List.rtakeWhile_nil]

theorem left_concat (history : List (Happening π)) (happening : Happening π) :
    left f before (history ++ [happening]) =
      if happening.clears then [] else left f before history ++ (f happening).toList := by
  unfold left
  rw [sinceCleared_concat]
  cases hclears : happening.clears with
  | true => simp [hclears]
  | false => simp [hclears, filterMap_concat, -List.filterMap_append]

theorem left_of_empty (history : List (Happening π)) :
    left f [] history = (sinceCleared history).filterMap f := by
  simp [left]

/-- Nothing is lost where nothing is cleared. -/
theorem left_of_forall {history : List (Happening π)}
    (h : ∀ happening ∈ history, happening.clears = false) :
    left f before history = before ++ history.filterMap f := by
  have hany : history.any Happening.clears = false := by simpa using h
  have hsince : sinceCleared history = history := by
    unfold sinceCleared
    rw [List.rtakeWhile_eq_self_iff]
    intro happening hmem
    simp [h happening hmem]
  rw [left, hany, hsince, if_neg Bool.false_ne_true]

end Left

section Step

variable {before after : Situation π} {happening : Happening π} {serial : Nat}

theorem Happening.silences_of_removes (h : happening.removes serial = true) :
    happening.silences serial = true := by
  cases happening with
  | withdrawn _ => exact h
  | finished _ _ => exact h
  | _ => cases h

/-- What is silenced was there before. -/
theorem Happens.lt_length_of_silences (h : Happens before happening after)
    (hbefore : before.InOrder) (hsilences : happening.silences serial = true) :
    serial < before.hub.subscriptions.length := by
  cases h with
  | withdrawn _ hserial =>
      obtain rfl := beq_iff_eq.mp hsilences
      exact hserial
  | cancelled _ hserial =>
      obtain rfl := beq_iff_eq.mp hsilences
      exact hserial
  | @finished hub rounds event served =>
      have hserved : serial ∈ served := List.contains_iff_mem.mp hsilences
      have hround := hbefore.rounds ⟨event, [], served, none⟩ (by simp)
      exact hround.lt_length (by simpa using hserved)
  | _ => cases hsilences

theorem Happens.isActive_eq (h : Happens before happening after)
    (hserial : serial < before.hub.subscriptions.length) :
    after.hub.isActive serial = (before.hub.isActive serial && !happening.silences serial) := by
  cases h with
  | subscribed _ label event once handler =>
      rw [isActive_subscribe]
      simp [Happening.silences, Nat.ne_of_lt hserial]
  | withdrawn _ _ =>
      rw [isActive_withdraw]
      simp [Happening.silences, bne, BEq.comm]
  | cancelled _ _ =>
      rw [isActive_cancel]
      simp [Happening.silences, bne, BEq.comm]
  | finished => simp [Happening.silences]
  | called _ _ => simp [Happening.silences]
  | _ => exact (Bool.and_true _).symm

theorem Happens.subscribers_eq (h : Happens before happening after) (hbefore : before.hub.InOrder)
    (name : String) :
    after.hub.subscribers name =
      if happening.clears then []
      else (before.hub.subscribers name ++ (happening.made? name).toList).filter fun serial =>
        !happening.removes serial := by
  cases h with
  | subscribed _ label event once handler =>
      rw [subscribers_subscribe]
      by_cases hname : event = name <;> simp [Happening.clears, Happening.made?,
        Happening.removes, hname]
  | withdrawn _ _ =>
      rw [hbefore.subscribers_withdraw]
      simp [Happening.clears, Happening.made?, Happening.removes, bne, BEq.comm]
  | finished =>
      rw [hbefore.subscribers_foldl_withdraw]
      simp [Happening.clears, Happening.made?, Happening.removes]
  | cleared _ => rfl
  | called _ _ => simp [Happening.clears, Happening.made?, Happening.removes]
  | failed _ =>
      simp [Happening.clears, Happening.made?, Happening.removes, withFailure, subscribers]
  | cancelled _ _ =>
      simp [Happening.clears, Happening.made?, Happening.removes, cancel, modifySubscription,
        subscribers]
  | _ => simp [Happening.clears, Happening.made?, Happening.removes]

/-- A subscription that is made gets the next number. -/
theorem Happens.eq_length_of_made? {name : String} (h : Happens before happening after)
    (hmade : happening.made? name = some serial) : serial = before.hub.subscriptions.length := by
  cases h with
  | subscribed _ label event once handler =>
      simp only [Happening.made?] at hmade
      split at hmade
      · exact (Option.some.inj hmade).symm
      · cases hmade
  | _ => cases hmade

theorem Happens.deliveries_eq (h : Happens before happening after) :
    after.hub.deliveries = before.hub.deliveries ++ (happening.delivery? before.hub).toList := by
  cases h with
  | @called hub rounds event serial waiting served subscription hfound hactive =>
      simp [Happening.delivery?, terms?_eq_of_getElem? hfound, Subscription.terms]
  | subscribed _ label event once handler => simp [Happening.delivery?, subscribe]
  | cleared _ => simp [Happening.delivery?, Hub.cleared]
  | failed _ => simp [Happening.delivery?, withFailure]
  | cancelled _ _ => simp [Happening.delivery?, cancel, modifySubscription]
  | _ => simp [Happening.delivery?]

theorem Happens.failures_eq (h : Happens before happening after) :
    after.hub.failures =
      if happening.clears then [] else before.hub.failures ++ happening.failure?.toList := by
  cases h with
  | subscribed _ label event once handler =>
      simp [Happening.failure?, Happening.clears, subscribe]
  | cleared _ => rfl
  | failed _ => simp [Happening.failure?, Happening.clears, withFailure]
  | cancelled _ _ =>
      simp [Happening.failure?, Happening.clears, cancel, modifySubscription]
  | _ => simp [Happening.failure?, Happening.clears]

end Step

/-! ## What courses come to -/

section Run

variable {start last : Situation π} {history : List (Happening π)} {serial : Nat}

theorem Course.lt_length_of_silences (h : Course start history last) (hstart : start.InOrder)
    (hsilenced : ∃ happening ∈ history, happening.silences serial = true) :
    serial < last.hub.subscriptions.length := by
  obtain ⟨happening, hmem, hsilences⟩ := hsilenced
  obtain ⟨before, after, between, next, rfl, hbefore, hstep, hafter⟩ := h.exists_of_mem hmem
  calc
    serial < between.hub.subscriptions.length :=
      hstep.lt_length_of_silences (hbefore.inOrder_situation hstart) hsilences
    _ ≤ next.hub.subscriptions.length := hstep.length_le
    _ ≤ last.hub.subscriptions.length := hafter.length_le

/-- A subscription is active as long as nothing has silenced it. -/
theorem Course.isActive_eq (h : Course start history last)
    (hserial : serial < start.hub.subscriptions.length) :
    last.hub.isActive serial =
      (start.hub.isActive serial && !history.any (Happening.silences serial)) := by
  induction h with
  | nil => simp
  | snoc hbefore hstep ih =>
      rw [hstep.isActive_eq (Nat.lt_of_lt_of_le hserial hbefore.length_le), ih]
      simp [Bool.and_assoc]

/-- The subscribers of an event are those from before and those made, from the last clearing on,
without those removed. -/
theorem Course.subscribers_eq (h : Course start history last) (hstart : start.InOrder)
    (name : String) :
    last.hub.subscribers name =
      (left (Happening.made? name) (start.hub.subscribers name) history).filter fun serial =>
        !history.any (Happening.removes serial) := by
  induction h with
  | nil => simp
  | @snoc history happening between last hbefore hstep ih =>
      rw [hstep.subscribers_eq (hbefore.inOrder hstart.hub), left_concat]
      cases hclears : happening.clears with
      | true => rfl
      | false =>
          -- what is made now was not removed before
          have hmade : (happening.made? name).toList.filter
              (fun serial => !history.any (Happening.removes serial)) =
              (happening.made? name).toList := by
            rw [List.filter_eq_self]
            intro serial hserial
            have hnew := hstep.eq_length_of_made? (Option.mem_toList.mp hserial)
            simp only [Bool.not_eq_true', List.any_eq_false]
            intro other hother hremoves
            have hlt := hbefore.lt_length_of_silences hstart
              ⟨other, hother, Happening.silences_of_removes hremoves⟩
            omega
          rw [if_neg Bool.false_ne_true, if_neg Bool.false_ne_true, ih, ← hmade,
            ← List.filter_append, List.filter_filter, hmade]
          refine List.filter_congr fun serial _ => ?_
          simp [Bool.and_comm]

theorem Course.lt_length_of_called (h : Course start history last) {event : Event π}
    (hcalled : .called serial event ∈ history) : serial < last.hub.subscriptions.length := by
  obtain ⟨before, after, between, next, rfl, -, hstep, hafter⟩ := h.exists_of_mem hcalled
  have hserial : serial < between.hub.subscriptions.length := by
    cases hstep with
    | called hfound _ => exact (List.getElem?_eq_some_iff.mp hfound).1
  calc
    serial < between.hub.subscriptions.length := hserial
    _ ≤ next.hub.subscriptions.length := hstep.length_le
    _ ≤ last.hub.subscriptions.length := hafter.length_le

/-- A subscription that is made is numbered behind those that were there before. -/
theorem Course.length_le_of_made (h : Course start history last) {name : String}
    (hmade : serial ∈ history.filterMap (Happening.made? name)) :
    start.hub.subscriptions.length ≤ serial ∧ serial < last.hub.subscriptions.length := by
  induction h with
  | nil => cases hmade
  | @snoc history happening between last hbefore hstep ih =>
      rw [filterMap_concat, List.mem_append, Option.mem_toList] at hmade
      rcases hmade with hin | hlast
      · exact ⟨(ih hin).1, Nat.lt_of_lt_of_le (ih hin).2 hstep.length_le⟩
      · have heq := hstep.eq_length_of_made? hlast
        have hle := hbefore.length_le
        have hlt : between.hub.subscriptions.length < last.hub.subscriptions.length := by
          cases hstep with
          | subscribed _ label event once handler => simp
          | _ => cases hlast
        omega

/-- Every call of a handler is a delivery, under the label of the subscription. -/
theorem Course.deliveries_eq (h : Course start history last) :
    last.hub.deliveries =
      start.hub.deliveries ++ history.filterMap (Happening.delivery? last.hub) := by
  induction h with
  | nil => simp
  | @snoc history happening between last hbefore hstep ih =>
      have hkept : ∀ serial < between.hub.subscriptions.length, last.hub.terms? serial =
          between.hub.terms? serial := fun serial hserial => hstep.terms?_eq hserial
      have hlabels : history.filterMap (Happening.delivery? last.hub) =
          history.filterMap (Happening.delivery? between.hub) := by
        refine List.filterMap_congr fun other hother => ?_
        cases other with
        | called serial event =>
            simp only [Happening.delivery?, hkept serial (hbefore.lt_length_of_called hother)]
        | _ => rfl
      have hlabel : happening.delivery? last.hub = happening.delivery? between.hub := by
        cases hstep with
        | called hfound _ => simp only [Happening.delivery?, terms?_begun]
        | _ => rfl
      rw [hstep.deliveries_eq, ih, filterMap_concat, hlabels, hlabel, List.append_assoc]

/-- Every failure of a handler is kept until the next clearing. -/
theorem Course.failures_eq (h : Course start history last) :
    last.hub.failures = left Happening.failure? start.hub.failures history := by
  induction h with
  | nil => simp
  | snoc _ hstep ih => rw [hstep.failures_eq, left_concat, ih]

end Run

/-! ## What does not come back -/

section Never

variable {start last : Situation π} {history : List (Happening π)} {serial : Nat}

/-- The handler of a subscription that is not active is not called. -/
theorem Course.not_called_of_not_active (h : Course start history last)
    (hserial : serial < start.hub.subscriptions.length)
    (hactive : start.hub.isActive serial = false) (event : Event π) :
    .called serial event ∉ history := by
  intro hcalled
  obtain ⟨before, after, between, next, rfl, hbefore, hstep, -⟩ := h.exists_of_mem hcalled
  have hstill : between.hub.isActive serial = true := by
    cases hstep with
    | called hfound hsubscription => simp [isActive, hfound, hsubscription]
  have hfirst := hbefore.isActive_of_isActive hserial hstill
  rw [hactive] at hfirst
  cases hfirst

/-- Once a subscription is silenced, its handler is not called any more. -/
theorem Course.not_called_of_silences {before after : List (Happening π)}
    {happening : Happening π} (h : Course start (before ++ happening :: after) last)
    (hstart : start.InOrder) (hsilences : happening.silences serial = true) (event : Event π) :
    .called serial event ∉ after := by
  obtain ⟨between, next, hbefore, hstep, hafter⟩ := h.exists_around
  have hserial := hstep.lt_length_of_silences (hbefore.inOrder_situation hstart) hsilences
  refine hafter.not_called_of_not_active (Nat.lt_of_lt_of_le hserial hstep.length_le) ?_ event
  rw [hstep.isActive_eq hserial, hsilences, Bool.not_true, Bool.and_false]

/-- Nothing puts a subscription on a list again. -/
theorem Course.mem_subscribers (h : Course start history last) (hstart : start.hub.InOrder)
    (hserial : serial < start.hub.subscriptions.length) {name : String}
    (hmem : serial ∈ last.hub.subscribers name) : serial ∈ start.hub.subscribers name := by
  induction h with
  | nil => exact hmem
  | @snoc history happening between last hbefore hstep ih =>
      rw [hstep.subscribers_eq (hbefore.inOrder hstart)] at hmem
      split at hmem
      · cases hmem
      · rcases List.mem_append.mp (List.mem_of_mem_filter hmem) with hold | hnew
        · exact ih hold
        · have heq := hstep.eq_length_of_made? (Option.mem_toList.mp hnew)
          have hle := hbefore.length_le
          omega

/-- A subscription that has been removed, or that was made before a clearing, is on no list. -/
theorem Course.not_mem_subscribers {before after : List (Happening π)} {happening : Happening π}
    (h : Course start (before ++ happening :: after) last) (hstart : start.InOrder)
    (hgone : happening.removes serial = true ∨
      happening.clears = true ∧ ∃ name, serial ∈ before.filterMap (Happening.made? name))
    (name : String) : serial ∉ last.hub.subscribers name := by
  obtain ⟨between, next, hbefore, hstep, hafter⟩ := h.exists_around
  have hbetween := hbefore.inOrder_situation hstart
  have hserial : serial < between.hub.subscriptions.length := by
    rcases hgone with hremoves | ⟨-, other, hmade⟩
    · exact hstep.lt_length_of_silences hbetween (Happening.silences_of_removes hremoves)
    · exact (hbefore.length_le_of_made hmade).2
  intro hmem
  have hnext := hafter.mem_subscribers (hstep.inOrder hbetween.hub)
    (Nat.lt_of_lt_of_le hserial hstep.length_le) hmem
  rw [hstep.subscribers_eq hbetween.hub] at hnext
  rcases hgone with hremoves | ⟨hclears, -⟩
  · split at hnext
    · cases hnext
    · simp [hremoves] at hnext
  · simp [hclears] at hnext

end Never

end Collate.Hub
