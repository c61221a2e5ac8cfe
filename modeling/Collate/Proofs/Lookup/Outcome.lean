import Collate.Ordering.Inquiry
import Collate.Proofs.Lookup.Returns
import Collate.Proofs.Ordering.Questions

/-!
# What a computation that reports comes to

The outcome of an inquiry is that of the same inquiry without any reports
(`concludes_run`), and that is the result its answers lead to, or the failure of one of its
questions (`run_eq_ok_or_error`).  Answers may also depend on what was reported, or be drawn
from a state; there is a result all the same if none of them fails (`exists_run`).
-/

namespace Collate

/-! ## Inquiries -/

section Inquiry

variable {α β σ : Type} {among : α → Prop} {post : β → Prop} {inquiry : Inquiry α β}
  {settled : α → α → Except Failure Bool}

/-- Reports made on the way do not matter for what an inquiry comes to. -/
theorem concludes_run {outlet : Outlet} {answer : α → α → StateT σ Reporting Bool} {state : σ}
    (h : inquiry.AsksOnly among post)
    (hanswer : ∀ x y, among x → among y →
      (answer x y state).Concludes outlet ((settled x y).map (·, state))) :
    (inquiry.run answer state).Concludes outlet ((inquiry.run settled).map (·, state)) := by
  induction inquiry with
  | done result => exact Reporting.concludes_pure _
  | ask x y next ih =>
      obtain ⟨hx, hy, hnext⟩ := h
      have hstep : ((Inquiry.ask x y next).run settled).map (·, state) =
          (settled x y).map (·, state) >>= fun answered =>
            ((next answered.1).run settled).map (·, state) := by
        show (settled x y >>= fun answered => (next answered).run settled).map (·, state) = _
        cases settled x y <;> rfl
      rw [hstep]
      refine (hanswer x y hx hy).bind fun answered hanswered => ?_
      -- the state is the same after the answer
      have hstate : answered.2 = state := by
        cases hsettled : settled x y with
        | error failure =>
            rw [hsettled] at hanswered
            cases hanswered
        | ok answer =>
            rw [hsettled] at hanswered
            cases hanswered
            rfl
      obtain ⟨answered, state'⟩ := answered
      cases hstate
      exact ih answered (hnext answered)

/-- Whatever reports, failures and states there are, a result is one that the inquiry may
have. -/
theorem post_of_run {answer : α → α → StateT σ Reporting Bool} {state state' : σ}
    {bulletin later : Bulletin} {result : β} (h : inquiry.AsksOnly among post)
    (hrun : inquiry.run answer state bulletin = (.ok (result, state'), later)) : post result := by
  induction inquiry generalizing state bulletin with
  | done result' =>
      cases hrun
      exact h
  | ask x y next ih =>
      have hstep : (answer x y state >>= fun answered =>
          (next answered.1).run answer answered.2) bulletin = (.ok (result, state'), later) := hrun
      rw [bind_apply] at hstep
      cases hanswer : answer x y state bulletin with
      | mk outcome between =>
        rw [hanswer] at hstep
        cases outcome with
        | error failure => cases hstep
        | ok answered => exact ih answered.1 (h.2.2 answered.1) hstep

/-- If every question is answered, and answering keeps some invariant of the state and of what
was reported, the inquiry has a result. -/
theorem exists_run {answer : α → α → StateT σ Reporting Bool} {ready : σ → Bulletin → Prop}
    {state : σ} {bulletin : Bulletin} (h : inquiry.AsksOnly among post)
    (hanswer : ∀ x y state bulletin, among x → among y → ready state bulletin →
      ∃ reply state' later, answer x y state bulletin = (.ok (reply, state'), later) ∧
        ready state' later)
    (hready : ready state bulletin) :
    ∃ result state' later, inquiry.run answer state bulletin = (.ok (result, state'), later) ∧
      post result ∧ ready state' later := by
  induction inquiry generalizing state bulletin with
  | done result => exact ⟨result, state, bulletin, rfl, h, hready⟩
  | ask x y next ih =>
      obtain ⟨hx, hy, hnext⟩ := h
      obtain ⟨reply, between, later, hreply, hready'⟩ :=
        hanswer x y state bulletin hx hy hready
      have hstep : (Inquiry.ask x y next).run answer state bulletin =
          (answer x y state >>= fun answered =>
            (next answered.1).run answer answered.2) bulletin := rfl
      rw [hstep, bind_apply, hreply]
      exact ih reply (hnext reply) hready'

/-- Answers without their failures, which count as no. -/
def affirmed (settled : α → α → Except Failure Bool) (x y : α) : Bool :=
  (settled x y).toOption.getD false

/-- An inquiry comes to the result that its answers lead to, or fails as one of its
questions does. -/
theorem run_eq_ok_or_error (h : inquiry.AsksOnly among post) :
    inquiry.run settled = .ok (inquiry.answeredBy (affirmed settled)) ∨
      ∃ x y failure, among x ∧ among y ∧ settled x y = .error failure ∧
        inquiry.run settled = .error failure := by
  induction inquiry with
  | done result => exact .inl rfl
  | ask x y next ih =>
      obtain ⟨hx, hy, hnext⟩ := h
      have hrun : (Inquiry.ask x y next).run settled =
          settled x y >>= fun answer => (next answer).run settled := rfl
      cases hsettled : settled x y with
      | error failure =>
          rw [hsettled] at hrun
          exact .inr ⟨x, y, failure, hx, hy, hsettled, hrun⟩
      | ok answer =>
          have hanswer : affirmed settled x y = answer := by
            rw [affirmed, hsettled]
            rfl
          rw [hsettled] at hrun
          rw [hrun, Inquiry.answeredBy_ask, hanswer]
          exact ih answer (hnext answer)

end Inquiry

end Collate
