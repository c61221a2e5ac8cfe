import Collate.Ordering.Inquiry

/-!
# The questions of an inquiry

`Inquiry.AsksOnly` says of an inquiry which items it may ask about and what holds of its
result, whatever the answers are.  Such an inquiry depends on its answers to those
questions alone, in whichever way it gets them.
-/

namespace Collate.Inquiry

variable {α β γ : Type} {among : α → Prop}

/-- The inquiry asks about certain items only and, whatever the answers are, has a
result as described. -/
def AsksOnly (among : α → Prop) (post : β → Prop) : Inquiry α β → Prop
  | done result => post result
  | ask x y next => among x ∧ among y ∧ ∀ answer, (next answer).AsksOnly among post

variable {post : β → Prop} {inquiry : Inquiry α β}

theorem AsksOnly.bind {next : β → Inquiry α γ} {after : γ → Prop}
    (h : inquiry.AsksOnly among post)
    (hnext : ∀ result, post result → (next result).AsksOnly among after) :
    (inquiry.bind next).AsksOnly among after := by
  induction inquiry with
  | done result => exact hnext result h
  | ask x y following ih =>
      obtain ⟨hx, hy, hfollowing⟩ := h
      exact ⟨hx, hy, fun answer => ih answer (hfollowing answer)⟩

theorem AsksOnly.map {f : β → γ} {after : γ → Prop} (h : inquiry.AsksOnly among post)
    (hf : ∀ result, post result → after (f result)) : (inquiry.map f).AsksOnly among after := by
  induction inquiry with
  | done result => exact hf result h
  | ask x y following ih =>
      obtain ⟨hx, hy, hfollowing⟩ := h
      exact ⟨hx, hy, fun answer => ih answer (hfollowing answer)⟩

theorem AsksOnly.mono {after : β → Prop} (h : inquiry.AsksOnly among post)
    (hpost : ∀ result, post result → after result) : inquiry.AsksOnly among after := by
  induction inquiry with
  | done result => exact hpost result h
  | ask x y following ih =>
      obtain ⟨hx, hy, hfollowing⟩ := h
      exact ⟨hx, hy, fun answer => ih answer (hfollowing answer)⟩

theorem asksOnly_comesBefore {x y : α} (hx : among x) (hy : among y) :
    (comesBefore x y).AsksOnly among fun _ => True := ⟨hx, hy, fun _ => trivial⟩

/-- Functions that answer alike on the items in question have the same result. -/
theorem AsksOnly.answeredBy_congr {answer answer' : α → α → Bool}
    (h : inquiry.AsksOnly among post)
    (hsame : ∀ x y, among x → among y → answer x y = answer' x y) :
    inquiry.answeredBy answer = inquiry.answeredBy answer' := by
  induction inquiry with
  | done result => rfl
  | ask x y following ih =>
      obtain ⟨hx, hy, hfollowing⟩ := h
      rw [answeredBy_ask, answeredBy_ask, hsame x y hx hy]
      exact ih _ (hfollowing _)

theorem AsksOnly.answeredBy (answer : α → α → Bool) (h : inquiry.AsksOnly among post) :
    post (inquiry.answeredBy answer) := by
  induction inquiry with
  | done result => exact h
  | ask x y following ih => exact ih _ (h.2.2 _)

end Collate.Inquiry
