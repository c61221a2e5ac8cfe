/-!
# Inquiries

A sort knows nothing about its items but the answers it gets to questions of one
form: does this item come before that one?  An inquiry is such a computation.  It
is either done, or asks a question and goes on with the answer.

As an inquiry, a sort says which questions it asks and in which order, without
saying how they are answered: the answers may be inconsistent, may be drawn at
random, may be reported or refused.  `Inquiry.run` answers them in any monad.
-/

namespace Collate

/-- A computation with a result in `β` that asks which of two items in `α` comes
first. -/
inductive Inquiry (α β : Type) where
  | done (result : β)
  /-- Asks whether `x` comes before `y`. -/
  | ask (x y : α) (next : Bool → Inquiry α β)

namespace Inquiry

variable {α β γ : Type}

/-- Goes on with the result of an inquiry. -/
def bind : Inquiry α β → (β → Inquiry α γ) → Inquiry α γ
  | done result, next => next result
  | ask x y following, next => ask x y fun answer => (following answer).bind next

/-- Changes the result of an inquiry. -/
def map (f : β → γ) : Inquiry α β → Inquiry α γ
  | done result => done (f result)
  | ask x y following => ask x y fun answer => (following answer).map f

/-- The question whether `x` comes before `y`. -/
def comesBefore (x y : α) : Inquiry α Bool := ask x y done

/-- Answers the questions of an inquiry one after the other. -/
def run {m : Type → Type} [Monad m] (answer : α → α → m Bool) : Inquiry α β → m β
  | done result => return result
  | ask x y next => do (next (← answer x y)).run answer

/-- The result of an inquiry whose questions are answered by a function. -/
def answeredBy (answer : α → α → Bool) : Inquiry α β → β
  | done result => result
  | ask x y next => (next (answer x y)).answeredBy answer

@[simp] theorem answeredBy_done (answer : α → α → Bool) (result : β) :
    (done result : Inquiry α β).answeredBy answer = result := rfl

@[simp] theorem answeredBy_ask (answer : α → α → Bool) (x y : α) (next : Bool → Inquiry α β) :
    (ask x y next).answeredBy answer = (next (answer x y)).answeredBy answer := rfl

@[simp] theorem answeredBy_bind (answer : α → α → Bool) (inquiry : Inquiry α β)
    (next : β → Inquiry α γ) :
    (inquiry.bind next).answeredBy answer =
      (next (inquiry.answeredBy answer)).answeredBy answer := by
  induction inquiry with
  | done result => rfl
  | ask x y following ih => exact ih (answer x y)

@[simp] theorem answeredBy_map (answer : α → α → Bool) (f : β → γ) (inquiry : Inquiry α β) :
    (inquiry.map f).answeredBy answer = f (inquiry.answeredBy answer) := by
  induction inquiry with
  | done result => rfl
  | ask x y following ih => exact ih (answer x y)

end Inquiry

end Collate
