import Collate.Failure

/-!
# Computations that may fail

One step at a time: what a computation that may fail comes to, and how it acts on its state.
-/

namespace Collate

variable {ε σ β γ : Type}

theorem eq_ok_of_toOption {outcome : Except ε β} {result : β} (h : outcome.toOption = some result) :
    outcome = .ok result := by
  cases outcome with
  | error error => cases h
  | ok found => exact congrArg Except.ok (Option.some.inj h)

theorem exists_of_bind_eq_ok {outcome : Except ε β} {next : β → Except ε γ} {result : γ}
    (h : outcome.bind next = .ok result) :
    ∃ between, outcome = .ok between ∧ next between = .ok result := by
  cases outcome with
  | error error => cases h
  | ok between => exact ⟨between, rfl, h⟩

/-- Two steps fail as the first does, or as the second does with the result of the first. -/
theorem eq_error_of_bind {outcome : Except ε β} {next : β → Except ε γ} {error : ε}
    (h : outcome.bind next = .error error) :
    outcome = .error error ∨ ∃ between, outcome = .ok between ∧ next between = .error error := by
  cases outcome with
  | error first =>
      cases h
      exact .inl rfl
  | ok between => exact .inr ⟨between, rfl, h⟩

theorem exists_of_map_eq_ok {outcome : Except ε β} {f : β → γ} {result : γ}
    (h : outcome.map f = .ok result) : ∃ between, outcome = .ok between ∧ f between = result := by
  cases outcome with
  | error error => cases h
  | ok between => exact ⟨between, rfl, Except.ok.inj h⟩

/-- What fails on a member of a list fails on the list. -/
theorem exists_mapM_eq_error {f : β → Except ε γ} {items : List β}
    (h : ∃ item ∈ items, ∃ error, f item = .error error) :
    ∃ error, items.mapM f = .error error := by
  induction items with
  | nil =>
      obtain ⟨item, hitem, -⟩ := h
      cases hitem
  | cons first rest ih =>
      rw [List.mapM_cons]
      cases hfirst : f first with
      | error error => exact ⟨error, rfl⟩
      | ok found =>
          obtain ⟨item, hitem, error, herror⟩ := h
          rcases List.mem_cons.mp hitem with rfl | hrest
          · rw [hfirst] at herror
            cases herror
          · obtain ⟨later, hlater⟩ := ih ⟨item, hrest, error, herror⟩
            rw [hlater]
            exact ⟨later, rfl⟩

theorem bind_apply (action : ExceptT ε (StateM σ) β) (next : β → ExceptT ε (StateM σ) γ)
    (state : σ) :
    (action >>= next) state =
      match action state with
      | (.ok result, later) => next result later
      | (.error error, later) => (.error error, later) := by
  simp only [Bind.bind, ExceptT.bind, ExceptT.mk, StateT.bind]
  cases action state with
  | mk outcome later => cases outcome <;> rfl

theorem bind_pure_apply (action : ExceptT ε (StateM σ) β) (f : β → γ) (state : σ) :
    (action >>= fun result => pure (f result)) state =
      ((action state).1.map f, (action state).2) := by
  rw [bind_apply]
  cases action state with
  | mk outcome later => cases outcome <;> rfl

theorem tryCatch_apply (action : ExceptT ε (StateM σ) β) (handler : ε → ExceptT ε (StateM σ) β)
    (state : σ) :
    (tryCatch action handler) state =
      match action state with
      | (.ok result, later) => (.ok result, later)
      | (.error error, later) => handler error later := by
  simp only [tryCatch, tryCatchThe, MonadExceptOf.tryCatch, ExceptT.tryCatch, ExceptT.mk,
    Bind.bind, StateT.bind]
  cases action state with
  | mk outcome later => cases outcome <;> rfl

/-- If two steps give a result, so does each of them. -/
theorem exists_of_bind_apply_eq_ok {action : ExceptT ε (StateM σ) β}
    {next : β → ExceptT ε (StateM σ) γ} {state later : σ} {result : γ}
    (h : (action >>= next) state = (.ok result, later)) :
    ∃ between middle, action state = (.ok between, middle) ∧
      next between middle = (.ok result, later) := by
  rw [bind_apply] at h
  cases haction : action state with
  | mk outcome middle =>
    rw [haction] at h
    cases outcome with
    | error error => cases h
    | ok between => exact ⟨between, middle, rfl, h⟩

/-- A result was there at once, or a handler has given it. -/
theorem cases_of_tryCatch_apply_eq_ok {action : ExceptT ε (StateM σ) β}
    {handler : ε → ExceptT ε (StateM σ) β} {state later : σ} {result : β}
    (h : (tryCatch action handler) state = (.ok result, later)) :
    action state = (.ok result, later) ∨
      ∃ error middle, action state = (.error error, middle) ∧
        handler error middle = (.ok result, later) := by
  rw [tryCatch_apply] at h
  cases haction : action state with
  | mk outcome middle =>
    rw [haction] at h
    cases outcome with
    | error error => exact .inr ⟨error, middle, rfl, h⟩
    | ok between =>
        cases h
        exact .inl rfl

theorem pure_apply (result : β) (state : σ) :
    (pure result : ExceptT ε (StateM σ) β) state = (.ok result, state) := rfl

theorem get_apply (state : σ) : (get : ExceptT ε (StateM σ) σ) state = (.ok state, state) := rfl

theorem modify_apply (change : σ → σ) (state : σ) :
    (modify change : ExceptT ε (StateM σ) Unit) state = (.ok (), change state) := rfl

/-! ## Failures that do not occur -/

/-- Whether a failure is no interruption and can be put into words. -/
def Failure.isTellable (failure : Failure) : Bool :=
  !failure.isInterruption && failure.message.isOk

theorem Failure.isTellable_iff {failure : Failure} : failure.isTellable = true ↔
    failure.isInterruption = false ∧ ∃ reason, failure.message = .ok reason := by
  rw [isTellable, Bool.and_eq_true, Bool.not_eq_true']
  cases failure.message with
  | ok reason => simp [Except.isOk, Except.toBool]
  | error cause => simp [Except.isOk, Except.toBool]

section Outcome

variable {grave : Failure → Bool} {post : β → Prop} {after : γ → Prop} {outcome : Except Failure β}

/-- The outcome is such a result, or a failure that is not grave. -/
def Spared (grave : Failure → Bool) (post : β → Prop) : Except Failure β → Prop
  | .ok result => post result
  | .error failure => grave failure = false

/-- The outcome is such a result, or a failure that is no interruption. -/
abbrev Uninterrupted (post : β → Prop) : Except Failure β → Prop :=
  Spared Failure.isInterruption post

theorem Spared.bind {next : β → Except Failure γ} (h : Spared grave post outcome)
    (hnext : ∀ result, post result → Spared grave after (next result)) :
    Spared grave after (outcome.bind next) := by
  cases outcome with
  | ok result => exact hnext result h
  | error failure => exact h

theorem Spared.map {f : β → γ} (h : Spared grave post outcome)
    (hf : ∀ result, post result → after (f result)) : Spared grave after (outcome.map f) := by
  cases outcome with
  | ok result => exact hf result h
  | error failure => exact h

theorem Spared.mono {post' : β → Prop} (h : Spared grave post outcome)
    (hpost : ∀ result, post result → post' result) : Spared grave post' outcome := by
  cases outcome with
  | ok result => exact hpost result h
  | error failure => exact h

end Outcome

end Collate
