/-!
# Actions

Handles, files and overlays are values, and what is done to them is an action on a state: it gives
a value or fails with a cause, and a failed action keeps the state it reached.

* `Action σ ε α` is an action on a `σ` that gives an `α` or fails with an `ε`.
* `Action.zoom` runs an action on a part of the state.
* `Action.attempt` turns a failure into a value.
* `Action.perform` runs an action: `Action.perform_bind` takes a run apart, and
  `Action.perform_bind_ok` and `Action.perform_bind_inv` say what a run that ended must have done.
-/

namespace PartitionImage

/-- An action on a state of type `σ` that gives an `α` or fails with an `ε`.  A failure keeps the state that was
reached. -/
abbrev Action (σ ε α : Type) := ExceptT ε (StateM σ) α

variable {σ τ ε ε' α : Type}

/-- Runs a computation on the part of the state that `view` gives and `store` puts back. -/
def zoomState (view : σ → τ) (store : τ → σ → σ) (act : StateM τ α) : StateM σ α := fun state =>
  let (value, part) := act (view state)
  (value, store part state)

namespace Action

/-- Runs an action on the part of the state that `view` gives and `store` puts back; its failure
is passed on as `wrap` says. -/
def zoom (view : σ → τ) (store : τ → σ → σ) (wrap : ε → ε') (act : Action τ ε α) :
    Action σ ε' α :=
  ExceptT.mk do
    let result ← zoomState view store act.run
    return result.mapError wrap

/-- The action that gives `result`, and leaves the state. -/
def ofExcept (result : Except ε α) : Action σ ε α := ExceptT.mk (pure result)

/-- Runs an action and gives its result, whether a value or a failure. -/
def attempt (act : Action σ ε α) : Action σ ε' (Except ε α) := ExceptT.lift act.run

/-- Runs an action to its result and the state it leaves. -/
def perform (act : Action σ ε α) (state : σ) : Except ε α × σ := act.run.run state

/-! ### Failures passed on -/

theorem mapError_eq_ok_iff {wrap : ε → ε'} {result : Except ε α} {value : α} :
    result.mapError wrap = .ok value ↔ result = .ok value := by
  constructor
  · intro h
    cases result with
    | ok got =>
      cases h
      rfl
    | error error => cases h
  · intro h
    rw [h]
    rfl

theorem mapError_eq_error_iff {wrap : ε → ε'} {result : Except ε α} {error : ε'} :
    result.mapError wrap = .error error ↔ ∃ cause, result = .error cause ∧ wrap cause = error := by
  constructor
  · intro h
    cases result with
    | ok got => cases h
    | error cause =>
      cases h
      exact ⟨cause, rfl, rfl⟩
  · rintro ⟨cause, rfl, rfl⟩
    rfl

theorem toOption_mapError (wrap : ε → ε') (result : Except ε α) :
    (result.mapError wrap).toOption = result.toOption := by
  cases result with
  | ok got => rfl
  | error error => rfl

theorem toOption_eq_some_iff {result : Except ε α} {value : α} :
    result.toOption = some value ↔ result = .ok value := by
  cases result with
  | ok got => simp [Except.toOption]
  | error error => simp [Except.toOption]

/-! ### Running -/

section

variable {β : Type}

@[simp] theorem perform_pure (value : α) (state : σ) :
    perform (pure value : Action σ ε α) state = (.ok value, state) := rfl

@[simp] theorem perform_throw (error : ε) (state : σ) :
    perform (throw error : Action σ ε α) state = (.error error, state) := rfl

/-- A run goes on from the value and the state of its first part, and stops where that fails. -/
theorem perform_bind (act : Action σ ε α) (next : α → Action σ ε β) (state : σ) :
    perform (act >>= next) state
      = match perform act state with
        | (.ok value, reached) => perform (next value) reached
        | (.error error, reached) => (.error error, reached) := by
  show (ExceptT.bind act next).run.run state = _
  simp only [ExceptT.bind, ExceptT.run_mk, perform]
  show ExceptT.bindCont next (act.run.run state).1 (act.run.run state).2 = _
  rcases act.run.run state with ⟨result, reached⟩
  cases result <;> rfl

theorem perform_bind_ok {act : Action σ ε α} {next : α → Action σ ε β} {state reached : σ}
    {value : α} (h : perform act state = (.ok value, reached)) :
    perform (act >>= next) state = perform (next value) reached := by
  rw [perform_bind, h]

theorem perform_bind_error {act : Action σ ε α} {next : α → Action σ ε β} {state reached : σ}
    {error : ε} (h : perform act state = (.error error, reached)) :
    perform (act >>= next) state = (.error error, reached) := by
  rw [perform_bind, h]

theorem perform_bind_inv {act : Action σ ε α} {next : α → Action σ ε β} {state final : σ}
    {value : β} (h : perform (act >>= next) state = (.ok value, final)) :
    ∃ first reached, perform act state = (.ok first, reached)
      ∧ perform (next first) reached = (.ok value, final) := by
  rw [perform_bind] at h
  rcases hact : perform act state with ⟨result, reached⟩
  rw [hact] at h
  cases result with
  | ok first => exact ⟨first, reached, rfl, h⟩
  | error error => cases h

@[simp] theorem perform_get (state : σ) :
    perform (get : Action σ ε σ) state = (.ok state, state) := rfl

@[simp] theorem perform_set (state after : σ) :
    perform (set after : Action σ ε PUnit) state = (.ok ⟨⟩, after) := rfl

@[simp] theorem perform_modify (change : σ → σ) (state : σ) :
    perform (modify change : Action σ ε PUnit) state = (.ok ⟨⟩, change state) := rfl

@[simp] theorem perform_ofExcept (result : Except ε α) (state : σ) :
    perform (ofExcept result : Action σ ε α) state = (result, state) := rfl

@[simp] theorem perform_attempt (act : Action σ ε α) (state : σ) :
    perform (attempt act : Action σ ε' (Except ε α)) state
      = (.ok (perform act state).1, (perform act state).2) := rfl

@[simp] theorem perform_zoom (view : σ → τ) (store : τ → σ → σ) (wrap : ε → ε')
    (act : Action τ ε α) (state : σ) :
    perform (zoom view store wrap act) state
      = ((perform act (view state)).1.mapError wrap,
          store (perform act (view state)).2 state) := rfl

end

end Action

end PartitionImage
