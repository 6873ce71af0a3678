import PartitionImage.World
/-!
# What every run of an action keeps

Most steps of a longer action leave most of the state alone.  A relation that says so, and that may be
chained, holds between the two ends of a run if it holds for each step, whether the run fails or not.

* `Action.Respects` says that every run of an action stays within a relation.
* `Action.Respects.bind` and its companions take an action apart.
* `Action.Leads` says where the runs of an action lead that start from some states: to one condition where they
  succeed, and to another where they fail.
* `Action.Throws` says of what kind the failures of an action are.
* `Action.perform_onDisk` is an action on the disk of a world.
* `Action.Unchanged` says that nothing is different, `Action.Maintains` that an invariant is kept.
-/

namespace PartitionImage.Action

variable {σ τ ε ε' α β : Type}

/-- Every run of the action, successful or not, leads from a state to one that is related to it. -/
def Respects (rel : σ → σ → Prop) (act : Action σ ε α) : Prop :=
  ∀ state, rel state (perform act state).2

variable {rel : σ → σ → Prop}

theorem Respects.pure [Std.Refl rel] (value : α) :
    Respects rel (Pure.pure value : Action σ ε α) := fun state => Std.Refl.refl state

theorem Respects.throw [Std.Refl rel] (error : ε) :
    Respects rel (MonadExcept.throw error : Action σ ε α) := fun state => Std.Refl.refl state

theorem Respects.get [Std.Refl rel] : Respects rel (MonadState.get : Action σ ε σ) :=
  fun state => Std.Refl.refl state

theorem Respects.ofExcept [Std.Refl rel] (result : Except ε α) :
    Respects rel (Action.ofExcept result : Action σ ε α) := fun state => Std.Refl.refl state

/-- A change of the state that stays within the relation. -/
theorem Respects.change {change : σ → σ} (h : ∀ state, rel state (change state)) :
    Respects rel (modify change : Action σ ε PUnit) := h

/-- An action on a part, where no other value of the part leaves the relation. -/
theorem Respects.zoom {view : σ → τ} {store : τ → σ → σ} {wrap : ε → ε'} {act : Action τ ε α}
    (h : ∀ part state, rel state (store part state)) :
    Respects rel (Action.zoom view store wrap act) := fun state => h _ state

/-- An attempt runs the action. -/
theorem Respects.attempt {act : Action σ ε α} (h : Respects rel act) :
    Respects rel (Action.attempt act : Action σ ε' (Except ε α)) := h

theorem Respects.bind [Trans rel rel rel] {act : Action σ ε α} {next : α → Action σ ε β}
    (hact : Respects rel act) (hnext : ∀ value, Respects rel (next value)) :
    Respects rel (act >>= next) := by
  intro state
  have hfirst := hact state
  rcases hrun : perform act state with ⟨result, reached⟩
  rw [hrun] at hfirst
  cases result with
  | ok value =>
    rw [perform_bind_ok hrun]
    exact Trans.trans hfirst (hnext value reached)
  | error error =>
    rw [perform_bind_error hrun]
    exact hfirst

/-- Where a first part stays within the relation, a run has an end that holds wherever that part may
have failed and wherever the rest leads after it. -/
theorem Respects.end_bind {act : Action σ ε α} {next : α → Action σ ε β} (hact : Respects rel act)
    {state : σ} {post : σ → Prop} (hstop : ∀ reached, rel state reached → post reached)
    (hgo : ∀ value reached, perform act state = (.ok value, reached) → rel state reached →
      post (perform (next value) reached).2) :
    post (perform (act >>= next) state).2 := by
  have hfirst := hact state
  rcases hrun : perform act state with ⟨result, reached⟩
  rw [hrun] at hfirst
  cases result with
  | ok value =>
    rw [perform_bind_ok hrun]
    exact hgo value reached hrun hfirst
  | error error =>
    rw [perform_bind_error hrun]
    exact hstop reached hfirst

theorem Respects.of_perform {act : Action σ ε α} (h : Respects rel act) {state final : σ}
    {result : Except ε α} (hrun : perform act state = (result, final)) : rel state final := by
  have hrel := h state
  rwa [hrun] at hrel

/-! ### Where runs lead -/

/-- From every state of `pre` a run that succeeds leads to `post` with its value, and one that fails to `fail`. -/
def Leads (pre : σ → Prop) (act : Action σ ε α) (post : α → σ → Prop) (fail : σ → Prop) : Prop :=
  ∀ state, pre state →
    match perform act state with
    | (.ok value, reached) => post value reached
    | (.error _, reached) => fail reached

section

variable {pre fail : σ → Prop} {mid : α → σ → Prop} {post : β → σ → Prop}

theorem Leads.throw {error : ε} (h : ∀ state, pre state → fail state) :
    Leads pre (MonadExcept.throw error : Action σ ε α) mid fail := h

theorem Leads.get : Leads pre (MonadState.get : Action σ ε σ) (fun _ => pre) fail := fun _ hpre => hpre

theorem Leads.change {change : σ → σ} {next : σ → Prop} (h : ∀ state, pre state → next (change state)) :
    Leads pre (modify change : Action σ ε PUnit) (fun _ => next) fail := h

theorem Leads.bind {act : Action σ ε α} {next : α → Action σ ε β} (hact : Leads pre act mid fail)
    (hnext : ∀ value, Leads (mid value) (next value) post fail) : Leads pre (act >>= next) post fail := by
  intro state hpre
  have hfirst := hact state hpre
  rcases hrun : perform act state with ⟨result, reached⟩
  rw [hrun] at hfirst
  cases result with
  | ok value =>
    rw [perform_bind_ok hrun]
    exact hnext value reached hfirst
  | error error =>
    rw [perform_bind_error hrun]
    exact hfirst

/-- What does not depend on the state may be assumed. -/
theorem Leads.given {act : Action σ ε α} {fact : Prop} (h : fact → Leads pre act mid fail) :
    Leads (fun state => pre state ∧ fact) act mid fail := fun state hpre => h hpre.2 state hpre.1

/-- An action that stays within a relation keeps what the relation keeps. -/
theorem Respects.leads {rel : σ → σ → Prop} {act : Action σ ε α} (h : Respects rel act)
    {kept : σ → Prop} (hpost : ∀ {before after}, rel before after → pre before → kept after)
    (hfail : ∀ {before after}, rel before after → pre before → fail after) :
    Leads pre act (fun _ => kept) fail := by
  intro state hpre
  have hrel := h state
  rcases hrun : perform act state with ⟨result, reached⟩
  rw [hrun] at hrel
  cases result with
  | ok value => exact hpost hrel hpre
  | error error => exact hfail hrel hpre

/-- Where both ends are of one kind, how a run ended does not matter. -/
theorem Leads.state {act : Action σ ε α} {kept : σ → Prop} (h : Leads pre act (fun _ => kept) kept) {state : σ}
    (hpre : pre state) : kept (perform act state).2 := by
  have hend := h state hpre
  rcases hrun : perform act state with ⟨result, reached⟩
  rw [hrun] at hend
  cases result with
  | ok value => exact hend
  | error error => exact hend

end

/-! ### Failures -/

/-- Every failure of the action is of a kind. -/
def Throws (kind : ε → Prop) (act : Action σ ε α) : Prop :=
  ∀ state error, (perform act state).1 = .error error → kind error

section

variable {kind : ε → Prop}

theorem Throws.pure (value : α) : Throws kind (Pure.pure value : Action σ ε α) := fun _ _ h => nomatch h

theorem Throws.get : Throws kind (MonadState.get : Action σ ε σ) := fun _ _ h => nomatch h

theorem Throws.set (state : σ) : Throws kind (MonadStateOf.set state : Action σ ε PUnit) := fun _ _ h => nomatch h

theorem Throws.throw {error : ε} (h : kind error) : Throws kind (MonadExcept.throw error : Action σ ε α) := by
  intro _ _ hthrown
  cases hthrown
  exact h

theorem Throws.ofExcept {result : Except ε α} (h : ∀ error, result = .error error → kind error) :
    Throws kind (Action.ofExcept result : Action σ ε α) := fun _ error hthrown => h error hthrown

theorem Throws.bind {act : Action σ ε α} {next : α → Action σ ε β} (hact : Throws kind act)
    (hnext : ∀ value, Throws kind (next value)) : Throws kind (act >>= next) := by
  intro state error hthrown
  rcases hrun : perform act state with ⟨result, reached⟩
  cases result with
  | ok value =>
    rw [perform_bind_ok hrun] at hthrown
    exact hnext value reached error hthrown
  | error cause =>
    rw [perform_bind_error hrun] at hthrown
    cases hthrown
    exact hact state _ (congrArg Prod.fst hrun)

end

/-! ### The disk of a world -/

theorem mapError_id (result : Except ε α) : result.mapError id = result := by
  cases result with
  | ok value => rfl
  | error error => rfl

/-- What is done to the disk changes nothing else of a world. -/
theorem perform_onWorld_zoom (wrap : ε → ε') (act : Action Disk ε α) (state : σ × World) :
    perform (onWorld (zoom World.disk (fun disk world => world.withDisk disk) wrap act)) state
      = ((perform act state.2.disk).1.mapError wrap, state.1,
          state.2.withDisk (perform act state.2.disk).2) := by
  rw [onWorld, perform_zoom, perform_zoom, mapError_id]

/-- What is done to the disk changes nothing else of a world, and its failure is passed on. -/
theorem perform_onDisk (wrap : ε → Error) (act : Action Disk ε α) (state : σ × World) :
    perform (onWorld (onDisk wrap act)) state
      = ((perform act state.2.disk).1.mapError wrap, state.1,
          state.2.withDisk (perform act state.2.disk).2) :=
  perform_onWorld_zoom wrap act state

/-! ### Two relations -/

def Unchanged (before after : σ) : Prop := after = before

instance : Std.Refl (Unchanged (σ := σ)) := ⟨fun _ => rfl⟩

instance : Trans (Unchanged (σ := σ)) Unchanged Unchanged := ⟨fun h h' => Eq.trans h' h⟩

/-- What holds before holds afterwards. -/
def Maintains (inv : σ → Prop) (before after : σ) : Prop := inv before → inv after

instance (inv : σ → Prop) : Std.Refl (Maintains inv) := ⟨fun _ h => h⟩

instance (inv : σ → Prop) : Trans (Maintains inv) (Maintains inv) (Maintains inv) :=
  ⟨fun h h' hinv => h' (h hinv)⟩

end PartitionImage.Action
