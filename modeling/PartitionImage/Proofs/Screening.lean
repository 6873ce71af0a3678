import PartitionImage.Proofs.Extraction
/-!
# Checks in order

An action that looks at an image check by check succeeds if all checks are passed, and otherwise fails
with the class of the first that is not.

* `Check.failure?` is the class of the first failure of a list of checks.
* `Check.Settles` says of a result, `Check.Screens` of an action, that a list of checks decides it.
* `Check.Screens.bind` and its companions take an action apart; the list of the whole is made of
  those of its parts.
* `Check.Avoids` says that an action never fails with a class, `Check.Begins` that a list of checks
  decides first and that what comes after them never fails with a class.
-/

namespace PartitionImage

/-- A check, and the class of the failure if it is not passed. -/
structure Check where
  passed : Bool
  kind : ErrorKind
  deriving DecidableEq, Repr

namespace Check

variable {σ α β : Type}

/-- The class of the first failure, if not all checks are passed. -/
def failure? (checks : List Check) : Option ErrorKind :=
  (checks.find? fun check => !check.passed).map Check.kind

theorem failure?_cons_of_passed {check : Check} (h : check.passed = true) (checks : List Check) :
    failure? (check :: checks) = failure? checks := by
  rw [failure?, List.find?_cons_of_neg (by rw [h]; decide), failure?]

theorem failure?_cons_of_failed {check : Check} (h : check.passed = false) (checks : List Check) :
    failure? (check :: checks) = some check.kind := by
  rw [failure?, List.find?_cons_of_pos (by rw [h]; rfl), Option.map_some]

theorem failure?_append (first second : List Check) :
    failure? (first ++ second) = (failure? first).or (failure? second) := by
  rw [failure?, failure?, failure?, List.find?_append]
  cases first.find? fun check => !check.passed with
  | none => rfl
  | some check => rfl

theorem exists_of_failure? {checks : List Check} {kind : ErrorKind}
    (h : failure? checks = some kind) : ∃ check ∈ checks, check.kind = kind := by
  obtain ⟨check, hcheck, rfl⟩ := Option.map_eq_some_iff.mp h
  exact ⟨check, List.mem_of_find?_eq_some hcheck, rfl⟩

theorem failure?_eq_none_iff {checks : List Check} :
    failure? checks = none ↔ ∀ check ∈ checks, check.passed = true := by
  rw [failure?, Option.map_eq_none_iff, List.find?_eq_none]
  simp only [Bool.not_eq_true', Bool.not_eq_false]

/-- Where all failures are of one class, it does not matter which checks are not passed. -/
theorem failure?_of_kind {kind : ErrorKind} {checks : List Check}
    (hkind : ∀ check ∈ checks, check.kind = kind)
    (hfailed : ∃ check ∈ checks, check.passed = false) : failure? checks = some kind := by
  obtain ⟨check, hcheck, hfalse⟩ := hfailed
  cases hfailure : failure? checks with
  | none =>
    rw [failure?_eq_none_iff.mp hfailure check hcheck] at hfalse
    cases hfalse
  | some found =>
    obtain ⟨first, hfirst, rfl⟩ := exists_of_failure? hfailure
    rw [hkind first hfirst]

/-! ### Results -/

/-- A list of checks decides a result: there is a value, of which `post` holds, if all are passed, and
otherwise the class of the failure is that of the first which is not. -/
def Settles (checks : List Check) (post : α → Prop) : Except Error α → Prop
  | .ok value => failure? checks = none ∧ post value
  | .error error => failure? checks = some error.kind

theorem Settles.ok {post : α → Prop} {value : α} (h : post value) : Settles [] post (.ok value) :=
  ⟨rfl, h⟩

theorem Settles.cons {check : Check} (hpassed : check.passed = true) {checks : List Check}
    {post : α → Prop} {result : Except Error α} (h : Settles checks post result) :
    Settles (check :: checks) post result := by
  unfold Settles at h ⊢
  rw [failure?_cons_of_passed hpassed]
  exact h

/-- A result is a failure if a condition holds, and else decided by the checks that follow. -/
theorem Settles.ite {p c : Prop} [Decidable p] [Decidable c] {error : Error} {kind : ErrorKind}
    {checks : List Check} {post : α → Prop} {result : Except Error α} (hp : c ↔ ¬ p)
    (hkind : error.kind = kind) (hresult : p → Settles checks post result) :
    Settles (⟨p, kind⟩ :: checks) post (if c then .error error else result) := by
  subst hkind
  by_cases h : p
  · rw [if_neg (fun hc => hp.mp hc h)]
    exact .cons (decide_eq_true h) (hresult h)
  · rw [if_pos (hp.mpr h)]
    exact failure?_cons_of_failed (decide_eq_false h) checks

/-- Where all failures are of one class, it does not matter which check comes first. -/
theorem Settles.of_kind (kind : ErrorKind) {checks : List Check} {result : Except Error α}
    (hchecks : ∀ check ∈ checks, check.kind = kind)
    (herror : ∀ error, result = .error error → error.kind = kind)
    (hok : (∃ value, result = .ok value) ↔ ∀ check ∈ checks, check.passed = true) :
    Settles checks (fun value => result = .ok value) result := by
  cases hresult : result with
  | ok value =>
    exact ⟨failure?_eq_none_iff.mpr (hok.mp ⟨value, hresult⟩), rfl⟩
  | error error =>
    show failure? checks = some error.kind
    rw [herror error hresult]
    refine failure?_of_kind hchecks (Classical.byContradiction fun hnone => ?_)
    have hpassed : ∀ check ∈ checks, check.passed = true := fun check hcheck =>
      Bool.of_not_eq_false fun hfalse => hnone ⟨check, hcheck, hfalse⟩
    obtain ⟨value, hvalue⟩ := hok.mpr hpassed
    rw [hresult] at hvalue
    cases hvalue

theorem Settles.imp {checks : List Check} {post weaker : α → Prop} {result : Except Error α}
    (h : Settles checks post result) (hpost : ∀ value, post value → weaker value) :
    Settles checks weaker result := by
  cases result with
  | ok value => exact ⟨h.1, hpost value h.2⟩
  | error error => exact h

theorem Settles.isOk_iff {checks : List Check} {post : α → Prop} {result : Except Error α}
    (h : Settles checks post result) : (∃ value, result = .ok value) ↔ failure? checks = none := by
  cases result with
  | ok value => exact ⟨fun _ => h.1, fun _ => ⟨value, rfl⟩⟩
  | error error =>
    have hfailed : failure? checks = some error.kind := h
    rw [hfailed]
    exact ⟨fun hok => (nomatch hok.choose_spec), fun hnone => (nomatch hnone)⟩

/-! ### Actions -/

open PartitionImage.Action (perform)

/-- A list of checks decides how an action ends in every state of a kind, which it does not
leave. -/
structure Screens (good : σ → Prop) (act : Action σ Error α) (checks : List Check)
    (post : α → Prop) : Prop where
  settles : ∀ {state}, good state → Settles checks post (perform act state).1
  keeps : ∀ {state}, good state → good (perform act state).2

variable {good : σ → Prop}

theorem Screens.pure {post : α → Prop} {value : α} (h : post value) :
    Screens good (Pure.pure value) [] post :=
  ⟨fun _ => .ok h, fun hgood => hgood⟩

theorem Screens.ofExcept {checks : List Check} {post : α → Prop} {result : Except Error α}
    (h : Settles checks post result) : Screens good (Action.ofExcept result) checks post :=
  ⟨fun _ => h, fun hgood => hgood⟩

theorem Screens.change {change : σ → σ} (h : ∀ {state}, good state → good (change state)) :
    Screens good (modify change) [] fun _ => True :=
  ⟨fun _ => ⟨rfl, trivial⟩, fun hgood => h hgood⟩

/-- The checks of what is done first come first. -/
theorem Screens.bind {act : Action σ Error α} {next : α → Action σ Error β}
    {first second : List Check} {middle : α → Prop} {post : β → Prop}
    (hact : Screens good act first middle)
    (hnext : ∀ value, middle value → Screens good (next value) second post) :
    Screens good (act >>= next) (first ++ second) post := by
  have hrun : ∀ {state}, good state →
      Settles (first ++ second) post (perform (act >>= next) state).1
        ∧ good (perform (act >>= next) state).2 := by
    intro state hgood
    have hfirst := hact.settles hgood
    have hreached := hact.keeps hgood
    rcases hperform : perform act state with ⟨result, reached⟩
    rw [hperform] at hfirst hreached
    cases result with
    | ok value =>
      rw [Action.perform_bind_ok hperform]
      have hsecond := (hnext value hfirst.2).settles hreached
      unfold Settles at hsecond ⊢
      rw [failure?_append, hfirst.1, Option.none_or]
      exact ⟨hsecond, (hnext value hfirst.2).keeps hreached⟩
    | error error =>
      rw [Action.perform_bind_error hperform]
      have hfailed : failure? first = some error.kind := hfirst
      refine ⟨?_, hreached⟩
      show failure? (first ++ second) = some error.kind
      rw [failure?_append, hfailed, Option.some_or]
  exact ⟨fun hgood => (hrun hgood).1, fun hgood => (hrun hgood).2⟩

theorem Screens.cons {check : Check} (hpassed : check.passed = true) {act : Action σ Error α}
    {checks : List Check} {post : α → Prop} (h : Screens good act checks post) :
    Screens good act (check :: checks) post :=
  ⟨fun hgood => .cons hpassed (h.settles hgood), h.keeps⟩

/-- What is done without a check does not count. -/
theorem Screens.after {act : Action σ Error α} {next : α → Action σ Error β} {checks : List Check}
    {middle : α → Prop} {post : β → Prop} (hact : Screens good act [] middle)
    (hnext : ∀ value, middle value → Screens good (next value) checks post) :
    Screens good (act >>= next) checks post :=
  hact.bind hnext

/-- An action stops if a condition holds, and else is decided by the checks that follow. -/
theorem Screens.unless {p c : Prop} [Decidable p] [Decidable c] {error : Error}
    {kind : ErrorKind} {checks : List Check} {post : α → Prop} {next : PUnit → Action σ Error α}
    (hp : c ↔ ¬ p) (hkind : error.kind = kind) (hnext : p → Screens good (next ⟨⟩) checks post) :
    Screens good (if c then throw error >>= next else next ⟨⟩) (⟨p, kind⟩ :: checks) post := by
  subst hkind
  by_cases h : p
  · rw [if_neg (fun hc => hp.mp hc h)]
    exact .cons (decide_eq_true h) (hnext h)
  · rw [if_pos (hp.mpr h)]
    exact ⟨fun _ => failure?_cons_of_failed (decide_eq_false h) checks, fun hgood => hgood⟩

/-! ### Classes that do not occur -/

/-- No run of the action fails with the class. -/
def Avoids (kind : ErrorKind) (act : Action σ Error α) : Prop :=
  ∀ state error, (perform act state).1 = .error error → error.kind ≠ kind

variable {kind : ErrorKind}

theorem Avoids.pure (value : α) : Avoids kind (Pure.pure value : Action σ Error α) :=
  fun _ _ h => nomatch h

theorem Avoids.get : Avoids kind (MonadState.get : Action σ Error σ) := fun _ _ h => nomatch h

theorem Avoids.modify (change : σ → σ) :
    Avoids kind (MonadState.modifyGet fun state => (⟨⟩, change state) : Action σ Error PUnit) :=
  fun _ _ h => nomatch h

theorem Avoids.attempt {ε : Type} (act : Action σ ε α) :
    Avoids kind (Action.attempt act : Action σ Error (Except ε α)) := fun _ _ h => nomatch h

theorem Avoids.throw {error : Error} (h : error.kind ≠ kind) :
    Avoids kind (MonadExcept.throw error : Action σ Error α) := by
  intro _ _ hfailed
  cases hfailed
  exact h

/-- A failure that is passed on is of the class that it is given. -/
theorem Avoids.ofExcept {ε : Type} {wrap : ε → Error} (h : ∀ cause, (wrap cause).kind ≠ kind)
    (result : Except ε α) :
    Avoids kind (Action.ofExcept (result.mapError wrap) : Action σ Error α) := by
  intro _ _ hfailed
  obtain ⟨cause, -, rfl⟩ := Action.mapError_eq_error_iff.mp hfailed
  exact h cause

theorem Avoids.zoom {τ ε : Type} {view : σ → τ} {store : τ → σ → σ} {wrap : ε → Error}
    (h : ∀ cause, (wrap cause).kind ≠ kind) (act : Action τ ε α) :
    Avoids kind (Action.zoom view store wrap act) := by
  intro _ _ hfailed
  obtain ⟨cause, -, rfl⟩ := Action.mapError_eq_error_iff.mp hfailed
  exact h cause

theorem Avoids.zoom_id {τ : Type} {view : σ → τ} {store : τ → σ → σ} {act : Action τ Error α}
    (h : Avoids kind act) : Avoids kind (Action.zoom view store id act) := by
  intro _ _ hfailed
  obtain ⟨cause, hcause, rfl⟩ := Action.mapError_eq_error_iff.mp hfailed
  exact h _ _ hcause

theorem Avoids.bind {act : Action σ Error α} {next : α → Action σ Error β}
    (hact : Avoids kind act) (hnext : ∀ value, Avoids kind (next value)) :
    Avoids kind (act >>= next) := by
  intro state error hfailed
  rcases hrun : perform act state with ⟨result, reached⟩
  cases result with
  | ok value =>
    rw [Action.perform_bind_ok hrun] at hfailed
    exact hnext value reached error hfailed
  | error first =>
    rw [Action.perform_bind_error hrun] at hfailed
    cases hfailed
    exact hact state error (congrArg Prod.fst hrun)

/-- A list of checks decides an action first: it fails with the class of the first check that is not
passed.  If all are passed, it does not fail with the class `kind`. -/
def Begins (good : σ → Prop) (kind : ErrorKind) (act : Action σ Error α) (checks : List Check) :
    Prop :=
  ∀ {state}, good state →
    match failure? checks with
    | some found => ∃ error, (perform act state).1 = .error error ∧ error.kind = found
    | none => ∀ error, (perform act state).1 = .error error → error.kind ≠ kind

/-- What follows all checks. -/
theorem Avoids.begins {act : Action σ Error α} (h : Avoids kind act) : Begins good kind act [] :=
  fun _ => h _

/-- An action that checks decide may begin another. -/
theorem Screens.begins {act : Action σ Error α} {next : α → Action σ Error β}
    {first second : List Check} {middle : α → Prop} (hact : Screens good act first middle)
    (hnext : ∀ value, middle value → Begins good kind (next value) second) :
    Begins good kind (act >>= next) (first ++ second) := by
  intro state hgood
  have hfirst := hact.settles hgood
  have hreached := hact.keeps hgood
  rw [failure?_append]
  rcases hrun : perform act state with ⟨result, reached⟩
  rw [hrun] at hfirst hreached
  cases result with
  | ok value =>
    rw [Action.perform_bind_ok hrun, hfirst.1, Option.none_or]
    exact hnext value hfirst.2 hreached
  | error error =>
    have hfailed : failure? first = some error.kind := hfirst
    rw [Action.perform_bind_error hrun, hfailed, Option.some_or]
    exact ⟨error, rfl, rfl⟩

end Check

end PartitionImage
