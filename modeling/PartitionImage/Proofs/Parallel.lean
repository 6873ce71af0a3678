import PartitionImage.Proofs.BlockMap
/-!
# Runs side by side

Two runs of one computation go on side by side if what it looks at is the same for both.  They give the same, and what
relates their states relates them in the end.

* `Parallel` says so of a computation; `Parallel.bind` and its companions take one apart, `Action.parallel_bind` and
  its companions an action.
* `Source.Interchangeable` is a relation between sources that no reading can tell apart.
* `BlockMap.parallel_readVersion`, `BlockMap.parallel_readDescriptor` and `BlockMap.parallel_load` are the parts of a
  verification that read the image.
-/

namespace PartitionImage

variable {σ τ ε ε' α β : Type}

/-- From related states two runs of a computation give the same, and end in related states. -/
def Parallel (rel : σ → σ → Prop) (act : StateM σ α) : Prop :=
  ∀ one other, rel one other → (act.run other).1 = (act.run one).1 ∧ rel (act.run one).2 (act.run other).2

variable {rel : σ → σ → Prop}

namespace Parallel

theorem pure (value : α) : Parallel rel (Pure.pure value : StateM σ α) := fun _ _ h => ⟨rfl, h⟩

theorem change {change : σ → σ} (h : ∀ one other, rel one other → rel (change one) (change other)) :
    Parallel rel (modify change : StateM σ PUnit) := fun one other hrel => ⟨rfl, h one other hrel⟩

theorem bind {act : StateM σ α} {next : α → StateM σ β} (hact : Parallel rel act)
    (hnext : ∀ value, Parallel rel (next value)) : Parallel rel (act >>= next) := by
  intro one other h
  obtain ⟨hvalue, hreached⟩ := hact one other h
  show ((next (act.run other).1).run (act.run other).2).1 = ((next (act.run one).1).run (act.run one).2).1
    ∧ rel ((next (act.run one).1).run (act.run one).2).2 ((next (act.run other).1).run (act.run other).2).2
  rw [hvalue]
  exact hnext _ _ _ hreached

/-- What goes on from the state goes on alike, if it looks only at what is the same for both. -/
theorem get {next : σ → StateM σ β} (hsame : ∀ one other, rel one other → next other = next one)
    (hnext : ∀ state, Parallel rel (next state)) : Parallel rel (MonadState.get >>= next) := by
  intro one other h
  show ((next other).run other).1 = ((next one).run one).1 ∧ rel ((next one).run one).2 ((next other).run other).2
  rw [hsame one other h]
  exact hnext one one other h

end Parallel

namespace Action

theorem parallel_pure (value : α) : Parallel rel (Pure.pure value : Action σ ε α).run := fun _ _ h => ⟨rfl, h⟩

theorem parallel_throw (error : ε) : Parallel rel (MonadExcept.throw error : Action σ ε α).run :=
  fun _ _ h => ⟨rfl, h⟩

theorem parallel_ofExcept (result : Except ε α) : Parallel rel (ofExcept result : Action σ ε α).run :=
  fun _ _ h => ⟨rfl, h⟩

theorem parallel_change {change : σ → σ} (h : ∀ one other, rel one other → rel (change one) (change other)) :
    Parallel rel (modify change : Action σ ε PUnit).run := fun one other hrel => ⟨rfl, h one other hrel⟩

/-- One action after the other, unless the first fails, which it then does for both. -/
theorem parallel_bind {act : Action σ ε α} {next : α → Action σ ε β} (hact : Parallel rel act.run)
    (hnext : ∀ value, Parallel rel (next value).run) : Parallel rel (act >>= next).run := by
  intro one other h
  obtain ⟨hvalue, hreached⟩ := hact one other h
  show (perform (act >>= next) other).1 = (perform (act >>= next) one).1
    ∧ rel (perform (act >>= next) one).2 (perform (act >>= next) other).2
  rcases hone : perform act one with ⟨result, reached⟩
  rcases hother : perform act other with ⟨result', reached'⟩
  rw [show act.run.run one = (result, reached) from hone, show act.run.run other = (result', reached') from hother]
    at hvalue hreached
  obtain rfl : result' = result := hvalue
  cases result' with
  | ok value =>
    rw [perform_bind_ok hone, perform_bind_ok hother]
    exact hnext value reached reached' hreached
  | error error =>
    rw [perform_bind_error hone, perform_bind_error hother]
    exact ⟨rfl, hreached⟩

/-- What goes on from the state goes on alike, if it looks only at what is the same for both. -/
theorem parallel_get {next : σ → Action σ ε β} (hsame : ∀ one other, rel one other → next other = next one)
    (hnext : ∀ state, Parallel rel (next state).run) : Parallel rel (MonadState.get >>= next).run := by
  intro one other h
  show (perform (next other) other).1 = (perform (next one) one).1
    ∧ rel (perform (next one) one).2 (perform (next other) other).2
  rw [hsame one other h]
  exact hnext one one other h

theorem parallel_attempt {act : Action σ ε α} (h : Parallel rel act.run) :
    Parallel rel (attempt act : Action σ ε' (Except ε α)).run :=
  fun one other hrel => ⟨congrArg Except.ok (h one other hrel).1, (h one other hrel).2⟩

/-- An action on parts, which are related as the states are. -/
theorem parallel_zoom {part : τ → τ → Prop} {view : σ → τ} {store : τ → σ → σ} {wrap : ε → ε'}
    {act : Action τ ε α} (hact : Parallel part act.run)
    (hview : ∀ one other, rel one other → part (view one) (view other))
    (hstore : ∀ one other, rel one other → ∀ reached reached', part reached reached' →
      rel (store reached one) (store reached' other)) : Parallel rel (zoom view store wrap act).run := by
  intro one other h
  obtain ⟨hvalue, hreached⟩ := hact _ _ (hview one other h)
  exact ⟨congrArg (Except.mapError wrap) hvalue, hstore one other h _ _ hreached⟩

end Action

/-! ### Sources that cannot be told apart -/

namespace Source

/-- Sources that are related have the same size and give the same, wherever they are read, and are related after. -/
structure Interchangeable (alike : Source → Source → Prop) : Prop where
  size : ∀ {one other}, alike one other → ∀ disk, other.size disk = one.size disk
  read : ∀ {one other}, alike one other → ∀ disk offset n,
    (other.readExact disk offset n).1 = (one.readExact disk offset n).1
      ∧ alike (one.readExact disk offset n).2 (other.readExact disk offset n).2

/-- No source can be told from itself. -/
theorem interchangeable_refl : Interchangeable fun one other => other = one where
  size := by
    rintro one _ rfl disk
    rfl
  read := by
    rintro one _ rfl disk offset n
    exact ⟨rfl, rfl⟩

def Alongside (alike : Source → Source → Prop) (one other : Source × World) : Prop :=
  alike one.1 other.1 ∧ other.2 = one.2

end Source

namespace BlockMap

open PartitionImage.Action (parallel_pure parallel_throw parallel_ofExcept parallel_bind parallel_get parallel_change)
open Source (Interchangeable Alongside)

variable {alike : Source → Source → Prop}

theorem parallel_fetch (h : Interchangeable alike) (offset n : Nat) (wrap : IoError → Error) :
    Parallel (Alongside alike) (fetch offset n wrap).run := by
  rintro ⟨one, world⟩ ⟨other, same⟩ ⟨halike, hworld⟩
  obtain rfl : same = world := hworld
  obtain ⟨htransfer, hreached⟩ := h.read halike same.disk offset n
  refine ⟨?_, hreached, rfl⟩
  show ((other.readExact same.disk offset n).1.result.map
      (fun _ => (other.readExact same.disk offset n).1.bytes)).mapError wrap = _
  rw [htransfer]
  rfl

theorem parallel_readVersion (h : Interchangeable alike) : Parallel (Alongside alike) readVersion.run :=
  parallel_bind (parallel_fetch h _ _ _) fun _ => parallel_ofExcept _

theorem parallel_readLegacy (h : Interchangeable alike) : Parallel (Alongside alike) readLegacy.run :=
  parallel_bind (parallel_fetch h _ _ _) fun _ => parallel_bind (parallel_ofExcept _) fun _ => parallel_pure _

theorem parallel_readCurrent (h : Interchangeable alike) : Parallel (Alongside alike) readCurrent.run := by
  refine parallel_bind (parallel_fetch h _ _ _) fun bytes => parallel_bind (parallel_ofExcept _) fun descriptor => ?_
  dsimp only
  split
  · exact parallel_bind (parallel_throw _) fun _ => parallel_bind (parallel_ofExcept _) fun _ => parallel_pure _
  · exact parallel_bind (parallel_ofExcept _) fun _ => parallel_pure _

theorem parallel_readLayout (h : Interchangeable alike) (format : Format) :
    Parallel (Alongside alike) (readLayout format).run := by
  cases format with
  | legacy => exact parallel_readLegacy h
  | current => exact parallel_readCurrent h

theorem parallel_readDescriptor (h : Interchangeable alike) (format : Format) :
    Parallel (Alongside alike) (readDescriptor format).run := by
  have hsize : ∀ found : Descriptor × RecordLayout, Parallel (Alongside alike) (do
      let state ← get
      let size ← .ofExcept <| (state.1.size state.2.disk).mapError .readBitmap
      if size < found.2.bitmapEnd then throw (.readBitmap .endBeforeTrailer)
      return (found.1, found.2) : Action (Source × World) Error (Descriptor × RecordLayout)).run := by
    intro found
    refine parallel_get ?_ fun state => parallel_bind (parallel_ofExcept _) fun size => ?_
    · rintro ⟨one, world⟩ ⟨other, same⟩ ⟨halike, hworld⟩
      obtain rfl : same = world := hworld
      dsimp only
      rw [h.size halike]
    · dsimp only
      split
      · exact parallel_bind (parallel_throw _) fun _ => parallel_pure _
      · exact parallel_pure _
  exact parallel_bind (parallel_readLayout h format) hsize

theorem parallel_loadEntries (h : Interchangeable alike) (offset total chunks block : Nat) (loading : Loading) :
    Parallel (Alongside alike) (loadEntries offset total block loading chunks).run := by
  induction chunks generalizing block loading with
  | zero => exact parallel_pure _
  | succ chunks ih => exact parallel_bind (parallel_fetch h _ _ _) fun values => ih _ _

theorem parallel_warn (warning : Warning) :
    Parallel (Alongside alike) (Action.warn warning : Action (Source × World) Error Unit).run :=
  parallel_change fun _ _ hrel => ⟨hrel.1, congrArg (World.warn · warning) hrel.2⟩

theorem parallel_loadStored (h : Interchangeable alike) (format : Format) (offset : Nat) (empty : Bitmap) :
    Parallel (Alongside alike) (loadStored format offset empty).run := by
  cases format with
  | legacy =>
    refine parallel_bind (parallel_loadEntries h _ _ _ _ _) fun loading => ?_
    dsimp only
    split
    · exact parallel_bind (parallel_warn _) fun _ => parallel_pure _
    · exact parallel_pure _
  | current => exact parallel_bind (parallel_fetch h _ _ _) fun _ => parallel_pure _

theorem parallel_load (h : Interchangeable alike) (format : Format) (layout : RecordLayout) (total factor : Nat) :
    Parallel (Alongside alike) (load format layout total factor).run := by
  have hmagic : ∀ loading : Loading, Parallel (Alongside alike) (do
      let magic ← fetch layout.magicOffset bitmapMagic.length .readBitmap
      if magic ≠ bitmapMagic then throw .bitmapMagic
      return assemble layout total factor loading : Action (Source × World) Error BlockMap).run := by
    intro loading
    refine parallel_bind (parallel_fetch h _ _ _) fun magic => ?_
    dsimp only
    split
    · exact parallel_bind (parallel_throw _) fun _ => parallel_pure _
    · exact parallel_pure _
  exact parallel_bind (parallel_ofExcept _) fun empty => parallel_bind (parallel_loadStored h format _ empty) hmagic

end BlockMap

end PartitionImage
