import PartitionImage.Proofs.Dependable
import PartitionImage.Proofs.Image.Lifecycle
/-!
# Overlays of the size of their image

An overlay is opened for as many blocks as the image has, and of the same size.  What is within the image is within
the overlay then: whatever else may go wrong there, no call is out of range or of the wrong length.

* `OverlayError.isRange` says which failures are of that kind.
* `Overlay.MadeFor` are the stores that were opened for a device, whatever was called since.
* `Overlay.Measured` is the contract of an overlay that has the size that it was opened for; `MemoryStore.measured`
  and `ChangeFile.measured` keep it.
* `ChangeFile.init_panics` and `ChangeFile.finish_panics` say that a change file is opened and let go of without a panic.
-/

namespace PartitionImage

open PartitionImage.Action (Throws perform perform_bind_inv)

/-! ### Failures of range -/

/-- A failure that has to do with a place past the end or with a buffer of the wrong length. -/
def OverlayError.isRange : OverlayError → Bool
  | .outOfRange _ | .bufferSize .. => true
  | _ => false

/-! ### Stores that were opened for a device -/

namespace Overlay

variable {O : Type} [Overlay O] {blockSize total : Nat}

/-- A store that was opened for a device of `total` blocks, whatever was called since. -/
inductive MadeFor (blockSize total : Nat) : O → Prop
  | init {setup : Overlay.Setup O} {path : String} {disk after : Disk} {store : O} :
    perform (Overlay.init setup path blockSize total) disk = (.ok store, after) → MadeFor blockSize total store
  | create {setup : Overlay.Setup O} {path : String} {disk after : Disk} {store : O} :
    perform (Overlay.create setup path blockSize total) disk = (.ok store, after) → MadeFor blockSize total store
  | called {before after : O × Disk} :
    MadeFor blockSize total before.1 → Call before after → MadeFor blockSize total after.1

theorem MadeFor.calls {before after : O × Disk} (h : MadeFor blockSize total before.1) (hcalls : Calls before after) :
    MadeFor blockSize total after.1 := by
  induction hcalls with
  | refl => exact h
  | tail _ hcall ih => exact .called ih hcall

theorem MadeFor.used {before after : Option O × Disk}
    (h : ∀ store, before.1 = some store → MadeFor blockSize total store) (hused : Used Calls before after) :
    ∀ store, after.1 = some store → MadeFor blockSize total store := by
  cases hused with
  | none disk => exact h
  | some hcalls =>
    rintro store ⟨⟩
    exact (h _ rfl).calls hcalls

theorem MadeFor.verifyStore {store checked : O} {disk after : Disk} (h : MadeFor blockSize total store)
    (hverify : perform (verifyStore store) disk = (.ok checked, after)) : MadeFor blockSize total checked := by
  have hchecked := h.called (.verify (store, disk))
  rw [perform_verifyStore] at hverify
  split at hverify
  · next heq =>
    cases hverify
    rw [heq] at hchecked
    exact hchecked
  · cases hverify

theorem madeFor_of_make {setup : Overlay.Setup O} {path : String} {disk after : Disk} {store : O}
    (h : perform (makeOverlay setup path blockSize total) disk = (.ok store, after)) :
    MadeFor blockSize total store := by
  obtain ⟨made, _, hcreate, hverify⟩ := perform_bind_inv h
  exact (MadeFor.create hcreate).verifyStore hverify

/-- A store that cannot be had could not be opened, or was not whole. -/
theorem throws_make {kind : OverlayError → Prop} {setup : Overlay.Setup O} {path : String}
    (hcreate : Throws kind (Overlay.create setup path blockSize total))
    (hverify : Throws kind (Overlay.verify (O := O))) :
    Throws kind (makeOverlay (O := O) setup path blockSize total) := by
  refine .bind hcreate fun store => ?_
  intro disk cause h
  rw [perform_verifyStore] at h
  split at h
  · cases h
  · next heq =>
    cases h
    exact hverify _ cause (congrArg Prod.fst heq)

/-- The contract of an overlay that has the size that it was opened for: no call within the device is out of range or
of the wrong length, whether it succeeds or not. -/
structure Measured (O : Type) [Overlay O] : Prop where
  make : ∀ {setup : Overlay.Setup O} {path : String} {blockSize total : Nat},
    Throws (·.isRange = false) (makeOverlay setup path blockSize total)
  seek : ∀ {blockSize total block : Nat} {store : O} {disk : Disk} {cause : OverlayError},
    MadeFor blockSize total store → block ≤ total →
      (perform (Overlay.seek block) (store, disk)).1 = .error cause → cause.isRange = false
  write : ∀ {blockSize total block : Nat} {store : O} {disk : Disk} {sought : O × Disk} {data : Bytes}
    {cause : OverlayError}, MadeFor blockSize total store → block < total →
      perform (Overlay.seek block) (store, disk) = (.ok (), sought) → data.length = blockSize →
        (perform (Overlay.write data) sought).1 = .error cause → cause.isRange = false
  sync : Throws (σ := O × Disk) (·.isRange = false) Overlay.sync

end Overlay

/-! ### Stores in memory -/

namespace MemoryStore

theorem isRange_of_fault? {failing : List Operation} {operation : Operation} {cause : OverlayError}
    (h : fault? failing operation = .error cause) : cause.isRange = false := by
  unfold fault? at h
  split at h
  · cases h
    rfl
  · cases h

theorem totalBlocks_of_madeFor {blockSize total : Nat} {store : MemoryStore}
    (h : Overlay.MadeFor blockSize total store) : store.totalBlocks = total := by
  induction h with
  | @init setup path disk after store hopen =>
    rw [show perform (Overlay.init setup path blockSize total) disk = _ from perform_start .init setup total disk]
      at hopen
    split at hopen
    · cases hopen
    · cases hopen
      rfl
  | @create setup path disk after store hopen =>
    rw [show perform (Overlay.create setup path blockSize total) disk = _ from perform_start .create setup total disk]
      at hopen
    split at hopen
    · cases hopen
    · cases hopen
      rfl
  | @called before after _ hcall ih =>
    refine Eq.trans ?_ ih
    cases hcall with
    | verify => exact congrArg (fun ended => ended.2.1.totalBlocks) (perform_check .verify before)
    | seek block =>
      rw [show perform (Overlay.seek block) before = _ from perform_seek block before.1 before.2]
      split
      · rfl
      · split
        · rfl
        · rfl
    | read length =>
      show (read.run before).2.1.totalBlocks = _
      simp only [read, StateT.run_bind, StateT.run_get, pure_bind]
      cases fault? before.1.failing .read with
      | error error => rfl
      | ok done =>
        cases before.1.blocks.lookup before.1.cursor with
        | none => rfl
        | some block => rfl
    | write data =>
      rw [show perform (Overlay.write data) before = _ from perform_write data before]
      split
      · rfl
      · rfl
    | sync => exact congrArg (fun ended => ended.2.1.totalBlocks) (perform_check .sync before)

theorem throws_check (operation : Operation) : Throws (·.isRange = false) (check operation) := by
  intro state cause h
  rw [perform_check] at h
  exact isRange_of_fault? h

/-- **Stores in memory have the size that they were opened for.** -/
theorem measured : Overlay.Measured MemoryStore where
  make := by
    intro setup path blockSize total
    refine Overlay.throws_make ?_ (throws_check .verify)
    exact .bind (.ofExcept fun cause hfault => isRange_of_fault? hfault) fun _ => .pure _
  seek := by
    intro blockSize total block store disk cause hmade hblock h
    rw [show perform (Overlay.seek block) (store, disk) = _ from perform_seek block store disk] at h
    split at h
    · next error hfault =>
      cases h
      exact isRange_of_fault? hfault
    · rw [if_neg (by rw [totalBlocks_of_madeFor hmade]; exact Nat.not_lt.mpr hblock)] at h
      cases h
  write := by
    intro blockSize total block store disk sought data cause _ _ _ _ h
    rw [show perform (Overlay.write data) sought = _ from perform_write data sought] at h
    split at h
    · next error hfault =>
      cases h
      exact isRange_of_fault? hfault
    · cases h
  sync := throws_check .sync

end MemoryStore

/-! ### Change files -/

namespace ChangeFile

variable {path : String} {blockSize total : Nat}

theorem geometry_of_madeFor {file : ChangeFile} (h : Overlay.MadeFor blockSize total file) :
    file.blockSize = blockSize ∧ file.totalBlocks = total := by
  have hinit : ∀ {path disk after file}, perform (init path blockSize total) disk = (.ok file, after) →
      file.blockSize = blockSize ∧ file.totalBlocks = total :=
    fun hopen => ⟨(init_inv hopen).2.blockSize_eq, (init_inv hopen).2.totalBlocks_eq⟩
  induction h with
  | init hopen => exact hinit hopen
  | @create setup path disk after file hopen =>
    by_cases hsize : ∃ n, disk.size path = .ok (n + 1)
    · obtain ⟨n, hsize⟩ := hsize
      exact hinit ((perform_create_of_size hsize).symm.trans hopen)
    · obtain ⟨id, -, -, rfl⟩ :=
        eq_fresh_of_createEmpty ((perform_create_of_vacant fun n hn => hsize ⟨n, hn⟩).symm.trans hopen)
      exact ⟨rfl, rfl⟩
  | @called before after _ hcall ih =>
    have hstep : Step before after := by
      cases hcall with
      | verify =>
        rw [show perform Overlay.verify before = _ from perform_verify before.1 before.2]
        exact .refl before
      | seek block => exact writes_step.seek block before
      | read length => exact writes_step.read length before
      | write data => exact writes_step.write data before
      | sync => exact writes_step.sync before
    rw [hstep.blockSize_eq, hstep.totalBlocks_eq]
    exact ih

section

variable {kind : OverlayError → Prop} (hkind : ∀ cause, cause.isRange = false → cause.panics = false → kind cause)

include hkind

/-- What the disk refuses is neither a failure of range nor a panic. -/
theorem throws_io {σ α : Type} (result : Except IoError α) :
    Throws (σ := σ) kind (.ofExcept (result.mapError .io)) := by
  refine .ofExcept fun cause h => ?_
  obtain ⟨fault, -, rfl⟩ := Action.mapError_eq_error_iff.mp h
  exact hkind _ rfl rfl

theorem throws_newMap (total : Nat) : Throws (σ := Disk) kind (.ofExcept (newMap total)) := by
  refine .ofExcept fun cause h => ?_
  obtain ⟨fault, -, rfl⟩ := Action.mapError_eq_error_iff.mp h
  exact hkind _ rfl rfl

theorem throws_onDisk (change : Disk → Except IoError Disk) : Throws kind (onDisk change) :=
  .bind .get fun _ => .bind (throws_io hkind _) fun _ => .set _

theorem throws_init (path : String) (blockSize total : Nat) : Throws kind (init path blockSize total) := by
  refine .bind .get fun disk => .bind (.ofExcept fun cause h => ?_) fun file => ?_
  · obtain ⟨fault, -, rfl⟩ := Action.mapError_eq_error_iff.mp h
    exact hkind _ rfl rfl
  · split
    · split
      · exact .bind (.throw (hkind _ rfl rfl)) fun _ => .bind (throws_newMap hkind total) fun map =>
          .bind (throws_io hkind _) fun _ => .pure _
      · exact .bind (throws_newMap hkind total) fun map => .bind (throws_io hkind _) fun _ => .pure _
    · exact .throw (hkind _ rfl rfl)

theorem throws_sync : Throws kind sync := by
  refine .bind .get ?_
  rintro ⟨file, disk⟩
  dsimp only
  split
  · exact .bind .get fun _ => .bind (throws_io hkind _) fun _ => .set _
  · exact .pure _

end

/-- **Opening a change file does not panic**, so that no panic is passed over where a failure of it is. -/
theorem init_panics {disk after : Disk} {cause : OverlayError}
    (h : perform (init path blockSize total) disk = (.error cause, after)) : cause.panics = false :=
  throws_init (fun _ _ hcalm => hcalm) path blockSize total disk cause (congrArg Prod.fst h)

/-- Nor does letting go of one. -/
theorem finish_panics {file : ChangeFile} {disk after : Disk} {cause : OverlayError}
    (h : perform file.finish disk = (.error cause, after)) : cause.panics = false := by
  rw [finish, Action.perform_zoom, Action.mapError_id] at h
  exact throws_sync (fun _ _ hcalm => hcalm) (file, disk) cause (Prod.mk.inj h).1

theorem throws_create (path : String) (blockSize total : Nat) :
    Throws (·.isRange = false) (create path blockSize total) := by
  refine .bind .get fun disk => ?_
  split
  · exact throws_init (fun _ hrange _ => hrange) path blockSize total
  · refine .bind .get fun _ => .bind (.ofExcept fun cause h => ?_) fun created => .bind (.set _) fun _ =>
      .bind (throws_newMap (fun _ hrange _ => hrange) total) fun map =>
        .bind (throws_onDisk (fun _ hrange _ => hrange) _) fun _ =>
          .bind (throws_onDisk (fun _ hrange _ => hrange) _) fun _ => ?_
    · obtain ⟨fault, -, rfl⟩ := Action.mapError_eq_error_iff.mp h
      rfl
    · split
      · exact .bind (throws_onDisk (fun _ hrange _ => hrange) _) fun _ => .pure _
      · exact .throw rfl

theorem throws_verify : Throws (·.isRange = false) verify := by
  refine .bind .get ?_
  rintro ⟨file, disk⟩
  dsimp only
  split
  case h_2 => exact .throw rfl
  split
  · exact .throw rfl
  · exact .pure _

/-- **Change files have the size that they were opened for.** -/
theorem measured : Overlay.Measured ChangeFile where
  make := Overlay.throws_make (throws_create _ _ _) throws_verify
  seek := by
    intro blockSize total block file disk cause hmade hblock h
    rw [show perform (Overlay.seek block) (file, disk) = _ from perform_seek block file disk,
      if_neg (by rw [(geometry_of_madeFor hmade).2]; exact Nat.not_lt.mpr hblock)] at h
    cases h
  write := by
    intro blockSize total block file disk sought data cause hmade hblock hseek hdata h
    obtain ⟨rfl, rfl⟩ := geometry_of_madeFor hmade
    rw [show perform (Overlay.seek block) (file, disk) = _ from perform_seek block file disk,
      if_neg (Nat.not_lt.mpr (Nat.le_of_lt hblock))] at hseek
    cases hseek
    have hrefusal : ({ file with cursor := block } : ChangeFile).refusal? data.length = none :=
      refusal?_eq_none_iff.mpr ⟨hdata, hblock⟩
    rw [show perform (Overlay.write data) _ = _ from perform_write data _ disk, hrefusal] at h
    dsimp only at h
    split at h
    · cases h
      rfl
    split at h
    · cases h
      rfl
    · cases h
  sync := throws_sync fun _ hrange _ => hrange

end ChangeFile

end PartitionImage
