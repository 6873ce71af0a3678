import PartitionImage.Proofs.Image.Mount
import PartitionImage.Proofs.RawImage.Mount
/-!
# Handles that only read

A handle that was opened for reading never has an overlay: none is opened, none is made, and nothing happens to the
disk, whatever the overlays of its type would do.

* `BlockDevice.Idle` is such a handle; `BlockDevice.Idle.disk_of_run` says that the disk stays where calls keep it one.
* `Image.Idle.after` and `RawImage.Idle.after` say that calls do.
* `AnyImage.disk_of_readOnly` says that the disk is as it was however the handle ends.
-/

namespace PartitionImage

open PartitionImage.Action (Respects Maintains perform perform_bind_ok)
open Overlay (Mount Unbound Used writes_unbound)

variable {O : Type} [Overlay O] {disk : Disk}

/-! ### Devices -/

namespace BlockDevice

variable {D : Type} [BlockDevice D] {mode : D → OpenMode} {mount : D → Mount O} {state reached : D × World}

/-- A handle that only reads has no overlay, and the disk is `disk`. -/
structure Idle (mode : D → OpenMode) (mount : D → Mount O) (disk : Disk) (state : D × World) : Prop where
  mode : mode state.1 = .readOnly
  overlay : (mount state.1).store = none
  disk : state.2.disk = disk

namespace Idle

variable (h : Idle mode mount disk state)

include h

omit [BlockDevice D] in
theorem used (hmode : mode reached.1 = mode state.1)
    (hused : Used Unbound ((mount state.1).store, state.2.disk) ((mount reached.1).store, reached.2.disk)) :
    Idle mode mount disk reached := by
  rw [h.overlay] at hused
  obtain ⟨hoverlay, hdisk⟩ := Prod.mk.inj hused.none_inv
  exact ⟨hmode.trans h.mode, hoverlay, hdisk.trans h.disk⟩

/-- **A handle that stays idle leaves the disk as it is**, however it ends. -/
theorem disk_of_run
    (hafter : ∀ {state}, Idle mode mount disk state → ∀ operation : Operation,
      Idle mode mount disk (operation.after state))
    (hreleases : ∀ state, Releases mount state) (operations : List Operation) (ending : Ending) :
    (ending.after (Operation.run operations state)).disk = disk := by
  have hrun : Idle mode mount disk (Operation.run operations state) := Operation.run_induction h hafter operations
  refine (hreleases _).ending (fun reached => reached = disk) hrun.disk ?_ ending
  rw [hrun.overlay]
  exact hrun.disk

end Idle

end BlockDevice

/-! ### Partition images -/

namespace Image

variable {state reached : Image O × World}

/-- An idle handle on a partition image. -/
abbrev Idle (disk : Disk) (state : Image O × World) : Prop :=
  BlockDevice.Idle (fun image => image.options.mode) mount disk state

theorem Idle.uses (h : Idle disk state) (huses : Uses Unbound state reached) : Idle disk reached :=
  h.used (congrArg OpenOptions.mode huses.options) huses.used

theorem initOverlay_idle (blockSize totalBlocks : Nat) :
    Respects (Maintains (Idle disk)) (initOverlay (O := O) blockSize totalBlocks) := by
  intro state h
  rw [initOverlay_ok state (.inl h.mode)]
  exact h

theorem verifyOverlay_idle : Respects (Maintains (Idle disk)) (verifyOverlay (O := O)) := by
  intro state h
  rw [verifyOverlay_ok state h.overlay]
  exact h

/-- **Verification for reading opens no overlay.** -/
theorem verify_idle : Respects (Maintains (Idle disk)) (verify (O := O)) :=
  verify_maintains (fun haside h => ⟨(congrArg OpenOptions.mode haside.options).trans h.mode,
    haside.overlay.trans h.overlay, haside.disk.trans h.disk⟩) initOverlay_idle verifyOverlay_idle

theorem write_idle (data : Bytes) : Respects (Maintains (Idle disk)) (write (O := O) data) := by
  intro state h
  have hready : state.1.ready .writable = false := by
    rw [ready, readOnly, h.mode]
    cases state.1.stage <;> rfl
  rw [write, Action.perform_bind, perform_require, hready]
  exact h

theorem Idle.after (h : Idle disk state) (operation : Operation) : Idle disk (operation.after state) := by
  cases operation with
  | verify => exact verify_idle state h
  | seek block => exact h.uses (seek_uses writes_unbound.toReads block state)
  | read length => exact h.uses (read_uses writes_unbound.toReads length state)
  | isUsed => exact h.uses (isUsed_uses writes_unbound.toReads state)
  | write data => exact write_idle data state h
  | sync => exact h.uses (sync_uses writes_unbound state)

end Image

/-! ### Raw images -/

namespace RawImage

variable {state reached : RawImage O × World}

/-- An idle handle on a raw image. -/
abbrev Idle (disk : Disk) (state : RawImage O × World) : Prop :=
  BlockDevice.Idle RawImage.mode mount disk state

theorem Idle.uses (h : Idle disk state) (huses : Uses Unbound state reached) : Idle disk reached :=
  h.used huses.mode huses.used

/-- **Verification for reading opens no overlay.** -/
theorem perform_verify_idle (h : Idle disk state) :
    perform verify state
      = if state.1.verified then (.error (.invalidState .opened), state)
        else (.ok (), { state.1 with verified := true }, state.2) := by
  rw [verify, Action.perform_bind, perform_require, ready]
  cases state.1.verified with
  | true => rfl
  | false =>
    simp only [Bool.not_false, if_true, Bool.false_eq_true, if_false]
    rw [perform_bind_ok (Action.perform_get state)]
    split
    · rfl
    · next heq => cases h.mode.symm.trans heq
    · next heq => cases h.mode.symm.trans heq

theorem verify_idle : Respects (Maintains (Idle disk)) (verify (O := O)) := by
  intro state h
  rw [perform_verify_idle h]
  split
  · exact h
  · exact ⟨h.mode, h.overlay, h.disk⟩

theorem write_idle (data : Bytes) : Respects (Maintains (Idle disk)) (write (O := O) data) := by
  intro state h
  have hready : state.1.ready .writable = false := by
    rw [ready, h.mode]
    exact Bool.and_false _
  rw [write, Action.perform_bind, perform_require, hready]
  exact h

theorem Idle.after (h : Idle disk state) (operation : Operation) : Idle disk (operation.after state) := by
  cases operation with
  | verify => exact verify_idle state h
  | seek block => exact h.uses (seek_uses writes_unbound.toReads block state)
  | read length => exact h.uses (read_uses writes_unbound.toReads length state)
  | isUsed => exact h.uses (isUsed_uses state)
  | write data => exact write_idle data state h
  | sync => exact h.uses (sync_uses writes_unbound state)

end RawImage

/-! ### Images of either type -/

theorem Image.idle_of_open {path : String} {options : OpenOptions} {setup : Overlay.Setup O}
    {world opened : World} {image : Image O} (hmode : options.mode = .readOnly)
    (hopen : perform (Image.open path options setup) world = (.ok image, opened)) :
    Idle world.disk (image, opened) := by
  have hsame := (Image.open_unchanged path options setup).of_perform hopen
  obtain rfl : opened = world := hsame
  rw [Image.open, perform_bind_ok (Action.perform_get _)] at hopen
  obtain ⟨source, _, -, hopen⟩ := Action.perform_bind_inv hopen
  cases hopen
  exact ⟨hmode, rfl, rfl⟩

theorem RawImage.idle_of_open {path : String} {options : OpenOptions} {setup : Overlay.Setup O}
    {world opened : World} {image : RawImage O} (hmode : options.mode = .readOnly)
    (hopen : perform (RawImage.open path options setup) world = (.ok image, opened)) :
    Idle world.disk (image, opened) := by
  have hsame := (RawImage.open_unchanged path options setup).of_perform hopen
  obtain rfl : opened = world := hsame
  rw [RawImage.open, perform_bind_ok (Action.perform_get _)] at hopen
  obtain ⟨source, _, -, hopen⟩ := Action.perform_bind_inv hopen
  rw [ofSource, perform_bind_ok (Action.perform_get _)] at hopen
  obtain ⟨size, _, -, hopen⟩ := Action.perform_bind_inv hopen
  cases hopen
  exact ⟨hmode, rfl, rfl⟩

/-- **Whatever the overlays of its type do, a handle that was opened for reading leaves the disk as it was.** -/
theorem AnyImage.disk_of_readOnly {type : ImageType} {path : String} {options : OpenOptions}
    {setup : Overlay.Setup O} {world opened : World} {image : AnyImage O}
    (hmode : options.mode = .readOnly)
    (hopen : perform (AnyImage.openFile type path options setup) world = (.ok image, opened))
    (operations : List Operation) (ending : Ending) :
    (ending.after (Operation.run operations (image, opened))).disk = world.disk := by
  cases type with
  | partition =>
    obtain ⟨device, _, hdevice, hopen⟩ := Action.perform_bind_inv hopen
    cases hopen
    show (ending.after (Operation.run operations (Prod.map AnyImage.partition id (device, opened)))).disk = _
    rw [Image.embeds.run, Image.embeds.ending]
    exact (Image.idle_of_open hmode hdevice).disk_of_run Image.Idle.after Image.releases operations ending
  | raw =>
    obtain ⟨device, _, hdevice, hopen⟩ := Action.perform_bind_inv hopen
    cases hopen
    show (ending.after (Operation.run operations (Prod.map AnyImage.raw id (device, opened)))).disk = _
    rw [RawImage.embeds.run, RawImage.embeds.ending]
    exact (RawImage.idle_of_open hmode hdevice).disk_of_run RawImage.Idle.after RawImage.releases operations ending

end PartitionImage
