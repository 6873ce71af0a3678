import PartitionImage.Proofs.Layered
/-!
# Handles that leave the image as it is

Every call leaves the source of a handle safe from its overlay, so that a block that is not in the overlay is read
from the image as it was at first.  What is read then depends on the blocks of the overlay alone.

* `Ground.Guards.storeBlocks`, `Ground.Guards.make` and `Ground.Guards.put` are what is done to the overlay.
* `BlockDevice.Guarded` is a handle whose source is safe from its overlay, `BlockDevice.Guarded.run` says that every
  run of calls keeps it so.
* `BlockDevice.Guarded.readAt_write` is what a block reads as after a write.
-/

namespace PartitionImage

open PartitionImage.Action (perform perform_bind_ok perform_bind_error)
open PartitionImage.Overlay (Mount)
open ChangeFile (Step writes_step)

/-! ### Programs -/

namespace Ground.Guards

variable {ground : Ground} {source : Source} {mount : Mount ChangeFile} {disk : Disk} {after : Mount ChangeFile × Disk}
  {result : Except Error Unit}

theorem shows (h : ground.Guards source mount.store disk) :
    mount.Shows ground.blockSize ground.totalBlocks (stored mount.store disk) disk := by
  unfold Mount.Shows
  cases hstore : mount.store with
  | none => exact fun _ _ => rfl
  | some file =>
    have hattached := h.attached file hstore
    have hshows := ChangeFile.shows hattached.reach hattached.room
    rw [hattached.blockSize_eq, hattached.totalBlocks_eq] at hshows
    exact hshows

/-- **Blocks that are put one after the other are stored, and every other block is as it was.** -/
theorem storeBlocks {file : ChangeFile} (h : ground.Guards source (some file) disk) (hstore : mount.store = some file)
    {block count : Nat} {data : Bytes}
    (hrun : perform (Mount.storeBlocks ground.blockSize ground.totalBlocks block count data) (mount, disk)
      = (.ok (), after)) :
    ground.Stores (stored (some file) disk) (stored after.1.store after.2) block count data := by
  induction count generalizing mount file disk block data with
  | zero =>
    cases hrun
    rw [hstore]
    exact .zero _ _ _
  | succ count ih =>
    rw [Mount.perform_storeBlocks_succ hstore] at hrun
    split at hrun
    · cases hrun
    · next hblock =>
      have hseek : perform (Overlay.seek block) (file, disk) = _ := ChangeFile.perform_seek block file disk
      rw [if_neg (by rw [(h.attached file rfl).totalBlocks_eq]; omega)] at hseek
      rw [hseek] at hrun
      dsimp only at hrun
      split at hrun
      · cases hrun
      · next written hwrite =>
        have hstep : Step (file, disk) written :=
          (ChangeFile.step_cursor file disk block).trans ((ChangeFile.write_step _).of_perform hwrite)
        refine .succ (Nat.lt_of_not_le hblock) (fun asked hasked => ?_) (ih (h.step hstep) rfl hrun)
        exact h.stored_write hwrite hasked

/-- **The overlay that the first write attaches holds what its file held.** -/
theorem make (h : ground.Guards source mount.store disk) (hpath : mount.path = ground.path)
    (hmake : perform (Mount.make ground.blockSize ground.totalBlocks) (mount, disk) = (result, after)) :
    ground.Guards source after.1.store after.2 ∧ after.1.path = ground.path
      ∧ (result = .ok () → ∀ block, block < ground.totalBlocks →
        stored after.1.store after.2 block = ground.prior mount.store disk block) := by
  cases hstore : mount.store with
  | some file =>
    rw [Mount.perform_make_some hstore] at hmake
    cases hmake
    exact ⟨h, hpath, fun _ _ _ => by rw [hstore]; rfl⟩
  | none =>
    rw [hstore] at h
    rw [Mount.perform_make_none hstore, hpath] at hmake
    rcases hopen : perform (makeOverlay mount.setup ground.path ground.blockSize ground.totalBlocks) disk
      with ⟨made, reached⟩
    have hend := h.toSafe.attach mount.setup hopen
    rw [hopen] at hmake
    cases made with
    | error cause =>
      cases hmake
      refine ⟨?_, hpath, nofun⟩
      rw [hstore]
      exact h.attach_failed hend.1 hend.2
    | ok file =>
      cases hmake
      exact ⟨hend.1, hpath, fun _ => hend.2⟩

/-- **Blocks are put over what the overlay held**, or what was found when it was attached. -/
theorem put (h : ground.Guards source mount.store disk) (hpath : mount.path = ground.path) {block : Nat} {data : Bytes}
    (hput : perform (Mount.put ground.mode ground.blockSize ground.totalBlocks block data) (mount, disk)
      = (result, after)) :
    ground.Guards source after.1.store after.2 ∧ after.1.path = ground.path
      ∧ (result = .ok () → ground.mode ≠ .readOnly
        ∧ ground.Stores (ground.prior mount.store disk) (stored after.1.store after.2) block
          (data.length / ground.blockSize) data) := by
  rw [Mount.perform_put] at hput
  split at hput
  · cases hput
    exact ⟨h, hpath, nofun⟩
  split at hput
  · cases hput
    exact ⟨h, hpath, nofun⟩
  next hmode _ =>
  rcases hmake : perform (Mount.make ground.blockSize ground.totalBlocks) (mount, disk) with ⟨made, reached⟩
  obtain ⟨hmade, hreached, hprior⟩ := h.make hpath hmake
  cases made with
  | error error =>
    rw [perform_bind_error hmake] at hput
    cases hput
    exact ⟨hmade, hreached, nofun⟩
  | ok done =>
    rw [perform_bind_ok hmake] at hput
    have huses := (Mount.storeBlocks_uses writes_step _ _ _ _ _).of_perform hput
    refine ⟨hmade.used (.refl _) huses.used, huses.path.trans hreached, ?_⟩
    rintro rfl
    obtain ⟨file, hfile⟩ := Option.isSome_iff_exists.mp (Mount.isSome_of_make hmake)
    have hstores := storeBlocks (hfile ▸ hmade) hfile hput
    rw [← hfile] at hstores
    exact ⟨hmode, hstores.congr (hprior rfl)⟩

end Ground.Guards

/-! ### Handles -/

namespace BlockDevice

variable {D : Type} [BlockDevice D] {source : D → Source} {mount : D → Mount ChangeFile} {handles : D × World → Prop}
  {ground : Ground} {state written : D × World} {data : Bytes} {cursor : Nat}

/-- A handle on a device whose source is safe from its overlay. -/
structure Guarded (source : D → Source) (mount : D → Mount ChangeFile) (handles : D × World → Prop) (ground : Ground)
    (state : D × World) : Prop where
  handle : handles state
  path_eq : (mount state.1).path = ground.path
  guards : ground.Guards (source state.1) (mount state.1).store state.2.disk

namespace Guarded

variable (hdevice : Layered source mount ground.mode ground.blockSize ground.totalBlocks handles)
  (h : Guarded source mount handles ground state)

include hdevice h

/-- **A write stores its blocks over what the overlay held**, or what was found when it was attached. -/
theorem write (htell : tell? state.1 = some cursor) {result : Except Error Unit}
    (hwrite : perform (BlockDevice.write data) state = (result, written)) :
    Guarded source mount handles ground written
      ∧ (result = .ok () → ground.mode ≠ .readOnly
        ∧ ground.Stores (ground.prior (mount state.1).store state.2.disk)
          (Ground.stored (mount written.1).store written.2.disk) cursor (data.length / ground.blockSize) data) := by
  have hfollows := hdevice.write h.handle htell data
  obtain ⟨hguards, hpath, hstores⟩ := h.guards.put h.path_eq (hfollows.inv hwrite)
  refine ⟨⟨hdevice.written h.handle hwrite, hpath, ?_⟩, hstores⟩
  rw [hfollows.source_inv hwrite]
  exact hguards

theorem after (operation : Operation) : Guarded source mount handles ground (operation.after state) := by
  by_cases hother : ∀ data, operation ≠ .write data
  · obtain ⟨hlater, huses⟩ := hdevice.uses writes_step h.handle hother
    exact ⟨hdevice.after h.handle operation, huses.path.trans h.path_eq, h.guards.used hlater huses.used⟩
  · obtain ⟨data, rfl⟩ := not_forall_not.mp hother
    obtain ⟨cursor, htell⟩ := hdevice.tell h.handle
    exact (h.write hdevice htell rfl).1

theorem run (operations : List Operation) :
    Guarded source mount handles ground (Operation.run operations state) :=
  Operation.run_induction h (fun h => h.after hdevice) operations

/-- **After a write a block that was written reads as it was given**, and every other block as it did before, but for
those in a change file that was attached for the write. -/
theorem readAt_write (htell : tell? state.1 = some cursor)
    (hwrite : perform (BlockDevice.write data) state = (.ok (), written)) (block : Nat) :
    ((readAt block ground.blockSize).run written).1
      = if cursor ≤ block ∧ block < cursor + data.length / ground.blockSize then
          .complete (data.slice ((block - cursor) * ground.blockSize) ground.blockSize)
        else Ground.shown (ground.found (mount state.1).store state.2.disk block)
          ((readAt block ground.blockSize).run state).1 := by
  obtain ⟨hwritten, hend⟩ := h.write hdevice htell hwrite
  obtain ⟨hmode, hstores⟩ := hend rfl
  have hsource : source written.1 = source state.1 := (hdevice.write h.handle htell data).source_inv hwrite
  have hsafe := hwritten.guards.toSafe
  rw [hsource] at hsafe
  refine h.guards.shown_after hmode hstores (fun block => ((readAt block ground.blockSize).run state).1)
    (fun block => ((readAt block ground.blockSize).run written).1) ?_ ?_ ?_ ?_ block
  · intro block bytes hblock hbytes
    exact hdevice.shown h.handle h.guards.shows hblock hbytes
  · intro block bytes hblock hbytes
    exact hdevice.shown hwritten.handle hwritten.guards.shows hblock hbytes
  · intro block hblock hnone hnone'
    refine hdevice.alike h.handle hwritten.handle h.guards.shows hwritten.guards.shows hblock hnone hnone' ?_
    intro offset n
    rw [hsource, h.guards.toSafe.readExact_eq hsafe (Nat.zero_lt_of_lt hblock)]
  · intro block hend
    exact (hdevice.past hwritten.handle hwritten.guards.shows hend).trans
      (hdevice.past h.handle h.guards.shows hend).symm

end Guarded

end BlockDevice

end PartitionImage
