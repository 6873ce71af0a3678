import PartitionImage.Proofs.ChangeFile.Sparing
import PartitionImage.Proofs.Layered
/-!
# Handles that do no harm

A handle of either type can do nothing before it is verified, and from then on it is `Layered` over a store of its own.
So it spares what is `Unusable` as an overlay, whatever is called on it.

* `ChangeFile.Harmless` is such a store; `ChangeFile.Harmless.put` keeps it, `ChangeFile.Harmless.put_fails` is about a
  path that leads to something unusable.
* `BlockDevice.Unverified` is what a device has to say of its handles before they are verified.
* `BlockDevice.Sparing` is what is known of a handle at any time, `BlockDevice.Sparing.run` says that calls keep it.
* `BlockDevice.Sparing.ending` and `BlockDevice.Sparing.write_fails` are what follows from it.
-/

namespace PartitionImage

open PartitionImage.Action (Respects Maintains perform perform_bind_error)
open PartitionImage.Overlay (Mount)
open ChangeFile (Header Own Spared Step Unusable writes_step)

/-! ### Programs -/

namespace ChangeFile

variable {geometry : Header} {start : Disk} {path : String} {state after : Mount ChangeFile × Disk}

/-- A store that is a handle's own, on a disk where nothing unusable is different from `start`. -/
structure Harmless (geometry : Header) (start : Disk) (path : String) (state : Mount ChangeFile × Disk) : Prop where
  path_eq : state.1.path = path
  spared : Spared (some geometry) start state.2
  own : ∀ file, state.1.store = some file → Own (some geometry) start path file

namespace Harmless

theorem uses (h : Harmless geometry start path state) (huses : Mount.Uses Step state after) :
    Harmless geometry start path after := by
  obtain ⟨hspared, hown⟩ := h.spared.used h.own huses.used
  exact ⟨huses.path.trans h.path_eq, hspared, hown⟩

theorem make :
    Respects (Maintains (Harmless geometry start path)) (Mount.make geometry.blockSize geometry.totalBlocks) := by
  rintro ⟨mount, disk⟩ h
  cases hstore : mount.store with
  | some file =>
    rw [Mount.perform_make_some hstore]
    exact h
  | none =>
    rw [Mount.perform_make_none hstore]
    rcases hmake : perform (makeOverlay mount.setup mount.path geometry.blockSize geometry.totalBlocks) disk
      with ⟨made, reached⟩
    obtain ⟨hspared, hown⟩ := h.spared.make mount.setup hmake
    cases made with
    | error error => exact ⟨h.path_eq, hspared, h.own⟩
    | ok file =>
      refine ⟨h.path_eq, hspared, fun found hfound => ?_⟩
      obtain rfl := Option.some.inj hfound
      exact h.path_eq ▸ hown _ rfl

/-- **What is written goes to the handle's own store.** -/
theorem put (mode : OpenMode) (block : Nat) (data : Bytes) :
    Respects (Maintains (Harmless geometry start path))
      (Mount.put mode geometry.blockSize geometry.totalBlocks block data) := by
  intro state h
  rw [Mount.perform_put]
  split
  · exact h
  split
  · exact h
  · exact (Respects.bind make fun _ state h => h.uses (Mount.storeBlocks_uses writes_step _ _ _ _ _ state)) state h

/-- Where the path leads to something unusable there is no store, and none can be made. -/
theorem put_fails (h : Harmless geometry start path state) {id : FileId} (hfound : start.lookupFile path = .ok id)
    (hother : Unusable (some geometry) start id) (mode : OpenMode) (block : Nat) (data : Bytes) :
    ∃ error, (perform (Mount.put mode geometry.blockSize geometry.totalBlocks block data) state).1
      = .error error := by
  obtain ⟨mount, disk⟩ := state
  have hnone : mount.store = none := by
    refine Option.eq_none_iff_forall_ne_some.mpr fun file hfile => ?_
    exact (h.own file hfile).not_unusable hfound hother
  rw [Mount.perform_put]
  split
  · exact ⟨_, rfl⟩
  split
  · exact ⟨_, rfl⟩
  have hmake := Mount.perform_make_none hnone geometry.blockSize geometry.totalBlocks disk
  rcases hopen : perform (makeOverlay mount.setup mount.path geometry.blockSize geometry.totalBlocks) disk
    with ⟨made, reached⟩
  rw [hopen] at hmake
  cases made with
  | error error => exact ⟨_, congrArg Prod.fst (perform_bind_error hmake)⟩
  | ok file =>
    have hown := (h.spared.make mount.setup hopen).2 file rfl
    exact absurd hother (hown.not_unusable (h.path_eq.symm ▸ hfound))

/-- A store that is released is written if it has to be. -/
theorem released (h : Harmless geometry start path state) :
    Spared (some geometry) start (Overlay.released state.1.store state.2) := by
  have hspared := h.spared
  cases hstore : state.1.store with
  | none => exact hspared
  | some file => exact hspared.finish (.inr (h.own file hstore))

end Harmless

end ChangeFile

/-! ### Handles -/

namespace BlockDevice

open ChangeFile (Harmless)

variable {D : Type} [BlockDevice D] {source : D → Source} {mount : D → Mount ChangeFile} {known? : Option Header}
  {geometry : Header} {start : Disk} {path : String} {idle handles : D × World → Prop} {state : D × World}
  {mode : OpenMode}

theorem Layered.harmless_after
    (hdevice : Layered source mount mode geometry.blockSize geometry.totalBlocks handles) (hstate : handles state)
    (h : Harmless geometry start path (mount state.1, state.2.disk)) (operation : Operation) :
    Harmless geometry start path (mount (operation.after state).1, (operation.after state).2.disk) := by
  by_cases hother : ∀ data, operation ≠ .write data
  · exact h.uses (hdevice.uses writes_step hstate hother).2
  · obtain ⟨data, rfl⟩ := not_forall_not.mp hother
    obtain ⟨cursor, htell⟩ := hdevice.tell hstate
    have hput := Harmless.put mode cursor data _ h
    rw [(hdevice.write hstate htell data).plan_eq] at hput
    exact hput

/-- What is known of a handle that was opened where the disk was `start`.  Its geometry, once it is verified, is
`known?`. -/
inductive Sparing (source : D → Source) (mount : D → Mount ChangeFile) (known? : Option Header) (start : Disk)
    (path : String) (idle : D × World → Prop) (state : D × World) : Prop
  | idle (h : idle state)
  | verified {geometry : Header} {mode : OpenMode} {handles : D × World → Prop} (hknown : known? = some geometry)
      (hdevice : Layered source mount mode geometry.blockSize geometry.totalBlocks handles) (hstate : handles state)
      (h : Harmless geometry start path (mount state.1, state.2.disk))

/-- Handles that are not verified: they can only be verified, or let go of.  Where the geometry of the image is not
known nothing happens to the disk. -/
structure Unverified (source : D → Source) (mount : D → Mount ChangeFile) (known? : Option Header) (start : Disk)
    (path : String) (idle : D × World → Prop) : Prop where
  spared : ∀ {state}, idle state → Spared known? start state.2.disk
  unchanged : ∀ {state}, idle state → known? = none → (mount state.1).store = none ∧ state.2.disk = start
  clean : ∀ {state file}, idle state → (mount state.1).store = some file →
    file.dirty = false ∨ Own known? start path file
  refused : ∀ {state}, idle state → ∀ operation : Operation, operation ≠ .verify → operation.after state = state
  write : ∀ {state}, idle state → ∀ data, ∃ error, (perform (BlockDevice.write data) state).1 = .error error
  releases : ∀ {state}, idle state → Releases mount state
  verify : ∀ {state}, idle state → Sparing source mount known? start path idle (Operation.verify.after state)

namespace Sparing

section

variable (hidle : Unverified source mount known? start path idle)
  (h : Sparing source mount known? start path idle state)

include hidle h

theorem after (operation : Operation) : Sparing source mount known? start path idle (operation.after state) := by
  cases h with
  | idle h =>
    by_cases hverify : operation = .verify
    · subst hverify
      exact hidle.verify h
    · rw [hidle.refused h operation hverify]
      exact .idle h
  | verified hknown hdevice hstate h =>
    exact .verified hknown hdevice (hdevice.after hstate operation) (hdevice.harmless_after hstate h operation)

/-- **Every run of calls spares what is unusable.** -/
theorem run (operations : List Operation) :
    Sparing source mount known? start path idle (Operation.run operations state) :=
  Operation.run_induction h (fun h => h.after hidle) operations

/-- **However a handle ends, what is unusable is as it was**, and everything if the geometry was never known. -/
theorem ending (ending : Ending) :
    Spared known? start (ending.after state).disk ∧ (known? = none → (ending.after state).disk = start) := by
  cases h with
  | idle h =>
    have hreleases := hidle.releases h
    have hspared := hidle.spared h
    have hreleased : Spared known? start (Overlay.released (mount state.1).store state.2.disk) := by
      cases hstore : (mount state.1).store with
      | none => exact hspared
      | some file => exact hspared.finish (hidle.clean h hstore)
    refine ⟨hreleases.ending (Spared known? start) hspared hreleased ending, fun hnone => ?_⟩
    obtain ⟨hstore, hdisk⟩ := hidle.unchanged h hnone
    refine hreleases.ending (fun disk => disk = start) hdisk ?_ ending
    rw [hstore]
    exact hdisk
  | verified hknown hdevice hstate h =>
    subst hknown
    exact ⟨(hdevice.releases hstate).ending (Spared _ start) h.spared h.released ending, nofun⟩

/-- **Where the path leads to something unusable nothing can be written.** -/
theorem write_fails {id : FileId} (hfound : start.lookupFile path = .ok id) (hother : Unusable known? start id)
    (data : Bytes) : ∃ error, (perform (BlockDevice.write data) state).1 = .error error := by
  cases h with
  | idle h => exact hidle.write h data
  | @verified geometry mode _ hknown hdevice hstate h =>
    subst hknown
    obtain ⟨cursor, htell⟩ := hdevice.tell hstate
    obtain ⟨error, herror⟩ := h.put_fails hfound hother mode cursor data
    rw [(hdevice.write hstate htell data).plan_eq] at herror
    exact ⟨error, herror⟩

end

/-! ### Devices that are made part of others -/

variable {E : Type} [BlockDevice E] {embed : D → E} {wholeSource : E → Source} {whole : E → Mount ChangeFile}

theorem within (hembeds : BlockDevice.Embeds embed) (hsource : ∀ device, wholeSource (embed device) = source device)
    (hmount : ∀ device, whole (embed device) = mount device)
    (h : Sparing source mount known? start path idle state) :
    Sparing wholeSource whole known? start path (Within embed idle) (Prod.map embed id state) := by
  cases h with
  | idle h => exact .idle ⟨state.1, h, rfl⟩
  | verified hknown hdevice hstate h =>
    refine .verified hknown (hdevice.within hembeds hsource hmount) ⟨state.1, hstate, rfl⟩ ?_
    dsimp only [Prod.map]
    rw [hmount]
    exact h

end Sparing

theorem Unverified.within {E : Type} [BlockDevice E] {embed : D → E} {wholeSource : E → Source}
    {whole : E → Mount ChangeFile} (h : Unverified source mount known? start path idle)
    (hembeds : BlockDevice.Embeds embed) (hsource : ∀ device, wholeSource (embed device) = source device)
    (hmount : ∀ device, whole (embed device) = mount device) :
    Unverified wholeSource whole known? start path (Within embed idle) where
  spared := by
    rintro ⟨_, world⟩ ⟨device, hidle, rfl⟩
    exact h.spared hidle
  unchanged := by
    rintro ⟨_, world⟩ ⟨device, hidle, rfl⟩ hnone
    dsimp only
    rw [hmount]
    exact h.unchanged hidle hnone
  clean := by
    rintro ⟨_, world⟩ file ⟨device, hidle, rfl⟩ hstore
    exact h.clean hidle ((congrArg Mount.store (hmount device)).symm.trans hstore)
  refused := by
    rintro ⟨_, world⟩ ⟨device, hidle, rfl⟩ operation hverify
    rw [show (embed device, world) = Prod.map embed id (device, world) from rfl, hembeds.after,
      h.refused hidle operation hverify]
  write := by
    rintro ⟨_, world⟩ ⟨device, hidle, rfl⟩ data
    obtain ⟨error, herror⟩ := h.write hidle data
    exact ⟨error, (congrArg Prod.fst (hembeds.write data device world)).trans herror⟩
  releases := by
    rintro ⟨_, world⟩ ⟨device, hidle, rfl⟩
    exact (h.releases hidle).within hembeds hmount
  verify := by
    rintro ⟨_, world⟩ ⟨device, hidle, rfl⟩
    rw [show (embed device, world) = Prod.map embed id (device, world) from rfl, hembeds.after]
    exact (h.verify hidle).within hembeds hsource hmount

end BlockDevice

end PartitionImage
