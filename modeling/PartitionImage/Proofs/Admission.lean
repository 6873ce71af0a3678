import PartitionImage.Proofs.WriteFrame
/-!
# Patches are checked before they touch anything

A patch of no whole number of blocks, or of blocks past the end of the image, changes nothing.  One that is let through
cannot run out of range any more: what goes wrong with it goes wrong in the overlay.

* `BlockDevice.Layered.perform_patch` is a patch of a device that keeps its changes in an overlay.
* `BlockDevice.Layered.patch_readOnly` is a patch that is let through and cannot be stored,
  `BlockDevice.Layered.patch_error` one that fails, and `BlockDevice.Layered.patch_ok` one that succeeds.
* `AnyImage.patch_admission` is the statement, for images of either type.
-/

namespace PartitionImage

open PartitionImage.Action (perform perform_bind_ok perform_bind_inv)
open PartitionImage.Overlay (Mount)

/-- `saturate64` may replace what is compared with a `total` that is below `range64 - 1`. -/
theorem lt_saturate64_iff {n total : Nat} (h : total < range64 - 1) : total < saturate64 n ↔ total < n := by
  unfold saturate64
  omega

namespace BlockDevice.Layered

variable {D O : Type} [BlockDevice D] [Overlay O] {source : D → Source} {mount : D → Mount O} {mode : OpenMode}
  {blockSize total : Nat} {handles : D × World → Prop} {state : D × World} {first : Nat} {data : Bytes}

/-- A patch is of whole blocks within the image, computed exactly, or is refused. -/
theorem perform_patch (h : Layered source mount mode blockSize total handles) (hshort : total < range64 - 1)
    (hstate : handles state) (first : Nat) (data : Bytes) :
    perform (patch first data) state
      = if data.length % blockSize ≠ 0 then (.error (.partialBlock data.length blockSize), state)
        else if total < first + data.length / blockSize then
          (.error (.outOfRange first (saturate64 (first + data.length / blockSize)) total), state)
        else
          match perform (BlockDevice.seek first) state with
          | (.error cause, sought) => (.error (.write cause), sought)
          | (.ok (), sought) =>
            match perform (BlockDevice.write data) sought with
            | (.error cause, written) => (.error (.write cause), written)
            | (.ok (), written) =>
              match perform BlockDevice.sync written with
              | (.error cause, synced) => (.error (.sync cause), synced)
              | (.ok (), synced) => (.ok (data.length / blockSize), synced) := by
  rw [PartitionImage.perform_patch (h.blockSize_eq hstate) (h.blockCount_eq hstate)]
  exact if_congr Iff.rfl rfl (if_congr (lt_saturate64_iff hshort) rfl rfl)

/-- **A patch that cannot be stored changes no file.** -/
theorem patch_readOnly (h : Layered source mount mode blockSize total handles) (hshort : total < range64 - 1)
    (hstate : handles state) (hmode : mode = .readOnly) (hwhole : data.length % blockSize = 0)
    (hstop : first + data.length / blockSize ≤ total) :
    ∃ reached, perform (patch first data) state = (.error (.write (.invalidState .writable)), reached)
      ∧ reached.2.disk = state.2.disk := by
  have hplan :
      perform (Mount.seek total first) (mount state.1, state.2.disk) = (.ok (), mount state.1, state.2.disk) := by
    rw [Mount.perform_seek, if_neg (Nat.not_lt.mpr (Nat.le_of_add_right_le hstop)),
      Mount.perform_call_none (h.readOnly hstate hmode)]
  obtain ⟨sought, hseek, hmount, htell⟩ := (h.seek hstate first).ok hplan
  have hfollows := h.write (h.sought hstate hseek) htell data
  rcases hwrite : perform (BlockDevice.write data) sought with ⟨result, written⟩
  have hput := hfollows.inv hwrite
  rw [Mount.perform_put, if_pos hmode] at hput
  obtain ⟨rfl, hkept⟩ := Prod.mk.inj hput
  refine ⟨written, ?_, (congrArg Prod.snd hkept).symm.trans (congrArg Prod.snd hmount)⟩
  rw [h.perform_patch hshort hstate, if_neg (Decidable.not_not.mpr hwhole), if_neg (Nat.not_lt.mpr hstop), hseek]
  dsimp only
  rw [hwrite]

/-- **A patch that is let through fails in the overlay only**, and not out of range if the overlay has the size that it
was opened for. -/
theorem patch_error (h : Layered source mount mode blockSize total handles) (hshort : total < range64 - 1)
    (hstate : handles state) (hmode : mode ≠ .readOnly) (hwhole : data.length % blockSize = 0)
    (hstop : first + data.length / blockSize ≤ total) {error : PatchError}
    (herror : (perform (patch first data) state).1 = .error error) :
    ∃ cause, (error = .write (.overlay cause) ∨ error = .sync (.overlay cause))
      ∧ (Overlay.Measured O → cause.isRange = false) := by
  rw [h.perform_patch hshort hstate, if_neg (Decidable.not_not.mpr hwhole), if_neg (Nat.not_lt.mpr hstop)] at herror
  rcases hseek : perform (BlockDevice.seek first) state with ⟨result, sought⟩
  have hsought := h.sought hstate hseek
  have hseekPlan := (h.seek hstate first).inv hseek
  rw [hseek] at herror
  cases result with
  | error cause =>
    cases herror
    obtain ⟨fault, rfl, hrange⟩ :=
      Mount.error_of_seek (h.suits hstate) (Nat.le_of_add_right_le hstop) (congrArg Prod.fst hseekPlan)
    exact ⟨fault, .inl rfl, hrange⟩
  | ok done =>
  have hfollows := h.write hsought ((h.seek hstate first).tell_inv hseek) data
  dsimp only at herror
  rcases hwrite : perform (BlockDevice.write data) sought with ⟨result, written⟩
  have hwritten := h.written hsought hwrite
  have hput := hfollows.inv hwrite
  rw [hwrite] at herror
  cases result with
  | error cause =>
    cases herror
    obtain ⟨fault, rfl, hrange⟩ :=
      Mount.error_of_put (h.suits hsought) hmode hwhole hstop (congrArg Prod.fst hput)
    exact ⟨fault, .inl rfl, hrange⟩
  | ok done =>
  dsimp only at herror
  rcases hsync : perform BlockDevice.sync written with ⟨result, synced⟩
  have hsyncPlan := (h.sync hwritten (hfollows.tell_inv hwrite)).inv hsync
  rw [hsync] at herror
  cases result with
  | ok done => cases herror
  | error cause =>
    cases herror
    obtain ⟨fault, rfl, hrange⟩ := Mount.error_of_sync hmode (Mount.isSome_of_put hput) (congrArg Prod.fst hsyncPlan)
    exact ⟨fault, .inr rfl, hrange⟩

theorem run_readAt_of_mounted (h : Layered source mount mode blockSize total handles) (hstate : handles state)
    {backing : Backing} {origin : Disk} {dependable : Overlay.Dependable O blockSize total backing origin}
    {blocks : Nat → Option Bytes} (hmounted : dependable.Mounted blocks (mount state.1, state.2.disk))
    {block count : Nat} (hcount : block + count ≤ total) (hstored : Overlay.Stored blocks blockSize block count data) :
    ((BlockDevice.readAt block (count * blockSize)).run state).1 = .complete (data.take (count * blockSize)) := by
  obtain ⟨after, hplan, hafter⟩ := hmounted.seek (Nat.le_of_add_right_le hcount)
  obtain ⟨sought, hseek, rfl, htell⟩ := (h.seek hstate block).ok hplan
  rw [BlockDevice.run_readAt hseek]
  exact h.mounted (h.sought hstate hseek) hafter hcount htell hstored

/-- **A patch that is let through succeeds on an overlay that does not fail**: the blocks read as they were given, and
are found again by whoever opens the overlay, if it is `Lasting`. -/
theorem patch_ok (h : Layered source mount mode blockSize total handles) (hshort : total < range64 - 1)
    (hstate : handles state) (hmode : mode ≠ .readOnly) (hwhole : data.length % blockSize = 0)
    (hstop : first + data.length / blockSize ≤ total) {backing : Backing} {origin : Disk}
    {dependable : Overlay.Dependable O blockSize total backing origin} {blocks : Nat → Option Bytes}
    (hready : dependable.Ready blocks (mount state.1, state.2.disk)) :
    ∃ reached, perform (patch first data) state = (.ok (data.length / blockSize), reached)
      ∧ BlockDevice.tell? reached.1 = some (first + data.length / blockSize)
      ∧ (∀ start place, start + place ≤ data.length / blockSize →
        ((BlockDevice.readAt (first + start) (place * blockSize)).run reached).1
          = .complete (data.slice (start * blockSize) (place * blockSize)))
      ∧ ∀ setup path, dependable.Lasting setup path → ∃ store disk,
        perform (Overlay.init setup path blockSize total) reached.2.disk = (.ok store, disk)
          ∧ dependable.has ⟨Ground.replaced blocks blockSize first (data.length / blockSize) data, 0⟩
            (store, disk) := by
  obtain ⟨after, hplan, hafter⟩ := hready.seek (Nat.le_of_add_right_le hstop)
  obtain ⟨sought, hseek, rfl, htell⟩ := (h.seek hstate first).ok hplan
  have hsought := h.sought hstate hseek
  obtain ⟨after, hplan, hafter⟩ := hafter.put hmode hwhole hstop
  obtain ⟨written, hwrite, rfl, htell⟩ := (h.write hsought htell data).ok hplan
  have hwritten := h.written hsought hwrite
  obtain ⟨after, hplan, hafter, hlasting⟩ := hafter.sync hmode
  obtain ⟨synced, hsync, rfl, htell⟩ := (h.sync hwritten htell).ok hplan
  refine ⟨synced, ?_, htell, fun start place hplace => ?_, hlasting⟩
  · rw [h.perform_patch hshort hstate, if_neg (Decidable.not_not.mpr hwhole), if_neg (Nat.not_lt.mpr hstop), hseek]
    dsimp only
    rw [hwrite]
    dsimp only
    rw [hsync]
  · exact h.run_readAt_of_mounted (h.synced hwritten hsync) hafter (by omega) (Overlay.stored_replaced hplace)

end BlockDevice.Layered

/-! ### Overlays that can be made -/

/-- A change file can be made at a `Vacant` path for a handle without an overlay.  It has no blocks. -/
theorem ChangeFile.ready_of_vacant {blockSize total : Nat} {mount : Mount ChangeFile} {disk : Disk}
    (hnone : mount.store = none) (hsound : disk.Sound) (hvacant : disk.Vacant mount.path)
    (hfits : Fits blockSize total disk.sizeLimit) {blocks : Nat → Option Bytes}
    (hblocks : ∀ block, block < total → blocks block = none) {backing : Backing} (hbacking : ∀ id, backing ≠ .file id)
    (origin : Disk) : (dependable mount.path blockSize total backing origin).Ready blocks (mount, disk) := by
  obtain ⟨file, after, hmake, hfile⟩ := attached_of_vacant hsound hvacant hfits mount.setup
  have hcongr := hfile.congr fun block hblock => (hblocks block hblock).symm
  exact .inr ⟨hnone, file, after, 0, hmake, hcongr, hbacking _, fun id hid => absurd hid (hbacking id)⟩

/-! ### Images of either type -/

namespace AnyImage

variable {O : Type} [Overlay O]

variable {type : ImageType} {source : Source} {path : String} {options : OpenOptions} {setup : Overlay.Setup O}
  {world opened : World} {image : AnyImage O}

/-- **Patches are checked before they touch anything, and cannot run out of range after that.**  Where the blocks are
not whole, or not all on the image, nothing is different afterwards.  Otherwise what fails is the overlay; a handle that
is only read has none and stores nothing, and where the overlay does not fail the blocks read as they were given and
are made to last. -/
theorem patch_admission (hsize : type = .raw → ∀ size, source.size world.disk = .ok size → size < range64)
    (hopen : perform (ofSource type source path options setup) world = (.ok image, opened)) (operations : List Operation)
    {state : AnyImage O × World} (hstate : Operation.run operations (image, opened) = state) {blockSize total : Nat}
    (hblockSize : BlockDevice.blockSize? state.1 = some blockSize)
    (hblockCount : BlockDevice.blockCount? state.1 = some total) (first : Nat) (data : Bytes) :
    (¬ blockSize ∣ data.length →
        perform (patch first data) state = (.error (.partialBlock data.length blockSize), state))
      ∧ (blockSize ∣ data.length → total < first + data.length / blockSize →
        perform (patch first data) state
          = (.error (.outOfRange first (saturate64 (first + data.length / blockSize)) total), state))
      ∧ (blockSize ∣ data.length → first + data.length / blockSize ≤ total →
        (options.mode = .readOnly →
          ∃ reached, perform (patch first data) state = (.error (.write (.invalidState .writable)), reached)
            ∧ reached.2.disk = state.2.disk)
        ∧ (options.mode ≠ .readOnly →
          (∀ error, (perform (patch first data) state).1 = .error error →
            ∃ cause, (error = .write (.overlay cause) ∨ error = .sync (.overlay cause))
              ∧ (Overlay.Measured O → cause.isRange = false))
          ∧ ∀ {backing : Backing} {origin : Disk}
            {dependable : Overlay.Dependable O blockSize total backing origin} {blocks : Nat → Option Bytes},
            dependable.Ready blocks (state.1.mount, state.2.disk) →
              ∃ reached, perform (patch first data) state = (.ok (data.length / blockSize), reached)
                ∧ BlockDevice.tell? reached.1 = some (first + data.length / blockSize)
                ∧ (∀ start place, start + place ≤ data.length / blockSize →
                  ((BlockDevice.readAt (first + start) (place * blockSize)).run reached).1
                    = .complete (data.slice (start * blockSize) (place * blockSize)))
                ∧ ∀ setup path, dependable.Lasting setup path → ∃ store disk,
                  perform (Overlay.init setup path blockSize total) reached.2.disk = (.ok store, disk)
                    ∧ dependable.has
                      ⟨Ground.replaced blocks blockSize first (data.length / blockSize) data, 0⟩ (store, disk))) := by
  subst hstate
  obtain ⟨handles, hlayered, hhandles, hshort⟩ := exists_layered hopen operations hblockSize hblockCount
  have hshort := hshort hsize
  have hpatch := hlayered.perform_patch hshort hhandles first data
  rw [Nat.dvd_iff_mod_eq_zero]
  refine ⟨fun hpart => ?_, fun hwhole hpast => ?_, fun hwhole hstop => ⟨fun hmode => ?_, fun hmode => ⟨?_, ?_⟩⟩⟩
  · rw [hpatch, if_pos hpart]
  · rw [hpatch, if_neg (Decidable.not_not.mpr hwhole), if_pos hpast]
  · exact hlayered.patch_readOnly hshort hhandles hmode hwhole hstop
  · exact fun error herror => hlayered.patch_error hshort hhandles hmode hwhole hstop herror
  · exact fun hready => hlayered.patch_ok hshort hhandles hmode hwhole hstop hready

/-- A handle on two blocks of ones in memory, verified and without an overlay. -/
def onesInMemory : RawImage ChangeFile × World where
  fst := {
    source := .ofBytes (List.replicate 1024 1)
    path := "a"
    mode := .readWrite
    setup := ()
    verified := true
    blockSize := 512
    totalBlocks := 2
    overlayPath := none
    overlay := none
    cursor := 0 }
  snd := {}

theorem size_onesInMemory : (Source.ofBytes (List.replicate 1024 1)).size {} = .ok 1024 :=
  congrArg Except.ok ((Packed.size_ofBytes _).trans List.length_replicate)

theorem ofSource_onesInMemory :
    perform (ofSource (O := ChangeFile) .raw (.ofBytes (List.replicate 1024 1)) "a" { mode := .readWrite } ()) {}
      = (.ok (.raw { onesInMemory.1 with verified := false }), {}) := by
  have hraw : perform (RawImage.ofSource (O := ChangeFile) (.ofBytes (List.replicate 1024 1)) "a"
      { mode := .readWrite } ()) {} = (.ok { onesInMemory.1 with verified := false }, {}) := by
    rw [RawImage.ofSource, perform_bind_ok (Action.perform_get _)]
    dsimp only
    rw [size_onesInMemory]
    rfl
  exact perform_bind_ok hraw

theorem ready_onesInMemory : (ChangeFile.dependable "a.cf" 512 2 .directory {}).Ready (fun _ => none)
    (onesInMemory.1.mount, onesInMemory.2.disk) := by
  have hpath : onesInMemory.1.mount.path = "a.cf" := by decide
  have hvacant : onesInMemory.2.disk.Vacant onesInMemory.1.mount.path := by
    rw [hpath]
    exact ⟨0, _, ChangeFile.create_on_empty, rfl⟩
  have hbacking : ∀ id, Backing.directory ≠ .file id := fun _ => nofun
  rw [← hpath]
  exact ChangeFile.ready_of_vacant rfl Disk.sound_empty hvacant ⟨by decide, by decide, by decide, by decide⟩
    (fun _ _ => rfl) hbacking {}

/-- The second block of two gets patched.  A change file is made for it, and the block is in it from then on. -/
theorem patch_admission_secondBlock :
    ∃ image state reached store disk,
      perform (ofSource (O := ChangeFile) .raw (.ofBytes (List.replicate 1024 1)) "a" { mode := .readWrite } ()) {}
          = (.ok image, {})
        ∧ Operation.run [.verify] (image, {}) = state
        ∧ perform (patch 0 (List.replicate 100 2)) state = (.error (.partialBlock 100 512), state)
        ∧ perform (patch 1 (List.replicate 1024 2)) state = (.error (.outOfRange 1 3 2), state)
        ∧ perform (patch 1 (List.replicate 512 2)) state = (.ok 1, reached)
        ∧ BlockDevice.tell? reached.1 = some 2
        ∧ ((BlockDevice.readAt 1 512).run reached).1 = .complete (List.replicate 512 2)
        ∧ perform (ChangeFile.init "a.cf" 512 2) reached.2.disk = (.ok store, disk)
        ∧ ChangeFile.Refines "a.cf" 512 2 (store, disk)
          ⟨Ground.replaced (fun _ => none) 512 1 1 (List.replicate 512 2), 0⟩ := by
  have hsize : ImageType.raw = .raw → ∀ size, (Source.ofBytes (List.replicate 1024 1)).size {} = .ok size →
      size < range64 := by
    intro _ size hknown
    obtain rfl := Except.ok.inj (size_onesInMemory.symm.trans hknown)
    decide
  -- what is patched stays a variable of known length, so that no step computes with its bytes
  have hdata : ∀ n, ∃ data : Bytes, List.replicate n 2 = data ∧ data.length = n :=
    fun n => ⟨_, rfl, List.length_replicate⟩
  obtain ⟨part, hpart, hpartial⟩ := hdata 100
  obtain ⟨past, hpast, hbeyond⟩ := hdata 1024
  obtain ⟨data, hone, hlength⟩ := hdata 512
  rw [hpart, hpast, hone]
  have hpatch := patch_admission hsize ofSource_onesInMemory [.verify]
    (show Operation.run [.verify] _ = Prod.map .raw id onesInMemory from rfl)
    (show BlockDevice.blockSize? _ = some 512 from rfl) (show BlockDevice.blockCount? _ = some 2 from rfl)
  obtain ⟨reached, hok, htell, hread, hlasting⟩ :=
    (((hpatch 1 data).2.2 ⟨1, hlength⟩ (by rw [hlength])).2 (by decide)).2 ready_onesInMemory
  rw [hlength] at hok htell hread hlasting
  obtain ⟨store, disk, hinit, hhas⟩ := hlasting () "a.cf" (ChangeFile.lasting "a.cf" 512 2 .directory {} ())
  have hblock := hread 0 1 (by decide)
  rw [Nat.zero_mul, Nat.one_mul, Bytes.slice, List.drop_zero, List.take_of_length_le (Nat.le_of_eq hlength)] at hblock
  refine ⟨_, _, reached, store, disk, ofSource_onesInMemory, rfl, ?_, ?_, hok, htell, hblock, hinit, hhas.1⟩
  · exact ((hpatch 0 part).1 (by rw [hpartial]; decide)).trans (by rw [hpartial]; rfl)
  · exact ((hpatch 1 past).2.1 ⟨2, hbeyond⟩ (by rw [hbeyond]; decide)).trans (by rw [hbeyond]; rfl)

end AnyImage

end PartitionImage
