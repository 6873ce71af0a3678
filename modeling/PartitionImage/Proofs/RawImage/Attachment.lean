import PartitionImage.Proofs.RawImage.Steps
/-!
# The overlay of a raw image

The bytes of a raw image are the device, and the change file beside it is longer than they are: an image that
could pass for a change file of its own would not have room for its slots.

* `RawImage.Fresh` is a handle as it is opened on a source.
* `RawImage.length_lt_wholeLength` says that the slots have no room, `RawImage.Fresh.safe` what follows.
* `RawImage.guards_of_verify` is what is known of the overlay of a verified handle.
-/

namespace PartitionImage.RawImage

open PartitionImage.Action (Respects Maintains perform perform_bind_inv perform_bind_ok)
open ChangeFile (Silent Ends wholeLength dataOffset)

variable {source : Source} {path : String} {options : OpenOptions} {world : World}
  {image : RawImage ChangeFile}

/-! ### Opening -/

theorem blockSizeFor_pos (size : Nat) : 0 < blockSizeFor size := by
  unfold blockSizeFor
  split <;> decide

theorem le_blockSizeFor (size : Nat) : 512 ≤ blockSizeFor size := by
  unfold blockSizeFor
  split <;> decide

theorem blockSizeFor_lt (size : Nat) : blockSizeFor size < Bytes.capacity 4 := by
  unfold blockSizeFor
  split <;> decide

/-- A handle on a source as it was opened: as many blocks as the source has room for, and no overlay. -/
structure Fresh (source : Source) (path : String) (options : OpenOptions) (disk : Disk)
    (image : RawImage ChangeFile) : Prop where
  source_eq : image.source = source
  path_eq : image.path = path
  mode_eq : image.mode = options.mode
  overlayPath_eq : image.overlayPath = options.overlay
  overlay_eq : image.overlay = none
  blockSize_pos : 0 < image.blockSize
  sized : ∃ size, source.size disk = .ok size ∧ image.totalBlocks = size / image.blockSize

theorem ofSource_inv {opened : World}
    (h : perform (ofSource source path options ()) world = (.ok image, opened)) :
    opened = world ∧ Fresh source path options world.disk image := by
  obtain ⟨rfl, size, hsize, rfl⟩ := opened_of_ofSource h
  exact ⟨rfl, rfl, rfl, rfl, rfl, rfl, blockSizeFor_pos size, size, hsize, rfl⟩

def groundOf (start : RawImage ChangeFile × World) : Ground where
  source := start.1.source
  disk := start.2.disk
  path := start.1.route
  blockSize := start.1.blockSize
  totalBlocks := start.1.totalBlocks
  mode := start.1.mode
  configured := start.1.overlayPath

/-- The slots of a change file have no room in an image of the same geometry. -/
theorem length_lt_wholeLength {size blockSize : Nat} (hblockSize : 0 < blockSize) :
    size < wholeLength blockSize (size / blockSize) := by
  have hsplit := Nat.div_add_mod size blockSize
  have hrest := Nat.mod_lt size hblockSize
  have hround : blockSize ≤ dataOffset blockSize (size / blockSize) := by
    have hmax : max blockSize 1 = blockSize := Nat.max_eq_left hblockSize
    have hquot : 1 ≤ (ChangeFile.headerSize + bytesForBits (size / blockSize) + blockSize - 1) / blockSize :=
      (Nat.le_div_iff_mul_le hblockSize).mpr (by rw [ChangeFile.headerSize]; omega)
    rw [dataOffset, ChangeFile.roundUp, hmax]
    exact Nat.le_trans (Nat.le_of_eq (Nat.one_mul _).symm) (Nat.mul_le_mul_right _ hquot)
  rw [wholeLength, Nat.mul_comm (size / blockSize)]
  omega

/-- The bytes of a raw image are no change file of its geometry. -/
theorem Fresh.safe (h : Fresh source path options world.disk image) (hsound : world.disk.Sound)
    (hbounded : world.disk.Bounded) : (groundOf (image, world)).Safe image.source world.disk := by
  refine ⟨.refl _, hsound, hbounded, ?_, fun _ _ => rfl⟩
  intro id hid
  obtain ⟨hbacking, hblocks⟩ := Ground.file?_eq_some_iff.mp hid
  have hbacking : source.backing = .file id := h.source_eq ▸ hbacking
  obtain ⟨size, hsize, htotal⟩ := h.sized
  obtain rfl : world.disk.length id = size := by
    unfold Source.size at hsize
    split at hsize
    · cases hsize
    · rw [hbacking] at hsize
      exact Except.ok.inj hsize
  have hblocks : 0 < image.totalBlocks := hblocks
  refine ⟨?_, .inr ?_⟩
  · refine Nat.pos_of_ne_zero fun hzero => ?_
    rw [htotal, hzero, Nat.zero_div] at hblocks
    exact Nat.lt_irrefl 0 hblocks
  · show _ < wholeLength image.blockSize image.totalBlocks
    rw [htotal]
    exact length_lt_wholeLength h.blockSize_pos

/-! ### Verification -/

theorem initOverlay_inv {start reached : RawImage ChangeFile × World}
    (hsafe : (groundOf start).Safe start.1.source start.2.disk) (hnone : start.1.overlay = none) {path : String}
    (hpath : start.1.overlayPath = some path)
    (h : perform (initOverlay path) start = (.ok (), reached)) :
    reached.1.route = start.1.route
      ∧ (groundOf start).Guards reached.1.source reached.1.overlay reached.2.disk := by
  obtain rfl : start.1.route = path := by
    rw [route, hpath]
    rfl
  have hends : Ends start.1.route start.1.blockSize start.1.totalBlocks start.2.disk _ _ :=
    ChangeFile.init_end hsafe.sound rfl
  have hdisk : (perform (ChangeFile.init start.1.route start.1.blockSize start.1.totalBlocks)
      start.2.disk).2 = start.2.disk := ChangeFile.init_disk _ _ _ start.2.disk
  rw [initOverlay, perform_bind_ok (Action.perform_get start)] at h
  dsimp only at h
  rw [Action.perform_bind, Action.perform_attempt, Action.perform_onWorld_zoom, Action.mapError_id] at h
  dsimp only at h
  split at h
  · next error herror =>
    cases h
    have hsilent : Silent start.1.route start.1.blockSize start.1.totalBlocks
        (perform (ChangeFile.init start.1.route start.1.blockSize start.1.totalBlocks) start.2.disk).2 := by
      rw [hdisk]
      exact ChangeFile.silent_of_error herror
    refine ⟨rfl, hsafe.spared hends.spares, ?_, fun _ _ => hsilent⟩
    intro file hfile
    rw [show start.1.overlay = some file from hfile] at hnone
    cases hnone
  · next store hstore =>
    have hopened := hends.opened store hstore
    obtain ⟨kept, state, hkeep, h⟩ := perform_bind_inv h
    rw [Action.perform_onDisk, ChangeFile.perform_verifyStore hopened.clean, hopened.blockSize_eq,
      hopened.totalBlocks_eq] at hkeep
    obtain ⟨hresult, rfl⟩ := Prod.mk.inj hkeep
    cases hverdict : ChangeFile.verdict start.1.blockSize start.1.totalBlocks _ with
    | error error =>
      rw [hverdict] at hresult
      cases hresult
    | ok done =>
      rw [hverdict] at hresult
      cases hresult
      cases h
      have hattached := hsafe.attached hends.spares hopened (ChangeFile.verdict_eq_ok_iff.mp hverdict).room
      exact ⟨rfl, (hsafe.spared hends.spares).guards hattached⟩

/-- **Whatever is under the path of the overlay, the source of a handle that was verified is safe from it.** -/
theorem guards_of_verify {start verified : RawImage ChangeFile × World}
    (hverify : perform verify start = (.ok (), verified)) (hnone : start.1.overlay = none)
    (hsafe : (groundOf start).Safe start.1.source start.2.disk) :
    verified.1.route = start.1.route
      ∧ (groundOf start).Guards verified.1.source verified.1.overlay verified.2.disk := by
  have hstay : start.1.mode.settles start.1.overlayPath = false →
      (groundOf start).Guards start.1.source start.1.overlay start.2.disk := by
    intro hsettles
    refine ⟨hsafe, ?_, ?_⟩
    · intro file hfile
      rw [show start.1.overlay = some file from hfile] at hnone
      cases hnone
    · intro h
      rw [show start.1.mode.settles start.1.overlayPath = true from h] at hsettles
      cases hsettles
  rw [verify, Action.perform_bind, perform_require] at hverify
  split at hverify
  case h_2 heq => cases hverify
  case h_1 heq =>
  obtain ⟨-, rfl⟩ := Prod.mk.inj heq
  rw [perform_bind_ok (Action.perform_get _)] at hverify
  dsimp only at hverify
  cases hmode : start.1.mode with
  | readOnly =>
    rw [hmode] at hverify
    cases hverify
    exact ⟨rfl, hstay (by rw [hmode]; rfl)⟩
  | readWrite =>
    rw [hmode] at hverify
    cases hpath : start.1.overlayPath with
    | none =>
      rw [hpath] at hverify
      cases hverify
      exact ⟨rfl, hstay (by rw [hmode, hpath]; rfl)⟩
    | some path =>
      rw [hpath] at hverify
      obtain ⟨_, reached, hinit, hverify⟩ := perform_bind_inv hverify
      cases hverify
      have hreached := initOverlay_inv hsafe hnone hpath hinit
      exact hreached
  | create =>
    rw [hmode] at hverify
    obtain ⟨_, reached, hattach, hverify⟩ := perform_bind_inv hverify
    cases hverify
    rw [perform_attachOverlay] at hattach
    rcases hmake : perform (makeOverlay start.1.setup start.1.route start.1.blockSize
      start.1.totalBlocks) start.2.disk with ⟨made, disk⟩
    have hend := hsafe.attach start.1.setup hmake
    rw [hmake] at hattach
    cases made with
    | error error => cases hattach
    | ok store =>
      cases hattach
      exact ⟨rfl, hend.1⟩

end PartitionImage.RawImage
