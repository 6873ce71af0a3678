import PartitionImage.Proofs.Holding
import PartitionImage.Proofs.RawImage.Mount
/-!
# The changes of a raw image

What is written to a raw image is in the change file when the handle is closed, and is found there by the next handle.

* `RawImage.exists_verify` opens a handle where the changes are at rest.
* `RawImage.Placed` is a handle that is read, whatever happens to other files; `RawImage.Placed.read` is one block.
* `RawImage.handles` puts it together.
-/

namespace PartitionImage.RawImage

open PartitionImage.Action (perform perform_bind_ok)
open ChangeFile (Moved Roomy reads_moved)

variable {site : Site} {start : Disk} {blockSize totalBlocks : Nat} {blocks : Nat → Option Bytes}
  {state after : RawImage ChangeFile × World}

/-! ### Verification -/

/-- **A handle is verified where the changes are at rest**, and has them. -/
theorem exists_verify {world : World} (h : site.Rests blockSize totalBlocks blocks world.disk)
    (hroomy : Roomy blockSize) (hblockSize : blockSizeFor site.bytes.length = blockSize)
    (htotal : site.bytes.length / blockSize = totalBlocks) {options : OpenOptions}
    (hmode : options.mode = .readWrite) (hoverlay : options.overlay = some site.overlay) :
    ∃ verified, perform verify (ofFile site.base (world.disk.length site.base) site.path options (), world)
        = (.ok (), verified)
      ∧ BlockDevice.Holding site RawImage.source mount (Verified .readWrite blockSize totalBlocks) world.disk blockSize
        totalBlocks blocks verified
      ∧ verified.2.disk = world.disk := by
  obtain ⟨mode, overlay, strict, factor⟩ := options
  obtain rfl : mode = .readWrite := hmode
  obtain rfl : overlay = some site.overlay := hoverlay
  have hlength : world.disk.length site.base = site.bytes.length := by rw [Disk.length_eq, h.content_eq]
  rw [hlength]
  subst hblockSize htotal
  have hfresh : Fresh (.ofFile site.base) site.path ⟨.readWrite, some site.overlay, strict, factor⟩ world.disk
      (ofFile site.base site.bytes.length site.path ⟨.readWrite, some site.overlay, strict, factor⟩ ()) :=
    ⟨rfl, rfl, rfl, rfl, rfl, blockSizeFor_pos _, _, congrArg Except.ok hlength, rfl⟩
  obtain ⟨result, hinit, hheld, hwhole⟩ := h.init
  obtain ⟨verified, hverify, hoverlay, hdisk⟩ : ∃ verified,
      perform verify (ofFile site.base site.bytes.length site.path ⟨.readWrite, some site.overlay, strict, factor⟩ (),
        world) = (.ok (), verified) ∧ verified.1.overlay = result.toOption ∧ verified.2.disk = world.disk := by
    have hattach := perform_initOverlay (O := ChangeFile) site.overlay
      (ofFile site.base site.bytes.length site.path ⟨.readWrite, some site.overlay, strict, factor⟩ (), world)
    dsimp only [ofFile] at hattach hinit
    rw [show perform (Overlay.init (O := ChangeFile) _ site.overlay _ _) world.disk = _ from hinit] at hattach
    rw [verify, perform_bind_ok (perform_require _ _), perform_bind_ok (Action.perform_get _)]
    dsimp only [ofFile]
    cases result with
    | error error =>
      rw [perform_bind_ok hattach]
      exact ⟨_, rfl, rfl, rfl⟩
    | ok file =>
      obtain ⟨hclean, hroom⟩ := hwhole file rfl
      dsimp only at hattach
      rw [ChangeFile.perform_verifyStore hclean, ChangeFile.verdict_eq_ok_iff.mpr hroom] at hattach
      rw [perform_bind_ok hattach]
      exact ⟨_, rfl, rfl, rfl⟩
  have hsized : Sized .readWrite (blockSizeFor site.bytes.length)
      (site.bytes.length / blockSizeFor site.bytes.length)
      (ofFile (O := ChangeFile) site.base site.bytes.length site.path
        ⟨.readWrite, some site.overlay, strict, factor⟩ (), world) := by
    refine ⟨rfl, rfl, rfl, ?_, fun hmode => ?_⟩
    · rintro store ⟨⟩
    · cases hmode
  refine ⟨verified, hverify, ⟨guarded_of_verify hsized rfl (hfresh.safe h.sound h.bounded) hverify, ?_⟩, hdisk⟩
  show site.Held _ _ _ verified.1.overlay verified.2.disk
  rw [hoverlay, hdisk]
  exact hheld

/-! ### Reading -/

/-- A verified handle with its cursor on a block, and the image with its changes behind it. -/
structure Placed (site : Site) (written : FileId) (blockSize totalBlocks : Nat) (blocks : Nat → Option Bytes)
    (block : Nat) (state : RawImage ChangeFile × World) : Prop where
  verified : state.1.verified = true
  blockSize_eq : state.1.blockSize = blockSize
  totalBlocks_eq : state.1.totalBlocks = totalBlocks
  cursor_eq : state.1.cursor = block
  view : site.View written blockSize totalBlocks blocks state.1.source state.1.overlay state.2.disk

namespace Placed

variable {written : FileId} {block : Nat}

theorem beside (h : Placed site written blockSize totalBlocks blocks block state) {disk : Disk}
    (hbeside : Disk.Beside written state.2.disk disk) :
    Placed site written blockSize totalBlocks blocks block (state.1, state.2.withDisk disk) :=
  ⟨h.verified, h.blockSize_eq, h.totalBlocks_eq, h.cursor_eq, h.view.beside hbeside⟩

/-- What is asked of a handle leaves what can be read, and the disk. -/
theorem uses (h : Placed site written blockSize totalBlocks blocks block state) (huses : Uses Moved state after) :
    Placed site written blockSize totalBlocks blocks after.1.cursor after ∧ after.2.disk = state.2.disk := by
  obtain ⟨hview, hdisk⟩ := h.view.moved huses.source huses.used
  exact ⟨⟨huses.verified.trans h.verified, huses.blockSize.trans h.blockSize_eq,
    huses.totalBlocks.trans h.totalBlocks_eq, rfl, hview⟩, hdisk⟩

theorem shows (h : Placed site written blockSize totalBlocks blocks block state) :
    state.1.mount.Shows state.1.blockSize state.1.totalBlocks blocks state.2.disk := by
  rw [h.blockSize_eq, h.totalBlocks_eq]
  exact h.view.carries.shows

theorem seek (h : Placed site written blockSize totalBlocks blocks block state) {asked : Nat}
    (hasked : asked ≤ totalBlocks) :
    ∃ reached, perform (RawImage.seek asked) state = (.ok (), reached)
      ∧ Placed site written blockSize totalBlocks blocks asked reached ∧ reached.2.disk = state.2.disk := by
  have huses := seek_uses reads_moved asked state
  obtain ⟨reached, hmove, -⟩ := exists_seekOverlay h.shows (h.totalBlocks_eq.symm ▸ hasked)
  have hseek : perform (RawImage.seek asked) state = (.ok (), atBlock asked reached) := by
    rw [perform_seek h.verified, h.totalBlocks_eq, if_neg (Nat.not_lt.mpr hasked), hmove]
  rw [hseek] at huses
  exact ⟨_, hseek, h.uses huses⟩

theorem base_eq (h : Placed site written blockSize totalBlocks blocks block state)
    (hsize : totalBlocks * blockSize ≤ site.bytes.length) {asked : Nat} (hasked : asked < totalBlocks) :
    base state asked = .complete (site.bytes.slice (asked * blockSize) blockSize) := by
  have hplace : asked * blockSize + blockSize ≤ totalBlocks * blockSize := by
    rw [← Nat.succ_mul]
    exact Nat.mul_le_mul_right _ hasked
  have hlength : site.bytes.length ≤ Disk.maxOffset := by
    rw [← h.view.content_eq, ← Disk.length_eq]
    exact h.view.readable
  have hmax : Disk.maxOffset < range64 := by decide
  rw [base_of_lt (by rw [h.blockSize_eq]; omega), h.blockSize_eq,
    Source.readExact_ok h.view.delivers (Nat.le_trans hplace hsize)]
  rfl

/-- **A block is read as it was changed, or as it is in the image.** -/
theorem read (h : Placed site written blockSize totalBlocks blocks block state) (hpos : 0 < blockSize)
    (hsize : totalBlocks * blockSize ≤ site.bytes.length) (hblock : block < totalBlocks) :
    ∃ reached, (RawImage.read blockSize).run state
        = (.complete ((blocks block).getD (site.bytes.slice (block * blockSize) blockSize)), reached)
      ∧ Placed site written blockSize totalBlocks blocks (block + 1) reached ∧ reached.2.disk = state.2.disk := by
  have huses := read_uses reads_moved blockSize state
  obtain ⟨overlaid, asked, hask, hanswers, -⟩ := exists_readOverlay h.shows (h.totalBlocks_eq.symm ▸ hblock)
  have hasked := readOverlay_uses reads_moved block state
  rw [hask] at hasked
  have hone : ((readBlock block).run state).1
      = .complete ((blocks block).getD (site.bytes.slice (block * blockSize) blockSize)) := by
    rw [run_readBlock hask]
    cases hstored : blocks block with
    | some bytes =>
      rw [hstored] at hanswers
      obtain rfl : overlaid = _ := hanswers
      rfl
    | none =>
      rw [hstored] at hanswers
      have hanswers : overlaid.result = .ok .notPresent := hanswers
      rw [hanswers]
      exact (h.uses hasked).1.base_eq hsize hblock
  obtain ⟨reached, hrun⟩ : ∃ reached, (readBlock block).run state
      = (.complete ((blocks block).getD (site.bytes.slice (block * blockSize) blockSize)), reached) :=
    ⟨_, Prod.ext hone rfl⟩
  have hread : (RawImage.read blockSize).run state
      = (.complete ((blocks block).getD (site.bytes.slice (block * blockSize) blockSize)),
        atBlock (block + 1) reached) := by
    rw [run_read h.verified, h.blockSize_eq, Nat.mod_self, if_neg (fun hne => hne rfl), Nat.div_self hpos,
      run_readBlocks_succ, h.cursor_eq, h.totalBlocks_eq, if_neg (Nat.not_le.mpr hblock), hrun]
    show ((⟨_ ++ [], .ok ()⟩ : Transfer Error Unit), _) = _
    rw [List.append_nil]
    rfl
  rw [hread] at huses
  exact ⟨_, hread, h.uses huses⟩

theorem perform_isUsed (h : Placed site written blockSize totalBlocks blocks block state)
    (hblock : block < totalBlocks) :
    perform RawImage.isUsed state = (.ok true, state) := by
  have hready : state.1.ready .readReady = true := h.verified
  rw [RawImage.isUsed, Action.perform_bind, perform_require, if_pos hready]
  dsimp only
  rw [Action.perform_bind, perform_requireBlock, h.totalBlocks_eq, h.cursor_eq, if_neg (Nat.not_le.mpr hblock)]
  rfl

end Placed

/-! ### The handles of raw images -/

/-- The blocks of a raw image: all of them are used. -/
def payload? (bytes : Bytes) (blockSize block : Nat) : Option Bytes :=
  some (bytes.slice (block * blockSize) blockSize)

theorem or_payload? (bytes : Bytes) (blockSize block : Nat) :
    (blocks block).or (payload? bytes blockSize block)
      = some ((blocks block).getD (bytes.slice (block * blockSize) blockSize)) := by
  cases blocks block with
  | none => rfl
  | some changed => rfl

/-- **The blocks of a raw image are read one after the other.** -/
theorem Placed.readable {written : FileId} (hpos : 0 < blockSize) (hsize : totalBlocks * blockSize ≤ site.bytes.length)
    (hlength : ∀ {block bytes}, block < totalBlocks → blocks block = some bytes → bytes.length = blockSize) :
    Export.Readable written blockSize totalBlocks
      (fun block => ((blocks block).or (payload? site.bytes blockSize block)).isSome)
      (fun block => ((blocks block).or (payload? site.bytes blockSize block)).getD
        (List.replicate blockSize unusedBlockFill))
      (Placed site written blockSize totalBlocks blocks) where
  isUsed := by
    intro block state h hblock
    rw [or_payload?]
    exact ⟨state, h.perform_isUsed hblock, h, rfl⟩
  read := by
    intro block state h hblock
    rw [or_payload?]
    exact h.read hpos hsize hblock
  length_eq := by
    intro block hblock
    have hplace : block * blockSize + blockSize ≤ totalBlocks * blockSize := by
      rw [← Nat.succ_mul]
      exact Nat.mul_le_mul_right _ hblock
    rw [or_payload?]
    cases hchanged : blocks block with
    | none => exact Bytes.length_slice_of_le (Nat.le_trans hplace hsize)
    | some bytes => exact hlength hblock hchanged
  apart h hchanges := h.beside hchanges.beside

/-- **Handles on a raw image keep its changes.** -/
theorem handles (hroomy : Roomy blockSize) (hsize : totalBlocks * blockSize ≤ site.bytes.length) :
    site.Handles blockSize totalBlocks (payload? site.bytes blockSize) fun blocks state =>
      ∃ (_ : Unit) (start : Disk), BlockDevice.Holding site RawImage.source mount
        (Verified .readWrite blockSize totalBlocks) start blockSize totalBlocks blocks state := by
  refine BlockDevice.Layered.siteHandles (fun _ => layered .readWrite hroomy.blockSize_pos totalBlocks) hroomy ?_
  intro _ start blocks state written h hbase hoverlay
  have hview := h.held.view h.guards.later hbase hoverlay
  have hplaced : Placed site written blockSize totalBlocks blocks state.1.cursor state :=
    ⟨h.handle.verified, h.handle.blockSize_eq, h.handle.totalBlocks_eq, rfl, hview⟩
  exact ⟨_, Placed.readable hroomy.blockSize_pos hsize (fun hblock => h.held.lent.length_eq hblock),
    fun disk hbeside => (hplaced.beside hbeside).seek (Nat.zero_le _)⟩

end PartitionImage.RawImage
