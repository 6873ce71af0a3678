import PartitionImage.Proofs.Holding
import PartitionImage.Proofs.Image.Archive
import PartitionImage.Proofs.Image.Mount
/-!
# The changes of an image

What is written to an image is in the change file when the handle is closed, and is found there by the next handle.

* `Image.Reading` is what a handle has read of an image that was made, `Image.Reading.layered` makes a `Layered` device
  of the handles on it.
* `Image.exists_verify_rests` opens a handle where the changes are at rest.
* `Image.Placed` is a handle that is read, whatever happens to other files; `Image.Placed.read` is one block.
* `Image.handles` puts it together.
-/

namespace PartitionImage.Image

open PartitionImage.Action (perform perform_bind_ok)
open ChangeFile (Roomy reads_moved)

variable {site : Site} {start : Disk} {blockSize totalBlocks : Nat} {descriptor : Descriptor} {map : BlockMap}
  {blocks : Nat → Option Bytes} {state : Image ChangeFile × World}

/-! ### Handles on an image that was made -/

/-- What a handle that was opened for writing has read of an archive. -/
structure Reading (archive : Archive) where
  options : OpenOptions
  descriptor : Descriptor
  map : BlockMap
  mode_eq : options.mode = .readWrite
  mirrors : Mirrors (archive.device archive.records) descriptor map

namespace Reading

variable {archive : Archive}

def Handles (reading : Reading archive) : Image ChangeFile × World → Prop :=
  Sized reading.options reading.descriptor reading.map

theorem layered (reading : Reading archive) :
    BlockDevice.Layered Image.source mount .readWrite archive.blockSize archive.total reading.Handles := by
  have hlayered := Image.layered (O := ChangeFile) reading.options reading.mirrors.suits
  rw [reading.mode_eq,
    show reading.descriptor.blockSize = archive.blockSize from reading.mirrors.layout.blockSize_eq.symm,
    show reading.descriptor.totalBlocks = archive.total from reading.mirrors.total_eq] at hlayered
  exact hlayered

end Reading

/-! ### Verification -/

theorem exists_verifyOverlay (hspans : ∀ file, state.1.overlay = some file →
      ChangeFile.Spans file.blockSize file.totalBlocks (state.2.disk.length file.file)) :
    ∃ checked, perform verifyOverlay state = (.ok (), checked) ∧ checked.1.overlay = state.1.overlay
      ∧ checked.2.disk = state.2.disk := by
  cases hoverlay : state.1.overlay with
  | none => exact ⟨state, verifyOverlay_ok state hoverlay, hoverlay, rfl⟩
  | some file =>
    have hverify : perform (onOverlay file Overlay.verify) state
        = (.ok (), withOverlay (file, state.2.disk) state) := by
      have hrun : perform (Overlay.verify (O := ChangeFile)) (file, state.2.disk) = _ :=
        ChangeFile.perform_verify file state.2.disk
      rw [onOverlay, Action.perform_zoom, hrun, ChangeFile.verdict_eq_ok_iff.mpr (hspans file hoverlay)]
      rfl
    rw [verifyOverlay, perform_bind_ok (Action.perform_get state), hoverlay]
    dsimp only
    rw [perform_bind_ok hverify]
    exact ⟨_, rfl, rfl, rfl⟩

/-- **Where the changes are at rest, verification opens and verifies them**, whatever it does in between. -/
theorem exists_settled {world : World} (h : site.Rests blockSize totalBlocks blocks world.disk)
    {options : OpenOptions} (hmode : options.mode = .readWrite) (hoverlay : options.overlay = some site.overlay) :
    ∃ overlay, site.Held blockSize totalBlocks blocks overlay world.disk
      ∧ ∀ before, Plain (ofSource (.ofFile site.base) site.path options (), world) before →
        ∃ attached, perform (initOverlay blockSize totalBlocks) before = (.ok (), attached)
          ∧ Steady before attached ∧ attached.2.disk = before.2.disk
          ∧ ∀ loaded, Plain attached loaded → ∃ checked, perform verifyOverlay loaded = (.ok (), checked)
            ∧ checked.1.overlay = overlay ∧ checked.2.disk = world.disk := by
  obtain ⟨result, hinit, hheld, hspans⟩ := h.init
  refine ⟨result.toOption, hheld, fun before hbefore => ?_⟩
  have hdisk : before.2.disk = world.disk := hbefore.disk
  have hattach := perform_initOverlay blockSize totalBlocks
    ((congrArg OpenOptions.mode hbefore.options).trans hmode) (hbefore.overlayPath.trans hoverlay)
  rw [hdisk, show perform (Overlay.init (O := ChangeFile) _ site.overlay _ _) _ = _ from hinit] at hattach
  cases result with
  | error error =>
    refine ⟨_, hattach, ⟨.refl _, rfl⟩, hdisk.symm, fun loaded hloaded => ?_⟩
    have hnone : loaded.1.overlay = none := hloaded.overlay.trans hbefore.overlay
    exact ⟨loaded, verifyOverlay_ok loaded hnone, hnone, hloaded.disk⟩
  | ok file =>
    refine ⟨_, hattach, ⟨.refl _, rfl⟩, hdisk.symm, fun loaded hloaded => ?_⟩
    have hfile : loaded.1.overlay = some file := hloaded.overlay
    have hsame : loaded.2.disk = world.disk := hloaded.disk
    obtain ⟨checked, hcheck, hkept, hend⟩ := @exists_verifyOverlay loaded fun other hother => by
      obtain rfl := Option.some.inj (hfile.symm.trans hother)
      rw [hsame]
      exact (hspans file rfl).2
    exact ⟨checked, hcheck, hkept.trans hfile, hend.trans hsame⟩

/-- **An image that was made is verified where its changes are at rest**, and has them. -/
theorem exists_verify_rests (archive : Archive) (hbytes : site.bytes = archive.bytes) {world : World}
    (h : site.Rests archive.blockSize archive.total blocks world.disk)
    (hmemory : bytesForBits archive.total < allocationLimit)
    {options : OpenOptions} (hmode : options.mode = .readWrite) (hoverlay : options.overlay = some site.overlay) :
    ∃ (reading : Reading archive) (verified : Image ChangeFile × World),
      perform verify (ofSource (.ofFile site.base) site.path options (), world) = (.ok (), verified)
        ∧ BlockDevice.Holding site Image.source mount reading.Handles world.disk archive.blockSize archive.total blocks
          verified
        ∧ verified.2.disk = world.disk := by
  obtain ⟨described, map, haccepted, hmap, hmirrors, hused⟩ :=
    exists_map archive archive.records options.factor hmemory
  have hblockSize : described.blockSize = archive.blockSize := hmirrors.layout.blockSize_eq.symm
  have htotal : described.totalBlocks = archive.total := hmirrors.total_eq
  have hdelivers : (Source.ofFile site.base).Delivers world.disk archive.bytes := by
    rw [← hbytes, ← h.content_eq]
    exact (Source.faultless_ofFile (h.bounded site.base)).toDelivers
  obtain ⟨overlay, hheld, hsettles⟩ := exists_settled h hmode hoverlay
  rw [← hblockSize, ← htotal] at hsettles
  obtain ⟨checked, hverify, hkept, hend⟩ := exists_verify_of rfl hdelivers haccepted hmap (fun _ => hused) hsettles
  have hground : groundOf (ofSource (O := ChangeFile) (.ofFile site.base) site.path options (), world)
      (described.repaired map.stats.used) = site.ground world.disk archive.blockSize archive.total := by
    rw [groundOf, Site.ground, ← hblockSize, ← htotal]
    congr 1
    exact congrArg (Option.getD · _) hoverlay
  have hguarded := guarded_of_verify ⟨rfl, rfl, rfl, rfl⟩ h.sound h.bounded hverify rfl
  rw [hground] at hguarded
  refine ⟨⟨options, _, map, hmode, hmirrors⟩, _, hverify, ⟨hguarded, ?_⟩, hend⟩
  show site.Held _ _ _ checked.1.overlay checked.2.disk
  rw [hkept, hend]
  exact hheld

/-! ### Reading -/

theorem overlaid_of_carries
    (h : ChangeFile.Carries site.overlay blockSize totalBlocks blocks state.1.mount.store state.2.disk) :
    Overlaid blockSize totalBlocks blocks state := h.shows

/-- A verified handle with its cursor on a block and its count in step, and the image with its changes behind it. -/
structure Placed (site : Site) (written : FileId) (archive : Archive) (descriptor : Descriptor) (map : BlockMap)
    (blocks : Nat → Option Bytes) (block : Nat) (state : Image ChangeFile × World) : Prop where
  stage : state.1.stage = .verified descriptor map
  cursor_eq : state.1.cursor = block
  passed_eq : state.1.passed = map.bitmap.count 0 block
  view : site.View written archive.blockSize archive.total blocks state.1.source state.1.overlay state.2.disk

variable {archive : Archive} {written : FileId} {block : Nat}

theorem exists_seek (hmirrors : Mirrors (archive.device archive.records) descriptor map)
    (hstage : state.1.stage = .verified descriptor map)
    (hview : site.View written archive.blockSize archive.total blocks state.1.source state.1.overlay state.2.disk)
    (hblock : block ≤ archive.total) :
    ∃ reached, perform (seek block) state = (.ok (), reached)
      ∧ Placed site written archive descriptor map blocks block reached ∧ reached.2.disk = state.2.disk := by
  have huses := seek_uses reads_moved block state
  obtain ⟨reached, hmove, -, -⟩ := (overlaid_of_carries hview.carries).seek hblock
  have htotal : descriptor.totalBlocks = archive.total := hmirrors.total_eq
  have hseek : perform (seek block) state = (.ok (), soughtAt map.bitmap block reached) := by
    rw [perform_seek hmirrors.suits hstage, htotal, if_neg (Nat.not_lt.mpr hblock), hmove]
  rw [hseek] at huses
  obtain ⟨hreached, hdisk⟩ := hview.moved huses.source huses.used
  exact ⟨_, hseek, ⟨huses.stage.trans hstage, rfl, rfl, hreached⟩, hdisk⟩

namespace Placed

theorem beside (h : Placed site written archive descriptor map blocks block state) {disk : Disk}
    (hbeside : Disk.Beside written state.2.disk disk) :
    Placed site written archive descriptor map blocks block (state.1, state.2.withDisk disk) :=
  ⟨h.stage, h.cursor_eq, h.passed_eq, h.view.beside hbeside⟩

/-- **A block is read as it was changed, or as it is in the image.** -/
theorem read (hmirrors : Mirrors (archive.device archive.records) descriptor map) (hbytes : site.bytes = archive.bytes)
    (h : Placed site written archive descriptor map blocks block state) (hblock : block < archive.total) :
    ∃ reached, (Image.read archive.blockSize).run state
        = (.complete (((blocks block).or (archive.payload? block)).getD
            (List.replicate archive.blockSize unusedBlockFill)), reached)
      ∧ Placed site written archive descriptor map blocks (block + 1) reached ∧ reached.2.disk = state.2.disk := by
  have huses := read_uses reads_moved archive.blockSize state
  have hsource : state.1.source.Delivers state.2.disk archive.bytes := hbytes ▸ h.view.delivers
  have hoffsets : archive.bytes.length < range64 := by
    rw [← hbytes, ← h.view.content_eq, ← Disk.length_eq]
    exact Nat.lt_of_le_of_lt h.view.readable (by decide)
  have hcursor : state.1.cursor < archive.total := h.cursor_eq.symm ▸ hblock
  have hpassed : state.1.passed = (archive.device archive.records).rank block :=
    h.passed_eq.trans (hmirrors.count_eq (Nat.le_of_lt hblock))
  obtain ⟨transfer, reached, hread, hgives, hmoves, -, -⟩ := read_one (hmirrors.changed blocks) h.stage hsource
    (overlaid_of_carries h.view.carries) hcursor fun _ hmarked => by
      rw [hpassed]
      rw [h.cursor_eq] at hmarked
      exact Archive.recordStart_rank_lt hoffsets hblock hmarked
  rw [h.cursor_eq, hpassed] at hgives
  have hgives : (((archive.device archive.records).changed blocks).block block).Gives block transfer := hgives
  rw [Archive.changed_block blocks hblock] at hgives
  obtain rfl := hgives.eq_complete
  have hread : (Image.read archive.blockSize).run state = (_, reached) := hread
  rw [hread] at huses
  obtain ⟨hview, hdisk⟩ := h.view.moved huses.source huses.used
  refine ⟨reached, hread, ⟨hmoves.stage.trans h.stage, ?_, ?_, hview⟩, hdisk⟩
  · rw [hmoves.cursor, h.cursor_eq]
    rfl
  · have hset : map.bitmap.isSet block = (archive.device archive.records).marked block :=
      hmirrors.fits.isSet_eq block hblock
    rw [hmoves.passed, h.passed_eq, h.cursor_eq, Bitmap.count_succ, Nat.zero_add, hset]
    rfl

theorem holds (h : Placed site written archive descriptor map blocks block state) (hblock : block < archive.total) :
    ∃ reached, perform (seekOverlay block) state = (.ok (), reached)
      ∧ reached.1.overlay.any Overlay.holds = (blocks block).isSome := by
  rw [perform_seekOverlay]
  cases hoverlay : state.1.overlay with
  | none =>
    refine ⟨state, rfl, ?_⟩
    rw [hoverlay, h.view.carries.none_eq hoverlay block hblock]
    rfl
  | some file =>
    have hfile := h.view.carries.refines file hoverlay
    have hmove : perform (Overlay.seek block) (file, state.2.disk) = _ :=
      ChangeFile.perform_seek block file state.2.disk
    have htotal : file.totalBlocks = archive.total := hfile.totalBlocks_eq
    have hholds := (hfile.moved block).holds_eq
    dsimp only at hholds ⊢
    rw [hmove, if_neg (by rw [htotal]; exact Nat.not_lt.mpr (Nat.le_of_lt hblock))]
    refine ⟨_, rfl, ?_⟩
    rw [decide_eq_true hblock, Bool.true_and] at hholds
    exact hholds

/-- A block is used if it was changed, or if it is used in the image. -/
theorem isUsed (hmirrors : Mirrors (archive.device archive.records) descriptor map)
    (h : Placed site written archive descriptor map blocks block state) (hblock : block < archive.total) :
    ∃ reached, perform Image.isUsed state = (.ok ((blocks block).or (archive.payload? block)).isSome, reached)
      ∧ Placed site written archive descriptor map blocks block reached ∧ reached.2.disk = state.2.disk := by
  have huses := isUsed_uses reads_moved state
  have hstill := isUsed_still state
  obtain ⟨hview, hdisk⟩ := h.view.moved huses.source huses.used
  refine ⟨_, Prod.ext ?_ rfl, ⟨hstill.stage.trans h.stage, hstill.cursor.trans h.cursor_eq,
    hstill.passed.trans h.passed_eq, hview⟩, hdisk⟩
  obtain ⟨reached, hmove, hholds⟩ := h.holds hblock
  have htotal : descriptor.totalBlocks = archive.total := hmirrors.total_eq
  have hset : map.bitmap.isSet block = (archive.payload? block).isSome := by
    rw [hmirrors.fits.isSet_eq block hblock, Archive.isSome_payload? archive.records hblock]
    rfl
  have hget : map.bitmap.get? block = some (archive.payload? block).isSome := by
    rw [map.bitmap.get?_eq_some (hmirrors.fits.length_eq.symm ▸ hblock), hset]
  rw [Image.isUsed, perform_bind_ok (perform_readyMap h.stage)]
  dsimp only
  rw [Action.perform_bind, perform_requireBlock, h.cursor_eq, htotal, if_neg (Nat.not_le.mpr hblock)]
  dsimp only
  rw [perform_bind_ok (Action.perform_get state), h.cursor_eq, perform_bind_ok hmove,
    perform_bind_ok (Action.perform_get reached), hholds, hget]
  cases blocks block with
  | some bytes => rfl
  | none => rfl

end Placed

/-! ### The handles of images that were made -/

/-- **The blocks of an image are read one after the other.** -/
theorem Placed.readable (hmirrors : Mirrors (archive.device archive.records) descriptor map)
    (hbytes : site.bytes = archive.bytes)
    (hlength : ∀ {block bytes}, block < archive.total → blocks block = some bytes → bytes.length = archive.blockSize) :
    Export.Readable written archive.blockSize archive.total
      (fun block => ((blocks block).or (archive.payload? block)).isSome)
      (fun block => ((blocks block).or (archive.payload? block)).getD
        (List.replicate archive.blockSize unusedBlockFill))
      (Placed site written archive descriptor map blocks) where
  isUsed h hblock := h.isUsed hmirrors hblock
  read h hblock := h.read hmirrors hbytes hblock
  length_eq := by
    intro block hblock
    cases hchanged : blocks block with
    | some bytes => exact hlength hblock hchanged
    | none =>
      rw [Option.none_or, Archive.payload?, List.getElem?_eq_getElem hblock]
      cases archive.blocks[block] with
      | none => exact List.length_replicate
      | some payload => exact payload.length_val
  apart h hchanges := h.beside hchanges.beside

/-- **Handles on an image that was made keep its changes.** -/
theorem handles (archive : Archive) (hbytes : site.bytes = archive.bytes) (hroomy : Roomy archive.blockSize) :
    site.Handles archive.blockSize archive.total archive.payload? fun blocks state =>
      ∃ (reading : Reading archive) (start : Disk), BlockDevice.Holding site Image.source mount reading.Handles start
        archive.blockSize archive.total blocks state := by
  refine BlockDevice.Layered.siteHandles Reading.layered hroomy ?_
  intro reading start blocks state written h hbase hoverlay
  refine ⟨_, Placed.readable reading.mirrors hbytes (fun hblock => h.held.lent.length_eq hblock),
    fun disk hbeside => ?_⟩
  have hview := (h.held.view h.guards.later hbase hoverlay).beside hbeside
  exact @exists_seek site reading.descriptor reading.map blocks (state.1, state.2.withDisk disk) archive written 0
    reading.mirrors h.handle.stage hview (Nat.zero_le _)

end PartitionImage.Image
