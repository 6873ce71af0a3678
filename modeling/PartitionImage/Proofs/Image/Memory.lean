import PartitionImage.Proofs.Image.Archive
/-!
# Handles in memory

A handle on bytes in memory whose changes go to a store in memory: nothing can fail but what the bytes
bring with them, so that what calls leave can be said in full.

* `Image.Ready` is such a handle after it was verified; `Image.exists_ready` says that it gets there.
* `Image.write_one` says what the first block that is written leaves.
-/

namespace PartitionImage.Image

open PartitionImage.Action (perform perform_bind_ok)

variable {descriptor : Descriptor} {map : BlockMap}

/-- A handle in memory that was verified, before anything else was done. -/
structure Ready (device : Device) (descriptor : Descriptor) (map : BlockMap)
    (state : Image MemoryStore × World) : Prop where
  stage : state.1.stage = .verified descriptor map
  mirrors : Mirrors device descriptor map
  source : state.1.source.Delivers state.2.disk device.bytes
  mode : state.1.options.mode = .readWrite
  overlay : state.1.overlay = none
  setup : state.1.setup = ([] : List MemoryStore.Operation)
  cursor : state.1.cursor = 0
  passed : state.1.passed = 0

theorem exists_ready (archive : Archive) (tail : Bytes)
    (hmemory : bytesForBits archive.total < allocationLimit) :
    ∃ verified descriptor map, perform verify (inMemory (archive.image tail)) = (.ok (), verified)
      ∧ Ready (archive.device tail) descriptor map verified := by
  have hopened : (inMemory (archive.image tail)).1.stage = .opened := rfl
  have hsource : (inMemory (archive.image tail)).1.source.Delivers
      (inMemory (archive.image tail)).2.disk (archive.image tail) := Source.delivers_ofBytes _ _
  obtain ⟨verified, descriptor, map, hverify, hplain, hstage, hmirrors⟩ :=
    exists_verify_image archive tail hopened rfl (.inr ⟨rfl, rfl⟩) hsource hmemory
  obtain ⟨format, described, layout, map', loaded, hfrom⟩ := verifiedFrom_of_verify hverify
  refine ⟨verified, descriptor, map, hverify, hstage, hmirrors, hplain.delivers hsource, ?_,
    hplain.overlay, hplain.setup, hfrom.cursor, hfrom.passed⟩
  rw [hplain.options]
  rfl

theorem attachOverlay_memory {state : Image MemoryStore × World}
    (hsetup : state.1.setup = ([] : List MemoryStore.Operation)) (blockSize total : Nat) :
    ∃ attached, perform (attachOverlay blockSize total) state = (.ok (), attached)
      ∧ attached.2.disk = state.2.disk
      ∧ attached.1.overlay = some {
        failing := [], totalBlocks := total, blocks := [], cursor := 0 } := by
  obtain ⟨⟨source, path, options, setup, stage, overlayPath, overlay, overlayVerified, cursor,
    passed⟩, world⟩ := state
  obtain rfl : setup = ([] : List MemoryStore.Operation) := hsetup
  exact ⟨_, rfl, rfl, rfl⟩

theorem write_one {state : Image MemoryStore × World}
    (hstage : state.1.stage = .verified descriptor map)
    (hmode : state.1.options.mode = .readWrite) (hoverlay : state.1.overlay = none)
    (hsetup : state.1.setup = ([] : List MemoryStore.Operation)) {data : Bytes}
    (hdata : data.length = descriptor.blockSize) (hpos : 0 < descriptor.blockSize)
    (hcursor : state.1.cursor < descriptor.totalBlocks) :
    ∃ written, perform (write data) state = (.ok (), written) ∧ Moves 1 0 state written
      ∧ written.2.disk = state.2.disk
      ∧ written.1.overlay = some {
        failing := [], totalBlocks := descriptor.totalBlocks,
        blocks := [(state.1.cursor, data)], cursor := state.1.cursor + 1 } := by
  have hwritable : perform (require .writable) state = (.ok (), state) := by
    rw [perform_require, ready, readOnly, hstage, hmode]
    rfl
  have hwhole : perform (requireWhole data.length descriptor.blockSize) state = (.ok (), state) := by
    rw [requireWhole, hdata, Nat.mod_self]
    rfl
  have hready : state.1.ready .writeReady = false := by
    rw [ready, hoverlay]
    simp
  obtain ⟨attached, hattach, hdisk, hattached⟩ :=
    attachOverlay_memory hsetup descriptor.blockSize descriptor.totalBlocks
  have hstill := (attachOverlay_still _ _).of_perform hattach
  have hsame : attached.1.cursor = state.1.cursor := hstill.cursor
  have hone : data.length / descriptor.blockSize = 1 := by
    rw [hdata, Nat.div_self hpos]
  have hrange : ¬ descriptor.totalBlocks ≤ attached.1.cursor := by
    rw [hstill.cursor]
    omega
  have hsought : perform (seekOverlay attached.1.cursor) attached
      = (.ok (), withOverlay (MemoryStore.mk [] descriptor.totalBlocks [] state.1.cursor,
          attached.2.disk) attached) := by
    have hmove : perform (Overlay.seek attached.1.cursor)
        (MemoryStore.mk [] descriptor.totalBlocks [] 0, attached.2.disk)
          = (.ok (), MemoryStore.mk [] descriptor.totalBlocks [] state.1.cursor,
            attached.2.disk) := by
      show perform (MemoryStore.seek _) _ = _
      rw [MemoryStore.perform_seek, hsame]
      exact if_neg (by show ¬ descriptor.totalBlocks < _; omega)
    rw [perform_seekOverlay, hattached]
    dsimp only
    rw [hmove]
    rfl
  have hfirst : perform (write data) state
      = perform (writeBlocks descriptor.blockSize descriptor.totalBlocks 1 data) attached := by
    rw [write, perform_bind_ok hwritable, perform_bind_ok (perform_readyMap hstage)]
    dsimp only
    rw [perform_bind_ok hwhole, perform_bind_ok (Action.perform_get state), hready, hone]
    simp only [Bool.not_false, if_true]
    rw [perform_bind_ok hattach]
  have hblock : perform (writeBlocks descriptor.blockSize descriptor.totalBlocks 1 data) attached
      = (.ok (), atBlock (attached.1.cursor + 1) (withOverlay (MemoryStore.mk []
          descriptor.totalBlocks [(state.1.cursor, data)] (state.1.cursor + 1), attached.2.disk)
          attached)) := by
    rw [writeBlocks, Action.perform_bind, perform_requireBlock, if_neg hrange]
    dsimp only
    rw [perform_bind_ok (Action.perform_get attached), perform_bind_ok hsought,
      List.take_of_length_le (Nat.le_of_eq hdata)]
    rfl
  refine ⟨_, hfirst.trans hblock, ⟨hstill.source, hstill.stage, hstill.options, ?_, hstill.passed⟩,
    hdisk, rfl⟩
  show attached.1.cursor + 1 = _
  rw [hsame]

/-- Such a handle after its first block was written. -/
structure Written (device : Device) (descriptor : Descriptor) (map : BlockMap) (data : Bytes)
    (state : Image MemoryStore × World) : Prop where
  stage : state.1.stage = .verified descriptor map
  mirrors : Mirrors (device.changed fun block => [(0, data)].lookup block) descriptor map
  source : state.1.source.Delivers state.2.disk device.bytes
  overlay : Overlaid device.layout.blockSize device.total (fun block => [(0, data)].lookup block) state
  cursor : state.1.cursor = 1
  passed : state.1.passed = 0

/-- The first block of a handle that is ready can be written; it is not counted. -/
theorem Ready.write {device : Device} {state : Image MemoryStore × World}
    (h : Ready device descriptor map state) (data : Bytes)
    (hdata : data.length = device.layout.blockSize) (htotal : 0 < device.total) :
    ∃ written, perform (Image.write data) state = (.ok (), written)
      ∧ Written device descriptor map data written := by
  rw [h.mirrors.layout.blockSize_eq] at hdata
  have hcursor : state.1.cursor < descriptor.totalBlocks := by
    rw [h.cursor, h.mirrors.total_eq]
    exact htotal
  obtain ⟨written, hwrite, hmoves, hdisk, hstore⟩ := write_one h.stage h.mode h.overlay h.setup hdata
    h.mirrors.layout.blockSize_pos hcursor
  refine ⟨written, hwrite, hmoves.stage.trans h.stage, h.mirrors.changed _, ?_, ?_, ?_, ?_⟩
  · rw [hdisk]
    exact h.source.later hmoves.source
  · rw [Overlaid, hstore, h.cursor]
    exact MemoryStore.shows List.not_mem_nil List.not_mem_nil
      (Nat.le_of_eq h.mirrors.total_eq.symm) written.2.disk device.layout.blockSize
  · rw [hmoves.cursor, h.cursor]
  · rw [hmoves.passed, h.passed]

/-- Two blocks, both of them used. -/
def twoBlocks : Archive :=
  .plain [some (.twice 0x11), some (.twice 0x22)] (by decide)

theorem length_twoBlocks : twoBlocks.bytes.length < range64 := by
  rw [Archive.bytes, Archive.length_image, Archive.length_records]
  decide

end PartitionImage.Image
