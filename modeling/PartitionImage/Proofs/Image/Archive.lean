import PartitionImage.MemoryStore
import PartitionImage.Proofs.Archive.Device
import PartitionImage.Proofs.Image.Device
/-!
# Reading an image that was made

An image that was made in either layout is verified, and every run of its blocks reads back.

* `Image.exists_map` says that it is accepted and that there is a block map of it.
* `Image.exists_verify_image` says that it is verified, strictly or not, whatever its records are.
* `Image.read_archive` says what is read.
-/

namespace PartitionImage.Image

variable {O : Type} [Overlay O]

open PartitionImage.Action (perform)

variable {archive : Archive} {tail : Bytes} {map : BlockMap}

/-- The bitmap of an image that was made has as many used blocks as were put in. -/
theorem used_eq {descriptor : Descriptor} (h : Mirrors (archive.device tail) descriptor map) :
    map.stats.used = archive.payloads.length := by
  have hcount := h.count_eq (Nat.le_refl (archive.device tail).total)
  rw [h.fits.used_eq, h.fits.length_eq, hcount]
  show (archive.device tail).rank archive.total = _
  rw [Archive.rank_eq tail (Nat.le_refl _), Archive.total, List.take_length, Archive.payloads,
    List.length_filterMap_eq_countP]
  rfl

/-- The head and the bitmap of an image that was made are in order. -/
theorem exists_map (archive : Archive) (tail : Bytes) (factor : Nat)
    (hmemory : bytesForBits archive.total < allocationLimit) :
    ∃ described map, Descriptor.accepted? (archive.image tail) = some (archive.head.format, described, archive.layout)
      ∧ BlockMap.of? (archive.image tail) archive.head.format archive.layout described.totalBlocks factor = some map
      ∧ Mirrors (archive.device tail) (described.repaired map.stats.used) map
      ∧ described.usedBlocks = map.stats.used := by
  obtain ⟨described, haccepted, hrecorded⟩ := archive.accepted tail
  have htotal : described.totalBlocks = archive.total := hrecorded.totalBlocks_eq
  have hfit : archive.layout.bitmapEnd ≤ (archive.image tail).length := by
    rw [Archive.length_image]
    exact Nat.le_add_right _ _
  have hloaded : ∃ map, BlockMap.of? (archive.image tail) archive.head.format archive.layout
      archive.total factor = some map :=
    BlockMap.exists_of hmemory rfl hfit (archive.slice_magic tail)
  obtain ⟨map, hmap⟩ := hloaded
  have hmirrors : Mirrors (archive.device tail) (described.repaired map.stats.used) map :=
    ⟨BlockMap.fits_of hmap, (Descriptor.layout_of_accepted? haccepted).repaired _, htotal⟩
  rw [← htotal] at hmap
  exact ⟨described, map, haccepted, hmap, hmirrors, hrecorded.usedBlocks_eq.trans (used_eq hmirrors).symm⟩

/-- **An image with a head and a bitmap that were made is verified**: its records are not looked at. -/
theorem exists_verify_image (archive : Archive) (tail : Bytes) {start : Image O × World}
    (hopened : start.1.stage = .opened) (hoverlay : start.1.overlay = none)
    (hmode : start.1.options.mode = .readOnly
      ∨ start.1.options.mode = .readWrite ∧ start.1.overlayPath = none)
    (hsource : start.1.source.Delivers start.2.disk (archive.image tail))
    (hmemory : bytesForBits archive.total < allocationLimit) :
    ∃ verified descriptor map, perform verify start = (.ok (), verified) ∧ Plain start verified
      ∧ verified.1.stage = .verified descriptor map
      ∧ Mirrors (archive.device tail) descriptor map := by
  obtain ⟨described, map, haccepted, hmap, hmirrors, hused⟩ :=
    exists_map archive tail start.1.options.factor hmemory
  obtain ⟨verified, hverify, hplain, hstage⟩ :=
    exists_verify hopened hoverlay hmode hsource haccepted hmap fun _ => hused
  exact ⟨verified, _, map, hverify, hplain, hstage, hmirrors⟩

theorem overlaid_of_none (blockSize total : Nat) {state : Image O × World}
    (h : state.1.overlay = none) : Overlaid blockSize total (fun _ => none) state := by
  rw [Overlaid, h]
  intro block _
  rfl

/-- **Decoding undoes encoding.**  An image that was made, in either layout and with any way of
protecting its records, is verified, and every run of its blocks reads back: the payload of each block
that is used, filler for the others.  The cursor is left behind the run. -/
theorem read_archive (archive : Archive) {start : Image O × World}
    (hopened : start.1.stage = .opened) (hoverlay : start.1.overlay = none)
    (hmode : start.1.options.mode = .readOnly
      ∨ start.1.options.mode = .readWrite ∧ start.1.overlayPath = none)
    (hsource : start.1.source.Delivers start.2.disk archive.bytes)
    (hmemory : bytesForBits archive.total < allocationLimit)
    (hoffsets : archive.bytes.length < range64) :
    ∃ verified, perform verify start = (.ok (), verified)
      ∧ ∀ block n, block + n ≤ archive.total →
        ∃ sought after, perform (seek block) verified = (.ok (), sought)
          ∧ (read (n * archive.blockSize)).run sought
            = (.complete (archive.contents block n), after)
          ∧ after.1.tell? = some (block + n) := by
  obtain ⟨verified, descriptor, map, hverify, hplain, hstage, hmirrors⟩ :=
    exists_verify_image archive archive.records hopened hoverlay hmode hsource hmemory
  refine ⟨verified, hverify, ?_⟩
  intro block n hbound
  have hoverlaid := overlaid_of_none archive.blockSize archive.total
    (hplain.overlay.trans hoverlay)
  have hrecords : ∀ other, block ≤ other → other < block + n →
      (archive.device archive.records).stored other = none →
      (archive.device archive.records).marked other = true →
        (archive.device archive.records).recordStart
          ((archive.device archive.records).rank other) < range64 := by
    intro other _ hlt _ hmarked
    exact Archive.recordStart_rank_lt hoffsets (by omega) hmarked
  obtain ⟨sought, hseek, hreads⟩ := reads_of_seek hmirrors hstage (hplain.delivers hsource)
    hoverlaid hbound hrecords
  obtain ⟨htransfer, hcursor⟩ := Archive.reads_contents hbound hreads
  -- the handle is still verified, so that it tells where it is
  obtain ⟨descriptor', map', hstage', -, hcounted⟩ :=
    counted_run hverify [.seek block, .read (n * archive.blockSize)]
  have hafter : ((read (n * archive.blockSize)).run sought).2.1.stage
      = .verified descriptor' map' := by
    have hrun : Operation.run [.seek block, .read (n * archive.blockSize)] verified
        = ((read (n * archive.blockSize)).run sought).2 := by
      show ((read (n * archive.blockSize)).run (perform (seek block) verified).2).2 = _
      rw [hseek]
    rw [← hrun]
    exact hcounted.stage
  refine ⟨sought, ((read (n * archive.blockSize)).run sought).2, hseek, Prod.ext htransfer rfl, ?_⟩
  rw [tell?, hafter]
  exact congrArg some hcursor

/-- A handle on bytes in memory, whose changes go to a store in memory. -/
def inMemory (bytes : Bytes) : Image MemoryStore × World :=
  (ofSource (.ofBytes bytes) "a.img" { mode := .readWrite } [], {})

/-- Three blocks, the second of which is not used. -/
def threeBlocks : Archive :=
  .plain [some (.twice 0x11), none, some (.twice 0x22)] (by decide)

theorem read_archive_plain :
    ∃ verified sought after, perform verify (inMemory threeBlocks.bytes) = (.ok (), verified)
      ∧ perform (seek 0) verified = (.ok (), sought)
      ∧ (read 6).run sought = (.complete [0x11, 0x11, 0x45, 0x45, 0x22, 0x22], after)
      ∧ after.1.tell? = some 3 := by
  have hopened : (inMemory threeBlocks.bytes).1.stage = .opened := rfl
  have hoffsets : threeBlocks.bytes.length < range64 := by
    rw [Archive.bytes, Archive.length_image, Archive.length_records]
    decide
  obtain ⟨verified, hverify, hblocks⟩ := read_archive threeBlocks hopened rfl (.inr ⟨rfl, rfl⟩)
    (Source.delivers_ofBytes _ _) (by decide) hoffsets
  obtain ⟨sought, after, hseek, hread, htell⟩ := hblocks 0 3 (by decide)
  exact ⟨verified, sought, after, hverify, hseek, hread, htell⟩

end PartitionImage.Image
