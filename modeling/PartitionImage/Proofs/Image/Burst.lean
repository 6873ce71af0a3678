import PartitionImage.Proofs.Burst
import PartitionImage.Proofs.Image.Archive
/-!
# Damage is found where it is

An image whose blocks have a CRC each is read from a source in which bytes of one record have changed, all
of them within four places.  It is verified all the same; the block of the record cannot be read, the block
of the next record cannot if its checksum starts from a trailer that has changed, and every other block
reads as before.

* `Archive.exists_tail_of_sameBeside` and `Archive.exists_tail` say that the changed bytes are an image with
  other records.
* `Archive.damaged` is the hit on a record, `Archive.block_of_marked` a block in terms of its record.
* `Image.exists_readAt` is the reading of an image with any records.
* `Image.read_after_burst` is the statement.
-/

namespace PartitionImage

namespace Archive

variable {archive : Archive} {other : Bytes} {block start width : Nat}

/-- The device of an image as it was made. -/
abbrev made (archive : Archive) : Device := archive.device archive.records

theorem image_eq_append (archive : Archive) (tail : Bytes) :
    archive.image tail = archive.image [] ++ tail := by
  simp only [image, List.append_nil, List.append_assoc]

/-- Changes behind the bitmap leave head and bitmap. -/
theorem exists_tail_of_sameBeside (hsame : archive.bytes.SameBeside other start width)
    (hstart : archive.layout.bitmapEnd ≤ start) : ∃ tail, other = archive.image tail := by
  have hhead : (archive.image []).length = archive.layout.bitmapEnd := by
    rw [length_image]
    rfl
  have hbefore : other.slice 0 archive.layout.bitmapEnd = archive.image [] := by
    rw [hsame.slice_eq (.inl (by omega)), bytes, image_eq_append, Bytes.slice, List.drop_zero,
      ← hhead, List.take_left]
  refine ⟨other.drop archive.layout.bitmapEnd, ?_⟩
  rw [image_eq_append, ← hbefore, Bytes.slice, List.drop_zero, List.take_append_drop]

theorem exists_tail (hburst : archive.bytes.Burst other start width)
    (hstart : archive.layout.bitmapEnd ≤ start) : ∃ tail, other = archive.image tail :=
  exists_tail_of_sameBeside hburst.sameBeside hstart

theorem damaged (hchecked : archive.layout.algorithm = .crc32)
    (hmarked : archive.made.marked block = true) (hblock : block < archive.total)
    (hburst : archive.bytes.Burst other start width) (hwidth : width ≤ 4)
    (hstart : archive.made.recordStart
      (archive.made.rank block) ≤ start)
    (hend : start + width ≤ archive.made.recordStart
      (archive.made.rank block) + archive.layout.recordSize) :
    archive.made.Damaged other (archive.made.rank block)
      start width where
  toBurst := hburst
  algorithm := hchecked
  trailer := by
    obtain ⟨described, haccepted, -⟩ := archive.accepted archive.records
    refine (Descriptor.layout_of_accepted? haccepted).trailer_eq ?_
    rw [hchecked]
    exact fun h => (nomatch h)
  short := hwidth
  start_le := hstart
  le_end := hend
  whole := by
    rw [marked_device _ hblock] at hmarked
    obtain ⟨payload, hpayload⟩ := Option.isSome_iff_exists.mp hmarked
    exact recordStart_add_le (payloads_rank archive.records
      (List.getElem?_eq_some_iff.mpr ⟨hblock, hpayload⟩))

/-- The used blocks of an image and their records do not depend on what is in the records. -/
theorem marked_rank_eq (archive : Archive) (tail : Bytes) (hblock : block < archive.total) :
    (archive.device tail).marked block = archive.made.marked block
      ∧ (archive.device tail).rank block = archive.made.rank block := by
  rw [marked_device _ hblock, marked_device _ hblock, rank_eq _ (Nat.le_of_lt hblock),
    rank_eq _ (Nat.le_of_lt hblock)]
  exact ⟨rfl, rfl⟩

theorem record_rank (hblock : block < archive.total)
    (hmarked : archive.made.marked block = true) :
    ∃ payload, archive.made.record (archive.made.rank block)
      = .data payload := by
  rw [marked_device _ hblock] at hmarked
  obtain ⟨payload, hpayload⟩ := Option.isSome_iff_exists.mp hmarked
  exact ⟨payload.val, record_eq (payloads_rank archive.records
    (List.getElem?_eq_some_iff.mpr ⟨hblock, hpayload⟩))⟩

theorem block_of_marked (archive : Archive) (tail : Bytes) (hblock : block < archive.total)
    (hmarked : archive.made.marked block = true) :
    (archive.device tail).block block
      = (archive.device tail).record (archive.made.rank block) := by
  obtain ⟨hsame, hrank⟩ := archive.marked_rank_eq tail hblock
  rw [← hrank]
  exact Device.answer_of_marked rfl (hsame.trans hmarked) _

/-- A block is as in another image if its record is, in case it has one. -/
theorem block_congr (archive : Archive) (tail : Bytes) (hblock : block < archive.total)
    (hrecord : archive.made.marked block = true →
      (archive.device tail).record (archive.made.rank block)
        = archive.made.record (archive.made.rank block)) :
    (archive.device tail).block block = archive.made.block block := by
  cases hmarked : archive.made.marked block with
  | true =>
    rw [block_of_marked archive tail hblock hmarked,
      block_of_marked archive archive.records hblock hmarked, hrecord hmarked]
  | false =>
    have hsame := (archive.marked_rank_eq tail hblock).1
    unfold Device.block Device.answer
    show (if (archive.device tail).marked block then _ else _)
      = if archive.made.marked block then _ else _
    rw [hsame, hmarked]
    rfl

end Archive

namespace Image

variable {O : Type} [Overlay O]

open PartitionImage.Action (perform)

/-- A handle that was just opened, without an overlay, on bytes that its source delivers. -/
structure OpenedOn (bytes : Bytes) (start : Image O × World) : Prop where
  stage : start.1.stage = .opened
  overlay : start.1.overlay = none
  mode : start.1.options.mode = .readOnly
    ∨ start.1.options.mode = .readWrite ∧ start.1.overlayPath = none
  source : start.1.source.Delivers start.2.disk bytes

/-- An image with any records is verified, and each block reads as its device says. -/
theorem exists_readAt (archive : Archive) (tail : Bytes) {opened : Image O × World}
    (hopened : OpenedOn (archive.image tail) opened)
    (hmemory : bytesForBits archive.total < allocationLimit)
    (hoffsets : archive.bytes.length < range64) :
    ∃ verified, perform verify opened = (.ok (), verified)
      ∧ ∀ block, block < archive.total → ((archive.device tail).block block).Gives block
        ((BlockDevice.readAt block archive.blockSize).run verified).1 := by
  obtain ⟨verified, descriptor, map, hverify, hplain, hstage, hmirrors⟩ :=
    exists_verify_image archive tail hopened.stage hopened.overlay hopened.mode hopened.source
      hmemory
  refine ⟨verified, hverify, ?_⟩
  intro block hblock
  refine readAt_gives hmirrors hstage (hplain.delivers hopened.source)
    (overlaid_of_none _ _ (hplain.overlay.trans hopened.overlay)) hblock ?_
  intro _ hmarked
  obtain ⟨hsame, hrank⟩ := archive.marked_rank_eq tail hblock
  rw [hrank]
  exact Archive.recordStart_rank_lt hoffsets hblock (hsame ▸ hmarked)

/-- **A burst of at most four bytes in a record is found, and found where it is.**  The block of the record
cannot be read; a block that has neither this record nor the next one reads as before, whether it is used
or not; and so does the block of the next record, unless checksums are chained and the trailer has
changed, when it cannot be read either. -/
theorem read_after_burst (archive : Archive) (hchecked : archive.layout.algorithm = .crc32)
    (hmemory : bytesForBits archive.total < allocationLimit)
    (hoffsets : archive.bytes.length < range64) {block record : Nat} (hblock : block < archive.total)
    (hused : archive.made.marked block = true) (hrank : archive.made.rank block = record)
    {other : Bytes} {start width : Nat} (hburst : archive.bytes.Burst other start width)
    (hwidth : width ≤ 4) (hstart : archive.made.recordStart record ≤ start)
    (hend : start + width ≤ archive.made.recordStart record + archive.layout.recordSize)
    {intact damaged : Image O × World} (hintact : OpenedOn archive.bytes intact)
    (hdamaged : OpenedOn other damaged) :
    ∃ whole hit, perform verify intact = (.ok (), whole) ∧ perform verify damaged = (.ok (), hit)
      ∧ (∃ got stored computed, ((BlockDevice.readAt block archive.blockSize).run hit).1
        = ⟨got, .error (.blockChecksum block stored computed)⟩)
      ∧ (∀ away, away < archive.total →
        (archive.made.marked away = true →
          archive.made.rank away ≠ record ∧ archive.made.rank away ≠ record + 1) →
        ((BlockDevice.readAt away archive.blockSize).run hit).1
          = ((BlockDevice.readAt away archive.blockSize).run whole).1)
      ∧ ∀ next, next < archive.total → archive.made.marked next = true →
        archive.made.rank next = record + 1 →
        (archive.layout.reseed = true
            ∨ other.slice (archive.made.recordStart record + archive.blockSize) Checksum.size
              = archive.bytes.slice (archive.made.recordStart record + archive.blockSize)
                Checksum.size →
          ((BlockDevice.readAt next archive.blockSize).run hit).1
            = ((BlockDevice.readAt next archive.blockSize).run whole).1)
        ∧ (archive.layout.reseed = false →
          other.slice (archive.made.recordStart record + archive.blockSize) Checksum.size
            ≠ archive.bytes.slice (archive.made.recordStart record + archive.blockSize)
              Checksum.size →
          ∃ got stored computed, ((BlockDevice.readAt next archive.blockSize).run hit).1
            = ⟨got, .error (.blockChecksum next stored computed)⟩) := by
  subst hrank
  have hhit := Archive.damaged hchecked hused hblock hburst hwidth hstart hend
  obtain ⟨tail, rfl⟩ := Archive.exists_tail hburst (Nat.le_trans (Nat.le_add_right _ _) hstart)
  have hdevice : archive.made.withBytes (archive.image tail) = archive.device tail := rfl
  obtain ⟨whole, hwhole, hbefore⟩ := exists_readAt archive archive.records hintact hmemory hoffsets
  obtain ⟨hit, hverify, hafter⟩ := exists_readAt archive tail hdamaged hmemory hoffsets
  -- a block that is the same on both devices is read whole from both handles
  have hsame : ∀ away, away < archive.total →
      (archive.device tail).block away = archive.made.block away →
      ((BlockDevice.readAt away archive.blockSize).run hit).1
        = ((BlockDevice.readAt away archive.blockSize).run whole).1 := by
    intro away haway heq
    have hintactly := hbefore away haway
    have hdamagedly := hafter away haway
    rw [Archive.block_eq haway] at heq hintactly
    rw [heq] at hdamagedly
    exact hdamagedly.eq_complete.trans hintactly.eq_complete.symm
  -- and one whose record is wrong on the damaged device cannot be read
  have hwrong : ∀ bad, bad < archive.total → archive.made.marked bad = true →
      (∃ got stored computed,
        (archive.device tail).record (archive.made.rank bad) = .mismatch got stored computed) →
      ∃ got stored computed, ((BlockDevice.readAt bad archive.blockSize).run hit).1
        = ⟨got, .error (.blockChecksum bad stored computed)⟩ := by
    intro bad hbad hmarked hrecord
    obtain ⟨got, stored, computed, hrecord⟩ := hrecord
    have hgives := hafter bad hbad
    rw [Archive.block_of_marked archive tail hbad hmarked, hrecord] at hgives
    exact ⟨got, stored, computed, hgives.eq_mismatch⟩
  refine ⟨whole, hit, hwhole, hverify, ?_, ?_, ?_⟩
  · obtain ⟨payload, hdata⟩ := Archive.record_rank hblock hused
    exact hwrong block hblock hused (hdevice ▸ hhit.record_hit hdata)
  · intro away haway hrecords
    refine hsame away haway (Archive.block_congr archive tail haway fun hmarked => ?_)
    obtain ⟨hne, hnext⟩ := hrecords hmarked
    exact hdevice ▸ hhit.record_of_ne hne hnext
  · intro next hnext hmarked hrank
    constructor
    · intro hkept
      refine hsame next hnext (Archive.block_congr archive tail hnext fun _ => ?_)
      rw [hrank]
      exact hdevice ▸ hhit.record_next_eq hkept
    · intro hchained hchanged
      obtain ⟨payload, hdata⟩ := Archive.record_rank hnext hmarked
      rw [hrank] at hdata
      refine hwrong next hnext hmarked ?_
      rw [hrank]
      exact hdevice ▸ hhit.record_next_ne hdata hchained hchanged

/-- Three blocks, the second of which is not used, in the current layout and with a chained CRC each. -/
def checkedBlocks : Archive :=
  { threeBlocks with
    head := .current {
      separator := ⟨[0], rfl⟩
      creator := ⟨List.replicate 14 0, rfl⟩
      fsType := ⟨List.replicate 16 0, rfl⟩
      reported := ⟨List.replicate 8 0, rfl⟩
      featureSize := ⟨List.replicate 4 0, rfl⟩
      imageVersion := ⟨[2, 0], rfl⟩
      cpuBits := ⟨[64, 0], rfl⟩
      trailers := .chained
      size_lt := by decide
      padding := fun _ => false }
    blockSize_lt := by decide }

/-- The last byte of a payload and the first of its trailer are changed.  Neither the block nor the next
one that is used can be read; the one between them can. -/
theorem read_after_burst_between :
    ∃ (other : Bytes) (whole hit : Image MemoryStore × World),
      perform verify (inMemory checkedBlocks.bytes) = (.ok (), whole)
        ∧ perform verify (inMemory other) = (.ok (), hit)
        ∧ (∃ got stored computed, ((BlockDevice.readAt 0 2).run hit).1
          = ⟨got, .error (.blockChecksum 0 stored computed)⟩)
        ∧ ((BlockDevice.readAt 1 2).run hit).1 = ((BlockDevice.readAt 1 2).run whole).1
        ∧ ∃ got stored computed, ((BlockDevice.readAt 2 2).run hit).1
          = ⟨got, .error (.blockChecksum 2 stored computed)⟩ := by
  have hlength : checkedBlocks.bytes.length = 131 := by
    rw [Archive.bytes, Archive.length_image, Archive.length_records]
    rfl
  have hchanged : ∀ byte : UInt8, byte + 1 ≠ byte := by
    intro byte
    simp
  have hne : [checkedBlocks.bytes.getD 120 0 + 1, checkedBlocks.bytes.getD 121 0 + 1]
      ≠ checkedBlocks.bytes.slice 120 2 := by
    intro hsame
    have hbyte := congrArg (fun window : Bytes => window.getD 0 0) hsame
    simp only [Bytes.getD_slice] at hbyte
    exact hchanged _ hbyte
  have hburst := Bytes.burst_overwrite (by rw [hlength]; decide) hne
  have hused : ∀ block, block < 3 →
      checkedBlocks.made.marked block = checkedBlocks.blocks[block]?.join.isSome := by
    intro block hblock
    rw [Archive.marked_device _ hblock, List.getElem?_eq_getElem hblock]
    rfl
  have hfirstRank : checkedBlocks.made.rank 0 = 0 := Archive.rank_eq _ (by decide)
  have hlastRank : checkedBlocks.made.rank 2 = 0 + 1 := Archive.rank_eq _ (by decide)
  obtain ⟨whole, hit, hintact, hdamaged, hfirst, haway, hnext⟩ :=
    read_after_burst checkedBlocks rfl (by decide) (by rw [hlength]; decide) (by decide)
      (hused 0 (by decide)) hfirstRank hburst (by decide) (by decide) (by decide)
      (⟨rfl, rfl, .inr ⟨rfl, rfl⟩, Source.delivers_ofBytes _ _⟩ : OpenedOn _ (inMemory _))
      (⟨rfl, rfl, .inr ⟨rfl, rfl⟩, Source.delivers_ofBytes _ _⟩ : OpenedOn _ (inMemory _))
  refine ⟨_, whole, hit, hintact, hdamaged, hfirst, ?_, ?_⟩
  · refine haway 1 (by decide) fun hmarked => ?_
    rw [hused 1 (by decide)] at hmarked
    exact absurd hmarked (by decide)
  · refine (hnext 2 (by decide) (hused 2 (by decide)) hlastRank).2 rfl fun htrailer => ?_
    have hbyte := congrArg (fun trailer : Bytes => trailer.getD 0 0) htrailer
    simp only [Bytes.getD_slice, Bytes.getD_overwrite] at hbyte
    exact hchanged _ hbyte

end Image

end PartitionImage
