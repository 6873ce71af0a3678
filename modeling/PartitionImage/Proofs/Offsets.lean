import Mathlib.Algebra.Group.Nat.Defs
import PartitionImage.Export
import PartitionImage.Inspection
import PartitionImage.Proofs.ChangeFile.Format
import PartitionImage.Proofs.Checksum
import PartitionImage.Proofs.Image.Burst
import PartitionImage.Proofs.Image.Memory
/-!
# Offsets of 64 bits

Records, the blocks of an exported device and the slots of a change file each stand in a row, and the place of
one is a product and a sum that have to stay below `2^64`.  Verification bounds the bitmap by the size of the
image, but not the rows.  What does not fit is never taken modulo `2^64`: it is a panic.

* `InRow` says that all places of a row are had, and that no two areas overlap.
* `Checked` says that places that are had are exact, and that all are had just if the row ends below `2^64`.
* `Image.inRow_of_verify` says so for the three rows of a verified image, and what fails where one does not end there.
* `Image.verify_wide` is an image that is verified although none of its rows fits.
-/

namespace PartitionImage

open PartitionImage.Action (perform perform_bind_ok)

/-! ### Rows -/

/-- A row of `count` areas of `size` bytes from `base` on: the place of each is had, each ends at `stop?` at
the latest, and none overlaps another one. -/
structure InRow (place? : Nat → Option Nat) (stop? : Option Nat) (base size count : Nat) : Prop where
  stop_eq : stop? = some (base + count * size)
  place_eq : ∀ number, number < count → place? number = some (base + number * size)
  end_le : ∀ number place stop, number < count → place? number = some place → stop? = some stop →
    place + size ≤ stop
  apart : ∀ first second place other, first < second → second < count → place? first = some place →
    place? second = some other → place + size ≤ other

/-- Places of a row that are computed in 64 bits, with an end that is: `none` stands for a panic. -/
structure Checked (place? : Nat → Option Nat) (stop? : Option Nat) (base size count : Nat) : Prop where
  exact_of_some : ∀ number place, place? number = some place → place = base + number * size ∧ place < range64
  stop_eq_none_iff : stop? = none ↔ range64 ≤ base + count * size
  inRow_iff : InRow place? stop? base size count ↔ base + count * size < range64

section

variable {place? : Nat → Option Nat} {stop? : Option Nat} {base size count : Nat}

theorem place_add_le {first second : Nat} (h : first < second) :
    base + first * size + size ≤ base + second * size := by
  have hmul := Nat.mul_le_mul_right size (Nat.succ_le_of_lt h)
  rw [Nat.succ_mul] at hmul
  omega

theorem inRow_of_lt (hplace : ∀ number, place? number = checked64? (base + number * size))
    (hstop : stop? = checked64? (base + count * size)) (hlt : base + count * size < range64) :
    InRow place? stop? base size count := by
  have hstop : stop? = some (base + count * size) := hstop.trans (checked64?_of_lt hlt)
  have hplaces : ∀ number, number < count → place? number = some (base + number * size) := by
    intro number hnumber
    have hend : base + number * size + size ≤ base + count * size := place_add_le hnumber
    rw [hplace, checked64?_of_lt (by omega)]
  refine ⟨hstop, hplaces, ?_, ?_⟩
  · intro number place stop hnumber hfound hended
    obtain rfl := Option.some.inj ((hplaces number hnumber).symm.trans hfound)
    obtain rfl := Option.some.inj (hstop.symm.trans hended)
    exact place_add_le hnumber
  · intro first second place other hfirst hsecond hfound hother
    obtain rfl := Option.some.inj ((hplaces first (by omega)).symm.trans hfound)
    obtain rfl := Option.some.inj ((hplaces second hsecond).symm.trans hother)
    exact place_add_le hfirst

/-- **Sums that are checked give a row just if it ends below `2^64`**, and no place that is not meant. -/
theorem checked_of_sums (hplace : ∀ number, place? number = checked64? (base + number * size))
    (hstop : stop? = checked64? (base + count * size)) : Checked place? stop? base size count := by
  refine ⟨?_, ?_, ?_, inRow_of_lt hplace hstop⟩
  · intro number place hfound
    rw [hplace, checked64?_eq_some_iff] at hfound
    obtain ⟨hlt, rfl⟩ := hfound
    exact ⟨rfl, hlt⟩
  · rw [hstop, checked64?_eq_none_iff]
  · intro hrow
    have hended := hrow.stop_eq
    rw [hstop, checked64?_eq_some_iff] at hended
    exact hended.1

end

/-- The blocks of an exported device are a row. -/
theorem Export.checked (blockSize total : Nat) :
    Checked (place? blockSize) (place? blockSize total) 0 blockSize total := by
  have hplace : ∀ block, place? blockSize block = checked64? (0 + block * blockSize) := by
    intro block
    rw [place?, Nat.zero_add]
  exact checked_of_sums hplace (hplace total)

/-- The slots of a change file are a row. -/
theorem ChangeFile.checked (file : ChangeFile) :
    Checked file.slotOffset? (expectedLength? file.blockSize file.totalBlocks)
      (dataOffset file.blockSize file.totalBlocks) file.blockSize file.totalBlocks :=
  checked_of_sums (fun _ => rfl) rfl

/-- The records of an image are a row, if they start where an offset can be. -/
theorem RecordLayout.checked {layout : RecordLayout} (hstart : layout.bitmapEnd < range64) (used : Nat) :
    Checked layout.recordOffset? (Inspection.recordsEnd? layout.dataOffset layout.recordSize used)
      layout.bitmapEnd layout.recordSize used := by
  have hdata : layout.dataOffset = layout.bitmapEnd := saturate64_of_lt hstart
  refine checked_of_sums (fun number => ?_) ?_
  · rw [recordOffset?, recordStart, hdata]
  · rw [Inspection.recordsEnd?, hdata]

/-! ### What fails where a row does not fit -/

/-- An export makes its file and panics over the length of it. -/
theorem Export.perform_exportDevice_overflow {D : Type} [BlockDevice D] {device : D} {world : World}
    {events : List Event} {output : String} {blockSize total : Nat}
    (hblockSize : BlockDevice.blockSize? device = some blockSize)
    (hblockCount : BlockDevice.blockCount? device = some total) (hlarge : range64 ≤ total * blockSize)
    {file : FileId} {made : Disk} (hcreate : world.disk.create output = .ok (file, made)) :
    perform (exportDevice output) ⟨device, world, events⟩
      = (.error .overflow, ⟨device, world.withDisk made, events⟩) := by
  rw [exportDevice, perform_bind_ok (Action.perform_get _)]
  dsimp only
  rw [hblockSize, hblockCount, hcreate]
  dsimp only
  rw [place?, checked64?_of_le hlarge]
  rfl

/-- A change file is neither verified nor attached. -/
theorem ChangeFile.perform_verify_overflow {file : ChangeFile}
    (hlarge : range64 ≤ wholeLength file.blockSize file.totalBlocks) (disk : Disk) :
    perform verify (file, disk) = (.error .overflow, file, disk) := by
  rw [perform_verify, verdict, if_pos hlarge]

/-! ### What a descriptor can ask for -/

theorem Bytes.field_lt (bytes : Bytes) (offset width : Nat) : bytes.field offset width < capacity width :=
  Nat.lt_of_lt_of_le (toNat_lt _) (capacity_mono (by rw [length_slice]; exact Nat.min_le_left _ _))

namespace Descriptor

theorem blockSize_lt_of_decodeLegacy {bytes : Bytes} {descriptor : Descriptor}
    (h : decodeLegacy bytes = .ok descriptor) : descriptor.blockSize < Bytes.capacity 4 := by
  have hfield := bytes.field_lt 36 4
  have hcapacity : Bytes.capacity 4 = 0x100000000 := rfl
  rw [(decodeLegacy_inv h).2]
  unfold signed32
  split <;> omega

/-- Blocks and trailers are no larger than their fields have room for, and the bitmap follows a head. -/
theorem sizes_of_accepted? {bytes : Bytes} {format : Format} {descriptor : Descriptor}
    {layout : RecordLayout} (h : accepted? bytes = some (format, descriptor, layout)) :
    layout.blockSize < Bytes.capacity 4 ∧ layout.trailer < Bytes.capacity 2
      ∧ layout.bitmapOffset ≤ legacySize := by
  obtain ⟨version, -, -, hfitting⟩ := accepted?_eq_some_iff.mp h
  have hdecode := (fitting?_eq_some_iff.mp hfitting).1
  have hchecksum : Checksum.size < Bytes.capacity 2 := by decide
  cases format with
  | legacy =>
    obtain ⟨stored, -, hdecode⟩ := Option.bind_eq_some_iff.mp hdecode
    obtain ⟨decoded, hdecoded, hdecode⟩ := Option.bind_eq_some_iff.mp hdecode
    obtain ⟨rfl, rfl⟩ := Prod.mk.inj (Option.some.inj hdecode)
    exact ⟨blockSize_lt_of_decodeLegacy (Action.toOption_eq_some_iff.mp hdecoded), hchecksum,
      Nat.le_refl _⟩
  | current =>
    obtain ⟨stored, -, hdecode⟩ := Option.bind_eq_some_iff.mp hdecode
    obtain ⟨decoded, hdecoded, hdecode⟩ := Option.bind_eq_some_iff.mp hdecode
    split at hdecode
    · cases hdecode
    · obtain ⟨made, hmade, hdecode⟩ := Option.bind_eq_some_iff.mp hdecode
      obtain ⟨rfl, rfl⟩ := Prod.mk.inj (Option.some.inj hdecode)
      obtain ⟨algorithm, -, rfl⟩ := current?_eq_ok (Action.toOption_eq_some_iff.mp hmade)
      obtain ⟨-, hblockSize, hchecksumSize⟩ := decodeCurrent_inv (Action.toOption_eq_some_iff.mp hdecoded)
      have hoffset : currentSize + Checksum.size ≤ legacySize := by decide
      refine ⟨?_, ?_, hoffset⟩
      · show decoded.blockSize < _
        rw [hblockSize]
        exact Bytes.field_lt _ 84 4
      · show (if algorithm = .none then decoded.checksumSize else algorithm.trailerSize) < _
        cases algorithm with
        | none =>
          show decoded.checksumSize < _
          rw [hchecksumSize]
          exact Bytes.field_lt _ 98 2
        | crc32 => exact hchecksum
        | firstByte => exact hchecksum

theorem bitmapEnd_le_of_accepted? {bytes : Bytes} {format : Format} {descriptor : Descriptor}
    {layout : RecordLayout} (h : accepted? bytes = some (format, descriptor, layout)) :
    layout.bitmapEnd ≤ bytes.length := by
  obtain ⟨version, -, -, hfitting⟩ := accepted?_eq_some_iff.mp h
  exact (fitting?_eq_some_iff.mp hfitting).2

end Descriptor

theorem BlockMap.memory_of {bytes : Bytes} {format : Format} {layout : RecordLayout} {total factor : Nat}
    {map : BlockMap} (h : of? bytes format layout total factor = some map) :
    bytesForBits total < allocationLimit :=
  (of?_eq_some h).1

/-- A bitmap has at most eight blocks to a byte: `total ≤ 8 * bitmapLength`. -/
theorem Format.total_le (format : Format) (total : Nat) : total ≤ 8 * format.bitmapLength total := by
  cases format with
  | legacy =>
    show total ≤ 8 * total
    omega
  | current =>
    show total ≤ 8 * bytesForBits total
    unfold bytesForBits
    omega

/-- A bitmap is at most a byte for each block. -/
theorem Format.bitmapLength_le (format : Format) (total : Nat) :
    format.bitmapLength total ≤ 8 * bytesForBits total := by
  cases format with
  | legacy =>
    show total ≤ 8 * bytesForBits total
    unfold bytesForBits
    omega
  | current =>
    show bytesForBits total ≤ 8 * bytesForBits total
    omega

theorem RecordLayout.Of.bitmapEnd_eq {layout : RecordLayout} {format : Format} {descriptor : Descriptor}
    (h : layout.Of format descriptor) :
    layout.bitmapEnd = layout.bitmapOffset + format.bitmapLength descriptor.totalBlocks + 8 := by
  rw [← h.bitmapLength_eq]
  rfl

/-- So few blocks that they end within 64 bits, whatever their size and that of what follows each. -/
theorem row_lt {base size count : Nat} (hcount : count ≤ 2 ^ 32 - 2 ^ 16)
    (hsize : size ≤ 2 ^ 32 + 2 ^ 16 - 2) (hbase : base ≤ 2 ^ 33) : base + count * size < range64 := by
  have hmul := Nat.mul_le_mul hcount hsize
  have hbound : 2 ^ 33 + (2 ^ 32 - 2 ^ 16) * (2 ^ 32 + 2 ^ 16 - 2) < range64 := by decide
  omega

namespace Image

variable {O : Type} [Overlay O]

open PartitionImage.Action (perform)

/-- The rows of a verified image: its records, the blocks of its export, and the slots of a change file for
its geometry end within 64 bits. -/
structure Within64 (descriptor : Descriptor) (map : BlockMap) : Prop where
  records : map.layout.bitmapEnd + map.stats.used * map.layout.recordSize < range64
  blocks : descriptor.totalBlocks * descriptor.blockSize < range64
  slots : ChangeFile.wholeLength descriptor.blockSize descriptor.totalBlocks < range64

section

variable {start verified : Image O × World} {format : Format} {described : Descriptor}
  {layout : RecordLayout} {map : BlockMap} {loaded : Disk}

/-- The records of a verified image start where an offset can be: its bitmap has been in memory. -/
theorem VerifiedFrom.bitmapEnd_lt (h : VerifiedFrom start verified format described layout map loaded) :
    layout.bitmapEnd < range64 := by
  have haccepted := h.accepted (start.1.source.backing.agrees_contents start.2.disk)
  have hmemory := BlockMap.memory_of (h.mapped (start.1.source.backing.agrees_contents loaded))
  have hend := h.exists_fits.2.bitmapEnd_eq
  have hoffset := (Descriptor.sizes_of_accepted? haccepted).2.2
  have hbitmap := format.bitmapLength_le described.totalBlocks
  rw [Descriptor.legacySize] at hoffset
  rw [allocationLimit] at hmemory
  rw [range64]
  omega

/-- The rows of a short image end within 64 bits, since its bitmap has few blocks. -/
theorem VerifiedFrom.within64 (h : VerifiedFrom start verified format described layout map loaded)
    (hshort : start.1.source.backing.size start.2.disk ≤ 2 ^ 29 - 2 ^ 13) :
    Within64 (described.repaired map.stats.used) map := by
  have hagrees := start.1.source.backing.agrees_contents start.2.disk
  obtain ⟨⟨bytes, hfits⟩, hlayout⟩ := h.exists_fits
  obtain rfl : map.layout = layout := hfits.layout_eq
  obtain ⟨hblock, htrailer, -⟩ := Descriptor.sizes_of_accepted? (h.accepted hagrees)
  have hblock : map.layout.blockSize < 2 ^ 32 := hblock
  have htrailer : map.layout.trailer < 2 ^ 16 := htrailer
  have hroom := Descriptor.bitmapEnd_le_of_accepted? (h.accepted hagrees)
  rw [← hagrees.size_eq] at hroom
  have hend := hlayout.bitmapEnd_eq
  have hblocks := format.total_le described.totalBlocks
  have hcount : described.totalBlocks ≤ 2 ^ 32 - 2 ^ 16 := by omega
  have hused : map.stats.used ≤ 2 ^ 32 - 2 ^ 16 := by
    rw [hfits.used_eq]
    exact Nat.le_trans (map.bitmap.count_le 0 _) (by rw [hfits.length_eq]; exact hcount)
  have hsize : described.blockSize ≤ 2 ^ 32 + 2 ^ 16 - 2 := by
    rw [← hlayout.blockSize_eq]
    omega
  have hrecord : map.layout.recordSize ≤ 2 ^ 32 + 2 ^ 16 - 2 := by
    rw [RecordLayout.recordSize]
    omega
  have hslots : ChangeFile.dataOffset described.blockSize described.totalBlocks ≤ 2 ^ 33 := by
    have hle := ChangeFile.dataOffset_le described.blockSize described.totalBlocks
    have hheader : ChangeFile.headerSize = 32 := rfl
    omega
  have hrow : 0 + described.totalBlocks * described.blockSize < range64 :=
    row_lt hcount hsize (Nat.zero_le _)
  refine ⟨row_lt hused hrecord (by omega), ?_, row_lt hcount hsize hslots⟩
  rwa [Nat.zero_add] at hrow

end

/-- **Verified images and 64 bits.**  Records, exported blocks and slots of a change file for the geometry of
the image are where they should be, and apart from each other, just if the last of them ends below `2^64`; a place
that is had is exact in any case.  What needs a row that does not end there panics: an export, the verification of
a change file, and the read of a record that starts past `2^64`.  The rows of an image of at most `2^29 - 2^13` bytes
all end there. -/
theorem inRow_of_verify {start verified : Image O × World}
    (hverify : perform verify start = (.ok (), verified)) :
    ∃ descriptor map, verified.1.stage = .verified descriptor map
      ∧ verified.1.dataOffset? = some map.layout.bitmapEnd
      ∧ Checked map.layout.recordOffset?
          (Inspection.recordsEnd? map.layout.dataOffset map.layout.recordSize map.stats.used)
          map.layout.bitmapEnd map.layout.recordSize map.stats.used
      ∧ Checked (Export.place? descriptor.blockSize)
          (Export.place? descriptor.blockSize descriptor.totalBlocks) 0 descriptor.blockSize
          descriptor.totalBlocks
      ∧ (∀ file : ChangeFile, file.blockSize = descriptor.blockSize →
          file.totalBlocks = descriptor.totalBlocks →
          Checked file.slotOffset? (ChangeFile.expectedLength? file.blockSize file.totalBlocks)
            (ChangeFile.dataOffset file.blockSize file.totalBlocks) file.blockSize file.totalBlocks)
      ∧ (∀ number block (state : Image O × World),
          range64 ≤ map.layout.bitmapEnd + number * map.layout.recordSize →
          (readRecord map number block descriptor.blockSize).run state = (.failed .overflow, state))
      ∧ (range64 ≤ descriptor.totalBlocks * descriptor.blockSize →
          ∀ output events file made, verified.2.disk.create output = .ok (file, made) →
          (perform (exportDevice output) ⟨verified.1, verified.2, events⟩).1 = .error .overflow)
      ∧ (range64 ≤ ChangeFile.wholeLength descriptor.blockSize descriptor.totalBlocks →
          ∀ (file : ChangeFile) (disk : Disk), file.blockSize = descriptor.blockSize →
          file.totalBlocks = descriptor.totalBlocks →
          perform ChangeFile.verify (file, disk) = (.error .overflow, file, disk))
      ∧ (start.1.source.backing.size start.2.disk ≤ 2 ^ 29 - 2 ^ 13 → Within64 descriptor map) := by
  obtain ⟨format, described, layout, map, loaded, hfrom⟩ := verifiedFrom_of_verify hverify
  obtain ⟨⟨bytes, hfits⟩, -⟩ := hfrom.exists_fits
  obtain rfl : map.layout = layout := hfits.layout_eq
  have hstart := hfrom.bitmapEnd_lt
  have hdata : map.layout.dataOffset = map.layout.bitmapEnd := saturate64_of_lt hstart
  have hblockSize : BlockDevice.blockSize? verified.1 = some (described.repaired map.stats.used).blockSize := by
    show verified.1.blockSize? = _
    rw [blockSize?, verifiedDescriptor?, descriptor?, hfrom.stage]
    rfl
  have hblockCount : BlockDevice.blockCount? verified.1 = some (described.repaired map.stats.used).totalBlocks := by
    show verified.1.blockCount? = _
    rw [blockCount?, verifiedDescriptor?, descriptor?, hfrom.stage]
    rfl
  refine ⟨_, map, hfrom.stage, ?_, RecordLayout.checked hstart _, Export.checked _ _, fun file _ _ => file.checked,
    ?_, ?_, ?_, hfrom.within64⟩
  · rw [dataOffset?, hfrom.stage, ← hdata]
    rfl
  · intro number block state hfar
    have hfar : range64 ≤ map.layout.recordStart number := by
      rw [RecordLayout.recordStart, hdata]
      exact hfar
    rw [run_readRecord hfrom.suits, if_pos hfar]
  · intro hlarge output events file made hcreate
    rw [Export.perform_exportDevice_overflow hblockSize hblockCount hlarge hcreate]
  · intro hlarge file disk hsize htotal
    exact ChangeFile.perform_verify_overflow (by rw [hsize, htotal]; exact hlarge) disk

/-- An image of two blocks of two bytes is short, so that its two records are in a row of twelve bytes. -/
theorem inRow_of_verify_twoBlocks :
    ∃ verified descriptor map, perform verify (inMemory twoBlocks.bytes) = (.ok (), verified)
      ∧ verified.1.stage = .verified descriptor map
      ∧ InRow map.layout.recordOffset?
          (Inspection.recordsEnd? map.layout.dataOffset map.layout.recordSize map.stats.used)
          map.layout.bitmapEnd map.layout.recordSize map.stats.used
      ∧ map.layout.recordSize = 6 ∧ map.stats.used = 2 := by
  obtain ⟨verified, descriptor, map, hverify, hready⟩ :=
    exists_ready twoBlocks twoBlocks.records (by decide)
  have hverify : perform verify (inMemory twoBlocks.bytes) = (.ok (), verified) := hverify
  obtain ⟨descriptor', map', hstage, -, hrecords, -, -, -, -, -, hshort⟩ := inRow_of_verify hverify
  obtain ⟨rfl, rfl⟩ := Stage.verified.inj (hready.stage.symm.trans hstage)
  have hsize : (inMemory twoBlocks.bytes).1.source.backing.size (inMemory twoBlocks.bytes).2.disk
      = twoBlocks.bytes.length :=
    (Source.delivers_ofBytes _ twoBlocks.bytes).holds.size_eq
  have hlength : twoBlocks.bytes.length ≤ 2 ^ 29 - 2 ^ 13 := by
    rw [Archive.bytes, Archive.length_image, Archive.length_records]
    decide
  refine ⟨verified, descriptor, map, hverify, hstage,
    hrecords.inRow_iff.mpr (hshort (hsize ▸ hlength)).records, ?_, used_eq hready.mirrors⟩
  rw [hready.mirrors.fits.layout_eq]
  rfl

/-- A current image of 4295032832 blocks of 4294901761 bytes, all of which are used. -/
def wide : Archive :=
  { checkedBlocks with
    blockSize := 4294901761
    blockSize_pos := by decide
    blockSize_lt := by decide
    deviceSize := 0
    blocks := List.replicate 4295032832 (some ⟨List.replicate 4294901761 0, List.length_replicate⟩)
    total_lt := by
      rw [List.length_replicate]
      decide }

theorem total_wide : wide.total = 4295032832 := List.length_replicate

theorem length_payloads_wide : wide.payloads.length = 4295032832 := by
  have hpayloads : wide.payloads
      = List.replicate 4295032832 ⟨List.replicate 4294901761 0, List.length_replicate⟩ := by
    exact List.filterMap_replicate_of_some rfl
  rw [hpayloads, List.length_replicate]

/-- An image of half a gigabyte is verified although neither its records nor its blocks end below `2^64`: there is
no end of its records, no length for its export, and a change file for it panics when it is verified, however short
it is.  Its first slot can still be had, the last one cannot. -/
theorem verify_wide :
    ∃ verified descriptor map, perform verify (inMemory (wide.image [])) = (.ok (), verified)
      ∧ verified.1.stage = .verified descriptor map
      ∧ map.layout.bitmapEnd + map.stats.used * map.layout.recordSize = 18446744091426627702
      ∧ Inspection.recordsEnd? map.layout.dataOffset map.layout.recordSize map.stats.used = none
      ∧ descriptor.totalBlocks * descriptor.blockSize = 18446744073709617152
      ∧ Export.place? descriptor.blockSize descriptor.totalBlocks = none
      ∧ ∀ file : ChangeFile, file.blockSize = descriptor.blockSize →
        file.totalBlocks = descriptor.totalBlocks →
        ChangeFile.wholeLength file.blockSize file.totalBlocks = 18446744078004518913
          ∧ (∀ disk, (perform ChangeFile.verify (file, disk)).1 = .error .overflow)
          ∧ file.slotOffset? 0 = some 4294901761 ∧ file.slotOffset? 4295032831 = none := by
  obtain ⟨verified, descriptor, map, hverify, hready⟩ := exists_ready wide [] (by rw [total_wide]; decide)
  have hblockSize : descriptor.blockSize = 4294901761 := hready.mirrors.layout.blockSize_eq.symm
  have htotal : descriptor.totalBlocks = 4295032832 := hready.mirrors.total_eq.trans total_wide
  have hused : map.stats.used = 4295032832 := (used_eq hready.mirrors).trans length_payloads_wide
  have hlayout : map.layout = wide.layout := hready.mirrors.fits.layout_eq
  have hend : map.layout.bitmapEnd = 536879222 := by
    have hbitmap : wide.layout.bitmapLength = bytesForBits wide.total := rfl
    have hoffset : wide.layout.bitmapOffset = 110 := rfl
    rw [hlayout, RecordLayout.bitmapEnd, RecordLayout.magicOffset, hbitmap, hoffset, total_wide]
    decide
  have hrecord : map.layout.recordSize = 4294901765 := by
    rw [hlayout]
    rfl
  have hdata : map.layout.dataOffset = 536879222 := by
    rw [RecordLayout.dataOffset, hend]
    decide
  have hwhole : ChangeFile.wholeLength 4294901761 4295032832 = 18446744078004518913 := by decide
  refine ⟨verified, descriptor, map, hverify, hready.stage, ?_, ?_, ?_, ?_, ?_⟩
  · rw [hend, hrecord, hused]
  · rw [hdata, hrecord, hused]
    decide
  · rw [hblockSize, htotal]
  · rw [hblockSize, htotal]
    decide
  · intro file hfileSize hfileTotal
    rw [hblockSize] at hfileSize
    rw [htotal] at hfileTotal
    have hlarge : range64 ≤ ChangeFile.wholeLength file.blockSize file.totalBlocks := by
      rw [hfileSize, hfileTotal, hwhole]
      decide
    refine ⟨by rw [hfileSize, hfileTotal, hwhole], fun disk => ?_, ?_, ?_⟩
    · rw [ChangeFile.perform_verify_overflow hlarge]
    · rw [ChangeFile.slotOffset?, ChangeFile.slotStart, hfileSize, hfileTotal]
      decide
    · rw [ChangeFile.slotOffset?, ChangeFile.slotStart, hfileSize, hfileTotal]
      decide

end Image

end PartitionImage
