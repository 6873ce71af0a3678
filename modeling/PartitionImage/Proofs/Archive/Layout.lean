import PartitionImage.Proofs.Archive.Basic
/-!
# Where the parts of an image are

What was put into an image is found again: its head is accepted and gives back geometry and layout, its
bitmap has the used blocks, and its records stand one after the other.

* `Archive.accepted` is the head, `Archive.marked_eq` the bitmap, `Archive.slice_magic` what follows it.
* `Archive.drop_recordStart` is where a record starts.
-/

namespace PartitionImage.Archive

variable (archive : Archive) (tail : Bytes)

/-! ### The parts -/

theorem length_bitmap : archive.bitmap.length = archive.layout.bitmapLength := by
  unfold bitmap layout
  cases archive.head with
  | legacy head => simp [Head.format, Format.bitmapLength]
  | current head => simp [Head.format, Format.bitmapLength, packed]

theorem slice_head : (archive.image tail).slice 0 archive.head.size = archive.head.bytes archive.geometry := by
  rw [image, Bytes.slice, List.drop_zero, ← archive.head.length_bytes archive.geometry,
    List.take_left]

theorem drop_head :
    (archive.image tail).drop archive.layout.bitmapOffset
      = archive.bitmap ++ (bitmapMagic ++ tail) := by
  show (archive.image tail).drop archive.head.size = _
  rw [image, ← archive.head.length_bytes archive.geometry, List.drop_left]

theorem drop_bitmap :
    (archive.image tail).drop archive.layout.magicOffset = bitmapMagic ++ tail := by
  rw [RecordLayout.magicOffset, ← List.drop_drop, drop_head, ← length_bitmap, List.drop_left]

theorem drop_magic : (archive.image tail).drop archive.layout.bitmapEnd = tail := by
  rw [RecordLayout.bitmapEnd, ← List.drop_drop, drop_bitmap, List.drop_left]

/-- What stands after the bitmap, in terms of what was put there. -/
theorem slice_tail (offset n : Nat) :
    (archive.image tail).slice (archive.layout.bitmapEnd + offset) n = tail.slice offset n := by
  rw [Bytes.slice, ← List.drop_drop, drop_magic]
  rfl

theorem slice_magic :
    (archive.image tail).slice archive.layout.magicOffset bitmapMagic.length = bitmapMagic := by
  rw [Bytes.slice, drop_bitmap, List.take_left]

theorem length_image :
    (archive.image tail).length = archive.layout.bitmapEnd + tail.length := by
  rw [image, List.length_append, List.length_append, List.length_append, Head.length_bytes,
    length_bitmap, RecordLayout.bitmapEnd, RecordLayout.magicOffset]
  simp only [layout]
  omega

theorem length_records :
    archive.records.length = archive.payloads.length * archive.layout.recordSize :=
  Trailers.length_records _ _ _ _ _

theorem size_le_length : archive.head.size ≤ (archive.image tail).length := by
  rw [length_image]
  simp only [RecordLayout.bitmapEnd, RecordLayout.magicOffset, layout]
  omega

/-- **A record starts where the records before it end.** -/
theorem drop_recordStart {number : Nat} {payload : Bytes.Sized archive.blockSize}
    (h : archive.payloads[number]? = some payload) :
    ∃ rest,
      archive.bytes.drop (archive.layout.bitmapEnd + number * archive.layout.recordSize)
        = payload.val ++ (archive.head.trailers.trailer archive.head.checked number
            (archive.head.trailers.seedAfter archive.head.checked Checksum.seed
              (archive.payloads.take number)) payload.val ++ rest) := by
  rw [bytes, ← List.drop_drop, drop_magic]
  exact Trailers.drop_records _ _ _ h

/-! ### The bitmap -/

theorem isUsed_eq {block : Nat} (h : block < archive.total) :
    archive.isUsed block = archive.blocks[block].isSome := by
  rw [isUsed, List.getElem?_eq_getElem h]

theorem getD_bitmap {i : Nat} (h : i < archive.layout.bitmapLength) :
    (archive.image tail).getD (archive.layout.bitmapOffset + i) 0 = archive.bitmap.getD i 0 := by
  rw [← length_bitmap] at h
  rw [List.getD_eq_getElem?_getD, ← List.getElem?_drop, drop_head, List.getElem?_append_left h,
    ← List.getD_eq_getElem?_getD]

/-- The bitmap of an image has its used blocks, in either form. -/
theorem marked_eq {block : Nat} (h : block < archive.total) :
    BlockMap.marked (archive.image tail) archive.layout.bitmapOffset block archive.head.format
      = archive.isUsed block := by
  cases hhead : archive.head with
  | legacy head =>
    have hbitmap : archive.bitmap
        = (List.range archive.total).map fun block => if archive.isUsed block then 1 else 0 := by
      rw [bitmap, hhead]
    have hlength : archive.layout.bitmapLength = archive.total := by
      rw [layout, hhead]
      rfl
    show ((archive.image tail).getD (archive.layout.bitmapOffset + block) 0 == 1) = _
    rw [getD_bitmap _ _ (by rw [hlength]; exact h), hbitmap, List.getD_eq_getElem?_getD,
      List.getElem?_map, List.getElem?_range h, Option.map_some, Option.getD_some]
    cases archive.isUsed block with
    | true => rfl
    | false => rfl
  | current head =>
    have hbitmap : archive.bitmap = packed archive.isUsed archive.total := by
      rw [bitmap, hhead]
    have hlength : archive.layout.bitmapLength = bytesForBits archive.total := by
      rw [layout, hhead]
      rfl
    have hbyte : block / 8 < archive.layout.bitmapLength := by
      rw [hlength, bytesForBits]
      omega
    show ((archive.image tail).getD (archive.layout.bitmapOffset + block / 8) 0).toNat.testBit (block % 8)
      = _
    rw [getD_bitmap _ _ hbyte, hbitmap, testBit_packed _ h]

/-- The bitmap of an image has no entries that are neither 0 nor 1. -/
theorem anomalies_image :
    BlockMap.anomalies (archive.image tail) archive.layout.bitmapOffset archive.total archive.head.format = 0 := by
  cases hhead : archive.head with
  | legacy head =>
    have hbitmap : archive.bitmap
        = (List.range archive.total).map fun block => if archive.isUsed block then 1 else 0 := by
      rw [bitmap, hhead]
    have hlength : archive.bitmap.length = archive.total := by
      rw [hbitmap, List.length_map, List.length_range]
    have hslice : (archive.image tail).slice archive.layout.bitmapOffset archive.total = archive.bitmap := by
      rw [Bytes.slice, drop_head, ← hlength, List.take_left]
    show ((archive.image tail).slice archive.layout.bitmapOffset archive.total).countP _ = 0
    rw [hslice, hbitmap, List.countP_eq_zero]
    intro value hvalue
    obtain ⟨block, -, rfl⟩ := List.mem_map.mp hvalue
    cases archive.isUsed block with
    | true => decide
    | false => decide
  | current head => rfl

/-! ### The head -/

theorem version?_eq {bytes : Bytes} (hlength : Descriptor.headSize ≤ bytes.length)
    (hmagic : bytes.slice 0 15 = Descriptor.imageMagic) :
    Descriptor.version? bytes = some ⟨bytes.slice Descriptor.versionOffset 4⟩ := by
  have hrange : bytes.range? 0 Descriptor.headSize = some (bytes.slice 0 Descriptor.headSize) :=
    Bytes.range?_of_le (by omega)
  have hidentify : Descriptor.identify (bytes.slice 0 Descriptor.headSize)
      = .ok ⟨bytes.slice Descriptor.versionOffset 4⟩ := by
    rw [Descriptor.identify, Bytes.length_slice_of_le (by omega), if_neg (Nat.lt_irrefl _),
      Bytes.slice_slice _ _ _ (by decide), Nat.zero_add, if_neg (fun h => h hmagic),
      Descriptor.versionOf, Bytes.slice_slice _ _ _ (by decide), Nat.zero_add]
  rw [Descriptor.version?, hrange, Option.bind_eq_bind, Option.bind_some, hidentify]
  rfl

/-- What a descriptor has of the geometry that was put into its head. -/
structure Recorded (geometry : Geometry) (descriptor : Descriptor) : Prop where
  blockSize_eq : descriptor.blockSize = geometry.blockSize
  totalBlocks_eq : descriptor.totalBlocks = geometry.totalBlocks
  usedBlocks_eq : descriptor.usedBlocks = geometry.usedBlocks

/-- Geometries whose numbers fit their fields. -/
structure Storable (geometry : Geometry) (limit : Nat) : Prop where
  blockSize_pos : 0 < geometry.blockSize
  blockSize_lt : geometry.blockSize < limit
  totalBlocks_lt : geometry.totalBlocks < Bytes.capacity 8
  usedBlocks_lt : geometry.usedBlocks < Bytes.capacity 8

theorem decodeLegacy_fields (head : LegacyHead) {geometry : Geometry}
    (h : Storable geometry 0x80000000) :
    ∃ descriptor, Descriptor.decodeLegacy (head.fields geometry).flatten = .ok descriptor
      ∧ Recorded geometry descriptor := by
  have hlengths := Head.map_length_legacy head geometry
  have hlength : (head.fields geometry).flatten.length = 4160 := by
    rw [Bytes.length_flatten hlengths]
    rfl
  have hmagic : Bytes.slice (head.fields geometry).flatten 0 15 = Descriptor.imageMagic :=
    Bytes.slice_flatten hlengths 0 rfl
  have hblockSize : Bytes.field (head.fields geometry).flatten 36 4 = geometry.blockSize :=
    Bytes.field_flatten hlengths 4 rfl (Nat.lt_trans h.blockSize_lt (by decide))
  have hsigned : Descriptor.signed32 geometry.blockSize = geometry.blockSize :=
    if_pos h.blockSize_lt
  have hpos : ¬ (geometry.blockSize : Int) ≤ 0 := by
    have hpos := h.blockSize_pos
    omega
  unfold Descriptor.decodeLegacy
  dsimp only
  rw [hblockSize, hsigned, hlength, if_neg (by decide), hmagic, if_neg (fun hne => hne rfl),
    if_neg hpos]
  refine ⟨_, rfl, rfl, ?_, ?_⟩
  · exact Bytes.field_flatten hlengths 6 rfl h.totalBlocks_lt
  · exact Bytes.field_flatten hlengths 7 rfl h.usedBlocks_lt

/-- What a current descriptor has of the way in which records are protected. -/
structure Protected (trailers : Trailers) (descriptor : Descriptor) : Prop where
  endianness_eq : descriptor.endianness = .little
  bitmapMode_eq : descriptor.bitmapMode = .bit
  checksumMode_eq : descriptor.checksumMode = .ofCode trailers.code
  checksumSize_eq : descriptor.checksumSize = trailers.size
  blocksPerChecksum_eq : descriptor.blocksPerChecksum = trailers.shared
  reseed_eq : descriptor.reseed = trailers.reseeds

theorem decodeCurrent_fields (head : CurrentHead) {geometry : Geometry}
    (h : Storable geometry 0x100000000) :
    ∃ descriptor, Descriptor.decodeCurrent (head.fields geometry).flatten = .ok descriptor
      ∧ Recorded geometry descriptor ∧ Protected head.trailers descriptor := by
  have hlengths := Head.map_length_current head geometry
  have hmagic : Bytes.slice (head.fields geometry).flatten 0 15 = Descriptor.imageMagic :=
    Bytes.slice_flatten hlengths 0 rfl
  have hblockSize : Bytes.field (head.fields geometry).flatten 84 4 = geometry.blockSize :=
    Bytes.field_flatten hlengths 10 rfl h.blockSize_lt
  obtain ⟨hshared, hroom⟩ := head.trailers.shared_bounds
  have hperChecksum : Bytes.field (head.fields geometry).flatten 100 4 = head.trailers.shared :=
    Bytes.field_flatten hlengths 16 rfl hroom
  have hmarker : Bytes.field (head.fields geometry).flatten 34 2 = 0xC0DE :=
    Bytes.field_flatten hlengths 4 rfl (by decide)
  have hmode : Bytes.field (head.fields geometry).flatten 96 2 = head.trailers.code := by
    refine Bytes.field_flatten hlengths 14 rfl ?_
    cases head.trailers with
    | chained => decide
    | reseeded flag flag_ne =>
      rw [Trailers.code]
      decide
    | unchecked size filling flag shared => exact Nat.zero_lt_succ _
  have hreseed : Bytes.field (head.fields geometry).flatten 104 1 = head.trailers.flag.toNat :=
    Bytes.field_flatten hlengths 17 rfl head.trailers.flag.toNat_lt
  have hbitmap : Bytes.field (head.fields geometry).flatten 105 1 = 0x01 :=
    Bytes.field_flatten hlengths 18 rfl (by decide)
  have hpos : geometry.blockSize ≠ 0 := Nat.pos_iff_ne_zero.mp h.blockSize_pos
  unfold Descriptor.decodeCurrent
  dsimp only
  rw [hblockSize, hperChecksum, Head.length_current, if_neg (Nat.lt_irrefl _), hmagic,
    if_neg (fun hne => hne rfl), if_neg hpos, if_neg (Nat.pos_iff_ne_zero.mp hshared)]
  refine ⟨_, rfl, ⟨rfl, ?_, ?_⟩, ?_, ?_, ?_, ?_, rfl, ?_⟩
  · exact Bytes.field_flatten hlengths 7 rfl h.totalBlocks_lt
  · exact Bytes.field_flatten hlengths 8 rfl h.usedBlocks_lt
  · rw [hmarker]
    rfl
  · rw [hbitmap]
    rfl
  · rw [hmode]
  · exact Bytes.field_flatten hlengths 15 rfl head.size_lt
  · rw [hreseed]
    rfl

/-- The layout of a current image is read off its descriptor. -/
theorem current?_protected {descriptor : Descriptor} {trailers : Trailers}
    (h : Protected trailers descriptor) :
    RecordLayout.current? descriptor = .ok {
      bitmapOffset := Descriptor.currentSize + Checksum.size
      bitmapLength := bytesForBits descriptor.totalBlocks
      blockSize := descriptor.blockSize
      trailer := trailers.size
      algorithm := trailers.algorithm .crc32
      reseed := trailers.reseeds } := by
  have halgorithm : RecordLayout.algorithm? descriptor = .ok (trailers.algorithm .crc32) := by
    unfold RecordLayout.algorithm?
    rw [h.endianness_eq, h.bitmapMode_eq, h.checksumMode_eq, h.checksumSize_eq,
      h.blocksPerChecksum_eq]
    cases trailers with
    | chained => rfl
    | reseeded flag flag_ne => rfl
    | unchecked size filling flag shared => rfl
  rw [RecordLayout.current?, halgorithm, h.checksumSize_eq, h.reseed_eq]
  cases trailers with
  | chained => rfl
  | reseeded flag flag_ne => rfl
  | unchecked size filling flag shared => rfl

theorem storable : Storable archive.geometry archive.head.sizeLimit where
  blockSize_pos := archive.blockSize_pos
  blockSize_lt := archive.blockSize_lt
  totalBlocks_lt := archive.total_lt
  usedBlocks_lt :=
    Nat.lt_of_le_of_lt (List.length_filterMap_le _ _) archive.total_lt

/-- The descriptor and the layout of an image are decoded. -/
theorem decode?_image :
    ∃ descriptor,
      Descriptor.decode? (archive.image tail) archive.head.format = some (descriptor, archive.layout)
        ∧ Recorded archive.geometry descriptor := by
  have hstorable := archive.storable
  have hlong : archive.head.size ≤ (archive.image tail).length := archive.size_le_length tail
  have hrange : (archive.image tail).range? 0 archive.head.size
      = some (archive.head.bytes archive.geometry) := by
    rw [Bytes.range?_of_le (by omega), slice_head]
  cases hhead : archive.head with
  | legacy head =>
    rw [hhead] at hrange hstorable
    obtain ⟨descriptor, hdecoded, hrecorded⟩ := decodeLegacy_fields head hstorable
    have hlayout : RecordLayout.legacy descriptor = archive.layout := by
      rw [RecordLayout.legacy, layout, hhead, hrecorded.blockSize_eq, hrecorded.totalBlocks_eq]
      rfl
    refine ⟨descriptor, ?_, hrecorded⟩
    show ((archive.image tail).range? 0 (Head.legacy head).size).bind _ = _
    rw [hrange, Option.bind_some]
    show (Descriptor.decodeLegacy (head.fields archive.geometry).flatten).toOption.bind _ = _
    rw [hdecoded, ← hlayout]
    rfl
  | current head =>
    rw [hhead] at hrange hstorable
    obtain ⟨descriptor, hdecoded, hrecorded, hprotected⟩ := decodeCurrent_fields head hstorable
    have hlayout : RecordLayout.current? descriptor = .ok archive.layout := by
      rw [current?_protected hprotected, layout, hhead, hrecorded.blockSize_eq,
        hrecorded.totalBlocks_eq]
      rfl
    have hbody : ((Head.current head).bytes archive.geometry).take Descriptor.currentSize
        = (head.fields archive.geometry).flatten := by
      rw [Head.bytes, ← Head.length_current head archive.geometry, List.take_left]
    have hchecksum : UInt32.ofNat (((Head.current head).bytes archive.geometry).field
        Descriptor.currentSize Checksum.size)
          = Checksum.crc32 Checksum.seed (head.fields archive.geometry).flatten := by
      rw [Bytes.field, Bytes.slice, Head.bytes, ← Head.length_current head archive.geometry,
        List.drop_left, List.take_of_length_le (by simp), Checksum.ofNat_toNat_ofNat]
    refine ⟨descriptor, ?_, hrecorded⟩
    show ((archive.image tail).range? 0 (Head.current head).size).bind _ = _
    rw [hrange, Option.bind_some, hbody]
    dsimp only
    rw [hdecoded, hchecksum]
    show (if _ ≠ _ then _ else (RecordLayout.current? descriptor).toOption.bind _) = _
    rw [if_neg (fun hne => hne rfl), hlayout]
    rfl

theorem slice_part {bytes : Bytes} {size : Nat} {parts : List Bytes} {lengths : List Nat}
    (hhead : bytes.slice 0 size = parts.flatten) (hlengths : parts.map List.length = lengths)
    (i : Nat) {part : Bytes} (hpart : parts[i]? = some part)
    (hfit : Bytes.startOf lengths i + part.length ≤ size) :
    bytes.slice (Bytes.startOf lengths i) part.length = part := by
  have hslice := Bytes.slice_flatten hlengths i hpart
  rw [← hhead, Bytes.slice_slice _ _ _ hfit, Nat.zero_add] at hslice
  exact hslice

theorem version?_image :
    ∃ version, Descriptor.version? (archive.image tail) = some version
      ∧ Format.ofVersion? version = some archive.head.format := by
  have hlong := archive.size_le_length tail
  have hslice := archive.slice_head tail
  cases hhead : archive.head with
  | legacy head =>
    rw [hhead] at hlong hslice
    have hlong : Descriptor.legacySize ≤ (archive.image tail).length := hlong
    have hslice : (archive.image tail).slice 0 Descriptor.legacySize
        = (head.fields archive.geometry).flatten := hslice
    have hlengths := Head.map_length_legacy head archive.geometry
    have hmagic := slice_part hslice hlengths 0 rfl (by decide)
    have hversion := slice_part hslice hlengths 2 rfl (by decide)
    refine ⟨.legacy, ?_, rfl⟩
    rw [version?_eq (Nat.le_trans (by decide) hlong) hmagic]
    exact congrArg (fun bytes => some (Version.mk bytes)) hversion
  | current head =>
    rw [hhead] at hlong hslice
    have hlong : Descriptor.currentSize + Checksum.size ≤ (archive.image tail).length := hlong
    have hbody : (archive.image tail).slice 0 Descriptor.currentSize
        = (head.fields archive.geometry).flatten := by
      have hsub : 0 + Descriptor.currentSize ≤ Descriptor.currentSize + Checksum.size := by decide
      have hinner := Bytes.slice_slice (archive.image tail) 0 (Head.current head).size hsub
      rw [Nat.zero_add] at hinner
      rw [← hinner, hslice, Head.bytes, Bytes.slice, List.drop_zero,
        ← Head.length_current head archive.geometry, List.take_left]
    have hlengths := Head.map_length_current head archive.geometry
    have hmagic := slice_part hbody hlengths 0 rfl (by decide)
    have hversion := slice_part hbody hlengths 3 rfl (by decide)
    refine ⟨.current, ?_, rfl⟩
    rw [version?_eq (Nat.le_trans (by decide) hlong) hmagic]
    exact congrArg (fun bytes => some (Version.mk bytes)) hversion

/-- **The head of an image is accepted**, and gives back geometry and layout. -/
theorem accepted :
    ∃ descriptor,
      Descriptor.accepted? (archive.image tail) = some (archive.head.format, descriptor, archive.layout)
        ∧ Recorded archive.geometry descriptor := by
  obtain ⟨descriptor, hdecoded, hrecorded⟩ := archive.decode?_image tail
  obtain ⟨version, hversion, hformat⟩ := archive.version?_image tail
  have hfit : archive.layout.bitmapEnd ≤ (archive.image tail).length := by
    rw [length_image]
    exact Nat.le_add_right _ _
  refine ⟨descriptor, Descriptor.accepted?_eq_some_iff.mpr ?_, hrecorded⟩
  exact ⟨version, hversion, hformat, Descriptor.fitting?_eq_some_iff.mpr ⟨hdecoded, hfit⟩⟩

end PartitionImage.Archive
