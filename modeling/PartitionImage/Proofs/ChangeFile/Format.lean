import PartitionImage.Proofs.Archive.Basic
import PartitionImage.Proofs.Overlay
/-!
# The form of a change file

Header, map and slots do not overlap, whatever the geometry, and a header reads back.

* `ChangeFile.Header.decode?_encode` says that a header reads back.
* `ChangeFile.headerSize_add_le` puts the slots behind the map, `ChangeFile.slots_disjoint` puts them
  beside each other.
* `ChangeFile.Fits` says that a file of a geometry can be made.
-/

namespace PartitionImage

theorem Bytes.slice_overwrite_of_disjoint {bytes new : Bytes} {offset start n : Nat}
    (hroom : start + n ≤ bytes.length) (h : start + n ≤ offset ∨ offset + new.length ≤ start) :
    (bytes.overwrite offset new).slice start n = bytes.slice start n := by
  have hlength : bytes.length ≤ (bytes.overwrite offset new).length := by
    rw [length_overwrite]
    split <;> omega
  refine ext_getD ?_ fun i hi => ?_
  · rw [length_slice, length_slice]
    omega
  · have hin : i < n := by
      rw [length_slice] at hi
      exact Nat.lt_of_lt_of_le hi (Nat.min_le_left _ _)
    rw [getD_slice, getD_slice, getD_overwrite, if_pos hin, if_pos hin, if_neg (by omega)]

namespace ChangeFile

/-! ### The header -/

namespace Header

variable (header : Header)

def parts : List Bytes :=
  [magic, Bytes.ofNat 4 header.blockSize, Bytes.ofNat 4 0, Bytes.ofNat 8 header.totalBlocks,
    Bytes.ofNat 4 (Checksum.crc32 Checksum.seed header.checked).toNat, Bytes.ofNat 4 0]

theorem encode_eq_flatten : header.encode = header.parts.flatten := by
  simp only [encode, checked, parts, List.flatten_cons, List.flatten_nil, List.append_nil,
    List.append_assoc]

theorem map_length_parts : header.parts.map List.length = [8, 4, 4, 8, 4, 4] := by
  simp [parts, magic]

@[simp] theorem length_encode : header.encode.length = headerSize := by
  rw [encode_eq_flatten, Bytes.length_flatten header.map_length_parts]
  rfl

/-- **A header reads back.** -/
theorem decode?_encode (hblock : header.blockSize < Bytes.capacity 4)
    (htotal : header.totalBlocks < Bytes.capacity 8) : decode? header.encode = some header := by
  have hcovered : header.encode.slice 0 checkedSize = header.checked := by
    have hchecked : header.checked.length = checkedSize := by
      simp [checked, magic, checkedSize]
    rw [encode, List.append_assoc, Bytes.slice, List.drop_zero, ← hchecked, List.take_left]
  have hmagic : header.encode.slice 0 8 = magic := by
    rw [encode_eq_flatten]
    exact Bytes.slice_flatten header.map_length_parts 0 rfl
  have hchecksum : header.encode.field 24 4
      = (Checksum.crc32 Checksum.seed header.checked).toNat := by
    rw [encode_eq_flatten]
    exact Bytes.field_flatten header.map_length_parts 4 rfl (UInt32.toNat_lt _)
  have hsize : header.encode.field 8 4 = header.blockSize := by
    rw [encode_eq_flatten]
    exact Bytes.field_flatten header.map_length_parts 1 rfl hblock
  have hblocks : header.encode.field 16 8 = header.totalBlocks := by
    rw [encode_eq_flatten]
    exact Bytes.field_flatten header.map_length_parts 3 rfl htotal
  rw [decode?, hcovered, length_encode, if_neg (Nat.lt_irrefl _), if_pos ⟨hmagic, hchecksum⟩, hsize,
    hblocks]

end Header

/-! ### Places -/

theorem le_roundUp (n : Nat) {step : Nat} (h : 0 < step) : n ≤ roundUp n step := by
  have hsplit := Nat.div_add_mod (n + step - 1) step
  have hrest := Nat.mod_lt (n + step - 1) h
  rw [roundUp, Nat.mul_comm]
  omega

theorem headerSize_add_le (blockSize totalBlocks : Nat) :
    headerSize + bytesForBits totalBlocks ≤ dataOffset blockSize totalBlocks :=
  le_roundUp _ (Nat.lt_of_lt_of_le Nat.zero_lt_one (Nat.le_max_right _ _))

/-- Header and map take little more than a bit for every block. -/
theorem dataOffset_le (blockSize totalBlocks : Nat) :
    dataOffset blockSize totalBlocks ≤ headerSize + (totalBlocks / 8 + 1) + max blockSize 1 := by
  have hround := Nat.div_mul_le_self (headerSize + bytesForBits totalBlocks + max blockSize 1 - 1) (max blockSize 1)
  have hmap : bytesForBits totalBlocks ≤ totalBlocks / 8 + 1 := by
    unfold bytesForBits
    omega
  unfold dataOffset roundUp
  omega

/-- No slot overlaps another one. -/
theorem slots_disjoint {file : ChangeFile} {block other : Nat} (hne : block ≠ other) :
    file.slotStart block + file.blockSize ≤ file.slotStart other
      ∨ file.slotStart other + file.blockSize ≤ file.slotStart block := by
  rw [slotStart, slotStart, Nat.add_assoc, Nat.add_assoc, ← Nat.succ_mul, ← Nat.succ_mul]
  rcases Nat.lt_or_gt_of_ne hne with hlt | hgt
  · exact .inl (Nat.add_le_add_left (Nat.mul_le_mul_right _ hlt) _)
  · exact .inr (Nat.add_le_add_left (Nat.mul_le_mul_right _ hgt) _)

/-- A change file of a geometry can be made and reached: its block size has the 4 bytes that the header has for it, the
map takes less than `allocationLimit` bytes, and the file is no longer than `Disk.maxOffset` and `sizeLimit`. -/
structure Fits (blockSize totalBlocks sizeLimit : Nat) : Prop where
  block : blockSize < Bytes.capacity 4
  memory : bytesForBits totalBlocks < allocationLimit
  reach : wholeLength blockSize totalBlocks ≤ Disk.maxOffset
  limit : wholeLength blockSize totalBlocks ≤ sizeLimit

namespace Fits

variable {blockSize totalBlocks sizeLimit : Nat}

theorem whole_lt (h : Fits blockSize totalBlocks sizeLimit) : wholeLength blockSize totalBlocks < range64 :=
  wholeLength_lt_of_reach h.reach

theorem expectedLength?_eq (h : Fits blockSize totalBlocks sizeLimit) :
    expectedLength? blockSize totalBlocks = some (wholeLength blockSize totalBlocks) :=
  checked64?_of_lt h.whole_lt

theorem decode?_encode (h : Fits blockSize totalBlocks sizeLimit) :
    Header.decode? (Header.encode ⟨blockSize, totalBlocks⟩) = some ⟨blockSize, totalBlocks⟩ := by
  refine Header.decode?_encode _ h.block ?_
  have hmemory := h.memory
  have hcapacity : Bytes.capacity 8 = 0x10000000000000000 := rfl
  unfold bytesForBits allocationLimit at hmemory
  show totalBlocks < Bytes.capacity 8
  omega

theorem newMap_eq (h : Fits blockSize totalBlocks sizeLimit) :
    newMap totalBlocks = .ok (.clear totalBlocks) := by
  rw [newMap, Bitmap.new, if_pos h.memory]
  rfl

end Fits

end ChangeFile

end PartitionImage
