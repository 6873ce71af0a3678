import Mathlib.Data.Nat.Init
import PartitionImage.Image.Basic
import PartitionImage.Proofs.BlockMap
/-!
# Images as they are made

The documented layout of an image, as a function of what goes into it: a descriptor, the bitmap, its
magic, and a record for each used block in order.

* `Archive` is what goes into an image, with every field that is free.  A block is used if there is a
  payload for it.
* `Trailers` are the ways in which records are protected; `Trailers.records` are the records.
* `Archive.bytes` is the image, `Archive.layout` where its parts are; `Archive.image` is one whose records
  are not those that were made.
-/

namespace PartitionImage

/-- Strings of `n` bytes. -/
abbrev Bytes.Sized (n : Nat) : Type := { bytes : Bytes // bytes.length = n }

@[simp] theorem Bytes.Sized.length_val {n : Nat} (bytes : Bytes.Sized n) : bytes.val.length = n :=
  bytes.property

def Bytes.Sized.twice (byte : UInt8) : Bytes.Sized 2 := ⟨[byte, byte], rfl⟩

/-! ### Strings in parts -/

namespace Bytes

variable {parts : List Bytes} {lengths : List Nat} {part : Bytes}

/-- Where a part starts, if parts of the given lengths follow one another. -/
def startOf : (lengths : List Nat) → (part : Nat) → Nat
  | [], _ | _ :: _, 0 => 0
  | length :: lengths, part + 1 => length + startOf lengths part

/-- Every part of a string is where the parts before it end. -/
theorem slice_flatten (hlengths : parts.map List.length = lengths) (i : Nat)
    (hpart : parts[i]? = some part) :
    slice parts.flatten (startOf lengths i) part.length = part := by
  induction i generalizing parts lengths with
  | zero =>
    cases parts with
    | nil => cases hpart
    | cons first others =>
      cases hpart
      subst hlengths
      rw [List.map_cons, startOf, List.flatten_cons, slice, List.drop_zero, List.take_left]
  | succ i ih =>
    cases parts with
    | nil => cases hpart
    | cons first others =>
      subst hlengths
      rw [List.map_cons, startOf, List.flatten_cons, slice, ← List.drop_drop, List.drop_left]
      exact ih rfl hpart

/-- The last part ends where the string does. -/
theorem length_flatten (hlengths : parts.map List.length = lengths) :
    parts.flatten.length = startOf lengths lengths.length := by
  subst hlengths
  induction parts with
  | nil => rfl
  | cons first others ih =>
    rw [List.flatten_cons, List.length_append, ih]
    rfl

/-- A number in a part reads back if there was room for it. -/
theorem field_flatten (hlengths : parts.map List.length = lengths) (i : Nat) {width n : Nat}
    (hpart : parts[i]? = some (ofNat width n)) (hroom : n < capacity width) :
    field parts.flatten (startOf lengths i) width = n := by
  have hslice := slice_flatten hlengths i hpart
  rw [length_ofNat] at hslice
  rw [field, hslice, toNat_ofNat, Nat.mod_eq_of_lt hroom]

end Bytes

theorem Checksum.ofNat_toNat_ofNat (checksum : UInt32) :
    UInt32.ofNat (Bytes.toNat (Bytes.ofNat size checksum.toNat)) = checksum := by
  have hroom : checksum.toNat < Bytes.capacity size := checksum.toNat_lt
  rw [Bytes.toNat_ofNat, Nat.mod_eq_of_lt hroom, UInt32.ofNat_toNat]

/-! ### Records -/

/-- What follows the payloads of an image.  `flag` is the byte of the head that says whether checksums start anew. -/
inductive Trailers
  /-- A checksum that starts from the one before. -/
  | chained
  /-- A checksum that starts from the seed. -/
  | reseeded (flag : UInt8) (flag_ne : flag ≠ 0)
  /-- No checksum, but `size` bytes all the same.  The head may say how many blocks would share a checksum, and whether
  checksums would start anew. -/
  | unchecked (size : Nat) (filling : (number : Nat) → Bytes.Sized size) (flag : UInt8)
      (shared : { n : Nat // 0 < n ∧ n < Bytes.capacity 4 })

namespace Trailers

open Checksum (Algorithm)

def size : Trailers → Nat
  | chained | reseeded .. => Checksum.size
  | unchecked size .. => size

def flag : Trailers → UInt8
  | chained => 0
  | reseeded flag _ | unchecked _ _ flag _ => flag

def reseeds (trailers : Trailers) : Bool := trailers.flag.toNat != 0

def shared : Trailers → Nat
  | chained | reseeded .. => 1
  | unchecked _ _ _ shared => shared.val

def algorithm (checked : Algorithm) : Trailers → Algorithm
  | chained | reseeded .. => checked
  | unchecked .. => .none

/-- What follows the payload of a record whose checksum starts from `seed`. -/
def trailer (checked : Algorithm) (number : Nat) (seed : UInt32) (payload : Bytes) :
    Trailers → Bytes
  | chained | reseeded .. => Bytes.ofNat Checksum.size (checked.compute seed payload).toNat
  | unchecked _ filling .. => (filling number).val

/-- What the checksum of the next record starts from. -/
def next (checked : Algorithm) (seed : UInt32) (payload : Bytes) : Trailers → UInt32
  | chained => checked.compute seed payload
  | reseeded .. | unchecked .. => seed

theorem shared_bounds (trailers : Trailers) : 0 < trailers.shared ∧ trailers.shared < Bytes.capacity 4 := by
  cases trailers with
  | chained => decide
  | reseeded flag flag_ne =>
    rw [shared]
    decide
  | unchecked size filling flag shared => exact shared.property

theorem reseeds_reseeded {flag : UInt8} (flag_ne : flag ≠ 0) : (reseeded flag flag_ne).reseeds = true := by
  refine bne_iff_ne.mpr fun hzero => flag_ne ?_
  exact UInt8.toNat_inj.mp hzero

variable {blockSize : Nat}

/-- What the checksum of the record after some payloads starts from. -/
def seedAfter (trailers : Trailers) (checked : Algorithm) (seed : UInt32)
    (payloads : List (Bytes.Sized blockSize)) : UInt32 :=
  payloads.foldl (fun seed payload => trailers.next checked seed payload.val) seed

/-- The records of payloads, the first of which has the given number and starts from `seed`. -/
def records (trailers : Trailers) (checked : Algorithm) :
    (number : Nat) → (seed : UInt32) → List (Bytes.Sized blockSize) → Bytes
  | _, _, [] => []
  | number, seed, payload :: payloads =>
    payload.val ++ (trailers.trailer checked number seed payload.val
      ++ trailers.records checked (number + 1) (trailers.next checked seed payload.val) payloads)

@[simp] theorem length_trailer (trailers : Trailers) (checked : Algorithm) (number : Nat)
    (seed : UInt32) (payload : Bytes) :
    (trailers.trailer checked number seed payload).length = trailers.size := by
  cases trailers with
  | chained => simp [trailer, size]
  | reseeded flag flag_ne => simp [trailer, size]
  | unchecked size filling flag shared => simp [trailer, Trailers.size]

theorem length_records (trailers : Trailers) (checked : Algorithm) (number : Nat) (seed : UInt32)
    (payloads : List (Bytes.Sized blockSize)) :
    (trailers.records checked number seed payloads).length
      = payloads.length * (blockSize + trailers.size) := by
  induction payloads generalizing number seed with
  | nil => simp [records]
  | cons payload payloads ih =>
    simp only [records, List.length_append, Bytes.Sized.length_val, length_trailer, ih,
      List.length_cons, Nat.succ_mul]
    omega

/-- The records of two lists of payloads are those of the first, then those of the second. -/
theorem records_append (trailers : Trailers) (checked : Algorithm) (number : Nat) (seed : UInt32)
    (first second : List (Bytes.Sized blockSize)) :
    trailers.records checked number seed (first ++ second)
      = trailers.records checked number seed first
        ++ trailers.records checked (number + first.length)
          (trailers.seedAfter checked seed first) second := by
  induction first generalizing number seed with
  | nil => simp [records, seedAfter]
  | cons payload payloads ih =>
    simp only [List.cons_append, records, ih, List.append_assoc, List.length_cons, seedAfter,
      List.foldl_cons, Nat.add_assoc, Nat.add_comm 1]

/-- **A record is where the records before it end.** -/
theorem drop_records (trailers : Trailers) (checked : Algorithm) (seed : UInt32)
    {payloads : List (Bytes.Sized blockSize)} {number : Nat} {payload : Bytes.Sized blockSize}
    (h : payloads[number]? = some payload) :
    ∃ rest, (trailers.records checked 0 seed payloads).drop (number * (blockSize + trailers.size))
      = payload.val ++ (trailers.trailer checked number
          (trailers.seedAfter checked seed (payloads.take number)) payload.val ++ rest) := by
  obtain ⟨hlt, rfl⟩ := List.getElem?_eq_some_iff.mp h
  have hsplit : payloads
      = payloads.take number ++ payloads[number] :: payloads.drop (number + 1) := by
    rw [← List.drop_eq_getElem_cons hlt, List.take_append_drop]
  have hlength : (payloads.take number).length = number := by
    rw [List.length_take]
    omega
  have hbefore : (trailers.records checked 0 seed (payloads.take number)).length
      = number * (blockSize + trailers.size) := by
    rw [length_records, hlength]
  have hrecords := trailers.records_append checked 0 seed (payloads.take number)
    (payloads[number] :: payloads.drop (number + 1))
  rw [← hsplit, hlength, Nat.zero_add] at hrecords
  rw [hrecords, ← hbefore, List.drop_left]
  exact ⟨_, rfl⟩

end Trailers

/-! ### Heads -/

/-- The numbers that every head holds. -/
structure Geometry where
  blockSize : Nat
  deviceSize : Nat
  totalBlocks : Nat
  usedBlocks : Nat

/-- What a legacy head holds besides the geometry. -/
structure LegacyHead where
  fsType : Bytes.Sized 15
  unused : Bytes.Sized 2
  options : Bytes.Sized 4096

/-- What a current head holds besides the geometry, and what the last byte of the bitmap holds past its
end. -/
structure CurrentHead where
  separator : Bytes.Sized 1
  creator : Bytes.Sized 14
  fsType : Bytes.Sized 16
  /-- The number of used blocks by the account of the file system. -/
  reported : Bytes.Sized 8
  featureSize : Bytes.Sized 4
  imageVersion : Bytes.Sized 2
  cpuBits : Bytes.Sized 2
  trailers : Trailers
  size_lt : trailers.size < Bytes.capacity 2
  padding : (position : Nat) → Bool

def LegacyHead.fields (head : LegacyHead) (geometry : Geometry) : List Bytes :=
  [Descriptor.imageMagic, head.fsType.val, Version.legacy.bytes, head.unused.val,
    Bytes.ofNat 4 geometry.blockSize, Bytes.ofNat 8 geometry.deviceSize,
    Bytes.ofNat 8 geometry.totalBlocks, Bytes.ofNat 8 geometry.usedBlocks, head.options.val]

/-- The code of a checksum mode. -/
def Trailers.code : Trailers → Nat
  | chained | reseeded .. => 0x20
  | unchecked .. => 0x00

def CurrentHead.fields (head : CurrentHead) (geometry : Geometry) : List Bytes :=
  [Descriptor.imageMagic, head.separator.val, head.creator.val, Version.current.bytes,
    Bytes.ofNat 2 0xC0DE, head.fsType.val, Bytes.ofNat 8 geometry.deviceSize,
    Bytes.ofNat 8 geometry.totalBlocks, Bytes.ofNat 8 geometry.usedBlocks, head.reported.val,
    Bytes.ofNat 4 geometry.blockSize, head.featureSize.val, head.imageVersion.val, head.cpuBits.val,
    Bytes.ofNat 2 head.trailers.code, Bytes.ofNat 2 head.trailers.size, Bytes.ofNat 4 head.trailers.shared,
    Bytes.ofNat 1 head.trailers.flag.toNat, Bytes.ofNat 1 0x01]

inductive Head
  | legacy (head : LegacyHead)
  | current (head : CurrentHead)

namespace Head

def format : Head → Format
  | legacy _ => .legacy
  | current _ => .current

/-- The size of a block is below this limit. -/
def sizeLimit : Head → Nat
  | legacy _ => 0x80000000
  | current _ => 0x100000000

theorem sizeLimit_le (head : Head) : head.sizeLimit ≤ Bytes.capacity 4 := by
  cases head with
  | legacy _ =>
    rw [sizeLimit]
    decide
  | current _ =>
    rw [sizeLimit]
    decide

def checked : Head → Checksum.Algorithm
  | legacy _ => .firstByte
  | current _ => .crc32

def trailers : Head → Trailers
  | legacy _ => .chained
  | current head => head.trailers

/-- Bytes of a head: a checksum follows a current one. -/
def size : Head → Nat
  | legacy _ => Descriptor.legacySize
  | current _ => Descriptor.currentSize + Checksum.size

def bytes (geometry : Geometry) : Head → Bytes
  | legacy head => (head.fields geometry).flatten
  | current head =>
    let body := (head.fields geometry).flatten
    body ++ Bytes.ofNat Checksum.size (Checksum.crc32 Checksum.seed body).toNat

theorem map_length_legacy (head : LegacyHead) (geometry : Geometry) :
    (head.fields geometry).map List.length = [15, 15, 4, 2, 4, 8, 8, 8, 4096] := by
  simp [LegacyHead.fields, Descriptor.imageMagic, Version.legacy]

theorem map_length_current (head : CurrentHead) (geometry : Geometry) :
    (head.fields geometry).map List.length
      = [15, 1, 14, 4, 2, 16, 8, 8, 8, 8, 4, 4, 2, 2, 2, 2, 4, 1, 1] := by
  simp [CurrentHead.fields, Descriptor.imageMagic, Version.current]

theorem length_current (head : CurrentHead) (geometry : Geometry) :
    (head.fields geometry).flatten.length = Descriptor.currentSize :=
  Bytes.length_flatten (map_length_current head geometry)

theorem length_bytes (head : Head) (geometry : Geometry) :
    (head.bytes geometry).length = head.size := by
  cases head with
  | legacy head =>
    rw [bytes, Bytes.length_flatten (map_length_legacy head geometry)]
    rfl
  | current head =>
    rw [bytes, List.length_append, length_current, Bytes.length_ofNat]
    rfl

end Head

/-! ### The bitmap -/

/-- Bits in bytes, the first of them in the lowest bit. -/
def packed (bit : Nat → Bool) (count : Nat) : Bytes :=
  (List.range (bytesForBits count)).map fun i =>
    UInt8.ofNat (Nat.ofBits fun k : Fin 8 => bit (8 * i + k))

theorem testBit_packed (bit : Nat → Bool) {count position : Nat} (h : position < count) :
    ((packed bit count).getD (position / 8) 0).toNat.testBit (position % 8) = bit position := by
  have hbyte : position / 8 < bytesForBits count := by
    rw [bytesForBits]
    omega
  have hmod : position % 8 < 8 := Nat.mod_lt _ (by omega)
  have hget : (packed bit count).getD (position / 8) 0
      = UInt8.ofNat (Nat.ofBits fun k : Fin 8 => bit (8 * (position / 8) + k)) := by
    rw [packed, List.getD_eq_getElem?_getD, List.getElem?_map, List.getElem?_range hbyte]
    rfl
  have hlt := Nat.ofBits_lt_two_pow fun k : Fin 8 => bit (8 * (position / 8) + k)
  rw [hget, UInt8.toNat_ofNat', Nat.mod_eq_of_lt hlt, Nat.testBit_ofBits_lt _ _ hmod]
  show bit (8 * (position / 8) + position % 8) = _
  rw [Nat.div_add_mod]

/-! ### Archives -/

/-- What goes into an image. -/
structure Archive where
  head : Head
  blockSize : Nat
  blockSize_pos : 0 < blockSize
  blockSize_lt : blockSize < head.sizeLimit
  /-- Bytes of the device, as recorded. -/
  deviceSize : Nat
  /-- The payload of each block that is used. -/
  blocks : List (Option (Bytes.Sized blockSize))
  total_lt : blocks.length < range64

namespace Archive

variable (archive : Archive)

def total : Nat := archive.blocks.length

/-- Whether a block is used; what is past the last one is padding. -/
def isUsed (block : Nat) : Bool :=
  match archive.blocks[block]? with
  | some payload => payload.isSome
  | none =>
    match archive.head with
    | .legacy _ => false
    | .current head => head.padding block

def payloads : List (Bytes.Sized archive.blockSize) := archive.blocks.filterMap id

def geometry : Geometry where
  blockSize := archive.blockSize
  deviceSize := archive.deviceSize
  totalBlocks := archive.total
  usedBlocks := archive.payloads.length

def bitmap : Bytes :=
  match archive.head with
  | .legacy _ => (List.range archive.total).map fun block => if archive.isUsed block then 1 else 0
  | .current _ => packed archive.isUsed archive.total

def records : Bytes :=
  archive.head.trailers.records archive.head.checked 0 Checksum.seed archive.payloads

/-- Head and bitmap with anything where the records should be. -/
def image (tail : Bytes) : Bytes :=
  archive.head.bytes archive.geometry ++ (archive.bitmap ++ (bitmapMagic ++ tail))

def bytes : Bytes := archive.image archive.records

def layout : RecordLayout where
  bitmapOffset := archive.head.size
  bitmapLength := archive.head.format.bitmapLength archive.total
  blockSize := archive.blockSize
  trailer := archive.head.trailers.size
  algorithm := archive.head.trailers.algorithm archive.head.checked
  reseed := archive.head.trailers.reseeds

/-- What there is in a block: its payload, or filler. -/
def content (block : Option (Bytes.Sized archive.blockSize)) : Bytes :=
  match block with
  | some payload => payload.val
  | none => List.replicate archive.blockSize unusedBlockFill

/-- What there is in a run of blocks. -/
def contents (block n : Nat) : Bytes :=
  ((archive.blocks.drop block).take n).flatMap archive.content

end Archive

end PartitionImage
