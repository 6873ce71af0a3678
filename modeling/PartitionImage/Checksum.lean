import PartitionImage.Bytes
/-!
# Block checksums

CRC-32 with the reflected polynomial `0xEDB88320`, in the two forms that images store.  Both give
the raw register: it starts at a seed that the caller supplies and is not inverted at the end, so
the result of one string is the seed of the next.

* `Checksum.shift` is one step of the register over one bit, `Checksum.table` eight of them for
  each byte, and `Checksum.fold` the step over a byte by table.
* `Checksum.crc32` folds every byte of a string.
* `Checksum.firstByte` folds the first byte of a string as many times as the string is long; the
  legacy layout protects its blocks in this way.
* `Checksum.Algorithm` names the three layouts: no checksum, `crc32`, `firstByte`.
-/

namespace PartitionImage.Checksum

/-- The polynomial `0x04C11DB7`, lowest power in the highest bit. -/
def polynomial : UInt32 := 0xEDB88320

/-- The register before the first block, and before a descriptor. -/
def seed : UInt32 := 0xFFFFFFFF

def size : Nat := 4

/-- One bit leaves the register at the low end; a one brings `polynomial` in. -/
def shift (register : UInt32) : UInt32 :=
  if register &&& 1 = 1 then (register >>> 1) ^^^ polynomial else register >>> 1

/-- `count` steps of `shift`. -/
def shifts (count : Nat) (register : UInt32) : UInt32 := Nat.repeat shift count register

/-- `shifts 8` of each value of a byte. -/
def table : Vector UInt32 256 := Vector.ofFn fun i => shifts 8 (UInt32.ofNat i.val)

/-- The register after one byte, by `table`. -/
def fold (register : UInt32) (byte : UInt8) : UInt32 :=
  (register >>> 8) ^^^ table.get (Fin.ofNat 256 (register ^^^ byte.toUInt32).toNat)

/-- The register after a string of bytes. -/
def crc32 (seed : UInt32) (bytes : Bytes) : UInt32 := bytes.foldl fold seed

/-- The register after the first byte of a string, folded once for every byte of the string.  The empty string leaves
`seed`. -/
def firstByte (seed : UInt32) : Bytes → UInt32
  | [] => seed
  | bytes@(first :: _) => Nat.repeat (fun register => fold register first) bytes.length seed

theorem crc32_append (seed : UInt32) (a b : Bytes) :
    crc32 seed (a ++ b) = crc32 (crc32 seed a) b :=
  List.foldl_append

/-- What protects the payload of a block. -/
inductive Algorithm
  /-- Nothing is stored. -/
  | none
  /-- All bytes count. -/
  | crc32
  /-- Only the first byte and the length count. -/
  | firstByte
  deriving DecidableEq, Repr

namespace Algorithm

/-- Bytes stored after each payload. -/
def trailerSize : Algorithm → Nat
  | none => 0
  | crc32 | firstByte => size

/-- The register after `bytes`. -/
def compute : Algorithm → UInt32 → Bytes → UInt32
  | none, seed, _ => seed
  | crc32, seed, bytes => Checksum.crc32 seed bytes
  | firstByte, seed, bytes => Checksum.firstByte seed bytes

end Algorithm

end PartitionImage.Checksum
