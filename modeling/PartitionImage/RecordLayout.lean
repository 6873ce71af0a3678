import PartitionImage.Bitmap
import PartitionImage.Checksum
import PartitionImage.Descriptor.Decode
/-!
# The layout of bitmap and records

After the descriptor come the bitmap, its magic, and one record for each used block: the payload of
the block and a trailer with its checksum.

* `RecordLayout` fixes the places of all of them; `RecordLayout.legacy` and `RecordLayout.current?`
  read it off a descriptor.
* `RecordLayout.recordStart` is the place of a record, counted among the used blocks, and
  `RecordLayout.recordOffset?` that place as an offset of 64 bits.
* `RecordLayout.seeded` says when the checksum of a record starts from the trailer before it;
  `RecordLayout.readOffset?` is where such a record is read from.
-/

namespace PartitionImage

/-- `BiTmAgIc`, between bitmap and records. -/
def bitmapMagic : Bytes := [0x42, 0x69, 0x54, 0x6D, 0x41, 0x67, 0x49, 0x63]

/-- Where bitmap and records are, and how records are made. -/
structure RecordLayout where
  bitmapOffset : Nat
  bitmapLength : Nat
  blockSize : Nat
  /-- Bytes after each payload. -/
  trailer : Nat
  algorithm : Checksum.Algorithm
  /-- The checksum of every record starts from the seed. -/
  reseed : Bool
  deriving DecidableEq, Repr

namespace RecordLayout

def legacy (descriptor : Descriptor) : RecordLayout where
  bitmapOffset := Descriptor.legacySize
  bitmapLength := descriptor.totalBlocks
  blockSize := descriptor.blockSize
  trailer := Checksum.size
  algorithm := .firstByte
  reseed := false

/-- The checksum of the blocks of a current image, or what stands in the way of reading them: byte
order, bitmap and checksum are looked at in this order. -/
def algorithm? (descriptor : Descriptor) : Except Feature Checksum.Algorithm := do
  match descriptor.endianness with
  | .little => pure ()
  | .big => throw .bigEndian
  | .unknown marker => throw (.byteOrderMarker marker)
  if descriptor.bitmapMode ≠ .bit then throw (.bitmapMode descriptor.bitmapMode)
  match descriptor.checksumMode with
  | .none => return .none
  | .crc32 =>
    if descriptor.checksumSize ≠ Checksum.size then throw (.trailerSize descriptor.checksumSize)
    if descriptor.blocksPerChecksum ≠ 1 then
      throw (.blocksPerChecksum descriptor.blocksPerChecksum)
    return .crc32
  | mode => throw (.checksumMode mode)

/-- The layout that a current descriptor describes.  Where no checksum is stored, a trailer of the
recorded size follows each payload all the same. -/
def current? (descriptor : Descriptor) : Except Feature RecordLayout := do
  let algorithm ← algorithm? descriptor
  return {
    bitmapOffset := Descriptor.currentSize + Checksum.size
    bitmapLength := bytesForBits descriptor.totalBlocks
    blockSize := descriptor.blockSize
    trailer := if algorithm = .none then descriptor.checksumSize else algorithm.trailerSize
    algorithm := algorithm
    reseed := descriptor.reseed }

def magicOffset (layout : RecordLayout) : Nat := layout.bitmapOffset + layout.bitmapLength

def bitmapEnd (layout : RecordLayout) : Nat := layout.magicOffset + bitmapMagic.length

/-- Where the records start, `2^64 - 1` at most. -/
def dataOffset (layout : RecordLayout) : Nat := saturate64 layout.bitmapEnd

def recordSize (layout : RecordLayout) : Nat := layout.blockSize + layout.trailer

/-- Where a record starts: at `dataOffset + number * recordSize`, where `number` used blocks precede it. -/
def recordStart (layout : RecordLayout) (number : Nat) : Nat :=
  layout.dataOffset + number * layout.recordSize

def recordOffset? (layout : RecordLayout) (number : Nat) : Option Nat :=
  checked64? (layout.recordStart number)

/-- Whether the checksum of a record starts from the trailer of the record before. -/
def seeded (layout : RecordLayout) (number : Nat) : Bool :=
  layout.algorithm != .none && !layout.reseed && 0 < number

/-- Where a record is read from: from the trailer before it, if its checksum starts from there. -/
def readOffset? (layout : RecordLayout) (number : Nat) : Option Nat := do
  let offset ← layout.recordOffset? number
  if !layout.seeded number then return offset
  if layout.trailer ≤ offset then return offset - layout.trailer
  none

end RecordLayout

end PartitionImage
