import PartitionImage.Descriptor.Basic
/-!
# Descriptors on disk

Both layouts begin with the same magic and keep their version at the same place, so that the head
alone tells which one follows.  All numbers are little-endian.

* `Descriptor.identify` reads the version out of a head.
* `Descriptor.decodeLegacy` and `Descriptor.decodeCurrent` read the two layouts.
-/

namespace PartitionImage.Descriptor

/-- `partclone-image`, at the start of every image. -/
def imageMagic : Bytes :=
  [0x70, 0x61, 0x72, 0x74, 0x63, 0x6C, 0x6F, 0x6E, 0x65, 0x2D, 0x69, 0x6D, 0x61, 0x67, 0x65]

/-- Bytes of the head that both layouts share. -/
def headSize : Nat := 36

def versionOffset : Nat := 30

/-- Bytes of a legacy descriptor: the head, 28 of the geometry, and 4096 of options that are not used. -/
def legacySize : Nat := 36 + 28 + 4096

/-- Bytes of a current descriptor, without the 4 of the checksum that follows it. -/
def currentSize : Nat := 36 + 52 + 18

/-- The version field of a head. -/
def versionOf (bytes : Bytes) : Version := ⟨bytes.slice versionOffset 4⟩

/-- The version of the image whose first bytes are given. -/
def identify (head : Bytes) : Except DescriptorError Version :=
  if head.length < headSize then .error .tooShort
  else if head.slice 0 15 ≠ imageMagic then .error .foreign
  else .ok (versionOf head)

/-- A number of 32 bits read as signed, in two's complement. -/
def signed32 (n : Nat) : Int := if n < 0x80000000 then n else (n : Int) - 0x100000000

/-- The descriptor in the first bytes of a legacy image.  The layout has no options: all its
images share those that are filled in here. -/
def decodeLegacy (bytes : Bytes) : Except DescriptorError Descriptor :=
  let blockSize := signed32 (bytes.field 36 4)
  if bytes.length < 64 then .error .tooShort
  else if bytes.slice 0 15 ≠ imageMagic then .error .foreign
  else if blockSize ≤ 0 then .error (.invalidBlockSize blockSize)
  else
    .ok {
      magic := bytes.slice 0 15
      version := versionOf bytes
      creator := ""
      endianness := .little
      fsType := Text.lossy (bytes.slice 15 15).untilZero
      deviceSize := bytes.field 40 8
      totalBlocks := bytes.field 48 8
      usedBlocks := bytes.field 56 8
      blockSize := blockSize.toNat
      imageVersion := 1
      cpuBits := 0
      checksumMode := .firstByte
      checksumSize := 4
      blocksPerChecksum := 1
      reseed := false
      bitmapMode := .byte }

/-- The descriptor in the first bytes of a current image.  The checksum that follows it is not
looked at. -/
def decodeCurrent (bytes : Bytes) : Except DescriptorError Descriptor :=
  let blockSize := bytes.field 84 4
  let blocksPerChecksum := bytes.field 100 4
  if bytes.length < currentSize then .error .tooShort
  else if bytes.slice 0 15 ≠ imageMagic then .error .foreign
  else if blockSize = 0 then .error (.invalidBlockSize 0)
  else if blocksPerChecksum = 0 then .error .invalidBlocksPerChecksum
  else
    .ok {
      magic := bytes.slice 0 15
      version := versionOf bytes
      creator := Text.lossy (bytes.slice 16 14).untilZero
      endianness := .ofMarker (bytes.field 34 2)
      fsType := Text.lossy (bytes.slice 36 16).untilZero
      deviceSize := bytes.field 52 8
      totalBlocks := bytes.field 60 8
      usedBlocks := bytes.field 68 8
      blockSize := blockSize
      imageVersion := bytes.field 92 2
      cpuBits := bytes.field 94 2
      checksumMode := .ofCode (bytes.field 96 2)
      checksumSize := bytes.field 98 2
      blocksPerChecksum := blocksPerChecksum
      reseed := bytes.field 104 1 != 0
      bitmapMode := .ofCode (bytes.field 105 1) }

end PartitionImage.Descriptor
