import PartitionImage.Text.Hexadecimal
import PartitionImage.Text.Lossy
/-!
# Image descriptors

Every image begins with a descriptor: who made it, the geometry of the device, and how bitmap and
blocks are stored.  Two layouts are known, told apart by four version bytes; both are brought to the
one `Descriptor`.

* `Version` is the version field, `Format` the layout it selects: `Format.ofVersion?`.
* `Descriptor` is the descriptor in memory.
* `DescriptorError` says why bytes are no descriptor, `Feature` names what a descriptor may ask for
  that cannot be read.
-/

namespace PartitionImage

/-! ### Versions -/

/-- The version field of a descriptor. -/
structure Version where
  bytes : Bytes
  deriving DecidableEq, Repr

namespace Version

/-- `0001`. -/
def legacy : Version := ⟨[0x30, 0x30, 0x30, 0x31]⟩

/-- `0002`. -/
def current : Version := ⟨[0x30, 0x30, 0x30, 0x32]⟩

def text (version : Version) : String := Text.lossy version.bytes

end Version

/-- The layouts of an image. -/
inductive Format
  /-- A byte for each block in the bitmap, and first-byte block checksums. -/
  | legacy
  /-- A checksummed descriptor and a bit for each block in the bitmap. -/
  | current
  deriving DecidableEq, Repr

namespace Format

/-- The layout that a version selects. -/
def ofVersion? (version : Version) : Option Format :=
  if version = .legacy then some .legacy
  else if version = .current then some .current
  else none

end Format

/-! ### Fields -/

/-- The byte order of the machine that made an image. -/
inductive Endianness
  | little
  | big
  | unknown (marker : Nat)
  deriving DecidableEq, Repr

namespace Endianness

/-- The marker is read as little-endian: `0xC0DE` comes from such a machine, `0xDEC0` from the other kind. -/
def ofMarker (marker : Nat) : Endianness :=
  if marker = 0xC0DE then little else if marker = 0xDEC0 then big else unknown marker

def text : Endianness → String
  | little => "Little"
  | big => "Big"
  | unknown marker => "Unknown(" ++ toString marker ++ ")"

end Endianness

/-- How blocks are protected. -/
inductive ChecksumMode
  | none
  | crc32
  | firstByte
  | unknown (code : Nat)
  deriving DecidableEq, Repr

namespace ChecksumMode

/-- The mode that a code says. -/
def ofCode (code : Nat) : ChecksumMode :=
  if code = 0x00 then none
  else if code = 0x20 then crc32
  else if code = 0xFF then firstByte
  else unknown code

def text : ChecksumMode → String
  | none => "None"
  | crc32 => "Crc32"
  | firstByte => "Crc32Legacy"
  | unknown code => "Unknown(" ++ toString code ++ ")"

end ChecksumMode

/-- How the bitmap is stored. -/
inductive BitmapMode
  | none
  | bit
  | byte
  | unknown (code : Nat)
  deriving DecidableEq, Repr

namespace BitmapMode

/-- The mode that a code says. -/
def ofCode (code : Nat) : BitmapMode :=
  if code = 0x00 then none
  else if code = 0x01 then bit
  else if code = 0x08 then byte
  else unknown code

def text : BitmapMode → String
  | none => "None"
  | bit => "Bit"
  | byte => "Byte"
  | unknown code => "Unknown(" ++ toString code ++ ")"

end BitmapMode

/-! ### Descriptors -/

/-- What an image says about itself, whatever its layout. -/
structure Descriptor where
  magic : Bytes
  version : Version
  /-- Version of the tool that made the image; empty in the legacy layout. -/
  creator : String
  endianness : Endianness
  /-- Type of the file system, such as `NTFS`. -/
  fsType : String
  deviceSize : Nat
  totalBlocks : Nat
  usedBlocks : Nat
  blockSize : Nat
  imageVersion : Nat
  cpuBits : Nat
  checksumMode : ChecksumMode
  checksumSize : Nat
  blocksPerChecksum : Nat
  /-- Every block starts from the seed instead of the checksum before it. -/
  reseed : Bool
  bitmapMode : BitmapMode
  deriving DecidableEq, Repr

/-- Why bytes are no descriptor. -/
inductive DescriptorError
  | tooShort
  /-- The magic is missing. -/
  | foreign
  | invalidBlockSize (blockSize : Int)
  | invalidBlocksPerChecksum
  deriving DecidableEq, Repr

def DescriptorError.message : DescriptorError → String
  | tooShort => "source buffer is too short to read the descriptor"
  | foreign => "not a partclone image"
  | invalidBlockSize blockSize => "invalid block size " ++ toString blockSize
  | invalidBlocksPerChecksum => "blocks per checksum must be at least 1"

inductive Feature
  | bigEndian
  | byteOrderMarker (marker : Nat)
  | bitmapMode (mode : BitmapMode)
  | checksumMode (mode : ChecksumMode)
  | trailerSize (size : Nat)
  | blocksPerChecksum (blocks : Nat)
  deriving DecidableEq, Repr

def Feature.text : Feature → String
  | bigEndian => "big-endian images"
  | byteOrderMarker marker => "byte order marker 0x" ++ Text.hex 4 marker
  | bitmapMode mode => "bitmap mode " ++ mode.text
  | checksumMode mode => "checksum mode " ++ mode.text
  | trailerSize size => toString size ++ "-byte CRC32 trailers"
  | blocksPerChecksum blocks => "one checksum per " ++ toString blocks ++ " blocks"

end PartitionImage
