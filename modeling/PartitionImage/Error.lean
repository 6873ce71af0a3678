import PartitionImage.Descriptor.Basic
import PartitionImage.Bitmap
import PartitionImage.Overlay
import PartitionImage.Text.Hexadecimal
/-!
# What can go wrong with an image

* `Readiness` names what an operation requires of a handle.
* `Error` lists every failure with what belongs to it; `Error.kind` groups them, `Error.message` says
  them, and `Error.causes` says what lies behind them.
-/

namespace PartitionImage

inductive Readiness
  /-- Opened and not yet verified. -/
  | opened
  | verified
  | readReady
  | writable
  | writeReady
  deriving DecidableEq, Repr

def Readiness.text : Readiness → String
  | opened => "freshly opened"
  | verified => "verified"
  | readReady => "ready for reading"
  | writable => "writable"
  | writeReady => "ready for writing"

inductive Error
  | openImage (path : String) (cause : IoError)
  | invalidState (required : Readiness)
  | outOfRange (block total : Nat)
  | bufferSize (length blockSize : Nat)
  | readDescriptor (cause : IoError)
  | parseDescriptor (cause : DescriptorError)
  | unsupportedVersion (version : Version)
  | descriptorChecksum (stored computed : UInt32)
  | unsupported (version : Version) (feature : Feature)
  | allocateBitmap (cause : AllocationError)
  | readBitmap (cause : IoError)
  | bitmapMagic
  | usedBlockCount (recorded scanned : Nat)
  | readBlock (block : Nat) (cause : IoError)
  | blockChecksum (block : Nat) (stored computed : UInt32)
  | overlay (cause : OverlayError)
  /-- A position outside the loaded bitmap, its index or a buffer was asked for, or a buffer of
  another size was copied. -/
  | outOfBounds
  /-- The offset of a record or block is not below `2^64`. -/
  | overflow
  deriving DecidableEq, Repr

/-- Broad classes of failures. -/
inductive ErrorKind
  /-- The handle is not in the state that the operation requires. -/
  | invalidState
  | io
  /-- The file is no image of a known kind. -/
  | formatMismatch
  /-- A checksum, a magic or a count is wrong. -/
  | integrity
  | allocation
  /-- The image uses a feature that cannot be read. -/
  | unsupported
  deriving DecidableEq, Repr

def ErrorKind.name : ErrorKind → String
  | invalidState => "InvalidState"
  | io => "Io"
  | formatMismatch => "FormatMismatch"
  | integrity => "Integrity"
  | allocation => "Allocation"
  | unsupported => "Unsupported"

namespace Error

def kindOfOverlay : OverlayError → ErrorKind
  | .outOfRange _ | .bufferSize .. | .overflow => .invalidState
  | .invalidHeader _ | .geometryMismatch .. | .truncated .. => .integrity
  | .cannotOpen .. | .io _ => .io

/-- The class of a failure.  A file too short for a head is of the class of one that is no image. -/
def kind : Error → ErrorKind
  | invalidState _ | outOfRange .. | bufferSize .. | outOfBounds | overflow => .invalidState
  | openImage .. | readBitmap _ | readBlock .. => .io
  | readDescriptor cause => if cause.kind = .unexpectedEof then .formatMismatch else .io
  | parseDescriptor .foreign => .formatMismatch
  | parseDescriptor .tooShort => .io
  | parseDescriptor (.invalidBlockSize _) | parseDescriptor .invalidBlocksPerChecksum =>
    .integrity
  | unsupportedVersion _ => .formatMismatch
  | descriptorChecksum .. | bitmapMagic | usedBlockCount .. | blockChecksum .. => .integrity
  | unsupported .. => .unsupported
  | allocateBitmap _ => .allocation
  | overlay cause => kindOfOverlay cause

def checksums (stored computed : UInt32) : String :=
  "(stored 0x" ++ Text.hex 8 stored.toNat ++ ", computed 0x" ++ Text.hex 8 computed.toNat ++ ")"

def message : Error → String
  | openImage path _ => "cannot open " ++ path
  | invalidState required => "image handle is not " ++ required.text
  | outOfRange block total =>
    "block #" ++ toString block ++ " is beyond the last block (" ++ toString total ++ " blocks)"
  | bufferSize length blockSize =>
    "buffer of " ++ toString length ++ " bytes is not a whole number of " ++ toString blockSize
      ++ "-byte blocks"
  | readDescriptor _ => "cannot read image descriptor"
  | parseDescriptor _ => "cannot parse image descriptor"
  | unsupportedVersion version => "unsupported image version " ++ version.text
  | descriptorChecksum stored computed =>
    "descriptor checksum mismatch " ++ checksums stored computed
  | unsupported version feature =>
    "version " ++ version.text ++ " images with " ++ feature.text ++ " are not supported"
  | allocateBitmap _ => "cannot allocate bitmap"
  | readBitmap _ => "cannot read bitmap"
  | bitmapMagic => "bitmap is not followed by its trailer magic"
  | usedBlockCount recorded scanned =>
    "header records " ++ toString recorded ++ " used blocks but the bitmap has "
      ++ toString scanned
  | readBlock block _ => "cannot read block #" ++ toString block
  | blockChecksum block stored computed =>
    "checksum mismatch in block #" ++ toString block ++ " " ++ checksums stored computed
  | overlay _ => "overlay failed"
  | outOfBounds => "position outside the bitmap"
  | overflow => "offset past 64 bits"

/-- What lies behind a failure, the nearest first. -/
def causes : Error → List String
  | openImage _ cause | readDescriptor cause | readBitmap cause | readBlock _ cause =>
    [cause.message]
  | parseDescriptor cause => [cause.message]
  | allocateBitmap cause => [cause.message]
  | overlay cause => cause.message :: cause.causes
  | _ => []

/-- A panic leaves no handle to call. -/
def panics : Error → Bool
  | outOfBounds | overflow => true
  | overlay cause => cause.panics
  | _ => false

end Error

end PartitionImage
