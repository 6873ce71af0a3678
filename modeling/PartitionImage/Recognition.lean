import PartitionImage.BlockDevice
import PartitionImage.ChangeFile
/-!
# Recognizing images

Which type of image a file is shows when it is verified as a partition image: a file whose head is
not that of a partition image is a raw image, whereas a damaged partition image is a failure.

* `probe` verifies a file as a partition image, `probeAny` tells the type.
* `openAny` opens a file as the type that it is.
-/

namespace PartitionImage

inductive ImageType
  | partition
  | raw
  deriving DecidableEq, Repr

def ImageType.text : ImageType → String
  | partition => "partclone"
  | raw => "raw"

/-- Verifies a handle: gives it back, or lets go of it and fails. -/
def verified {D : Type} [BlockDevice D] (device : D) : Action World Error D := do
  let (result, device, world) := Action.perform BlockDevice.verify (device, ← get)
  set world
  match result with
  | .ok () => return device
  | .error error =>
    ExceptT.lift (BlockDevice.drop device)
    throw error

/-- Opens the partition image at a path with a change file for its changes, and verifies it. -/
def openPartition (path : String) (options : OpenOptions) :
    Action World Error (Image ChangeFile) := do
  verified (← Image.open path options ())

/-- Opens the raw image at a path with a change file for its changes, and verifies it. -/
def openRaw (path : String) (options : OpenOptions) :
    Action World Error (RawImage ChangeFile) := do
  verified (← RawImage.open path options ())

/-- Checks that a path names a usable partition image. -/
def probe (path : String) : Action World Error Unit := do
  (← openPartition path {}).close

/-- Opens and verifies a path as a partition image, or as a raw image if it is none.  A damaged
partition image is not taken for a raw one. -/
def openAny (path : String) (options : OpenOptions) :
    Action World Error (AnyImage ChangeFile) := do
  match ← Action.attempt (openPartition path options) with
  | .ok image => return .partition image
  | .error error =>
    if error.kind = .formatMismatch then return .raw (← openRaw path options)
    else throw error

def probeAny (path : String) : Action World Error ImageType := do
  match ← Action.attempt (probe path) with
  | .ok () => return .partition
  | .error error => if error.kind = .formatMismatch then return .raw else throw error

end PartitionImage
