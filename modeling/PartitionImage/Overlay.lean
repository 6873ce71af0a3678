import PartitionImage.Action
import PartitionImage.Disk
import PartitionImage.Transfer
/-!
# Overlays

An image is never written.  Changed blocks go to an overlay, a store with a cursor that is asked
before the image on every read.

* `Overlay` is what a store has to offer, `Lookup` its answer to a read.
* `OverlayError` lists what can go wrong, `OverlayError.message` and `OverlayError.causes` say it.
* `makeOverlay` opens or makes a store that is whole.
* `defaultOverlayPath` is where the changes to an image go unless said otherwise.
-/

namespace PartitionImage

inductive OverlayError
  | cannotOpen (path : String) (cause : IoError)
  | io (cause : IoError)
  | invalidHeader (path : String)
  | geometryMismatch (blockSize totalBlocks expectedBlockSize expectedTotalBlocks : Nat)
  | truncated (length expected : Nat)
  | outOfRange (block : Nat)
  | bufferSize (length blockSize : Nat)
  /-- An offset or a length of the store is not below `2^64`. -/
  | overflow
  deriving DecidableEq, Repr

namespace OverlayError

def name : OverlayError → String
  | cannotOpen .. => "Open"
  | io _ => "Io"
  | invalidHeader _ => "InvalidHeader"
  | geometryMismatch .. => "GeometryMismatch"
  | truncated .. => "Truncated"
  | outOfRange _ => "OutOfRange"
  | bufferSize .. => "BufferSize"
  | overflow => "Overflow"

def message : OverlayError → String
  | cannotOpen path _ => "cannot open overlay " ++ path
  | io _ => "overlay i/o failed"
  | invalidHeader path => "overlay " ++ path ++ " has an invalid header"
  | geometryMismatch blockSize totalBlocks expectedBlockSize expectedTotalBlocks =>
    "overlay geometry " ++ toString blockSize ++ "x" ++ toString totalBlocks
      ++ " does not match image " ++ toString expectedBlockSize ++ "x"
      ++ toString expectedTotalBlocks
  | truncated length expected =>
    "overlay is truncated (" ++ toString length ++ " of " ++ toString expected ++ " bytes)"
  | outOfRange block => "block #" ++ toString block ++ " is out of range"
  | bufferSize length blockSize =>
    "buffer of " ++ toString length ++ " bytes does not hold a " ++ toString blockSize
      ++ "-byte block"
  | overflow => "overlay offset past 64 bits"

def causes : OverlayError → List String
  | cannotOpen _ cause | io cause => [cause.message]
  | _ => []

/-- Whether a failure is a panic, after which there is no handle left to call. -/
def panics : OverlayError → Bool
  | overflow => true
  | _ => false

end OverlayError

/-- The answer of an overlay that is asked for a block. -/
inductive Lookup
  | found
  /-- The overlay does not have it: the image is to be read. -/
  | notPresent
  deriving DecidableEq, Repr

/-- A store of changed blocks with a cursor. -/
class Overlay (O : Type) where
  /-- What opening a store depends on besides its place and geometry. -/
  Setup : Type
  /-- Opens the store that exists at a path. -/
  init : Setup → (path : String) → (blockSize totalBlocks : Nat) → Action Disk OverlayError O
  /-- Opens the store that exists at a path, or makes an empty one. -/
  create : Setup → (path : String) → (blockSize totalBlocks : Nat) → Action Disk OverlayError O
  /-- Checks that the store is whole. -/
  verify : Action (O × Disk) OverlayError Unit
  seek : (block : Nat) → Action (O × Disk) OverlayError Unit
  /-- Reads the block at the cursor into a buffer of `length` bytes, if the store has it. -/
  read : (length : Nat) → StateM (O × Disk) (Transfer OverlayError Lookup)
  write : Bytes → Action (O × Disk) OverlayError Unit
  holds : O → Bool
  sync : Action (O × Disk) OverlayError Unit
  /-- Syncs and releases the store. -/
  finish : O → Action Disk OverlayError Unit
  /-- Lets go of a store that is not finished. -/
  discard : O → StateM Disk Unit

/-- Verifies a store that is not attached yet; one that is not whole is let go of. -/
def verifyStore {O : Type} [Overlay O] (store : O) : Action Disk OverlayError O := do
  let (result, store, disk) := Action.perform Overlay.verify (store, ← get)
  set disk
  match result with
  | .ok () => return store
  | .error error =>
    ExceptT.lift (Overlay.discard store)
    throw error

/-- Opens or makes a store and verifies it; one that is not whole is let go of. -/
def makeOverlay {O : Type} [Overlay O] (setup : Overlay.Setup O) (path : String)
    (blockSize totalBlocks : Nat) : Action Disk OverlayError O := do
  let store ← Overlay.create setup path blockSize totalBlocks
  verifyStore store

/-- `.cf` is appended to the name of the image unless another path is given. -/
def defaultOverlayPath (image : String) : String := image ++ ".cf"

end PartitionImage
