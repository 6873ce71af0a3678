import PartitionImage.Disk
import PartitionImage.Error
/-!
# The world of a handle

What an operation on a handle may see and change besides the handle: the disk, and the warnings that
it raises.

* `Warning` lists what is worth a warning, `Warning.fields` says it.
* `World` is the disk with the warnings raised so far.
-/

namespace PartitionImage

/-- An entry of a byte-per-block bitmap that is neither 0 nor 1. -/
structure Anomaly where
  block : Nat
  value : UInt8
  deriving DecidableEq, Repr

def Anomaly.text (anomaly : Anomaly) : String :=
  "Anomaly \x7b block: " ++ toString anomaly.block ++ ", value: "
    ++ toString anomaly.value.toNat ++ " \x7d"

/-- What is worth a warning. -/
inductive Warning
  | anomalousBitmap (count : Nat) (first : Option Anomaly)
  | deviceSize (recorded computed : Nat)
  | usedBlockCount (recorded scanned : Nat)
  | overlayNotOpened (path : String) (cause : OverlayError)
  | imageNotReleased (path : String) (cause : Error)
  | rawImageNotReleased (path : String) (cause : Error)
  deriving DecidableEq, Repr

namespace Warning

def message : Warning → String
  | anomalousBitmap .. =>
    "bitmap holds entries that are neither 0 nor 1; treating them as unused"
  | deviceSize .. => "correcting device size"
  | usedBlockCount .. => "correcting stale used-block count"
  | overlayNotOpened .. =>
    "cannot open overlay; it will be created on the first write"
  | imageNotReleased .. => "cannot release image"
  | rawImageNotReleased .. => "cannot release raw image"

def fields : Warning → List (String × String)
  | anomalousBitmap count first =>
    [("count", toString count), ("first", match first with
      | some anomaly => "Some(" ++ anomaly.text ++ ")"
      | none => "None")]
  | deviceSize recorded computed =>
    [("recorded", toString recorded), ("computed", toString computed)]
  | usedBlockCount recorded scanned =>
    [("recorded", toString recorded), ("scanned", toString scanned)]
  | overlayNotOpened path cause => [("path", path), ("error", cause.message)]
  | imageNotReleased path cause | rawImageNotReleased path cause =>
    [("path", path), ("error", cause.message)]

end Warning

/-- The disk, and the warnings raised so far, the first one first. -/
structure World where
  disk : Disk := {}
  warnings : List Warning := []
  deriving DecidableEq

namespace World

def warn (world : World) (warning : Warning) : World :=
  { world with warnings := world.warnings ++ [warning] }

def withDisk (world : World) (disk : Disk) : World := { world with disk := disk }

end World

variable {σ ε α : Type}

namespace Action

def onDisk (wrap : ε → Error) (act : Action Disk ε α) : Action World Error α :=
  zoom World.disk (fun disk world => world.withDisk disk) wrap act

def onWorld (act : Action World ε α) : Action (σ × World) ε α :=
  zoom Prod.snd (fun world state => (state.1, world)) id act

def warn (warning : Warning) : Action (σ × World) ε Unit :=
  modify fun (state, world) => (state, world.warn warning)

end Action

end PartitionImage
