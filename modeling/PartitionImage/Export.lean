import PartitionImage.BlockDevice
/-!
# Exporting a device

The device of a verified image is written to a plain file, in the size of the device.  Blocks
without data are left as they are in a fresh file, that is zero.

* `ExportError` lists what can go wrong.
* `Export.Event` is what a caller is told while an export runs.
* `exportDevice` is the export.
-/

namespace PartitionImage

inductive ExportError
  | notVerified
  | createFile (path : String) (cause : IoError)
  | writeFile (path : String) (cause : IoError)
  | readBlock (block : Nat) (cause : Error)
  /-- `block * blockSize` or `blockSize * total` is not below `2^64`. -/
  | overflow
  deriving DecidableEq, Repr

namespace ExportError

def name : ExportError → String
  | notVerified => "NotVerified"
  | createFile .. => "CreateFileFailed"
  | writeFile .. => "WriteFailed"
  | readBlock .. => "ReadBlockFailed"
  | overflow => "Overflow"

/-- The text includes that of the nearest cause. -/
def message : ExportError → String
  | notVerified => "image is not verified"
  | createFile path cause => "cannot create " ++ path ++ ": " ++ cause.message
  | writeFile path cause => "cannot write to " ++ path ++ ": " ++ cause.message
  | readBlock block cause => "cannot read block #" ++ toString block ++ ": " ++ cause.message
  | overflow => "output offset past 64 bits"

def causes : ExportError → List String
  | notVerified | overflow => []
  | createFile _ cause | writeFile _ cause => [cause.message]
  | readBlock _ cause => cause.message :: cause.causes

def panics : ExportError → Bool
  | overflow => true
  | readBlock _ cause => cause.panics
  | _ => false

end ExportError

namespace Export

/-- What a caller is told while an export runs. -/
inductive Event
  | start (output : String) (totalBlocks blockSize : Nat)
  | advance (blocks : Nat)
  | completed (written : Nat)
  deriving DecidableEq, Repr

def batch : Nat := 256

/-- The outcome of an export. -/
structure Summary where
  blocks : Nat
  written : Nat
  deriving DecidableEq, Repr

/-- What an export changes: the device, the world, and what the caller has been told, the first
event first. -/
structure State (D : Type) where
  device : D
  world : World
  events : List Event

variable {D : Type} [BlockDevice D]

def tell (event : Event) : Action (State D) ExportError Unit :=
  modify fun state => { state with events := state.events ++ [event] }

def onDevice {α : Type} (block : Nat) (act : Action (D × World) Error α) :
    Action (State D) ExportError α :=
  .zoom (fun state => (state.device, state.world))
    (fun (device, world) state => { state with device := device, world := world })
    (.readBlock block) act

/-- Changes the disk for the sake of the file `output`. -/
def onDisk (output : String) (change : Disk → Except IoError Disk) :
    Action (State D) ExportError Unit := do
  let state ← get
  let disk ← .ofExcept <| (change state.world.disk).mapError (.writeFile output)
  set { state with world := state.world.withDisk disk }

/-- Reads the block at the cursor, all of it. -/
def readBlock (blockSize : Nat) : Action (D × World) Error Bytes :=
  ExceptT.mk do
    let transfer ← BlockDevice.read blockSize
    return transfer.result.map fun _ => transfer.bytes

/-- Where a block stands in the file: `block * blockSize`, if that is below `2^64`. -/
def place? (blockSize block : Nat) : Option Nat := checked64? (block * blockSize)

/-- Copies `count` blocks from `block` on, of which `written` blocks before hold data, and gives
the number of blocks that hold data.  Every block is read, so that the cursor moves on; one without
data is not written. -/
def copyBlocks (output : String) (file : FileId) (blockSize : Nat) :
    (count block written : Nat) → Action (State D) ExportError Nat
  | 0, _, written => return written
  | count + 1, block, written => do
    let used ← onDevice block BlockDevice.isUsed
    let bytes ← onDevice block (readBlock blockSize)
    if used then
      let some place := place? blockSize block | throw .overflow
      onDisk output (·.write file place (.ofBytes bytes))
    if (block + 1) % batch = 0 then tell (.advance batch)
    copyBlocks output file blockSize count (block + 1) (if used then written + 1 else written)

end Export

variable {D : Type} [BlockDevice D]

/-- Writes the whole device of a verified image to the file `output`, which is made or emptied and
brought to the size of the device first. -/
def exportDevice (output : String) : Action (Export.State D) ExportError Export.Summary := do
  let { device, world, .. } ← get
  let some blockSize := BlockDevice.blockSize? device | throw .notVerified
  let some total := BlockDevice.blockCount? device | throw .notVerified
  let (file, disk) ← .ofExcept <| (world.disk.create output).mapError (.createFile output)
  modify fun state => { state with world := state.world.withDisk disk }
  let some length := Export.place? blockSize total | throw .overflow
  Export.onDisk output (·.setLength file length)
  Export.tell (.start output total blockSize)
  Export.onDevice 0 (BlockDevice.seek 0)
  let written ← Export.copyBlocks output file blockSize total 0 0
  Export.tell (.advance (total % Export.batch))
  Export.tell (.completed written)
  return { blocks := total, written := written }

end PartitionImage
