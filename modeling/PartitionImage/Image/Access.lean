import PartitionImage.Image.Verify
/-!
# Block access

Reading and writing whole blocks of a verified image at its cursor.  A read asks the overlay first;
a block that it does not have comes from its record, or is filler if the bitmap says that it holds
no data.  Writes go to the overlay, which is made by the first of them if need be.

* `Image.seek` moves the cursor and counts the records before it.
* `Image.readRecord` reads one record and checks it, `Image.readBlock` the block at the cursor,
  `Image.read` a run of blocks.  What does not fit the buffers is out of bounds.
* `Image.isUsed` asks whether a block holds data.
* `Image.write` stores a run of blocks and `Image.sync` makes them last.
-/

namespace PartitionImage.Image

variable {O : Type} [Overlay O]

/-- The descriptor and the block map of an image that is ready for reading. -/
def readyMap : Action (Image O × World) Error (Descriptor × BlockMap) := do
  match (← get).1.stage with
  | .verified descriptor map => return (descriptor, map)
  | _ => throw (.invalidState .readReady)

def requireBlock (total : Nat) : Action (Image O × World) Error Unit := do
  let (image, _) ← get
  if total ≤ image.cursor then throw (.outOfRange image.cursor total)

/-- `length` bytes have to be a multiple of `blockSize`. -/
def requireWhole (length blockSize : Nat) : Action (Image O × World) Error Unit := do
  if length % blockSize ≠ 0 then throw (.bufferSize length blockSize)

/-- Moves the cursor of the attached overlay, if there is one. -/
def seekOverlay (block : Nat) : Action (Image O × World) Error Unit := do
  if let some store := (← get).1.overlay then
    onOverlay store (Overlay.seek block)

/-- Moves the cursor to a block, or to the end.  Nothing moves if the overlay refuses. -/
def seek (block : Nat) : Action (Image O × World) Error Unit := do
  let (descriptor, map) ← readyMap
  if descriptor.totalBlocks < block then throw (.outOfRange block descriptor.totalBlocks)
  let some passed := map.index.preceding? map.bitmap block | throw .outOfBounds
  seekOverlay block
  update fun image => { image with passed := passed, cursor := block }

/-! ### Reading -/

/-- The `n` bytes of the image at `offset`, or those that could be had. -/
def readSource (offset n : Nat) : StateM (Image O × World) (Transfer IoError Unit) :=
  fun (image, world) =>
    let (transfer, source) := image.source.readExact world.disk offset n
    (transfer, { image with source := source }, world)

def storedChecksum? (trailer : Bytes) : Option UInt32 :=
  if Checksum.size ≤ trailer.length then some (UInt32.ofNat (trailer.field 0 Checksum.size))
  else none

/-- What the checksum of a record starts from, and the record itself, in what was read of it. -/
def seedAndRecord? (layout : RecordLayout) (number : Nat) (bytes : Bytes) :
    Option (UInt32 × Bytes) :=
  if layout.seeded number then do
    let (before, record) ← bytes.splitAt? layout.trailer
    let seed ← storedChecksum? before
    return (seed, record)
  else some (Checksum.seed, bytes)

def recordParts? (layout : RecordLayout) (number : Nat) (bytes : Bytes) :
    Option (UInt32 × Bytes × UInt32) := do
  let (seed, record) ← seedAndRecord? layout number bytes
  let (payload, trailer) ← record.splitAt? layout.blockSize
  let stored ← storedChecksum? trailer
  return (seed, payload, stored)

/-- The payload in a record that was read whole, with the trailer before it if its checksum starts
from there.  It is copied to `length` bytes. -/
def checkRecord (layout : RecordLayout) (number block length : Nat) (bytes : Bytes) :
    Transfer Error Unit :=
  match recordParts? layout number bytes with
  | none => .failed .outOfBounds
  | some (seed, payload, stored) =>
    let computed := layout.algorithm.compute seed payload
    if payload.length ≠ length then .failed .outOfBounds
    else
      ⟨payload,
        if computed = stored then .ok () else .error (.blockChecksum block stored computed)⟩

/-- Bytes of the part of the scratch buffer that a record is read into: all of it if the trailer
before the record is read too, or what follows the room for that trailer. -/
def window? (map : BlockMap) (number : Nat) : Option Nat :=
  if map.layout.seeded number then some map.scratchSize
  else if map.layout.trailer ≤ map.scratchSize then some (map.scratchSize - map.layout.trailer)
  else none

/-- Reads the record of a used block that `number` used blocks precede into `length` bytes.  Where a
checksum is stored, nothing arrives unless the whole record does; the payload arrives even if its
checksum is wrong. -/
def readRecord (map : BlockMap) (number block length : Nat) :
    StateM (Image O × World) (Transfer Error Unit) := do
  let layout := map.layout
  let some offset := layout.readOffset? number | return .failed .overflow
  if layout.algorithm = .none then
    return (← readSource offset length).mapError (.readBlock block)
  let some window := window? map number | return .failed .outOfBounds
  let transfer ← readSource offset window
  match transfer.result with
  | .error error => return .failed (.readBlock block error)
  | .ok () => return checkRecord layout number block length transfer.bytes

/-- The answer of the attached overlay for a block; without an overlay no block is present. -/
def readOverlay (block blockSize : Nat) :
    StateM (Image O × World) (Transfer Error Lookup) := do
  match ← (seekOverlay block).run with
  | .error error => return .failed error
  | .ok () =>
    let some store := (← get).1.overlay | return ⟨[], .ok .notPresent⟩
    let transfer ← zoomState (fun state => (store, state.2.disk)) withOverlay
      (Overlay.read blockSize)
    return transfer.mapError .overlay

def pass (used : Bool) : StateM (Image O × World) Unit :=
  modify fun (image, world) =>
    ({ image with passed := if used then image.passed + 1 else image.passed }, world)

/-- Reads one block into `length` bytes.  Its record counts as passed whether the block comes from the
overlay, from the record, or not at all. -/
def readBlock (map : BlockMap) (block length : Nat) :
    StateM (Image O × World) (Transfer Error Unit) := do
  let some used := map.bitmap.get? block | return .failed .outOfBounds
  let overlaid ← readOverlay block length
  match overlaid.result with
  | .error error => return ⟨overlaid.bytes, .error error⟩
  | .ok .found =>
    pass used
    return .complete overlaid.bytes
  | .ok .notPresent =>
    if used then
      let number := (← get).1.passed
      pass used
      readRecord map number block length
    else if map.fillerSize ≠ length then return .failed .outOfBounds
    else return .complete (List.replicate map.fillerSize unusedBlockFill)

/-- Reads `count` blocks at the cursor, and stops with the cursor on the first that fails. -/
def readBlocks (descriptor : Descriptor) (map : BlockMap) :
    (count : Nat) → StateM (Image O × World) (Transfer Error Unit)
  | 0 => return .complete []
  | count + 1 => do
    let block := (← get).1.cursor
    if descriptor.totalBlocks ≤ block then
      return .failed (.outOfRange block descriptor.totalBlocks)
    let transfer ← readBlock map block descriptor.blockSize
    match transfer.result with
    | .error _ => return transfer
    | .ok () =>
      modify fun (image, world) => ({ image with cursor := block + 1 }, world)
      return transfer.append (← readBlocks descriptor map count)

/-- Reads whole blocks at the cursor into a buffer of `length` bytes.  Blocks before one that fails
have arrived. -/
def read (length : Nat) : StateM (Image O × World) (Transfer Error Unit) := do
  match (← get).1.stage with
  | .verified descriptor map =>
    if length % descriptor.blockSize ≠ 0 then
      return .failed (.bufferSize length descriptor.blockSize)
    readBlocks descriptor map (length / descriptor.blockSize)
  | _ => return .failed (.invalidState .readReady)

/-- Whether the block at the cursor holds data, in the overlay or in the image. -/
def isUsed : Action (Image O × World) Error Bool := do
  let (descriptor, map) ← readyMap
  requireBlock descriptor.totalBlocks
  let block := (← get).1.cursor
  seekOverlay block
  if (← get).1.overlay.any Overlay.holds then return true
  let some used := map.bitmap.get? block | throw .outOfBounds
  return used

/-! ### Writing -/

/-- Makes an overlay for an image that has none.  It is attached once it has been verified. -/
def attachOverlay (blockSize totalBlocks : Nat) : Action (Image O × World) Error Unit := do
  let path ← settleOverlayPath
  let store ← .onWorld <| .onDisk .overlay <|
    makeOverlay (← get).1.setup path blockSize totalBlocks
  update fun image => { image with overlay := some store, overlayVerified := true }

def writeBlocks (blockSize total : Nat) :
    (count : Nat) → Bytes → Action (Image O × World) Error Unit
  | 0, _ => pure ()
  | count + 1, data => do
    requireBlock total
    let block := (← get).1.cursor
    seekOverlay block
    let some store := (← get).1.overlay | throw (.invalidState .writeReady)
    onOverlay store (Overlay.write (data.take blockSize))
    update fun image => { image with cursor := block + 1 }
    writeBlocks blockSize total count (data.drop blockSize)

/-- Stores whole blocks at the cursor.  Without an overlay one is made, at the configured path or
beside the image. -/
def write (data : Bytes) : Action (Image O × World) Error Unit := do
  require .writable
  let (descriptor, _) ← readyMap
  requireWhole data.length descriptor.blockSize
  if !(← get).1.ready .writeReady then
    attachOverlay descriptor.blockSize descriptor.totalBlocks
  writeBlocks descriptor.blockSize descriptor.totalBlocks
    (data.length / descriptor.blockSize) data

def sync : Action (Image O × World) Error Unit := do
  require .writeReady
  let some store := (← get).1.overlay | throw (.invalidState .writeReady)
  onOverlay store Overlay.sync

end PartitionImage.Image
