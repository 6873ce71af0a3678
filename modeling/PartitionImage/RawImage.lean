import PartitionImage.OpenOptions
import PartitionImage.Source
import PartitionImage.World
/-!
# Raw images

A file without a descriptor is an image as well: its bytes are the device.  Every block inside the
file is used; bytes after the last whole block are out of reach.  Changes go to an overlay, as they
do for a partition image.

* `RawImage` is the handle; `RawImage.open` opens one and `RawImage.ofSource` wraps a source.
* `RawImage.verify` opens the overlay.
* `RawImage.seek`, `RawImage.read`, `RawImage.isUsed`, `RawImage.write` and `RawImage.sync` access
  blocks.
-/

namespace PartitionImage

/-- A handle on a file whose bytes are the device. -/
structure RawImage (O : Type) [Overlay O] where
  source : Source
  path : String
  mode : OpenMode
  setup : Overlay.Setup O
  verified : Bool
  blockSize : Nat
  totalBlocks : Nat
  overlayPath : Option String
  overlay : Option O
  cursor : Nat

namespace RawImage

variable {O : Type} [Overlay O]

/-! ### Opening -/

/-- For files of at most `largeThreshold` bytes. -/
def smallBlockSize : Nat := 512

/-- For files of more than `largeThreshold` bytes. -/
def largeBlockSize : Nat := 4096

/-- The largest image with small blocks has `10^11` bytes. -/
def largeThreshold : Nat := 100000000000

/-- The block size for a number of bytes. -/
def blockSizeFor (size : Nat) : Nat :=
  if largeThreshold < size then largeBlockSize else smallBlockSize

/-- A handle on the bytes of a source.  `path` names it. -/
def ofSource (source : Source) (path : String) (options : OpenOptions)
    (setup : Overlay.Setup O) : Action World Error (RawImage O) := do
  let world ← get
  let size ← .ofExcept <| (source.size world.disk).mapError (.openImage path)
  return {
    source := source
    path := path
    mode := options.mode
    setup := setup
    verified := false
    blockSize := blockSizeFor size
    totalBlocks := size / blockSizeFor size
    overlayPath := options.overlay
    overlay := none
    cursor := 0 }

def «open» (path : String) (options : OpenOptions) (setup : Overlay.Setup O) :
    Action World Error (RawImage O) := do
  let world ← get
  let source ← .ofExcept <| (Source.openFile world.disk path).mapError (.openImage path)
  ofSource source path options setup

/-! ### What is known of a handle -/

def ready (image : RawImage O) : Readiness → Bool
  | .opened => !image.verified
  | .verified | .readReady => image.verified
  | .writable => image.verified && image.mode != .readOnly
  | .writeReady => image.verified && image.mode != .readOnly && image.overlay.isSome

def blockSize? (image : RawImage O) : Option Nat :=
  if image.verified then some image.blockSize else none

def blockCount? (image : RawImage O) : Option Nat :=
  if image.verified then some image.totalBlocks else none

def tell? (image : RawImage O) : Option Nat :=
  if image.verified then some image.cursor else none

def text (image : RawImage O) : String :=
  "RawImage \x7b path: " ++ Text.quoted image.path ++ ", block_size: "
    ++ toString image.blockSize ++ ", total_blocks: " ++ toString image.totalBlocks
    ++ ", verified: " ++ Text.bool image.verified
    ++ ", cursor: " ++ toString image.cursor ++ ", .. \x7d"

/-! ### Acting on parts of a handle -/

def withOverlay (attached : O × Disk) (state : RawImage O × World) : RawImage O × World :=
  ({ state.1 with overlay := some attached.1 }, state.2.withDisk attached.2)

def onOverlay {α : Type} (store : O) (act : Action (O × Disk) OverlayError α) :
    Action (RawImage O × World) Error α :=
  .zoom (fun state => (store, state.2.disk)) withOverlay .overlay act

def update (change : RawImage O → RawImage O) : Action (RawImage O × World) Error Unit :=
  modify fun (image, world) => (change image, world)

def require (required : Readiness) : Action (RawImage O × World) Error Unit := do
  if !(← get).1.ready required then throw (.invalidState required)

def requireBlock : Action (RawImage O × World) Error Unit := do
  let (image, _) ← get
  if image.totalBlocks ≤ image.cursor then throw (.outOfRange image.cursor image.totalBlocks)

/-- Fails unless `length` bytes are a whole number of blocks. -/
def requireWhole (length : Nat) : Action (RawImage O × World) Error Unit := do
  let (image, _) ← get
  if length % image.blockSize ≠ 0 then throw (.bufferSize length image.blockSize)

/-! ### Verification -/

/-- Makes an overlay, at the configured path or beside the image. -/
def attachOverlay : Action (RawImage O × World) Error Unit := do
  let (image, _) ← get
  let path := image.overlayPath.getD (defaultOverlayPath image.path)
  update fun image => { image with overlayPath := some path }
  let store ← .onWorld <| .onDisk .overlay <|
    makeOverlay image.setup path image.blockSize image.totalBlocks
  update fun image => { image with overlay := some store }

/-- Opens the overlay at the configured path, if it can be opened; if it can, it has to be
whole. -/
def initOverlay (path : String) : Action (RawImage O × World) Error Unit := do
  let (image, _) ← get
  let opened ← .attempt <| .onWorld <|
    .zoom World.disk (fun disk world => world.withDisk disk) id
      (Overlay.init image.setup path image.blockSize image.totalBlocks)
  match opened with
  | .error error => .warn (.overlayNotOpened path error)
  | .ok store =>
    let store ← .onWorld <| .onDisk .overlay <| verifyStore store
    update fun image => { image with overlay := some store }

def verify : Action (RawImage O × World) Error Unit := do
  require .opened
  let (image, _) ← get
  match image.mode with
  | .readOnly => pure ()
  | .readWrite => if let some path := image.overlayPath then initOverlay path
  | .create => attachOverlay
  update fun image => { image with verified := true }

/-! ### Block access -/

def seekOverlay (block : Nat) : Action (RawImage O × World) Error Unit := do
  if let some store := (← get).1.overlay then
    onOverlay store (Overlay.seek block)

def seek (block : Nat) : Action (RawImage O × World) Error Unit := do
  require .readReady
  let (image, _) ← get
  if image.totalBlocks < block then throw (.outOfRange block image.totalBlocks)
  seekOverlay block
  update fun image => { image with cursor := block }

/-- The answer of the attached overlay for a block; without an overlay no block is present. -/
def readOverlay (block : Nat) : StateM (RawImage O × World) (Transfer Error Lookup) := do
  match ← (seekOverlay block).run with
  | .error error => return .failed error
  | .ok () =>
    let (image, _) ← get
    let some store := image.overlay | return ⟨[], .ok .notPresent⟩
    let transfer ← zoomState (fun state => (store, state.2.disk)) withOverlay
      (Overlay.read image.blockSize)
    return transfer.mapError .overlay

def readBlock (block : Nat) : StateM (RawImage O × World) (Transfer Error Unit) := do
  let overlaid ← readOverlay block
  match overlaid.result with
  | .error error => return ⟨overlaid.bytes, .error error⟩
  | .ok .found => return .complete overlaid.bytes
  | .ok .notPresent =>
    let (image, world) ← get
    let some offset := checked64? (block * image.blockSize) | return .failed .overflow
    let (transfer, source) := image.source.readExact world.disk offset image.blockSize
    set ({ image with source := source }, world)
    return transfer.mapError (.readBlock block)

/-- Reads `count` blocks at the cursor, and stops with the cursor on the first that fails. -/
def readBlocks : (count : Nat) → StateM (RawImage O × World) (Transfer Error Unit)
  | 0 => return .complete []
  | count + 1 => do
    let (image, _) ← get
    let block := image.cursor
    if image.totalBlocks ≤ block then return .failed (.outOfRange block image.totalBlocks)
    let transfer ← readBlock block
    match transfer.result with
    | .error _ => return transfer
    | .ok () =>
      modify fun (image, world) => ({ image with cursor := block + 1 }, world)
      return transfer.append (← readBlocks count)

/-- Reads whole blocks at the cursor into a buffer of `length` bytes.  Blocks before one that fails
have arrived. -/
def read (length : Nat) : StateM (RawImage O × World) (Transfer Error Unit) := do
  let (image, _) ← get
  if !image.verified then return .failed (.invalidState .readReady)
  if length % image.blockSize ≠ 0 then return .failed (.bufferSize length image.blockSize)
  readBlocks (length / image.blockSize)

/-- Every block inside the file is used. -/
def isUsed : Action (RawImage O × World) Error Bool := do
  require .readReady
  requireBlock
  return true

def writeBlocks : (count : Nat) → Bytes → Action (RawImage O × World) Error Unit
  | 0, _ => pure ()
  | count + 1, data => do
    requireBlock
    let (image, _) ← get
    seekOverlay image.cursor
    let some store := (← get).1.overlay | throw (.invalidState .writeReady)
    onOverlay store (Overlay.write (data.take image.blockSize))
    update fun image => { image with cursor := image.cursor + 1 }
    writeBlocks count (data.drop image.blockSize)

/-- Stores whole blocks at the cursor.  Without an overlay one is made, at the configured path or
beside the image. -/
def write (data : Bytes) : Action (RawImage O × World) Error Unit := do
  require .writable
  requireWhole data.length
  let (image, _) ← get
  if image.overlay.isNone then attachOverlay
  writeBlocks (data.length / image.blockSize) data

def sync : Action (RawImage O × World) Error Unit := do
  require .writeReady
  let some store := (← get).1.overlay | throw (.invalidState .writeReady)
  onOverlay store Overlay.sync

/-! ### Letting go -/

def close (image : RawImage O) : Action World Error Unit :=
  match image.overlay with
  | none => pure ()
  | some store => .onDisk .overlay (Overlay.finish store)

/-- Releases a handle; a failure to keep its changes is worth a warning. -/
def drop (image : RawImage O) : StateM World Unit := do
  match ← image.close.run with
  | .ok () => pure ()
  | .error error => modify (·.warn (.rawImageNotReleased image.path error))

end RawImage

end PartitionImage
