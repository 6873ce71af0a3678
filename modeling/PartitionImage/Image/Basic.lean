import PartitionImage.BlockMap
import PartitionImage.OpenOptions
/-!
# Images

A handle on a partition image: where its bytes come from, how far it has been verified, the overlay
that keeps its changes, and a cursor that reads and writes share.

* `Stage` is how far a handle has been verified, with what is known from there on.
* `Image` is the handle; `Image.open` opens one and `Image.ofSource` wraps a source.
* `Image.ready` decides what an operation may require.
* `Image.close` and `Image.drop` let go of a handle.
-/

namespace PartitionImage

/-- The byte that fills a block without data. -/
def unusedBlockFill : UInt8 := 0x45

/-- How far a handle has been verified.  A step that fails leaves the handle where it was. -/
inductive Stage
  | opened
  | headerValid
  | versionSelected
  | initialized (descriptor : Descriptor) (layout : RecordLayout)
  | verified (descriptor : Descriptor) (map : BlockMap)

namespace Stage

def text : Stage → String
  | opened => "Open"
  | headerValid => "HeaderValid"
  | versionSelected => "VersionSelected"
  | initialized .. => "Initialized"
  | verified .. => "Verified"

def rank : Stage → Nat
  | opened => 0
  | headerValid => 1
  | versionSelected => 2
  | initialized .. => 3
  | verified .. => 4

def isOpened (stage : Stage) : Bool := stage.rank == 0

def isInitialized (stage : Stage) : Bool := 3 ≤ stage.rank

def isVerified (stage : Stage) : Bool := stage.rank == 4

def descriptor? : Stage → Option Descriptor
  | initialized descriptor _ | verified descriptor _ => some descriptor
  | _ => none

def layout? : Stage → Option RecordLayout
  | initialized _ layout => some layout
  | verified _ map => some map.layout
  | _ => none

end Stage

/-- A handle on an image whose changes go to an overlay of type `O`. -/
structure Image (O : Type) [Overlay O] where
  source : Source
  path : String
  options : OpenOptions
  setup : Overlay.Setup O
  stage : Stage
  /-- Where the changes go; `none` until verification settles it. -/
  overlayPath : Option String
  overlay : Option O
  overlayVerified : Bool
  /-- The block that is read or written next. -/
  cursor : Nat
  /-- Number of the record that the next used block is expected to have. -/
  passed : Nat

namespace Image

variable {O : Type} [Overlay O]

/-- A handle on the bytes of a source.  `path` names it. -/
def ofSource (source : Source) (path : String) (options : OpenOptions)
    (setup : Overlay.Setup O) : Image O where
  source := source
  path := path
  options := options
  setup := setup
  stage := .opened
  overlayPath := options.overlay
  overlay := none
  overlayVerified := false
  cursor := 0
  passed := 0

/-- Nothing is read yet. -/
def «open» (path : String) (options : OpenOptions) (setup : Overlay.Setup O) :
    Action World Error (Image O) := do
  let world ← get
  let source ← .ofExcept <| (Source.openFile world.disk path).mapError (.openImage path)
  return ofSource source path options setup

/-! ### What is known of a handle -/

/-- Whether writes are refused: this is settled when the overlay's turn comes in verification. -/
def readOnly (image : Image O) : Bool :=
  image.options.mode == .readOnly && image.stage.isInitialized

def ready (image : Image O) : Readiness → Bool
  | .opened => image.stage.isOpened
  | .verified | .readReady => image.stage.isVerified
  | .writable => image.stage.isVerified && !image.readOnly
  | .writeReady =>
    image.stage.isVerified && !image.readOnly && image.overlay.isSome && image.overlayVerified

/-- The descriptor, once known; it stays known if a later step of verification fails. -/
def descriptor? (image : Image O) : Option Descriptor := image.stage.descriptor?

def verifiedDescriptor? (image : Image O) : Option Descriptor :=
  if image.stage.isVerified then image.descriptor? else none

def blockSize? (image : Image O) : Option Nat :=
  image.verifiedDescriptor?.map (·.blockSize)

def blockCount? (image : Image O) : Option Nat :=
  image.verifiedDescriptor?.map (·.totalBlocks)

def tell? (image : Image O) : Option Nat :=
  if image.stage.isVerified then some image.cursor else none

def stats? (image : Image O) : Option BitmapStats :=
  match image.stage with
  | .verified _ map => some map.stats
  | _ => none

/-- Where the records start, once the layout is known. -/
def dataOffset? (image : Image O) : Option Nat :=
  image.stage.layout?.map RecordLayout.dataOffset

/-- Bytes of a record, once the layout is known. -/
def recordSize? (image : Image O) : Option Nat :=
  image.stage.layout?.map RecordLayout.recordSize

def text (image : Image O) : String :=
  "Image \x7b path: " ++ Text.quoted image.path ++ ", state: " ++ image.stage.text
    ++ ", read_only: " ++ Text.bool image.readOnly
    ++ ", overlay_path: " ++ Text.quotedOption image.overlayPath
    ++ ", has_overlay: " ++ Text.bool image.overlay.isSome
    ++ ", cursor: " ++ toString image.cursor ++ ", .. \x7d"

/-! ### Acting on parts of a handle -/

def onSource {α : Type} (act : Action (Source × World) Error α) :
    Action (Image O × World) Error α :=
  .zoom (fun (image, world) => (image.source, world))
    (fun (source, world) (image, _) => ({ image with source := source }, world)) id act

def withOverlay (attached : O × Disk) (state : Image O × World) : Image O × World :=
  ({ state.1 with overlay := some attached.1 }, state.2.withDisk attached.2)

def onOverlay {α : Type} (store : O) (act : Action (O × Disk) OverlayError α) :
    Action (Image O × World) Error α :=
  .zoom (fun state => (store, state.2.disk)) withOverlay .overlay act

def update (change : Image O → Image O) : Action (Image O × World) Error Unit :=
  modify fun (image, world) => (change image, world)

def require (required : Readiness) : Action (Image O × World) Error Unit := do
  if !(← get).1.ready required then throw (.invalidState required)

/-! ### Letting go -/

/-- Releases a handle and reports a failure to keep its changes. -/
def close (image : Image O) : Action World Error Unit :=
  match image.overlay with
  | none => pure ()
  | some store => .onDisk .overlay (Overlay.finish store)

/-- Releases a handle; a failure to keep its changes is worth a warning. -/
def drop (image : Image O) : StateM World Unit := do
  match ← image.close.run with
  | .ok () => pure ()
  | .error error => modify (·.warn (.imageNotReleased image.path error))

end Image

end PartitionImage
