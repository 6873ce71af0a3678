import PartitionImage.Proofs.Action
import PartitionImage.Proofs.Operation
import PartitionImage.Proofs.Source
import PartitionImage.Recognition
/-!
# Opening an image

To open a file is to look it up, and for a raw image to ask for its size.  Nothing is read and nothing is changed.

* `AnyImage.ofSource` opens a source as an image of a type, `AnyImage.openFile` the file at a path.
* `Image.perform_open` and `RawImage.perform_open` are the handles on a file that is there.
* `AnyImage.source` and `AnyImage.mount` are what a handle of either type has of its source and of its overlay.
-/

namespace PartitionImage

open PartitionImage.Action (Respects Unchanged perform perform_bind_ok)

variable {O : Type} [Overlay O] {world : World} {path : String} {id : FileId}

/-! ### Handles -/

/-- A handle on the bytes of a source, as an image of a type.  `path` names it, and `setup` is for its overlay. -/
def AnyImage.ofSource (type : ImageType) (source : Source) (path : String) (options : OpenOptions)
    (setup : Overlay.Setup O) : Action World Error (AnyImage O) :=
  match type with
  | .partition => return .partition (Image.ofSource source path options setup)
  | .raw => return .raw (← RawImage.ofSource source path options setup)

def AnyImage.openFile (type : ImageType) (path : String) (options : OpenOptions)
    (setup : Overlay.Setup O) : Action World Error (AnyImage O) :=
  match type with
  | .partition => return .partition (← Image.open path options setup)
  | .raw => return .raw (← RawImage.open path options setup)

/-- A handle on a file of `length` bytes, as it is opened. -/
def RawImage.ofFile (id : FileId) (length : Nat) (path : String) (options : OpenOptions)
    (setup : Overlay.Setup O) : RawImage O where
  source := .ofFile id
  path := path
  mode := options.mode
  setup := setup
  verified := false
  blockSize := blockSizeFor length
  totalBlocks := length / blockSizeFor length
  overlayPath := options.overlay
  overlay := none
  cursor := 0

theorem Image.open_unchanged (path : String) (options : OpenOptions) (setup : Overlay.Setup O) :
    Respects Unchanged (Image.open path options setup) :=
  .bind .get fun _ => .bind (.ofExcept _) fun _ => .pure _

theorem RawImage.open_unchanged (path : String) (options : OpenOptions) (setup : Overlay.Setup O) :
    Respects Unchanged (RawImage.open path options setup) :=
  .bind .get fun _ => .bind (.ofExcept _) fun _ => .bind .get fun _ => .bind (.ofExcept _) fun _ => .pure _

theorem AnyImage.openFile_unchanged (type : ImageType) (path : String) (options : OpenOptions)
    (setup : Overlay.Setup O) : Respects Unchanged (AnyImage.openFile type path options setup) := by
  cases type with
  | partition => exact .bind (Image.open_unchanged path options setup) fun _ => .pure _
  | raw => exact .bind (RawImage.open_unchanged path options setup) fun _ => .pure _

theorem Image.perform_open (hfile : world.disk.lookupFile path = .ok id) (options : OpenOptions)
    (setup : Overlay.Setup O) :
    perform (Image.open path options setup) world
      = (.ok (ofSource (.ofFile id) path options setup), world) := by
  rw [Image.open, perform_bind_ok (Action.perform_get world), Source.openFile_eq hfile]
  rfl

theorem RawImage.perform_open (hfile : world.disk.lookupFile path = .ok id) (options : OpenOptions)
    (setup : Overlay.Setup O) :
    perform (RawImage.open path options setup) world
      = (.ok (ofFile id (world.disk.length id) path options setup), world) := by
  rw [RawImage.open, perform_bind_ok (Action.perform_get world), Source.openFile_eq hfile]
  rfl

/-- What `openFile` gives where there is a file. -/
theorem AnyImage.perform_openFile (hfile : world.disk.lookupFile path = .ok id) (type : ImageType)
    (options : OpenOptions) (setup : Overlay.Setup O) :
    perform (openFile type path options setup) world
      = (.ok (match type with
          | .partition => .partition (Image.ofSource (.ofFile id) path options setup)
          | .raw => .raw (RawImage.ofFile id (world.disk.length id) path options setup)), world) := by
  cases type with
  | partition => exact perform_bind_ok (Image.perform_open hfile options setup)
  | raw => exact perform_bind_ok (RawImage.perform_open hfile options setup)

/-- To open a file is to open it as a source. -/
theorem AnyImage.perform_ofSource_ofFile (hfile : world.disk.lookupFile path = .ok id) (type : ImageType)
    (options : OpenOptions) (setup : Overlay.Setup O) :
    perform (ofSource type (.ofFile id) path options setup) world
      = perform (openFile type path options setup) world := by
  cases type with
  | partition =>
    rw [perform_openFile hfile]
    rfl
  | raw =>
    rw [perform_openFile hfile]
    rfl

/-! ### Overlays -/

/-- What a handle has of its overlay: how and where it is made, and the store once there is one. -/
structure Overlay.Mount (O : Type) [Overlay O] where
  setup : Overlay.Setup O
  path : String
  store : Option O

def Image.route (image : Image O) : String := image.overlayPath.getD (defaultOverlayPath image.path)

def Image.mount (image : Image O) : Overlay.Mount O := ⟨image.setup, image.route, image.overlay⟩

def RawImage.route (image : RawImage O) : String := image.overlayPath.getD (defaultOverlayPath image.path)

def RawImage.mount (image : RawImage O) : Overlay.Mount O := ⟨image.setup, image.route, image.overlay⟩

def AnyImage.source : AnyImage O → Source
  | .partition image => image.source
  | .raw image => image.source

def AnyImage.mount : AnyImage O → Overlay.Mount O
  | .partition image => image.mount
  | .raw image => image.mount

end PartitionImage
