import PartitionImage.Proofs.Image.Sparing
import PartitionImage.Proofs.RawImage.Sparing
import PartitionImage.Proofs.ReadOnly
import PartitionImage.Proofs.WriteFrame
/-!
# What is never written

Whatever is done to a handle and however that ends, the file of the image keeps its bytes, also where the overlay was
configured to go to that very file.  So does a file at the path of the overlay that holds something else than a change
file of the image, and no write succeeds there.

* `AnyImage.shape?` is the geometry that an image has for its overlay.
* `Image.unusable_of_accepted` and `RawImage.unusable_ofFile` say why an image is never attached to itself: the one has
  another magic, the other is too short.
* `AnyImage.exists_unverified` is where a run begins.
* `AnyImage.spared_of_run`, `AnyImage.content_of_run` and `AnyImage.write_fails_of_run` are about any run of a handle.
* `AnyImage.spares_files` is the statement, for images of both types.
-/

namespace PartitionImage

open PartitionImage.Action (perform perform_bind_inv perform_bind_ok)
open ChangeFile (Header Spared Unusable)

variable {world : World} {path : String} {id : FileId} {options : OpenOptions}

/-- The geometry of an image for its overlay, if there is one. -/
def AnyImage.shape? (type : ImageType) (bytes : Bytes) : Option Header :=
  match type with
  | .partition => Image.shape? bytes
  | .raw => some (RawImage.geometry bytes)

/-! ### Partition images -/

namespace Image

/-- An image is not attached to itself: its magic is another one. -/
theorem unusable_of_accepted {disk : Disk} {geometry : Header}
    (h : shape? (disk.content id) = some geometry) : Unusable (some geometry) disk id := by
  obtain ⟨⟨format, descriptor, layout⟩, haccepted, -⟩ := Option.map_eq_some_iff.mp h
  obtain ⟨hnonempty, hheader⟩ := ChangeFile.decode?_of_accepted haccepted
  refine ⟨?_, fun other _ husable => ?_⟩
  · rw [Disk.length_eq]
    exact hnonempty
  · cases hheader.symm.trans husable.header

end Image

/-! ### Raw images -/

namespace RawImage

/-- A raw image is not attached to itself: its change file would be longer than it is. -/
theorem unusable_ofFile {disk : Disk} (hnonempty : 0 < disk.length id) :
    Unusable (some (geometry (disk.content id))) disk id := by
  refine ⟨hnonempty, ?_⟩
  rintro _ ⟨⟩ husable
  have hwhole := husable.whole
  rw [geometry, ← Disk.length_eq] at hwhole
  exact absurd hwhole (Nat.not_le.mpr (length_lt_wholeLength (blockSizeFor_pos _)))

theorem shape_ofFile (disk : Disk) (id : FileId) (path : String) (options : OpenOptions) :
    (ofFile id (disk.length id) path options ()).shape = geometry (disk.content id) := by
  rw [geometry, ← Disk.length_eq]
  rfl

end RawImage

/-! ### Images of either type -/

namespace AnyImage

section

variable {type : ImageType} {image : AnyImage ChangeFile} {opened : World} {file : FileId}

/-- **Before a handle is verified nothing has been done that does harm**, and nothing is done when it is. -/
theorem exists_unverified (hsound : world.disk.Sound) (hfile : world.disk.lookupFile path = .ok file)
    (hopen : perform (openFile type path options ()) world = (.ok image, opened)) :
    ∃ idle, BlockDevice.Unverified AnyImage.source mount (shape? type (world.disk.content file)) world.disk
        (options.overlay.getD (defaultOverlayPath path)) idle ∧ idle (image, opened) := by
  rw [perform_openFile hfile] at hopen
  cases hopen
  cases type with
  | partition =>
    have hagrees : (Source.ofFile file).backing.Agrees world.disk (world.disk.content file) :=
      Backing.agrees_contents (.file file) world.disk
    refine ⟨_, (Image.unverified path options hagrees).within Image.embeds (fun _ => rfl) fun _ => rfl, _, ?_, rfl⟩
    exact ⟨.refl rfl rfl hsound, Image.reached_ofSource (O := ChangeFile) (.ofFile file) path options () world, rfl⟩
  | raw =>
    have hunverified := @RawImage.unverified
      (RawImage.ofFile file (world.disk.length file) path options (), world) options.mode (RawImage.blockSizeFor_pos _)
    rw [RawImage.shape_ofFile] at hunverified
    refine ⟨_, hunverified.within RawImage.embeds (fun _ => rfl) fun _ => rfl, _, ?_, rfl⟩
    exact ⟨.refl rfl hsound, ⟨rfl, rfl, rfl, nofun, fun _ => rfl⟩, rfl⟩

theorem unusable_of_shape? {geometry : Header} (hnonempty : type = .raw → 0 < world.disk.length file)
    (hshape : shape? type (world.disk.content file) = some geometry) : Unusable (some geometry) world.disk file := by
  cases type with
  | partition => exact Image.unusable_of_accepted hshape
  | raw =>
    obtain rfl := Option.some.inj hshape
    exact RawImage.unusable_ofFile (hnonempty rfl)

/-- **What is no change file of the image is spared**, whatever is called on a handle and however that ends. -/
theorem spared_of_run (hsound : world.disk.Sound) (hfile : world.disk.lookupFile path = .ok file)
    (hopen : perform (openFile type path options ()) world = (.ok image, opened)) (operations : List Operation)
    (ending : Ending) :
    Spared (shape? type (world.disk.content file)) world.disk
      (ending.after (Operation.run operations (image, opened))).disk := by
  obtain ⟨idle, hidle, himage⟩ := exists_unverified hsound hfile hopen
  exact (((BlockDevice.Sparing.idle himage).run hidle operations).ending hidle ending).1

/-- So is the image: a partition image has another magic than a change file, and a raw image is too short to be its
own. -/
theorem content_of_run (hsound : world.disk.Sound) (hfile : world.disk.lookupFile path = .ok file)
    (hopen : perform (openFile type path options ()) world = (.ok image, opened))
    (hnonempty : type = .raw → 0 < world.disk.length file) (operations : List Operation) (ending : Ending) :
    (ending.after (Operation.run operations (image, opened))).disk.content file = world.disk.content file := by
  obtain ⟨idle, hidle, himage⟩ := exists_unverified hsound hfile hopen
  obtain ⟨hspared, hunknown⟩ := ((BlockDevice.Sparing.idle himage).run hidle operations).ending hidle ending
  cases hshape : shape? type (world.disk.content file) with
  | none => rw [hunknown hshape]
  | some geometry =>
    rw [hshape] at hspared
    exact congrArg SparseBytes.toBytes (hspared.data_eq file (unusable_of_shape? hnonempty hshape))

/-- Where the path of the overlay leads to something else than a change file of the image every write fails. -/
theorem write_fails_of_run (hsound : world.disk.Sound) (hfile : world.disk.lookupFile path = .ok file)
    (hopen : perform (openFile type path options ()) world = (.ok image, opened)) {other : FileId}
    (hfound : world.disk.lookupFile (options.overlay.getD (defaultOverlayPath path)) = .ok other)
    (hother : Unusable (shape? type (world.disk.content file)) world.disk other) (operations : List Operation)
    (data : Bytes) :
    ∃ error, (perform (BlockDevice.write data) (Operation.run operations (image, opened))).1 = .error error := by
  obtain ⟨idle, hidle, himage⟩ := exists_unverified hsound hfile hopen
  exact ((BlockDevice.Sparing.idle himage).run hidle operations).write_fails hidle hfound hother data

end

/-- **Neither the image nor a foreign file is ever written.**  A file is opened as an image of a type, and whatever
is called on the handle, however it ends: the file has the bytes that it had.  Where the path of the overlay leads
to a file that holds something else than a change file of the image, that file has the bytes that it had as well,
and every write fails.  A handle that was opened for reading leaves the whole disk as it was, whatever the overlays
of its type do when one of them is opened or made. -/
theorem spares_files (type : ImageType) (path : String) (options : OpenOptions) (hsound : world.disk.Sound) :
    (∀ {image : AnyImage ChangeFile} {opened : World} {file : FileId},
      perform (openFile type path options ()) world = (.ok image, opened) →
      world.disk.lookupFile path = .ok file → (type = .raw → 0 < world.disk.length file) →
      ∀ (operations : List Operation) (ending : Ending),
        (ending.after (Operation.run operations (image, opened))).disk.content file
            = world.disk.content file
          ∧ ∀ other, world.disk.lookupFile (options.overlay.getD (defaultOverlayPath path)) = .ok other →
            Unusable (shape? type (world.disk.content file)) world.disk other →
              (ending.after (Operation.run operations (image, opened))).disk.content other
                  = world.disk.content other
                ∧ ∀ data, ∃ error,
                  (perform (BlockDevice.write data) (Operation.run operations (image, opened))).1
                    = .error error)
      ∧ (options.mode = .readOnly →
        ∀ {O : Type} [Overlay O] {setup : Overlay.Setup O} {image : AnyImage O} {opened : World},
          perform (openFile type path options setup) world = (.ok image, opened) →
          ∀ (operations : List Operation) (ending : Ending),
            (ending.after (Operation.run operations (image, opened))).disk = world.disk)
      ∧ ∀ {O : Type} [Overlay O] (setup : Overlay.Setup O),
        (perform (openFile type path options setup) world).2 = world := by
  refine ⟨?_, fun hmode _ _ _ _ _ hopen => disk_of_readOnly hmode hopen,
    fun setup => openFile_unchanged type path options setup world⟩
  intro image opened file hopen hfile hnonempty operations ending
  refine ⟨content_of_run hsound hfile hopen hnonempty operations ending, fun other hfound hother => ⟨?_, ?_⟩⟩
  · exact congrArg SparseBytes.toBytes ((spared_of_run hsound hfile hopen operations ending).data_eq other hother)
  · exact write_fails_of_run hsound hfile hopen hfound hother operations

/-- A change file for another geometry is opened as a raw image whose changes are to go to that same file. -/
theorem spares_files_self :
    ∃ image, perform (openFile (O := ChangeFile) .raw "a.cf" { mode := .readWrite, overlay := some "a.cf" } ())
        { disk := leftover } = (.ok image, { disk := leftover })
      ∧ (Ending.dropped.after (Operation.run [.verify, .write (List.replicate 512 1), .sync]
          (image, { disk := leftover }))).disk.content 0 = leftover.content 0
      ∧ ∀ data, ∃ error, (perform (BlockDevice.write data)
          (Operation.run [.verify] (image, { disk := leftover }))).1 = .error error := by
  have hfile : leftover.lookupFile "a.cf" = .ok 0 :=
    (Disk.keeps_modify _ 0 _).lookupFile (Disk.lookupFile_create ChangeFile.create_on_empty)
  have hlength : leftover.length 0 = 2048 := by decide
  have hopen : perform (openFile (O := ChangeFile) .raw "a.cf" { mode := .readWrite, overlay := some "a.cf" } ())
      { disk := leftover } = (.ok (.raw (RawImage.ofFile (O := ChangeFile) 0 (leftover.length 0) "a.cf" _ ())), _) :=
    perform_bind_ok (RawImage.perform_open hfile _ _)
  have hspares := (spares_files .raw "a.cf" { mode := .readWrite, overlay := some "a.cf" }
    sound_leftover).1 hopen hfile fun _ => by rw [hlength]; decide
  have hunusable : Unusable (shape? .raw (leftover.content 0)) leftover 0 :=
    RawImage.unusable_ofFile (by rw [hlength]; decide)
  refine ⟨_, hopen, (hspares _ .dropped).1, fun data => ?_⟩
  exact ((hspares [.verify] .kept).2 0 hfile hunusable).2 data

end AnyImage

end PartitionImage
