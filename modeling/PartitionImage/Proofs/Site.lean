import PartitionImage.Proofs.ChangeFile.Lasting
/-!
# An image and the path of its changes

A file is opened as an image again and again, and its changes go to one path.  Every handle finds there what the ones
before it have left.

* `Site` is an image with the path of its changes, `Site.ground` what a handle on it takes for granted.
* `Site.On` is a disk with both, `Site.Rests` one on which the changes are at rest, and `Site.Held` one where a handle
  has them.
* `Site.Rests.init`, `Site.Held.moved`, `Site.Held.written`, `Site.Held.stores`, `Site.Held.sync` and
  `Site.Held.finish` are what a handle does with them.
* `Site.View` is what is read of the image and its changes, whatever happens to other files.
-/

namespace PartitionImage

open PartitionImage.Action (Maintains perform perform_bind_inv perform_bind_ok)
open ChangeFile (AtRest Carries Lasts Lent Moved Refines Spans Step Unmade refines_of_unmade writes_step)

/-- A block size for which the header of a change file has room. -/
structure ChangeFile.Roomy (blockSize : Nat) : Prop where
  blockSize_pos : 0 < blockSize
  blockSize_lt : blockSize < Bytes.capacity 4

/-- A file that is opened as an image, and the path where its changes go. -/
structure Site where
  path : String
  base : FileId
  bytes : Bytes
  overlay : String

namespace Site

variable {site : Site} {disk after : Disk} {id : FileId} {file : ChangeFile} {overlay : Option ChangeFile}
  {blockSize totalBlocks : Nat} {blocks : Nat → Option Bytes}

/-! ### The image on a disk -/

/-- A disk with the file of the image, which is not the one where the changes go. -/
structure On (site : Site) (disk : Disk) : Prop where
  sound : disk.Sound
  bounded : disk.Bounded
  found : disk.lookupFile site.path = .ok site.base
  content_eq : disk.content site.base = site.bytes
  apart : ∀ id, disk.lookupFile site.overlay = .ok id → id ≠ site.base

theorem On.changes (h : site.On disk) (hchanges : Disk.ChangesOnly id disk after) (hne : id ≠ site.base) :
    site.On after :=
  ⟨hchanges.sound h.sound, hchanges.bounded h.bounded, hchanges.lookupFile_iff.mpr h.found,
    (hchanges.content_eq hne.symm).trans h.content_eq,
    fun found hfound => h.apart found (hchanges.lookupFile_iff.mp hfound)⟩

theorem On.create (h : site.On disk) (hcreate : disk.create site.overlay = .ok (id, after)) :
    id ≠ site.base ∧ site.On after := by
  have hne : id ≠ site.base := Disk.create_ne hcreate (h.sound.isFile h.found) h.apart
  have hmade := Disk.beside_create hcreate
  refine ⟨hne, h.sound.create hcreate, hmade.bounded h.bounded, hmade.keeps.lookupFile h.found,
    (hmade.content_eq hne.symm).trans h.content_eq, fun found hfound => ?_⟩
  obtain rfl := Except.ok.inj ((Disk.lookupFile_create hcreate).symm.trans hfound)
  exact hne

theorem On.step (h : site.On disk) (hlasts : Lasts site.overlay blockSize totalBlocks (file, disk))
    {reached : ChangeFile × Disk} (hstep : Step (file, disk) reached) : site.On reached.2 := by
  obtain ⟨table, hfile⟩ := hlasts
  exact h.changes hstep.changes (h.apart _ hfile.found)

/-! ### What a handle does with the changes -/

/-- What a handle on the image takes for granted, if it is opened on a disk. -/
def ground (site : Site) (disk : Disk) (blockSize totalBlocks : Nat) : Ground where
  source := .ofFile site.base
  disk := disk
  mode := .readWrite
  configured := some site.overlay
  path := site.overlay
  blockSize := blockSize
  totalBlocks := totalBlocks

/-- A disk with the image, and its changes at rest. -/
structure Rests (site : Site) (blockSize totalBlocks : Nat) (blocks : Nat → Option Bytes) (disk : Disk) : Prop
    extends On site disk where
  rest : AtRest site.overlay blockSize totalBlocks blocks disk

/-- A disk with the image, and its changes as a handle has them. -/
structure Held (site : Site) (blockSize totalBlocks : Nat) (blocks : Nat → Option Bytes)
    (overlay : Option ChangeFile) (disk : Disk) : Prop extends On site disk where
  lent : Lent site.overlay blockSize totalBlocks blocks overlay disk

/-- **A handle takes the changes from where they rest.** -/
theorem Rests.init (h : site.Rests blockSize totalBlocks blocks disk) :
    ∃ result, perform (ChangeFile.init site.overlay blockSize totalBlocks) disk = (result, disk)
      ∧ site.Held blockSize totalBlocks blocks result.toOption disk
      ∧ ∀ file, result = .ok file → file.dirty = false
        ∧ Spans file.blockSize file.totalBlocks (disk.length file.file) := by
  obtain ⟨result, hopen, hlent, hwhole⟩ := h.rest.init
  exact ⟨result, hopen, ⟨h.toOn, hlent⟩, hwhole⟩

theorem Held.moved (h : site.Held blockSize totalBlocks blocks overlay disk) {reached : Option ChangeFile}
    (hmoved : Overlay.Used Moved (overlay, disk) (reached, after)) :
    site.Held blockSize totalBlocks blocks reached after := by
  obtain ⟨hcarries, rfl⟩ := h.lent.toCarries.moved hmoved
  refine ⟨h.toOn, hcarries, fun hnone => h.lent.unmade ?_⟩
  have hsame := hmoved.isSome_eq
  rw [show reached.isSome = false by rw [hnone]; rfl] at hsame
  exact Option.isSome_eq_false_iff.mp hsame.symm |> Option.isNone_iff_eq_none.mp

theorem Held.lasts (h : site.Held blockSize totalBlocks blocks (some file) disk) :
    Lasts site.overlay blockSize totalBlocks (file, disk) := ⟨_, h.lent.refines file rfl⟩

theorem Held.attach (h : site.Held blockSize totalBlocks blocks none disk)
    (hroomy : ChangeFile.Roomy blockSize) {setup : Overlay.Setup ChangeFile}
    (hmake : perform (makeOverlay setup site.overlay blockSize totalBlocks) disk = (.ok file, after)) :
    site.On after ∧ Lasts site.overlay blockSize totalBlocks (file, after) := by
  obtain ⟨hfile, made, hcreate, hchanges⟩ :=
    refines_of_unmade h.sound (h.lent.unmade rfl) hroomy.blockSize_lt hmake
  obtain ⟨hne, hmade⟩ := h.toOn.create hcreate
  exact ⟨hmade.changes hchanges hne, _, hfile⟩

/-- The change file that a handle writes to: the one that it has, or one that is made for it. -/
inductive Attached (site : Site) (blockSize totalBlocks : Nat) (overlay : Option ChangeFile) (disk : Disk) :
    Option ChangeFile × Disk → Prop
  | kept (hsome : overlay.isSome = true) : Attached site blockSize totalBlocks overlay disk (overlay, disk)
  | made {setup : Overlay.Setup ChangeFile} {file : ChangeFile} {after : Disk} (hnone : overlay = none)
      (hmake : perform (makeOverlay setup site.overlay blockSize totalBlocks) disk = (.ok file, after)) :
      Attached site blockSize totalBlocks overlay disk (some file, after)

theorem Held.attached (h : site.Held blockSize totalBlocks blocks overlay disk)
    (hroomy : ChangeFile.Roomy blockSize) {between : Option ChangeFile × Disk}
    (hattached : site.Attached blockSize totalBlocks overlay disk between) :
    site.On between.2 ∧ ∃ file, between.1 = some file ∧ Lasts site.overlay blockSize totalBlocks (file, between.2) := by
  cases hattached with
  | kept hsome =>
    obtain ⟨file, rfl⟩ := Option.isSome_iff_exists.mp hsome
    exact ⟨h.toOn, file, rfl, h.lasts⟩
  | made hnone hmake =>
    subst hnone
    obtain ⟨hon, hlasts⟩ := h.attach hroomy hmake
    exact ⟨hon, _, rfl, hlasts⟩

/-- **A change file that is written leaves the image, and lasts.** -/
theorem Held.written (h : site.Held blockSize totalBlocks blocks overlay disk)
    (hroomy : ChangeFile.Roomy blockSize) {between : Option ChangeFile × Disk}
    (hattached : site.Attached blockSize totalBlocks overlay disk between) {reached : Option ChangeFile}
    (hstep : Overlay.Used Step between (reached, after))
    (hused : Overlay.Used (Maintains (Lasts site.overlay blockSize totalBlocks)) between (reached, after)) :
    site.On after ∧ ∃ file, reached = some file ∧ Lasts site.overlay blockSize totalBlocks (file, after) := by
  obtain ⟨hon, file, hfile, hlasts⟩ := h.attached hroomy hattached
  obtain ⟨_, disk⟩ := between
  obtain rfl := hfile
  cases hstep with
  | some hstep =>
    cases hused with
    | some hmaintains => exact ⟨hon.step hlasts hstep, _, rfl, hmaintains hlasts⟩

/-- **Blocks that have been stored are among the changes**, over what was there before. -/
theorem Held.stores (h : site.Held blockSize totalBlocks blocks overlay disk) (hon : site.On after)
    (hlasts : Lasts site.overlay blockSize totalBlocks (file, after)) {start : Disk} {cursor count : Nat} {data : Bytes}
    (hstores : (site.ground start blockSize totalBlocks).Stores
      ((site.ground start blockSize totalBlocks).prior overlay disk) (Ground.stored (some file) after) cursor count
      data) :
    site.Held blockSize totalBlocks (Ground.replaced blocks blockSize cursor count data) (some file) after :=
  ⟨hon, Lent.of_stores h.lent hlasts hstores⟩

/-- Making the changes last can be seen in no block. -/
theorem Held.sync (h : site.Held blockSize totalBlocks blocks (some file) disk) :
    ∃ after, perform ChangeFile.sync (file, disk) = (.ok (), file.clean, after)
      ∧ site.Held blockSize totalBlocks blocks (some file.clean) after := by
  have hfile := h.lent.refines file rfl
  obtain ⟨after, hsync, hafter⟩ := hfile.exists_sync
  refine ⟨after, hsync, h.toOn.step h.lasts (ChangeFile.sync_step.of_perform hsync), .of_refines ?_⟩
  rw [show file.clean.cursor = file.cursor from rfl]
  exact hafter

/-- **A handle that lets go of the changes leaves them at rest.** -/
theorem Held.finish (h : site.Held blockSize totalBlocks blocks overlay disk) :
    site.Rests blockSize totalBlocks blocks (Overlay.released overlay disk) := by
  refine ⟨?_, h.lent.rest⟩
  cases overlay with
  | none => exact h.toOn
  | some file => exact h.toOn.step h.lasts (ChangeFile.sync_step (file, disk))

/-! ### What is read -/

/-- The image and its changes as they are read, while another file is written. -/
structure View (site : Site) (written : FileId) (blockSize totalBlocks : Nat) (blocks : Nat → Option Bytes)
    (source : Source) (overlay : Option ChangeFile) (disk : Disk) : Prop where
  later : (Source.ofFile site.base).Later source
  readable : disk.length site.base ≤ Disk.maxOffset
  content_eq : disk.content site.base = site.bytes
  carries : Carries site.overlay blockSize totalBlocks blocks overlay disk
  base_ne : site.base ≠ written
  overlay_ne : ∀ file, overlay = some file → file.file ≠ written

variable {source later : Source} {written : FileId}

theorem Held.view (h : site.Held blockSize totalBlocks blocks overlay disk)
    (hlater : (Source.ofFile site.base).Later source) (hbase : site.base ≠ written)
    (hoverlay : disk.lookupFile site.overlay ≠ .ok written) :
    site.View written blockSize totalBlocks blocks source overlay disk := by
  refine ⟨hlater, h.bounded site.base, h.content_eq, h.lent.toCarries, hbase, fun file hfile => ?_⟩
  rintro rfl
  exact hoverlay (h.lent.refines file hfile).found

namespace View

/-- The bytes of the image can be had. -/
theorem delivers (h : site.View written blockSize totalBlocks blocks source overlay disk) :
    source.Delivers disk site.bytes := by
  rw [← h.content_eq]
  exact (Source.faultless_ofFile h.readable).toDelivers.later h.later

/-- What is read leaves what there is to be read, and the disk. -/
theorem moved (h : site.View written blockSize totalBlocks blocks source overlay disk) (hlater : source.Later later)
    {reached : Option ChangeFile} (hmoved : Overlay.Used Moved (overlay, disk) (reached, after)) :
    site.View written blockSize totalBlocks blocks later reached after ∧ after = disk := by
  obtain ⟨hcarries, rfl⟩ := h.carries.moved hmoved
  refine ⟨⟨h.later.trans hlater, h.readable, h.content_eq, hcarries, h.base_ne, fun file hfile => ?_⟩, rfl⟩
  cases hmoved with
  | none => exact h.overlay_ne file hfile
  | @some store reached _ _ hmoved =>
    obtain ⟨cursor, hmoved⟩ := hmoved
    cases hmoved
    cases hfile
    exact h.overlay_ne store rfl

/-- What is written to the other file can not be seen. -/
theorem beside (h : site.View written blockSize totalBlocks blocks source overlay disk)
    (hbeside : Disk.Beside written disk after) :
    site.View written blockSize totalBlocks blocks source overlay after := by
  refine ⟨h.later, ?_, (hbeside.content_eq h.base_ne).trans h.content_eq, h.carries.beside hbeside h.overlay_ne,
    h.base_ne, h.overlay_ne⟩
  rw [Disk.length, hbeside.data_eq _ h.base_ne]
  exact h.readable

end View

end Site

end PartitionImage
