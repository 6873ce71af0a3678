import Mathlib
import PartitionImage.Proofs.Image.Head
import PartitionImage.Proofs.ReadOnly
import PartitionImage.Recognition
/-!
# What a file is taken for

The class of the first failure decides what a file is taken for.  A file with the head of a partition image is taken
for a raw image just when it ends within its descriptor.

* `Supported.failure?_openingChecks_iff` is the length of a file that its head alone would make an image of.
* `begins_openPartition` says that opening makes the checks of version and descriptor first, whatever the options.
* `openAny_eq_raw_inv` and `probeAny_eq_raw_iff` say when a file is taken for a raw image, `perform_openAny_partition`
  and `perform_openAny_raw` what it takes to open one, and `disk_of_openPartition` that the disk is as it was between
  the two.
* `ne_raw_iff` is about every file with the head of an image, and every way to open it.
-/

namespace PartitionImage

open PartitionImage.Action (perform perform_bind_ok perform_bind_error Respects Maintains)
open Check (Avoids)
open Image (emptyDescriptor)

/-- A good head is that of an image in another format only if the file ends within its descriptor. -/
theorem Supported.failure?_openingChecks_iff {bytes : Bytes} {format : Format} (hhead : 36 ≤ bytes.length)
    (hmagic : bytes.slice 0 15 = Descriptor.imageMagic) (hformat : Format.of? bytes = some format) :
    Check.failure? (openingChecks bytes) = some .formatMismatch ↔ bytes.length < format.bitmapOffset := by
  have hpassed : Check.failure? (headChecks bytes) = none :=
    Check.failure?_eq_none_iff.mpr ((head_iff bytes).mpr ⟨hhead, hmagic⟩)
  -- The first check of a descriptor is that of its length, and no other is of the class.
  obtain ⟨rest, hchecks, hrest⟩ : ∃ rest,
      descriptorChecks bytes format ++ (featureChecks bytes format ++ roomChecks bytes format)
          = ⟨format.bitmapOffset ≤ bytes.length, .formatMismatch⟩ :: rest
        ∧ ∀ check ∈ rest, check.kind ≠ .formatMismatch := by
    cases format with
    | legacy => exact ⟨_, rfl, by simp [featureChecks, roomChecks]⟩
    | current => exact ⟨_, rfl, by simp [featureChecks, roomChecks]⟩
  rw [openingChecks, hformat, Check.failure?_append, hpassed, Option.none_or]
  dsimp only
  rw [hchecks]
  by_cases hlong : format.bitmapOffset ≤ bytes.length
  · rw [Check.failure?_cons_of_passed (decide_eq_true hlong)]
    refine ⟨fun hfailure => ?_, fun hshort => absurd hlong (Nat.not_le.mpr hshort)⟩
    obtain ⟨check, hcheck, hkind⟩ := Check.exists_of_failure? hfailure
    exact absurd hkind (hrest check hcheck)
  · rw [Check.failure?_cons_of_failed (decide_eq_false hlong)]
    exact ⟨fun _ => Nat.not_le.mp hlong, fun _ => rfl⟩

/-! ### Opening and verifying -/

section

variable {D : Type} [BlockDevice D] {device reached : D} {world after : World}

theorem perform_verified (h : perform BlockDevice.verify (device, world) = (.ok (), reached, after)) :
    perform (verified device) world = (.ok reached, after) := by
  rw [verified, perform_bind_ok (Action.perform_get world)]
  dsimp only
  rw [h, perform_bind_ok (Action.perform_set world after)]
  rfl

theorem perform_verified_error {error : Error}
    (h : perform BlockDevice.verify (device, world) = (.error error, reached, after)) :
    perform (verified device) world = (.error error, ((BlockDevice.drop reached).run after).2) := by
  rw [verified, perform_bind_ok (Action.perform_get world)]
  dsimp only
  rw [h, perform_bind_ok (Action.perform_set world after)]
  rfl

theorem verified_error_iff {error : Error} :
    (perform (verified device) world).1 = .error error
      ↔ (perform BlockDevice.verify (device, world)).1 = .error error := by
  rcases hverify : perform BlockDevice.verify (device, world) with ⟨result, reached, after⟩
  cases result with
  | ok done =>
    rw [perform_verified hverify]
    exact ⟨fun h => (nomatch h), fun h => (nomatch h)⟩
  | error first =>
    rw [perform_verified_error hverify]
    exact ⟨fun h => by cases h; rfl, fun h => by cases h; rfl⟩

end

/-! ### Recognition -/

variable {world : World} {path : String} {id : FileId}

/-- `openPartition` opens a file and verifies the handle on it. -/
theorem openPartition_eq (hfile : world.disk.lookupFile path = .ok id) (options : OpenOptions) :
    perform (openPartition path options) world
      = perform (verified (Image.ofSource (O := ChangeFile) (.ofFile id) path options ())) world := by
  rw [openPartition, perform_bind_ok (Image.perform_open (O := ChangeFile) hfile options ())]

/-- `openRaw` opens a file and verifies the handle on it. -/
theorem openRaw_eq (hfile : world.disk.lookupFile path = .ok id) (options : OpenOptions) :
    perform (openRaw path options) world
      = perform (verified (RawImage.ofFile (O := ChangeFile) id (world.disk.length id) path options ())) world := by
  rw [openRaw, perform_bind_ok (RawImage.perform_open (O := ChangeFile) hfile options ())]

/-- **A file that is opened as a partition image is checked for version and descriptor first**, whatever the
options.  What fails after that is never of the class of a file of another kind. -/
theorem begins_openPartition (hfile : world.disk.lookupFile path = .ok id)
    (hreadable : world.disk.length id ≤ Disk.maxOffset) (options : OpenOptions) :
    match Check.failure? (Supported.openingChecks (world.disk.content id)) with
    | some kind => ∃ error, (perform (openPartition path options) world).1 = .error error ∧ error.kind = kind
    | none => ∀ error, (perform (openPartition path options) world).1 = .error error →
        error.kind ≠ .formatMismatch := by
  have hfresh : Image.Fresh (world.disk.content id) options
      (Image.ofSource (O := ChangeFile) (.ofFile id) path options (), world) :=
    ⟨Source.faultless_ofFile hreadable, rfl, rfl⟩
  have hbegins := Image.begins_verify (by rfl) hfresh
  rw [openPartition_eq hfile]
  cases hfailure : Check.failure? (Supported.openingChecks (world.disk.content id)) with
  | some kind =>
    rw [hfailure] at hbegins
    obtain ⟨error, herror, hkind⟩ := hbegins
    exact ⟨error, verified_error_iff.mpr herror, hkind⟩
  | none =>
    rw [hfailure] at hbegins
    exact fun error herror => hbegins error (verified_error_iff.mp herror)

/-- A file is of another kind if a check of version and descriptor says so. -/
theorem openPartition_mismatch_iff (hfile : world.disk.lookupFile path = .ok id)
    (hreadable : world.disk.length id ≤ Disk.maxOffset) (options : OpenOptions) :
    (∃ error, (perform (openPartition path options) world).1 = .error error ∧ error.kind = .formatMismatch)
      ↔ Check.failure? (Supported.openingChecks (world.disk.content id)) = some .formatMismatch := by
  have hbegins := begins_openPartition hfile hreadable options
  cases hfailure : Check.failure? (Supported.openingChecks (world.disk.content id)) with
  | some kind =>
    rw [hfailure] at hbegins
    obtain ⟨error, herror, rfl⟩ := hbegins
    constructor
    · rintro ⟨other, hother, hkind⟩
      rw [herror] at hother
      cases hother
      exact congrArg some hkind
    · exact fun h => ⟨error, herror, Option.some.inj h⟩
  | none =>
    rw [hfailure] at hbegins
    exact ⟨fun ⟨error, herror, hkind⟩ => absurd hkind (hbegins error herror), fun h => nomatch h⟩

theorem Image.avoids_close {O : Type} [Overlay O] (image : Image O) : Avoids .formatMismatch image.close := by
  unfold close
  split
  · exact .pure _
  · exact .zoom Error.overlay_kind_ne _

/-- **A file is probed as a raw image just if it is a file of another kind than a partition image.** -/
theorem probeAny_eq_raw_iff :
    (perform (probeAny path) world).1 = .ok .raw
      ↔ ∃ error, (perform (openPartition path {}) world).1 = .error error ∧ error.kind = .formatMismatch := by
  have hprobe : (∃ error, (perform (probe path) world).1 = .error error ∧ error.kind = .formatMismatch)
      ↔ ∃ error, (perform (openPartition path {}) world).1 = .error error ∧ error.kind = .formatMismatch := by
    rcases hopen : perform (openPartition path {}) world with ⟨result, reached⟩
    rw [probe]
    cases result with
    | ok image =>
      rw [perform_bind_ok hopen]
      refine ⟨fun ⟨error, herror, hkind⟩ => ?_, fun ⟨error, herror, _⟩ => nomatch herror⟩
      exact absurd hkind (image.avoids_close reached error herror)
    | error error =>
      rw [perform_bind_error hopen]
      constructor
      · rintro ⟨_, hfailed, hkind⟩
        cases hfailed
        exact ⟨error, rfl, hkind⟩
      · rintro ⟨_, hfailed, hkind⟩
        cases hfailed
        exact ⟨error, rfl, hkind⟩
  rw [← hprobe, probeAny, perform_bind_ok (Action.perform_attempt _ world)]
  cases (perform (probe path) world).1 with
  | ok done => exact ⟨fun h => (nomatch h), fun ⟨_, herror, _⟩ => nomatch herror⟩
  | error error =>
    dsimp only
    split
    · next hkind => exact ⟨fun _ => ⟨error, rfl, hkind⟩, fun _ => rfl⟩
    · next hkind =>
      refine ⟨fun h => (nomatch h), fun ⟨_, herror, hother⟩ => ?_⟩
      cases herror
      exact absurd hother hkind

/-- What is opened as a raw image is a file of another kind than a partition image. -/
theorem openAny_eq_raw_inv {options : OpenOptions} {image : RawImage ChangeFile}
    (h : (perform (openAny path options) world).1 = .ok (.raw image)) :
    ∃ error, (perform (openPartition path options) world).1 = .error error ∧ error.kind = .formatMismatch := by
  rw [openAny, perform_bind_ok (Action.perform_attempt _ world)] at h
  cases hopen : (perform (openPartition path options) world).1 with
  | ok image =>
    rw [hopen] at h
    cases h
  | error error =>
    rw [hopen] at h
    dsimp only at h
    split at h
    · next hkind => exact ⟨error, rfl, hkind⟩
    · cases h

/-- What is opened as a partition image is not tried as a raw one. -/
theorem perform_openAny_partition {options : OpenOptions} {image : Image ChangeFile} {after : World}
    (h : perform (openPartition path options) world = (.ok image, after)) :
    perform (openAny path options) world = (.ok (.partition image), after) := by
  rw [openAny, perform_bind_ok (Action.perform_attempt _ world), h]
  rfl

/-! ### Files that are tried -/

namespace Image

variable {disk : Disk}

/-- A handle that has made no overlay, and has nothing to save in the one that it has opened. -/
structure Calm (disk : Disk) (state : Image ChangeFile × World) : Prop where
  mode : state.1.options.mode ≠ .create
  clean : ∀ file, state.1.overlay = some file → file.dirty = false
  disk : state.2.disk = disk

theorem initOverlay_calm (blockSize totalBlocks : Nat) :
    Respects (Maintains (Calm disk)) (initOverlay blockSize totalBlocks) := by
  intro state h
  rcases hrun : perform (initOverlay blockSize totalBlocks) state with ⟨result, opened⟩
  cases initEnd_of_perform hrun with
  | unasked hmode => exact h
  | opened hmode hinit =>
    obtain ⟨rfl, hfound⟩ := ChangeFile.init_inv hinit
    refine ⟨h.mode, fun other hother => ?_, h.disk⟩
    obtain rfl := Option.some.inj hother
    exact hfound.clean
  | missing hmode hinit =>
    have hsame := (congrArg Prod.snd hinit).symm.trans (ChangeFile.init_disk _ _ _ _)
    exact ⟨h.mode, h.clean, hsame.trans h.disk⟩
  | made hmode hcreate => exact absurd hmode h.mode
  | unmade hmode hcreate => exact absurd hmode h.mode

theorem verifyOverlay_calm : Respects (Maintains (Calm disk)) (verifyOverlay (O := ChangeFile)) := by
  intro state h
  have hkept : ∀ {file kept : ChangeFile} {after : Disk} {result : Except OverlayError Unit},
      state.1.overlay = some file → perform Overlay.verify (file, state.2.disk) = (result, kept, after) →
      (∀ other, some kept = some other → other.dirty = false) ∧ after = disk := by
    intro file kept after result hfile hverify
    cases (ChangeFile.perform_verify _ _).symm.trans hverify
    exact ⟨fun other hother => h.clean other (hfile.trans hother), h.disk⟩
  rcases hrun : perform (verifyOverlay (O := ChangeFile)) state with ⟨result, checked⟩
  cases verifyEnd_of_perform hrun with
  | absent hnone => exact h
  | whole hfile hverify => exact ⟨h.mode, (hkept hfile hverify).1, (hkept hfile hverify).2⟩
  | broken hfile hverify => exact ⟨h.mode, (hkept hfile hverify).1, (hkept hfile hverify).2⟩

/-- **Verification writes nothing to an overlay that it opens.** -/
theorem verify_calm : Respects (Maintains (Calm disk)) (verify (O := ChangeFile)) :=
  verify_maintains (fun haside h => ⟨haside.options ▸ h.mode, fun file hfile => h.clean file (haside.overlay ▸ hfile),
    haside.disk.trans h.disk⟩) initOverlay_calm verifyOverlay_calm

theorem Calm.ending {state : Image ChangeFile × World} (h : Calm disk state) (ending : Ending) :
    (ending.after state).disk = disk := by
  refine BlockDevice.ending_of_close (disk_drop state.1 state.2) (fun reached => reached = disk) h.disk ?_ ending
  show (perform (close state.1) state.2).2.disk = disk
  rw [close]
  cases hoverlay : state.1.overlay with
  | none => exact h.disk
  | some file =>
    have hsync : perform ChangeFile.sync (file, state.2.disk) = (.ok (), file, state.2.disk) := by
      rw [ChangeFile.sync, perform_bind_ok (Action.perform_get _), h.clean file hoverlay]
      rfl
    show (perform ChangeFile.sync (file, state.2.disk)).2.2 = disk
    rw [hsync]
    exact h.disk

end Image

/-- A file that cannot be opened as a partition image leaves the disk as it was. -/
theorem disk_of_openPartition (hfile : world.disk.lookupFile path = .ok id) {options : OpenOptions}
    (hmode : options.mode ≠ .create) {error : Error} {reached : World}
    (h : perform (openPartition path options) world = (.error error, reached)) : reached.disk = world.disk := by
  have hcalm : Image.Calm world.disk (Image.ofSource (O := ChangeFile) (.ofFile id) path options (), world) :=
    ⟨hmode, fun file hnone => (nomatch hnone), rfl⟩
  have hverified := Image.verify_calm _ hcalm
  rw [openPartition_eq hfile] at h
  rcases hverify : perform Image.verify (Image.ofSource (O := ChangeFile) (.ofFile id) path options (), world)
    with ⟨result, image, after⟩
  rw [hverify] at hverified
  cases result with
  | ok done =>
    rw [perform_verified hverify] at h
    cases h
  | error first =>
    rw [perform_verified_error hverify] at h
    cases h
    exact hverified.ending .dropped

/-- **A file of another kind than a partition image is opened as a raw one**, on the disk as it was. -/
theorem perform_openAny_raw (hfile : world.disk.lookupFile path = .ok id) {options : OpenOptions}
    (hmode : options.mode ≠ .create) (hmismatch : ∃ error, (perform (openPartition path options) world).1 = .error error
      ∧ error.kind = .formatMismatch) :
    ∃ reached : World, reached.disk = world.disk
      ∧ ∀ {image after}, perform (openRaw path options) reached = (.ok image, after) →
        perform (openAny path options) world = (.ok (.raw image), after) := by
  obtain ⟨error, herror, hkind⟩ := hmismatch
  rcases hopen : perform (openPartition path options) world with ⟨result, reached⟩
  rw [hopen] at herror
  obtain rfl : result = .error error := herror
  refine ⟨reached, disk_of_openPartition hfile hmode hopen, fun hraw => ?_⟩
  rw [openAny, perform_bind_ok (Action.perform_attempt _ world), hopen]
  dsimp only
  rw [if_pos hkind, perform_bind_ok hraw]
  rfl

/-- A file of another kind than a partition image can be opened for reading as a raw one. -/
theorem exists_openAny_raw (hfile : world.disk.lookupFile path = .ok id)
    (hmismatch : ∃ error, (perform (openPartition path {}) world).1 = .error error
      ∧ error.kind = .formatMismatch) :
    ∃ image, (perform (openAny path {}) world).1 = .ok (.raw image) := by
  obtain ⟨reached, hdisk, hopen⟩ := perform_openAny_raw hfile (by decide) hmismatch
  have hraw : ∃ image, perform (openRaw path {}) reached = (.ok image, reached) := by
    rw [openRaw_eq (hdisk ▸ hfile)]
    exact ⟨_, perform_verified (RawImage.perform_verify_idle ⟨rfl, rfl, rfl⟩)⟩
  obtain ⟨image, himage⟩ := hraw
  exact ⟨image, congrArg Prod.fst (hopen himage)⟩

/-! ### Files that are the head of an image -/

theorem create_image : ({} : Disk).create "a.img" = .ok (0, Disk.withNew {} ["a.img"]) := by cbv

def imageDisk (bytes : Bytes) : Disk :=
  (Disk.withNew {} ["a.img"]).setContent 0 (.ofPacked (.ofBytes bytes))

theorem content_imageDisk (bytes : Bytes) : (imageDisk bytes).content 0 = bytes := by
  have hfile : (Disk.withNew {} ["a.img"]).IsFile 0 := Nat.zero_lt_one
  rw [imageDisk, Disk.content_setContent _ hfile, SparseBytes.toBytes_ofPacked, Packed.toBytes_ofBytes]

theorem lookupFile_imageDisk (bytes : Bytes) : (imageDisk bytes).lookupFile "a.img" = .ok 0 :=
  (Disk.keeps_modify _ 0 _).lookupFile (Disk.lookupFile_create create_image)

theorem length_imageDisk (bytes : Bytes) : (imageDisk bytes).length 0 = bytes.length := by
  rw [Disk.length_eq, content_imageDisk]

/-- The head of an image in the current layout, and nothing after it. -/
def currentHead : Bytes := emptyDescriptor.take 36

/-- A file of just the head of an image is probed as a raw image, and opened as one. -/
theorem eq_raw_currentHead :
    (imageDisk currentHead).lookupFile "a.img" = .ok 0
      ∧ 36 ≤ ((imageDisk currentHead).content 0).length
      ∧ ((imageDisk currentHead).content 0).slice 0 15 = Descriptor.imageMagic
      ∧ Format.of? ((imageDisk currentHead).content 0) = some .current
      ∧ (perform (probeAny "a.img") { disk := imageDisk currentHead }).1 = .ok .raw
      ∧ ∃ image, (perform (openAny "a.img" {}) { disk := imageDisk currentHead }).1 = .ok (.raw image) := by
  have hfile : ({ disk := imageDisk currentHead } : World).disk.lookupFile "a.img" = .ok 0 :=
    lookupFile_imageDisk currentHead
  have hmismatch : Check.failure? (Supported.openingChecks currentHead) = some .formatMismatch := by decide
  rw [← content_imageDisk currentHead] at hmismatch
  have hmismatch := (openPartition_mismatch_iff hfile (by rw [length_imageDisk]; decide) {}).mpr hmismatch
  rw [content_imageDisk]
  exact ⟨hfile, by decide, by decide, by decide, probeAny_eq_raw_iff.mpr hmismatch, exists_openAny_raw hfile hmismatch⟩

/-- **A file with the head of a partition image is never taken for a raw one, unless it ends within its
descriptor.**  The head is the magic and a version that is known; nothing is asked of the rest of the file, and the
handle may be opened with any options.  A file that ends within the descriptor of its version is taken for a raw
image. -/
theorem ne_raw_iff {format : Format} (hfile : world.disk.lookupFile path = .ok id)
    (hreadable : world.disk.length id ≤ Disk.maxOffset) (hhead : 36 ≤ world.disk.length id)
    (hmagic : (world.disk.content id).slice 0 15 = Descriptor.imageMagic)
    (hformat : Format.of? (world.disk.content id) = some format) :
    ((perform (probeAny path) world).1 ≠ .ok .raw ↔ format.bitmapOffset ≤ world.disk.length id)
      ∧ ((∀ options image, (perform (openAny path options) world).1 ≠ .ok (.raw image))
        ↔ format.bitmapOffset ≤ world.disk.length id) := by
  rw [Disk.length_eq] at hhead ⊢
  have hshort := Supported.failure?_openingChecks_iff hhead hmagic hformat
  have hmismatch := openPartition_mismatch_iff hfile hreadable
  constructor
  · rw [Ne, probeAny_eq_raw_iff, hmismatch, hshort, Nat.not_lt]
  · constructor
    · intro hnever
      refine Nat.not_lt.mp fun hless => ?_
      obtain ⟨image, himage⟩ := exists_openAny_raw hfile ((hmismatch {}).mpr (hshort.mpr hless))
      exact hnever {} image himage
    · intro hlong options image himage
      exact absurd (hshort.mp ((hmismatch options).mp (openAny_eq_raw_inv himage))) (Nat.not_lt.mpr hlong)

/-- The damage of a file as long as the descriptor is no reason to take it for a raw image. -/
theorem ne_raw_iff_emptyDescriptor :
    (perform (probeAny "a.img") { disk := imageDisk emptyDescriptor }).1 ≠ .ok .raw
      ∧ ∀ options image, (perform (openAny "a.img" options) { disk := imageDisk emptyDescriptor }).1
        ≠ .ok (.raw image) := by
  have hfile : ({ disk := imageDisk emptyDescriptor } : World).disk.lookupFile "a.img" = .ok 0 :=
    lookupFile_imageDisk emptyDescriptor
  have hlength : emptyDescriptor.length = 110 := by decide
  have hcurrent : Format.of? emptyDescriptor = some .current := by decide
  obtain ⟨hprobe, hopen⟩ := ne_raw_iff hfile (by rw [length_imageDisk, hlength]; decide)
    (by rw [length_imageDisk, hlength]; decide) (by rw [content_imageDisk]; decide)
    ((congrArg Format.of? (content_imageDisk _)).trans hcurrent)
  have hlong : Format.current.bitmapOffset ≤ (imageDisk emptyDescriptor).length 0 := by
    rw [length_imageDisk, hlength]
    decide
  exact ⟨hprobe.mpr hlong, hopen.mpr hlong⟩

end PartitionImage
