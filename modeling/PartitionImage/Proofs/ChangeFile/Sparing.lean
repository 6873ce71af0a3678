import PartitionImage.Proofs.ChangeFile.Attached
/-!
# What a handle leaves alone

A handle writes to the file of its overlay and to no other one.  That file was made by it where there was nothing,
or it is a change file that has its whole length and exactly the geometry of the device.

* `ChangeFile.Usable` is such a change file, `ChangeFile.Unusable` a file that holds something else.
* `ChangeFile.Spared` says that nothing unusable has changed since, `ChangeFile.Own` that an attached store is not
  one that was unusable.
* `ChangeFile.Spared.make` is what the attachment of a store leaves, and when it has to fail;
  `ChangeFile.Spared.used` what the store's own operations leave.
-/

namespace PartitionImage.ChangeFile

open PartitionImage.Action (Respects perform)

variable {geometry : Header} {shape? : Option Header} {start disk after : Disk} {path : String}
  {file : ChangeFile} {id : FileId}

/-! ### Files that can be attached -/

/-- A change file that can be attached: its header names exactly the geometry, and it has its whole length. -/
structure Usable (geometry : Header) (disk : Disk) (id : FileId) : Prop where
  header : Header.decode? ((disk.content id).slice 0 headerSize) = some geometry
  whole : wholeLength geometry.blockSize geometry.totalBlocks ≤ disk.length id

/-- A file that holds something and cannot be attached to a device.  To a device whose geometry is not known (`shape?`
is `none`) no file can be. -/
structure Unusable (shape? : Option Header) (disk : Disk) (id : FileId) : Prop where
  nonempty : 0 < disk.length id
  not_usable : ∀ geometry, shape? = some geometry → ¬ Usable geometry disk id

theorem Unusable.congr (h : Unusable shape? disk id) (hdata : after.data id = disk.data id) :
    Unusable shape? after id := by
  have hlength : after.length id = disk.length id := congrArg SparseBytes.size hdata
  have hcontent : after.content id = disk.content id := congrArg SparseBytes.toBytes hdata
  refine ⟨hlength ▸ h.nonempty, fun geometry hgeometry husable => h.not_usable geometry hgeometry ?_⟩
  exact ⟨hcontent ▸ husable.header, hlength ▸ husable.whole⟩

theorem Unusable.foreign (h : Unusable (some geometry) disk id) :
    Foreign geometry.blockSize geometry.totalBlocks disk id := by
  refine ⟨h.nonempty, ?_⟩
  by_cases hheader : Header.decode? ((disk.content id).slice 0 headerSize) = some geometry
  · exact .inr (Nat.lt_of_not_le fun hwhole => h.not_usable geometry rfl ⟨hheader, hwhole⟩)
  · exact .inl hheader

/-! ### What has not changed -/

/-- The disk `start` as a handle has left it: every name leads where it led, and what cannot be attached to the
device is as it was. -/
structure Spared (shape? : Option Header) (start disk : Disk) : Prop where
  sound : disk.Sound
  keeps : start.Keeps disk
  data_eq : ∀ id, Unusable shape? start id → disk.data id = start.data id

/-- A store that was not made of something unusable.  If its path led to a file, that is its file. -/
structure Own (shape? : Option Header) (start : Disk) (path : String) (file : ChangeFile) : Prop where
  apart : ¬ Unusable shape? start file.file
  found : ∀ id, start.lookupFile path = .ok id → file.file = id

/-- A store that was opened or made on a disk, and that is to be verified. -/
structure Pending (geometry : Header) (start : Disk) (path : String) (disk : Disk) (file : ChangeFile) : Prop where
  clean : file.dirty = false
  blockSize_eq : file.blockSize = geometry.blockSize
  totalBlocks_eq : file.totalBlocks = geometry.totalBlocks
  own : wholeLength geometry.blockSize geometry.totalBlocks ≤ disk.length file.file →
    Own (some geometry) start path file

theorem Spared.refl (hsound : start.Sound) : Spared shape? start start :=
  ⟨hsound, fun _ _ h => h, fun _ _ => rfl⟩

theorem Spared.unusable (h : Spared shape? start disk) (hother : Unusable shape? start id) :
    Unusable shape? disk id :=
  hother.congr (h.data_eq id hother)

/-- **A store that was not unusable is written without harm to what is.** -/
theorem Spared.used {overlay reached : Option ChangeFile} (h : Spared shape? start disk)
    (hown : ∀ file, overlay = some file → Own shape? start path file)
    (hused : Overlay.Used Step (overlay, disk) (reached, after)) :
    Spared shape? start after ∧ ∀ file, reached = some file → Own shape? start path file := by
  cases hused with
  | none => exact ⟨h, hown⟩
  | @some file reached _ _ hstep =>
    have hfile := hown file rfl
    have hchanges := hstep.changes
    refine ⟨⟨hchanges.sound h.sound, fun place node hnode => hchanges.keeps _ _ (h.keeps _ _ hnode),
      fun id hid => ?_⟩, ?_⟩
    · rw [hchanges.data_eq id fun hsame => hfile.apart (hsame ▸ hid)]
      exact h.data_eq id hid
    · intro other hother
      obtain rfl := Option.some.inj hother
      exact ⟨hstep.file_eq ▸ hfile.apart, hstep.file_eq ▸ hfile.found⟩

theorem Spared.finish (h : Spared shape? start disk)
    (hfile : file.dirty = false ∨ Own shape? start path file) :
    Spared shape? start (perform file.finish disk).2 := by
  show Spared shape? start (perform sync (file, disk)).2.2
  rcases hfile with hclean | hown
  · rw [sync, Action.perform_bind_ok (Action.perform_get _), hclean]
    exact h
  · have hfile : ∀ other, some file = some other → Own shape? start path other :=
      fun other hother => Option.some.inj hother ▸ hown
    exact (h.used hfile (.some (sync_step (file, disk)))).1

/-! ### Opening and making -/

theorem Spared.init (h : Spared (some geometry) start disk) {result : Except OverlayError ChangeFile}
    (hopen : perform (init path geometry.blockSize geometry.totalBlocks) disk = (result, after)) :
    after = disk ∧ ∀ file, result = .ok file → Pending geometry start path disk file := by
  refine ⟨(init_disk _ _ _).of_perform hopen, ?_⟩
  rintro file rfl
  obtain ⟨-, hfound⟩ := init_inv hopen
  refine ⟨hfound.clean, hfound.blockSize_eq, hfound.totalBlocks_eq, fun hwhole => ⟨fun hother => ?_, ?_⟩⟩
  · exact (h.unusable hother).not_usable geometry rfl ⟨hfound.header, hwhole⟩
  · intro id hid
    exact Except.ok.inj (hfound.found.symm.trans (h.keeps.lookupFile hid))

/-- **Whatever is under a path, a store is made of nothing that is unusable.** -/
theorem Spared.create (h : Spared (some geometry) start disk) {result : Except OverlayError ChangeFile}
    (hcreate : perform (create path geometry.blockSize geometry.totalBlocks) disk = (result, after)) :
    Spared (some geometry) start after
      ∧ ∀ file, result = .ok file → Pending geometry start path after file := by
  by_cases hsize : ∃ n, disk.size path = .ok (n + 1)
  · obtain ⟨n, hsize⟩ := hsize
    rw [perform_create_of_size hsize] at hcreate
    obtain ⟨rfl, hpending⟩ := h.init hcreate
    exact ⟨h, hpending⟩
  · have hvacant : ∀ n, disk.size path ≠ .ok (n + 1) := fun n hn => hsize ⟨n, hn⟩
    rw [perform_create_of_vacant hvacant] at hcreate
    rcases createEmpty_end h.sound hcreate with
      ⟨⟨error, rfl⟩, rfl⟩ | ⟨id, made, hmade, hchanges, -, hfresh⟩
    · exact ⟨h, fun file hok => by cases hok⟩
    · have hkeeps : start.Keeps after := fun place node hnode =>
        hchanges.keeps _ _ (Disk.keeps_create hmade _ _ (h.keeps _ _ hnode))
      have hne : ∀ {asked : FileId}, Unusable (some geometry) start asked → asked ≠ id :=
        fun hother => foreign_ne_of_create hvacant hmade (h.unusable hother).foreign
      refine ⟨⟨hchanges.sound (h.sound.create hmade), hkeeps, fun asked hasked => ?_⟩, ?_⟩
      · rw [hchanges.data_eq asked (hne hasked), Disk.data_create_of_ne hmade (hne hasked)]
        exact h.data_eq asked hasked
      · rintro file rfl
        obtain rfl := hfresh file rfl
        refine ⟨rfl, rfl, rfl, fun _ => ⟨fun hother => hne hother rfl, fun asked hasked => ?_⟩⟩
        have hfound := hchanges.keeps.lookupFile (Disk.lookupFile_create hmade)
        exact Except.ok.inj (hfound.symm.trans (hkeeps.lookupFile hasked))

/-- A store that is not whole is let go of, and nothing is written for that. -/
theorem Pending.keep (h : Pending geometry start path disk file) {result : Except OverlayError ChangeFile}
    (hkeep : perform (verifyStore file) disk = (result, after)) :
    after = disk ∧ ∀ kept, result = .ok kept → Own (some geometry) start path kept := by
  rw [perform_verifyStore h.clean, h.blockSize_eq, h.totalBlocks_eq] at hkeep
  obtain ⟨hresult, rfl⟩ := Prod.mk.inj hkeep
  refine ⟨rfl, ?_⟩
  rintro kept rfl
  cases hverdict : verdict geometry.blockSize geometry.totalBlocks (disk.length file.file) with
  | error error =>
    rw [hverdict] at hresult
    cases hresult
  | ok done =>
    rw [hverdict] at hresult
    cases hresult
    exact h.own (verdict_eq_ok_iff.mp hverdict).room

/-- **A store that is attached was not made of something unusable.** -/
theorem Spared.make (h : Spared (some geometry) start disk) (setup : Overlay.Setup ChangeFile)
    {result : Except OverlayError ChangeFile}
    (hmake : perform (makeOverlay setup path geometry.blockSize geometry.totalBlocks) disk
      = (result, after)) :
    Spared (some geometry) start after
      ∧ ∀ file, result = .ok file → Own (some geometry) start path file := by
  rw [makeOverlay, Action.perform_bind] at hmake
  rcases hcreate : perform (ChangeFile.create path geometry.blockSize geometry.totalBlocks) disk
    with ⟨created, reached⟩
  obtain ⟨hspared, hpending⟩ := h.create hcreate
  rw [show perform (Overlay.create setup path geometry.blockSize geometry.totalBlocks) disk
    = (created, reached) from hcreate] at hmake
  cases created with
  | error error =>
    cases hmake
    exact ⟨hspared, fun file hok => by cases hok⟩
  | ok store =>
    obtain ⟨rfl, hown⟩ := (hpending store rfl).keep hmake
    exact ⟨hspared, hown⟩

/-- Where the path led to something unusable there is no store of the handle's own. -/
theorem Own.not_unusable (h : Own shape? start path file) (hfound : start.lookupFile path = .ok id) :
    ¬ Unusable shape? start id :=
  h.found id hfound ▸ h.apart

end PartitionImage.ChangeFile
