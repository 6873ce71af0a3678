import PartitionImage.Proofs.Action
import PartitionImage.Proofs.ChangeFile.Contents
/-!
# Opening what is under a path

What there is under a path is not known before it is opened: nothing, an empty file, a change file with blocks
in it, or something else.  Only the first two are written; a change file is taken as it is, and nothing else is
touched.

* `ChangeFile.Foreign` is a file that is not a change file of a geometry, `ChangeFile.Spares` says that such
  files are as before.
* `ChangeFile.held` is what the change file at a path holds while nobody has opened it.
* `ChangeFile.init_inv` is what opening finds, `ChangeFile.createEmpty_end` what making a file leaves, whether
  it succeeds or not.
* `ChangeFile.makeOverlay_ends` is the whole: the store that is attached, and what was not touched for it.
-/

namespace PartitionImage

open PartitionImage.Action (Respects Unchanged perform perform_bind_inv)

namespace ChangeFile

variable {file : ChangeFile} {disk after : Disk} {path : String} {id : FileId}
  {blockSize totalBlocks : Nat}

/-! ### What is not touched -/

/-- A file with something in it that is not a change file of the geometry, or not all of one. -/
structure Foreign (blockSize totalBlocks : Nat) (disk : Disk) (id : FileId) : Prop where
  nonempty : 0 < disk.length id
  other : Header.decode? ((disk.content id).slice 0 headerSize) ≠ some ⟨blockSize, totalBlocks⟩
    ∨ disk.length id < wholeLength blockSize totalBlocks

theorem Foreign.congr (h : Foreign blockSize totalBlocks disk id) (hdata : after.data id = disk.data id) :
    Foreign blockSize totalBlocks after id := by
  have hlength : after.length id = disk.length id := congrArg SparseBytes.size hdata
  have hcontent : after.content id = disk.content id := congrArg SparseBytes.toBytes hdata
  exact ⟨hlength ▸ h.nonempty, hlength ▸ hcontent ▸ h.other⟩

/-- Names lead to files, none of which is too long, and files that are foreign are as they were. -/
structure Spares (blockSize totalBlocks : Nat) (disk after : Disk) : Prop where
  sound : disk.Sound → after.Sound
  bounded : disk.Bounded → after.Bounded
  data_eq : ∀ id, Foreign blockSize totalBlocks disk id → after.data id = disk.data id

theorem Spares.refl (disk : Disk) : Spares blockSize totalBlocks disk disk :=
  ⟨fun h => h, fun h => h, fun _ _ => rfl⟩

/-! ### What is held -/

/-- The block that the change file at a path holds, if there is one of the geometry that does. -/
def held (disk : Disk) (path : String) (blockSize totalBlocks block : Nat) : Option Bytes :=
  match (perform (init path blockSize totalBlocks) disk).1 with
  | .ok file => if block < totalBlocks then file.stored disk block else none
  | .error _ => none

theorem held_of_le {block : Nat} (h : totalBlocks ≤ block) :
    held disk path blockSize totalBlocks block = none := by
  unfold held
  split
  · exact if_neg (Nat.not_lt.mpr h)
  · rfl

/-- No change file at the path holds a block. -/
def Silent (path : String) (blockSize totalBlocks : Nat) (disk : Disk) : Prop :=
  ∀ block, held disk path blockSize totalBlocks block = none

theorem silent_of_error {error : OverlayError}
    (h : (perform (init path blockSize totalBlocks) disk).1 = .error error) :
    Silent path blockSize totalBlocks disk := by
  intro block
  rw [held, h]

/-! ### Opening -/

/-- A read gives what is in the file, even if that is not all that was asked for. -/
theorem toBytes_readFile (disk : Disk) (id : FileId) {offset n : Nat} (h : offset + n ≤ Disk.maxOffset) :
    (readFile disk id offset n).1.toBytes = (disk.content id).slice offset n := by
  unfold readFile
  split
  · next hzero => rw [hzero, Bytes.slice, List.take_zero, Packed.toBytes_empty]
  · have hread : disk.read id offset n = .ok ((disk.data id).read offset n) :=
      if_neg (Nat.not_lt.mpr h)
    rw [hread]
    exact disk.read_eq id hread

theorem readFile_inv {offset n : Nat} {bytes : Packed}
    (h : readFile disk id offset n = (bytes, .ok ())) :
    bytes.size = n ∧ bytes.toBytes = (disk.content id).slice offset n := by
  unfold readFile at h
  split at h
  · next hzero =>
    cases h
    rw [hzero, Bytes.slice, List.take_zero]
    exact ⟨rfl, rfl⟩
  · split at h
    · cases h
    · next hread =>
      obtain ⟨rfl, hresult⟩ := Prod.mk.inj h
      split at hresult
      · next hsize => exact ⟨hsize, disk.read_eq id hread⟩
      · cases hresult

theorem newMap_inv {map : Bitmap} (h : newMap totalBlocks = .ok map) : map = .clear totalBlocks := by
  have hnew := Action.mapError_eq_ok_iff.mp h
  unfold Bitmap.new at hnew
  split at hnew
  · exact (Except.ok.inj hnew).symm
  · cases hnew

/-- Opening a file changes nothing. -/
theorem init_disk (path : String) (blockSize totalBlocks : Nat) :
    Respects Unchanged (init path blockSize totalBlocks) := by
  refine .bind .get fun disk => .bind (.ofExcept _) fun id => ?_
  dsimp only
  split
  · split
    · exact .bind (.throw _) fun _ => .bind (.ofExcept _) fun map => .bind (.ofExcept _) fun _ => .pure _
    · exact .bind (.ofExcept _) fun map => .bind (.ofExcept _) fun _ => .pure _
  · exact .throw _

/-- A file that was opened: its header names the geometry, and its map is the one that is stored. -/
structure Found (path : String) (blockSize totalBlocks : Nat) (disk : Disk) (file : ChangeFile) :
    Prop where
  found : disk.lookupFile path = .ok file.file
  blockSize_eq : file.blockSize = blockSize
  totalBlocks_eq : file.totalBlocks = totalBlocks
  clean : file.dirty = false
  header : Header.decode? ((disk.content file.file).slice 0 headerSize) = some ⟨blockSize, totalBlocks⟩
  map_eq : ∃ stored : Packed, file.map = (Bitmap.clear totalBlocks).load stored
    ∧ stored.size = (Bitmap.clear totalBlocks).bytes.size
    ∧ stored.toBytes = (disk.content file.file).slice headerSize (Bitmap.clear totalBlocks).bytes.size

/-- **What is opened has the geometry, and what opening finds is what is there.** -/
theorem init_inv (h : perform (init path blockSize totalBlocks) disk = (.ok file, after)) :
    after = disk ∧ Found path blockSize totalBlocks disk file := by
  refine ⟨(init_disk _ _ _).of_perform h, ?_⟩
  unfold init at h
  rw [Action.perform_bind_ok (Action.perform_get disk)] at h
  obtain ⟨id, reached, hlookup, h⟩ := perform_bind_inv h
  obtain ⟨hopened, rfl⟩ := Prod.mk.inj hlookup
  dsimp only at h
  split at h
  · next header hheader =>
    split at h
    · cases h
    · next hsame =>
      obtain ⟨map, reached, hmap, h⟩ := perform_bind_inv h
      obtain ⟨hnew, rfl⟩ := Prod.mk.inj hmap
      obtain ⟨_, reached, hread, h⟩ := perform_bind_inv h
      obtain ⟨hresult, rfl⟩ := Prod.mk.inj hread
      obtain rfl := newMap_inv hnew
      have hstored := readFile_inv (Prod.ext rfl (Action.mapError_eq_ok_iff.mp hresult))
      rw [toBytes_readFile disk id (show 0 + headerSize ≤ Disk.maxOffset by decide),
        Decidable.not_not.mp hsame] at hheader
      cases h
      exact ⟨Action.mapError_eq_ok_iff.mp hopened, rfl, rfl, rfl, hheader, _, rfl, hstored⟩
  · cases h

theorem Found.positions (h : Found path blockSize totalBlocks disk file) :
    file.map.length = file.totalBlocks := by
  obtain ⟨stored, hmap, -, -⟩ := h.map_eq
  rw [hmap, h.totalBlocks_eq]
  rfl

/-- Past the header of a file there are only zeros. -/
def Blank (disk : Disk) (id : FileId) : Prop :=
  ∀ i, headerSize ≤ i → (disk.content id).getD i 0 = 0

/-- A file with nothing past its header holds no block. -/
theorem silent_of_blank (hfound : disk.lookupFile path = .ok id) (hblank : Blank disk id) :
    Silent path blockSize totalBlocks disk := by
  intro block
  unfold held
  split
  · next file hopened =>
    obtain ⟨-, hfile⟩ := init_inv (Prod.ext hopened rfl)
    obtain ⟨stored, hmap, hsize, hstored⟩ := hfile.map_eq
    have hid : file.file = id := Except.ok.inj (hfile.found.symm.trans hfound)
    have hzero : stored.get (block / 8) = 0 := by
      rw [Packed.get_eq, hstored, Bytes.getD_slice, hid]
      split
      · exact hblank _ (Nat.le_add_right _ _)
      · rfl
    have hunset : file.map.isSet block = false := by
      rw [hmap, Bitmap.isSet_load _ hsize, hzero]
      exact Nat.zero_testBit _
    split
    · rw [ChangeFile.stored, hunset]
      rfl
    · rfl
  · rfl

theorem content_eq_nil (hfound : disk.lookupFile path = .ok id) (h : ∀ n, disk.size path ≠ .ok (n + 1)) :
    disk.content id = [] := by
  have hsize := Disk.size_of_lookupFile hfound
  rw [Disk.length_eq] at hsize
  cases hcontent : disk.content id with
  | nil => rfl
  | cons byte bytes =>
    rw [hcontent] at hsize
    exact absurd hsize (h bytes.length)

/-- A path without anything, or with an empty file, has no blocks. -/
theorem silent_of_vacant (h : ∀ n, disk.size path ≠ .ok (n + 1)) :
    Silent path blockSize totalBlocks disk := by
  intro block
  unfold held
  split
  · next file hopened =>
    obtain ⟨-, hfile⟩ := init_inv (Prod.ext hopened rfl)
    -- a header takes room, so an empty file has none
    have hheader := hfile.header
    rw [content_eq_nil hfile.found h] at hheader
    cases hheader
  · rfl

/-! ### Making -/

/-- What happens to a file that is filled: no other one is changed, and past the header it stays blank. -/
structure Fills (id : FileId) (disk after : Disk) : Prop where
  changes : Disk.ChangesOnly id disk after
  blank : disk.IsFile id → Blank disk id → Blank after id

instance : Std.Refl (Fills id) := ⟨fun disk => ⟨.refl id disk, fun _ h => h⟩⟩

instance : Trans (Fills id) (Fills id) (Fills id) where
  trans h h' := ⟨h.changes.trans h'.changes,
    fun hfile hblank => h'.blank ((h.changes.isFile_iff id).mpr hfile) (h.blank hfile hblank)⟩

theorem onDisk_fills {change : Disk → Except IoError Disk}
    (h : ∀ disk after, change disk = .ok after → Fills id disk after) :
    Respects (Fills id) (onDisk change) := by
  intro disk
  show Fills id disk (perform (get >>= fun disk => _) disk).2
  rw [Action.perform_bind_ok (Action.perform_get disk)]
  cases hchange : change disk with
  | error error => exact Std.Refl.refl disk
  | ok after => exact h disk after hchange

theorem fills_write {offset : Nat} {bytes : Packed}
    (hbytes : offset + bytes.size ≤ headerSize ∨ ∀ i, bytes.toBytes.getD i 0 = 0)
    (h : disk.write id offset bytes = .ok after) : Fills id disk after := by
  refine ⟨Disk.changesOnly_write h, fun hfile hblank i hi => ?_⟩
  rw [disk.content_write hfile h, Bytes.getD_overwrite]
  split
  · next hin =>
    rcases hbytes with hheader | hzero
    · rw [Packed.length_toBytes] at hin
      omega
    · exact hzero _
  · exact hblank i hi

theorem fills_setLength {length : Nat} (h : disk.setLength id length = .ok after) :
    Fills id disk after := by
  refine ⟨Disk.changesOnly_setLength h, fun hfile hblank i hi => ?_⟩
  rw [disk.content_setLength hfile h, Bytes.getD_resize]
  split
  · exact hblank i hi
  · rfl

theorem fills_header (blockSize totalBlocks : Nat) :
    Respects (Fills id) (onDisk (·.write id 0 (.ofBytes (Header.encode ⟨blockSize, totalBlocks⟩)))) := by
  refine onDisk_fills fun _ _ => fills_write (.inl ?_)
  rw [Packed.size_ofBytes, Header.length_encode]
  exact Nat.le_refl _

theorem fills_map (totalBlocks : Nat) :
    Respects (Fills id) (onDisk (·.write id headerSize (Bitmap.clear totalBlocks).bytes)) := by
  refine onDisk_fills fun _ _ => fills_write (.inr fun i => ?_)
  rw [Bitmap.clear, Packed.toBytes_pad, Packed.toBytes_empty, List.nil_append,
    List.getD_eq_getElem?_getD, List.getElem?_replicate]
  split <;> rfl

/-- What is made is a file without blocks. -/
theorem eq_fresh_of_createEmpty (h : perform (createEmpty path blockSize totalBlocks) disk = (.ok file, after)) :
    ∃ id made, disk.create path = .ok (id, made) ∧ file = fresh path id blockSize totalBlocks := by
  unfold createEmpty at h
  rw [Action.perform_bind_ok (Action.perform_get disk)] at h
  obtain ⟨⟨id, made⟩, _, hcreate, h⟩ := perform_bind_inv h
  obtain ⟨_, _, -, h⟩ := perform_bind_inv h
  obtain ⟨map, _, hmap, h⟩ := perform_bind_inv h
  obtain ⟨_, _, -, h⟩ := perform_bind_inv h
  obtain ⟨_, _, -, h⟩ := perform_bind_inv h
  obtain rfl := newMap_inv (Prod.mk.inj hmap).1
  refine ⟨id, made, Action.mapError_eq_ok_iff.mp (Prod.mk.inj hcreate).1, ?_⟩
  cases hlength : expectedLength? blockSize totalBlocks with
  | none =>
    rw [hlength] at h
    cases h
  | some length =>
    rw [hlength] at h
    obtain ⟨_, _, -, h⟩ := perform_bind_inv h
    cases h
    rfl

/-- **Where a file is made it is filled without blocks, and nothing else is changed**; where none can be made,
nothing is. -/
theorem createEmpty_end (hsound : disk.Sound) {result : Except OverlayError ChangeFile}
    (h : perform (createEmpty path blockSize totalBlocks) disk = (result, after)) :
    (∃ error, result = .error error) ∧ after = disk
      ∨ ∃ id made, disk.create path = .ok (id, made) ∧ Disk.ChangesOnly id made after
        ∧ Blank after id
        ∧ ∀ file, result = .ok file → file = fresh path id blockSize totalBlocks := by
  have hrun := h
  rw [createEmpty, Action.perform_bind_ok (Action.perform_get disk), Action.perform_bind,
    Action.perform_ofExcept] at hrun
  cases hcreate : disk.create path with
  | error cause =>
    rw [hcreate] at hrun
    cases hrun
    exact .inl ⟨⟨_, rfl⟩, rfl⟩
  | ok created =>
    obtain ⟨id, made⟩ := created
    have hfile : made.IsFile id := (hsound.create hcreate).isFile (Disk.lookupFile_create hcreate)
    have hblank : Blank made id := by
      intro i _
      rw [Disk.content_create hsound hcreate]
      rfl
    have hfresh : ∀ file, result = .ok file → file = fresh path id blockSize totalBlocks := by
      rintro file rfl
      obtain ⟨_, _, hmade, hfile⟩ := eq_fresh_of_createEmpty h
      cases hcreate.symm.trans hmade
      exact hfile
    rw [hcreate] at hrun
    change perform (set made >>= fun _ => _) disk = _ at hrun
    rw [Action.perform_bind_ok (Action.perform_set disk made), Action.perform_bind,
      Action.perform_ofExcept] at hrun
    suffices hfills : Fills id made after from
      .inr ⟨id, made, rfl, hfills.changes, hfills.blank hfile hblank, hfresh⟩
    cases hnew : newMap totalBlocks with
    | error error =>
      rw [hnew] at hrun
      cases hrun
      exact Std.Refl.refl _
    | ok map =>
      rw [hnew] at hrun
      obtain rfl := newMap_inv hnew
      refine Respects.of_perform (Respects.bind (fills_header _ _) fun _ => .bind (fills_map _) fun _ => ?_) hrun
      -- a length that overflows leaves header and map where they are
      cases expectedLength? blockSize totalBlocks with
      | none => exact .throw _
      | some length => exact .bind (onDisk_fills fun _ _ => fills_setLength) fun _ => .pure _

/-! ### Opening or making -/

/-- A file that was opened or made at a path when the disk was `disk`: it holds what was there, and if it was
there before, it is only foreign by its length. -/
structure Opened (path : String) (blockSize totalBlocks : Nat) (disk after : Disk) (file : ChangeFile) :
    Prop where
  isFile : after.IsFile file.file
  blockSize_eq : file.blockSize = blockSize
  totalBlocks_eq : file.totalBlocks = totalBlocks
  positions : file.map.length = file.totalBlocks
  clean : file.dirty = false
  short : Foreign blockSize totalBlocks disk file.file →
    disk.length file.file < wholeLength blockSize totalBlocks
  stored_eq : ∀ block, block < totalBlocks →
    file.stored after block = held disk path blockSize totalBlocks block

/-- How the opening of a path ends: foreign files are spared, a store that is had is the one at the path, and
where no block was held none is. -/
structure Ends (path : String) (blockSize totalBlocks : Nat) (disk after : Disk)
    (result : Except OverlayError ChangeFile) : Prop where
  spares : Spares blockSize totalBlocks disk after
  opened : ∀ file, result = .ok file → Opened path blockSize totalBlocks disk after file
  silent : Silent path blockSize totalBlocks disk → Silent path blockSize totalBlocks after

theorem Ends.of_error {error : OverlayError} (hspares : Spares blockSize totalBlocks disk after)
    (hsilent : Silent path blockSize totalBlocks disk → Silent path blockSize totalBlocks after) :
    Ends path blockSize totalBlocks disk after (.error error) := by
  refine ⟨hspares, ?_, hsilent⟩
  intro file hok
  cases hok

theorem init_end (hsound : disk.Sound) {result : Except OverlayError ChangeFile}
    (h : perform (init path blockSize totalBlocks) disk = (result, after)) :
    Ends path blockSize totalBlocks disk after result := by
  obtain rfl : after = disk := (init_disk _ _ _).of_perform h
  refine ⟨.refl _, ?_, fun hsilent => hsilent⟩
  rintro file rfl
  obtain ⟨-, hfound⟩ := init_inv h
  refine ⟨hsound.isFile hfound.found, hfound.blockSize_eq, hfound.totalBlocks_eq, hfound.positions,
    hfound.clean, fun hforeign => hforeign.other.resolve_left fun hne => hne hfound.header, ?_⟩
  intro block hblock
  rw [held, h]
  exact (if_pos hblock).symm

/-- A file that is made takes the place of nothing, or of an empty file. -/
theorem foreign_ne_of_create (hvacant : ∀ n, disk.size path ≠ .ok (n + 1)) {made : Disk}
    (hcreate : disk.create path = .ok (id, made)) {asked : FileId}
    (hforeign : Foreign blockSize totalBlocks disk asked) : asked ≠ id := by
  rintro rfl
  obtain ⟨place, hresolve, hslash, ⟨hnode, -⟩ | ⟨-, rfl, -⟩⟩ := Disk.create_inv hcreate
  · have hsize := Disk.size_of_lookupFile
      (Disk.lookupFile_eq_ok_iff.mpr ⟨place, hresolve, hnode, hslash⟩)
    have hlength := hforeign.nonempty
    obtain ⟨n, hn⟩ := Nat.exists_eq_succ_of_ne_zero (Nat.ne_of_gt hlength)
    rw [hn] at hsize
    exact hvacant n hsize
  · exact Nat.lt_irrefl _ (Disk.isFile_of_length_pos hforeign.nonempty)

theorem createEmpty_ends (hsound : disk.Sound) (hvacant : ∀ n, disk.size path ≠ .ok (n + 1))
    {result : Except OverlayError ChangeFile}
    (h : perform (createEmpty path blockSize totalBlocks) disk = (result, after)) :
    Ends path blockSize totalBlocks disk after result := by
  rcases createEmpty_end hsound h with
    ⟨⟨error, rfl⟩, rfl⟩ | ⟨id, made, hcreate, hchanges, hblank, hfresh⟩
  · exact .of_error (.refl _) fun hsilent => hsilent
  · have hfound := Disk.lookupFile_create hcreate
    have hmade := hsound.create hcreate
    have hne : ∀ {asked : FileId}, Foreign blockSize totalBlocks disk asked → asked ≠ id :=
      foreign_ne_of_create hvacant hcreate
    refine ⟨⟨fun _ => hchanges.sound hmade,
        fun hbounded => hchanges.bounded (hbounded.create hcreate), ?_⟩, ?_,
      fun _ => silent_of_blank (hchanges.keeps.lookupFile hfound) hblank⟩
    · intro asked hforeign
      rw [hchanges.data_eq asked (hne hforeign), Disk.data_create_of_ne hcreate (hne hforeign)]
    · rintro file rfl
      obtain rfl := hfresh file rfl
      refine ⟨(hchanges.isFile_iff id).mpr (hmade.isFile hfound), rfl, rfl, rfl, rfl,
        fun hforeign => absurd rfl (hne hforeign), ?_⟩
      intro block _
      rw [stored_fresh, silent_of_vacant hvacant]

/-- **Whatever is under a path, opening or making a change file there leaves what is foreign**, and a store
that is had holds what the path held. -/
theorem create_ends (hsound : disk.Sound) {result : Except OverlayError ChangeFile}
    (h : perform (create path blockSize totalBlocks) disk = (result, after)) :
    Ends path blockSize totalBlocks disk after result := by
  by_cases hsize : ∃ n, disk.size path = .ok (n + 1)
  · obtain ⟨n, hsize⟩ := hsize
    rw [perform_create_of_size hsize] at h
    exact init_end hsound h
  · have hvacant : ∀ n, disk.size path ≠ .ok (n + 1) := fun n hn => hsize ⟨n, hn⟩
    rw [perform_create_of_vacant hvacant] at h
    exact createEmpty_ends hsound hvacant h

/-! ### Attaching -/

/-- A file whose map is saved leaves no trace, whether it is kept or let go of. -/
theorem perform_verifyStore (hclean : file.dirty = false) (disk : Disk) :
    perform (verifyStore file) disk
      = ((verdict file.blockSize file.totalBlocks (disk.length file.file)).map fun _ => file, disk) := by
  have hdrop : (drop file).run disk = ((), disk) := by
    show ((), (perform sync (file, disk)).2.2) = _
    rw [perform_sync_of_saved hclean]
  have hverify : perform (Overlay.verify (O := ChangeFile)) (file, disk) = _ := perform_verify file disk
  rw [Overlay.perform_verifyStore, hverify]
  cases verdict file.blockSize file.totalBlocks (disk.length file.file) with
  | error error =>
    show (_, ((drop file).run disk).2) = _
    rw [hdrop]
    rfl
  | ok done => rfl

/-- **A store that is attached has its whole length, holds what was at the path, and nothing that is foreign was
touched for it.** -/
theorem makeOverlay_ends (hsound : disk.Sound) (setup : Overlay.Setup ChangeFile)
    {result : Except OverlayError ChangeFile}
    (h : perform (makeOverlay setup path blockSize totalBlocks) disk = (result, after)) :
    Ends path blockSize totalBlocks disk after result
      ∧ ∀ file, result = .ok file → Spans blockSize totalBlocks (after.length file.file) := by
  rw [makeOverlay, Action.perform_bind] at h
  rcases hcreate : perform (create path blockSize totalBlocks) disk with ⟨created, reached⟩
  have hends := create_ends hsound hcreate
  rw [show perform (Overlay.create setup path blockSize totalBlocks) disk = (created, reached)
    from hcreate] at h
  cases created with
  | error error =>
    cases h
    exact ⟨.of_error hends.spares hends.silent, fun file hok => by cases hok⟩
  | ok store =>
    have hopened := hends.opened store rfl
    change perform (verifyStore store) reached = _ at h
    rw [perform_verifyStore hopened.clean, hopened.blockSize_eq, hopened.totalBlocks_eq] at h
    obtain ⟨hresult, rfl⟩ := Prod.mk.inj h
    cases hverdict : verdict blockSize totalBlocks (reached.length store.file) with
    | error error =>
      rw [hverdict] at hresult
      subst hresult
      exact ⟨.of_error hends.spares hends.silent, fun file hok => by cases hok⟩
    | ok done =>
      rw [hverdict] at hresult
      subst hresult
      refine ⟨hends, ?_⟩
      rintro file hok
      cases hok
      exact verdict_eq_ok_iff.mp hverdict

end ChangeFile

end PartitionImage
