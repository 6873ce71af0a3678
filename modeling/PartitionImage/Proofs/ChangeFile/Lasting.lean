import PartitionImage.Proofs.ChangeFile.Attached
import PartitionImage.Proofs.ChangeFile.Sessions
/-!
# Change files that last beside an image

Between two handles a change file is at rest: nothing has been made yet, or it is whole and can be opened with its
blocks.  A handle takes it from there, and leaves it at rest again.

* `ChangeFile.Moved` and `ChangeFile.Lasts` are what the operations of an open file leave: only the cursor is
  different, or the file can be opened again.
* `ChangeFile.AtRest` is a path between two handles, `ChangeFile.Carries` and `ChangeFile.Lent` what a handle has of
  it.
* `ChangeFile.AtRest.init` opens the path, `ChangeFile.refines_of_unmade` makes the file, and `ChangeFile.Lent.rest`
  lets go of it.
-/

namespace PartitionImage

open PartitionImage.Action (Respects Maintains perform perform_bind_inv perform_bind_ok)

namespace ChangeFile

variable {path : String} {blockSize totalBlocks : Nat} {blocks other : Nat → Option Bytes}
  {state : ChangeFile × Disk} {table : BlockTable} {file : ChangeFile} {overlay : Option ChangeFile}
  {disk after : Disk} {id : FileId}

/-! ### Operations of an open file -/

/-- Nothing is different but the place of the cursor. -/
def Moved (before after : ChangeFile × Disk) : Prop :=
  ∃ cursor, after = ({ before.1 with cursor := cursor }, before.2)

instance : IsPreorder (ChangeFile × Disk) Moved where
  refl state := ⟨state.1.cursor, rfl⟩
  trans _ _ _ := by
    rintro ⟨_, rfl⟩ ⟨cursor, rfl⟩
    exact ⟨cursor, rfl⟩

/-- **What is asked of a file moves its cursor at most.** -/
theorem reads_moved : Overlay.Reads (O := ChangeFile) Moved := by
  refine ⟨fun block state => ?_, fun length state => ?_⟩
  · show Moved state (perform (ChangeFile.seek block) (state.1, state.2)).2
    rw [perform_seek]
    split
    · exact Std.Refl.refl state
    · exact ⟨block, rfl⟩
  · show Moved state ((ChangeFile.read length).run state).2
    cases hrefusal : state.1.refusal? length with
    | some error =>
      have hrun : (ChangeFile.read length).run state = (.failed error, state) := by
        simp only [ChangeFile.read, StateT.run_bind, StateT.run_get, pure_bind, hrefusal]
        rfl
      rw [hrun]
      exact Std.Refl.refl state
    | none =>
      have hrun : (ChangeFile.read length).run state = _ := run_read hrefusal state.2
      rw [hrun]
      split
      · split
        · exact Std.Refl.refl state
        split
        · exact Std.Refl.refl state
        · exact ⟨_, rfl⟩
      · exact ⟨_, rfl⟩

/-- An open file can be opened again with the blocks of some table, once it is let go of. -/
def Lasts (path : String) (blockSize totalBlocks : Nat) (state : ChangeFile × Disk) : Prop :=
  ∃ table, Refines path blockSize totalBlocks state table

instance (inv : ChangeFile × Disk → Prop) : IsPreorder (ChangeFile × Disk) (Maintains inv) where

/-- **Nothing that is done to a file ends that it can be opened again.** -/
theorem writes_lasts : Overlay.Writes (O := ChangeFile) (Maintains (Lasts path blockSize totalBlocks)) :=
  ⟨⟨fun block _ ⟨_, h⟩ => ⟨_, (h.seek block).2⟩, fun length _ ⟨_, h⟩ => ⟨_, (h.read length).2⟩⟩,
    fun block _ ⟨_, h⟩ => ⟨_, (h.write block).2⟩, fun _ ⟨_, h⟩ => ⟨_, h.sync.2⟩⟩

namespace Refines

theorem congr (h : Refines path blockSize totalBlocks state table)
    (hblocks : ∀ block, block < totalBlocks → table.blocks block = other block) :
    Refines path blockSize totalBlocks state ⟨other, table.cursor⟩ :=
  ⟨h.kept, h.fits, h.path_eq, h.blockSize_eq, h.totalBlocks_eq, h.cursor_eq,
    fun block hblock => (h.stored_eq block hblock).trans (hblocks block hblock)⟩

theorem beside (h : Refines path blockSize totalBlocks state table) (hbeside : Disk.Beside id state.2 after)
    (hne : state.1.file ≠ id) : Refines path blockSize totalBlocks (state.1, after) table := by
  have hcontent := hbeside.content_eq hne
  have hlength : after.length state.1.file = state.2.length state.1.file :=
    congrArg SparseBytes.size (hbeside.data_eq _ hne)
  refine ⟨⟨⟨hbeside.isFile _ h.kept.isFile, h.kept.positions, h.kept.reach, ?_⟩,
    hbeside.keeps.lookupFile h.kept.found, ?_, fun hsaved => ?_⟩, ?_, h.path_eq, h.blockSize_eq, h.totalBlocks_eq,
    h.cursor_eq, fun block hblock => ?_⟩
  · exact Nat.le_trans h.kept.room (Nat.le_of_eq hlength.symm)
  · show Header.decode? ((after.content state.1.file).slice 0 headerSize) = _
    rw [hcontent]
    exact h.kept.header
  · show (after.content state.1.file).slice headerSize _ = _
    rw [hcontent]
    exact h.kept.saved hsaved
  · show Fits _ _ after.sizeLimit
    rw [hbeside.sizeLimit_eq]
    exact h.fits
  · rw [← h.stored_eq block hblock, stored, stored, hcontent]

theorem found (h : Refines path blockSize totalBlocks (file, disk) table) : disk.lookupFile path = .ok file.file := by
  rw [← h.path_eq]
  exact h.kept.found

theorem shows (h : Refines path blockSize totalBlocks (file, disk) ⟨blocks, file.cursor⟩) :
    Overlay.Shows file disk blockSize totalBlocks blocks := by
  have hshows := ChangeFile.shows h.kept.reach h.kept.room
  rw [h.blockSize_eq, h.totalBlocks_eq] at hshows
  obtain ⟨whole, hwhole, hserves⟩ := hshows
  refine ⟨whole, hwhole, hserves.seek, fun hstore hblock hseek => ?_⟩
  obtain ⟨transfer, reached, hread, hreached, hanswers⟩ := hserves.read hstore hblock hseek
  rw [show file.stored disk _ = blocks _ from h.stored_eq _ hblock] at hanswers
  exact ⟨transfer, reached, hread, hreached, hanswers⟩

end Refines

/-! ### Nothing made yet -/

/-- Under `path` there is no file that holds something. -/
def Unmade (path : String) (disk : Disk) : Prop := ∀ id, disk.lookupFile path = .ok id → disk.content id = []

theorem Unmade.init_ne (h : Unmade path disk) : perform (init path blockSize totalBlocks) disk ≠ (.ok file, after) := by
  intro hopen
  obtain ⟨-, hfound⟩ := init_inv hopen
  have hheader := hfound.header
  rw [h _ hfound.found] at hheader
  cases hheader

theorem Unmade.silent (h : Unmade path disk) : Silent path blockSize totalBlocks disk := by
  rcases hopen : perform (init path blockSize totalBlocks) disk with ⟨result, reached⟩
  cases result with
  | ok file => exact absurd hopen h.init_ne
  | error error => exact silent_of_error (congrArg Prod.fst hopen)

theorem fits_of_createEmpty (hblock : blockSize < Bytes.capacity 4)
    (h : perform (createEmpty path blockSize totalBlocks) disk = (.ok file, after)) :
    Fits blockSize totalBlocks disk.sizeLimit := by
  have honDisk : ∀ {change : Disk → Except IoError Disk} {before reached : Disk} {done : Unit},
      perform (onDisk change) before = (.ok done, reached) → change before = .ok reached := by
    intro change before reached done hrun
    rw [onDisk, perform_bind_ok (Action.perform_get _)] at hrun
    obtain ⟨next, _, hchange, hrun⟩ := perform_bind_inv hrun
    cases hrun
    exact Action.mapError_eq_ok_iff.mp (Prod.mk.inj hchange).1
  rw [createEmpty, perform_bind_ok (Action.perform_get disk)] at h
  obtain ⟨⟨id, made⟩, _, hmade, h⟩ := perform_bind_inv h
  obtain ⟨hcreated, rfl⟩ := Prod.mk.inj hmade
  have hcreate := Action.mapError_eq_ok_iff.mp hcreated
  dsimp only at h
  rw [perform_bind_ok (Action.perform_set _ _)] at h
  obtain ⟨map, _, hmap, h⟩ := perform_bind_inv h
  obtain ⟨hnewMap, rfl⟩ := Prod.mk.inj hmap
  obtain ⟨_, headed, hheader, h⟩ := perform_bind_inv h
  obtain ⟨_, mapped, hstored, h⟩ := perform_bind_inv h
  cases hexpected : expectedLength? blockSize totalBlocks with
  | none =>
    rw [hexpected] at h
    cases h
  | some length =>
  rw [hexpected] at h
  obtain ⟨-, rfl⟩ := checked64?_eq_some_iff.mp hexpected
  obtain ⟨_, sized, hlength, h⟩ := perform_bind_inv h
  have hmemory : bytesForBits totalBlocks < allocationLimit := by
    have hnew := Action.mapError_eq_ok_iff.mp hnewMap
    unfold Bitmap.new at hnew
    split at hnew
    · next hfits => exact hfits
    · cases hnew
  have hroom := (mapped.lengthRefusal?_eq_none_iff _).mp
    ((mapped.setLength_eq_ok_iff id _ sized).mp (honDisk hlength)).1
  rw [(Disk.changesOnly_write (honDisk hstored)).sizeLimit_eq, (Disk.changesOnly_write (honDisk hheader)).sizeLimit_eq,
    Disk.sizeLimit_create hcreate] at hroom
  exact ⟨hblock, hmemory, hroom.1, hroom.2⟩

/-- **A file that is made where there was none has no blocks, and lasts.** -/
theorem refines_of_unmade (hsound : disk.Sound) (hunmade : Unmade path disk) (hblock : blockSize < Bytes.capacity 4)
    {setup : Overlay.Setup ChangeFile}
    (hmake : perform (makeOverlay setup path blockSize totalBlocks) disk = (.ok file, after)) :
    Refines path blockSize totalBlocks (file, after) ⟨fun _ => none, 0⟩
      ∧ ∃ made, disk.create path = .ok (file.file, made) ∧ Disk.ChangesOnly file.file made after := by
  obtain ⟨store, reached, hcreate, hkeep⟩ := perform_bind_inv hmake
  have hcreate : perform (create path blockSize totalBlocks) disk = (.ok store, reached) := hcreate
  have hvacant : ∀ n, disk.size path ≠ .ok (n + 1) := by
    intro n hsize
    rw [perform_create_of_size hsize] at hcreate
    exact hunmade.init_ne hcreate
  rw [perform_create_of_vacant hvacant] at hcreate
  rcases createEmpty_end hsound hcreate with
    ⟨⟨error, herror⟩, -⟩ | ⟨id, made, hmade, hchanges, -, hfresh⟩
  · cases herror
  obtain rfl := hfresh store rfl
  obtain ⟨reached', hrun, hkept, hlimit⟩ := perform_createEmpty hsound hmade (fits_of_createEmpty hblock hcreate)
  obtain ⟨-, rfl⟩ := Prod.mk.inj (hrun.symm.trans hcreate)
  rw [perform_verifyStore rfl] at hkeep
  obtain ⟨hresult, rfl⟩ := Prod.mk.inj hkeep
  rw [verdict_eq_ok_iff.mpr ⟨wholeLength_lt_of_reach hkept.reach, hkept.room⟩] at hresult
  cases hresult
  refine ⟨⟨hkept, hlimit ▸ fits_of_createEmpty hblock hcreate, rfl, rfl, rfl, rfl,
    fun block _ => stored_fresh _ block⟩, made, hmade, hchanges⟩

/-! ### From one handle to the next -/

/-- A path between two handles: nothing has been made there yet, or it can be opened with the blocks of a map. -/
inductive AtRest (path : String) (blockSize totalBlocks : Nat) (blocks : Nat → Option Bytes) (disk : Disk) : Prop
  | unmade (hunmade : Unmade path disk) (hnone : ∀ block, block < totalBlocks → blocks block = none)
  | closed (hclosed : Closed path blockSize totalBlocks blocks disk)

/-- An overlay that has the blocks of a map.  Where there is no overlay there are no blocks. -/
structure Carries (path : String) (blockSize totalBlocks : Nat) (blocks : Nat → Option Bytes)
    (overlay : Option ChangeFile) (disk : Disk) : Prop where
  none_eq : overlay = none → ∀ block, block < totalBlocks → blocks block = none
  refines : ∀ file, overlay = some file → Refines path blockSize totalBlocks (file, disk) ⟨blocks, file.cursor⟩

/-- An overlay with the blocks of a map as a handle has it.  Where there is no overlay nothing has been made. -/
structure Lent (path : String) (blockSize totalBlocks : Nat) (blocks : Nat → Option Bytes)
    (overlay : Option ChangeFile) (disk : Disk) : Prop
    extends Carries path blockSize totalBlocks blocks overlay disk where
  unmade : overlay = none → Unmade path disk

theorem Carries.of_refines (h : Refines path blockSize totalBlocks (file, disk) ⟨blocks, file.cursor⟩) :
    Carries path blockSize totalBlocks blocks (some file) disk :=
  ⟨fun hnone => (nomatch hnone), fun _ hfile => Option.some.inj hfile ▸ h⟩

theorem Lent.of_refines (h : Refines path blockSize totalBlocks (file, disk) ⟨blocks, file.cursor⟩) :
    Lent path blockSize totalBlocks blocks (some file) disk :=
  ⟨.of_refines h, fun hnone => (nomatch hnone)⟩

theorem Carries.length_eq (h : Carries path blockSize totalBlocks blocks overlay disk) {block : Nat}
    (hblock : block < totalBlocks) {bytes : Bytes} (hbytes : blocks block = some bytes) :
    bytes.length = blockSize := by
  cases hoverlay : overlay with
  | none =>
    rw [h.none_eq hoverlay block hblock] at hbytes
    cases hbytes
  | some file =>
    have hfile := h.refines file hoverlay
    have hstored := (hfile.stored_eq block hblock).trans hbytes
    have htotal : file.totalBlocks = totalBlocks := hfile.totalBlocks_eq
    have hslot := slotStart_add_le (htotal ▸ hblock : block < file.totalBlocks)
    unfold stored at hstored
    split at hstored
    · obtain rfl := Option.some.inj hstored
      rw [Bytes.length_slice_of_le (Nat.le_trans hslot (Disk.length_eq disk file.file ▸ hfile.kept.room))]
      exact hfile.blockSize_eq
    · cases hstored

theorem Carries.beside (h : Carries path blockSize totalBlocks blocks overlay disk)
    (hbeside : Disk.Beside id disk after) (hne : ∀ file, overlay = some file → file.file ≠ id) :
    Carries path blockSize totalBlocks blocks overlay after :=
  ⟨h.none_eq, fun file hfile => (h.refines file hfile).beside hbeside (hne file hfile)⟩

theorem Carries.moved (h : Carries path blockSize totalBlocks blocks overlay disk) {reached : Option ChangeFile}
    (hmoved : Overlay.Used Moved (overlay, disk) (reached, after)) :
    Carries path blockSize totalBlocks blocks reached after ∧ after = disk := by
  cases hmoved with
  | none => exact ⟨h, rfl⟩
  | some hmoved =>
    obtain ⟨cursor, hmoved⟩ := hmoved
    cases hmoved
    exact ⟨.of_refines ((h.refines _ rfl).moved cursor), rfl⟩

/-- What is held before a write is what the overlay has. -/
theorem Lent.prior_eq {ground : Ground}
    (h : Lent ground.path ground.blockSize ground.totalBlocks blocks overlay disk) {block : Nat}
    (hblock : block < ground.totalBlocks) : ground.prior overlay disk block = blocks block := by
  cases overlay with
  | some file => exact (h.refines file rfl).stored_eq block hblock
  | none =>
    rw [h.none_eq rfl block hblock]
    exact (h.unmade rfl).silent block

/-- **Opening a path at rest finds its blocks**, or that nothing has been made. -/
theorem AtRest.init (h : AtRest path blockSize totalBlocks blocks disk) :
    ∃ result, perform (init path blockSize totalBlocks) disk = (result, disk)
      ∧ Lent path blockSize totalBlocks blocks result.toOption disk
      ∧ ∀ file, result = .ok file → file.dirty = false
        ∧ Spans file.blockSize file.totalBlocks (disk.length file.file) := by
  cases h with
  | unmade hunmade hnone =>
    rcases hopen : perform (ChangeFile.init path blockSize totalBlocks) disk with ⟨result, reached⟩
    obtain rfl : reached = disk := (init_disk _ _ _).of_perform hopen
    cases result with
    | ok file => exact absurd hopen hunmade.init_ne
    | error error =>
      exact ⟨_, rfl, ⟨⟨fun _ => hnone, fun file hfile => (nomatch hfile)⟩, fun _ => hunmade⟩,
        fun file hok => (nomatch hok)⟩
  | closed hclosed =>
    obtain ⟨file, hopen, hfile⟩ := hclosed.opened .init
    have hopen : perform (ChangeFile.init path blockSize totalBlocks) disk = (.ok file, disk) := hopen
    obtain ⟨-, hfound⟩ := init_inv hopen
    have hcursor : file.cursor = 0 := hfile.cursor_eq
    refine ⟨_, hopen, .of_refines (hcursor ▸ hfile), fun other hother => ?_⟩
    cases hother
    exact ⟨hfound.clean, hfile.spans⟩

/-- **A handle leaves the path at rest.** -/
theorem Lent.rest (h : Lent path blockSize totalBlocks blocks overlay disk) :
    AtRest path blockSize totalBlocks blocks (Overlay.released overlay disk) := by
  cases overlay with
  | none => exact .unmade (h.unmade rfl) (h.none_eq rfl)
  | some file => exact .closed ((h.refines file rfl).leave .finish).2

/-- **A write that has been stored is in the map**, over what was lent before. -/
theorem Lent.of_stores {ground : Ground}
    (h : Lent ground.path ground.blockSize ground.totalBlocks blocks overlay disk)
    (hlasts : Lasts ground.path ground.blockSize ground.totalBlocks (file, after)) {cursor count : Nat} {data : Bytes}
    (hstores : ground.Stores (ground.prior overlay disk) (Ground.stored (some file) after) cursor count data) :
    Lent ground.path ground.blockSize ground.totalBlocks
      (Ground.replaced blocks ground.blockSize cursor count data) (some file) after := by
  obtain ⟨table, hfile⟩ := hlasts
  have hstores := hstores.congr fun block hblock => h.prior_eq hblock
  have hcursor : file.cursor = table.cursor := hfile.cursor_eq
  refine .of_refines (hcursor ▸ hfile.congr fun block hblock => ?_)
  rw [← hfile.stored_eq block hblock]
  exact hstores.stored_eq block hblock

end ChangeFile

end PartitionImage
