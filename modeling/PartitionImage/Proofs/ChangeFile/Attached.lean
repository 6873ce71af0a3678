import PartitionImage.OpenOptions
import PartitionImage.Proofs.ChangeFile.Opening
/-!
# Change files beside an image

A handle reads from a source and keeps its changes in a change file.  The two do not meet: the bytes behind the
source are foreign to every change file that could be attached, so that no write of a handle reaches them.

* `OpenMode.settles` tells the modes in which a change file that is there is attached by verification.
* `Ground` is what does not change while a handle is used.
* `Ground.Safe` says that the bytes behind the source are as they were, `Ground.Guards` that the change file is
  also whole and apart from them.
* `ChangeFile.Step` is what an operation of an open change file leaves, `Ground.Guards.step` that the guard stands.
* `Ground.Safe.attach` is a change file that is attached.
* `Ground.Guards.stored_write` is the write of a block, `Ground.Guards.shown_after` what is read after a run of
  them.
* `ChangeFile.adopted` is what a first write takes over from a change file that no read was asked of before.
-/

namespace PartitionImage

open PartitionImage.Action (Respects perform perform_bind_inv)

/-! ### Operations of an open file -/

namespace ChangeFile

/-- What an operation of an open file leaves: it is the same file, still whole, and no other one is changed. -/
structure Step (before after : ChangeFile × Disk) : Prop where
  file_eq : after.1.file = before.1.file
  blockSize_eq : after.1.blockSize = before.1.blockSize
  totalBlocks_eq : after.1.totalBlocks = before.1.totalBlocks
  changes : Disk.ChangesOnly before.1.file before.2 after.2
  whole : before.1.Whole before.2 → after.1.Whole after.2

theorem Step.refl (state : ChangeFile × Disk) : Step state state :=
  ⟨rfl, rfl, rfl, .refl _ _, fun h => h⟩

theorem Step.trans {a b c : ChangeFile × Disk} (hab : Step a b) (hbc : Step b c) : Step a c :=
  ⟨hbc.file_eq.trans hab.file_eq, hbc.blockSize_eq.trans hab.blockSize_eq,
    hbc.totalBlocks_eq.trans hab.totalBlocks_eq, hab.changes.trans (hab.file_eq ▸ hbc.changes),
    fun h => hbc.whole (hab.whole h)⟩

instance : Std.Refl Step := ⟨Step.refl⟩

instance : Trans Step Step Step := ⟨Step.trans⟩

instance : IsPreorder (ChangeFile × Disk) Step where

theorem step_cursor (file : ChangeFile) (disk : Disk) (cursor : Nat) :
    Step (file, disk) ({ file with cursor := cursor }, disk) :=
  ⟨rfl, rfl, rfl, .refl _ _, fun h => ⟨h.isFile, h.positions, h.reach, h.room⟩⟩

theorem seek_step (block : Nat) : Respects Step (seek block) := by
  rintro ⟨file, disk⟩
  rw [perform_seek]
  split
  · exact .refl _
  · exact step_cursor file disk block

theorem read_step (length : Nat) (state : ChangeFile × Disk) :
    Step state ((read length).run state).2 := by
  obtain ⟨file, disk⟩ := state
  cases hrefusal : file.refusal? length with
  | some error =>
    have hrun : (read length).run (file, disk) = (.failed error, file, disk) := by
      simp only [read, StateT.run_bind, StateT.run_get, pure_bind, hrefusal]
      rfl
    rw [hrun]
    exact .refl _
  | none =>
    rw [run_read hrefusal]
    split
    · split
      · exact .refl _
      split
      · exact .refl _
      · exact step_cursor file disk _
    · exact step_cursor file disk _

theorem step_write {file after : ChangeFile} {disk written : Disk} {offset : Nat} {bytes : Packed}
    (h : disk.write file.file offset bytes = .ok written) (hfile : after.file = file.file)
    (hblockSize : after.blockSize = file.blockSize) (htotal : after.totalBlocks = file.totalBlocks)
    (hmap : after.map.length = file.map.length) : Step (file, disk) (after, written) := by
  refine ⟨hfile, hblockSize, htotal, Disk.changesOnly_write h, fun hwhole => ?_⟩
  have hkept := hwhole.write h
  refine ⟨?_, ?_, ?_, ?_⟩
  · rw [hfile]
    exact hkept.isFile
  · rw [hmap, htotal]
    exact hwhole.positions
  · rw [hblockSize, htotal]
    exact hwhole.reach
  · rw [hblockSize, htotal, hfile]
    exact hkept.room

theorem write_step (block : Bytes) : Respects Step (write block) := by
  rintro ⟨file, disk⟩
  rw [perform_write]
  split
  · exact .refl _
  split
  · exact .refl _
  split
  · exact .refl _
  · next hwrite => exact step_write hwrite rfl rfl rfl file.length_map_marked

theorem sync_step : Respects Step sync := by
  refine .bind .get fun state => ?_
  obtain ⟨file, disk⟩ := state
  dsimp only
  split
  · rintro ⟨file, disk⟩
    rw [writeMap, Action.perform_bind_ok (Action.perform_get _)]
    dsimp only
    cases hwrite : disk.write file.file headerSize file.map.bytes with
    | error error => exact .refl _
    | ok after => exact step_write hwrite rfl rfl rfl rfl
  · exact .pure _

/-- **Every operation of an open file is a `Step`.** -/
theorem writes_step : Overlay.Writes (O := ChangeFile) Step := ⟨⟨seek_step, read_step⟩, write_step, sync_step⟩

end ChangeFile

/-! ### What does not change -/

/-- Whether a change file that is there is attached by verification: where one is configured, or has to be. -/
def OpenMode.settles (mode : OpenMode) (overlayPath : Option String) : Bool :=
  match mode with
  | .readOnly => false
  | .readWrite => overlayPath.isSome
  | .create => true

/-- The block that a first write takes over from a change file beside the image: no overlay is attached yet, and
none is configured that verification would have opened. -/
def ChangeFile.adopted (options : OpenOptions) (path : String) (overlay : Option ChangeFile) (disk : Disk)
    (blockSize totalBlocks block : Nat) : Option Bytes :=
  if overlay.isNone = true ∧ options.mode = .readWrite ∧ options.overlay = none then
    held disk (defaultOverlayPath path) blockSize totalBlocks block
  else none

/-- What does not change while a handle is used. -/
structure Ground where
  source : Source
  /-- The disk when the source was opened. -/
  disk : Disk
  mode : OpenMode
  /-- The path of the overlay, if one was configured. -/
  configured : Option String
  path : String
  blockSize : Nat
  totalBlocks : Nat

namespace Ground

open ChangeFile

variable {ground : Ground} {source later : Source} {overlay : Option ChangeFile} {file : ChangeFile}
  {disk after : Disk}

/-- Whether a change file that was at the path is attached by now. -/
def settled (ground : Ground) : Bool := ground.mode.settles ground.configured

/-- The file behind the source, if anything can be read from it. -/
def file? (ground : Ground) : Option FileId :=
  match ground.source.backing with
  | .file id => if 0 < ground.totalBlocks then some id else none
  | _ => none

theorem file?_eq_some_iff {id : FileId} :
    ground.file? = some id ↔ ground.source.backing = .file id ∧ 0 < ground.totalBlocks := by
  unfold file?
  split
  · next found hbacking =>
    rw [hbacking]
    split
    · next hblocks => simp [hblocks]
    · next hblocks => simp [hblocks]
  · next hother => exact ⟨fun h => (by cases h), fun h => absurd h.1 (hother id)⟩

/-- The bytes behind the source are as they were, and foreign to change files. -/
structure Safe (ground : Ground) (source : Source) (disk : Disk) : Prop where
  later : ground.source.Later source
  sound : disk.Sound
  bounded : disk.Bounded
  foreign : ∀ id, ground.file? = some id → Foreign ground.blockSize ground.totalBlocks disk id
  data_eq : ∀ id, ground.file? = some id → disk.data id = ground.disk.data id

/-- A change file that is attached: whole, of the right geometry, and not the file behind the source. -/
structure Attached (ground : Ground) (disk : Disk) (file : ChangeFile) : Prop
    extends Whole file disk where
  blockSize_eq : file.blockSize = ground.blockSize
  totalBlocks_eq : file.totalBlocks = ground.totalBlocks
  apart : ground.file? ≠ some file.file

/-- The source of a handle is safe from its overlay.  Without an overlay, none that holds a block was passed
over. -/
structure Guards (ground : Ground) (source : Source) (overlay : Option ChangeFile) (disk : Disk) : Prop
    extends Safe ground source disk where
  attached : ∀ file, overlay = some file → Attached ground disk file
  silent : ground.settled = true → overlay = none →
    Silent ground.path ground.blockSize ground.totalBlocks disk

/-- A read of the source gives the same on another disk that it is safe on. -/
theorem Safe.readExact_eq (h : ground.Safe source disk) (hafter : ground.Safe source after)
    (hblocks : 0 < ground.totalBlocks) (offset n : Nat) :
    source.readExact after offset n = source.readExact disk offset n := by
  refine Source.readExact_unchanged (fun id hbacking => ?_) offset n
  have hid : ground.file? = some id := file?_eq_some_iff.mpr ⟨h.later.backing.symm.trans hbacking, hblocks⟩
  exact (hafter.data_eq id hid).trans (h.data_eq id hid).symm

theorem Safe.read (h : ground.Safe source disk) (hlater : source.Later later) :
    ground.Safe later disk :=
  ⟨h.later.trans hlater, h.sound, h.bounded, h.foreign, h.data_eq⟩

theorem Guards.read (h : ground.Guards source overlay disk) (hlater : source.Later later) :
    ground.Guards later overlay disk :=
  ⟨h.toSafe.read hlater, h.attached, h.silent⟩

/-! ### The overlay is used -/

/-- **What is done to the overlay leaves the source.** -/
theorem Guards.step (h : ground.Guards source (some file) disk) {reached : ChangeFile × Disk}
    (hstep : Step (file, disk) reached) : ground.Guards source (some reached.1) reached.2 := by
  have hfile := h.attached file rfl
  have hdata : ∀ id, ground.file? = some id → reached.2.data id = disk.data id := by
    intro id hid
    refine hstep.changes.data_eq id ?_
    rintro rfl
    exact hfile.apart hid
  refine ⟨⟨h.later, hstep.changes.sound h.sound, hstep.changes.bounded h.bounded,
    fun id hid => (h.foreign id hid).congr (hdata id hid),
    fun id hid => (hdata id hid).trans (h.data_eq id hid)⟩, ?_, fun _ hnone => by cases hnone⟩
  intro other hother
  obtain rfl := Option.some.inj hother
  refine ⟨hstep.whole hfile.toWhole, hstep.blockSize_eq.trans hfile.blockSize_eq,
    hstep.totalBlocks_eq.trans hfile.totalBlocks_eq, ?_⟩
  rw [hstep.file_eq]
  exact hfile.apart

theorem Guards.used (h : ground.Guards source overlay disk) (hlater : source.Later later)
    {reached : Option ChangeFile} (hused : Overlay.Used Step (overlay, disk) (reached, after)) :
    ground.Guards later reached after := by
  cases hused with
  | none => exact h.read hlater
  | some hstep => exact (h.step hstep).read hlater

/-- The blocks that an overlay holds; without one there are none. -/
def stored (overlay : Option ChangeFile) (disk : Disk) (block : Nat) : Option Bytes :=
  overlay.bind fun file => file.stored disk block

/-- **A block that is written is stored, and every other one is as it was.** -/
theorem Guards.stored_write (h : ground.Guards source (some file) disk) {cursor : Nat} {block : Bytes}
    {written : ChangeFile × Disk}
    (hwrite : perform (write block) ({ file with cursor := cursor }, disk) = (.ok (), written))
    {asked : Nat} (hasked : asked < ground.totalBlocks) :
    written.1.stored written.2 asked
      = if asked = cursor then some block else file.stored disk asked := by
  have hfile := h.attached file rfl
  have hwhole : Whole { file with cursor := cursor } disk :=
    (step_cursor file disk cursor).whole hfile.toWhole
  rw [perform_write] at hwrite
  split at hwrite
  · cases hwrite
  · next hrefusal =>
    obtain ⟨hlength, hcursor⟩ := refusal?_eq_none_iff.mp hrefusal
    split at hwrite
    · cases hwrite
    split at hwrite
    · cases hwrite
    · next hdisk =>
      cases hwrite
      exact hwhole.stored_write hcursor hlength hdisk (hfile.totalBlocks_eq ▸ hasked)

/-- What blocks are that are given one after the other, over what was there. -/
def replaced (before : Nat → Option Bytes) (blockSize cursor count : Nat) (data : Bytes) (block : Nat) :
    Option Bytes :=
  if cursor ≤ block ∧ block < cursor + count then
    some (data.slice ((block - cursor) * blockSize) blockSize)
  else before block

theorem replaced_zero (before : Nat → Option Bytes) (blockSize cursor : Nat) (data : Bytes) :
    replaced before blockSize cursor 0 data = before := by
  funext block
  rw [replaced, if_neg (by omega)]

theorem replaced_succ {before middle : Nat → Option Bytes} {blockSize cursor : Nat} {data : Bytes} {block : Nat}
    (hone : middle block = if block = cursor then some (data.take blockSize) else before block) (count : Nat) :
    replaced middle blockSize (cursor + 1) count (data.drop blockSize) block
      = replaced before blockSize cursor (count + 1) data block := by
  unfold replaced
  by_cases hfirst : block = cursor
  · rw [if_neg (by omega), if_pos (by omega), hone, if_pos hfirst, hfirst, Nat.sub_self, Nat.zero_mul,
      Bytes.slice, List.drop_zero]
  · by_cases hlater : cursor + 1 ≤ block ∧ block < cursor + 1 + count
    · have hnext : block - cursor = block - (cursor + 1) + 1 := by omega
      rw [if_pos hlater, if_pos (by omega), hnext, Nat.succ_mul, Bytes.slice, Bytes.slice, List.drop_drop,
        Nat.add_comm blockSize]
    · rw [if_neg hlater, if_neg (by omega), hone, if_neg hfirst]

/-- A run of blocks has been stored, all of them on the device. -/
structure Stores (ground : Ground) (before after : Nat → Option Bytes) (cursor count : Nat)
    (data : Bytes) : Prop where
  bound : ∀ block, cursor ≤ block → block < cursor + count → block < ground.totalBlocks
  stored_eq : ∀ block, block < ground.totalBlocks →
    after block = replaced before ground.blockSize cursor count data block

theorem Stores.zero (before : Nat → Option Bytes) (cursor : Nat) (data : Bytes) :
    ground.Stores before before cursor 0 data := by
  refine ⟨fun block _ _ => by omega, fun block _ => ?_⟩
  rw [replaced_zero]

theorem Stores.succ {before middle after : Nat → Option Bytes} {cursor count : Nat} {data : Bytes}
    (hcursor : cursor < ground.totalBlocks)
    (hone : ∀ block, block < ground.totalBlocks →
      middle block = if block = cursor then some (data.take ground.blockSize) else before block)
    (h : ground.Stores middle after (cursor + 1) count (data.drop ground.blockSize)) :
    ground.Stores before after cursor (count + 1) data := by
  refine ⟨fun block hfrom hto => ?_, fun block hblock => ?_⟩
  · rcases Nat.eq_or_lt_of_le hfrom with rfl | hlater
    · exact hcursor
    · exact h.bound block hlater (by omega)
  · rw [h.stored_eq block hblock, replaced_succ (hone block hblock)]

theorem Stores.congr {before prior after : Nat → Option Bytes} {cursor count : Nat} {data : Bytes}
    (h : ground.Stores before after cursor count data)
    (heq : ∀ block, block < ground.totalBlocks → before block = prior block) :
    ground.Stores prior after cursor count data := by
  refine ⟨h.bound, fun block hblock => ?_⟩
  rw [h.stored_eq block hblock, replaced, replaced, heq block hblock]

/-! ### An overlay is attached -/

/-- The blocks that an overlay holds, or would hold if it were attached now. -/
def prior (ground : Ground) (overlay : Option ChangeFile) (disk : Disk) (block : Nat) : Option Bytes :=
  match overlay with
  | some file => file.stored disk block
  | none => held disk ground.path ground.blockSize ground.totalBlocks block

theorem Safe.spared (h : ground.Safe source disk)
    (hspares : Spares ground.blockSize ground.totalBlocks disk after) : ground.Safe source after := by
  have hdata := fun id hid => hspares.data_eq id (h.foreign id hid)
  exact ⟨h.later, hspares.sound h.sound, hspares.bounded h.bounded,
    fun id hid => (h.foreign id hid).congr (hdata id hid),
    fun id hid => (hdata id hid).trans (h.data_eq id hid)⟩

/-- A change file that was opened and has its whole length is not the file behind the source. -/
theorem Safe.attached (h : ground.Safe source disk)
    (hspares : Spares ground.blockSize ground.totalBlocks disk after)
    (hopened : Opened ground.path ground.blockSize ground.totalBlocks disk after file)
    (hroom : wholeLength ground.blockSize ground.totalBlocks ≤ after.length file.file) :
    ground.Attached after file := by
  have hbounded := hspares.bounded h.bounded
  refine ⟨⟨hopened.isFile, hopened.positions, ?_, ?_⟩, hopened.blockSize_eq, hopened.totalBlocks_eq, ?_⟩
  · rw [hopened.blockSize_eq, hopened.totalBlocks_eq]
    exact Nat.le_trans hroom (hbounded file.file)
  · rw [hopened.blockSize_eq, hopened.totalBlocks_eq]
    exact hroom
  · intro hid
    have hforeign := h.foreign file.file hid
    have hsame : after.length file.file = disk.length file.file :=
      congrArg SparseBytes.size (hspares.data_eq file.file hforeign)
    have hshort := hopened.short hforeign
    omega

theorem Safe.guards (h : ground.Safe source disk) (hfile : ground.Attached disk file) :
    ground.Guards source (some file) disk := by
  refine ⟨h, ?_, fun _ hnone => by cases hnone⟩
  intro other hother
  exact Option.some.inj hother ▸ hfile

/-- **A change file that is attached holds what was at its path**, and where none can be attached none that holds
a block has come about. -/
theorem Safe.attach (h : ground.Safe source disk)
    (setup : Overlay.Setup ChangeFile) {result : Except OverlayError ChangeFile}
    (hmake : perform (makeOverlay setup ground.path ground.blockSize ground.totalBlocks) disk
      = (result, after)) :
    match result with
    | .error _ => ground.Safe source after
        ∧ (Silent ground.path ground.blockSize ground.totalBlocks disk →
          Silent ground.path ground.blockSize ground.totalBlocks after)
    | .ok file => ground.Guards source (some file) after
        ∧ ∀ block, block < ground.totalBlocks →
          file.stored after block = held disk ground.path ground.blockSize ground.totalBlocks block := by
  obtain ⟨hends, hlength⟩ := makeOverlay_ends h.sound setup hmake
  have hsafe := h.spared hends.spares
  cases result with
  | error error => exact ⟨hsafe, hends.silent⟩
  | ok file =>
    have hopened := hends.opened file rfl
    have hattached := h.attached hends.spares hopened (hlength file rfl).room
    exact ⟨hsafe.guards hattached, hopened.stored_eq⟩

/-- A handle to which none could be attached stays as it was. -/
theorem Guards.attach_failed (h : ground.Guards source none disk) (hsafe : ground.Safe source after)
    (hsilent : Silent ground.path ground.blockSize ground.totalBlocks disk →
      Silent ground.path ground.blockSize ground.totalBlocks after) :
    ground.Guards source none after :=
  ⟨hsafe, fun _ hnone => (by cases hnone), fun hsettled hnone => hsilent (h.silent hsettled hnone)⟩

/-! ### What is read after a write -/

/-- The block that a first write takes over from the change file at the path of the overlay. -/
def found (ground : Ground) (overlay : Option ChangeFile) (disk : Disk) (block : Nat) : Option Bytes :=
  if overlay.isNone = true ∧ ground.mode = .readWrite ∧ ground.configured = none then
    held disk ground.path ground.blockSize ground.totalBlocks block
  else none

/-- That is the path beside the image. -/
theorem found_eq {options : OpenOptions} {path : String} (hmode : ground.mode = options.mode)
    (hconfigured : ground.configured = options.overlay)
    (hpath : ground.path = options.overlay.getD (defaultOverlayPath path)) (overlay : Option ChangeFile)
    (disk : Disk) (block : Nat) :
    ground.found overlay disk block
      = adopted options path overlay disk ground.blockSize ground.totalBlocks block := by
  unfold found adopted
  rw [hmode, hconfigured]
  split
  · next hopen => rw [hpath, hopen.2.2, Option.getD_none]
  · rfl

theorem settled_of_writable (hmode : ground.mode ≠ .readOnly)
    (h : ¬ (ground.mode = .readWrite ∧ ground.configured = none)) : ground.settled = true := by
  unfold settled OpenMode.settles
  split
  · next hread => exact absurd hread hmode
  · next hwrite =>
    cases hpath : ground.configured with
    | none => exact absurd ⟨hwrite, hpath⟩ h
    | some path => rfl
  · rfl

/-- A block that the overlay has, or the same as without it. -/
def shown (stored : Option Bytes) (base : Transfer Error Unit) : Transfer Error Unit :=
  match stored with
  | some bytes => .complete bytes
  | none => base

@[simp] theorem shown_some (bytes : Bytes) (base : Transfer Error Unit) :
    shown (some bytes) base = .complete bytes := rfl

@[simp] theorem shown_none (base : Transfer Error Unit) : shown none base = base := rfl

/-- **Where the blocks of an overlay are read as they are stored, a write changes those that were written, and those
that are found in a change file that is attached for it.** -/
theorem Guards.shown_after (h : ground.Guards source overlay disk) (hmode : ground.mode ≠ .readOnly)
    {storedAfter : Nat → Option Bytes} {cursor count : Nat} {data : Bytes}
    (hstores : ground.Stores (ground.prior overlay disk) storedAfter cursor count data)
    (before after : Nat → Transfer Error Unit)
    (hbefore : ∀ {block bytes}, block < ground.totalBlocks → stored overlay disk block = some bytes →
      before block = .complete bytes)
    (hafter : ∀ {block bytes}, block < ground.totalBlocks → storedAfter block = some bytes →
      after block = .complete bytes)
    (halike : ∀ {block}, block < ground.totalBlocks → stored overlay disk block = none → storedAfter block = none →
      after block = before block)
    (hpast : ∀ {block}, ground.totalBlocks ≤ block → after block = before block) (block : Nat) :
    after block = if cursor ≤ block ∧ block < cursor + count then
        .complete (data.slice ((block - cursor) * ground.blockSize) ground.blockSize)
      else shown (ground.found overlay disk block) (before block) := by
  rcases Nat.lt_or_ge block ground.totalBlocks with hblock | hend
  · have hstored := hstores.stored_eq block hblock
    rw [replaced] at hstored
    split at hstored
    · next hin =>
      rw [if_pos hin]
      exact hafter hblock hstored
    · next hout =>
      rw [if_neg hout]
      cases overlay with
      | some file =>
        have hkept : storedAfter block = stored (some file) disk block := hstored
        have hnone : ground.found (some file) disk block = none := if_neg fun hopen => nomatch hopen.1
        rw [hnone, shown_none]
        cases hheld : stored (some file) disk block with
        | none => exact halike hblock hheld (hkept.trans hheld)
        | some bytes => rw [hafter hblock (hkept.trans hheld), hbefore hblock hheld]
      | none =>
        have hfound : ground.found none disk block = storedAfter block := by
          rw [hstored, found, prior]
          split
          · rfl
          · next hopen =>
            have hsettled := settled_of_writable hmode fun hfresh => hopen ⟨rfl, hfresh⟩
            exact (h.silent hsettled rfl block).symm
        rw [hfound]
        cases hheld : storedAfter block with
        | none => exact halike hblock rfl hheld
        | some bytes => exact hafter hblock hheld
  · have hnone : ground.found overlay disk block = none := by
      unfold found
      split
      · exact held_of_le hend
      · rfl
    rw [hpast hend, if_neg fun hin => Nat.not_lt.mpr hend (hstores.bound block hin.1 hin.2), hnone, shown_none]

end Ground

end PartitionImage
