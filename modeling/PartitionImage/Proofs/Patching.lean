import PartitionImage.Proofs.Admission
import PartitionImage.Proofs.Image.Lasting
import PartitionImage.Proofs.RawImage.Lasting
import PartitionImage.Proofs.Recognition
import PartitionImage.Proofs.Sparing
/-!
# Patches, and the export after them

An image is patched by one handle after another, all of them with the same path for its changes.  What is exported
then has every block as the last patch left it.

* `Patch` is what one handle writes, `lastPatch?` what the last patch of a list has for a block.
* `BaseImage` are the files that can be opened, `BaseImage.exists_handles` opens them.
* `Patched` is a list of patches that succeed, `Patched.rests` what they leave at the path.
* `BaseImage.exists_patched` says that patches within the image succeed, where there is room for their blocks.
* `exportDevice_patched` is the export.
-/

namespace PartitionImage

open PartitionImage.Action (perform)
open ChangeFile (Fits Roomy Unmade)
open Overlay (Mount)

/-! ### Patches -/

/-- Blocks that are written to an image: the number of the first, and their bytes. -/
structure Patch where
  first : Nat
  data : Bytes

/-- What a patch has for a block, if it covers it. -/
def Patch.block? (patch : Patch) (blockSize block : Nat) : Option Bytes :=
  if patch.first ≤ block ∧ block < patch.first + patch.data.length / blockSize then
    some (patch.data.slice ((block - patch.first) * blockSize) blockSize)
  else none

/-- What the last of the patches that cover a block has for it. -/
def lastPatch? (patches : List Patch) (blockSize block : Nat) : Option Bytes :=
  patches.reverse.findSome? (·.block? blockSize block)

theorem lastPatch?_cons (patch : Patch) (patches : List Patch) (blockSize block : Nat) :
    lastPatch? (patch :: patches) blockSize block
      = (lastPatch? patches blockSize block).or (patch.block? blockSize block) := by
  rw [lastPatch?, List.reverse_cons, List.findSome?_append, List.findSome?_singleton, lastPatch?]

/-- A patch goes over the changes that were there. -/
theorem Patch.replaced_eq (patch : Patch) (blockSize : Nat) (blocks : Nat → Option Bytes) :
    Ground.replaced blocks blockSize patch.first (patch.data.length / blockSize) patch.data
      = fun block => (patch.block? blockSize block).or (blocks block) := by
  funext block
  rw [Ground.replaced, block?]
  split
  · rfl
  · rfl

/-! ### Files that are opened as an image -/

/-- The files that can be opened: partition images, of either format, whose bitmap there is memory for, and files of
another kind, which are raw images.  With them go the size of a block, the number of blocks, and what is in those that
are used. -/
inductive BaseImage (bytes : Bytes) : (blockSize total : Nat) → (payload : Nat → Option Bytes) → Prop
  | partition (archive : Archive) (hbytes : bytes = archive.bytes)
      (hmemory : bytesForBits archive.total < allocationLimit) :
      BaseImage bytes archive.blockSize archive.total archive.payload?
  | raw (hmismatch : Check.failure? (Supported.openingChecks bytes) = some .formatMismatch) :
      BaseImage bytes (RawImage.blockSizeFor bytes.length) (bytes.length / RawImage.blockSizeFor bytes.length)
        (RawImage.payload? bytes (RawImage.blockSizeFor bytes.length))

variable {site : Site} {blockSize total : Nat} {payload : Nat → Option Bytes}

/-- The header of a change file has 4 bytes for the block size of an image. -/
theorem BaseImage.roomy {bytes : Bytes} (h : BaseImage bytes blockSize total payload) : Roomy blockSize := by
  cases h with
  | partition archive =>
    exact ⟨archive.blockSize_pos, Nat.lt_of_lt_of_le archive.blockSize_lt archive.head.sizeLimit_le⟩
  | raw => exact ⟨RawImage.blockSizeFor_pos _, RawImage.blockSizeFor_lt _⟩

/-- A handle on a file that was opened for writing, and verified, where the changes of the image are at rest. -/
structure AnyImage.Opened (site : Site) (blockSize total : Nat) (blocks : Nat → Option Bytes) (disk : Disk)
    (state : AnyImage ChangeFile × World) : Prop where
  exists_run : ∃ type options image world, options.mode = .readWrite ∧ world.disk = disk
    ∧ perform (openFile type site.path options ()) world = (.ok image, world)
    ∧ Operation.run [.verify] (image, world) = state
  path_eq : state.1.mount.path = site.overlay
  disk_eq : state.2.disk = disk
  held : site.Held blockSize total blocks state.1.mount.store disk

/-- **A file is opened where its changes are at rest**, and the handle has them. -/
theorem BaseImage.exists_handles (h : BaseImage site.bytes blockSize total payload) :
    ∃ holds : (Nat → Option Bytes) → AnyImage ChangeFile × World → Prop,
      site.Handles blockSize total payload holds
        ∧ ∀ {world : World} {blocks} {options : OpenOptions}, site.Rests blockSize total blocks world.disk →
          options.mode = .readWrite → options.overlay = some site.overlay →
            ∃ device opened, perform (openAny site.path options) world = (.ok device, opened)
              ∧ holds blocks (device, opened)
              ∧ AnyImage.Opened site blockSize total blocks world.disk (device, opened) := by
  have hroomy := h.roomy
  cases h with
  | partition archive hbytes hmemory =>
    refine ⟨_, (Image.handles archive hbytes hroomy).within Image.embeds, fun {world} _ {options} hrests hmode
      hoverlay => ?_⟩
    obtain ⟨reading, ⟨image, opened⟩, hverify, hholding, hdisk⟩ :=
      Image.exists_verify_rests archive hbytes hrests hmemory hmode hoverlay
    have hopen := (openPartition_eq hrests.found _).trans (perform_verified hverify)
    have hheld : site.Held archive.blockSize archive.total _ image.mount.store world.disk := hdisk ▸ hholding.held
    have hfile := AnyImage.perform_openFile (O := ChangeFile) hrests.found .partition options ()
    have hrun := Image.embeds.run_verify hverify
    refine ⟨.partition image, opened, perform_openAny_partition hopen,
      ⟨image, ⟨reading, _, hholding⟩, rfl⟩, ?_, hholding.path_eq, hdisk, hheld⟩
    exact ⟨.partition, options, _, world, hmode, rfl, hfile, hrun⟩
  | raw hmismatch =>
    refine ⟨_, (RawImage.handles hroomy (Nat.div_mul_le_self _ _)).within RawImage.embeds,
      fun {world} _ {options} hrests hmode hoverlay => ?_⟩
    -- the file is tried as a partition image first, which leaves the disk as it was
    rw [← hrests.content_eq] at hmismatch
    obtain ⟨reached, hsame, hopen⟩ := perform_openAny_raw hrests.found (by rw [hmode]; decide)
      ((openPartition_mismatch_iff hrests.found (hrests.bounded _) options).mpr hmismatch)
    rw [← hsame] at hrests ⊢
    obtain ⟨⟨image, opened⟩, hverify, hholding, hdisk⟩ :=
      RawImage.exists_verify hrests hroomy rfl rfl hmode hoverlay
    have hheld : site.Held (RawImage.blockSizeFor site.bytes.length) _ _ image.mount.store reached.disk :=
      hdisk ▸ hholding.held
    have hfile := AnyImage.perform_openFile (O := ChangeFile) hrests.found .raw options ()
    have hrun := RawImage.embeds.run_verify hverify
    refine ⟨.raw image, opened, hopen ((openRaw_eq hrests.found options).trans (perform_verified hverify)),
      ⟨image, ⟨(), _, hholding⟩, rfl⟩, ?_, hholding.path_eq, hdisk, hheld⟩
    exact ⟨.raw, options, _, reached, hmode, rfl, hfile, hrun⟩

/-! ### One patch after the other -/

/-- A list of patches that succeed, each by a handle of its own that is opened for writing and closed after it.  The
changes go to a path. -/
inductive Patched (path overlay : String) : List Patch → World → World → Prop
  | nil (world : World) : Patched path overlay [] world world
  | cons {patch : Patch} {patches : List Patch} {options : OpenOptions} {device : AnyImage ChangeFile}
      {world opened last : World} {count : Nat} {reached : AnyImage ChangeFile × World}
      (hmode : options.mode = .readWrite) (hoverlay : options.overlay = some overlay)
      (hopen : perform (openAny path options) world = (.ok device, opened))
      (hpatch : perform (PartitionImage.patch patch.first patch.data) (device, opened) = (.ok count, reached))
      (hrest : Patched path overlay patches (perform (BlockDevice.close reached.1) reached.2).2 last) :
      Patched path overlay (patch :: patches) world last

/-- **What patches leave at rest are their blocks**, the last ones over those before. -/
theorem Patched.rests {patches : List Patch} {world last : World}
    (h : Patched site.path site.overlay patches world last) (hbase : BaseImage site.bytes blockSize total payload)
    {blocks : Nat → Option Bytes}
    (hrests : site.Rests blockSize total blocks world.disk) :
    site.Rests blockSize total (fun block => (lastPatch? patches blockSize block).or (blocks block)) last.disk := by
  induction h generalizing blocks with
  | nil world => exact hrests
  | @cons patch patches options device world opened last count reached hmode hoverlay hopen hpatch _ ih =>
    obtain ⟨holds, hhandles, hopens⟩ := hbase.exists_handles
    obtain ⟨_, _, hopened, hholds, -⟩ := hopens hrests hmode hoverlay
    cases hopen.symm.trans hopened
    have hclosed := ih (hhandles.close (hhandles.patch hholds hpatch))
    rw [patch.replaced_eq] at hclosed
    simp only [lastPatch?_cons, Option.or_assoc]
    exact hclosed

/-! ### Patches that succeed -/

/-- A patch of whole blocks within an image, and of one at least. -/
structure Patch.Within (patch : Patch) (blockSize total : Nat) : Prop where
  whole : patch.data.length % blockSize = 0
  some : 0 < patch.data.length / blockSize
  stop : patch.first + patch.data.length / blockSize ≤ total

def Site.Room (site : Site) (blockSize total : Nat) (blocks : Nat → Option Bytes) (disk : Disk) : Prop :=
  (∃ block, block < total ∧ blocks block ≠ none) ∨ disk.Vacant site.overlay ∧ Fits blockSize total disk.sizeLimit

/-- A block that is at rest is in a change file for which there is room. -/
theorem Site.Rests.fits {blocks : Nat → Option Bytes} {disk : Disk} (h : site.Rests blockSize total blocks disk)
    {block : Nat} (hblock : block < total) (hsome : blocks block ≠ none) : Fits blockSize total disk.sizeLimit := by
  cases h.rest with
  | unmade _ hnone => exact absurd (hnone block hblock) hsome
  | closed hclosed =>
    obtain ⟨file, -, hfile⟩ := hclosed
    exact hfile.fits

theorem Site.Held.ready {blocks : Nat → Option Bytes} {disk : Disk} {mount : Mount ChangeFile}
    (h : site.Held blockSize total blocks mount.store disk) (hroom : site.Room blockSize total blocks disk)
    (hpath : mount.path = site.overlay) :
    (ChangeFile.dependable site.overlay blockSize total .directory {}).Ready blocks (mount, disk) := by
  have hbacking : ∀ id, Backing.directory ≠ .file id := fun _ => nofun
  cases hstore : mount.store with
  | some file =>
    rw [hstore] at h
    exact .inl ⟨file, file.cursor, hstore, h.lent.refines file rfl, hbacking _, fun id hid => absurd hid (hbacking id)⟩
  | none =>
    rw [hstore] at h
    obtain ⟨block, hblock, hsome⟩ | ⟨hvacant, hfits⟩ := hroom
    · exact absurd (h.lent.none_eq rfl block hblock) hsome
    · rw [← hpath] at hvacant ⊢
      exact ChangeFile.ready_of_vacant hstore h.sound hvacant hfits (h.lent.none_eq rfl) hbacking {}

/-- **A patch within the image succeeds** where there is room, and every name leads where it led. -/
theorem AnyImage.Opened.exists_patch {blocks : Nat → Option Bytes} {disk : Disk}
    {state : AnyImage ChangeFile × World} (h : Opened site blockSize total blocks disk state)
    (hblockSize : BlockDevice.blockSize? state.1 = some blockSize)
    (hblockCount : BlockDevice.blockCount? state.1 = some total) (hroom : site.Room blockSize total blocks disk)
    {patch : Patch} (hpatch : patch.Within blockSize total) :
    ∃ reached, perform (PartitionImage.patch patch.first patch.data) state
        = (.ok (patch.data.length / blockSize), reached)
      ∧ disk.Keeps (perform (BlockDevice.close reached.1) reached.2).2.disk := by
  obtain ⟨type, options, image, world, hmode, rfl, hopen, hstate⟩ := h.exists_run
  have hfile := h.held.found
  have hsize : type = .raw → ∀ size, (Source.ofFile site.base).size world.disk = .ok size → size < range64 := by
    intro _ size hknown
    obtain rfl : world.disk.length site.base = size := Except.ok.inj hknown
    exact Nat.lt_of_le_of_lt (h.held.bounded site.base) (by decide)
  have hsource := (perform_ofSource_ofFile (O := ChangeFile) hfile type options ()).trans hopen
  obtain ⟨handles, hlayered, hhandles, hshort⟩ : ∃ handles,
      BlockDevice.Layered AnyImage.source mount options.mode blockSize total handles ∧ handles state
        ∧ total < range64 - 1 := by
    rw [← hstate] at hblockSize hblockCount ⊢
    obtain ⟨handles, hlayered, hhandles, hshort⟩ := exists_layered hsource [.verify] hblockSize hblockCount
    exact ⟨handles, hlayered, hhandles, hshort hsize⟩
  have hready := h.held.ready hroom h.path_eq
  rw [← h.disk_eq] at hready
  obtain ⟨reached, hrun, -⟩ :=
    hlayered.patch_ok hshort hhandles (by rw [hmode]; decide) hpatch.whole hpatch.stop hready
  have hspared := spared_of_run h.held.sound hfile hopen
    ([.verify] ++ [.seek patch.first, .write patch.data, .sync]) .closed
  rw [Operation.run_append, hstate, run_of_patch hblockSize hblockCount hrun] at hspared
  exact ⟨reached, hrun, hspared.keeps⟩

/-- **Patches within the image succeed**, one after the other, where there is room for their blocks. -/
theorem BaseImage.exists_patched (hbase : BaseImage site.bytes blockSize total payload) {patches : List Patch}
    (hpatches : ∀ patch ∈ patches, patch.Within blockSize total) {world : World} {blocks : Nat → Option Bytes}
    (hrests : site.Rests blockSize total blocks world.disk) (hroom : site.Room blockSize total blocks world.disk) :
    ∃ last, Patched site.path site.overlay patches world last ∧ world.disk.Keeps last.disk := by
  induction patches generalizing world blocks with
  | nil => exact ⟨world, .nil world, fun _ _ hnode => hnode⟩
  | cons patch patches ih =>
    have hwithin := hpatches patch List.mem_cons_self
    obtain ⟨holds, hhandles, hopens⟩ := hbase.exists_handles
    obtain ⟨device, opened, hopen, hholds, hopened⟩ :=
      @hopens world blocks { mode := .readWrite, overlay := some site.overlay } hrests rfl rfl
    obtain ⟨reached, hpatch, hkeeps⟩ := hopened.exists_patch (hhandles.blockSize_eq hholds)
      (hhandles.blockCount_eq hholds) hroom hwithin
    -- the first block of the patch is at rest from then on
    have hfirst : Ground.replaced blocks blockSize patch.first (patch.data.length / blockSize) patch.data patch.first
        ≠ none := by
      rw [Ground.replaced, if_pos ⟨Nat.le_refl _, Nat.lt_add_of_pos_right hwithin.some⟩]
      exact Option.some_ne_none _
    have hlt : patch.first < total := Nat.lt_of_lt_of_le (Nat.lt_add_of_pos_right hwithin.some) hwithin.stop
    obtain ⟨last, hrest, hkept⟩ := ih (fun other hother => hpatches other (List.mem_cons_of_mem _ hother))
      (hhandles.close (hhandles.patch hholds hpatch)) (.inl ⟨patch.first, hlt, hfirst⟩)
    exact ⟨last, .cons rfl rfl hopen hpatch hrest, fun place node hnode => hkept place node (hkeeps place node hnode)⟩

/-! ### A disk to patch on -/

def workDisk (bytes : Bytes) : Disk :=
  (((Disk.withNew {} ["a.img"]).withNew ["a.cf"]).withNew ["out"]).setContent 0 (.ofPacked (.ofBytes bytes))

theorem create_changes :
    (Disk.withNew {} ["a.img"]).create "a.cf" = .ok (1, (Disk.withNew {} ["a.img"]).withNew ["a.cf"]) := by cbv

theorem create_output :
    ((Disk.withNew {} ["a.img"]).withNew ["a.cf"]).create "out"
      = .ok (2, ((Disk.withNew {} ["a.img"]).withNew ["a.cf"]).withNew ["out"]) := by cbv

def workSite (bytes : Bytes) : Site := ⟨"a.img", 0, bytes, "a.cf"⟩

section

variable (bytes : Bytes)

theorem keeps_workDisk : ((Disk.withNew {} ["a.img"]).withNew ["a.cf"]).Keeps (workDisk bytes) :=
  fun place node hnode => Disk.keeps_modify _ 0 _ place node (Disk.keeps_create create_output place node hnode)

theorem lookupFile_workDisk : (workDisk bytes).lookupFile "a.cf" = .ok 1 :=
  (keeps_workDisk bytes).lookupFile (Disk.lookupFile_create create_changes)

theorem content_workDisk : (workDisk bytes).content 1 = [] :=
  congrArg SparseBytes.toBytes (Disk.data_modify_of_ne _ (by decide : (1 : FileId) ≠ 0) _)

theorem unmade_workDisk : Unmade "a.cf" (workDisk bytes) := by
  intro id hid
  obtain rfl := Except.ok.inj ((lookupFile_workDisk bytes).symm.trans hid)
  exact content_workDisk bytes

theorem vacant_workDisk : (workDisk bytes).Vacant "a.cf" :=
  ⟨1, _, Disk.create_again create_changes (keeps_workDisk bytes), content_workDisk bytes⟩

theorem on_workDisk (h : bytes.length ≤ Disk.maxOffset) : (workSite bytes).On (workDisk bytes) where
  sound := (((Disk.sound_empty.create create_image).create create_changes).create create_output).modify 0 _
  bounded := by
    have hnone : ({} : Disk).Bounded := fun _ => Nat.zero_le _
    refine (Disk.changesOnly_modify _ 0 _ fun _ => ?_).bounded
      (((hnone.create create_image).create create_changes).create create_output)
    rw [← SparseBytes.length_toBytes, SparseBytes.toBytes_ofPacked, Packed.toBytes_ofBytes]
    exact h
  found := (keeps_workDisk bytes).lookupFile
    ((Disk.keeps_create create_changes).lookupFile (Disk.lookupFile_create create_image))
  content_eq := by
    have hfile : (((Disk.withNew {} ["a.img"]).withNew ["a.cf"]).withNew ["out"]).IsFile 0 := Nat.succ_pos 2
    rw [workDisk, workSite, Disk.content_setContent _ hfile, SparseBytes.toBytes_ofPacked, Packed.toBytes_ofBytes]
  apart id hid := by
    obtain rfl := Except.ok.inj ((lookupFile_workDisk bytes).symm.trans hid)
    exact Nat.one_ne_zero

end

/-! ### The export -/

/-- **What is exported after a list of patches is the image with all of them.**  Every block has the bytes of the last
patch that covers it.  A block that no patch covers has those that it has in the image, or zeros if it is not used
there.  The blocks that count as written are those that are used or patched, and the file of the image is as it was.
The path of the changes leads to another file that is empty, or to none, when the first handle is opened, and the
export is given a file that is neither of the two. -/
theorem exportDevice_patched {start patched : World} {patches : List Patch} (hsite : site.On start.disk)
    (hunmade : Unmade site.overlay start.disk) (hbase : BaseImage site.bytes blockSize total payload)
    (hpatched : Patched site.path site.overlay patches start patched) {options : OpenOptions}
    (hmode : options.mode = .readWrite) (hoverlay : options.overlay = some site.overlay) {output : String}
    {written : FileId} {made : Disk} (hcreate : patched.disk.create output = .ok (written, made))
    (hapart : site.base ≠ written) (hbeside : patched.disk.lookupFile site.overlay ≠ .ok written)
    (hreach : total * blockSize ≤ Disk.maxOffset) (hlimit : total * blockSize ≤ patched.disk.sizeLimit) :
    ∃ device opened final, perform (openAny site.path options) patched = (.ok device, opened)
      ∧ BlockDevice.blockSize? device = some blockSize ∧ BlockDevice.blockCount? device = some total
      ∧ perform (exportDevice output) ⟨device, opened, []⟩
        = (.ok ⟨total, (List.range total).countP fun block =>
          ((lastPatch? patches blockSize block).or (payload block)).isSome⟩, final)
      ∧ final.world.disk.lookupFile output = .ok written
      ∧ (final.world.disk.content written).length = total * blockSize
      ∧ (∀ block, block < total → (final.world.disk.content written).slice (block * blockSize) blockSize
        = ((lastPatch? patches blockSize block).or (payload block)).getD (List.replicate blockSize 0))
      ∧ final.world.disk.content site.base = site.bytes := by
  have hrests := hpatched.rests hbase ⟨hsite, .unmade hunmade fun _ _ => rfl⟩
  obtain ⟨holds, hhandles, hopens⟩ := hbase.exists_handles
  obtain ⟨device, opened, hopened, hholds, hhandle⟩ := hopens hrests hmode hoverlay
  have hdisk : opened.disk = patched.disk := hhandle.disk_eq
  simp only [Option.or_none] at hholds
  rw [← hdisk] at hcreate hbeside hlimit
  obtain ⟨final, hrun, hlength, hslices, hfound, hkept⟩ :=
    hhandles.exportDevice hholds [] hcreate hapart hbeside hreach hlimit
  exact ⟨device, opened, final, hopened, hhandles.blockSize_eq hholds, hhandles.blockCount_eq hholds, hrun, hfound,
    hlength, hslices, (hkept.content_eq hapart).trans (hhandles.on hholds).content_eq⟩

/-- Four blocks of two bytes, of which the first and the last are used. -/
def fourBlocks : Archive := .plain [some (.twice 0x11), none, none, some (.twice 0x22)] (by decide)

/-- Two patches of it: the second one covers the second block of the first. -/
def overlapping : List Patch := [⟨0, [1, 2, 3, 4]⟩, ⟨1, [5, 6]⟩]

/-- A partition image of four blocks is patched twice.  The output has one block of the first patch, that of the second,
zeros for a block that is not used, and a block of the image. -/
theorem exportDevice_patched_overlapping :
    ∃ patched device opened final,
      Patched "a.img" "a.cf" overlapping { disk := workDisk fourBlocks.bytes } patched
        ∧ perform (openAny "a.img" { mode := .readWrite, overlay := some "a.cf" }) patched = (.ok device, opened)
        ∧ perform (exportDevice "out") ⟨device, opened, []⟩ = (.ok ⟨4, 3⟩, final)
        ∧ final.world.disk.lookupFile "out" = .ok 2
        ∧ (final.world.disk.content 2).length = 8
        ∧ (final.world.disk.content 2).slice 0 2 = [1, 2]
        ∧ (final.world.disk.content 2).slice 2 2 = [5, 6]
        ∧ (final.world.disk.content 2).slice 4 2 = [0, 0]
        ∧ (final.world.disk.content 2).slice 6 2 = [0x22, 0x22]
        ∧ final.world.disk.content 0 = fourBlocks.bytes := by
  have hlength : fourBlocks.bytes.length ≤ Disk.maxOffset := by
    rw [Archive.bytes, Archive.length_image, Archive.length_records]
    decide
  have hbase : BaseImage (workSite fourBlocks.bytes).bytes 2 4 fourBlocks.payload? :=
    .partition fourBlocks rfl (by decide)
  have hon := on_workDisk fourBlocks.bytes hlength
  have hunmade := unmade_workDisk fourBlocks.bytes
  have hrests : (workSite fourBlocks.bytes).Rests 2 4 (fun _ => none) (workDisk fourBlocks.bytes) :=
    ⟨hon, .unmade hunmade fun _ _ => rfl⟩
  have hwithin : ∀ patch ∈ overlapping, patch.Within 2 4 := by
    intro patch hpatch
    rcases List.mem_pair.mp hpatch with rfl | rfl
    · exact ⟨by decide, by decide, by decide⟩
    · exact ⟨by decide, by decide, by decide⟩
  obtain ⟨patched, hpatched, hkeeps⟩ := @BaseImage.exists_patched (workSite fourBlocks.bytes) 2 4 _ hbase overlapping
    hwithin { disk := workDisk fourBlocks.bytes } _ hrests
    (.inr ⟨vacant_workDisk fourBlocks.bytes, by decide, by decide, by decide, by decide⟩)
  have hfits := (hpatched.rests hbase hrests).fits (by decide : 0 < 4) (by decide)
  have hchanges := hkeeps.lookupFile (lookupFile_workDisk fourBlocks.bytes)
  have hother : patched.disk.lookupFile (workSite fourBlocks.bytes).overlay ≠ .ok 2 := fun hsame =>
    (by decide : (1 : FileId) ≠ 2) (Except.ok.inj (hchanges.symm.trans hsame))
  have hcreate := Disk.create_again create_output fun place node hnode =>
    hkeeps place node (Disk.keeps_modify _ 0 _ place node hnode)
  obtain ⟨device, opened, final, hopen, -, -, hexport, hfound, hwhole, hslices, hkept⟩ :=
    @exportDevice_patched (workSite fourBlocks.bytes) 2 4 _ { disk := workDisk fourBlocks.bytes } patched overlapping
      hon hunmade hbase hpatched { mode := .readWrite, overlay := some "a.cf" } rfl rfl "out" 2 _ hcreate
      (by decide : (0 : FileId) ≠ 2) hother (by decide)
      (Nat.le_trans (by decide : 4 * 2 ≤ ChangeFile.wholeLength 2 4) hfits.limit)
  exact ⟨patched, device, opened, final, hpatched, hopen, hexport, hfound, hwhole, hslices 0 (by decide),
    hslices 1 (by decide), hslices 2 (by decide), hslices 3 (by decide), hkept⟩

end PartitionImage
