import PartitionImage.Proofs.ChangeFile.Sessions
import PartitionImage.Proofs.Image.Mount
import PartitionImage.Proofs.RawImage.Mount
import PartitionImage.Recognition
/-!
# What a write changes

After a write the blocks that were written read as they were given.  Every other block reads as before, with one
exception: a handle that was opened for writing without a path for its overlay does not look for one before it
writes, and its first write takes over the change file that is there already.

* `AnyImage.exists_layered` says that the verified handles of both types are layered over their overlays,
  `AnyImage.exists_guarded` that their sources are safe from them.
* `ChangeFile.Closed.held_eq` and `ChangeFile.Closed.attached` are about a change file that is there already,
  `ChangeFile.attached_of_vacant` about one that is made.
* `AnyImage.readAt_after_write` is the statement, for every state that is reached from a verified handle;
  `AnyImage.readAt_after_write_adopted` is the exception.
-/

namespace PartitionImage

open PartitionImage.Action (perform perform_bind_inv perform_bind_ok)
open PartitionImage.Overlay (Mount)
open ChangeFile (held wholeLength)

/-! ### Images of either type -/

namespace AnyImage

/-- **Every handle that is verified keeps its changes in an overlay.**  The number of its blocks is below `2^64 - 1`
if the size of a raw image is below `2^64`. -/
theorem exists_layered {O : Type} [Overlay O] {type : ImageType} {source : Source} {path : String}
    {options : OpenOptions} {setup : Overlay.Setup O} {world opened : World} {image : AnyImage O}
    (hopen : perform (ofSource type source path options setup) world = (.ok image, opened)) (operations : List Operation)
    {blockSize total : Nat}
    (hblockSize : BlockDevice.blockSize? (Operation.run operations (image, opened)).1 = some blockSize)
    (hblockCount : BlockDevice.blockCount? (Operation.run operations (image, opened)).1 = some total) :
    ∃ handles, BlockDevice.Layered AnyImage.source (mount (O := O)) options.mode blockSize total handles
      ∧ handles (Operation.run operations (image, opened))
      ∧ ((type = .raw → ∀ size, source.size world.disk = .ok size → size < range64) → total < range64 - 1) := by
  suffices hlayered : ∃ size count handles,
      BlockDevice.Layered AnyImage.source (mount (O := O)) options.mode size count handles
        ∧ handles (Operation.run operations (image, opened))
        ∧ ((type = .raw → ∀ size, source.size world.disk = .ok size → size < range64) → count < range64 - 1) by
    obtain ⟨size, count, handles, hlayered, hstate, hshort⟩ := hlayered
    obtain rfl := Option.some.inj ((hlayered.blockSize_eq hstate).symm.trans hblockSize)
    obtain rfl := Option.some.inj ((hlayered.blockCount_eq hstate).symm.trans hblockCount)
    exact ⟨handles, hlayered, hstate, hshort⟩
  cases type with
  | partition =>
    cases hopen
    have hrun := Image.embeds.run operations (Image.ofSource source path options setup, world)
    rw [show (AnyImage.partition (Image.ofSource source path options setup), world) = Prod.map .partition id
      (Image.ofSource source path options setup, world) from rfl, hrun] at hblockSize ⊢
    have hverified : (Operation.run operations (Image.ofSource source path options setup, world)).1.stage.isVerified
        = true := by
      by_contra hunverified
      cases (Image.unready_of_unverified (Bool.not_eq_true _ ▸ hunverified)).blockSize?.symm.trans hblockSize
    obtain ⟨descriptor, map, hsized⟩ := Image.Reached.exists_sized
      (Image.reached_ofSource source path options setup world) operations (fun hstart => nomatch hstart) hverified
    exact ⟨_, _, _, (Image.layered options hsized.suits).within Image.embeds (fun _ => rfl) fun _ => rfl,
      ⟨_, hsized, rfl⟩, fun _ => hsized.short⟩
  | raw =>
    obtain ⟨device, reached, hdevice, hopen⟩ := perform_bind_inv hopen
    cases hopen
    have hrun := RawImage.embeds.run operations (device, opened)
    rw [show (AnyImage.raw device, opened) = Prod.map .raw id (device, opened) from rfl, hrun] at hblockSize ⊢
    have hverified : (Operation.run operations (device, opened)).1.verified = true := by
      by_contra hunverified
      have hnone : (Operation.run operations (device, opened)).1.blockSize? = none := if_neg hunverified
      cases hnone.symm.trans hblockSize
    have hsized := (RawImage.sized_of_ofSource hdevice).run operations
    obtain ⟨rfl, size, hknown, rfl⟩ := RawImage.opened_of_ofSource hdevice
    refine ⟨_, _, _, (RawImage.layered options.mode (RawImage.blockSizeFor_pos size) _).within RawImage.embeds
      (fun _ => rfl) fun _ => rfl, ⟨_, ⟨hsized, hverified⟩, rfl⟩, fun hsize => ?_⟩
    have hbound := hsize rfl size hknown
    have hquot : size / RawImage.blockSizeFor size ≤ size / 512 :=
      Nat.div_le_div_left (RawImage.le_blockSizeFor size) (by decide)
    show size / RawImage.blockSizeFor size < range64 - 1
    unfold range64 at hbound ⊢
    omega

/-- **The source of a handle that was verified is safe from its overlay**, whatever is under its path. -/
theorem exists_guarded {type : ImageType} {source : Source} {path : String} {options : OpenOptions}
    {world opened : World} (hsound : world.disk.Sound) (hbounded : world.disk.Bounded) {image : AnyImage ChangeFile}
    (hopen : perform (ofSource type source path options ()) world = (.ok image, opened))
    {verified : AnyImage ChangeFile × World}
    (hverify : perform BlockDevice.verify (image, opened) = (.ok (), verified)) :
    ∃ ground handles,
      BlockDevice.Layered AnyImage.source mount ground.mode ground.blockSize ground.totalBlocks handles
        ∧ BlockDevice.Guarded AnyImage.source mount handles ground verified ∧ ground.mode = options.mode
        ∧ ground.configured = options.overlay ∧ ground.path = options.overlay.getD (defaultOverlayPath path) := by
  cases type with
  | partition =>
    cases hopen
    obtain ⟨checked, hcheck, rfl⟩ := Image.embeds.verify_inv hverify
    have hunread : Image.Unread options (Image.ofSource (O := ChangeFile) source path options (), world) :=
      ⟨rfl, rfl, rfl, rfl⟩
    obtain ⟨descriptor, map, hsized⟩ := Image.sized_of_verify hunread hcheck
    have hguarded := Image.guarded_of_verify hunread hsound hbounded hcheck hsized.stage
    exact ⟨_, _, (Image.layered options hsized.suits).within Image.embeds (fun _ => rfl) fun _ => rfl,
      ⟨⟨_, hguarded.handle, rfl⟩, hguarded.path_eq, hguarded.guards⟩, rfl, rfl, rfl⟩
  | raw =>
    -- the size of a raw image is that of its source, which is why its bytes are no change file of its own
    obtain ⟨device, reached, hdevice, hopen⟩ := perform_bind_inv hopen
    cases hopen
    obtain ⟨checked, hcheck, rfl⟩ := RawImage.embeds.verify_inv hverify
    have hsized := RawImage.sized_of_ofSource hdevice
    obtain ⟨rfl, hfresh⟩ := RawImage.ofSource_inv hdevice
    rw [← hfresh.mode_eq] at hsized
    have hguarded := RawImage.guarded_of_verify hsized hfresh.overlay_eq (hfresh.safe hsound hbounded) hcheck
    refine ⟨_, _, (RawImage.layered _ hfresh.blockSize_pos _).within RawImage.embeds (fun _ => rfl) fun _ => rfl,
      ⟨⟨_, hguarded.handle, rfl⟩, hguarded.path_eq, hguarded.guards⟩, hfresh.mode_eq, hfresh.overlayPath_eq, ?_⟩
    rw [← hfresh.overlayPath_eq, ← hfresh.path_eq]
    rfl

end AnyImage

/-! ### Change files that are attached -/

namespace ChangeFile

variable {path : String} {blockSize totalBlocks : Nat} {blocks : Nat → Option Bytes} {disk : Disk}

/-- A change file that was let go of holds its blocks. -/
theorem Closed.held_eq (h : Closed path blockSize totalBlocks blocks disk) {block : Nat}
    (hblock : block < totalBlocks) : held disk path blockSize totalBlocks block = blocks block := by
  obtain ⟨file, hopen, hfile⟩ := h.opened .init
  have hinit : perform (init path blockSize totalBlocks) disk = (.ok file, disk) := hopen
  rw [held, hinit]
  exact (if_pos hblock).trans (hfile.stored_eq block hblock)

theorem Refines.attached {file : ChangeFile} {after : Disk} {table : BlockTable}
    (h : Refines path blockSize totalBlocks (file, after) table) (hsound : disk.Sound)
    {setup : Overlay.Setup ChangeFile}
    (hcreate : perform (Overlay.create setup path blockSize totalBlocks) disk = (.ok file, after)) :
    perform (makeOverlay setup path blockSize totalBlocks) disk = (.ok file, after) := by
  have hclean := ((create_ends hsound hcreate).opened file rfl).clean
  rw [makeOverlay, perform_bind_ok hcreate, perform_verifyStore hclean, verdict_eq_ok_iff.mpr h.spans]
  rfl

/-- A change file that was let go of can be attached, with its blocks. -/
theorem Closed.attached (h : Closed path blockSize totalBlocks blocks disk) (hsound : disk.Sound)
    (setup : Overlay.Setup ChangeFile) :
    ∃ file, perform (makeOverlay setup path blockSize totalBlocks) disk = (.ok file, disk)
      ∧ Refines path blockSize totalBlocks (file, disk) ⟨blocks, 0⟩ := by
  obtain ⟨file, hopen, hfile⟩ := h.opened .create
  exact ⟨file, hfile.attached hsound hopen, hfile⟩

/-- Where there is nothing an empty change file can be attached. -/
theorem attached_of_vacant (hsound : disk.Sound) (hvacant : disk.Vacant path)
    (hfits : Fits blockSize totalBlocks disk.sizeLimit) (setup : Overlay.Setup ChangeFile) :
    ∃ file after, perform (makeOverlay setup path blockSize totalBlocks) disk = (.ok file, after)
      ∧ Refines path blockSize totalBlocks (file, after) ⟨fun _ => none, 0⟩ := by
  obtain ⟨file, after, hcreate, hfile⟩ := opened_of_vacant hsound hvacant hfits
  exact ⟨file, after, hfile.attached hsound hcreate, hfile⟩

end ChangeFile

/-! ### A change file left behind -/

def leftover : Disk :=
  (Disk.withNew {} ["a.cf"]).setContent 0
    ((SparseBytes.ofPacked (.ofBytes (ChangeFile.Header.encode ⟨512, 3⟩ ++ [2]))).resize 2048)

theorem content_leftover :
    leftover.content 0 = ChangeFile.Header.encode ⟨512, 3⟩ ++ 2 :: List.replicate 2015 0 := by
  have hlength : (ChangeFile.Header.encode ⟨512, 3⟩ ++ [2]).length = 33 := by
    rw [List.length_append, ChangeFile.Header.length_encode]
    rfl
  have hfile : (Disk.withNew {} ["a.cf"]).IsFile 0 := Nat.zero_lt_one
  rw [leftover, Disk.content_setContent _ hfile, SparseBytes.toBytes_resize,
    SparseBytes.toBytes_ofPacked, Packed.toBytes_ofBytes, Bytes.resize, hlength,
    List.take_of_length_le (by rw [hlength]; decide), List.append_assoc]
  rfl

def leftoverBlocks (block : Nat) : Option Bytes := [(1, List.replicate 512 0)].lookup block

theorem leftoverBlocks_one : leftoverBlocks 1 = some (List.replicate 512 0) := rfl

theorem leftoverBlocks_two : leftoverBlocks 2 = none := rfl

theorem sound_leftover : leftover.Sound :=
  (Disk.sound_empty.create ChangeFile.create_on_empty).modify 0 _

theorem bounded_leftover : leftover.Bounded := by
  intro id
  cases id with
  | zero => decide
  | succ id => exact Nat.zero_le _

theorem closed_leftover :
    ChangeFile.Closed "a.cf" 512 3 leftoverBlocks leftover := by
  have hfound : leftover.lookupFile "a.cf" = .ok 0 :=
    (Disk.keeps_modify _ 0 _).lookupFile (Disk.lookupFile_create ChangeFile.create_on_empty)
  have hroom : ChangeFile.wholeLength 512 3 ≤ 2048 := by decide
  have hfits : ChangeFile.Fits 512 3 leftover.sizeLimit := ⟨by decide, by decide, by decide, by decide⟩
  have hheader : (leftover.content 0).slice 0 ChangeFile.headerSize = ChangeFile.Header.encode ⟨512, 3⟩ := by
    rw [content_leftover]
    exact List.take_left' (ChangeFile.Header.length_encode _)
  refine ⟨⟨"a.cf", 0, 512, 3, ⟨.ofBytes [2], 3, rfl⟩, false, 0⟩, rfl, ?_, ?_, rfl, rfl, rfl, rfl, ?_⟩
  · refine ⟨⟨sound_leftover.isFile hfound, rfl, by decide, hroom⟩, hfound, ?_, fun _ => ?_⟩
    · rw [hheader]
      exact hfits.decode?_encode
    · show (leftover.content 0).slice ChangeFile.headerSize 1 = [2]
      rw [content_leftover, Bytes.slice, List.drop_left' (ChangeFile.Header.length_encode _)]
      rfl
  · exact hfits
  · intro block hblock
    have hcases : block = 0 ∨ block = 1 ∨ block = 2 := by omega
    rcases hcases with rfl | rfl | rfl
    · rfl
    · show some ((leftover.content 0).slice 1024 512) = leftoverBlocks 1
      rw [content_leftover, Bytes.slice, List.drop_append, ChangeFile.Header.length_encode,
        List.drop_of_length_le (by rw [ChangeFile.Header.length_encode]; decide), List.nil_append,
        show 1024 - ChangeFile.headerSize = 991 + 1 from rfl, List.drop_succ_cons, List.drop_replicate,
        List.take_replicate, leftoverBlocks_one]
      rfl
    · rfl

def overLeftover : RawImage ChangeFile × World where
  fst := {
    source := .ofBytes (List.replicate 1536 1)
    path := "a"
    mode := .readWrite
    setup := ()
    verified := true
    blockSize := 512
    totalBlocks := 3
    overlayPath := none
    overlay := none
    cursor := 0 }
  snd := { disk := leftover }

theorem verified_overLeftover : RawImage.Verified .readWrite 512 3 overLeftover :=
  ⟨⟨rfl, rfl, rfl, nofun, nofun⟩, rfl⟩

theorem layered_overLeftover : BlockDevice.Layered RawImage.source (RawImage.mount (O := ChangeFile)) .readWrite 512 3
    (RawImage.Verified .readWrite 512 3) :=
  RawImage.layered .readWrite (by decide) 3

theorem guarded_overLeftover :
    BlockDevice.Guarded RawImage.source RawImage.mount (RawImage.Verified .readWrite 512 3)
      (RawImage.groundOf overLeftover) overLeftover := by
  refine ⟨verified_overLeftover, rfl, ⟨.refl _, sound_leftover, bounded_leftover, ?_, fun _ _ => rfl⟩, ?_, ?_⟩
  · intro id hid
    cases (Ground.file?_eq_some_iff.mp hid).1
  · intro file hfile
    cases hfile
  · intro hsettled
    cases hsettled

/-- A first write takes the second block over. -/
theorem adopted_leftover {block : Nat} (h : block < 3) :
    ChangeFile.adopted { mode := .readWrite } "a" none leftover 512 3 block
      = leftoverBlocks block := by
  have hpath : defaultOverlayPath "a" = "a.cf" := by decide
  rw [ChangeFile.adopted, if_pos ⟨rfl, rfl, rfl⟩, hpath]
  exact closed_leftover.held_eq h

theorem open_overLeftover :
    perform (AnyImage.ofSource (O := ChangeFile) .raw (.ofBytes (List.replicate 1536 1)) "a"
        { mode := .readWrite } ()) { disk := leftover }
      = (.ok (.raw { overLeftover.1 with verified := false }), { disk := leftover }) := by
  have hsize : (Source.ofBytes (List.replicate 1536 1)).size leftover = .ok 1536 :=
    congrArg Except.ok ((Packed.size_ofBytes _).trans List.length_replicate)
  have hraw : perform (RawImage.ofSource (.ofBytes (List.replicate 1536 1)) "a" { mode := .readWrite } ())
      { disk := leftover } = (.ok { overLeftover.1 with verified := false }, { disk := leftover }) := by
    rw [RawImage.ofSource, perform_bind_ok (Action.perform_get _)]
    dsimp only
    rw [hsize]
    rfl
  exact perform_bind_ok hraw

theorem verify_overLeftover :
    perform BlockDevice.verify (AnyImage.raw { overLeftover.1 with verified := false }, { disk := leftover })
      = (.ok (), Prod.map .raw id overLeftover) := rfl

theorem exists_write_overLeftover {data : Bytes} (hlength : data.length = 512) :
    ∃ written, perform (RawImage.write data) overLeftover = (.ok (), written) := by
  obtain ⟨file, hmake, hfile⟩ := closed_leftover.attached sound_leftover ()
  have hpath : overLeftover.1.mount.path = "a.cf" := by decide
  have hbacking : ∀ id, Backing.directory ≠ .file id := fun _ => nofun
  have hready : (ChangeFile.dependable "a.cf" 512 3 .directory {}).Ready leftoverBlocks
      (overLeftover.1.mount, overLeftover.2.disk) := by
    refine .inr ⟨rfl, file, leftover, 0, ?_, hfile, hbacking _, fun id hid => absurd hid (hbacking id)⟩
    rw [hpath]
    exact hmake
  obtain ⟨after, hput, -⟩ := hready.put (show OpenMode.readWrite ≠ .readOnly by decide)
    (show data.length % 512 = 0 by rw [hlength]) (show 0 + data.length / 512 ≤ 3 by rw [hlength]; decide)
  obtain ⟨written, hwrite, -⟩ := (layered_overLeftover.write verified_overLeftover rfl data).ok hput
  exact ⟨written, hwrite⟩

theorem readAt_overLeftover {block : Nat} (h : block < 3) :
    ((BlockDevice.readAt block 512).run overLeftover).1 = .complete (List.replicate 512 1) := by
  have hplace : block * 512 + 512 ≤ 1536 := by omega
  have hrest : 512 ≤ 1536 - block * 512 := by omega
  have hplaced : block * overLeftover.1.blockSize < range64 :=
    Nat.lt_of_le_of_lt (Nat.le_of_add_right_le hplace) (by decide)
  have hbase : RawImage.base overLeftover block = .complete (List.replicate 512 1) := by
    rw [RawImage.base_of_lt hplaced]
    show ((Source.ofBytes (List.replicate 1536 1)).readExact leftover (block * 512)
      512).1.mapError (Error.readBlock block) = _
    rw [Source.readExact_ok (Source.delivers_ofBytes leftover _)
        (Nat.le_trans hplace (Nat.le_of_eq List.length_replicate.symm)),
      Bytes.slice, List.drop_replicate, List.take_replicate, Nat.min_eq_left hrest]
    rfl
  exact (RawImage.run_readAt verified_overLeftover.verified (by decide) guarded_overLeftover.guards.shows h).trans hbase

/-! ### What is read after a write -/

/-- **After a write the blocks that were written read as they were given, and every other block as it did before.**
Only what is found in a change file beside the image, when the first write of a handle without a path for its
overlay takes it over, is read from there. -/
theorem AnyImage.readAt_after_write {type : ImageType} {source : Source} {path : String}
    {options : OpenOptions} {world opened : World} (hsound : world.disk.Sound)
    (hbounded : world.disk.Bounded) {image : AnyImage ChangeFile}
    (hopen : perform (AnyImage.ofSource type source path options ()) world = (.ok image, opened))
    {verified written : AnyImage ChangeFile × World}
    (hverify : perform BlockDevice.verify (image, opened) = (.ok (), verified))
    (operations : List Operation) {data : Bytes}
    (hwrite : perform (BlockDevice.write data) (Operation.run operations verified) = (.ok (), written))
    {blockSize totalBlocks cursor : Nat}
    (hblockSize : BlockDevice.blockSize? verified.1 = some blockSize)
    (hblockCount : BlockDevice.blockCount? verified.1 = some totalBlocks)
    (hcursor : BlockDevice.tell? (Operation.run operations verified).1 = some cursor) (block : Nat) :
    ((BlockDevice.readAt block blockSize).run written).1
      = if cursor ≤ block ∧ block < cursor + data.length / blockSize then
          .complete (data.slice ((block - cursor) * blockSize) blockSize)
        else
          match ChangeFile.adopted options path (Operation.run operations verified).1.mount.store
            (Operation.run operations verified).2.disk blockSize totalBlocks block with
          | some bytes => .complete bytes
          | none => ((BlockDevice.readAt block blockSize).run (Operation.run operations verified)).1 := by
  obtain ⟨ground, handles, hlayered, hguarded, hmode, hconfigured, hpath⟩ :=
    exists_guarded hsound hbounded hopen hverify
  obtain rfl := Option.some.inj ((hlayered.blockSize_eq hguarded.handle).symm.trans hblockSize)
  obtain rfl := Option.some.inj ((hlayered.blockCount_eq hguarded.handle).symm.trans hblockCount)
  have hread := (hguarded.run hlayered operations).readAt_write hlayered hcursor hwrite block
  rw [Ground.found_eq hmode hconfigured hpath] at hread
  exact hread

/-- The first block is written over a change file that holds the second.  The second is read from there, the third
is as it was. -/
theorem AnyImage.readAt_after_write_first :
    ∃ image verified written,
      perform (AnyImage.ofSource (O := ChangeFile) .raw (.ofBytes (List.replicate 1536 1)) "a"
          { mode := .readWrite } ()) { disk := leftover } = (.ok image, { disk := leftover })
        ∧ perform BlockDevice.verify (image, { disk := leftover }) = (.ok (), verified)
        ∧ perform (BlockDevice.write (List.replicate 512 2)) verified = (.ok (), written)
        ∧ ((BlockDevice.readAt 0 512).run written).1 = .complete (List.replicate 512 2)
        ∧ ((BlockDevice.readAt 1 512).run written).1 = .complete (List.replicate 512 0)
        ∧ ((BlockDevice.readAt 2 512).run written).1 = .complete (List.replicate 512 1) := by
  -- what is written stays a variable of known length, so that no step computes with its bytes
  obtain ⟨data, hdata, hlength⟩ : ∃ data : Bytes, data = List.replicate 512 2 ∧ data.length = 512 :=
    ⟨_, rfl, List.length_replicate⟩
  obtain ⟨after, hafter⟩ := exists_write_overLeftover hlength
  have hwrite := RawImage.embeds.perform_write hafter
  have hread : ∀ block, ((BlockDevice.readAt block 512).run (Prod.map AnyImage.raw id after)).1
      = if 0 ≤ block ∧ block < 0 + data.length / 512 then
          .complete (data.slice ((block - 0) * 512) 512)
        else
          Ground.shown (ChangeFile.adopted { mode := .readWrite } "a" none leftover 512 3 block)
            ((BlockDevice.readAt block 512).run (Prod.map AnyImage.raw id overLeftover)).1 :=
    AnyImage.readAt_after_write sound_leftover bounded_leftover open_overLeftover verify_overLeftover [] hwrite rfl rfl
      rfl
  rw [hlength] at hread
  rw [← hdata]
  refine ⟨_, _, _, open_overLeftover, verify_overLeftover, hwrite, ?_, ?_, ?_⟩
  · rw [hread 0, if_pos (by decide)]
    exact congrArg Transfer.complete (List.take_of_length_le (Nat.le_of_eq hlength))
  · rw [hread 1, if_neg (by decide), adopted_leftover (by decide), leftoverBlocks_one,
      Ground.shown_some]
  · rw [hread 2, if_neg (by decide), adopted_leftover (by decide), leftoverBlocks_two,
      Ground.shown_none, RawImage.embeds.run_readAt, readAt_overLeftover (by decide)]

/-- The second block reads otherwise before and after the first one is written. -/
theorem AnyImage.readAt_after_write_adopted :
    ∃ image verified written,
      perform (AnyImage.ofSource (O := ChangeFile) .raw (.ofBytes (List.replicate 1536 1)) "a"
          { mode := .readWrite } ()) { disk := leftover } = (.ok image, { disk := leftover })
        ∧ perform BlockDevice.verify (image, { disk := leftover }) = (.ok (), verified)
        ∧ BlockDevice.tell? verified.1 = some 0
        ∧ perform (BlockDevice.write (List.replicate 512 2)) verified = (.ok (), written)
        ∧ ((BlockDevice.readAt 1 512).run verified).1 = .complete (List.replicate 512 1)
        ∧ ((BlockDevice.readAt 1 512).run written).1 = .complete (List.replicate 512 0) := by
  obtain ⟨data, hdata, hlength⟩ : ∃ data : Bytes, data = List.replicate 512 2 ∧ data.length = 512 :=
    ⟨_, rfl, List.length_replicate⟩
  obtain ⟨after, hafter⟩ := exists_write_overLeftover hlength
  have hfound : (RawImage.groundOf overLeftover).found none leftover 1 = some (List.replicate 512 0) :=
    (Ground.found_eq rfl rfl rfl none leftover 1).trans (adopted_leftover (by decide))
  have hread : ((BlockDevice.readAt 1 512).run after).1
      = if 0 ≤ 1 ∧ 1 < 0 + data.length / 512 then .complete (data.slice ((1 - 0) * 512) 512)
        else Ground.shown ((RawImage.groundOf overLeftover).found none leftover 1)
          ((BlockDevice.readAt 1 512).run overLeftover).1 :=
    guarded_overLeftover.readAt_write layered_overLeftover rfl hafter 1
  rw [hlength, if_neg (by decide), hfound] at hread
  rw [← hdata]
  refine ⟨_, _, _, open_overLeftover, verify_overLeftover, rfl, RawImage.embeds.perform_write hafter, ?_, ?_⟩
  · rw [RawImage.embeds.run_readAt]
    exact readAt_overLeftover (by decide)
  · rw [RawImage.embeds.run_readAt]
    exact hread

end PartitionImage
