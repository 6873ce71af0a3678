import PartitionImage.Export
import PartitionImage.Proofs.Disk
import PartitionImage.Proofs.Operation
/-!
# What an export writes

An export goes through a device block by block.  While it does, the blocks behind it are in the output, and before it
there are zeros.

* `Export.filled` is the output when some of the blocks have been copied.
* `Export.Readable` is a device whose blocks are read one after the other, whatever is written to the output.
* `Export.Readable.exists_copied` is one block, `Export.Readable.copyBlocks_copied` the loop,
  `Export.Readable.exportDevice_ok` the whole, and `Export.Readable.exportDevice_refused` what there is if a block is not
  read.
* `Export.told` is what a caller is told meanwhile.
-/

namespace PartitionImage

open PartitionImage.Action (perform perform_bind_ok perform_bind_error)

/-- What is written over a part of a string as long as itself takes its place. -/
theorem Bytes.overwrite_append {before part after new : Bytes} (h : new.length = part.length) :
    (before ++ part ++ after : Bytes).overwrite before.length new = before ++ new ++ after := by
  cases new with
  | nil =>
    obtain rfl := List.eq_nil_of_length_eq_zero h.symm
    rfl
  | cons byte new =>
    have hend : before.length + (byte :: new).length = (before ++ part).length := by
      rw [List.length_append, h]
    rw [overwrite, List.isEmpty_cons, if_neg Bool.false_ne_true, hend, List.drop_left, List.append_assoc before part,
      List.take_left, Nat.sub_eq_zero_of_le (by rw [List.length_append]; exact Nat.le_add_right _ _),
      List.replicate_zero, List.append_nil]

namespace Export

/-! ### The output -/

/-- The output when `count` of `total` blocks have been copied: what they show, and zeros for the others. -/
def filled (shown : Nat → Bytes) (blockSize total count : Nat) : Bytes :=
  (List.range count).flatMap shown ++ List.replicate ((total - count) * blockSize) 0

section

variable {shown : Nat → Bytes} {blockSize total count : Nat}

theorem length_flatMap_range (hlength : ∀ block, block < count → (shown block).length = blockSize) :
    ((List.range count).flatMap shown).length = count * blockSize := by
  rw [List.length_flatMap, List.map_congr_left (g := fun _ => blockSize)
    (fun block hblock => hlength block (List.mem_range.mp hblock)), List.map_const', List.sum_replicate_nat,
    List.length_range]

theorem slice_flatMap_range (hlength : ∀ block, block < count → (shown block).length = blockSize) {block : Nat}
    (hblock : block < count) :
    Bytes.slice ((List.range count).flatMap shown) (block * blockSize) blockSize = shown block := by
  have hbefore := length_flatMap_range fun other hother => hlength other (Nat.lt_trans hother hblock)
  obtain ⟨rest, rfl⟩ := Nat.exists_eq_add_of_lt hblock
  rw [Nat.add_assoc, List.range_add, List.flatMap_append, List.range_succ_eq_map, List.map_cons, List.flatMap_cons,
    Nat.add_zero, Bytes.slice, ← hbefore, List.drop_left, List.take_left' (hlength block hblock)]

theorem filled_zero : filled shown blockSize total 0 = List.replicate (total * blockSize) 0 := rfl

theorem filled_total : filled shown blockSize total total = (List.range total).flatMap shown := by
  rw [filled, Nat.sub_self, Nat.zero_mul, List.replicate_zero, List.append_nil]

/-- The zeros that are left begin with those of the next block. -/
theorem filled_eq (hcount : count < total) :
    filled shown blockSize total count
      = (List.range count).flatMap shown ++ List.replicate blockSize 0
        ++ List.replicate ((total - (count + 1)) * blockSize) 0 := by
  have hrest : total - count = total - (count + 1) + 1 := by omega
  rw [filled, hrest, Nat.succ_mul, Nat.add_comm, List.append_assoc, List.replicate_append_replicate]

theorem filled_succ :
    filled shown blockSize total (count + 1)
      = (List.range count).flatMap shown ++ shown count
        ++ List.replicate ((total - (count + 1)) * blockSize) 0 := by
  rw [filled, List.range_succ, List.flatMap_append, List.flatMap_singleton]

/-- A block that shows zeros need not be copied. -/
theorem filled_succ_of_zero (hcount : count < total) (hzero : shown count = List.replicate blockSize 0) :
    filled shown blockSize total (count + 1) = filled shown blockSize total count := by
  rw [filled_succ, filled_eq hcount, hzero]

/-- A block that is written at its place has been copied. -/
theorem overwrite_filled (hlength : ∀ block, block ≤ count → (shown block).length = blockSize)
    (hcount : count < total) :
    (filled shown blockSize total count).overwrite (count * blockSize) (shown count)
      = filled shown blockSize total (count + 1) := by
  have hplace := length_flatMap_range fun block hblock => hlength block (Nat.le_of_lt hblock)
  rw [filled_succ, filled_eq hcount, ← hplace]
  exact Bytes.overwrite_append (by rw [hlength count (Nat.le_refl _), List.length_replicate])

end

/-! ### One block -/

variable {D : Type} [BlockDevice D] {output : String} {file : FileId} {blockSize : Nat} {state : State D}

omit [BlockDevice D] in
theorem perform_tell (event : Event) (state : State D) :
    perform (tell event) state = (.ok (), { state with events := state.events ++ [event] }) := rfl

omit [BlockDevice D] in
theorem perform_onDevice {α : Type} (block : Nat) (act : Action (D × World) Error α) (state : State D) :
    perform (onDevice block act) state
      = ((perform act (state.device, state.world)).1.mapError (.readBlock block),
        { state with
          device := (perform act (state.device, state.world)).2.1
          world := (perform act (state.device, state.world)).2.2 }) := rfl

omit [BlockDevice D] in
theorem perform_onDisk_ok {change : Disk → Except IoError Disk} {after : Disk}
    (h : change state.world.disk = .ok after) :
    perform (onDisk output change) state = (.ok (), { state with world := state.world.withDisk after }) := by
  rw [onDisk, perform_bind_ok (Action.perform_get state), h]
  rfl

theorem perform_readBlock {bytes : Bytes} {before reached : D × World}
    (h : (BlockDevice.read blockSize).run before = (.complete bytes, reached)) :
    perform (readBlock blockSize) before = (.ok bytes, reached) := by
  show (((BlockDevice.read blockSize).run before).1.result.map
      fun _ => ((BlockDevice.read blockSize).run before).1.bytes,
    ((BlockDevice.read blockSize).run before).2) = _
  rw [h]
  rfl

/-- What a caller is told once a block has been copied: `batch` blocks more, if that many are complete. -/
def told (block : Nat) : List Event := if (block + 1) % batch = 0 then [.advance batch] else []

theorem flatMap_told (count : Nat) :
    (List.range count).flatMap told = List.replicate (count / batch) (.advance batch) := by
  induction count with
  | zero => rfl
  | succ count ih =>
    rw [List.range_succ, List.flatMap_append, ih, List.flatMap_singleton, told]
    unfold batch
    split
    · next hwhole =>
      rw [show (count + 1) / 256 = count / 256 + 1 by omega, List.replicate_succ']
    · next hpart =>
      rw [show (count + 1) / 256 = count / 256 by omega, List.append_nil]

theorem perform_copyBlocks_told (count block written : Nat) (state : State D) :
    perform (do
        if (block + 1) % batch = 0 then tell (.advance batch)
        copyBlocks output file blockSize count (block + 1) written) state
      = perform (copyBlocks output file blockSize count (block + 1) written)
          { state with events := state.events ++ told block } := by
  unfold told
  split
  · rfl
  · rw [List.append_nil]

/-- A block is read in any case, so that the cursor moves on, and written if it holds data. -/
theorem perform_copyBlocks_succ {used : Bool} {count block : Nat} (written : Nat) {asked reached : D × World}
    {bytes : Bytes} {after : Disk}
    (hused : perform BlockDevice.isUsed (state.device, state.world) = (.ok used, asked))
    (hread : (BlockDevice.read blockSize).run asked = (.complete bytes, reached))
    (hplace : block * blockSize < range64)
    (hwrite : if used then
        reached.2.disk.write file (block * blockSize) (.ofBytes bytes) = .ok after
      else after = reached.2.disk) :
    perform (copyBlocks output file blockSize (count + 1) block written) state
      = perform (copyBlocks output file blockSize count (block + 1) (if used then written + 1 else written))
          ⟨reached.1, reached.2.withDisk after, state.events ++ told block⟩ := by
  have hasked : perform (onDevice block BlockDevice.isUsed) state
      = (.ok used, { state with device := asked.1, world := asked.2 }) := by
    rw [perform_onDevice, hused]
    rfl
  have harrived : perform (onDevice block (readBlock blockSize)) { state with device := asked.1, world := asked.2 }
      = (.ok bytes, { state with device := reached.1, world := reached.2 }) := by
    rw [perform_onDevice, perform_readBlock hread]
    rfl
  rw [copyBlocks, perform_bind_ok hasked, perform_bind_ok harrived]
  cases used with
  | false =>
    obtain rfl : after = reached.2.disk := hwrite
    exact perform_copyBlocks_told count block written { state with device := reached.1, world := reached.2 }
  | true =>
    have hwritten : perform (onDisk output (·.write file (block * blockSize) (.ofBytes bytes)))
          { state with device := reached.1, world := reached.2 }
        = (.ok (), { state with device := reached.1, world := reached.2.withDisk after }) :=
      perform_onDisk_ok hwrite
    dsimp only
    rw [if_pos rfl, place?, checked64?_of_lt hplace]
    dsimp only
    rw [perform_bind_ok hwritten]
    exact perform_copyBlocks_told count block (written + 1)
      { state with device := reached.1, world := reached.2.withDisk after }

/-- The block at the cursor cannot be told or read, which leaves the disk as it is. -/
inductive Refuses (blockSize : Nat) (cause : Error) (state : D × World) : Prop
  | untold {asked : D × World} (hused : perform BlockDevice.isUsed state = (.error cause, asked))
    (hdisk : asked.2.disk = state.2.disk)
  | unread {used : Bool} {asked reached : D × World} {bytes : Bytes}
    (hused : perform BlockDevice.isUsed state = (.ok used, asked))
    (hread : (BlockDevice.read blockSize).run asked = (⟨bytes, .error cause⟩, reached))
    (hdisk : reached.2.disk = state.2.disk)

theorem perform_copyBlocks_refused {cause : Error} (h : Refuses blockSize cause (state.device, state.world))
    (count block written : Nat) :
    ∃ final, perform (copyBlocks output file blockSize (count + 1) block written) state
        = (.error (.readBlock block cause), final)
      ∧ final.world.disk = state.world.disk ∧ final.events = state.events := by
  rw [copyBlocks]
  cases h with
  | @untold asked hused hdisk =>
    have hasked : perform (onDevice block BlockDevice.isUsed) state
        = (.error (.readBlock block cause), { state with device := asked.1, world := asked.2 }) := by
      rw [perform_onDevice, hused]
      rfl
    exact ⟨_, perform_bind_error hasked, hdisk, rfl⟩
  | @unread used asked reached bytes hused hread hdisk =>
    have hasked : perform (onDevice block BlockDevice.isUsed) state
        = (.ok used, { state with device := asked.1, world := asked.2 }) := by
      rw [perform_onDevice, hused]
      rfl
    have hstopped : perform (readBlock blockSize) asked = (.error cause, reached) := by
      show (((BlockDevice.read blockSize).run asked).1.result.map
          fun _ => ((BlockDevice.read blockSize).run asked).1.bytes,
        ((BlockDevice.read blockSize).run asked).2) = _
      rw [hread]
      rfl
    have harrived : perform (onDevice block (readBlock blockSize))
          { state with device := asked.1, world := asked.2 }
        = (.error (.readBlock block cause), { state with device := reached.1, world := reached.2 }) := by
      rw [perform_onDevice, hstopped]
      rfl
    rw [perform_bind_ok hasked, perform_bind_error harrived]
    exact ⟨_, rfl, hdisk, rfl⟩

/-- An export makes the output, gives it its length and moves to the first block, before it copies any. -/
theorem perform_exportDevice {device : D} {world : World} {events : List Event} {total : Nat}
    (hblockSize : BlockDevice.blockSize? device = some blockSize)
    (hblockCount : BlockDevice.blockCount? device = some total) {made sized : Disk}
    (hcreate : world.disk.create output = .ok (file, made))
    (hlength : total * blockSize < range64) (hset : made.setLength file (total * blockSize) = .ok sized)
    {result : Except Error Unit}
    {reached : D × World}
    (hseek : perform (BlockDevice.seek 0) (device, world.withDisk sized) = (result, reached)) :
    perform (exportDevice output) ⟨device, world, events⟩
      = match result with
        | .error cause => (.error (.readBlock 0 cause),
            ⟨reached.1, reached.2, events ++ [.start output total blockSize]⟩)
        | .ok () => perform (do
            let written ← copyBlocks output file blockSize total 0 0
            tell (.advance (total % batch))
            tell (.completed written)
            return { blocks := total, written := written })
          ⟨reached.1, reached.2, events ++ [.start output total blockSize]⟩ := by
  have hmade : (world.disk.create output).mapError (ExportError.createFile output) = .ok (file, made) :=
    Action.mapError_eq_ok_iff.mpr hcreate
  have hsized : perform (onDisk output (·.setLength file (total * blockSize)))
        (⟨device, world.withDisk made, events⟩ : State D)
      = (.ok (), ⟨device, world.withDisk sized, events⟩) := perform_onDisk_ok hset
  have hsought : perform (onDevice 0 (BlockDevice.seek 0))
        ⟨device, world.withDisk sized, events ++ [.start output total blockSize]⟩
      = (result.mapError (.readBlock 0), ⟨reached.1, reached.2, events ++ [.start output total blockSize]⟩) := by
    rw [perform_onDevice, hseek]
  rw [exportDevice, perform_bind_ok (Action.perform_get _)]
  dsimp only
  rw [hblockSize]
  dsimp only
  rw [hblockCount]
  dsimp only
  rw [hmade, perform_bind_ok (Action.perform_ofExcept _ _)]
  dsimp only
  rw [perform_bind_ok (Action.perform_modify _ _), place?, checked64?_of_lt hlength]
  dsimp only
  rw [perform_bind_ok hsized, perform_bind_ok (perform_tell _ _)]
  cases result with
  | error cause => exact perform_bind_error hsought
  | ok done => exact perform_bind_ok hsought

/-! ### A device that is read -/

/-- From the states that are `ready` with the cursor on a block the blocks of a device are read one after the other:
`used` says which of them hold data, and `bytes` what arrives.  What is written to the output does not matter. -/
structure Readable (file : FileId) (blockSize total : Nat) (used : Nat → Bool) (bytes : Nat → Bytes)
    (ready : Nat → D × World → Prop) : Prop where
  isUsed : ∀ {block state}, ready block state → block < total →
    ∃ reached, perform BlockDevice.isUsed state = (.ok (used block), reached) ∧ ready block reached
      ∧ reached.2.disk = state.2.disk
  read : ∀ {block state}, ready block state → block < total →
    ∃ reached, (BlockDevice.read blockSize).run state = (.complete (bytes block), reached)
      ∧ ready (block + 1) reached ∧ reached.2.disk = state.2.disk
  length_eq : ∀ {block}, block < total → (bytes block).length = blockSize
  apart : ∀ {block device world after}, ready block (device, world) → Disk.ChangesOnly file world.disk after →
    ready block (device, world.withDisk after)

/-- What there is of a block in the output: `bytes` of it if it is used, and zeros otherwise. -/
def shown (used : Nat → Bool) (bytes : Nat → Bytes) (blockSize block : Nat) : Bytes :=
  if used block then bytes block else List.replicate blockSize 0

namespace Readable

variable {total : Nat} {used : Nat → Bool} {bytes : Nat → Bytes} {ready : Nat → D × World → Prop}

theorem length_shown (h : Readable file blockSize total used bytes ready) {block : Nat} (hblock : block < total) :
    (shown used bytes blockSize block).length = blockSize := by
  unfold shown
  split
  · exact h.length_eq hblock
  · exact List.length_replicate

/-- A block is in the output once it has been copied, whether it had to be written or not. -/
theorem exists_copied {whole : Nat} (h : Readable file blockSize total used bytes ready) (hwhole : total ≤ whole)
    {disk : Disk} {block : Nat} (hblock : block < total) (hfile : disk.IsFile file)
    (hcontent : disk.content file = filled (shown used bytes blockSize) blockSize whole block)
    (hreach : whole * blockSize ≤ Disk.maxOffset) (hlimit : whole * blockSize ≤ disk.sizeLimit) :
    ∃ after, block * blockSize < range64
      ∧ (if used block then disk.write file (block * blockSize) (.ofBytes (bytes block)) = .ok after
        else after = disk)
      ∧ Disk.ChangesOnly file disk after
      ∧ after.content file = filled (shown used bytes blockSize) blockSize whole (block + 1) := by
  have hbefore : block < whole := Nat.lt_of_lt_of_le hblock hwhole
  have hstart : block * blockSize < range64 :=
    Nat.lt_of_le_of_lt (Nat.le_trans (Nat.mul_le_mul_right _ (Nat.le_of_lt hbefore)) hreach) (by decide)
  cases hused : used block with
  | false =>
    refine ⟨disk, hstart, rfl, .refl _ _, ?_⟩
    rw [hcontent, filled_succ_of_zero hbefore (by rw [shown, hused]; rfl)]
  | true =>
    have hplace : block * blockSize + blockSize ≤ whole * blockSize := by
      rw [← Nat.succ_mul]
      exact Nat.mul_le_mul_right _ hbefore
    have hfit : block * blockSize + (Packed.ofBytes (bytes block)).size ≤ whole * blockSize := by
      rw [Packed.size_ofBytes, h.length_eq hblock]
      exact hplace
    have hshown : shown used bytes blockSize block = bytes block := by
      rw [shown, hused]
      rfl
    obtain ⟨after, hwrite⟩ := Disk.exists_write file hfit hreach hlimit
    refine ⟨after, hstart, hwrite, Disk.changesOnly_write hwrite, ?_⟩
    rw [Disk.content_write _ hfile hwrite, hcontent, Packed.toBytes_ofBytes, ← hshown]
    exact overwrite_filled (fun _ hother => h.length_shown (Nat.lt_of_le_of_lt hother hblock)) hbefore

/-- **Blocks are copied after those that have been**, while more of the output is left. -/
theorem copyBlocks_copied {whole : Nat} (h : Readable file blockSize total used bytes ready) (hwhole : total ≤ whole)
    {count block : Nat} (hsum : block + count = total) (rest written : Nat)
    (hready : ready block (state.device, state.world)) (hfile : state.world.disk.IsFile file)
    (hcontent : state.world.disk.content file = filled (shown used bytes blockSize) blockSize whole block)
    (hreach : whole * blockSize ≤ Disk.maxOffset) (hlimit : whole * blockSize ≤ state.world.disk.sizeLimit) :
    ∃ final, perform (copyBlocks output file blockSize (count + rest) block written) state
        = perform (copyBlocks output file blockSize rest total (written + (List.range' block count).countP used)) final
      ∧ ready total (final.device, final.world)
      ∧ final.world.disk.content file = filled (shown used bytes blockSize) blockSize whole total
      ∧ Disk.ChangesOnly file state.world.disk final.world.disk
      ∧ final.events = state.events ++ (List.range' block count).flatMap told := by
  induction count generalizing block written state with
  | zero =>
    obtain rfl : block = total := hsum
    exact ⟨state, by rw [Nat.zero_add]; rfl, hready, hcontent, .refl _ _, (List.append_nil _).symm⟩
  | succ count ih =>
    have hblock : block < total := by omega
    obtain ⟨asked, hused, hasked, hdisk⟩ := h.isUsed hready hblock
    obtain ⟨reached, hread, hreached, hsame⟩ := h.read hasked hblock
    obtain ⟨after, hplace, hwrite, hchanges, hfilled⟩ :=
      h.exists_copied hwhole hblock hfile hcontent hreach hlimit
    rw [← hdisk, ← hsame] at hwrite
    have hnext : ready (block + 1) (reached.1, reached.2.withDisk after) :=
      h.apart hreached ((hsame.trans hdisk).symm ▸ hchanges)
    obtain ⟨final, hrun, hend, hfinal, hrest, hevents⟩ :=
      @ih ⟨reached.1, reached.2.withDisk after, state.events ++ told block⟩ (block + 1) (by omega)
        (if used block then written + 1 else written) hnext ((hchanges.isFile_iff file).mpr hfile) hfilled
        (hchanges.sizeLimit_eq.symm ▸ hlimit)
    refine ⟨final, ?_, hend, hfinal, hchanges.trans hrest, ?_⟩
    · rw [Nat.succ_add, perform_copyBlocks_succ written hused hread hplace hwrite, hrun, List.range'_succ,
        List.countP_cons]
      cases used block with
      | false => rfl
      | true => rw [if_pos rfl, if_pos rfl, Nat.add_assoc, Nat.add_comm 1]
    · rw [hevents, List.range'_succ, List.flatMap_cons, List.append_assoc]

/-- The output before a block is copied: as long as the device, and zeros. -/
theorem exists_sized {blocks : Nat} {disk made : Disk} (hsound : disk.Sound)
    (hcreate : disk.create output = .ok (file, made)) (hreach : blocks * blockSize ≤ Disk.maxOffset)
    (hlimit : blocks * blockSize ≤ disk.sizeLimit) :
    ∃ sized, made.setLength file (blocks * blockSize) = .ok sized ∧ Disk.ChangesOnly file made sized
      ∧ sized.IsFile file ∧ blocks * blockSize ≤ sized.sizeLimit
      ∧ ∀ shown : Nat → Bytes, sized.content file = filled shown blockSize blocks 0 := by
  have hfile := (hsound.create hcreate).isFile (Disk.lookupFile_create hcreate)
  rw [← Disk.sizeLimit_create hcreate] at hlimit
  obtain ⟨sized, hset⟩ : ∃ sized, made.setLength file (blocks * blockSize) = .ok sized :=
    ⟨_, (made.setLength_eq_ok_iff file _ _).mpr
      ⟨(made.lengthRefusal?_eq_none_iff _).mpr ⟨hreach, hlimit⟩, rfl⟩⟩
  have hchanges := Disk.changesOnly_setLength hset
  refine ⟨sized, hset, hchanges, (hchanges.isFile_iff file).mpr hfile, hchanges.sizeLimit_eq.symm ▸ hlimit, ?_⟩
  intro shown
  rw [made.content_setLength hfile hset, Disk.content_create hsound hcreate, filled_zero, Bytes.resize,
    List.take_nil, List.nil_append]
  rfl

/-- **An export writes every block that holds data**, and leaves zeros for the others.  Nothing is asked of the place
of the cursor, but that it can be moved to the first block once the output has its length. -/
theorem exportDevice_ok (h : Readable file blockSize total used bytes ready) {world : World} {device : D}
    (events : List Event) (hblockSize : BlockDevice.blockSize? device = some blockSize)
    (hblockCount : BlockDevice.blockCount? device = some total) (hsound : world.disk.Sound) {made : Disk}
    (hcreate : world.disk.create output = .ok (file, made)) (hreach : total * blockSize ≤ Disk.maxOffset)
    (hlimit : total * blockSize ≤ world.disk.sizeLimit)
    (hrewind : ∀ sized, Disk.ChangesOnly file made sized →
      ∃ reached, perform (BlockDevice.seek 0) (device, world.withDisk sized) = (.ok (), reached)
        ∧ ready 0 reached ∧ reached.2.disk = sized) :
    ∃ final, perform (exportDevice output) ⟨device, world, events⟩
        = (.ok ⟨total, (List.range total).countP used⟩, final)
      ∧ final.world.disk.content file = (List.range total).flatMap (shown used bytes blockSize)
      ∧ Disk.ChangesOnly file made final.world.disk
      ∧ final.events = events ++ ([.start output total blockSize] ++ List.replicate (total / batch) (.advance batch)
        ++ [.advance (total % batch), .completed ((List.range total).countP used)]) := by
  obtain ⟨sized, hset, hchanges, hfile, hlimit, hzero⟩ := exists_sized hsound hcreate hreach hlimit
  obtain ⟨reached, hseek, hreached, rfl⟩ := hrewind sized hchanges
  obtain ⟨final, hrun, -, hfinal, hrest, hevents⟩ := @copyBlocks_copied D _ output file blockSize
    ⟨reached.1, reached.2, events ++ [.start output total blockSize]⟩ total used bytes ready total h (Nat.le_refl _)
    total 0 (Nat.zero_add total) 0 0 hreached hfile (hzero _) hreach hlimit
  rw [Nat.zero_add, ← List.range_eq_range'] at hrun
  rw [← List.range_eq_range', flatMap_told] at hevents
  have hcopied : perform (copyBlocks output file blockSize total 0 0)
      ⟨reached.1, reached.2, events ++ [.start output total blockSize]⟩
        = (.ok ((List.range total).countP used), final) := hrun
  refine ⟨{ final with events := final.events ++ [.advance (total % batch)]
      ++ [.completed ((List.range total).countP used)] }, ?_, hfinal.trans filled_total, hchanges.trans hrest, ?_⟩
  · rw [perform_exportDevice hblockSize hblockCount hcreate (Nat.lt_of_le_of_lt hreach (by decide)) hset hseek]
    dsimp only
    rw [perform_bind_ok hcopied]
    rfl
  · show final.events ++ _ ++ _ = _
    rw [hevents]
    simp only [List.append_assoc, List.cons_append, List.nil_append]

/-- **An export ends at the first block that cannot be told or read.**  The blocks before it are in the output, and
zeros where the others would be. -/
theorem exportDevice_refused {whole : Nat} (h : Readable file blockSize total used bytes ready) (hless : total < whole)
    {world : World} {device : D} (events : List Event)
    (hblockSize : BlockDevice.blockSize? device = some blockSize)
    (hblockCount : BlockDevice.blockCount? device = some whole) (hsound : world.disk.Sound) {made : Disk}
    (hcreate : world.disk.create output = .ok (file, made)) (hreach : whole * blockSize ≤ Disk.maxOffset)
    (hlimit : whole * blockSize ≤ world.disk.sizeLimit)
    (hrewind : ∀ sized, Disk.ChangesOnly file made sized →
      ∃ reached, perform (BlockDevice.seek 0) (device, world.withDisk sized) = (.ok (), reached)
        ∧ ready 0 reached ∧ reached.2.disk = sized)
    {cause : Error} (hrefuses : ∀ state, ready total state → Refuses blockSize cause state) :
    ∃ final, perform (exportDevice output) ⟨device, world, events⟩ = (.error (.readBlock total cause), final)
      ∧ final.world.disk.content file = filled (shown used bytes blockSize) blockSize whole total
      ∧ Disk.ChangesOnly file made final.world.disk
      ∧ final.events = events ++ ([.start output whole blockSize]
        ++ List.replicate (total / batch) (.advance batch)) := by
  obtain ⟨sized, hset, hchanges, hfile, hlimit, hzero⟩ := exists_sized hsound hcreate hreach hlimit
  obtain ⟨reached, hseek, hreached, rfl⟩ := hrewind sized hchanges
  obtain ⟨middle, hrun, hmiddle, hcontent, hrest, hevents⟩ := @copyBlocks_copied D _ output file blockSize
    ⟨reached.1, reached.2, events ++ [.start output whole blockSize]⟩ total used bytes ready whole h
    (Nat.le_of_lt hless) total 0 (Nat.zero_add total) (whole - total) 0 hreached hfile (hzero _) hreach hlimit
  rw [Nat.add_sub_cancel' (Nat.le_of_lt hless)] at hrun
  rw [← List.range_eq_range', flatMap_told] at hevents
  obtain ⟨left, hleft⟩ : ∃ left, whole - total = left + 1 := ⟨whole - total - 1, by omega⟩
  obtain ⟨final, hstop, hdisk, hsame⟩ :=
    perform_copyBlocks_refused (hrefuses _ hmiddle) left total _
  rw [hleft, hstop] at hrun
  refine ⟨final, ?_, hdisk ▸ hcontent, hdisk ▸ hchanges.trans hrest, ?_⟩
  · rw [perform_exportDevice hblockSize hblockCount hcreate (Nat.lt_of_le_of_lt hreach (by decide)) hset hseek]
    exact perform_bind_error hrun
  · rw [hsame, hevents, List.append_assoc]

end Readable

end Export

end PartitionImage
