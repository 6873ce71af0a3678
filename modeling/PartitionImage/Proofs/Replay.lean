import PartitionImage.Proofs.Handles
import PartitionImage.Proofs.Replies
/-!
# Exports of devices that repeat themselves

An export asks for one block after the other.  Where a device gives again what it gave, each of them is what a seek to
the block and a read gave in the state before the export, and so is the first that is not given.

* `Export.Exact` says what an export has to make of a state: what is in the output, and what a caller is told.
* `Export.Replays` is a device that repeats itself block by block, whatever is written to the output.
* `Export.Replays.exact` is the whole, `Export.Replays.within` a device that is made part of another.
* `Export.Repeating` is a device with an overlay that repeats itself, `Export.Repeating.replays` says that it does so too.
-/

namespace PartitionImage.Export

open PartitionImage.Action (perform perform_bind_ok perform_bind_error)
open Overlay (Reply)

/-! ### What an export has to make of a state -/

def Event.blocks : Event → Nat
  | .advance blocks => blocks
  | .start .. | .completed _ => 0

def advanced (events : List Event) : Nat := (events.map Event.blocks).sum

section

variable {D : Type} [BlockDevice D]

/-- Whether a block holds data, if `isUsedAt` can tell. -/
def usedAt (state : D × World) (block : Nat) : Bool :=
  match (perform (BlockDevice.isUsedAt block) state).1 with
  | .ok used => used
  | .error _ => false

/-- What `readAt` gives of a block. -/
def transferAt (blockSize : Nat) (state : D × World) (block : Nat) : Transfer Error Unit :=
  ((BlockDevice.readAt block blockSize).run state).1

/-- An output into which the first of the blocks have been copied: those of them that hold data, and zeros for the
others and for all that follow. -/
structure Copied (blockSize total count : Nat) (state : D × World) (content : Bytes) : Prop where
  length_eq : content.length = total * blockSize
  block_eq : ∀ block, block < total → content.slice (block * blockSize) blockSize
    = if block < count ∧ usedAt state block = true then (transferAt blockSize state block).bytes
      else List.replicate blockSize 0

/-- What an export has to make of a state. -/
structure Exact (output : String) (file : FileId) (blockSize total : Nat) (state : D × World) : Prop where
  /-- If every block can be read, they are all copied.  A device without blocks has to be moved to its end. -/
  complete : (total = 0 → (perform (BlockDevice.seek 0) state).1 = .ok ()) →
    (∀ block, block < total → (transferAt blockSize state block).result = .ok ()) →
      ∃ final, perform (exportDevice output) ⟨state.1, state.2, []⟩
          = (.ok ⟨total, (List.range total).countP (usedAt state)⟩, final)
        ∧ Copied blockSize total total state (final.world.disk.content file)
        ∧ final.events = [.start output total blockSize] ++ List.replicate (total / batch) (.advance batch)
          ++ [.advance (total % batch), .completed ((List.range total).countP (usedAt state))]
        ∧ advanced final.events = total
  /-- The first block that cannot be told or read ends the export. -/
  refused : ∀ block, block < total →
    (∀ earlier, earlier < block → (transferAt blockSize state earlier).result = .ok ()) →
    (∃ cause, (perform (BlockDevice.isUsedAt block) state).1 = .error cause
      ∨ (transferAt blockSize state block).result = .error cause) →
      ∃ cause final, (transferAt blockSize state block).result = .error cause
        ∧ perform (exportDevice output) ⟨state.1, state.2, []⟩ = (.error (.readBlock block cause), final)
        ∧ Copied blockSize total block state (final.world.disk.content file)
        ∧ final.events = [.start output total blockSize] ++ List.replicate (block / batch) (.advance batch)

/-! ### The output -/

omit [BlockDevice D] in
theorem advanced_eq (output : String) (total blockSize written : Nat) :
    advanced ([.start output total blockSize] ++ List.replicate (total / batch) (.advance batch)
      ++ [.advance (total % batch), .completed written]) = total := by
  simp only [advanced, List.map_append, List.map_cons, List.map_nil, List.map_replicate, List.sum_append,
    List.sum_cons, List.sum_nil, List.sum_replicate_nat, Event.blocks, Nat.add_zero, Nat.zero_add]
  exact Nat.div_add_mod' total batch

theorem filled_eq_flatMap {shown : Nat → Bytes} {blockSize total count : Nat} (hcount : count ≤ total) :
    filled shown blockSize total count
      = (List.range total).flatMap fun block => if block < count then shown block else List.replicate blockSize 0 := by
  obtain ⟨rest, rfl⟩ := Nat.exists_eq_add_of_le hcount
  have hfirst : (List.range count).flatMap
      (fun block => if block < count then shown block else List.replicate blockSize 0)
        = (List.range count).flatMap shown := by
    refine List.flatMap_congr fun block hblock => if_pos (List.mem_range.mp hblock)
  have hlast : ∀ rest, ((List.range rest).map (count + ·)).flatMap
      (fun block => if block < count then shown block else List.replicate blockSize 0)
        = List.replicate (rest * blockSize) 0 := by
    intro rest
    induction rest with
    | zero => rw [Nat.zero_mul]; rfl
    | succ rest ih =>
      rw [List.range_succ, List.map_append, List.flatMap_append, ih, List.map_singleton, List.flatMap_singleton,
        if_neg (by omega), List.replicate_append_replicate, Nat.succ_mul]
  rw [List.range_add, List.flatMap_append, hfirst, hlast, filled, Nat.add_sub_cancel_left]

theorem copied_of_filled {blockSize total count : Nat} {state : D × World} {content : Bytes} (hcount : count ≤ total)
    (hlength : ∀ block, block < count → (transferAt blockSize state block).bytes.length = blockSize)
    (hcontent : content = filled (shown (usedAt state) (fun block => (transferAt blockSize state block).bytes) blockSize)
      blockSize total count) : Copied blockSize total count state content := by
  rw [filled_eq_flatMap hcount] at hcontent
  have hblocks : ∀ block, block < total → (if block < count then
      shown (usedAt state) (fun block => (transferAt blockSize state block).bytes) blockSize block
        else List.replicate blockSize 0).length = blockSize := by
    intro block _
    unfold shown
    split
    · next hlt =>
      split
      · exact hlength block hlt
      · exact List.length_replicate
    · exact List.length_replicate
  subst hcontent
  refine ⟨length_flatMap_range hblocks, fun block hblock => ?_⟩
  rw [slice_flatMap_range hblocks hblock]
  unfold shown
  by_cases hlt : block < count
  · rw [if_pos hlt]
    cases hused : usedAt state block with
    | true => rw [if_pos rfl, if_pos ⟨hlt, rfl⟩]
    | false => rw [if_neg Bool.false_ne_true, if_neg fun h => Bool.false_ne_true h.2]
  · rw [if_neg hlt, if_neg fun h => hlt h.1]

end

/-! ### Devices -/

/-- A device that gives again, from the states that are `ready` with the cursor on a block, what it gave in the state
`origin` after a seek to the block.  What is written to the output does not matter. -/
structure Replays {D : Type} [BlockDevice D] (file : FileId) (blockSize total : Nat) (origin : D × World)
    (ready : Nat → D × World → Prop) : Prop where
  rewind : ∀ {disk}, Disk.Beside file origin.2.disk disk →
    ∃ reached, perform (BlockDevice.seek 0) (origin.1, origin.2.withDisk disk)
        = ((perform (BlockDevice.seek 0) origin).1, reached)
      ∧ reached.2.disk = disk ∧ ((perform (BlockDevice.seek 0) origin).1 = .ok () → ready 0 reached)
  isUsed : ∀ {block state}, ready block state → block < total →
    (transferAt blockSize origin block).result = .ok () →
      ∃ reached, perform BlockDevice.isUsed state = (.ok (usedAt origin block), reached) ∧ ready block reached
        ∧ reached.2.disk = state.2.disk
  read : ∀ {block state}, ready block state → block < total →
    (transferAt blockSize origin block).result = .ok () →
      ∃ reached, (BlockDevice.read blockSize).run state = (transferAt blockSize origin block, reached)
        ∧ ready (block + 1) reached ∧ reached.2.disk = state.2.disk
  length_eq : ∀ {block}, block < total → (transferAt blockSize origin block).result = .ok () →
    (transferAt blockSize origin block).bytes.length = blockSize
  /-- A block that can be read can be told. -/
  unread : ∀ {block cause}, block < total → (perform (BlockDevice.isUsedAt block) origin).1 = .error cause →
    ∃ cause, (transferAt blockSize origin block).result = .error cause
  refuses : ∀ {block state cause}, ready block state → block < total →
    (transferAt blockSize origin block).result = .error cause → Refuses blockSize cause state
  apart : ∀ {block device world after}, ready block (device, world) → Disk.ChangesOnly file world.disk after →
    ready block (device, world.withDisk after)

namespace Replays

variable {D : Type} [BlockDevice D] {output : String} {file : FileId} {blockSize total : Nat} {origin : D × World}
  {ready : Nat → D × World → Prop}

/-- Blocks that can be read are read one after the other. -/
theorem readable (h : Replays file blockSize total origin ready) {count : Nat} (hcount : count ≤ total)
    (hreads : ∀ block, block < count → (transferAt blockSize origin block).result = .ok ()) :
    Readable file blockSize count (usedAt origin) (fun block => (transferAt blockSize origin block).bytes) ready where
  isUsed hready hblock := h.isUsed hready (Nat.lt_of_lt_of_le hblock hcount) (hreads _ hblock)
  read {block state} hready hblock := by
    obtain ⟨reached, hread, hrest⟩ := h.read hready (Nat.lt_of_lt_of_le hblock hcount) (hreads _ hblock)
    have hcomplete : transferAt blockSize origin block = .complete (transferAt blockSize origin block).bytes := by
      have hresult := hreads block hblock
      generalize transferAt blockSize origin block = transfer at hresult ⊢
      obtain ⟨bytes, result⟩ := transfer
      obtain rfl : result = .ok () := hresult
      rfl
    rw [hcomplete] at hread
    exact ⟨reached, hread, hrest⟩
  length_eq hblock := h.length_eq (Nat.lt_of_lt_of_le hblock hcount) (hreads _ hblock)
  apart := h.apart

theorem seek_of_transferAt {block : Nat}
    (hread : (transferAt blockSize origin block).result = .ok ()) :
    (perform (BlockDevice.seek block) origin).1 = .ok () := by
  rcases hseek : perform (BlockDevice.seek block) origin with ⟨result, sought⟩
  cases result with
  | ok done => rfl
  | error cause =>
    rw [transferAt, BlockDevice.run_readAt_error hseek] at hread
    cases hread

/-- **An export is exact**, whatever the state is that it starts from. -/
theorem exact (h : Replays file blockSize total origin ready)
    (hblockSize : BlockDevice.blockSize? origin.1 = some blockSize)
    (hblockCount : BlockDevice.blockCount? origin.1 = some total) (hsound : origin.2.disk.Sound) {made : Disk}
    (hcreate : origin.2.disk.create output = .ok (file, made)) (hreach : total * blockSize ≤ Disk.maxOffset)
    (hlimit : total * blockSize ≤ origin.2.disk.sizeLimit) : Exact output file blockSize total origin := by
  have hmade := Disk.beside_create hcreate
  have hrewind : (perform (BlockDevice.seek 0) origin).1 = .ok () → ∀ sized, Disk.ChangesOnly file made sized →
      ∃ reached, perform (BlockDevice.seek 0) (origin.1, origin.2.withDisk sized) = (.ok (), reached)
        ∧ ready 0 reached ∧ reached.2.disk = sized := by
    intro hseek sized hchanges
    obtain ⟨reached, hrun, hdisk, hready⟩ := h.rewind (hmade.trans hchanges.beside)
    exact ⟨reached, hrun.trans (congrArg (·, reached) hseek), hready hseek, hdisk⟩
  constructor
  · intro hempty hreads
    have hseek : (perform (BlockDevice.seek 0) origin).1 = .ok () := by
      rcases Nat.eq_zero_or_pos total with hzero | hpos
      · exact hempty hzero
      · exact seek_of_transferAt (hreads 0 hpos)
    have hreadable := h.readable (Nat.le_refl total) hreads
    obtain ⟨final, hrun, hcontent, -, hevents⟩ := hreadable.exportDevice_ok [] hblockSize hblockCount
      hsound hcreate hreach hlimit (hrewind hseek)
    rw [List.nil_append] at hevents
    refine ⟨final, hrun, ?_, hevents, ?_⟩
    · exact copied_of_filled (Nat.le_refl total) (fun block hblock => hreadable.length_eq hblock)
        (hcontent.trans filled_total.symm)
    · rw [hevents]
      exact advanced_eq output total blockSize _
  · intro block hblock hreads hfails
    obtain ⟨cause, hcause⟩ : ∃ cause, (transferAt blockSize origin block).result = .error cause := by
      obtain ⟨cause, huntold | hunread⟩ := hfails
      · exact h.unread hblock huntold
      · exact ⟨cause, hunread⟩
    have hreadable := h.readable (Nat.le_of_lt hblock) hreads
    rcases hseek : perform (BlockDevice.seek 0) origin with ⟨result, sought⟩
    cases result with
    | ok done =>
      obtain ⟨final, hrun, hcontent, -, hevents⟩ := hreadable.exportDevice_refused hblock []
        hblockSize hblockCount hsound hcreate hreach hlimit (hrewind (congrArg Prod.fst hseek))
        fun state hready => h.refuses hready hblock hcause
      exact ⟨cause, final, hcause, hrun,
        copied_of_filled (Nat.le_of_lt hblock) (fun earlier hearlier => hreadable.length_eq hearlier) hcontent, hevents⟩
    | error refusal =>
      -- the first block cannot be sought, so that it is the one that is not read
      have hfirst : transferAt blockSize origin 0 = .failed refusal :=
        congrArg Prod.fst (BlockDevice.run_readAt_error hseek)
      obtain rfl : block = 0 := by
        refine Nat.eq_zero_of_not_pos fun hpos => ?_
        have hread := hreads 0 hpos
        rw [hfirst] at hread
        cases hread
      obtain ⟨sized, hset, hchanges, -, -, hzero⟩ := Readable.exists_sized hsound hcreate hreach hlimit
      obtain ⟨reached, hrun, hdisk, -⟩ := h.rewind (hmade.trans hchanges.beside)
      rw [hseek] at hrun
      refine ⟨refusal, _, congrArg Transfer.result hfirst,
        perform_exportDevice hblockSize hblockCount hcreate (Nat.lt_of_le_of_lt hreach (by decide)) hset hrun, ?_,
        rfl⟩
      refine copied_of_filled (Nat.zero_le total) (fun earlier hearlier => absurd hearlier (Nat.not_lt_zero _)) ?_
      show reached.2.disk.content file = _
      rw [hdisk]
      exact hzero _

theorem within {E : Type} [BlockDevice E] {embed : D → E} (h : Replays file blockSize total origin ready)
    (hembeds : BlockDevice.Embeds embed) :
    Replays file blockSize total (Prod.map embed id origin) fun block => BlockDevice.Within embed (ready block) := by
  have htransfer : ∀ block, transferAt blockSize (Prod.map embed id origin) block = transferAt blockSize origin block :=
    fun block => hembeds.run_readAt block blockSize origin
  have hused : ∀ block, usedAt (Prod.map embed id origin) block = usedAt origin block := by
    intro block
    rw [usedAt, usedAt, hembeds.perform_isUsedAt]
  have hseek : (perform (BlockDevice.seek 0) (Prod.map embed id origin)).1 = (perform (BlockDevice.seek 0) origin).1 :=
    congrArg Prod.fst (hembeds.seek 0 origin.1 origin.2)
  constructor
  · intro disk hbeside
    obtain ⟨reached, hrun, hdisk, hready⟩ := h.rewind hbeside
    refine ⟨Prod.map embed id reached, ?_, hdisk, fun hok => ⟨reached.1, hready (hseek ▸ hok), rfl⟩⟩
    rw [hseek]
    exact (hembeds.seek 0 origin.1 (origin.2.withDisk disk)).trans (by rw [hrun])
  · rintro block ⟨_, world⟩ ⟨device, hready, rfl⟩ hblock hread
    rw [htransfer] at hread
    obtain ⟨⟨reached, after⟩, hrun, hreached, hdisk⟩ := h.isUsed hready hblock hread
    rw [hused, hembeds.isUsed, hrun]
    exact ⟨_, rfl, ⟨reached, hreached, rfl⟩, hdisk⟩
  · rintro block ⟨_, world⟩ ⟨device, hready, rfl⟩ hblock hread
    rw [htransfer] at hread ⊢
    obtain ⟨⟨reached, after⟩, hrun, hreached, hdisk⟩ := h.read hready hblock hread
    rw [hembeds.read, hrun]
    exact ⟨_, rfl, ⟨reached, hreached, rfl⟩, hdisk⟩
  · intro block hblock hread
    rw [htransfer] at hread ⊢
    exact h.length_eq hblock hread
  · intro block cause hblock huntold
    rw [hembeds.perform_isUsedAt] at huntold
    rw [htransfer]
    exact h.unread hblock huntold
  · rintro block ⟨_, world⟩ cause ⟨device, hready, rfl⟩ hblock hcause
    rw [htransfer] at hcause
    cases h.refuses hready hblock hcause with
    | @untold asked hasked hdisk =>
      have hembedded : perform BlockDevice.isUsed (embed device, world) = (.error cause, Prod.map embed id asked) := by
        rw [hembeds.isUsed, hasked]
      exact .untold hembedded hdisk
    | @unread used asked reached bytes hasked hread hdisk =>
      have hembedded : perform BlockDevice.isUsed (embed device, world) = (.ok used, Prod.map embed id asked) := by
        rw [hembeds.isUsed, hasked]
      have hgiven : (BlockDevice.read blockSize).run (Prod.map embed id asked)
          = (⟨bytes, .error cause⟩, Prod.map embed id reached) :=
        (hembeds.read blockSize asked.1 asked.2).trans (by rw [hread])
      exact .unread hembedded hgiven hdisk
  · rintro block _ world after ⟨device, hready, rfl⟩ hchanges
    exact ⟨device, h.apart hready hchanges, rfl⟩

end Replays

/-! ### Devices with an overlay that repeats itself -/

/-- A device whose handles do again what they did in the state `origin`.  The overlay makes `reply` of a block, `told`
is whether the block holds data, and `outcome` what a read of it gives. -/
structure Repeating {D : Type} [BlockDevice D] (file : FileId) (blockSize total : Nat) (reply : Nat → Reply)
    (told : Nat → Except Error Bool) (outcome : Nat → Transfer Error Unit) (origin : D × World)
    (ready : Nat → D × World → Prop) : Prop where
  seek : ∀ {disk block}, Disk.Beside file origin.2.disk disk → block ≤ total →
    ∃ reached, perform (BlockDevice.seek block) (origin.1, origin.2.withDisk disk) = ((reply block).moved, reached)
      ∧ reached.2.disk = disk ∧ ((reply block).moved = .ok () → ready block reached)
  isUsed : ∀ {block state}, ready block state → block < total →
    ∃ reached, perform BlockDevice.isUsed state = (told block, reached) ∧ reached.2.disk = state.2.disk
      ∧ ∀ used, told block = .ok used → ready block reached
  read : ∀ {block state}, ready block state → block < total →
    ∃ reached, (BlockDevice.read blockSize).run state = (outcome block, reached) ∧ reached.2.disk = state.2.disk
      ∧ ((outcome block).result = .ok () → ready (block + 1) reached)
  /-- Only the overlay keeps a block from being told. -/
  told_error : ∀ {block cause}, told block = .error cause →
    ∃ refusal, reply block = .error refusal ∧ cause = .overlay refusal
  outcome_error : ∀ {block refusal}, reply block = .error refusal → outcome block = .failed (.overlay refusal)
  length_eq : ∀ {block}, (outcome block).result = .ok () → (outcome block).bytes.length = blockSize
  apart : ∀ {block device world after}, ready block (device, world) → Disk.ChangesOnly file world.disk after →
    ready block (device, world.withDisk after)

namespace Repeating

variable {D : Type} [BlockDevice D] {file : FileId} {blockSize total block : Nat} {reply : Nat → Reply}
  {told : Nat → Except Error Bool} {outcome : Nat → Transfer Error Unit} {origin state : D × World}
  {ready : Nat → D × World → Prop}

/-- The overlay can be moved to a block that is read. -/
theorem exists_reply (h : Repeating file blockSize total reply told outcome origin ready)
    (hread : (outcome block).result = .ok ()) : ∃ answer, reply block = .ok answer := by
  cases hreply : reply block with
  | ok answer => exact ⟨answer, rfl⟩
  | error refusal =>
    rw [h.outcome_error hreply] at hread
    cases hread

theorem transferAt (h : Repeating file blockSize total reply told outcome origin ready) (hblock : block < total) :
    Export.transferAt blockSize origin block = outcome block := by
  obtain ⟨reached, hseek, -, hready⟩ := h.seek (Disk.ChangesOnly.refl file origin.2.disk).beside (Nat.le_of_lt hblock)
  rw [Export.transferAt]
  cases hreply : reply block with
  | error refusal =>
    rw [hreply] at hseek
    rw [h.outcome_error hreply]
    exact congrArg Prod.fst (BlockDevice.run_readAt_error hseek)
  | ok answer =>
    have hmoved : (reply block).moved = .ok () := by
      rw [hreply]
      rfl
    rw [hmoved] at hseek
    obtain ⟨ended, hread, -⟩ := h.read (hready hmoved) hblock
    exact congrArg Prod.fst ((BlockDevice.run_readAt hseek).trans hread)

theorem isUsedAt (h : Repeating file blockSize total reply told outcome origin ready) (hblock : block < total) :
    (perform (BlockDevice.isUsedAt block) origin).1
      = match (reply block).moved with
        | .ok () => told block
        | .error cause => .error cause := by
  obtain ⟨reached, hseek, -, hready⟩ := h.seek (Disk.ChangesOnly.refl file origin.2.disk).beside (Nat.le_of_lt hblock)
  rw [BlockDevice.isUsedAt]
  cases hmoved : (reply block).moved with
  | error cause =>
    rw [hmoved] at hseek
    exact congrArg Prod.fst (perform_bind_error hseek)
  | ok done =>
    rw [hmoved] at hseek
    obtain ⟨asked, hused, -⟩ := h.isUsed (hready hmoved) hblock
    have hsought : perform (BlockDevice.seek block) origin = (.ok (), reached) := hseek
    rw [perform_bind_ok hsought]
    exact congrArg Prod.fst hused

/-- Where a block cannot be read, the overlay cannot be moved there or the read fails. -/
theorem refuses (h : Repeating file blockSize total reply told outcome origin ready) (hready : ready block state)
    (hblock : block < total) {cause : Error} (hfails : (outcome block).result = .error cause) :
    Refuses blockSize cause state := by
  obtain ⟨asked, hused, hdisk, hasked⟩ := h.isUsed hready hblock
  cases htold : told block with
  | error untold =>
    obtain ⟨refusal, hreply, rfl⟩ := h.told_error htold
    rw [h.outcome_error hreply] at hfails
    obtain rfl := Except.error.inj hfails
    exact .untold (htold ▸ hused) hdisk
  | ok used =>
    obtain ⟨reached, hread, hsame, -⟩ := h.read (hasked used htold) hblock
    rw [htold] at hused
    generalize outcome block = transfer at hfails hread
    obtain ⟨bytes, result⟩ := transfer
    obtain rfl : result = .error cause := hfails
    exact .unread hused hread (hsame.trans hdisk)

/-- **What such a device is asked for block by block is what each block gave after a seek.** -/
theorem replays (h : Repeating file blockSize total reply told outcome origin ready) :
    Replays file blockSize total origin ready := by
  constructor
  · intro disk hbeside
    obtain ⟨sought, hseek, -⟩ := h.seek (Disk.ChangesOnly.refl file origin.2.disk).beside (Nat.zero_le total)
    have hsought : (perform (BlockDevice.seek 0) origin).1 = (reply 0).moved := congrArg Prod.fst hseek
    rw [hsought]
    exact h.seek hbeside (Nat.zero_le total)
  · intro block state hready hblock hread
    rw [h.transferAt hblock] at hread
    obtain ⟨answer, hreply⟩ := h.exists_reply hread
    obtain ⟨reached, hused, hdisk, hreached⟩ := h.isUsed hready hblock
    cases htold : told block with
    | error cause =>
      obtain ⟨refusal, hrefused, -⟩ := h.told_error htold
      cases hreply.symm.trans hrefused
    | ok used =>
      have husedAt : usedAt origin block = used := by
        rw [usedAt, h.isUsedAt hblock, hreply, htold]
        rfl
      rw [husedAt]
      exact ⟨reached, htold ▸ hused, hreached used htold, hdisk⟩
  · intro block state hready hblock hread
    rw [h.transferAt hblock] at hread ⊢
    obtain ⟨reached, hrun, hdisk, hreached⟩ := h.read hready hblock
    exact ⟨reached, hrun, hreached hread, hdisk⟩
  · intro block hblock hread
    rw [h.transferAt hblock] at hread ⊢
    exact h.length_eq hread
  · intro block cause hblock huntold
    rw [h.isUsedAt hblock] at huntold
    rw [h.transferAt hblock]
    cases hreply : reply block with
    | error refusal => exact ⟨_, congrArg Transfer.result (h.outcome_error hreply)⟩
    | ok answer =>
      rw [hreply] at huntold
      obtain ⟨refusal, hrefused, -⟩ := h.told_error huntold
      cases hreply.symm.trans hrefused
  · intro block state cause hready hblock hfails
    rw [h.transferAt hblock] at hfails
    exact h.refuses hready hblock hfails
  · exact h.apart

end Repeating

end PartitionImage.Export
