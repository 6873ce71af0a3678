import PartitionImage.Proofs.Device
import PartitionImage.Proofs.Image.Counter
/-!
# An image reads as its device

A handle keeps a cursor, a count, an index and an overlay with a cursor of its own.  None of this can be
seen in what is read after a seek: it is what the device holds, whatever was done to the handle before.

* `Image.record_eq` is one record, `Image.readBlock_gives` and `Image.block_eq` one block.
* `Image.InStep` is what the blocks of a read rely on and keep; `Image.readBlocks_eq` is the run of them.
* `Image.reads_of_seek` is a read after a seek, wherever cursor and count were before.
-/

namespace PartitionImage.Image

variable {O : Type} [Overlay O]

open PartitionImage.Action (Respects perform perform_bind_inv perform_bind_ok)

/-! ### One record -/

/-- The block map of a handle is that of the image of a device. -/
structure Mirrors (device : Device) (descriptor : Descriptor) (map : BlockMap) : Prop where
  fits : map.Fits device.bytes device.format device.layout device.total
  layout : device.layout.Of device.format descriptor
  total_eq : descriptor.totalBlocks = device.total

theorem Mirrors.suits {device : Device} {descriptor : Descriptor} {map : BlockMap}
    (h : Mirrors device descriptor map) : map.Suits descriptor :=
  h.fits.suits h.layout h.total_eq

/-- The records of a device stand where its layout has them, below `2^64`. -/
theorem recordStart_eq {device : Device} {number : Nat} (h : device.recordStart number < range64) :
    device.layout.recordStart number = device.recordStart number := by
  have hend : device.layout.bitmapEnd < range64 :=
    Nat.lt_of_le_of_lt (Nat.le_add_right _ _) h
  rw [RecordLayout.recordStart, RecordLayout.dataOffset, saturate64_of_lt hend]
  rfl

theorem seeded_iff {device : Device} {number : Nat} (hchecked : device.layout.algorithm ≠ .none) :
    device.layout.seeded number = !(device.layout.reseed || number == 0) := by
  have hsome : (device.layout.algorithm != .none) = true := by simpa using hchecked
  rw [RecordLayout.seeded, hsome, Bool.true_and]
  cases number with
  | zero => simp
  | succ number => simp

/-- A record that was read whole is checked as the device says. -/
theorem payloadOf_gives {device : Device} {number : Nat} (block : Nat)
    (hchecked : device.layout.algorithm ≠ .none) (htrailer : device.layout.trailer = Checksum.size)
    (hbefore : trailerBefore device.layout number ≤ device.recordStart number)
    (hfit : device.recordStart number + device.layout.recordSize ≤ device.bytes.length) :
    (device.record number).Gives block
      (payloadOf device.layout number block
        (device.bytes.slice (device.recordStart number - trailerBefore device.layout number)
          (trailerBefore device.layout number + device.layout.recordSize))) := by
  have hsize : device.layout.recordSize = device.layout.blockSize + Checksum.size := by
    rw [RecordLayout.recordSize, htrailer]
  have hseed : (if device.layout.seeded number then
      UInt32.ofNat ((device.bytes.slice
        (device.recordStart number - trailerBefore device.layout number)
        (trailerBefore device.layout number + device.layout.recordSize)).field 0 Checksum.size)
      else Checksum.seed) = device.seed number := by
    rw [Bytes.field_slice _ _ _ (by omega), trailerBefore, seeded_iff hchecked, Device.seed, htrailer]
    cases device.layout.reseed || number == 0 with
    | true => rfl
    | false => rfl
  rw [payloadOf, hseed]
  generalize trailerBefore device.layout number = before at hbefore ⊢
  have hpayload : (device.bytes.slice (device.recordStart number - before)
      (before + device.layout.recordSize)).slice before device.layout.blockSize
        = device.bytes.slice (device.recordStart number) device.layout.blockSize := by
    rw [Bytes.slice_slice _ _ _ (by omega), Nat.sub_add_cancel hbefore]
  have hstored : (device.bytes.slice (device.recordStart number - before)
      (before + device.layout.recordSize)).field (before + device.layout.blockSize) Checksum.size
        = device.bytes.field (device.recordStart number + device.layout.blockSize)
            Checksum.size := by
    rw [Bytes.field_slice _ _ _ (by omega), ← Nat.add_assoc, Nat.sub_add_cancel hbefore]
  rw [hpayload, hstored, Device.record, if_neg hchecked, if_pos hfit]
  dsimp only
  split
  · exact .data _
  · exact .mismatch _ _ _

/-- **A record is read as the device says**, however the calls of the source go. -/
theorem record_eq {device : Device} {descriptor : Descriptor} {map : BlockMap}
    (hmirrors : Mirrors device descriptor map) {number : Nat} (block : Nat)
    (hoffset : device.recordStart number < range64) {state : Image O × World}
    (hsource : state.1.source.Delivers state.2.disk device.bytes) :
    (device.record number).Gives block
      ((readRecord map number block descriptor.blockSize).run state).1 := by
  have hlayout := hmirrors.layout
  have hbefore := trailerBefore_le_recordStart device.layout number
  rw [run_readRecord hmirrors.suits, hmirrors.fits.layout_eq, recordStart_eq hoffset,
    if_neg (Nat.not_le.mpr hoffset)]
  rw [recordStart_eq hoffset] at hbefore
  by_cases hnone : device.layout.algorithm = .none
  · rw [if_pos hnone, Device.record, if_pos hnone]
    by_cases hfit : device.recordStart number + device.layout.blockSize ≤ device.bytes.length
    · have hread : ((readSource (device.recordStart number) device.layout.blockSize).run state).1
          = .complete (device.bytes.slice (device.recordStart number) device.layout.blockSize) :=
        Source.readExact_ok hsource hfit
      rw [if_pos hfit, hread]
      exact .data _
    · -- the payload is cut off, and so much of it arrives as the calls gave before the end
      obtain ⟨cause, hcause⟩ := Source.readExact_short hsource.holds.toAgrees
        (by rw [hlayout.blockSize_eq]; exact hlayout.blockSize_pos) (Nat.lt_of_not_le hfit)
      have harrived := Source.readExact_prefix hsource.holds.toAgrees
        (device.recordStart number) device.layout.blockSize
      have hread : ((readSource (device.recordStart number) device.layout.blockSize).run state).1
          = (state.1.source.readExact state.2.disk (device.recordStart number)
              device.layout.blockSize).1 := rfl
      rw [if_neg hfit, hread, Transfer.mapError, hcause]
      exact .short cause harrived
  · have htrailer : device.layout.trailer = Checksum.size := hlayout.trailer_eq hnone
    rw [if_neg hnone]
    by_cases hfit : device.recordStart number + device.layout.recordSize ≤ device.bytes.length
    · have hgives := payloadOf_gives block hnone htrailer hbefore hfit
      revert hgives hbefore
      generalize trailerBefore device.layout number = before
      intro hbefore hgives
      have hread : ((readSource (device.recordStart number - before)
            (before + device.layout.recordSize)).run state).1
          = .complete (device.bytes.slice (device.recordStart number - before)
              (before + device.layout.recordSize)) :=
        Source.readExact_ok hsource (by omega)
      dsimp only
      rw [hread]
      exact hgives
    · revert hbefore
      generalize trailerBefore device.layout number = before
      intro hbefore
      have hwant : 0 < before + device.layout.recordSize := by
        rw [RecordLayout.recordSize, htrailer, Checksum.size]
        omega
      have hshort : device.bytes.length
          < device.recordStart number - before + (before + device.layout.recordSize) := by
        omega
      obtain ⟨cause, hcause⟩ := Source.readExact_short hsource.holds.toAgrees hwant hshort
      have hread : ((readSource (device.recordStart number - before)
          (before + device.layout.recordSize)).run state).1.result = .error cause := hcause
      rw [Device.record, if_neg hnone, if_neg hfit]
      dsimp only
      rw [hread]
      exact .short cause List.nil_prefix

/-! ### The overlay -/

/-- The overlay of a handle has the blocks of a partial map and does not fail; without an overlay there
are no such blocks. -/
def Overlaid (blockSize total : Nat) (stored : Nat → Option Bytes) (state : Image O × World) : Prop :=
  match state.1.overlay with
  | none => ∀ block, block < total → stored block = none
  | some store => Overlay.Shows store state.2.disk blockSize total stored

variable {blockSize total : Nat} {stored : Nat → Option Bytes}

theorem Overlaid.congr {before after : Image O × World} (h : Overlaid blockSize total stored before)
    (hoverlay : after.1.overlay = before.1.overlay) (hdisk : after.2.disk = before.2.disk) :
    Overlaid blockSize total stored after := by
  rw [Overlaid, hoverlay, hdisk]
  exact h

theorem Overlaid.seek {state : Image O × World} (h : Overlaid blockSize total stored state)
    {block : Nat} (hblock : block ≤ total) :
    ∃ reached, perform (seekOverlay block) state = (.ok (), reached)
      ∧ Overlaid blockSize total stored reached ∧ reached.2.disk = state.2.disk
      ∧ reached.1.source = state.1.source := by
  rw [perform_seekOverlay]
  cases hoverlay : state.1.overlay with
  | none => exact ⟨state, rfl, h, rfl, rfl⟩
  | some store =>
    rw [Overlaid, hoverlay] at h
    obtain ⟨whole, hwhole, hserves⟩ := h
    obtain ⟨sought, hmove, hsought⟩ := hserves.seek hwhole hblock
    dsimp only
    rw [hmove]
    exact ⟨_, rfl, ⟨whole, hsought, hserves⟩, rfl, rfl⟩

theorem Overlaid.read {state : Image O × World} (h : Overlaid blockSize total stored state)
    {block : Nat} (hblock : block < total) :
    ∃ overlaid reached, (readOverlay block blockSize).run state = (overlaid, reached)
      ∧ Overlay.Answers (stored block) overlaid
      ∧ Overlaid blockSize total stored reached ∧ reached.2.disk = state.2.disk
      ∧ reached.1.source = state.1.source := by
  rw [run_readOverlay, perform_seekOverlay]
  cases hoverlay : state.1.overlay with
  | none =>
    rw [Overlaid, hoverlay] at h
    dsimp only
    rw [hoverlay]
    refine ⟨_, _, rfl, ?_, ?_, rfl, rfl⟩
    · rw [h block hblock]
      rfl
    · rw [Overlaid, hoverlay]
      exact h
  | some store =>
    rw [Overlaid, hoverlay] at h
    obtain ⟨whole, hwhole, hserves⟩ := h
    obtain ⟨sought, hmove, hsought⟩ := hserves.seek hwhole (Nat.le_of_lt hblock)
    obtain ⟨transfer, after, hread, hafter, hanswers⟩ := hserves.read hwhole hblock hmove
    dsimp only
    rw [hmove]
    refine ⟨transfer.mapError .overlay,
      withOverlay (after, state.2.disk) (withOverlay (sought, state.2.disk) state), ?_,
      hanswers.mapError _, ⟨whole, hafter, hserves⟩, rfl, rfl⟩
    show (((Overlay.read blockSize).run (sought, state.2.disk)).1.mapError Error.overlay,
      withOverlay ((Overlay.read blockSize).run (sought, state.2.disk)).2
        (withOverlay (sought, state.2.disk) state)) = _
    rw [hread]

/-! ### One block -/

theorem Mirrors.changed {device : Device} {descriptor : Descriptor} {map : BlockMap}
    (h : Mirrors device descriptor map) (stored : Nat → Option Bytes) :
    Mirrors (device.changed stored) descriptor map :=
  ⟨h.fits, h.layout, h.total_eq⟩

/-- A handle whose count is in step, with a source that delivers the image and an overlay that has the
changed blocks. -/
structure InStep (device : Device) (map : BlockMap) (state : Image O × World) : Prop where
  passed : state.1.passed = map.bitmap.count 0 state.1.cursor
  source : state.1.source.Delivers state.2.disk device.bytes
  overlay : Overlaid device.layout.blockSize device.total device.stored state

variable {device : Device} {descriptor : Descriptor} {map : BlockMap}

theorem Mirrors.count_eq (h : Mirrors device descriptor map) {block : Nat}
    (hblock : block ≤ device.total) : map.bitmap.count 0 block = device.rank block := by
  rw [Bitmap.count_eq, Device.rank, List.range_eq_range']
  apply List.countP_congr
  intro other hother
  have hlt : other < device.total := by
    simp only [List.mem_range'_1] at hother
    omega
  rw [h.fits.isSet_eq other hlt]
  rfl

/-- **A block is read as the device says, with the record that the count of the handle gives**, whether
that is the record of the block or not. -/
theorem readBlock_gives (hmirrors : Mirrors device descriptor map) {state : Image O × World}
    (hsource : state.1.source.Delivers state.2.disk device.bytes)
    (hoverlay : Overlaid device.layout.blockSize device.total device.stored state)
    {block : Nat} (hblock : block < device.total)
    (hoffset : device.stored block = none → device.marked block = true →
      device.recordStart state.1.passed < range64) :
    (device.answer state.1.passed block).Gives block ((readBlock map block descriptor.blockSize).run state).1
      ∧ Moves 0 (if device.marked block then 1 else 0) state ((readBlock map block descriptor.blockSize).run state).2
      ∧ Overlaid device.layout.blockSize device.total device.stored
        ((readBlock map block descriptor.blockSize).run state).2
      ∧ ((readBlock map block descriptor.blockSize).run state).2.2.disk = state.2.disk := by
  obtain ⟨overlaid, asked, hask, hanswers, hoverlaid, hdisk, -⟩ := hoverlay.read hblock
  have hstill := readOverlay_still block device.layout.blockSize state
  rw [hask] at hstill
  have hused : map.bitmap.get? block = some (device.marked block) := by
    rw [map.bitmap.get?_eq_some (by rw [hmirrors.fits.length_eq]; exact hblock),
      hmirrors.fits.isSet_eq _ hblock]
    rfl
  have hpassed : asked.1.passed = state.1.passed := hstill.passed
  have hmoved := hstill.trans (pass_moves (device.marked block) asked)
  rw [Nat.zero_add, Nat.zero_add] at hmoved
  rw [run_readBlock hmirrors.suits hused (by rw [← hmirrors.layout.blockSize_eq]; exact hask),
    Device.answer]
  cases hstored : device.stored block with
  | some bytes =>
    rw [hstored] at hanswers
    obtain rfl : overlaid = _ := hanswers
    exact ⟨.data bytes, hmoved, hoverlaid.congr rfl rfl, hdisk⟩
  | none =>
    rw [hstored] at hanswers
    have hanswers : overlaid.result = .ok .notPresent := hanswers
    rw [hanswers]
    cases hmarked : device.marked block with
    | false =>
      dsimp only
      rw [← hmirrors.layout.blockSize_eq]
      exact ⟨.data _, hstill, hoverlaid, hdisk⟩
    | true =>
      rw [hmarked] at hmoved
      obtain ⟨source, hlater, hrecord⟩ := readRecord_source map asked.1.passed block
        descriptor.blockSize ((pass true).run asked).2
      have hpass : ((pass true).run asked).2.1.source.Delivers ((pass true).run asked).2.2.disk
          device.bytes := by
        show asked.1.source.Delivers asked.2.disk device.bytes
        rw [hdisk]
        exact hsource.later hstill.source
      have hrest := readRecord_still map asked.1.passed block descriptor.blockSize
        ((pass true).run asked).2
      simp only [if_true]
      refine ⟨?_, hmoved.trans hrest, ?_, ?_⟩
      · rw [hpassed]
        exact record_eq hmirrors _ (hoffset hstored hmarked) hpass
      · rw [hrecord]
        exact hoverlaid.congr rfl rfl
      · rw [hrecord]
        exact hdisk

/-- **Where the count is in step a block is read as the device says, and the next one is in step.** -/
theorem block_eq (hmirrors : Mirrors device descriptor map) {state : Image O × World}
    (hstep : InStep device map state) (hblock : state.1.cursor < device.total)
    (hoffset : device.stored state.1.cursor = none → device.marked state.1.cursor = true →
      device.recordStart (device.rank state.1.cursor) < range64) :
    (device.block state.1.cursor).Gives state.1.cursor
        ((readBlock map state.1.cursor descriptor.blockSize).run state).1
      ∧ InStep device map
        (atBlock (state.1.cursor + 1) ((readBlock map state.1.cursor descriptor.blockSize).run state).2) := by
  have hpassed : state.1.passed = device.rank state.1.cursor := by
    rw [hstep.passed, hmirrors.count_eq (Nat.le_of_lt hblock)]
  rw [← hpassed] at hoffset
  obtain ⟨hgives, hmoves, hoverlay, hdisk⟩ :=
    readBlock_gives hmirrors hstep.source hstep.overlay hblock hoffset
  rw [hpassed] at hgives
  refine ⟨hgives, ?_, ?_, hoverlay.congr rfl rfl⟩
  · show ((readBlock map state.1.cursor descriptor.blockSize).run state).2.1.passed
      = map.bitmap.count 0 (state.1.cursor + 1)
    rw [hmoves.passed, hstep.passed, Bitmap.count_succ, Nat.zero_add,
      hmirrors.fits.isSet_eq _ hblock]
    rfl
  · show ((readBlock map state.1.cursor descriptor.blockSize).run state).2.1.source.Delivers _ device.bytes
    rw [show (atBlock (state.1.cursor + 1) ((readBlock map state.1.cursor descriptor.blockSize).run state).2).2.disk
      = state.2.disk from hdisk]
    exact hstep.source.later hmoves.source

/-! ### A run of blocks -/

/-- **A run of blocks is read as the device says.** -/
theorem readBlocks_eq (hmirrors : Mirrors device descriptor map) (n : Nat) {state : Image O × World}
    (hstep : InStep device map state) (hbound : state.1.cursor + n ≤ device.total)
    (hoffset : ∀ block, state.1.cursor ≤ block → block < state.1.cursor + n →
      device.stored block = none → device.marked block = true →
        device.recordStart (device.rank block) < range64) :
    device.Reads state.1.cursor n ((readBlocks descriptor map n).run state).1
      ((readBlocks descriptor map n).run state).2.1.cursor := by
  induction n generalizing state with
  | zero => exact .done _
  | succ n ih =>
    have hblock : state.1.cursor < device.total := by omega
    obtain ⟨hgives, hnext⟩ := block_eq hmirrors hstep hblock
      (hoffset _ (Nat.le_refl _) (by omega))
    have hlt : state.1.cursor < map.bitmap.length := by
      rw [hmirrors.fits.length_eq]
      exact hblock
    have hused := map.bitmap.get?_eq_some hlt
    rw [run_readBlocks_succ, if_neg (by rw [hmirrors.total_eq]; omega)]
    rcases hfirst : (readBlock map state.1.cursor descriptor.blockSize).run state with ⟨⟨bytes, result⟩, reached⟩
    rw [hfirst] at hgives hnext
    cases result with
    | ok done =>
      have hoffsets : ∀ block, state.1.cursor + 1 ≤ block → block < state.1.cursor + 1 + n →
          device.stored block = none → device.marked block = true →
            device.recordStart (device.rank block) < range64 := by
        intro block hfrom hto
        exact hoffset block (by omega) (by omega)
      have hrest := ih hnext (by show state.1.cursor + 1 + n ≤ device.total; omega) hoffsets
      exact .next hgives.eq_data hrest
    | error error =>
      have hcursor : reached.1.cursor = state.1.cursor := by
        rcases readBlock_end hmirrors.suits hused hfirst with
          ⟨hok, hmoves⟩ | ⟨cause, herror, hstill⟩ | ⟨error, herror, hfault, hset, hmoves⟩
        · exact hmoves.cursor
        · exact hstill.cursor
        · exact hmoves.cursor
      show device.Reads state.1.cursor (n + 1) ⟨bytes, .error error⟩ reached.1.cursor
      rw [hcursor]
      exact .stop hgives

/-- **After a seek a verified handle reads as its device**, wherever cursor and count were before. -/
theorem reads_of_seek (hmirrors : Mirrors device descriptor map) {state : Image O × World}
    (hstage : state.1.stage = .verified descriptor map)
    (hsource : state.1.source.Delivers state.2.disk device.bytes)
    (hoverlay : Overlaid device.layout.blockSize device.total device.stored state)
    {block n : Nat} (hbound : block + n ≤ device.total)
    (hoffset : ∀ other, block ≤ other → other < block + n →
      device.stored other = none → device.marked other = true →
        device.recordStart (device.rank other) < range64) :
    ∃ sought, perform (seek block) state = (.ok (), sought)
      ∧ device.Reads block n ((read (n * device.layout.blockSize)).run sought).1
        ((read (n * device.layout.blockSize)).run sought).2.1.cursor := by
  have hblock : block ≤ device.total := Nat.le_of_add_right_le hbound
  obtain ⟨reached, hmove, hoverlaid, hdisk, -⟩ := hoverlay.seek hblock
  have hstill := (seekOverlay_still block).of_perform hmove
  have hrange : ¬ descriptor.totalBlocks < block := by
    rw [hmirrors.total_eq]
    omega
  have hstep : InStep device map (soughtAt map.bitmap block reached) := by
    refine ⟨rfl, ?_, hoverlaid.congr rfl rfl⟩
    show reached.1.source.Delivers reached.2.disk device.bytes
    rw [hdisk]
    exact hsource.later hstill.source
  have hread : (read (n * device.layout.blockSize)).run (soughtAt map.bitmap block reached)
      = (readBlocks descriptor map n).run (soughtAt map.bitmap block reached) := by
    have hsought : (soughtAt map.bitmap block reached).1.stage = .verified descriptor map :=
      hstill.stage.trans hstage
    rw [run_read hsought, hmirrors.layout.blockSize_eq, Nat.mul_mod_left, if_neg (fun h => h rfl),
      Nat.mul_div_cancel n hmirrors.layout.blockSize_pos]
  refine ⟨soughtAt map.bitmap block reached, ?_, ?_⟩
  · rw [perform_seek hmirrors.suits hstage, if_neg hrange, hmove]
  · rw [hread]
    exact readBlocks_eq hmirrors n hstep hbound hoffset

/-- **After a seek one block is read as the device says.** -/
theorem readAt_gives (hmirrors : Mirrors device descriptor map) {state : Image O × World}
    (hstage : state.1.stage = .verified descriptor map)
    (hsource : state.1.source.Delivers state.2.disk device.bytes)
    (hoverlay : Overlaid device.layout.blockSize device.total device.stored state)
    {block : Nat} (hblock : block < device.total)
    (hoffset : device.stored block = none → device.marked block = true →
      device.recordStart (device.rank block) < range64) :
    (device.block block).Gives block
      ((BlockDevice.readAt block device.layout.blockSize).run state).1 := by
  obtain ⟨sought, hseek, hreads⟩ := reads_of_seek hmirrors hstage hsource hoverlay
    (show block + 1 ≤ device.total from hblock) (by
      intro other hfrom hto
      obtain rfl : other = block := by omega
      exact hoffset)
  rw [BlockDevice.run_readAt hseek]
  rw [Nat.one_mul] at hreads
  exact hreads.gives

/-- A block that is read on is the one at the cursor, with the record that the count gives. -/
theorem read_one (hmirrors : Mirrors device descriptor map) {state : Image O × World}
    (hstage : state.1.stage = .verified descriptor map)
    (hsource : state.1.source.Delivers state.2.disk device.bytes)
    (hoverlay : Overlaid device.layout.blockSize device.total device.stored state)
    (hcursor : state.1.cursor < device.total)
    (hoffset : device.stored state.1.cursor = none → device.marked state.1.cursor = true →
      device.recordStart state.1.passed < range64) :
    ∃ transfer after, (read device.layout.blockSize).run state = (transfer, after)
      ∧ (device.answer state.1.passed state.1.cursor).Gives state.1.cursor transfer
      ∧ Moves (if transfer.result.isOk then 1 else 0) (if device.marked state.1.cursor then 1 else 0)
        state after
      ∧ Overlaid device.layout.blockSize device.total device.stored after
      ∧ after.2.disk = state.2.disk := by
  obtain ⟨hgives, hmoves, hoverlaid, hdisk⟩ :=
    readBlock_gives hmirrors hsource hoverlay hcursor hoffset
  have hpos : 0 < descriptor.blockSize := hmirrors.layout.blockSize_pos
  have hrange : ¬ descriptor.totalBlocks ≤ state.1.cursor := by
    rw [hmirrors.total_eq]
    omega
  have hread : (read device.layout.blockSize).run state = (readBlocks descriptor map 1).run state := by
    rw [run_read hstage, hmirrors.layout.blockSize_eq, Nat.mod_self, if_neg (fun h => h rfl),
      Nat.div_self hpos]
  rw [hread, run_readBlocks_succ, if_neg hrange]
  rcases hfirst : (readBlock map state.1.cursor descriptor.blockSize).run state with ⟨⟨bytes, result⟩, reached⟩
  rw [hfirst] at hgives hmoves hoverlaid hdisk
  cases result with
  | ok done =>
    refine ⟨_, atBlock (state.1.cursor + 1) reached, rfl, ?_,
      ⟨hmoves.source, hmoves.stage, hmoves.options, rfl, hmoves.passed⟩, hoverlaid.congr rfl rfl,
      hdisk⟩
    show (device.answer _ _).Gives _ ⟨bytes ++ [], .ok ()⟩
    rw [List.append_nil]
    exact hgives
  | error error => exact ⟨_, _, rfl, hgives, hmoves, hoverlaid, hdisk⟩

end PartitionImage.Image
