import PartitionImage.Proofs.BlockMap
import PartitionImage.Proofs.Image.Progress
/-!
# How far a read gets

A read goes on from block to block until one fails.  A block that fails because of the overlay leaves
cursor and count where they were; a block whose record cannot be read, or is wrong, leaves the cursor
but has been counted.

* `Error.faultyBlock?` tells the two kinds of failure apart; `Error.atRecord` adds the panic over a record
  whose offset is not below `2^64`.
* `Image.checkRecord_eq` says that a record that was read whole fits the buffers.
* `Image.run_readOverlay`, `Image.run_readRecord` and `Image.run_readBlock` say what each part of a
  read gives and leaves.
* `Image.ReadEnd` lists the ways in which a read ends; `Image.readBlocks_end` says that there are no
  others.
-/

namespace PartitionImage

/-- The block whose record could not be read or is wrong, if that is the failure. -/
def Error.faultyBlock? : Error → Option Nat
  | .readBlock block _ => some block
  | .blockChecksum block _ _ => some block
  | _ => none

/-- Whether a read failed over a record that it had already counted. -/
def Error.atRecord (error : Error) : Bool := error.faultyBlock?.isSome || error == .overflow

theorem Error.atRecord_of_fault {error : Error} {block : Nat}
    (h : error.faultyBlock? = some block ∨ error = .overflow) : error.atRecord = true := by
  rcases h with h | rfl
  · simp [atRecord, h]
  · rfl

namespace Image

variable {O : Type} [Overlay O]

open PartitionImage.Action (Respects perform)

/-! ### The parts of a read -/

theorem pass_moves (used : Bool) (state : Image O × World) :
    Moves 0 (if used then 1 else 0) state ((pass used).run state).2 := by
  cases used with
  | true => exact ⟨.refl _, rfl, rfl, rfl, rfl⟩
  | false => exact ⟨.refl _, rfl, rfl, rfl, rfl⟩

/-- What the overlay gives: nothing if the cursor cannot be moved there or there is no overlay. -/
theorem run_readOverlay (block blockSize : Nat) (state : Image O × World) :
    (readOverlay block blockSize).run state
      = match perform (seekOverlay block) state with
        | (.error error, reached) => (.failed error, reached)
        | (.ok (), reached) =>
          match reached.1.overlay with
          | none => (⟨[], .ok .notPresent⟩, reached)
          | some store =>
            (((Overlay.read blockSize).run (store, reached.2.disk)).1.mapError .overlay,
              withOverlay ((Overlay.read blockSize).run (store, reached.2.disk)).2 reached) := by
  rw [readOverlay, StateT.run_bind]
  show StateT.run _ (perform (seekOverlay block) state).2 = _
  rcases hseek : perform (seekOverlay block) state with ⟨result, reached⟩
  rw [show (seekOverlay block).run.run state = (result, reached) from hseek]
  cases result with
  | error error => rfl
  | ok done =>
    simp only [StateT.run_bind, StateT.run_get, pure_bind]
    cases reached.1.overlay with
    | none => rfl
    | some store => rfl

theorem length_readSource {offset n : Nat} {state : Image O × World} {bytes : Bytes}
    (h : ((readSource offset n).run state).1 = .complete bytes) : bytes.length = n := by
  have hread : (state.1.source.readExact state.2.disk offset n).1 = .complete bytes := h
  obtain ⟨hbytes, hlength⟩ := Source.readExact_eq_slice
    (state.1.source.backing.agrees_contents state.2.disk) (congrArg Transfer.result hread)
  rw [← hbytes, hread] at hlength
  exact hlength

theorem readRecord_source (map : BlockMap) (number block length : Nat) (state : Image O × World) :
    ∃ source, state.1.source.Later source
      ∧ ((readRecord map number block length).run state).2
        = ({ state.1 with source := source }, state.2) := by
  have hlater : ∀ offset n, state.1.source.Later (state.1.source.readExact state.2.disk offset n).2 :=
    fun offset n => state.1.source.readExact_later state.2.disk offset n
  have hunread : ∃ source, state.1.source.Later source ∧ state = ({ state.1 with source := source }, state.2) :=
    ⟨state.1.source, .refl _, rfl⟩
  rw [readRecord]
  cases map.layout.readOffset? number with
  | none => exact hunread
  | some offset =>
    dsimp only
    by_cases hnone : map.layout.algorithm = .none
    · rw [if_pos hnone]
      exact ⟨_, hlater _ _, rfl⟩
    · rw [if_neg hnone]
      cases window? map number with
      | none => exact hunread
      | some window =>
        dsimp only
        rw [StateT.run_bind]
        rcases hread : (readSource offset window).run state with ⟨⟨bytes, result⟩, reached⟩
        have hreached := congrArg Prod.snd hread.symm
        cases result with
        | error error => exact ⟨_, hlater _ _, hreached⟩
        | ok done => exact ⟨_, hlater _ _, hreached⟩

/-- The trailer before a record, if its checksum starts from there. -/
abbrev trailerBefore (layout : RecordLayout) (number : Nat) : Nat :=
  if layout.seeded number then layout.trailer else 0

/-- A record that another one precedes starts behind a trailer. -/
theorem trailerBefore_le_recordStart (layout : RecordLayout) (number : Nat) :
    trailerBefore layout number ≤ layout.recordStart number := by
  unfold trailerBefore RecordLayout.recordStart
  cases number with
  | zero => simp [RecordLayout.seeded]
  | succ number =>
    rw [Nat.succ_mul, RecordLayout.recordSize]
    split
    · omega
    · omega

/-- A record has an offset if it starts below `2^64`. -/
theorem readOffset?_eq (layout : RecordLayout) (number : Nat) :
    layout.readOffset? number
      = if range64 ≤ layout.recordStart number then none
        else some (layout.recordStart number - trailerBefore layout number) := by
  have hbefore := trailerBefore_le_recordStart layout number
  rw [RecordLayout.readOffset?, RecordLayout.recordOffset?]
  unfold trailerBefore at hbefore ⊢
  by_cases hplace : range64 ≤ layout.recordStart number
  · rw [if_pos hplace, checked64?_of_le hplace]
    rfl
  · rw [if_neg hplace, checked64?_of_lt (Nat.lt_of_not_le hplace), Option.bind_eq_bind, Option.bind_some]
    cases hseeded : layout.seeded number with
    | false => rfl
    | true =>
      rw [hseeded, if_pos rfl] at hbefore
      rw [if_pos rfl, if_neg (by decide), if_pos hbefore]
      rfl

/-- The payload in what was read of a record, and whether its checksum is right. -/
def payloadOf (layout : RecordLayout) (number block : Nat) (bytes : Bytes) : Transfer Error Unit :=
  let before := trailerBefore layout number
  let seed :=
    if layout.seeded number then UInt32.ofNat (bytes.field 0 Checksum.size) else Checksum.seed
  let payload := bytes.slice before layout.blockSize
  let stored := UInt32.ofNat (bytes.field (before + layout.blockSize) Checksum.size)
  let computed := layout.algorithm.compute seed payload
  ⟨payload, if computed = stored then .ok () else .error (.blockChecksum block stored computed)⟩

theorem storedChecksum?_eq {trailer : Bytes} (h : Checksum.size ≤ trailer.length) :
    storedChecksum? trailer = some (UInt32.ofNat (trailer.field 0 Checksum.size)) :=
  if_pos h

theorem seedAndRecord?_eq {layout : RecordLayout} {number : Nat} {bytes : Bytes}
    (htrailer : layout.trailer = Checksum.size)
    (hlength : bytes.length = trailerBefore layout number + layout.recordSize) :
    seedAndRecord? layout number bytes
      = some (if layout.seeded number then UInt32.ofNat (bytes.field 0 Checksum.size)
          else Checksum.seed, bytes.drop (trailerBefore layout number)) := by
  rw [seedAndRecord?]
  unfold trailerBefore at hlength ⊢
  cases hseeded : layout.seeded number with
  | false => rfl
  | true =>
    rw [hseeded, if_pos rfl, htrailer] at hlength
    have hlong : Checksum.size ≤ bytes.length := by omega
    have hfield : Bytes.field (bytes.take Checksum.size) 0 Checksum.size
        = bytes.field 0 Checksum.size := by
      rw [Bytes.field, Bytes.field, Bytes.slice, Bytes.slice, List.drop_zero, List.drop_zero,
        List.take_take, Nat.min_self]
    have hstored : storedChecksum? (bytes.take Checksum.size)
        = some (UInt32.ofNat (bytes.field 0 Checksum.size)) := by
      rw [storedChecksum?_eq (by rw [List.length_take]; omega), hfield]
    rw [if_pos rfl, if_pos rfl, if_pos rfl, htrailer, Bytes.splitAt?, if_pos hlong]
    show (storedChecksum? (bytes.take Checksum.size) >>= fun seed => _) = _
    rw [hstored]
    rfl

/-- **A record that was read whole fits the buffers**: it has a payload of one block and a checksum. -/
theorem checkRecord_eq {layout : RecordLayout} {number : Nat} {bytes : Bytes} (block : Nat)
    (htrailer : layout.trailer = Checksum.size)
    (hlength : bytes.length = trailerBefore layout number + layout.recordSize) :
    checkRecord layout number block layout.blockSize bytes
      = payloadOf layout number block bytes := by
  have hrecord : (bytes.drop (trailerBefore layout number)).length
      = layout.blockSize + Checksum.size := by
    rw [List.length_drop, hlength, RecordLayout.recordSize, htrailer]
    omega
  have hfield : Bytes.field ((bytes.drop (trailerBefore layout number)).drop layout.blockSize) 0
      Checksum.size = bytes.field (trailerBefore layout number + layout.blockSize) Checksum.size := by
    rw [Bytes.field, Bytes.field, Bytes.slice, Bytes.slice, List.drop_zero, List.drop_drop]
  have hparts : recordParts? layout number bytes
      = some (if layout.seeded number then UInt32.ofNat (bytes.field 0 Checksum.size)
          else Checksum.seed,
        bytes.slice (trailerBefore layout number) layout.blockSize,
        UInt32.ofNat (bytes.field (trailerBefore layout number + layout.blockSize) Checksum.size)) := by
    rw [recordParts?, seedAndRecord?_eq htrailer hlength, Option.bind_eq_bind, Option.bind_some]
    dsimp only
    rw [Bytes.splitAt?, if_pos (by omega), Option.bind_eq_bind, Option.bind_some]
    dsimp only
    rw [storedChecksum?_eq (by rw [List.length_drop]; omega), hfield]
    rfl
  have hpayload : (bytes.slice (trailerBefore layout number) layout.blockSize).length
      = layout.blockSize := by
    rw [Bytes.length_slice, hlength, RecordLayout.recordSize]
    omega
  rw [checkRecord, hparts]
  dsimp only
  rw [if_neg (fun hne => hne hpayload)]
  rfl

/-- The scratch buffer has room for a record and the trailer before it. -/
theorem window?_eq {map : BlockMap}
    (hscratch : map.scratchSize = map.layout.trailer + map.layout.recordSize) (number : Nat) :
    window? map number = some (trailerBefore map.layout number + map.layout.recordSize) := by
  rw [window?, hscratch]
  unfold trailerBefore
  cases map.layout.seeded number with
  | true => rfl
  | false =>
    rw [if_neg Bool.false_ne_true, if_neg Bool.false_ne_true, if_pos (Nat.le_add_right _ _),
      Nat.add_sub_cancel_left, Nat.zero_add]

/-- What the record of a used block gives: the whole of it is read where a checksum is stored, with
the trailer before it if its checksum starts from there. -/
theorem run_readRecord {map : BlockMap} {descriptor : Descriptor} (hsuits : map.Suits descriptor)
    (number block : Nat) (state : Image O × World) :
    (readRecord map number block descriptor.blockSize).run state
      = if range64 ≤ map.layout.recordStart number then (.failed .overflow, state)
        else if map.layout.algorithm = .none then
          (((readSource (map.layout.recordStart number) map.layout.blockSize).run state).1.mapError
              (.readBlock block),
            ((readSource (map.layout.recordStart number) map.layout.blockSize).run state).2)
        else
          let ended := (readSource
            (map.layout.recordStart number - trailerBefore map.layout number)
            (trailerBefore map.layout number + map.layout.recordSize)).run state
          match ended.1.result with
          | .error error => (.failed (.readBlock block error), ended.2)
          | .ok () => (payloadOf map.layout number block ended.1.bytes, ended.2) := by
  rw [readRecord, ← hsuits.blockSize_eq, readOffset?_eq]
  by_cases hplace : range64 ≤ map.layout.recordStart number
  · rw [if_pos hplace, if_pos hplace]
    rfl
  rw [if_neg hplace, if_neg hplace]
  dsimp only
  by_cases hnone : map.layout.algorithm = .none
  · have hunseeded : map.layout.seeded number = false := by simp [RecordLayout.seeded, hnone]
    unfold trailerBefore
    rw [if_pos hnone, if_pos hnone, hunseeded]
    rfl
  · rw [if_neg hnone, if_neg hnone, window?_eq hsuits.scratch_eq]
    dsimp only
    rw [StateT.run_bind]
    rcases hread : (readSource (map.layout.recordStart number - trailerBefore map.layout number)
      (trailerBefore map.layout number + map.layout.recordSize)).run state with
      ⟨⟨bytes, result⟩, reached⟩
    cases result with
    | error error => rfl
    | ok done =>
      have hlength : bytes.length = trailerBefore map.layout number + map.layout.recordSize :=
        length_readSource (congrArg Prod.fst hread)
      show (checkRecord map.layout number block map.layout.blockSize bytes, reached) = _
      rw [checkRecord_eq block (hsuits.trailer_eq hnone) hlength]

theorem length_readRecord {map : BlockMap} {descriptor : Descriptor} (hsuits : map.Suits descriptor)
    (number block : Nat) (state : Image O × World)
    (h : ((readRecord map number block descriptor.blockSize).run state).1.result = .ok ()) :
    ((readRecord map number block descriptor.blockSize).run state).1.bytes.length = descriptor.blockSize := by
  rw [run_readRecord hsuits] at h ⊢
  split at h
  · cases h
  next hplace =>
  rw [if_neg hplace]
  split at h
  · next hnone =>
    rw [if_pos hnone]
    have hresult := Action.mapError_eq_ok_iff.mp h
    rcases hread : (readSource (map.layout.recordStart number) map.layout.blockSize).run state
      with ⟨⟨bytes, result⟩, reached⟩
    rw [hread] at hresult
    obtain rfl : result = .ok () := hresult
    exact (length_readSource (congrArg Prod.fst hread)).trans hsuits.blockSize_eq
  · next hnone =>
    rw [if_neg hnone]
    rcases hread : (readSource (map.layout.recordStart number - trailerBefore map.layout number)
      (trailerBefore map.layout number + map.layout.recordSize)).run state with ⟨⟨bytes, result⟩, reached⟩
    cases result with
    | error error =>
      rw [hread] at h
      cases h
    | ok done =>
      have hlength := length_readSource (congrArg Prod.fst hread)
      show (bytes.slice _ map.layout.blockSize).length = _
      rw [Bytes.length_slice, hlength, RecordLayout.recordSize, ← hsuits.blockSize_eq]
      omega

theorem readRecord_alike {map : BlockMap} {descriptor : Descriptor} (hsuits : map.Suits descriptor)
    {state other : Image O × World}
    (hread : ∀ offset n, ((readSource offset n).run other).1 = ((readSource offset n).run state).1)
    (number block : Nat) :
    ((readRecord map number block descriptor.blockSize).run other).1
      = ((readRecord map number block descriptor.blockSize).run state).1 := by
  rw [run_readRecord hsuits, run_readRecord hsuits]
  split
  · rfl
  split
  · rw [hread]
  · dsimp only
    rw [hread]
    split
    · rfl
    · rfl

/-- What a block is made of: the answer of the overlay, its record, or filler. -/
theorem run_readBlock {map : BlockMap} {descriptor : Descriptor} (hsuits : map.Suits descriptor)
    {block : Nat} {used : Bool} (hused : map.bitmap.get? block = some used)
    {state reached : Image O × World} {overlaid : Transfer Error Lookup}
    (h : (readOverlay block descriptor.blockSize).run state = (overlaid, reached)) :
    (readBlock map block descriptor.blockSize).run state
      = match overlaid.result with
        | .error error => (⟨overlaid.bytes, .error error⟩, reached)
        | .ok .found => (.complete overlaid.bytes, ((pass used).run reached).2)
        | .ok .notPresent =>
          if used then
            (readRecord map reached.1.passed block descriptor.blockSize).run
              ((pass used).run reached).2
          else (.complete (List.replicate descriptor.blockSize unusedBlockFill), reached) := by
  have hfiller : map.fillerSize = descriptor.blockSize :=
    hsuits.filler_eq.trans hsuits.blockSize_eq
  rw [readBlock, hused, StateT.run_bind, h]
  show StateT.run (match overlaid.result with | _ => _) reached = _
  cases overlaid.result with
  | error error => rfl
  | ok lookup =>
    cases lookup with
    | found => rfl
    | notPresent =>
      cases used with
      | true => rfl
      | false =>
        dsimp only
        rw [if_neg Bool.false_ne_true, if_neg Bool.false_ne_true, if_neg (fun hne => hne hfiller),
          hfiller]
        rfl

/-! ### What the parts leave -/

theorem readOverlay_still (block blockSize : Nat) (state : Image O × World) :
    Still state ((readOverlay block blockSize).run state).2 := by
  have hseek := seekOverlay_still block state
  rw [run_readOverlay]
  split
  · next heq =>
    rw [heq] at hseek
    exact hseek
  · next heq =>
    rw [heq] at hseek
    split
    · exact hseek
    · exact hseek.trans (withOverlay_still _ _)

/-- Nothing but the overlay can fail when it is asked. -/
theorem readOverlay_error {block blockSize : Nat} {state : Image O × World} {error : Error}
    (h : ((readOverlay block blockSize).run state).1.result = .error error) :
    ∃ cause, error = .overlay cause := by
  rw [run_readOverlay] at h
  split at h
  · next heq =>
    cases h
    exact seekOverlay_error heq
  · split at h
    · cases h
    · obtain ⟨cause, -, rfl⟩ := Action.mapError_eq_error_iff.mp h
      exact ⟨cause, rfl⟩

theorem readRecord_still (map : BlockMap) (number block length : Nat) (state : Image O × World) :
    Still state ((readRecord map number block length).run state).2 := by
  obtain ⟨source, hlater, hrun⟩ := readRecord_source map number block length state
  rw [hrun]
  exact ⟨hlater, rfl, rfl, rfl, rfl⟩

theorem payloadOf_error {layout : RecordLayout} {number block : Nat} {bytes : Bytes}
    {error : Error} (h : (payloadOf layout number block bytes).result = .error error) :
    ∃ stored computed, error = .blockChecksum block stored computed := by
  have hcompare : ∀ stored computed : UInt32,
      (if computed = stored then .ok () else .error (.blockChecksum block stored computed)
        : Except Error Unit) = .error error → error = .blockChecksum block stored computed := by
    intro stored computed hif
    split at hif
    · cases hif
    · cases hif
      rfl
  exact ⟨_, _, hcompare _ _ h⟩

/-- A failure of a record names its block, unless the record is out of reach. -/
theorem readRecord_error {map : BlockMap} {descriptor : Descriptor}
    (hsuits : map.Suits descriptor) (number : Nat) {block : Nat} (state : Image O × World)
    {error : Error}
    (h : ((readRecord map number block descriptor.blockSize).run state).1.result = .error error) :
    error.faultyBlock? = some block ∨ error = .overflow := by
  rw [run_readRecord hsuits] at h
  split at h
  · cases h
    exact .inr rfl
  split at h
  · obtain ⟨cause, -, rfl⟩ := Action.mapError_eq_error_iff.mp h
    exact .inl rfl
  · dsimp only at h
    split at h
    · cases h
      exact .inl rfl
    · obtain ⟨stored, computed, rfl⟩ := payloadOf_error h
      exact .inl rfl

/-- A block ends well and is counted if it is used, or fails because of the overlay and nothing is
counted, or fails because of its record and is counted all the same. -/
theorem readBlock_end {map : BlockMap} {descriptor : Descriptor} (hsuits : map.Suits descriptor)
    {block : Nat} {used : Bool} (hused : map.bitmap.get? block = some used)
    {state reached : Image O × World} {transfer : Transfer Error Unit}
    (h : (readBlock map block descriptor.blockSize).run state = (transfer, reached)) :
    (transfer.result = .ok () ∧ Moves 0 (if used then 1 else 0) state reached)
      ∨ (∃ cause, transfer.result = .error (.overlay cause) ∧ Still state reached)
      ∨ (∃ error, transfer.result = .error error
          ∧ (error.faultyBlock? = some block ∨ error = .overflow) ∧ used = true
          ∧ Moves 0 1 state reached) := by
  have hstill := readOverlay_still block descriptor.blockSize state
  rcases hask : (readOverlay block descriptor.blockSize).run state with ⟨⟨bytes, result⟩, asked⟩
  rw [hask] at hstill
  rw [run_readBlock hsuits hused hask] at h
  cases result with
  | error error =>
    obtain ⟨rfl, rfl⟩ := Prod.mk.inj h
    obtain ⟨cause, rfl⟩ := readOverlay_error (congrArg (fun ended => ended.1.result) hask)
    exact .inr (.inl ⟨cause, rfl, hstill⟩)
  | ok lookup =>
    cases lookup with
    | found =>
      obtain ⟨rfl, rfl⟩ := Prod.mk.inj h
      have hmoves := hstill.trans (pass_moves used asked)
      rw [Nat.zero_add, Nat.zero_add] at hmoves
      exact .inl ⟨rfl, hmoves⟩
    | notPresent =>
      cases used with
      | false =>
        obtain ⟨rfl, rfl⟩ := Prod.mk.inj h
        exact .inl ⟨rfl, hstill⟩
      | true =>
        have hmoves : Moves 0 1 state reached := by
          have hrecord := readRecord_still map asked.1.passed block descriptor.blockSize
            ((pass true).run asked).2
          rw [show (readRecord map asked.1.passed block descriptor.blockSize).run
            ((pass true).run asked).2 = (transfer, reached) from h] at hrecord
          exact (hstill.trans (pass_moves true asked)).trans hrecord
        cases hresult : transfer.result with
        | ok done => exact .inl ⟨rfl, hmoves⟩
        | error error =>
          have hfault : error.faultyBlock? = some block ∨ error = .overflow := by
            refine readRecord_error hsuits asked.1.passed ((pass true).run asked).2 ?_
            rw [show (readRecord map asked.1.passed block descriptor.blockSize).run
              ((pass true).run asked).2 = (transfer, reached) from h]
            exact hresult
          exact .inr (.inr ⟨error, rfl, hfault, rfl, hmoves⟩)

/-! ### A run of blocks -/

/-- The ways in which a read of `n` blocks ends: all of them arrive, or the overlay refuses a block, the
device ends, or the record of a block cannot be had or is out of reach, after `blocks` blocks. -/
inductive ReadEnd (map : BlockMap) (n : Nat) (before after : Image O × World) :
    Except Error Unit → Prop
  | whole (moves : Moves n (map.bitmap.count before.1.cursor n) before after)
      (bound : before.1.cursor + n ≤ map.bitmap.length) : ReadEnd map n before after (.ok ())
  | refused (blocks : Nat) (cause : OverlayError)
      (moves : Moves blocks (map.bitmap.count before.1.cursor blocks) before after)
      (bound : before.1.cursor + blocks < map.bitmap.length) :
      ReadEnd map n before after (.error (.overlay cause))
  | ended (blocks : Nat)
      (moves : Moves blocks (map.bitmap.count before.1.cursor blocks) before after)
      (last : before.1.cursor + blocks = map.bitmap.length) :
      ReadEnd map n before after (.error (.outOfRange map.bitmap.length map.bitmap.length))
  | faulty (blocks : Nat) (error : Error)
      (fault : error.faultyBlock? = some (before.1.cursor + blocks) ∨ error = .overflow)
      (used : map.bitmap.isSet (before.1.cursor + blocks) = true)
      (moves : Moves blocks (map.bitmap.count before.1.cursor blocks + 1) before after)
      (bound : before.1.cursor + blocks < map.bitmap.length) :
      ReadEnd map n before after (.error error)

/-- The state with its cursor on a block. -/
def atBlock (block : Nat) (state : Image O × World) : Image O × World :=
  ({ state.1 with cursor := block }, state.2)

theorem run_readBlocks_succ (descriptor : Descriptor) (map : BlockMap) (n : Nat)
    (state : Image O × World) :
    (readBlocks descriptor map (n + 1)).run state
      = if descriptor.totalBlocks ≤ state.1.cursor then
          (.failed (.outOfRange state.1.cursor descriptor.totalBlocks), state)
        else
          let first := (readBlock map state.1.cursor descriptor.blockSize).run state
          match first.1.result with
          | .error _ => first
          | .ok () =>
            let rest := (readBlocks descriptor map n).run (atBlock (state.1.cursor + 1) first.2)
            (first.1.append rest.1, rest.2) := by
  rw [readBlocks, StateT.run_bind, StateT.run_get]
  by_cases hend : descriptor.totalBlocks ≤ state.1.cursor
  · rw [if_pos hend]
    show StateT.run (if descriptor.totalBlocks ≤ state.1.cursor then _ else _) state = _
    rw [if_pos hend]
    rfl
  · rw [if_neg hend]
    show StateT.run (if descriptor.totalBlocks ≤ state.1.cursor then _ else _) state = _
    rw [if_neg hend, StateT.run_bind]
    rcases (readBlock map state.1.cursor descriptor.blockSize).run state
      with ⟨⟨bytes, result⟩, reached⟩
    cases result with
    | error error => rfl
    | ok done => rfl

theorem ReadEnd.step {map : BlockMap} {n : Nat} {before middle after : Image O × World}
    {result : Except Error Unit}
    (hmoves : Moves 1 (if map.bitmap.isSet before.1.cursor then 1 else 0) before middle)
    (h : ReadEnd map n middle after result) : ReadEnd map (n + 1) before after result := by
  have hcount : ∀ k, (if map.bitmap.isSet before.1.cursor then 1 else 0)
      + map.bitmap.count middle.1.cursor k = map.bitmap.count before.1.cursor (k + 1) := by
    intro k
    rw [hmoves.cursor, Bitmap.count_succ']
  have hcursor : ∀ k, middle.1.cursor + k = before.1.cursor + (k + 1) := by
    intro k
    rw [hmoves.cursor]
    omega
  cases h with
  | whole moves bound =>
    have hsum := hmoves.trans moves
    rw [hcount, Nat.add_comm 1] at hsum
    rw [hcursor] at bound
    exact .whole hsum bound
  | refused blocks cause moves bound =>
    have hsum := hmoves.trans moves
    rw [hcount, Nat.add_comm 1] at hsum
    rw [hcursor] at bound
    exact .refused (blocks + 1) cause hsum bound
  | ended blocks moves last =>
    have hsum := hmoves.trans moves
    rw [hcount, Nat.add_comm 1] at hsum
    rw [hcursor] at last
    exact .ended (blocks + 1) hsum last
  | faulty blocks error fault used moves bound =>
    have hsum := hmoves.trans moves
    rw [← Nat.add_assoc, hcount, Nat.add_comm 1 blocks] at hsum
    rw [hcursor] at bound fault used
    exact .faulty (blocks + 1) error fault used hsum bound

/-- **Every read ends in one of the ways listed**, whatever the source and the overlay do. -/
theorem readBlocks_end {descriptor : Descriptor} {map : BlockMap} (hsuits : map.Suits descriptor)
    (n : Nat) {state : Image O × World} (hcursor : state.1.cursor ≤ map.bitmap.length) :
    ReadEnd map n state ((readBlocks descriptor map n).run state).2
      ((readBlocks descriptor map n).run state).1.result := by
  induction n generalizing state with
  | zero => exact .whole (.refl state) hcursor
  | succ n ih =>
    rw [run_readBlocks_succ]
    by_cases hend : descriptor.totalBlocks ≤ state.1.cursor
    · have hlast : state.1.cursor = map.bitmap.length := by
        rw [hsuits.length_eq] at hcursor ⊢
        omega
      rw [if_pos hend, ← hsuits.length_eq, hlast]
      exact .ended 0 (.refl state) hlast
    · rw [if_neg hend]
      have hlt : state.1.cursor < map.bitmap.length := by
        rw [hsuits.length_eq]
        omega
      rcases hfirst : (readBlock map state.1.cursor descriptor.blockSize).run state
        with ⟨⟨bytes, result⟩, reached⟩
      rcases readBlock_end hsuits (map.bitmap.get?_eq_some hlt) hfirst with
        ⟨hok, hmoves⟩ | ⟨cause, herror, hstill⟩ | ⟨error, herror, hfault, hused, hmoves⟩
      · have hok : result = .ok () := hok
        subst hok
        have hnext : Moves 1 (if map.bitmap.isSet state.1.cursor then 1 else 0) state
            (atBlock (state.1.cursor + 1) reached) :=
          ⟨hmoves.source, hmoves.stage, hmoves.options, rfl, hmoves.passed⟩
        exact (ih (Nat.succ_le_of_lt hlt)).step hnext
      · have herror : result = .error (.overlay cause) := herror
        subst herror
        exact .refused 0 cause hstill hlt
      · have herror : result = .error error := herror
        subst herror
        exact .faulty 0 error hfault hused hmoves hlt

/-- A read of a verified image reads whole blocks. -/
theorem run_read {descriptor : Descriptor} {map : BlockMap} {state : Image O × World}
    (hstage : state.1.stage = .verified descriptor map) (length : Nat) :
    (read length).run state
      = if length % descriptor.blockSize ≠ 0 then
          (.failed (.bufferSize length descriptor.blockSize), state)
        else (readBlocks descriptor map (length / descriptor.blockSize)).run state := by
  simp only [read, StateT.run_bind, StateT.run_get, pure_bind, hstage]
  split
  · rfl
  · rfl

end Image

end PartitionImage
