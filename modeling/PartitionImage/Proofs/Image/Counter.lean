import PartitionImage.Proofs.Image.Reading
import PartitionImage.Proofs.Image.Verify
import PartitionImage.Proofs.Operation
/-!
# The count of records passed

The record of a block is found by the number of used blocks before it.  A handle carries that number
along with its cursor, and two things put it out of step: a used block that is written is passed without
being counted, and a record that cannot be read, or is wrong, is counted without being passed.

* `Tally` counts both since the last seek; `Image.tally` follows a run.
* `Image.Counted` is the invariant: but for the tally, the number is that of the used blocks before the
  cursor.
* `Image.Counted.after` says that every operation keeps it, `Image.counted_run` that it holds in every
  state that is reached from a verified handle.
-/

namespace PartitionImage

/-- What has put the count of passed records out of step with the cursor since the last seek. -/
structure Tally where
  /-- Used blocks that were written, and passed without being counted. -/
  written : Nat := 0
  /-- Records that failed or were out of reach, and were counted without being passed. -/
  failed : Nat := 0
  deriving DecidableEq, Repr

namespace Image

variable {O : Type} [Overlay O]

open PartitionImage.Action (Respects perform perform_bind_inv perform_bind_ok)

/-! ### Seeking -/

/-- The state with the cursor on a block and the used blocks before it counted. -/
def soughtAt (bitmap : Bitmap) (block : Nat) (state : Image O × World) : Image O × World :=
  ({ state.1 with passed := bitmap.count 0 block, cursor := block }, state.2)

theorem perform_readyMap {descriptor : Descriptor} {map : BlockMap} {state : Image O × World}
    (hstage : state.1.stage = .verified descriptor map) :
    perform readyMap state = (.ok (descriptor, map), state) := by
  rw [readyMap, perform_bind_ok (Action.perform_get state), hstage]
  rfl

/-- A seek within the device counts the used blocks before its target, unless the overlay refuses. -/
theorem perform_seek {descriptor : Descriptor} {map : BlockMap} (hsuits : map.Suits descriptor)
    {state : Image O × World} (hstage : state.1.stage = .verified descriptor map) (block : Nat) :
    perform (seek block) state
      = if descriptor.totalBlocks < block then
          (.error (.outOfRange block descriptor.totalBlocks), state)
        else
          match perform (seekOverlay block) state with
          | (.error error, reached) => (.error error, reached)
          | (.ok (), reached) => (.ok (), soughtAt map.bitmap block reached) := by
  rw [seek, perform_bind_ok (perform_readyMap hstage)]
  dsimp only
  split
  · rfl
  · next hbound =>
    obtain ⟨factor, hindex⟩ := hsuits.index_eq
    rw [hindex, PrefixCount.preceding?_build map.bitmap factor (by rw [hsuits.length_eq]; omega)]
    dsimp only
    rw [Action.perform_bind]
    rcases perform (seekOverlay block) state with ⟨result, reached⟩
    cases result with
    | error error => rfl
    | ok done => rfl

/-! ### Writing -/

theorem writeBlocks_moves (blockSize total count : Nat) (data : Bytes) (state : Image O × World)
    (hcursor : state.1.cursor ≤ total) :
    ∃ blocks, Moves blocks 0 state (perform (writeBlocks blockSize total count data) state).2
      ∧ state.1.cursor + blocks ≤ total := by
  induction count generalizing data state with
  | zero => exact ⟨0, .refl state, hcursor⟩
  | succ count ih =>
    have hstay : ∀ {reached : Image O × World}, Still state reached →
        ∃ blocks, Moves blocks 0 state reached ∧ state.1.cursor + blocks ≤ total :=
      fun hstill => ⟨0, hstill, hcursor⟩
    rw [writeBlocks, Action.perform_bind, perform_requireBlock]
    by_cases hend : total ≤ state.1.cursor
    · rw [if_pos hend]
      exact hstay (.refl state)
    · rw [if_neg hend]
      dsimp only
      rw [perform_bind_ok (Action.perform_get state)]
      refine (seekOverlay_still state.1.cursor).end_bind (fun _ => hstay) fun _ sought _ hsought => ?_
      rw [perform_bind_ok (Action.perform_get sought)]
      split
      · refine (onOverlay_still _ _).end_bind (fun _ hwritten => hstay (hsought.trans hwritten))
          fun _ written _ hwritten => ?_
        rw [perform_bind_ok (perform_update _ written)]
        have hstill := hsought.trans hwritten
        have hnext : Moves 1 0 state (atBlock (state.1.cursor + 1) written) :=
          ⟨hstill.source, hstill.stage, hstill.options, rfl, hstill.passed⟩
        obtain ⟨blocks, hmoves, hbound⟩ := ih (data.drop blockSize)
          (atBlock (state.1.cursor + 1) written) (by show state.1.cursor + 1 ≤ total; omega)
        have hsum := hnext.trans hmoves
        refine ⟨1 + blocks, hsum, ?_⟩
        rw [hnext.cursor] at hbound
        omega
      · exact hstay hsought

theorem write_moves {descriptor : Descriptor} {map : BlockMap} {state : Image O × World}
    (hstage : state.1.stage = .verified descriptor map)
    (hcursor : state.1.cursor ≤ descriptor.totalBlocks) (data : Bytes) :
    ∃ blocks, Moves blocks 0 state (perform (write data) state).2
      ∧ state.1.cursor + blocks ≤ descriptor.totalBlocks := by
  have hstay : ∀ reached : Image O × World, Still state reached →
      ∃ blocks, Moves blocks 0 state reached
        ∧ state.1.cursor + blocks ≤ descriptor.totalBlocks :=
    fun _ hstill => ⟨0, hstill, hcursor⟩
  have hblocks : ∀ (reached : Image O × World) (count : Nat), Still state reached →
      ∃ blocks, Moves blocks 0 state (perform (writeBlocks descriptor.blockSize
          descriptor.totalBlocks count data) reached).2
        ∧ state.1.cursor + blocks ≤ descriptor.totalBlocks := by
    intro reached count hstill
    obtain ⟨blocks, hmoves, hbound⟩ := writeBlocks_moves descriptor.blockSize
      descriptor.totalBlocks count data reached (by rw [hstill.cursor]; exact hcursor)
    rw [hstill.cursor, Nat.add_zero] at hbound
    have hsum := hstill.trans hmoves
    rw [Nat.zero_add] at hsum
    exact ⟨blocks, hsum, hbound⟩
  rw [write]
  refine (require_still _).end_bind hstay fun _ required hrequire _ => ?_
  rw [perform_require] at hrequire
  obtain ⟨-, rfl⟩ := Prod.mk.inj hrequire
  rw [perform_bind_ok (perform_readyMap hstage)]
  dsimp only
  refine (requireWhole_still _ _).end_bind hstay fun _ whole _ hwhole => ?_
  rw [perform_bind_ok (Action.perform_get whole)]
  split
  · exact (attachOverlay_still _ _).end_bind (fun _ hattached => hstay _ (hwhole.trans hattached))
      fun _ attached _ hattached => hblocks attached _ (hwhole.trans hattached)
  · exact hblocks whole _ hwhole

/-! ### The tally -/

/-- The tally after a call: a seek that succeeds settles it, a write adds the used blocks it went over,
and a read that ends at a faulty record adds that record. -/
def tallyAfter (bitmap : Bitmap) (tally : Tally) (state : Image O × World) : Operation → Tally
  | .seek block =>
    match (perform (seek block) state).1 with
    | .ok () => {}
    | .error _ => tally
  | .read length =>
    match ((read length).run state).1.result with
    | .ok () => tally
    | .error error =>
      if error.atRecord then { tally with failed := tally.failed + 1 } else tally
  | .write data =>
    let reached := (perform (write data) state).2
    { tally with
      written := tally.written
        + bitmap.count state.1.cursor (reached.1.cursor - state.1.cursor) }
  | .verify | .isUsed | .sync => tally

def tallyFrom (bitmap : Bitmap) (tally : Tally) (state : Image O × World) :
    List Operation → Tally
  | [] => tally
  | operation :: operations =>
    tallyFrom bitmap (tallyAfter bitmap tally state operation) (operation.after state) operations

/-- The tally of calls on a handle that was just verified. -/
def tally (bitmap : Bitmap) (operations : List Operation) (state : Image O × World) : Tally :=
  tallyFrom bitmap {} state operations

theorem tallyFrom_append (bitmap : Bitmap) (first second : List Operation) (tally : Tally)
    (state : Image O × World) :
    tallyFrom bitmap tally state (first ++ second)
      = tallyFrom bitmap (tallyFrom bitmap tally state first) (Operation.run first state) second := by
  induction first generalizing tally state with
  | nil => rfl
  | cons operation operations ih => exact ih _ _

theorem tally_append_singleton (bitmap : Bitmap) (operations : List Operation)
    (operation : Operation) (state : Image O × World) :
    tally bitmap (operations ++ [operation]) state
      = tallyAfter bitmap (tally bitmap operations state) (Operation.run operations state)
        operation := by
  rw [tally, tallyFrom_append]
  rfl

/-- The state of a verified handle, with the tally of what was done to it. -/
structure Counted (descriptor : Descriptor) (map : BlockMap) (tally : Tally)
    (state : Image O × World) : Prop where
  stage : state.1.stage = .verified descriptor map
  balance : state.1.passed + tally.written = map.bitmap.count 0 state.1.cursor + tally.failed
  bound : state.1.cursor ≤ map.bitmap.length

variable {descriptor : Descriptor} {map : BlockMap}

theorem Counted.still {tally : Tally} {before after : Image O × World}
    (h : Counted descriptor map tally before) (hstill : Still before after) :
    Counted descriptor map tally after where
  stage := hstill.stage.trans h.stage
  balance := by
    rw [hstill.passed, hstill.cursor]
    exact h.balance
  bound := by
    rw [hstill.cursor]
    exact h.bound

/-- What counts the used blocks that it moves over keeps the balance. -/
theorem Counted.moves {tally : Tally} {before after : Image O × World} {blocks : Nat}
    (h : Counted descriptor map tally before) (failed : Nat)
    (hmoves : Moves blocks (map.bitmap.count before.1.cursor blocks + failed) before after)
    (hbound : before.1.cursor + blocks ≤ map.bitmap.length) :
    Counted descriptor map { tally with failed := tally.failed + failed } after where
  stage := hmoves.stage.trans h.stage
  balance := by
    have hbalance := h.balance
    rw [hmoves.passed, hmoves.cursor, Bitmap.count_zero_add]
    show _ + tally.written = _ + (tally.failed + failed)
    omega
  bound := by
    rw [hmoves.cursor]
    exact hbound

theorem Counted.seek (hsuits : map.Suits descriptor) {tally : Tally} {state : Image O × World}
    (h : Counted descriptor map tally state) (block : Nat) :
    Counted descriptor map (tallyAfter map.bitmap tally state (.seek block))
      (perform (Image.seek block) state).2 := by
  have hstill := seekOverlay_still block state
  rw [tallyAfter, perform_seek hsuits h.stage]
  by_cases hrange : descriptor.totalBlocks < block
  · rw [if_pos hrange]
    exact h
  · rw [if_neg hrange]
    rcases hmove : perform (seekOverlay block) state with ⟨result, reached⟩
    rw [hmove] at hstill
    cases result with
    | error error => exact h.still hstill
    | ok done =>
      refine ⟨hstill.stage.trans h.stage, rfl, ?_⟩
      show block ≤ map.bitmap.length
      rw [hsuits.length_eq]
      omega

theorem Counted.read (hsuits : map.Suits descriptor) {tally : Tally} {state : Image O × World}
    (h : Counted descriptor map tally state) (length : Nat) :
    Counted descriptor map (tallyAfter map.bitmap tally state (.read length))
      ((Image.read length).run state).2 := by
  rw [tallyAfter, run_read h.stage]
  by_cases hwhole : length % descriptor.blockSize ≠ 0
  · rw [if_pos hwhole]
    exact h
  · rw [if_neg hwhole]
    have hend := readBlocks_end hsuits (length / descriptor.blockSize) h.bound
    generalize (readBlocks descriptor map (length / descriptor.blockSize)).run state = ended
      at hend ⊢
    rcases ended with ⟨⟨bytes, result⟩, reached⟩
    cases hend with
    | whole moves bound => exact h.moves 0 moves bound
    | refused blocks cause moves bound => exact h.moves 0 moves (Nat.le_of_lt bound)
    | ended blocks moves last => exact h.moves 0 moves (Nat.le_of_eq last)
    | faulty blocks error fault used moves bound =>
      simp only [Error.atRecord_of_fault fault, if_true]
      exact h.moves 1 moves (Nat.le_of_lt bound)

theorem Counted.write (hsuits : map.Suits descriptor) {tally : Tally} {state : Image O × World}
    (h : Counted descriptor map tally state) (data : Bytes) :
    Counted descriptor map (tallyAfter map.bitmap tally state (.write data))
      (perform (Image.write data) state).2 := by
  obtain ⟨blocks, hmoves, hbound⟩ :=
    write_moves h.stage (by rw [← hsuits.length_eq]; exact h.bound) data
  have hsub : (perform (Image.write data) state).2.1.cursor - state.1.cursor = blocks := by
    rw [hmoves.cursor, Nat.add_sub_cancel_left]
  rw [tallyAfter, hsub]
  refine ⟨hmoves.stage.trans h.stage, ?_, ?_⟩
  · have hbalance := h.balance
    rw [hmoves.passed, hmoves.cursor, Bitmap.count_zero_add]
    dsimp only
    omega
  · rw [hmoves.cursor, hsuits.length_eq]
    exact hbound

/-- Only a handle that was just opened is verified. -/
theorem perform_verify_of_not_opened {state : Image O × World} (h : state.1.stage.isOpened = false) :
    perform verify state = (.error (.invalidState .opened), state) := by
  have hrequire : perform (require .opened) state = (.error (.invalidState .opened), state) := by
    rw [perform_require, ready, h]
    rfl
  rw [verify, Action.perform_bind_error hrequire]

theorem perform_verify_of_verified {state : Image O × World}
    (hstage : state.1.stage = .verified descriptor map) :
    perform verify state = (.error (.invalidState .opened), state) :=
  perform_verify_of_not_opened (by rw [hstage]; rfl)

/-- **Every operation keeps the balance.** -/
theorem Counted.after (hsuits : map.Suits descriptor) {tally : Tally} {state : Image O × World}
    (h : Counted descriptor map tally state) (operation : Operation) :
    Counted descriptor map (tallyAfter map.bitmap tally state operation)
      (operation.after state) := by
  cases operation with
  | verify =>
    show Counted _ _ _ (perform Image.verify state).2
    rw [perform_verify_of_verified h.stage]
    exact h
  | seek block => exact h.seek hsuits block
  | read length => exact h.read hsuits length
  | isUsed => exact h.still (isUsed_still state)
  | write data => exact h.write hsuits data
  | sync => exact h.still (sync_still state)

theorem Counted.run (hsuits : map.Suits descriptor) {tally : Tally} {state : Image O × World}
    (h : Counted descriptor map tally state) (operations : List Operation) :
    Counted descriptor map (tallyFrom map.bitmap tally state operations)
      (Operation.run operations state) := by
  induction operations generalizing tally state with
  | nil => exact h
  | cons operation operations ih => exact ih (h.after hsuits operation)

/-- **In every state that is reached from a verified handle the count of passed records is, but for the
tally, the number of used blocks before the cursor.** -/
theorem counted_run {start verified : Image O × World}
    (hverify : perform verify start = (.ok (), verified)) (operations : List Operation) :
    ∃ descriptor map, verified.1.stage = .verified descriptor map ∧ map.Suits descriptor
      ∧ Counted descriptor map (tally map.bitmap operations verified)
          (Operation.run operations verified) := by
  obtain ⟨format, described, layout, map, loaded, hfrom⟩ := verifiedFrom_of_verify hverify
  have hsuits : map.Suits (described.repaired map.stats.used) := hfrom.suits
  have hstart : Counted (described.repaired map.stats.used) map {} verified := by
    refine ⟨hfrom.stage, ?_, ?_⟩
    · rw [hfrom.passed, hfrom.cursor]
      rfl
    · rw [hfrom.cursor]
      exact Nat.zero_le _
  exact ⟨_, map, hfrom.stage, hsuits, hstart.run hsuits operations⟩

end Image

end PartitionImage
