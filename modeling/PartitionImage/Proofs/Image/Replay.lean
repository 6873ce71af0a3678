import PartitionImage.Proofs.Image.Mount
import PartitionImage.Proofs.Replay
/-!
# Partition images that repeat themselves

A handle whose source and overlay repeat themselves gives a block again: after a seek, and where the records that were
passed are those of the blocks before the cursor, also without one.

* `Image.Repeatable` is such a handle, `Image.Rereads` what becomes of it while blocks are read and the output of an
  export is written.
* `Image.outcome` is what there is of a block; `Image.Rereads.read` reads it at the cursor.
* `Image.repeating` is what an export needs, `Image.exists_repeatable` that it is had after any operations.
-/

namespace PartitionImage.Image

open PartitionImage.Action (perform)
open Overlay (Reply Replies Replying)

variable {O : Type} [Overlay O] {file : FileId} {descriptor : Descriptor} {map : BlockMap} {reply : Nat → Reply}
  {alike : O → Prop} {origin state : Image O × World}

/-- A verified handle whose source and overlay repeat themselves while a file is written that is not the image. -/
structure Repeatable (file : FileId) (descriptor : Descriptor) (map : BlockMap) (reply : Nat → Reply)
    (alike : O → Prop) (origin : Image O × World) : Prop where
  suits : map.Suits descriptor
  stage : origin.1.stage = .verified descriptor map
  manner : origin.1.source.manner.Alike
  apart : origin.1.source.backing ≠ .file file
  replies : Replies file origin.2.disk descriptor.blockSize reply alike
  overlay : Replying reply alike origin.1.overlay

/-- What becomes of a handle while its blocks are read and the file is written. -/
structure Rereads (file : FileId) (descriptor : Descriptor) (map : BlockMap) (reply : Nat → Reply) (alike : O → Prop)
    (origin state : Image O × World) : Prop where
  stage : state.1.stage = .verified descriptor map
  source : origin.1.source.Later state.1.source
  beside : Disk.Beside file origin.2.disk state.2.disk
  overlay : Replying reply alike state.1.overlay

/-- What there is of a block: what the overlay gives, its record, or filler. -/
def outcome (descriptor : Descriptor) (map : BlockMap) (reply : Nat → Reply) (origin : Image O × World) (block : Nat) :
    Transfer Error Unit :=
  match (reply block).given.result with
  | .error cause => ⟨(reply block).given.bytes, .error cause⟩
  | .ok .found => .complete (reply block).given.bytes
  | .ok .notPresent =>
    if map.bitmap.isSet block then
      ((readRecord map (map.bitmap.count 0 block) block descriptor.blockSize).run origin).1
    else .complete (List.replicate descriptor.blockSize unusedBlockFill)

/-- Whether a block holds data: the overlay has it, or it is used in the image. -/
def usage (map : BlockMap) (reply : Nat → Reply) (block : Nat) : Except Error Bool :=
  ((reply block).map fun answer => answer.1 || map.bitmap.isSet block).mapError .overlay

theorem Repeatable.rereads (h : Repeatable file descriptor map reply alike origin) {disk : Disk}
    (hbeside : Disk.Beside file origin.2.disk disk) :
    Rereads file descriptor map reply alike origin (origin.1, origin.2.withDisk disk) :=
  ⟨h.stage, .refl _, hbeside, h.overlay⟩

namespace Rereads

/-- Whatever moves nothing but the cursor and uses the overlay leaves the handle what it is. -/
theorem uses (hstate : Rereads file descriptor map reply alike origin state) {reached : Image O × World}
    (hstage : reached.1.stage = state.1.stage) (hsource : state.1.source.Later reached.1.source)
    (hdisk : reached.2.disk = state.2.disk) (hoverlay : Replying reply alike reached.1.overlay) :
    Rereads file descriptor map reply alike origin reached :=
  ⟨hstage.trans hstate.stage, hstate.source.trans hsource, hdisk.symm ▸ hstate.beside, hoverlay⟩

/-! ### The overlay -/

theorem seekOverlay (h : Repeatable file descriptor map reply alike origin)
    (hstate : Rereads file descriptor map reply alike origin state) (block : Nat) :
    ∃ reached, perform (Image.seekOverlay block) state = ((reply block).moved, reached)
      ∧ Rereads file descriptor map reply alike origin reached ∧ Still state reached
      ∧ reached.2.disk = state.2.disk
      ∧ ∀ holds transfer, reply block = .ok (holds, transfer) → reached.1.overlay.any Overlay.holds = holds := by
  rw [perform_seekOverlay]
  cases hoverlay : state.1.overlay with
  | none =>
    have hnone := hstate.overlay
    rw [hoverlay] at hnone
    refine ⟨state, ?_, hstate, .refl state, rfl, ?_⟩
    · rw [hnone block]
      rfl
    · intro holds transfer hreply
      obtain ⟨rfl, -⟩ := Prod.mk.inj (Except.ok.inj ((hnone block).symm.trans hreply))
      rw [hoverlay]
      rfl
  | some store =>
    have hstore := hstate.overlay
    rw [hoverlay] at hstore
    obtain ⟨sought, hseek, hsought, hanswers⟩ := h.replies.seek block hstore hstate.beside
    refine ⟨withOverlay (sought, state.2.disk) state, ?_, ?_, withOverlay_still _ _, rfl, ?_⟩
    · dsimp only
      rw [hseek]
      rfl
    · exact hstate.uses rfl (.refl _) rfl hsought
    · exact fun holds transfer hreply => (hanswers holds transfer hreply).1

theorem readOverlay (h : Repeatable file descriptor map reply alike origin)
    (hstate : Rereads file descriptor map reply alike origin state) (block : Nat) :
    ∃ reached, (Image.readOverlay block descriptor.blockSize).run state = ((reply block).given, reached)
      ∧ Rereads file descriptor map reply alike origin reached ∧ Still state reached
      ∧ reached.2.disk = state.2.disk := by
  rw [run_readOverlay, perform_seekOverlay]
  cases hoverlay : state.1.overlay with
  | none =>
    have hnone := hstate.overlay
    rw [hoverlay] at hnone
    refine ⟨state, ?_, hstate, .refl state, rfl⟩
    dsimp only
    rw [hoverlay, hnone block]
    rfl
  | some store =>
    have hstore := hstate.overlay
    rw [hoverlay] at hstore
    obtain ⟨sought, hseek, hsought, hanswers⟩ := h.replies.seek block hstore hstate.beside
    dsimp only
    rw [hseek]
    cases hreply : reply block with
    | error cause =>
      exact ⟨withOverlay (sought, state.2.disk) state, rfl, hstate.uses rfl (.refl _) rfl hsought,
        withOverlay_still _ _, rfl⟩
    | ok answer =>
      obtain ⟨holds, transfer⟩ := answer
      obtain ⟨-, after, hread, hafter⟩ := hanswers holds transfer hreply
      refine ⟨withOverlay (after, state.2.disk) state, ?_, hstate.uses rfl (.refl _) rfl hafter,
        withOverlay_still _ _, rfl⟩
      dsimp only [Except.map, Except.mapError, withOverlay, World.withDisk]
      rw [hread]
      rfl

/-! ### One block -/

theorem readSource (h : Repeatable file descriptor map reply alike origin)
    (hstate : Rereads file descriptor map reply alike origin state) (offset n : Nat) :
    ((Image.readSource offset n).run state).1 = ((Image.readSource offset n).run origin).1 := by
  refine Source.readExact_alike h.manner hstate.source (fun asked hasked => ?_) offset n
  refine hstate.beside.data_eq asked ?_
  rintro rfl
  exact h.apart hasked

/-- **A block is given again**, and counted if it is. -/
theorem readBlock (h : Repeatable file descriptor map reply alike origin)
    (hstate : Rereads file descriptor map reply alike origin state) {block : Nat}
    (hblock : block < descriptor.totalBlocks) (hpassed : state.1.passed = map.bitmap.count 0 block) :
    ∃ reached, (Image.readBlock map block descriptor.blockSize).run state
        = (outcome descriptor map reply origin block, reached)
      ∧ Rereads file descriptor map reply alike origin reached ∧ reached.2.disk = state.2.disk
      ∧ ((outcome descriptor map reply origin block).result = .ok () →
        reached.1.cursor = state.1.cursor ∧ reached.1.passed = map.bitmap.count 0 (block + 1)) := by
  have hused : map.bitmap.get? block = some (map.bitmap.isSet block) :=
    map.bitmap.get?_eq_some (by rw [h.suits.length_eq]; exact hblock)
  obtain ⟨asked, hask, hasked, hstill, hdisk⟩ := hstate.readOverlay h block
  suffices hgiven : ∃ reached, (Image.readBlock map block descriptor.blockSize).run state
      = (outcome descriptor map reply origin block, reached)
        ∧ Rereads file descriptor map reply alike origin reached ∧ reached.2.disk = state.2.disk by
    obtain ⟨reached, hrun, hreached, hsame⟩ := hgiven
    refine ⟨reached, hrun, hreached, hsame, fun hok => ?_⟩
    -- only a failure may be counted without being passed
    obtain ⟨-, hmoves⟩ | ⟨cause, hfailed, -⟩ | ⟨error, hfailed, -⟩ := readBlock_end h.suits hused hrun
    · refine ⟨hmoves.cursor, ?_⟩
      rw [hmoves.passed, hpassed, Bitmap.count_succ, Nat.zero_add]
    · exact nomatch hok.symm.trans hfailed
    · exact nomatch hok.symm.trans hfailed
  rw [run_readBlock h.suits hused hask, outcome]
  cases (reply block).given.result with
  | error cause => exact ⟨asked, rfl, hasked, hdisk⟩
  | ok lookup =>
    cases lookup with
    | found => exact ⟨_, rfl, hasked.uses rfl (.refl _) rfl hasked.overlay, hdisk⟩
    | notPresent =>
      dsimp only
      have hcount : asked.1.passed = map.bitmap.count 0 block := hstill.passed.trans hpassed
      cases map.bitmap.isSet block with
      | false => exact ⟨asked, rfl, hasked, hdisk⟩
      | true =>
        have hcounted : Rereads file descriptor map reply alike origin ((Image.pass true).run asked).2 :=
          hasked.uses rfl (.refl _) rfl hasked.overlay
        obtain ⟨source, hlater, hended⟩ := readRecord_source map (map.bitmap.count 0 block) block descriptor.blockSize
          ((Image.pass true).run asked).2
        rw [if_pos rfl, if_pos rfl, hcount]
        refine ⟨_, Prod.ext ?_ hended, hcounted.uses rfl hlater rfl hasked.overlay, hdisk⟩
        exact readRecord_alike h.suits (hcounted.readSource h) _ block

/-! ### At the cursor -/

/-- **The block at the cursor is given again**, if the records before it were passed. -/
theorem read (h : Repeatable file descriptor map reply alike origin)
    (hstate : Rereads file descriptor map reply alike origin state)
    (hblock : state.1.cursor < descriptor.totalBlocks)
    (hpassed : state.1.passed = map.bitmap.count 0 state.1.cursor) :
    ∃ reached, (Image.read descriptor.blockSize).run state
        = (outcome descriptor map reply origin state.1.cursor, reached)
      ∧ reached.2.disk = state.2.disk
      ∧ ((outcome descriptor map reply origin state.1.cursor).result = .ok () →
        Rereads file descriptor map reply alike origin reached ∧ reached.1.cursor = state.1.cursor + 1
          ∧ reached.1.passed = map.bitmap.count 0 (state.1.cursor + 1)) := by
  obtain ⟨reached, hrun, hreached, hdisk, hmoves⟩ := hstate.readBlock h hblock hpassed
  rw [run_read hstate.stage, Nat.mod_self, if_neg fun hne => hne rfl, Nat.div_self h.suits.blockSize_pos,
    run_readBlocks_succ, if_neg (Nat.not_le.mpr hblock), hrun]
  generalize outcome descriptor map reply origin state.1.cursor = transfer at hmoves ⊢
  obtain ⟨bytes, result⟩ := transfer
  cases result with
  | error cause => exact ⟨reached, rfl, hdisk, fun hok => nomatch hok⟩
  | ok done =>
    obtain ⟨-, hcount⟩ := hmoves rfl
    refine ⟨atBlock (state.1.cursor + 1) reached, ?_, hdisk, fun _ => ⟨?_, rfl, hcount⟩⟩
    · show ((⟨bytes ++ [], .ok ()⟩ : Transfer Error Unit), _) = _
      rw [List.append_nil]
      rfl
    · exact hreached.uses rfl (.refl _) rfl hreached.overlay

/-- Whether the block at the cursor holds data is told again. -/
theorem isUsed (h : Repeatable file descriptor map reply alike origin)
    (hstate : Rereads file descriptor map reply alike origin state)
    (hblock : state.1.cursor < descriptor.totalBlocks) :
    ∃ reached, perform Image.isUsed state = (usage map reply state.1.cursor, reached)
      ∧ Rereads file descriptor map reply alike origin reached ∧ Still state reached
      ∧ reached.2.disk = state.2.disk := by
  obtain ⟨reached, hseek, hreached, hstill, hdisk, hholds⟩ := hstate.seekOverlay h state.1.cursor
  refine ⟨reached, ?_, hreached, hstill, hdisk⟩
  rw [perform_isUsed h.suits hstate.stage, if_neg (Nat.not_le.mpr hblock), hseek, usage]
  cases hreply : reply state.1.cursor with
  | error refusal => rfl
  | ok answer =>
    obtain ⟨holds, transfer⟩ := answer
    dsimp only [Reply.moved, Except.map, Except.mapError]
    rw [hholds holds transfer hreply]

/-! ### After a seek -/

theorem seek (h : Repeatable file descriptor map reply alike origin)
    (hstate : Rereads file descriptor map reply alike origin state) {block : Nat}
    (hblock : block ≤ descriptor.totalBlocks) :
    ∃ reached, perform (Image.seek block) state = ((reply block).moved, reached) ∧ reached.2.disk = state.2.disk
      ∧ ((reply block).moved = .ok () → Rereads file descriptor map reply alike origin reached
        ∧ reached.1.cursor = block ∧ reached.1.passed = map.bitmap.count 0 block) := by
  obtain ⟨reached, hseek, hreached, -, hdisk, -⟩ := hstate.seekOverlay h block
  rw [perform_seek h.suits hstate.stage, if_neg (Nat.not_lt.mpr hblock), hseek]
  cases (reply block).moved with
  | error cause => exact ⟨reached, rfl, hdisk, fun hok => nomatch hok⟩
  | ok done =>
    exact ⟨soughtAt map.bitmap block reached, rfl, hdisk,
      fun _ => ⟨hreached.uses rfl (.refl _) rfl hreached.overlay, rfl, rfl⟩⟩

end Rereads

theorem length_outcome (h : Repeatable file descriptor map reply alike origin) {block : Nat}
    (hread : (outcome descriptor map reply origin block).result = .ok ()) :
    (outcome descriptor map reply origin block).bytes.length = descriptor.blockSize := by
  unfold outcome at hread ⊢
  cases hreply : reply block with
  | error cause =>
    rw [hreply] at hread
    cases hread
  | ok answer =>
    obtain ⟨holds, bytes, result⟩ := answer
    rw [hreply] at hread
    rcases result with cause | _ | _
    · cases hread
    · exact h.replies.length_eq hreply rfl
    · show (if map.bitmap.isSet block then _ else _ : Transfer Error Unit).bytes.length = _
      replace hread : (if map.bitmap.isSet block then _ else _ : Transfer Error Unit).result = .ok () := hread
      split at hread
      · next hset =>
        rw [if_pos hset]
        exact length_readRecord h.suits _ block origin hread
      · next hset =>
        rw [if_neg hset]
        exact List.length_replicate

/-- **A partition image does again what it did.** -/
theorem repeating (h : Repeatable file descriptor map reply alike origin) :
    Export.Repeating file descriptor.blockSize descriptor.totalBlocks reply (usage map reply)
      (outcome descriptor map reply origin) origin fun block state =>
        Rereads file descriptor map reply alike origin state ∧ state.1.cursor = block
          ∧ state.1.passed = map.bitmap.count 0 block where
  seek hbeside hblock := (h.rereads hbeside).seek h hblock
  isUsed := by
    rintro block state ⟨hstate, rfl, hpassed⟩ hblock
    obtain ⟨reached, hrun, hreached, hstill, hdisk⟩ := hstate.isUsed h hblock
    exact ⟨reached, hrun, hdisk, fun _ _ => ⟨hreached, hstill.cursor, hstill.passed.trans hpassed⟩⟩
  read := by
    rintro block state ⟨hstate, rfl, hpassed⟩ hblock
    exact hstate.read h hblock hpassed
  told_error := by
    intro block cause htold
    obtain ⟨refusal, hreply, rfl⟩ := Action.mapError_eq_error_iff.mp htold
    cases hanswer : reply block with
    | error other =>
      rw [hanswer] at hreply
      cases hreply
      exact ⟨_, rfl, rfl⟩
    | ok answer =>
      rw [hanswer] at hreply
      cases hreply
  outcome_error hreply := by
    rw [outcome, hreply]
    rfl
  length_eq hread := length_outcome h hread
  apart := by
    rintro block image world after ⟨hstate, hcursor, hpassed⟩ hchanges
    exact ⟨⟨hstate.stage, hstate.source, hstate.beside.trans hchanges.beside, hstate.overlay⟩, hcursor, hpassed⟩

/-- **A handle that was verified can be asked again**, whatever was called since. -/
theorem exists_repeatable {options : OpenOptions} {start verified : Image O × World} (hunread : Unread options start)
    (hverify : perform verify start = (.ok (), verified)) (operations : List Operation)
    (halike : start.1.source.manner.Alike) (hapart : start.1.source.backing ≠ .file file) {blockSize total : Nat}
    (hblockSize : (Operation.run operations verified).1.blockSize? = some blockSize)
    (hblockCount : (Operation.run operations verified).1.blockCount? = some total)
    (hreplies : Replies file (Operation.run operations verified).2.disk blockSize reply alike)
    (hoverlay : Replying reply alike (Operation.run operations verified).1.overlay) :
    ∃ descriptor map, descriptor.blockSize = blockSize ∧ descriptor.totalBlocks = total
      ∧ Repeatable file descriptor map reply alike (Operation.run operations verified) := by
  obtain ⟨format, described, layout, _, loaded, hfrom⟩ := verifiedFrom_of_verify hverify
  obtain ⟨descriptor, map, hsized⟩ := sized_of_verify hunread hverify
  have hlayered := layered (O := O) options hsized.suits
  obtain ⟨hreached, hlater⟩ := hlayered.run hsized operations
  have hsource := hfrom.steady.source.trans hlater
  obtain rfl := Option.some.inj ((hlayered.blockSize_eq hreached).symm.trans hblockSize)
  obtain rfl := Option.some.inj ((hlayered.blockCount_eq hreached).symm.trans hblockCount)
  exact ⟨descriptor, map, rfl, rfl, hsized.suits, hreached.stage, hsource.manner ▸ halike, hsource.backing ▸ hapart,
    hreplies, hoverlay⟩

end PartitionImage.Image
