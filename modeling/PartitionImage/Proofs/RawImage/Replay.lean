import PartitionImage.Proofs.RawImage.Mount
import PartitionImage.Proofs.Replay
/-!
# Raw images that repeat themselves

A handle whose source and overlay repeat themselves gives a block again, after a seek and at the cursor.  There is
nothing to be counted on the way.

* `RawImage.Repeatable` is such a handle, `RawImage.Rereads` what becomes of it while blocks are read and the output of
  an export is written.
* `RawImage.outcome` is what there is of a block, `RawImage.Rereads.read` what is read of it.
* `RawImage.repeating` is what an export needs, `RawImage.repeatable_of_verify` that it is had after any operations.
-/

namespace PartitionImage.RawImage

open PartitionImage.Action (perform perform_bind_ok)
open Overlay (Reply Replies Replying)

variable {O : Type} [Overlay O] {file : FileId} {reply : Nat → Reply} {alike : O → Prop}
  {origin state : RawImage O × World}

/-- A verified handle whose source and overlay repeat themselves while a file is written that is not the image. -/
structure Repeatable (file : FileId) (reply : Nat → Reply) (alike : O → Prop) (origin : RawImage O × World) :
    Prop where
  verified : origin.1.verified = true
  blockSize_pos : 0 < origin.1.blockSize
  manner : origin.1.source.manner.Alike
  apart : origin.1.source.backing ≠ .file file
  replies : Replies file origin.2.disk origin.1.blockSize reply alike
  overlay : Replying reply alike origin.1.overlay

/-- What becomes of a handle while its blocks are read and the file is written. -/
structure Rereads (file : FileId) (reply : Nat → Reply) (alike : O → Prop) (origin state : RawImage O × World) :
    Prop where
  verified : state.1.verified = true
  blockSize_eq : state.1.blockSize = origin.1.blockSize
  totalBlocks_eq : state.1.totalBlocks = origin.1.totalBlocks
  source : origin.1.source.Later state.1.source
  beside : Disk.Beside file origin.2.disk state.2.disk
  overlay : Replying reply alike state.1.overlay

/-- What there is of a block: what the overlay gives, or what the image has at its place. -/
def outcome (reply : Nat → Reply) (origin : RawImage O × World) (block : Nat) : Transfer Error Unit :=
  match (reply block).given.result with
  | .error cause => ⟨(reply block).given.bytes, .error cause⟩
  | .ok .found => .complete (reply block).given.bytes
  | .ok .notPresent => base origin block

theorem Repeatable.rereads (h : Repeatable file reply alike origin) {disk : Disk}
    (hbeside : Disk.Beside file origin.2.disk disk) :
    Rereads file reply alike origin (origin.1, origin.2.withDisk disk) :=
  ⟨h.verified, rfl, rfl, .refl _, hbeside, h.overlay⟩

namespace Rereads

theorem withOverlay (hstate : Rereads file reply alike origin state) {store : O} (hstore : alike store) :
    Rereads file reply alike origin (RawImage.withOverlay (store, state.2.disk) state) :=
  { hstate with overlay := hstore }

theorem atBlock (hstate : Rereads file reply alike origin state) (block : Nat) :
    Rereads file reply alike origin (RawImage.atBlock block state) :=
  { hstate with }

/-! ### The overlay -/

theorem seekOverlay (h : Repeatable file reply alike origin) (hstate : Rereads file reply alike origin state)
    (block : Nat) :
    ∃ reached, perform (RawImage.seekOverlay block) state = ((reply block).moved, reached)
      ∧ Rereads file reply alike origin reached ∧ reached.1.cursor = state.1.cursor
      ∧ reached.2.disk = state.2.disk := by
  rw [perform_seekOverlay]
  cases hoverlay : state.1.overlay with
  | none =>
    have hnone := hstate.overlay
    rw [hoverlay] at hnone
    refine ⟨state, ?_, hstate, rfl, rfl⟩
    rw [hnone block]
    rfl
  | some store =>
    have hstore := hstate.overlay
    rw [hoverlay] at hstore
    obtain ⟨sought, hseek, hsought, -⟩ := h.replies.seek block hstore hstate.beside
    refine ⟨RawImage.withOverlay (sought, state.2.disk) state, ?_, hstate.withOverlay hsought, rfl, rfl⟩
    dsimp only
    rw [hseek]
    rfl

theorem readOverlay (h : Repeatable file reply alike origin) (hstate : Rereads file reply alike origin state)
    (block : Nat) :
    ∃ reached, (RawImage.readOverlay block).run state = ((reply block).given, reached)
      ∧ Rereads file reply alike origin reached ∧ reached.1.cursor = state.1.cursor
      ∧ reached.2.disk = state.2.disk := by
  rw [run_readOverlay, perform_seekOverlay]
  cases hoverlay : state.1.overlay with
  | none =>
    have hnone := hstate.overlay
    rw [hoverlay] at hnone
    refine ⟨state, ?_, hstate, rfl, rfl⟩
    dsimp only
    rw [hoverlay, hnone block]
    rfl
  | some store =>
    have hstore := hstate.overlay
    rw [hoverlay] at hstore
    obtain ⟨sought, hseek, hsought, hanswers⟩ := h.replies.seek block hstore hstate.beside
    dsimp only
    rw [hseek]
    cases hreply : reply block with
    | error cause =>
      exact ⟨RawImage.withOverlay (sought, state.2.disk) state, rfl, hstate.withOverlay hsought, rfl, rfl⟩
    | ok answer =>
      obtain ⟨holds, transfer⟩ := answer
      obtain ⟨-, after, hread, hafter⟩ := hanswers holds transfer hreply
      refine ⟨RawImage.withOverlay (after, state.2.disk) state, ?_, hstate.withOverlay hafter, rfl, rfl⟩
      dsimp only [Except.map, Except.mapError, RawImage.withOverlay, World.withDisk]
      rw [hstate.blockSize_eq, hread]
      rfl

/-! ### One block -/

theorem base_eq (h : Repeatable file reply alike origin) (hstate : Rereads file reply alike origin state)
    (block : Nat) : base state block = base origin block := by
  have hsame : origin.1.source.backing.Unchanged origin.2.disk state.2.disk := by
    refine fun asked hasked => hstate.beside.data_eq asked ?_
    rintro rfl
    exact h.apart hasked
  rw [base, base, hstate.blockSize_eq]
  cases checked64? (block * origin.1.blockSize) with
  | none => rfl
  | some offset =>
    dsimp only
    rw [Source.readExact_alike h.manner hstate.source hsame]

/-- **A block is given again.** -/
theorem readBlock (h : Repeatable file reply alike origin) (hstate : Rereads file reply alike origin state)
    (block : Nat) :
    ∃ reached, (RawImage.readBlock block).run state = (outcome reply origin block, reached)
      ∧ Rereads file reply alike origin reached ∧ reached.1.cursor = state.1.cursor
      ∧ reached.2.disk = state.2.disk := by
  obtain ⟨asked, hask, hasked, hcursor, hdisk⟩ := hstate.readOverlay h block
  rw [run_readBlock hask, outcome]
  cases (reply block).given.result with
  | error cause => exact ⟨asked, rfl, hasked, hcursor, hdisk⟩
  | ok lookup =>
    cases lookup with
    | found => exact ⟨asked, rfl, hasked, hcursor, hdisk⟩
    | notPresent =>
      dsimp only
      rw [hasked.base_eq h]
      obtain ⟨source, hlater, hfrom⟩ := readFrom_eq asked block
      rw [hfrom]
      exact ⟨_, rfl, { hasked with source := hasked.source.trans hlater }, hcursor, hdisk⟩

/-! ### At the cursor -/

/-- **The block at the cursor is given again**, and the cursor moves past it. -/
theorem read (h : Repeatable file reply alike origin) (hstate : Rereads file reply alike origin state)
    (hblock : state.1.cursor < origin.1.totalBlocks) :
    ∃ reached, (RawImage.read origin.1.blockSize).run state = (outcome reply origin state.1.cursor, reached)
      ∧ reached.2.disk = state.2.disk
      ∧ ((outcome reply origin state.1.cursor).result = .ok () →
        Rereads file reply alike origin reached ∧ reached.1.cursor = state.1.cursor + 1) := by
  obtain ⟨reached, hrun, hreached, -, hdisk⟩ := hstate.readBlock h state.1.cursor
  rw [run_read hstate.verified, hstate.blockSize_eq, Nat.mod_self, if_neg fun hne => hne rfl,
    Nat.div_self h.blockSize_pos, run_readBlocks_succ, hstate.totalBlocks_eq, if_neg (Nat.not_le.mpr hblock), hrun]
  generalize outcome reply origin state.1.cursor = transfer
  obtain ⟨bytes, result⟩ := transfer
  cases result with
  | error cause => exact ⟨reached, rfl, hdisk, fun hok => nomatch hok⟩
  | ok done =>
    refine ⟨RawImage.atBlock (state.1.cursor + 1) reached, ?_, hdisk, fun _ => ⟨hreached.atBlock _, rfl⟩⟩
    show ((⟨bytes ++ [], .ok ()⟩ : Transfer Error Unit), _) = _
    rw [List.append_nil]
    rfl

theorem isUsed (hstate : Rereads file reply alike origin state) (hblock : state.1.cursor < origin.1.totalBlocks) :
    perform RawImage.isUsed state = (.ok true, state) := by
  have hready : state.1.ready .readReady = true := hstate.verified
  have hrequire : perform (require .readReady) state = (.ok (), state) := by
    rw [perform_require, if_pos hready]
  have hplace : perform requireBlock state = (.ok (), state) := by
    rw [perform_requireBlock, hstate.totalBlocks_eq, if_neg (Nat.not_le.mpr hblock)]
  rw [RawImage.isUsed, perform_bind_ok hrequire, perform_bind_ok hplace]
  rfl

/-! ### After a seek -/

theorem seek (h : Repeatable file reply alike origin) (hstate : Rereads file reply alike origin state) {block : Nat}
    (hblock : block ≤ origin.1.totalBlocks) :
    ∃ reached, perform (RawImage.seek block) state = ((reply block).moved, reached) ∧ reached.2.disk = state.2.disk
      ∧ ((reply block).moved = .ok () → Rereads file reply alike origin reached ∧ reached.1.cursor = block) := by
  obtain ⟨reached, hseek, hreached, -, hdisk⟩ := hstate.seekOverlay h block
  rw [perform_seek hstate.verified, hstate.totalBlocks_eq, if_neg (Nat.not_lt.mpr hblock), hseek]
  cases (reply block).moved with
  | error cause => exact ⟨reached, rfl, hdisk, fun hok => nomatch hok⟩
  | ok done => exact ⟨RawImage.atBlock block reached, rfl, hdisk, fun _ => ⟨hreached.atBlock block, rfl⟩⟩

end Rereads

theorem length_base {block : Nat} (hread : (base origin block).result = .ok ()) :
    (base origin block).bytes.length = origin.1.blockSize := by
  unfold base at hread ⊢
  cases hoffset : checked64? (block * origin.1.blockSize) with
  | none =>
    rw [hoffset] at hread
    cases hread
  | some offset =>
    rw [hoffset] at hread
    have hexact := Action.mapError_eq_ok_iff.mp hread
    obtain ⟨hbytes, hlength⟩ := Source.readExact_eq_slice (Backing.agrees_contents _ _) hexact
    exact (congrArg List.length hbytes).trans hlength

/-- What there is of a block fills the buffer, unless it fails. -/
theorem length_outcome (h : Repeatable file reply alike origin) {block : Nat}
    (hread : (outcome reply origin block).result = .ok ()) :
    (outcome reply origin block).bytes.length = origin.1.blockSize := by
  unfold outcome at hread ⊢
  cases hreply : reply block with
  | error cause =>
    rw [hreply] at hread
    cases hread
  | ok answer =>
    obtain ⟨holds, bytes, result⟩ := answer
    rw [hreply] at hread
    rcases result with cause | _ | _
    · cases hread
    · exact h.replies.length_eq hreply rfl
    · exact length_base hread

/-- **A raw image does again what it did.** -/
theorem repeating (h : Repeatable file reply alike origin) :
    Export.Repeating file origin.1.blockSize origin.1.totalBlocks reply (fun _ => .ok true) (outcome reply origin) origin
      fun block state => Rereads file reply alike origin state ∧ state.1.cursor = block where
  seek hbeside hblock := (h.rereads hbeside).seek h hblock
  isUsed := by
    rintro block state ⟨hstate, rfl⟩ hblock
    exact ⟨state, hstate.isUsed hblock, rfl, fun _ _ => ⟨hstate, rfl⟩⟩
  read := by
    rintro block state ⟨hstate, rfl⟩ hblock
    exact hstate.read h hblock
  told_error htold := nomatch htold
  outcome_error hreply := by
    rw [outcome, hreply]
    rfl
  length_eq hread := length_outcome h hread
  apart := by
    rintro block image world after ⟨hstate, hcursor⟩ hchanges
    exact ⟨{ hstate with beside := hstate.beside.trans hchanges.beside }, hcursor⟩

/-- **A handle that was verified can be asked again**, whatever was called since. -/
theorem repeatable_of_verify {start verified : RawImage O × World} {mode : OpenMode} {size count : Nat}
    (hsized : Sized mode size count start) (hpos : 0 < size)
    (hverify : perform verify start = (.ok (), verified)) (operations : List Operation)
    (halike : start.1.source.manner.Alike) (hapart : start.1.source.backing ≠ .file file) {blockSize total : Nat}
    (hblockSize : (Operation.run operations verified).1.blockSize? = some blockSize)
    (hblockCount : (Operation.run operations verified).1.blockCount? = some total)
    (hreplies : Replies file (Operation.run operations verified).2.disk blockSize reply alike)
    (hoverlay : Replying reply alike (Operation.run operations verified).1.overlay) :
    (Operation.run operations verified).1.blockSize = blockSize
      ∧ (Operation.run operations verified).1.totalBlocks = total
      ∧ Repeatable file reply alike (Operation.run operations verified) := by
  have hstate : Verified mode size count verified := by
    refine ⟨?_, (verified_of_verify hverify).1⟩
    have hafter := hsized.verify
    rw [hverify] at hafter
    exact hafter
  have hlayered := layered (O := O) mode hpos count
  obtain ⟨hreached, hlater⟩ := hlayered.run hstate operations
  obtain ⟨hsource, -⟩ := kept_of_verify hverify
  rw [hsource] at hlater
  obtain rfl := Option.some.inj ((hlayered.blockSize_eq hreached).symm.trans hblockSize)
  obtain rfl := Option.some.inj ((hlayered.blockCount_eq hreached).symm.trans hblockCount)
  refine ⟨hreached.blockSize_eq, hreached.totalBlocks_eq, hreached.verified, ?_, hlater.manner ▸ halike,
    hlater.backing ▸ hapart, ?_, hoverlay⟩
  · rw [hreached.blockSize_eq]
    exact hpos
  · rw [hreached.blockSize_eq]
    exact hreplies

end PartitionImage.RawImage
