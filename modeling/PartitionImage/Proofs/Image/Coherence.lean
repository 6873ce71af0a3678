import Mathlib.Algebra.Group.Nat.Defs
import PartitionImage.Proofs.Image.Attachment
import PartitionImage.Proofs.Image.Memory
/-!
# What goes with what in a verified handle

Verification fills in the parts of a handle one after the other, and the operations that follow rely on
all of them fitting together: the bitmap has the blocks of the device, its index has the samples of the
bitmap, the buffers have the size of a block and of a record, and the overlay that is attached has been
verified.

* `Image.Coherent` is what holds of a verified handle; `Image.coherent_of_verify` says that verification
  ends there, `Image.Coherent.after` that every call stays there.
* `Image.Known` is what is known of a handle that was opened, however often it was tried to verify it.
* `Image.Coherent.error` says which failures there are: none is due to a position out of bounds, and none
  to a requirement that was met when the call began.
* `Image.verified_parts` says both in terms of what can be done with a handle that was opened.
-/

namespace PartitionImage

theorem Stage.exists_of_isVerified {stage : Stage} (h : stage.isVerified = true) :
    ∃ descriptor map, stage = .verified descriptor map := by
  cases stage with
  | verified descriptor map => exact ⟨descriptor, map, rfl⟩
  | _ => cases h

/-- A failure that has to do with the image, the overlay or what was asked for: neither is a position out
of bounds nor is the handle in the wrong state. -/
def Error.isOrdinary : Error → Bool
  | .outOfBounds | .invalidState _ => false
  | _ => true

namespace Image

variable {O : Type} [Overlay O] {options : OpenOptions} {descriptor : Descriptor} {map : BlockMap}

open PartitionImage.Action (Leads Respects perform perform_bind_ok perform_bind_inv)
open Overlay (Unbound writes_unbound)

/-- The parts of a verified handle, which fit together. -/
structure Coherent (options : OpenOptions) (descriptor : Descriptor) (map : BlockMap)
    (image : Image O) : Prop where
  stage : image.stage = .verified descriptor map
  options_eq : image.options = options
  suits : map.Suits descriptor
  index_eq : map.index = (PrefixCount.build map.bitmap options.factor).1
  cursor_le : image.cursor ≤ descriptor.totalBlocks
  overlayVerified : image.overlayVerified = image.overlay.isSome
  readOnly : options.mode = .readOnly → image.overlay = none

/-! ### Verification -/

/-- An overlay is opened unless the image is only read; it is not verified yet. -/
theorem initOverlay_frame {state opened : Image O × World} {blockSize totalBlocks : Nat}
    (h : perform (initOverlay blockSize totalBlocks) state = (.ok (), opened)) :
    opened.1.overlayVerified = state.1.overlayVerified ∧ opened.1.options = state.1.options
      ∧ (state.1.options.mode = .readOnly → opened.1.overlay = state.1.overlay) := by
  cases initEnd_of_perform h with
  | unasked hmode => exact ⟨rfl, rfl, fun _ => rfl⟩
  | opened hmode hinit => exact ⟨rfl, rfl, fun hread => absurd (hread.symm.trans hmode) (by decide)⟩
  | missing hmode hinit => exact ⟨rfl, rfl, fun _ => rfl⟩
  | made hmode hcreate => exact ⟨rfl, rfl, fun hread => absurd (hread.symm.trans hmode) (by decide)⟩

/-- The overlay that was opened is verified. -/
theorem verifyOverlay_frame {state checked : Image O × World}
    (h : perform verifyOverlay state = (.ok (), checked)) :
    checked.1.overlay.isSome = state.1.overlay.isSome
      ∧ checked.1.overlayVerified = (state.1.overlay.isSome || state.1.overlayVerified) := by
  cases verifyEnd_of_perform h with
  | absent hnone =>
    rw [hnone]
    exact ⟨rfl, rfl⟩
  | whole hstore hverify =>
    rw [hstore]
    exact ⟨rfl, rfl⟩

/-- **Verification leads to a handle whose parts fit together.** -/
theorem coherent_of_verify {start verified : Image O × World} (hoverlay : start.1.overlay = none)
    (hunverified : start.1.overlayVerified = false)
    (hverify : perform verify start = (.ok (), verified)) :
    ∃ descriptor map, Coherent start.1.options descriptor map verified.1 := by
  obtain ⟨format, described, layout, map, loaded, hfrom⟩ := verifiedFrom_of_verify hverify
  obtain ⟨descriptor, other, before, opened, read, checked, hbefore, hinit, hread, hcheck, hafter, -⟩ :=
    verify_inv hverify
  obtain ⟨hflag, hoptions, hreadOnly⟩ := initOverlay_frame hinit
  obtain ⟨hsome, hchecked⟩ := verifyOverlay_frame hcheck
  have hoverlays : verified.1.overlay.isSome = opened.1.overlay.isSome := by
    rw [hafter.overlay, hsome, hread.overlay]
  have hindex := BlockMap.index_of (hfrom.mapped (start.1.source.backing.agrees_contents loaded))
  refine ⟨_, map, hfrom.stage, hfrom.steady.options, hfrom.suits, hindex, ?_, ?_, ?_⟩
  · rw [hfrom.cursor]
    exact Nat.zero_le _
  · rw [hafter.overlayVerified, hchecked, hoverlays, hread.overlay, hread.overlayVerified, hflag,
      hbefore.overlayVerified, hunverified, Bool.or_false]
  · intro hmode
    rw [← hbefore.options] at hmode
    have hnone : opened.1.overlay = none :=
      (hreadOnly hmode).trans (hbefore.overlay.trans hoverlay)
    rw [hnone] at hoverlays
    exact Option.not_isSome_iff_eq_none.mp (by rw [hoverlays]; exact Bool.false_ne_true)

/-! ### Operations -/

theorem perform_readyMap_of_unverified {state : Image O × World} (h : state.1.stage.isVerified = false) :
    perform readyMap state = (.error (.invalidState .readReady), state) := by
  rw [readyMap, perform_bind_ok (Action.perform_get state)]
  cases hstage : state.1.stage with
  | verified descriptor map =>
    rw [hstage] at h
    cases h
  | _ => rfl

theorem perform_require_of_unverified {state : Image O × World} (h : state.1.stage.isVerified = false)
    {required : Readiness} (hrequired : required ≠ .opened) :
    perform (require required) state = (.error (.invalidState required), state) := by
  rw [perform_require]
  cases required with
  | opened => exact absurd rfl hrequired
  | _ => simp only [ready, h, Bool.false_and, Bool.false_eq_true, if_false]

theorem run_read_of_unverified {state : Image O × World} (h : state.1.stage.isVerified = false) (length : Nat) :
    (read length).run state = (.failed (.invalidState .readReady), state) := by
  cases hstage : state.1.stage with
  | verified descriptor map =>
    rw [hstage] at h
    cases h
  | _ =>
    simp only [read, StateT.run_bind, StateT.run_get, pure_bind, hstage]
    rfl

/-- Before a handle is verified no operation but verification does anything. -/
theorem after_of_unverified {state : Image O × World} (hunverified : state.1.stage.isVerified = false)
    {operation : Operation} (hoperation : operation ≠ .verify) : operation.after state = state := by
  have hready := perform_readyMap_of_unverified hunverified
  cases operation with
  | verify => exact absurd rfl hoperation
  | seek block => exact congrArg Prod.snd (Action.perform_bind_error hready)
  | read length => exact congrArg Prod.snd (run_read_of_unverified hunverified length)
  | isUsed => exact congrArg Prod.snd (Action.perform_bind_error hready)
  | write data =>
    exact congrArg Prod.snd (Action.perform_bind_error (perform_require_of_unverified hunverified (by decide)))
  | sync =>
    exact congrArg Prod.snd (Action.perform_bind_error (perform_require_of_unverified hunverified (by decide)))

theorem Coherent.uses {before after : Image O × World} (h : Coherent options descriptor map before.1)
    (huses : Uses Unbound before after) (hcursor : after.1.cursor ≤ descriptor.totalBlocks) :
    Coherent options descriptor map after.1 where
  stage := huses.stage.trans h.stage
  suits := h.suits
  options_eq := huses.options.trans h.options_eq
  index_eq := h.index_eq
  cursor_le := hcursor
  overlayVerified := by
    have hsome : after.1.overlay.isSome = before.1.overlay.isSome := huses.used.isSome_eq
    rw [huses.overlayVerified, h.overlayVerified, hsome]
  readOnly := by
    intro hmode
    have hsome : after.1.overlay.isSome = before.1.overlay.isSome := huses.used.isSome_eq
    rw [h.readOnly hmode] at hsome
    exact Option.not_isSome_iff_eq_none.mp (by rw [hsome]; exact Bool.false_ne_true)

theorem Coherent.still {before after : Image O × World} (h : Coherent options descriptor map before.1)
    (huses : Uses Unbound before after) (hstill : Still before after) :
    Coherent options descriptor map after.1 :=
  h.uses huses (by rw [hstill.cursor]; exact h.cursor_le)

theorem Coherent.attach {state attached : Image O × World} {result : Except Error Unit}
    (h : Coherent options descriptor map state.1) (hwritable : state.1.ready .writable = true)
    {blockSize totalBlocks : Nat}
    (hattach : perform (attachOverlay blockSize totalBlocks) state = (result, attached)) :
    Coherent options descriptor map attached.1 := by
  have hmode : options.mode ≠ .readOnly := by
    intro hread
    rw [ready, Image.readOnly, h.options_eq, hread, h.stage] at hwritable
    cases hwritable
  rw [perform_attachOverlay] at hattach
  rcases hmake : perform (makeOverlay state.1.setup state.1.route blockSize totalBlocks) state.2.disk
    with ⟨made, disk⟩
  rw [hmake] at hattach
  cases made with
  | error error =>
    cases hattach
    exact ⟨h.stage, h.options_eq, h.suits, h.index_eq, h.cursor_le, h.overlayVerified, h.readOnly⟩
  | ok store =>
    cases hattach
    exact ⟨h.stage, h.options_eq, h.suits, h.index_eq, h.cursor_le, rfl, fun hread => absurd hread hmode⟩

/-- Writing ends with the cursor on the device. -/
theorem Coherent.writeBlocks {state : Image O × World} (h : Coherent options descriptor map state.1)
    (count : Nat) (data : Bytes) :
    Coherent options descriptor map (perform (writeBlocks descriptor.blockSize descriptor.totalBlocks count data)
      state).2.1 := by
  obtain ⟨blocks, hmoves, hbound⟩ :=
    writeBlocks_moves descriptor.blockSize descriptor.totalBlocks count data state h.cursor_le
  exact h.uses (writeBlocks_uses writes_unbound _ _ count data state)
    (by rw [hmoves.cursor]; exact hbound)

theorem Coherent.write {state : Image O × World} (h : Coherent options descriptor map state.1) (data : Bytes) :
    Coherent options descriptor map (perform (write data) state).2.1 := by
  rw [perform_write h.stage (fun hsome => h.overlayVerified.trans hsome)]
  split
  · exact h
  · next hwritable =>
    split
    · exact h
    · split
      · exact h.writeBlocks _ data
      · rw [Action.perform_bind]
        rcases hattach : perform (attachOverlay descriptor.blockSize descriptor.totalBlocks) state
          with ⟨result, attached⟩
        have hattached := h.attach (Bool.not_eq_false _ ▸ hwritable) hattach
        cases result with
        | error error => exact hattached
        | ok done => exact hattached.writeBlocks _ data

/-- **Every call keeps the parts of a verified handle together**, whether it succeeds or not. -/
theorem Coherent.after {state : Image O × World} (h : Coherent options descriptor map state.1)
    (operation : Operation) : Coherent options descriptor map (operation.after state).1 := by
  have hlength : map.bitmap.length = descriptor.totalBlocks := h.suits.length_eq
  cases operation with
  | verify =>
    show Coherent _ _ _ (perform Image.verify state).2.1
    rw [perform_verify_of_verified h.stage]
    exact h
  | seek block =>
    refine h.uses (seek_uses writes_unbound.toReads block state) ?_
    show (perform (Image.seek block) state).2.1.cursor ≤ _
    rw [perform_seek h.suits h.stage]
    by_cases hrange : descriptor.totalBlocks < block
    · rw [if_pos hrange]
      exact h.cursor_le
    · have hstill := seekOverlay_still block state
      rw [if_neg hrange]
      rcases hmove : perform (seekOverlay block) state with ⟨result, reached⟩
      rw [hmove] at hstill
      cases result with
      | error error =>
        show reached.1.cursor ≤ _
        rw [hstill.cursor]
        exact h.cursor_le
      | ok done => exact Nat.le_of_not_lt hrange
  | read length =>
    refine h.uses (read_uses writes_unbound.toReads length state) ?_
    show ((Image.read length).run state).2.1.cursor ≤ _
    rw [run_read h.stage]
    split
    · exact h.cursor_le
    · have hend := readBlocks_end h.suits (length / descriptor.blockSize)
        (show state.1.cursor ≤ map.bitmap.length by rw [hlength]; exact h.cursor_le)
      rw [← hlength]
      generalize (readBlocks descriptor map (length / descriptor.blockSize)).run state = ended at hend ⊢
      rcases ended with ⟨⟨bytes, result⟩, reached⟩
      cases hend with
      | whole moves bound => rw [moves.cursor]; exact bound
      | refused blocks cause moves bound => rw [moves.cursor]; exact Nat.le_of_lt bound
      | ended blocks moves last => rw [moves.cursor]; exact Nat.le_of_eq last
      | faulty blocks error fault used moves bound => rw [moves.cursor]; exact Nat.le_of_lt bound
  | isUsed => exact h.still (isUsed_uses writes_unbound.toReads state) (isUsed_still state)
  | write data => exact h.write data
  | sync => exact h.still (sync_uses writes_unbound state) (sync_still state)

/-! ### Failures -/

/-- A record that cannot be had is no fault of the handle. -/
theorem isOrdinary_of_fault {error : Error} {block : Nat}
    (h : error.faultyBlock? = some block ∨ error = .overflow) : error.isOrdinary = true := by
  rcases h with h | rfl
  case inr => rfl
  cases error with
  | outOfBounds => cases h
  | invalidState required => cases h
  | _ => rfl

/-- A block that is not stored was refused by the overlay, or there is no such block. -/
theorem writeBlocks_error {state reached : Image O × World} (hsome : state.1.overlay.isSome = true)
    {blockSize total count : Nat} {data : Bytes} {error : Error}
    (h : perform (writeBlocks blockSize total count data) state = (.error error, reached)) :
    error.isOrdinary = true := by
  induction count generalizing state data with
  | zero => cases h
  | succ count ih =>
    obtain ⟨store, hstore⟩ := Option.isSome_iff_exists.mp hsome
    rw [perform_writeBlocks_succ hstore] at h
    split at h
    · cases h
      rfl
    · split at h
      · cases h
        rfl
      · split at h
        · cases h
          rfl
        · exact ih rfl h

theorem Coherent.seek_error {state : Image O × World} (h : Coherent options descriptor map state.1) {block : Nat}
    {error : Error} (hrun : (perform (Image.seek block) state).1 = .error error) : error.isOrdinary = true := by
  rw [perform_seek h.suits h.stage] at hrun
  split at hrun
  · cases hrun
    rfl
  · split at hrun
    · next hmove =>
      cases hrun
      obtain ⟨cause, rfl⟩ := seekOverlay_error hmove
      rfl
    · cases hrun

theorem Coherent.read_error {state : Image O × World} (h : Coherent options descriptor map state.1) {length : Nat}
    {error : Error} (hrun : ((Image.read length).run state).1.result = .error error) : error.isOrdinary = true := by
  rw [run_read h.stage] at hrun
  split at hrun
  · cases hrun
    rfl
  · have hend := readBlocks_end h.suits (length / descriptor.blockSize)
      (show state.1.cursor ≤ map.bitmap.length by rw [h.suits.length_eq]; exact h.cursor_le)
    rw [hrun] at hend
    cases hend with
    | refused blocks cause moves bound => rfl
    | ended blocks moves last => rfl
    | faulty blocks error fault used moves bound => exact isOrdinary_of_fault fault

theorem Coherent.isUsed_error {state : Image O × World} (h : Coherent options descriptor map state.1) {error : Error}
    (hrun : (perform Image.isUsed state).1 = .error error) : error.isOrdinary = true := by
  rw [perform_isUsed h.suits h.stage] at hrun
  split at hrun
  · cases hrun
    rfl
  · split at hrun
    · next hmove =>
      cases hrun
      obtain ⟨cause, rfl⟩ := seekOverlay_error hmove
      rfl
    · cases hrun

theorem Coherent.write_error {state : Image O × World} (h : Coherent options descriptor map state.1) {data : Bytes}
    {error : Error} (hrun : (perform (Image.write data) state).1 = .error error) :
    error.isOrdinary = true ∨ error = .invalidState .writable ∧ state.1.ready .writable = false := by
  rw [perform_write h.stage (fun hsome => h.overlayVerified.trans hsome)] at hrun
  split at hrun
  · next hwritable =>
    cases hrun
    exact .inr ⟨rfl, hwritable⟩
  split at hrun
  · cases hrun
    exact .inl rfl
  split at hrun
  · next hsome => exact .inl (writeBlocks_error hsome (Prod.ext hrun rfl))
  · rw [Action.perform_bind, perform_attachOverlay] at hrun
    rcases hmake : perform (makeOverlay state.1.setup state.1.route descriptor.blockSize descriptor.totalBlocks)
      state.2.disk with ⟨made, disk⟩
    rw [hmake] at hrun
    cases made with
    | error cause =>
      cases hrun
      exact .inl rfl
    | ok store => exact .inl (writeBlocks_error rfl (Prod.ext hrun rfl))

theorem sync_error {state : Image O × World} {error : Error} (hrun : (perform Image.sync state).1 = .error error) :
    error.isOrdinary = true ∨ error = .invalidState .writeReady ∧ state.1.ready .writeReady = false := by
  cases hready : state.1.ready .writeReady with
  | false =>
    rw [perform_sync_of_unready hready] at hrun
    cases hrun
    exact .inr ⟨rfl, rfl⟩
  | true =>
    have hsome : state.1.overlay.isSome = true := by
      rw [ready] at hready
      simp only [Bool.and_eq_true] at hready
      exact hready.1.2
    obtain ⟨store, hstore⟩ := Option.isSome_iff_exists.mp hsome
    rw [perform_sync hready hstore] at hrun
    obtain ⟨cause, -, rfl⟩ := Action.mapError_eq_error_iff.mp hrun
    exact .inl rfl

/-- **The failures of calls on a verified handle** have to do with the image, the overlay or what was
asked for, or say what the handle is not ready for. -/
theorem Coherent.error {state : Image O × World} (h : Coherent options descriptor map state.1)
    {operation : Operation} {error : Error} (herror : operation.error? state = some error) :
    error.isOrdinary = true
      ∨ error = .invalidState operation.requires ∧ state.1.ready operation.requires = false := by
  cases operation with
  | verify =>
    have hrun : (perform Image.verify state).1 = .error error := failure?_eq_some_iff.mp herror
    rw [perform_verify_of_verified h.stage] at hrun
    cases hrun
    refine .inr ⟨rfl, ?_⟩
    show state.1.stage.isOpened = false
    rw [h.stage]
    rfl
  | seek block => exact .inl (h.seek_error (failure?_eq_some_iff.mp herror))
  | read length => exact .inl (h.read_error (failure?_eq_some_iff.mp herror))
  | isUsed => exact .inl (h.isUsed_error (failure?_eq_some_iff.mp herror))
  | write data => exact h.write_error (failure?_eq_some_iff.mp herror)
  | sync => exact sync_error (failure?_eq_some_iff.mp herror)

/-! ### Handles that were opened -/

/-- A handle whose verification has not got as far as the head of the image. -/
structure Unread (options : OpenOptions) (state : Image O × World) : Prop where
  stage : state.1.stage = .opened
  options_eq : state.1.options = options
  overlay : state.1.overlay = none
  overlayVerified : state.1.overlayVerified = false

/-- A handle whose verification has got further than that, and not to the end. -/
structure Stuck (options : OpenOptions) (state : Image O × World) : Prop where
  opened : state.1.stage.isOpened = false
  unverified : state.1.stage.isVerified = false
  options_eq : state.1.options = options

/-- What is known of a handle that was opened, whatever was done to it. -/
inductive Known (options : OpenOptions) (state : Image O × World) : Prop
  | unread (h : Unread options state)
  | stuck (h : Stuck options state)
  | verified (descriptor : Descriptor) (map : BlockMap) (h : Coherent options descriptor map state.1)

variable {state : Image O × World}

/-- A verification that is under way may go on as long as its stage stays. -/
theorem Stuck.keeps {α : Type} {act : Action (Image O × World) Error α}
    (hstage : ∀ state, (perform act state).2.1.stage = state.1.stage)
    (hoptions : ∀ state, (perform act state).2.1.options = state.1.options) :
    Leads (Stuck options) act (fun _ => Stuck options) (Known options) := by
  intro state h
  have hreached : Stuck options (perform act state).2 :=
    ⟨(congrArg Stage.isOpened (hstage state)).trans h.opened,
      (congrArg Stage.isVerified (hstage state)).trans h.unverified, (hoptions state).trans h.options_eq⟩
  rcases hrun : perform act state with ⟨result, reached⟩
  rw [hrun] at hreached
  cases result with
  | ok value => exact hreached
  | error error => exact .stuck hreached

theorem Stuck.still {α : Type} {act : Action (Image O × World) Error α} (hact : Respects Still act) :
    Leads (Stuck options) act (fun _ => Stuck options) (Known options) :=
  Stuck.keeps (fun state => (hact state).stage) fun state => (hact state).options

theorem Stuck.used {α : Type} {act : Action (Image O × World) Error α} (hact : Respects (Uses Unbound) act) :
    Leads (Stuck options) act (fun _ => Stuck options) (Known options) :=
  Stuck.keeps (fun state => (hact state).stage) fun state => (hact state).options

theorem Stuck.reach {stage : Stage} (hopened : stage.isOpened = false) (hverified : stage.isVerified = false) :
    Leads (Stuck (O := O) options) (reach stage) (fun _ => Stuck options) (Known options) :=
  .change fun _ h => ⟨hopened, hverified, h.options_eq⟩

/-- **A verification that does not succeed ends on the way.** -/
theorem verify_leads_known :
    Leads (Unread (O := O) options) verify (fun _ _ => True) (Known options) := by
  have hrequire : Leads (Unread (O := O) options) (require .opened) (fun _ => Unread options)
      (Known options) := by
    intro state h
    have hready : state.1.ready .opened = true := by
      rw [ready, h.stage]
      rfl
    rw [perform_require, hready]
    exact h
  have hversion : Leads (Unread (O := O) options) (onSource BlockMap.readVersion) (fun _ => Unread options)
      (Known options) := by
    have huses : Respects (Uses Eq) (onSource (O := O) BlockMap.readVersion) :=
      onSource_uses (@BlockMap.extracts_version []).onward
    refine huses.leads ?_ ?_
    · intro before after h hunread
      obtain ⟨hoverlay, -⟩ := Prod.mk.inj h.used.eq
      exact ⟨h.stage.trans hunread.stage, h.options.trans hunread.options_eq, hoverlay.trans hunread.overlay,
        h.overlayVerified.trans hunread.overlayVerified⟩
    · intro before after h hunread
      obtain ⟨hoverlay, -⟩ := Prod.mk.inj h.used.eq
      exact .unread ⟨h.stage.trans hunread.stage, h.options.trans hunread.options_eq,
        hoverlay.trans hunread.overlay, h.overlayVerified.trans hunread.overlayVerified⟩
  have hreach : Leads (Unread (O := O) options) (reach .headerValid) (fun _ => Stuck options)
      (Known options) :=
    .change fun _ h => ⟨rfl, rfl, h.options_eq⟩
  unfold verify
  refine hrequire.bind fun _ => Leads.get.bind fun before => hversion.bind fun version =>
    hreach.bind fun _ => ?_
  cases hformat : Format.ofVersion? version with
  | none => exact .throw fun state h => .stuck h
  | some format =>
    refine (Stuck.reach rfl rfl).bind fun _ =>
      (Stuck.used (onSource_uses (@BlockMap.extracts_descriptor [] format).onward)).bind fun described => ?_
    obtain ⟨descriptor, layout⟩ := described
    exact (Stuck.reach rfl rfl).bind fun _ => (Stuck.still (initOverlay_still _ _)).bind fun _ =>
      (Stuck.used (onSource_uses (@BlockMap.extracts_load [] format layout _ _).onward)).bind fun map =>
        (Stuck.used (repairDeviceSize_uses descriptor)).bind fun resized => (Stuck.reach rfl rfl).bind fun _ =>
          (Stuck.used (repairUsedBlocks_uses _ resized _)).bind fun counted =>
            (Stuck.reach rfl rfl).bind fun _ =>
              (Stuck.still verifyOverlay_still).bind fun _ => .change fun _ _ => trivial

/-- **What is known of a handle stays known.** -/
theorem Known.after (h : Known options state) (operation : Operation) :
    Known options (operation.after state) := by
  cases h with
  | verified descriptor map h => exact .verified descriptor map (h.after operation)
  | unread h =>
    by_cases hoperation : operation = .verify
    · subst hoperation
      have hend := verify_leads_known state h
      show Known options (perform verify state).2
      rcases hverify : perform verify state with ⟨result, verified⟩
      rw [hverify] at hend
      cases result with
      | error error => exact hend
      | ok done =>
        obtain ⟨descriptor, map, hcoherent⟩ := coherent_of_verify h.overlay h.overlayVerified hverify
        rw [h.options_eq] at hcoherent
        exact .verified descriptor map hcoherent
    · rw [after_of_unverified (by rw [h.stage]; rfl) hoperation]
      exact .unread h
  | stuck h =>
    by_cases hoperation : operation = .verify
    · subst hoperation
      show Known options (perform verify state).2
      rw [perform_verify_of_not_opened h.opened]
      exact .stuck h
    · rw [after_of_unverified h.unverified hoperation]
      exact .stuck h

theorem Known.run (h : Known options state) (operations : List Operation) :
    Known options (Operation.run operations state) :=
  Operation.run_induction h (fun h => h.after) operations

/-- A handle that is known and verified is coherent. -/
theorem Known.coherent (h : Known options state) (hverified : state.1.stage.isVerified = true) :
    ∃ descriptor map, Coherent options descriptor map state.1 := by
  cases h with
  | verified descriptor map h => exact ⟨descriptor, map, h⟩
  | unread h =>
    rw [h.stage] at hverified
    cases hverified
  | stuck h =>
    rw [h.unverified] at hverified
    cases hverified

/-- **Whenever a handle is verified, its parts fit together, and no call on it runs out of bounds**,
whatever was done to the handle before: the bitmap has the blocks of the device, its index a sample for
every stride that is begun and one for the end, the filler has the size of a block and the scratch buffer
that of a record with the trailer before it, the cursor is on the device or at its end, and there is an
overlay just if one was verified, and none if the image is only read.  A call fails for lack of readiness
only if the handle lacked what the call requires. -/
theorem verified_parts {source : Source} {path : String} {options : OpenOptions}
    {setup : Overlay.Setup O} {world : World} {operations : List Operation} {state : Image O × World}
    (hreached : Operation.run operations (ofSource source path options setup, world) = state)
    (hverified : state.1.stage.isVerified = true) :
    ∃ descriptor map, state.1.stage = .verified descriptor map
      ∧ 1 ≤ descriptor.blockSize
      ∧ map.bitmap.length = descriptor.totalBlocks
      ∧ map.index.size = (descriptor.totalBlocks + 2 ^ options.factor - 1) / 2 ^ options.factor + 1
      ∧ map.fillerSize = descriptor.blockSize
      ∧ map.scratchSize = 2 * map.layout.trailer + descriptor.blockSize
      ∧ state.1.cursor ≤ descriptor.totalBlocks
      ∧ (state.1.overlay.isSome = true ↔ state.1.overlayVerified = true)
      ∧ (state.1.readOnly = true → state.1.overlay = none)
      ∧ ∀ (operation : Operation) (error : Error), operation.error? state = some error →
        error ≠ .outOfBounds ∧ ∀ required, error = .invalidState required →
          required = operation.requires ∧ state.1.ready required = false := by
  have hknown : Known options (ofSource (O := O) source path options setup, world) :=
    .unread ⟨rfl, rfl, rfl, rfl⟩
  have hend := hknown.run operations
  rw [hreached] at hend
  obtain ⟨descriptor, map, h⟩ := hend.coherent hverified
  refine ⟨descriptor, map, h.stage, h.suits.blockSize_pos, h.suits.length_eq, ?_,
    h.suits.filler_eq.trans h.suits.blockSize_eq, ?_, h.cursor_le, ?_, ?_, ?_⟩
  · rw [h.index_eq, PrefixCount.size_build, h.suits.length_eq, PrefixCount.entries, PrefixCount.stride,
      Nat.one_shiftLeft]
  · rw [h.suits.scratch_eq, RecordLayout.recordSize, h.suits.blockSize_eq]
    omega
  · rw [h.overlayVerified]
  · intro hread
    rw [readOnly, Bool.and_eq_true, beq_iff_eq, h.options_eq] at hread
    exact h.readOnly hread.1
  · intro operation error herror
    rcases h.error herror with hordinary | ⟨rfl, hready⟩
    · refine ⟨?_, ?_⟩
      · rintro rfl
        cases hordinary
      · rintro required rfl
        cases hordinary
    · refine ⟨fun hbounds => (by cases hbounds), ?_⟩
      intro required hrequired
      cases hrequired
      exact ⟨rfl, hready⟩

/-- An image of two blocks of two bytes is verified, and then a block past its end is sought. -/
theorem verified_parts_twoBlocks :
    ∃ state descriptor map, Operation.run [.verify, .seek 3] (inMemory twoBlocks.bytes) = state
      ∧ state.1.stage = .verified descriptor map ∧ map.bitmap.length = 2 ∧ map.index.size = 2
      ∧ map.fillerSize = 2 ∧ map.scratchSize = 10 ∧ state.1.cursor ≤ 2
      ∧ ∀ operation : Operation, operation.error? state ≠ some .outOfBounds := by
  obtain ⟨verified, descriptor, map, hverify, hready⟩ :=
    exists_ready twoBlocks twoBlocks.records (by decide)
  have hcalls : ∀ start : Image MemoryStore × World, perform verify start = (.ok (), verified) →
      Operation.run [.verify, .seek 3] start = (perform (seek 3) verified).2 := by
    intro start hstart
    show (perform (seek 3) (perform verify start).2).2 = _
    rw [hstart]
  have hrun := hcalls _ hverify
  have htotal : descriptor.totalBlocks = 2 := hready.mirrors.total_eq
  have hsought : (perform (seek 3) verified).2 = verified := by
    rw [perform_seek hready.mirrors.suits hready.stage, htotal]
    rfl
  rw [hsought] at hrun
  obtain ⟨descriptor', map', hstage, -, hlength, hindex, hfiller, hscratch, hcursor, -, -, herror⟩ :=
    verified_parts hrun (by rw [hready.stage]; rfl)
  obtain ⟨rfl, rfl⟩ := Stage.verified.inj (hready.stage.symm.trans hstage)
  have hblockSize : descriptor.blockSize = 2 := hready.mirrors.layout.blockSize_eq.symm
  have htrailer : map.layout.trailer = 4 := by
    rw [hready.mirrors.fits.layout_eq]
    rfl
  rw [htotal] at hlength hcursor
  have hsamples : map.index.size = 2 := by
    rw [hindex, htotal]
    rfl
  rw [hblockSize] at hfiller
  rw [hblockSize, htrailer] at hscratch
  exact ⟨verified, descriptor, map, hrun, hstage, hlength, hsamples, hfiller, hscratch, hcursor,
    fun operation hbounds => (herror operation _ hbounds).1 rfl⟩

end Image

end PartitionImage
