import PartitionImage.BlockDevice
import PartitionImage.Proofs.ChangeFile.Attached
import PartitionImage.Proofs.Opening
/-!
# The operations of a raw image

One equation for each part of an operation, and what it uses of a handle: its source, its cursor, and its overlay if
there is one.  Whatever a relation says of the overlay's own operations, it says of those that go through the
handle.

* `RawImage.perform_seek`, `RawImage.run_read` and their companions are the equations.
* `RawImage.Uses` says that nothing else of a handle is different; `RawImage.seek_uses` and its companions say so of
  the operations, whatever the handle is ready for.
* `RawImage.disk_drop` is about the disk that a handle leaves in the end.
-/

namespace PartitionImage.RawImage

open PartitionImage.Action (Respects Maintains perform perform_bind_inv perform_bind_ok)

variable {O : Type} [Overlay O] {state : RawImage O × World}

def atBlock (block : Nat) (state : RawImage O × World) : RawImage O × World :=
  ({ state.1 with cursor := block }, state.2)

/-! ### Opening -/

/-- A handle that is opened on a source has as many blocks as there are bytes for, and no overlay. -/
theorem opened_of_ofSource {source : Source} {path : String} {options : OpenOptions} {setup : Overlay.Setup O}
    {world opened : World} {image : RawImage O}
    (h : perform (ofSource source path options setup) world = (.ok image, opened)) :
    opened = world ∧ ∃ size, source.size world.disk = .ok size
      ∧ image = { source := source, path := path, mode := options.mode, setup := setup, verified := false,
                  blockSize := blockSizeFor size, totalBlocks := size / blockSizeFor size,
                  overlayPath := options.overlay, overlay := none, cursor := 0 } := by
  rw [ofSource, perform_bind_ok (Action.perform_get world)] at h
  obtain ⟨size, reached, hsize, h⟩ := perform_bind_inv h
  obtain ⟨hresult, rfl⟩ := Prod.mk.inj hsize
  cases h
  exact ⟨rfl, size, Action.mapError_eq_ok_iff.mp hresult, rfl⟩

/-! ### What is looked at -/

theorem perform_require (required : Readiness) (state : RawImage O × World) :
    perform (require required) state
      = (if state.1.ready required then .ok () else .error (.invalidState required), state) := by
  rw [require, perform_bind_ok (Action.perform_get state)]
  cases state.1.ready required with
  | true => rfl
  | false => rfl

theorem perform_requireBlock (state : RawImage O × World) :
    perform requireBlock state
      = (if state.1.totalBlocks ≤ state.1.cursor then
          .error (.outOfRange state.1.cursor state.1.totalBlocks) else .ok (), state) := by
  rw [requireBlock, perform_bind_ok (Action.perform_get state)]
  dsimp only
  split
  · rfl
  · rfl

theorem perform_requireWhole (length : Nat) (state : RawImage O × World) :
    perform (requireWhole length) state
      = (if length % state.1.blockSize ≠ 0 then .error (.bufferSize length state.1.blockSize)
        else .ok (), state) := by
  rw [requireWhole, perform_bind_ok (Action.perform_get state)]
  dsimp only
  split
  · rfl
  · rfl

theorem require_respects {rel : RawImage O × World → RawImage O × World → Prop}
    [Std.Refl rel] (required : Readiness) : Respects rel (require required) := by
  intro state
  rw [perform_require]
  exact Std.Refl.refl state

/-! ### Seeking -/

theorem perform_seekOverlay (block : Nat) (state : RawImage O × World) :
    perform (seekOverlay block) state
      = match state.1.overlay with
        | none => (.ok (), state)
        | some store =>
          ((perform (Overlay.seek block) (store, state.2.disk)).1.mapError .overlay,
            RawImage.withOverlay (perform (Overlay.seek block) (store, state.2.disk)).2 state) := by
  rw [seekOverlay, perform_bind_ok (Action.perform_get state)]
  cases state.1.overlay with
  | none => rfl
  | some store => rfl

/-- A seek goes to the end at most, unless the overlay refuses. -/
theorem perform_seek (hverified : state.1.verified = true) (block : Nat) :
    perform (seek block) state
      = if state.1.totalBlocks < block then (.error (.outOfRange block state.1.totalBlocks), state)
        else
          match perform (seekOverlay block) state with
          | (.error error, reached) => (.error error, reached)
          | (.ok (), reached) => (.ok (), atBlock block reached) := by
  have hready : state.1.ready .readReady = true := hverified
  rw [seek, Action.perform_bind, perform_require, if_pos hready]
  dsimp only
  rw [perform_bind_ok (Action.perform_get state)]
  split
  · rfl
  · rw [Action.perform_bind]
    rcases perform (seekOverlay block) state with ⟨result, reached⟩
    cases result with
    | error error => rfl
    | ok done => rfl

/-! ### Reading -/

/-- What the overlay gives: nothing if the cursor cannot be moved there or there is no overlay. -/
theorem run_readOverlay (block : Nat) (state : RawImage O × World) :
    (readOverlay block).run state
      = match perform (seekOverlay block) state with
        | (.error error, reached) => (.failed error, reached)
        | (.ok (), reached) =>
          match reached.1.overlay with
          | none => (⟨[], .ok .notPresent⟩, reached)
          | some store =>
            (((Overlay.read reached.1.blockSize).run (store, reached.2.disk)).1.mapError .overlay,
              RawImage.withOverlay
                ((Overlay.read reached.1.blockSize).run (store, reached.2.disk)).2 reached) := by
  rw [readOverlay, StateT.run_bind]
  show StateT.run _ (perform (seekOverlay block) state).2 = _
  rcases hseek : perform (seekOverlay block) state with ⟨result, reached⟩
  rw [show (seekOverlay block).run.run state = (result, reached) from hseek]
  cases result with
  | error error => rfl
  | ok done =>
    simp only [StateT.run_bind, StateT.run_get, pure_bind]
    cases reached.1.overlay with
    | none => rfl
    | some store => rfl

/-- What there is in the image at `block * blockSize`. -/
def base (state : RawImage O × World) (block : Nat) : Transfer Error Unit :=
  match checked64? (block * state.1.blockSize) with
  | none => .failed .overflow
  | some offset =>
    (state.1.source.readExact state.2.disk offset state.1.blockSize).1.mapError (.readBlock block)

/-- The state after the place of a block was read. -/
def readFrom (state : RawImage O × World) (block : Nat) : RawImage O × World :=
  match checked64? (block * state.1.blockSize) with
  | none => state
  | some offset =>
    ({ state.1 with
        source := (state.1.source.readExact state.2.disk offset state.1.blockSize).2 }, state.2)

theorem base_of_lt {state : RawImage O × World} {block : Nat} (h : block * state.1.blockSize < range64) :
    base state block = (state.1.source.readExact state.2.disk (block * state.1.blockSize)
      state.1.blockSize).1.mapError (.readBlock block) := by
  rw [base, checked64?_of_lt h]

/-- Nothing but the calls of the source changes where a block is read. -/
theorem readFrom_eq (state : RawImage O × World) (block : Nat) :
    ∃ source, state.1.source.Later source
      ∧ readFrom state block = ({ state.1 with source := source }, state.2) := by
  unfold readFrom
  cases checked64? (block * state.1.blockSize) with
  | none => exact ⟨state.1.source, .refl _, rfl⟩
  | some offset => exact ⟨_, state.1.source.readExact_later _ _ _, rfl⟩

/-- A block is what the overlay has, or what the image has at its place. -/
theorem run_readBlock {block : Nat} {reached : RawImage O × World}
    {overlaid : Transfer Error Lookup} (h : (readOverlay block).run state = (overlaid, reached)) :
    (readBlock block).run state
      = match overlaid.result with
        | .error error => (⟨overlaid.bytes, .error error⟩, reached)
        | .ok .found => (.complete overlaid.bytes, reached)
        | .ok .notPresent => (base reached block, readFrom reached block) := by
  rw [readBlock, StateT.run_bind, h]
  show StateT.run (match overlaid.result with | _ => _) reached = _
  cases overlaid.result with
  | error error => rfl
  | ok lookup =>
    cases lookup with
    | found => rfl
    | notPresent =>
      unfold base readFrom
      dsimp only
      rw [StateT.run_bind, StateT.run_get, pure_bind]
      cases checked64? (block * reached.1.blockSize) with
      | none => rfl
      | some offset => rfl

/-- The block at the cursor, then the others if it arrives. -/
theorem run_readBlocks_succ (count : Nat) (state : RawImage O × World) :
    (readBlocks (count + 1)).run state
      = if state.1.totalBlocks ≤ state.1.cursor then
          (.failed (.outOfRange state.1.cursor state.1.totalBlocks), state)
        else
          let first := (readBlock state.1.cursor).run state
          match first.1.result with
          | .error _ => first
          | .ok () =>
            let rest := (readBlocks count).run (atBlock (state.1.cursor + 1) first.2)
            (first.1.append rest.1, rest.2) := by
  rw [readBlocks, StateT.run_bind, StateT.run_get]
  by_cases hend : state.1.totalBlocks ≤ state.1.cursor
  · rw [if_pos hend]
    show StateT.run (if state.1.totalBlocks ≤ state.1.cursor then _ else _) state = _
    rw [if_pos hend]
    rfl
  · rw [if_neg hend]
    show StateT.run (if state.1.totalBlocks ≤ state.1.cursor then _ else _) state = _
    rw [if_neg hend, StateT.run_bind]
    rcases (readBlock state.1.cursor).run state with ⟨⟨bytes, result⟩, reached⟩
    cases result with
    | error error => rfl
    | ok done => rfl

/-- A read of a verified image reads whole blocks. -/
theorem run_read (hverified : state.1.verified = true) (length : Nat) :
    (read length).run state
      = if length % state.1.blockSize ≠ 0 then (.failed (.bufferSize length state.1.blockSize), state)
        else (readBlocks (length / state.1.blockSize)).run state := by
  simp only [read, StateT.run_bind, StateT.run_get, pure_bind, hverified, Bool.not_true,
    Bool.false_eq_true, if_false]
  split
  · rfl
  · rfl

/-! ### Writing -/

/-- One block is written and then the others, unless it cannot be stored. -/
theorem perform_writeBlocks_succ {store : O} (hstore : state.1.overlay = some store) (count : Nat) (data : Bytes) :
    perform (writeBlocks (count + 1) data) state
      = if state.1.totalBlocks ≤ state.1.cursor then
          (.error (.outOfRange state.1.cursor state.1.totalBlocks), state)
        else
          match perform (Overlay.seek state.1.cursor) (store, state.2.disk) with
          | (.error cause, sought) => (.error (.overlay cause), RawImage.withOverlay sought state)
          | (.ok (), sought) =>
            match perform (Overlay.write (data.take state.1.blockSize)) sought with
            | (.error cause, written) => (.error (.overlay cause), RawImage.withOverlay written state)
            | (.ok (), written) =>
              perform (writeBlocks count (data.drop state.1.blockSize))
                (atBlock (state.1.cursor + 1) (RawImage.withOverlay written state)) := by
  rw [writeBlocks, Action.perform_bind, perform_requireBlock]
  by_cases hend : state.1.totalBlocks ≤ state.1.cursor
  · rw [if_pos hend, if_pos hend]
  · rw [if_neg hend, if_neg hend]
    dsimp only
    rw [perform_bind_ok (Action.perform_get state), Action.perform_bind, perform_seekOverlay, hstore]
    dsimp only
    rcases perform (Overlay.seek state.1.cursor) (store, state.2.disk) with ⟨result, sought⟩
    cases result with
    | error cause => rfl
    | ok done =>
      dsimp only [Except.mapError]
      rw [perform_bind_ok (Action.perform_get _)]
      dsimp only [RawImage.withOverlay, World.withDisk]
      rw [Action.perform_bind, onOverlay, Action.perform_zoom]
      dsimp only
      rcases perform (Overlay.write (data.take state.1.blockSize)) (sought.1, sought.2) with ⟨result, written⟩
      cases result with
      | error cause => rfl
      | ok done => rfl

theorem perform_attachOverlay (state : RawImage O × World) :
    perform attachOverlay state
      = match perform (makeOverlay state.1.setup state.1.route state.1.blockSize state.1.totalBlocks)
          state.2.disk with
        | (.error error, disk) => (.error (.overlay error),
            { state.1 with overlayPath := some state.1.route }, state.2.withDisk disk)
        | (.ok store, disk) => (.ok (),
            { state.1 with overlayPath := some state.1.route, overlay := some store },
            state.2.withDisk disk) := by
  have hupdate : perform (update fun image : RawImage O =>
      { image with overlayPath := some state.1.route })
        state = (.ok (), { state.1 with overlayPath := some state.1.route }, state.2) := rfl
  have hroute : state.1.overlayPath.getD (defaultOverlayPath state.1.path) = state.1.route := rfl
  rw [attachOverlay, perform_bind_ok (Action.perform_get state)]
  dsimp only
  rw [hroute, perform_bind_ok hupdate, Action.perform_bind, Action.perform_onDisk]
  dsimp only
  rcases perform (makeOverlay state.1.setup state.1.route state.1.blockSize state.1.totalBlocks)
    state.2.disk with ⟨result, disk⟩
  cases result with
  | error error => rfl
  | ok store => rfl

/-- A write that is not refused attaches an overlay if there is none, and stores its blocks. -/
theorem perform_write (data : Bytes) (state : RawImage O × World) :
    perform (write data) state
      = if state.1.ready .writable = false then (.error (.invalidState .writable), state)
        else if data.length % state.1.blockSize ≠ 0 then
          (.error (.bufferSize data.length state.1.blockSize), state)
        else if state.1.overlay.isSome then
          perform (writeBlocks (data.length / state.1.blockSize) data) state
        else
          perform (attachOverlay >>= fun _ => writeBlocks (data.length / state.1.blockSize) data)
            state := by
  rw [write, Action.perform_bind, perform_require]
  cases hwritable : state.1.ready .writable with
  | false => rfl
  | true =>
    simp only [if_true, Bool.true_eq_false, if_false]
    rw [Action.perform_bind, perform_requireWhole]
    by_cases hlength : data.length % state.1.blockSize ≠ 0
    · rw [if_pos hlength, if_pos hlength]
    · rw [if_neg hlength, if_neg hlength]
      dsimp only
      rw [perform_bind_ok (Action.perform_get _)]
      cases state.1.overlay with
      | none => rfl
      | some store => rfl

theorem perform_sync (hready : state.1.ready .writeReady = true) {store : O} (hstore : state.1.overlay = some store) :
    perform sync state
      = ((perform Overlay.sync (store, state.2.disk)).1.mapError .overlay,
          RawImage.withOverlay (perform Overlay.sync (store, state.2.disk)).2 state) := by
  rw [sync, Action.perform_bind, perform_require, hready, if_pos rfl]
  dsimp only
  rw [perform_bind_ok (Action.perform_get state), hstore]
  rfl

/-! ### Verifying -/

theorem perform_verify_of_verified (h : state.1.verified = true) :
    perform verify state = (.error (.invalidState .opened), state) := by
  have hready : state.1.ready .opened = false := by
    rw [ready, h]
    rfl
  rw [verify, Action.perform_bind, perform_require, hready]
  rfl

/-- A configured overlay is opened and verified; one that cannot be opened is left to the first write. -/
theorem perform_initOverlay (path : String) (state : RawImage O × World) :
    perform (initOverlay path) state
      = match perform (Overlay.init state.1.setup path state.1.blockSize state.1.totalBlocks) state.2.disk with
        | (.error error, disk) => (.ok (), state.1, (state.2.withDisk disk).warn (.overlayNotOpened path error))
        | (.ok store, disk) =>
          match perform (verifyStore store) disk with
          | (.error error, disk) => (.error (.overlay error), state.1, state.2.withDisk disk)
          | (.ok store, disk) => (.ok (), { state.1 with overlay := some store }, state.2.withDisk disk) := by
  rw [initOverlay, perform_bind_ok (Action.perform_get state)]
  dsimp only
  rw [Action.perform_bind, Action.perform_attempt, Action.perform_onWorld_zoom, Action.mapError_id]
  rcases perform (Overlay.init state.1.setup path state.1.blockSize state.1.totalBlocks) state.2.disk
    with ⟨result, disk⟩
  cases result with
  | error error => rfl
  | ok store =>
    dsimp only
    rw [Action.perform_bind, Action.perform_onDisk]
    dsimp only [World.withDisk]
    rcases perform (verifyStore store) disk with ⟨kept, disk⟩
    cases kept with
    | error error => rfl
    | ok store => rfl

/-- What is no concern of the overlay of a handle is as it was: the source, the mode, the geometry and the cursor. -/
def Kept (before after : RawImage O × World) : Prop :=
  after.1.source = before.1.source ∧ after.1.mode = before.1.mode ∧ after.1.blockSize = before.1.blockSize
    ∧ after.1.totalBlocks = before.1.totalBlocks ∧ after.1.cursor = before.1.cursor

theorem verify_kept (start : RawImage O × World) : Respects (Maintains (Kept start)) verify := by
  have hmarked : Respects (Maintains (Kept start))
      (update fun image : RawImage O => { image with verified := true }) := .change fun _ h => h
  refine .bind (require_respects _) fun _ => .bind .get fun (image, world) => ?_
  dsimp only
  cases image.mode with
  | readOnly => exact hmarked
  | readWrite =>
    cases image.overlayPath with
    | none => exact hmarked
    | some path =>
      refine .bind (.bind .get fun _ => .bind (.attempt (.zoom fun _ _ h => h)) fun opened => ?_)
        fun _ => hmarked
      cases opened with
      | error error => exact .change fun _ h => h
      | ok store => exact .bind (.zoom fun _ _ h => h) fun _ => .change fun _ h => h
  | create =>
    exact .bind (.bind .get fun _ => .bind (.change fun _ h => h) fun _ =>
      .bind (.zoom fun _ _ h => h) fun _ => .change fun _ h => h) fun _ => hmarked

theorem kept_of_verify {start verified : RawImage O × World} {result : Except Error Unit}
    (hverify : perform verify start = (result, verified)) : Kept start verified :=
  (verify_kept start).of_perform hverify ⟨rfl, rfl, rfl, rfl, rfl⟩

/-- A handle that verifies is verified; one that is for reading gets no overlay. -/
theorem verified_of_verify {start verified : RawImage O × World}
    (hverify : perform verify start = (.ok (), verified)) :
    verified.1.verified = true ∧ (start.1.mode = .readOnly → verified.1.overlay = start.1.overlay) := by
  rw [verify, Action.perform_bind, perform_require] at hverify
  split at hverify
  case h_2 heq => cases hverify
  case h_1 heq =>
  obtain ⟨-, rfl⟩ := Prod.mk.inj heq
  rw [perform_bind_ok (Action.perform_get _)] at hverify
  dsimp only at hverify
  cases hmode : start.1.mode with
  | readOnly =>
    rw [hmode] at hverify
    cases hverify
    exact ⟨rfl, fun _ => rfl⟩
  | readWrite =>
    rw [hmode] at hverify
    refine ⟨?_, nofun⟩
    cases hpath : start.1.overlayPath with
    | none =>
      rw [hpath] at hverify
      cases hverify
      rfl
    | some path =>
      rw [hpath] at hverify
      obtain ⟨_, reached, -, hverify⟩ := perform_bind_inv hverify
      cases hverify
      rfl
  | create =>
    rw [hmode] at hverify
    obtain ⟨_, reached, -, hverify⟩ := perform_bind_inv hverify
    cases hverify
    exact ⟨rfl, nofun⟩

/-! ### What is used -/

/-- Nothing of a handle is different but the number of calls that its source has had, its cursor, and its overlay,
within the relation. -/
structure Uses (rel : O × Disk → O × Disk → Prop) (before after : RawImage O × World) : Prop where
  source : before.1.source.Later after.1.source
  path : after.1.path = before.1.path
  mode : after.1.mode = before.1.mode
  setup : after.1.setup = before.1.setup
  verified : after.1.verified = before.1.verified
  blockSize : after.1.blockSize = before.1.blockSize
  totalBlocks : after.1.totalBlocks = before.1.totalBlocks
  overlayPath : after.1.overlayPath = before.1.overlayPath
  used : Overlay.Used rel (before.1.overlay, before.2.disk) (after.1.overlay, after.2.disk)

variable {rel : O × Disk → O × Disk → Prop}

theorem Uses.route {before after : RawImage O × World} (h : Uses rel before after) :
    after.1.route = before.1.route := by
  rw [RawImage.route, RawImage.route, h.overlayPath, h.path]

theorem uses_withOverlay {store : O} (hstore : state.1.overlay = some store) {reached : O × Disk}
    (h : rel (store, state.2.disk) reached) : Uses rel state (withOverlay reached state) := by
  refine ⟨.refl _, rfl, rfl, rfl, rfl, rfl, rfl, rfl, ?_⟩
  rw [hstore]
  exact .some h

variable [IsPreorder (O × Disk) rel]

theorem Uses.refl (state : RawImage O × World) : Uses rel state state :=
  ⟨.refl _, rfl, rfl, rfl, rfl, rfl, rfl, rfl, .refl _⟩

theorem Uses.trans {a b c : RawImage O × World} (hab : Uses rel a b) (hbc : Uses rel b c) :
    Uses rel a c :=
  ⟨hab.source.trans hbc.source, hbc.path.trans hab.path, hbc.mode.trans hab.mode,
    hbc.setup.trans hab.setup, hbc.verified.trans hab.verified, hbc.blockSize.trans hab.blockSize,
    hbc.totalBlocks.trans hab.totalBlocks, hbc.overlayPath.trans hab.overlayPath,
    hab.used.trans hbc.used⟩

instance : Std.Refl (Uses rel) := ⟨Uses.refl⟩

instance : Trans (Uses rel) (Uses rel) (Uses rel) := ⟨Uses.trans⟩

theorem uses_atBlock (block : Nat) (state : RawImage O × World) : Uses rel state (atBlock block state) :=
  ⟨.refl _, rfl, rfl, rfl, rfl, rfl, rfl, rfl, .refl _⟩

section

variable (hrel : Overlay.Reads rel)

include hrel

theorem seekOverlay_uses (block : Nat) : Respects (Uses rel) (seekOverlay (O := O) block) := by
  intro state
  rw [perform_seekOverlay]
  cases hstore : state.1.overlay with
  | none => exact .refl state
  | some store => exact uses_withOverlay hstore (hrel.seek block (store, state.2.disk))

theorem seek_uses (block : Nat) : Respects (Uses rel) (seek (O := O) block) := by
  refine .bind (require_respects _) fun _ => .bind .get fun (image, _) => ?_
  have hmove : Respects (Uses rel) (seekOverlay block >>= fun _ =>
      update fun image : RawImage O => { image with cursor := block }) :=
    .bind (seekOverlay_uses hrel block) fun _ => .change fun state => uses_atBlock block state
  dsimp only
  split
  · exact .bind (.throw _) fun _ => hmove
  · exact hmove

theorem readOverlay_uses (block : Nat) (state : RawImage O × World) :
    Uses rel state ((readOverlay block).run state).2 := by
  have hsought := seekOverlay_uses hrel block state
  rw [run_readOverlay]
  split
  · next heq =>
    rw [heq] at hsought
    exact hsought
  · next reached heq =>
    rw [heq] at hsought
    split
    · exact hsought
    · next store hstore =>
      exact hsought.trans
        (uses_withOverlay hstore (hrel.read reached.1.blockSize (store, reached.2.disk)))

theorem readBlock_uses (block : Nat) (state : RawImage O × World) :
    Uses rel state ((readBlock block).run state).2 := by
  have hasked := readOverlay_uses hrel block state
  rcases hask : (readOverlay block).run state with ⟨overlaid, asked⟩
  rw [hask] at hasked
  rw [run_readBlock hask]
  split
  · exact hasked
  · exact hasked
  · obtain ⟨source, hlater, hfrom⟩ := readFrom_eq asked block
    rw [hfrom]
    exact hasked.trans ⟨hlater, rfl, rfl, rfl, rfl, rfl, rfl, rfl, .refl _⟩

theorem readBlocks_uses (count : Nat) (state : RawImage O × World) :
    Uses rel state ((readBlocks count).run state).2 := by
  induction count generalizing state with
  | zero => exact .refl state
  | succ count ih =>
    have hblock := readBlock_uses hrel state.1.cursor state
    rw [run_readBlocks_succ]
    split
    · exact .refl state
    · dsimp only
      split
      · exact hblock
      · exact (hblock.trans (uses_atBlock _ _)).trans (ih _)

theorem read_uses (length : Nat) (state : RawImage O × World) :
    Uses rel state ((read length).run state).2 := by
  cases hverified : state.1.verified with
  | false =>
    simp only [read, StateT.run_bind, StateT.run_get, pure_bind, hverified]
    exact .refl state
  | true =>
    rw [run_read hverified]
    split
    · exact .refl state
    · exact readBlocks_uses hrel _ state

omit hrel in
theorem requireBlock_uses : Respects (Uses rel) (requireBlock (O := O)) := by
  intro state
  rw [perform_requireBlock]
  exact .refl state

omit hrel in
theorem isUsed_uses : Respects (Uses rel) (isUsed (O := O)) :=
  .bind (require_respects _) fun _ => .bind requireBlock_uses fun _ => .pure _

end

section

variable (hrel : Overlay.Writes rel)

include hrel

theorem sync_uses : Respects (Uses rel) (sync (O := O)) := by
  refine .bind (require_respects _) fun _ state => ?_
  rw [perform_bind_ok (Action.perform_get state)]
  cases hstore : state.1.overlay with
  | none => exact .refl state
  | some store => exact uses_withOverlay hstore (hrel.sync (store, state.2.disk))

theorem writeBlocks_uses (count : Nat) (data : Bytes) :
    Respects (Uses rel) (writeBlocks (O := O) count data) := by
  induction count generalizing data with
  | zero => exact .pure _
  | succ count ih =>
    refine .bind requireBlock_uses fun _ => .bind .get fun state =>
      .bind (seekOverlay_uses hrel.toReads _) fun _ reached => ?_
    rw [perform_bind_ok (Action.perform_get reached)]
    cases hstore : reached.1.overlay with
    | none => exact .refl reached
    | some store =>
      have hwrite := uses_withOverlay hstore
        (hrel.write (data.take state.1.blockSize) (store, reached.2.disk))
      rcases hrun : perform (onOverlay store (Overlay.write (data.take state.1.blockSize))) reached
        with ⟨result, written⟩
      have hwritten : Uses rel reached written := by
        rw [show written = _ from (congrArg Prod.snd hrun).symm]
        exact hwrite
      cases result with
      | error error =>
        dsimp only
        rw [Action.perform_bind_error hrun]
        exact hwritten
      | ok done =>
        dsimp only
        rw [perform_bind_ok hrun]
        refine hwritten.trans (Respects.bind (.change fun state => ?_) (fun _ => ih _) written)
        exact uses_atBlock _ state

end

/-! ### Letting go -/

/-- A warning is all that a failure to keep the changes of a handle leads to. -/
theorem disk_drop (image : RawImage O) (world : World) :
    ((image.drop).run world).2.disk = (perform image.close world).2.disk := by
  rcases hclose : perform image.close world with ⟨result, reached⟩
  have hrun : image.close.run.run world = pure (result, reached) := hclose
  rw [drop, StateT.run_bind, hrun, pure_bind]
  cases result with
  | ok done => rfl
  | error error => rfl

end PartitionImage.RawImage
