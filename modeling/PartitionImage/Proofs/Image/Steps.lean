import PartitionImage.Proofs.Image.Uses
/-!
# The operations, one step at a time

What each operation on the blocks of a verified handle does to its overlay and its cursor, and how an overlay is
come by, whatever the overlay is.

* `Image.perform_isUsed` and `Image.perform_sync` ask the overlay once.
* `Image.initOverlay_end` and `Image.verifyOverlay_end` list the ways in which the opening of the overlay and its
  verification end.
* `Image.perform_writeBlocks_succ` is one block of a write, `Image.perform_attachOverlay` what the first
  write does before it, and `Image.perform_write` the whole.
-/

namespace PartitionImage.Image

variable {O : Type} [Overlay O] {descriptor : Descriptor} {map : BlockMap} {state : Image O × World}

open PartitionImage.Action (perform perform_bind_ok perform_bind_error)

/-- A block is used if the overlay has it or its bit is set. -/
theorem perform_isUsed (hsuits : map.Suits descriptor)
    (hstage : state.1.stage = .verified descriptor map) :
    perform isUsed state
      = if descriptor.totalBlocks ≤ state.1.cursor then
          (.error (.outOfRange state.1.cursor descriptor.totalBlocks), state)
        else
          match perform (seekOverlay state.1.cursor) state with
          | (.error error, reached) => (.error error, reached)
          | (.ok (), reached) =>
            (.ok (reached.1.overlay.any Overlay.holds || map.bitmap.isSet state.1.cursor), reached) := by
  rw [isUsed, perform_bind_ok (perform_readyMap hstage)]
  dsimp only
  rw [Action.perform_bind, perform_requireBlock]
  by_cases hend : descriptor.totalBlocks ≤ state.1.cursor
  · rw [if_pos hend, if_pos hend]
  · have hused : map.bitmap.get? state.1.cursor = some (map.bitmap.isSet state.1.cursor) :=
      map.bitmap.get?_eq_some (by rw [hsuits.length_eq]; omega)
    rw [if_neg hend, if_neg hend]
    dsimp only
    rw [perform_bind_ok (Action.perform_get state), Action.perform_bind]
    rcases perform (seekOverlay state.1.cursor) state with ⟨result, reached⟩
    cases result with
    | error error => rfl
    | ok done =>
      dsimp only
      rw [perform_bind_ok (Action.perform_get reached), hused]
      cases reached.1.overlay.any Overlay.holds with
      | true => rfl
      | false => rfl

theorem perform_sync (hready : state.1.ready .writeReady = true) {store : O}
    (hstore : state.1.overlay = some store) :
    perform sync state
      = ((perform Overlay.sync (store, state.2.disk)).1.mapError .overlay,
          withOverlay (perform Overlay.sync (store, state.2.disk)).2 state) := by
  rw [sync, Action.perform_bind, perform_require, hready, if_pos rfl]
  dsimp only
  rw [perform_bind_ok (Action.perform_get state), hstore]
  rfl

theorem perform_sync_of_unready (hready : state.1.ready .writeReady = false) :
    perform sync state = (.error (.invalidState .writeReady), state) := by
  rw [sync, Action.perform_bind, perform_require, hready]
  rfl

/-! ### Writing -/

theorem perform_writeBlocks_succ {store : O} (hstore : state.1.overlay = some store)
    (blockSize total count : Nat) (data : Bytes) :
    perform (writeBlocks blockSize total (count + 1) data) state
      = if total ≤ state.1.cursor then (.error (.outOfRange state.1.cursor total), state)
        else
          match perform (Overlay.seek state.1.cursor) (store, state.2.disk) with
          | (.error cause, sought) => (.error (.overlay cause), withOverlay sought state)
          | (.ok (), sought) =>
            match perform (Overlay.write (data.take blockSize)) sought with
            | (.error cause, written) => (.error (.overlay cause), withOverlay written state)
            | (.ok (), written) =>
              perform (writeBlocks blockSize total count (data.drop blockSize))
                (atBlock (state.1.cursor + 1) (withOverlay written state)) := by
  rw [writeBlocks, Action.perform_bind, perform_requireBlock]
  by_cases hend : total ≤ state.1.cursor
  · rw [if_pos hend, if_pos hend]
  · rw [if_neg hend, if_neg hend]
    dsimp only
    rw [perform_bind_ok (Action.perform_get state), Action.perform_bind, perform_seekOverlay, hstore]
    dsimp only
    rcases perform (Overlay.seek state.1.cursor) (store, state.2.disk) with ⟨result, sought⟩
    cases result with
    | error cause => rfl
    | ok done =>
      dsimp only [Except.mapError]
      rw [perform_bind_ok (Action.perform_get _)]
      dsimp only [withOverlay, World.withDisk]
      rw [Action.perform_bind, onOverlay, Action.perform_zoom]
      dsimp only
      rcases perform (Overlay.write (data.take blockSize)) (sought.1, sought.2) with ⟨result, written⟩
      cases result with
      | error cause => rfl
      | ok done => rfl

/-- The path of the overlay is settled and stays what it would have been. -/
theorem perform_settleOverlayPath (state : Image O × World) :
    perform settleOverlayPath state
      = (.ok state.1.route, { state.1 with overlayPath := some state.1.route }, state.2) := by
  rw [settleOverlayPath, perform_bind_ok (Action.perform_get state)]
  rfl

/-- A configured overlay is opened; one that cannot be opened is left to the first write. -/
theorem perform_initOverlay (blockSize totalBlocks : Nat) {path : String} (hmode : state.1.options.mode = .readWrite)
    (hpath : state.1.overlayPath = some path) :
    perform (initOverlay blockSize totalBlocks) state
      = match perform (Overlay.init state.1.setup path blockSize totalBlocks) state.2.disk with
        | (.error error, disk) => (.ok (), state.1, (state.2.withDisk disk).warn (.overlayNotOpened path error))
        | (.ok store, disk) => (.ok (), { state.1 with overlay := some store }, state.2.withDisk disk) := by
  rw [initOverlay, perform_bind_ok (Action.perform_get state)]
  dsimp only
  rw [hmode, hpath]
  dsimp only
  rw [Action.perform_bind, Action.perform_attempt, Action.perform_onWorld_zoom, Action.mapError_id]
  rcases perform (Overlay.init state.1.setup path blockSize totalBlocks) state.2.disk with ⟨result, disk⟩
  cases result with
  | error error => rfl
  | ok store =>
    rw [← hpath]
    rfl

/-- The ways in which the opening of the overlay ends: none is asked for, the one at the path is opened or left to
the first write, or one is made or cannot be. -/
inductive InitEnd (blockSize totalBlocks : Nat) (state : Image O × World) :
    Except Error Unit × (Image O × World) → Prop
  | unasked (hmode : state.1.options.mode = .readOnly
      ∨ state.1.options.mode = .readWrite ∧ state.1.overlayPath = none) :
      InitEnd blockSize totalBlocks state (.ok (), state)
  | opened {store : O} {disk : Disk} (hmode : state.1.options.mode = .readWrite)
      (hinit : perform (Overlay.init state.1.setup state.1.route blockSize totalBlocks) state.2.disk
        = (.ok store, disk)) :
      InitEnd blockSize totalBlocks state
        (.ok (), { state.1 with overlay := some store }, state.2.withDisk disk)
  | missing {error : OverlayError} {disk : Disk} (hmode : state.1.options.mode = .readWrite)
      (hinit : perform (Overlay.init state.1.setup state.1.route blockSize totalBlocks) state.2.disk
        = (.error error, disk)) :
      InitEnd blockSize totalBlocks state
        (.ok (), state.1, (state.2.withDisk disk).warn (.overlayNotOpened state.1.route error))
  | made {store : O} {disk : Disk} (hmode : state.1.options.mode = .create)
      (hcreate : perform (Overlay.create state.1.setup state.1.route blockSize totalBlocks) state.2.disk
        = (.ok store, disk)) :
      InitEnd blockSize totalBlocks state
        (.ok (), { state.1 with overlayPath := some state.1.route, overlay := some store },
          state.2.withDisk disk)
  | unmade {error : OverlayError} {disk : Disk} (hmode : state.1.options.mode = .create)
      (hcreate : perform (Overlay.create state.1.setup state.1.route blockSize totalBlocks) state.2.disk
        = (.error error, disk)) :
      InitEnd blockSize totalBlocks state
        (.error (.overlay error), { state.1 with overlayPath := some state.1.route }, state.2.withDisk disk)

/-- **The overlay is opened in one of these ways**, whatever the overlay is. -/
theorem initOverlay_end (blockSize totalBlocks : Nat) (state : Image O × World) :
    InitEnd blockSize totalBlocks state (perform (initOverlay blockSize totalBlocks) state) := by
  cases hmode : state.1.options.mode with
  | readOnly =>
    rw [initOverlay_ok state (.inl hmode)]
    exact .unasked (.inl hmode)
  | readWrite =>
    cases hpath : state.1.overlayPath with
    | none =>
      rw [initOverlay_ok state (.inr ⟨hmode, hpath⟩)]
      exact .unasked (.inr ⟨hmode, hpath⟩)
    | some path =>
      obtain rfl : state.1.route = path := by rw [route, hpath]; rfl
      rw [perform_initOverlay blockSize totalBlocks hmode hpath]
      rcases hinit : perform (Overlay.init state.1.setup state.1.route blockSize totalBlocks) state.2.disk
        with ⟨result, disk⟩
      cases result with
      | error error => exact .missing hmode hinit
      | ok store => exact .opened hmode hinit
  | create =>
    rw [initOverlay, perform_bind_ok (Action.perform_get state)]
    dsimp only
    rw [hmode]
    dsimp only
    rw [perform_bind_ok (perform_settleOverlayPath state), Action.perform_bind, Action.perform_onDisk]
    dsimp only
    rcases hcreate : perform (Overlay.create state.1.setup state.1.route blockSize totalBlocks) state.2.disk
      with ⟨result, disk⟩
    cases result with
    | error error => exact .unmade hmode hcreate
    | ok store => exact .made hmode hcreate

theorem initEnd_of_perform {blockSize totalBlocks : Nat} {result : Except Error Unit} {opened : Image O × World}
    (h : perform (initOverlay blockSize totalBlocks) state = (result, opened)) :
    InitEnd blockSize totalBlocks state (result, opened) :=
  h ▸ initOverlay_end blockSize totalBlocks state

/-- The ways in which the verification of the overlay ends: there is none, or it is found to be whole or not. -/
inductive VerifyEnd (state : Image O × World) : Except Error Unit × (Image O × World) → Prop
  | absent (hnone : state.1.overlay = none) : VerifyEnd state (.ok (), state)
  | whole {store kept : O} {disk : Disk} (hstore : state.1.overlay = some store)
      (hverify : perform Overlay.verify (store, state.2.disk) = (.ok (), kept, disk)) :
      VerifyEnd state
        (.ok (), { state.1 with overlay := some kept, overlayVerified := true }, state.2.withDisk disk)
  | broken {store kept : O} {disk : Disk} {error : OverlayError} (hstore : state.1.overlay = some store)
      (hverify : perform Overlay.verify (store, state.2.disk) = (.error error, kept, disk)) :
      VerifyEnd state (.error (.overlay error), { state.1 with overlay := some kept }, state.2.withDisk disk)

theorem verifyOverlay_end (state : Image O × World) : VerifyEnd state (perform verifyOverlay state) := by
  cases hstore : state.1.overlay with
  | none =>
    rw [verifyOverlay_ok state hstore]
    exact .absent hstore
  | some store =>
    rw [verifyOverlay, perform_bind_ok (Action.perform_get state), hstore]
    dsimp only
    rw [Action.perform_bind, onOverlay, Action.perform_zoom]
    rcases hverify : perform Overlay.verify (store, state.2.disk) with ⟨result, kept, disk⟩
    cases result with
    | error error => exact .broken hstore hverify
    | ok done => exact .whole hstore hverify

theorem verifyEnd_of_perform {result : Except Error Unit} {checked : Image O × World}
    (h : perform verifyOverlay state = (result, checked)) : VerifyEnd state (result, checked) :=
  h ▸ verifyOverlay_end state

theorem perform_attachOverlay (blockSize totalBlocks : Nat) (state : Image O × World) :
    perform (attachOverlay blockSize totalBlocks) state
      = match perform (makeOverlay state.1.setup state.1.route blockSize totalBlocks) state.2.disk with
        | (.error error, disk) => (.error (.overlay error),
            { state.1 with overlayPath := some state.1.route }, state.2.withDisk disk)
        | (.ok store, disk) => (.ok (),
            { state.1 with
              overlayPath := some state.1.route, overlay := some store, overlayVerified := true },
            state.2.withDisk disk) := by
  rw [attachOverlay, perform_bind_ok (perform_settleOverlayPath state),
    perform_bind_ok (Action.perform_get _), Action.perform_bind, Action.perform_onDisk]
  dsimp only
  rcases perform (makeOverlay state.1.setup state.1.route blockSize totalBlocks) state.2.disk
    with ⟨result, disk⟩
  cases result with
  | error error => rfl
  | ok store => rfl

/-- A write that is not refused attaches an overlay if there is none, and stores its blocks. -/
theorem perform_write (hstage : state.1.stage = .verified descriptor map)
    (hverified : state.1.overlay.isSome = true → state.1.overlayVerified = true) (data : Bytes) :
    perform (write data) state
      = if state.1.ready .writable = false then (.error (.invalidState .writable), state)
        else if data.length % descriptor.blockSize ≠ 0 then
          (.error (.bufferSize data.length descriptor.blockSize), state)
        else if state.1.overlay.isSome then
          perform (writeBlocks descriptor.blockSize descriptor.totalBlocks
            (data.length / descriptor.blockSize) data) state
        else
          perform (attachOverlay descriptor.blockSize descriptor.totalBlocks >>= fun _ =>
            writeBlocks descriptor.blockSize descriptor.totalBlocks
              (data.length / descriptor.blockSize) data) state := by
  rw [write, Action.perform_bind, perform_require]
  cases hwritable : state.1.ready .writable with
  | false => rfl
  | true =>
    have hready : state.1.ready .writeReady = state.1.overlay.isSome := by
      show (state.1.ready .writable && state.1.overlay.isSome && state.1.overlayVerified) = _
      rw [hwritable, Bool.true_and]
      cases hsome : state.1.overlay.isSome with
      | false => rfl
      | true => rw [hverified hsome]; rfl
    simp only [if_true, Bool.true_eq_false, if_false]
    rw [perform_bind_ok (perform_readyMap hstage)]
    dsimp only
    rw [requireWhole]
    by_cases hlength : data.length % descriptor.blockSize ≠ 0
    · rw [if_pos hlength, if_pos hlength]
      rfl
    · rw [if_neg hlength, if_neg hlength, perform_bind_ok (Action.perform_pure _ _),
        perform_bind_ok (Action.perform_get _), hready]
      cases state.1.overlay.isSome with
      | false => rfl
      | true => rfl

end PartitionImage.Image
