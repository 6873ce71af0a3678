import PartitionImage.Proofs.Guarded
import PartitionImage.Proofs.RawImage.Attachment
/-!
# The overlay of a raw image

* `RawImage.Sized` is a handle whose overlay has the size of the image; `RawImage.sized_of_ofSource` says that handles
  are opened as such, and `RawImage.Sized.after` that every call keeps to that.
* `RawImage.layered` puts the calls together that follow programs on the overlay.
-/

namespace PartitionImage.RawImage

open PartitionImage.Action (Maintains Respects perform perform_bind_ok perform_bind_error)
open PartitionImage.Overlay (Calls Mount MadeFor writes_calls)

variable {O : Type} [Overlay O] {mode : OpenMode} {blockSize total : Nat} {state : RawImage O × World}

/-- A write keeps what the use of an overlay keeps, if the attachment of one does. -/
theorem write_keeps {p : RawImage O × World → Prop}
    (huses : ∀ {before after}, Uses Calls before after → p before → p after)
    (hattach : state.1.ready .writable = true → p (perform attachOverlay state).2) (h : p state) (data : Bytes) :
    p (perform (write data) state).2 := by
  rw [perform_write]
  split
  · exact h
  · next hwritable =>
    split
    · exact h
    split
    · exact huses (writeBlocks_uses writes_calls _ data state) h
    have hattached := hattach (Bool.not_eq_false _ ▸ hwritable)
    rw [Action.perform_bind]
    rcases hrun : perform attachOverlay state with ⟨result, reached⟩
    rw [hrun] at hattached
    cases result with
    | error error => exact hattached
    | ok done => exact huses (writeBlocks_uses writes_calls _ data reached) hattached

/-- No call takes it back that a handle is verified. -/
theorem verified_after (hverified : state.1.verified = true) (operation : Operation) :
    (operation.after state).1.verified = true := by
  have huses : ∀ {before after : RawImage O × World}, Uses Calls before after → before.1.verified = true →
      after.1.verified = true := fun huses hbefore => huses.verified.trans hbefore
  cases operation with
  | verify =>
    show (perform RawImage.verify state).2.1.verified = true
    rw [perform_verify_of_verified hverified]
    exact hverified
  | seek block => exact huses (seek_uses writes_calls.toReads block state) hverified
  | read length => exact huses (read_uses writes_calls.toReads length state) hverified
  | isUsed => exact huses (isUsed_uses state) hverified
  | sync => exact huses (sync_uses writes_calls state) hverified
  | write data =>
    refine write_keeps (p := fun state => state.1.verified = true) huses (fun _ => ?_) hverified data
    rw [perform_attachOverlay]
    rcases perform (makeOverlay state.1.setup state.1.route state.1.blockSize state.1.totalBlocks) state.2.disk
      with ⟨result, disk⟩
    cases result with
    | error error => exact hverified
    | ok store => exact hverified

/-! ### Handles whose overlay has the size of the image -/

/-- A handle on `total` blocks, opened for a mode, whose overlay was opened for them if it has one. -/
structure Sized (mode : OpenMode) (blockSize total : Nat) (state : RawImage O × World) : Prop where
  mode_eq : state.1.mode = mode
  blockSize_eq : state.1.blockSize = blockSize
  totalBlocks_eq : state.1.totalBlocks = total
  made : state.1.mount.Suits blockSize total
  readOnly : mode = .readOnly → state.1.overlay = none

theorem sized_of_ofSource {source : Source} {path : String} {options : OpenOptions} {setup : Overlay.Setup O}
    {world opened : World} {image : RawImage O}
    (h : perform (ofSource source path options setup) world = (.ok image, opened)) :
    Sized options.mode image.blockSize image.totalBlocks (image, opened) := by
  obtain ⟨rfl, size, -, rfl⟩ := opened_of_ofSource h
  exact ⟨rfl, rfl, rfl, nofun, fun _ => rfl⟩

namespace Sized

theorem uses (h : Sized mode blockSize total state) {after : RawImage O × World} (huses : Uses Calls state after) :
    Sized mode blockSize total after where
  mode_eq := huses.mode.trans h.mode_eq
  blockSize_eq := huses.blockSize.trans h.blockSize_eq
  totalBlocks_eq := huses.totalBlocks.trans h.totalBlocks_eq
  made := @MadeFor.used _ _ _ _ (state.1.overlay, state.2.disk) (after.1.overlay, after.2.disk) h.made huses.used
  readOnly hmode := by
    have hsome : after.1.overlay.isSome = state.1.overlay.isSome := huses.used.isSome_eq
    rw [h.readOnly hmode] at hsome
    exact Option.not_isSome_iff_eq_none.mp (by rw [hsome]; exact Bool.false_ne_true)

theorem aside (h : Sized mode blockSize total state) {after : RawImage O × World} (hmode : after.1.mode = state.1.mode)
    (hblockSize : after.1.blockSize = state.1.blockSize) (htotal : after.1.totalBlocks = state.1.totalBlocks)
    (hoverlay : after.1.overlay = state.1.overlay) : Sized mode blockSize total after where
  mode_eq := hmode.trans h.mode_eq
  blockSize_eq := hblockSize.trans h.blockSize_eq
  totalBlocks_eq := htotal.trans h.totalBlocks_eq
  made store hstore := h.made store (hoverlay.symm.trans hstore)
  readOnly hreadOnly := hoverlay.trans (h.readOnly hreadOnly)

/-- A store that was opened for the image is attached to a handle that takes writes. -/
theorem attached (h : Sized mode blockSize total state) (hwritable : mode ≠ .readOnly) {after : RawImage O × World}
    {store : O} (hstore : MadeFor blockSize total store) (hmode : after.1.mode = state.1.mode)
    (hblockSize : after.1.blockSize = state.1.blockSize) (htotal : after.1.totalBlocks = state.1.totalBlocks)
    (hoverlay : after.1.overlay = some store) : Sized mode blockSize total after where
  mode_eq := hmode.trans h.mode_eq
  blockSize_eq := hblockSize.trans h.blockSize_eq
  totalBlocks_eq := htotal.trans h.totalBlocks_eq
  made found hfound := by
    obtain rfl := Option.some.inj (hoverlay.symm.trans hfound)
    exact hstore
  readOnly hreadOnly := absurd hreadOnly hwritable

theorem attachOverlay (h : Sized mode blockSize total state) (hmode : mode ≠ .readOnly) :
    Sized mode blockSize total (perform attachOverlay state).2 := by
  rw [perform_attachOverlay, h.blockSize_eq, h.totalBlocks_eq]
  rcases hmake : perform (makeOverlay state.1.setup state.1.route blockSize total) state.2.disk with ⟨result, disk⟩
  cases result with
  | error error => exact h.aside rfl rfl rfl rfl
  | ok store => exact h.attached hmode (Overlay.madeFor_of_make hmake) rfl rfl rfl rfl

theorem initOverlay (h : Sized mode blockSize total state) (hmode : mode ≠ .readOnly) (path : String) :
    Sized mode blockSize total (perform (initOverlay path) state).2 := by
  rw [perform_initOverlay, h.blockSize_eq, h.totalBlocks_eq]
  rcases hopen : perform (Overlay.init state.1.setup path blockSize total) state.2.disk with ⟨result, disk⟩
  cases result with
  | error error => exact h.aside rfl rfl rfl rfl
  | ok store =>
    dsimp only
    rcases hverify : perform (verifyStore store) disk with ⟨result, after⟩
    cases result with
    | error error => exact h.aside rfl rfl rfl rfl
    | ok checked => exact h.attached hmode ((MadeFor.init hopen).verifyStore hverify) rfl rfl rfl rfl

theorem verify (h : Sized mode blockSize total state) : Sized mode blockSize total (perform verify state).2 := by
  have hmarked : Respects (Maintains (Sized (O := O) mode blockSize total))
      (update fun image => { image with verified := true }) :=
    .change fun _ h => h.aside rfl rfl rfl rfl
  have hopened : ∀ {act : Action (RawImage O × World) Error Unit},
      Sized mode blockSize total (perform act state).2 → Sized mode blockSize total
        (perform (act >>= fun _ => update fun image => { image with verified := true }) state).2 := by
    intro act hact
    rw [Action.perform_bind]
    rcases hrun : perform act state with ⟨result, reached⟩
    rw [hrun] at hact
    cases result with
    | error error => exact hact
    | ok done => exact hmarked reached hact
  rw [RawImage.verify, Action.perform_bind, perform_require]
  split
  case h_2 heq =>
    obtain ⟨-, rfl⟩ := Prod.mk.inj heq
    exact h
  case h_1 heq =>
  obtain ⟨-, rfl⟩ := Prod.mk.inj heq
  rw [perform_bind_ok (Action.perform_get state)]
  dsimp only
  cases hmode : state.1.mode with
  | readOnly => exact hmarked state h
  | readWrite =>
    cases state.1.overlayPath with
    | none => exact hmarked state h
    | some path => exact hopened (h.initOverlay (by rw [← h.mode_eq, hmode]; decide) path)
  | create => exact hopened (h.attachOverlay (by rw [← h.mode_eq, hmode]; decide))

theorem write (h : Sized mode blockSize total state) (data : Bytes) :
    Sized mode blockSize total (perform (write data) state).2 := by
  refine write_keeps (fun huses h => h.uses huses) (fun hwritable => h.attachOverlay fun hmode => ?_) h data
  rw [ready, h.mode_eq, hmode] at hwritable
  cases (Bool.and_false _).symm.trans hwritable

/-- **Every call keeps the overlay one for the image.** -/
theorem after (h : Sized mode blockSize total state) (operation : Operation) :
    Sized mode blockSize total (operation.after state) := by
  cases operation with
  | verify => exact h.verify
  | seek block => exact h.uses (seek_uses writes_calls.toReads block state)
  | read length => exact h.uses (read_uses writes_calls.toReads length state)
  | isUsed => exact h.uses (isUsed_uses state)
  | write data => exact h.write data
  | sync => exact h.uses (sync_uses writes_calls state)

theorem run (h : Sized mode blockSize total state) (operations : List Operation) :
    Sized mode blockSize total (Operation.run operations state) :=
  Operation.run_induction h (fun h => h.after) operations

end Sized

/-- A verified handle whose overlay has the size of the image. -/
structure Verified (mode : OpenMode) (blockSize total : Nat) (state : RawImage O × World) : Prop
    extends Sized mode blockSize total state where
  verified : state.1.verified = true

/-! ### Calls -/

theorem tell?_of_verified (hverified : state.1.verified = true) : state.1.tell? = some state.1.cursor := by
  rw [tell?, hverified]
  rfl

/-- A seek moves the overlay, if there is one. -/
theorem follows_seek (hverified : state.1.verified = true) (block : Nat) :
    Mount.Follows RawImage.source mount (Mount.seek state.1.totalBlocks block) (seek block) block state := by
  have hrun := perform_seek hverified block
  have hplan := Mount.perform_seek state.1.totalBlocks block (state.1.mount, state.2.disk)
  have htell : ∀ reached : RawImage O × World, reached.1.verified = true →
      (atBlock block reached).1.tell? = some block :=
    fun reached hreached => @tell?_of_verified _ _ (atBlock block reached) hreached
  by_cases hpast : state.1.totalBlocks < block
  · rw [if_pos hpast] at hrun hplan
    exact Mount.follows_of_error hrun hplan rfl
  rw [if_neg hpast] at hrun hplan
  rw [perform_seekOverlay] at hrun
  cases hstore : state.1.overlay with
  | none =>
    rw [hstore] at hrun
    rw [Mount.perform_call_none hstore] at hplan
    exact Mount.follows_of_perform hrun hplan rfl fun _ => htell state hverified
  | some store =>
    rw [hstore] at hrun
    rw [Mount.perform_call_some hstore] at hplan
    dsimp only at hrun
    rcases hseek : perform (Overlay.seek block) (store, state.2.disk) with ⟨result, sought⟩
    rw [hseek] at hrun hplan
    cases result with
    | error cause => exact Mount.follows_of_error hrun hplan rfl
    | ok done => exact Mount.follows_of_perform hrun hplan rfl fun _ => htell (withOverlay sought state) hverified

theorem follows_writeBlocks (hverified : state.1.verified = true) {store : O}
    (hstore : state.1.overlay = some store) (count : Nat) (data : Bytes) :
    Mount.Follows RawImage.source mount
      (Mount.storeBlocks state.1.blockSize state.1.totalBlocks state.1.cursor count data) (writeBlocks count data)
      (state.1.cursor + count) state := by
  induction count generalizing state store data with
  | zero => exact Mount.follows_of_perform rfl rfl rfl fun _ => tell?_of_verified hverified
  | succ count ih =>
    have hrun := perform_writeBlocks_succ hstore count data
    have hplan := @Mount.perform_storeBlocks_succ _ _ state.1.mount store hstore state.1.blockSize
      state.1.totalBlocks state.1.cursor count data state.2.disk
    by_cases hend : state.1.totalBlocks ≤ state.1.cursor
    · rw [if_pos hend] at hrun hplan
      exact Mount.follows_of_error hrun hplan rfl
    rw [if_neg hend] at hrun hplan
    rcases hseek : perform (Overlay.seek state.1.cursor) (store, state.2.disk) with ⟨result, sought⟩
    rw [hseek] at hrun hplan
    cases result with
    | error cause => exact Mount.follows_of_error hrun hplan rfl
    | ok done =>
      dsimp only at hrun hplan
      rcases hwrite : perform (Overlay.write (data.take state.1.blockSize)) sought with ⟨result, written⟩
      rw [hwrite] at hrun hplan
      cases result with
      | error cause => exact Mount.follows_of_error hrun hplan rfl
      | ok done =>
        have hrest := @ih (atBlock (state.1.cursor + 1) (withOverlay written state)) hverified written.1 rfl
          (data.drop state.1.blockSize)
        rw [← Nat.add_assoc, Nat.add_right_comm]
        exact hrest.of_rest hrun hplan rfl

/-- A verified handle takes writes if it was opened for them. -/
theorem ready_writable (hverified : state.1.verified = true) :
    state.1.ready .writable = (state.1.mode != .readOnly) := by
  rw [ready, hverified, Bool.true_and]

theorem ready_writeReady (hverified : state.1.verified = true) :
    state.1.ready .writeReady = (state.1.mode != .readOnly && state.1.overlay.isSome) := by
  rw [ready, hverified, Bool.true_and]

/-- A write makes an overlay if there is none, and stores its blocks. -/
theorem follows_write (hverified : state.1.verified = true) (data : Bytes) :
    Mount.Follows RawImage.source mount
      (Mount.put state.1.mode state.1.blockSize state.1.totalBlocks state.1.cursor data) (write data)
      (state.1.cursor + data.length / state.1.blockSize) state := by
  have hrun := perform_write data state
  have hplan := Mount.perform_put state.1.mode state.1.blockSize state.1.totalBlocks state.1.cursor data
    (state.1.mount, state.2.disk)
  by_cases hmode : state.1.mode = .readOnly
  · rw [if_pos (by rw [ready_writable hverified, hmode]; rfl)] at hrun
    rw [if_pos hmode] at hplan
    exact Mount.follows_of_error hrun hplan rfl
  rw [ready_writable hverified, bne_iff_ne.mpr hmode, if_neg Bool.noConfusion] at hrun
  rw [if_neg hmode] at hplan
  by_cases hwhole : data.length % state.1.blockSize ≠ 0
  · rw [if_pos hwhole] at hrun hplan
    exact Mount.follows_of_error hrun hplan rfl
  rw [if_neg hwhole] at hrun hplan
  cases hstore : state.1.overlay with
  | some store =>
    rw [hstore, Option.isSome_some, if_pos rfl] at hrun
    rw [perform_bind_ok (Mount.perform_make_some hstore _ _ _)] at hplan
    exact (follows_writeBlocks hverified hstore _ data).of_rest hrun hplan rfl
  | none =>
    rw [hstore, Option.isSome_none, if_neg Bool.noConfusion, Action.perform_bind, perform_attachOverlay] at hrun
    have hmake := @Mount.perform_make_none _ _ state.1.mount hstore state.1.blockSize state.1.totalBlocks state.2.disk
    rcases hopen : perform (makeOverlay state.1.setup state.1.route state.1.blockSize state.1.totalBlocks)
      state.2.disk with ⟨result, disk⟩
    rw [hopen] at hrun
    rw [show perform (makeOverlay state.1.mount.setup state.1.mount.path _ _) state.2.disk = _ from hopen] at hmake
    cases result with
    | error cause =>
      rw [perform_bind_error hmake] at hplan
      exact Mount.follows_of_error hrun hplan rfl
    | ok store =>
      rw [perform_bind_ok hmake] at hplan
      have hrest := @follows_writeBlocks _ _ ({ state.1 with
        overlayPath := some state.1.route, overlay := some store }, state.2.withDisk disk) hverified store rfl
        (data.length / state.1.blockSize) data
      exact hrest.of_rest hrun hplan rfl

theorem follows_sync (hverified : state.1.verified = true) :
    Mount.Follows RawImage.source mount (Mount.sync state.1.mode) sync state.1.cursor state := by
  by_cases hready : state.1.ready .writeReady = true
  · have hboth := Bool.and_eq_true_iff.mp ((ready_writeReady hverified).symm.trans hready)
    obtain ⟨store, hstore⟩ := Option.isSome_iff_exists.mp hboth.2
    have hplan := @Mount.perform_sync_some _ _ state.1.mode state.1.mount store hstore (bne_iff_ne.mp hboth.1)
      state.2.disk
    rw [Mount.perform_call_some hstore] at hplan
    exact Mount.follows_of_perform (perform_sync hready hstore) hplan rfl fun _ =>
      @tell?_of_verified _ _ (withOverlay _ state) hverified
  · have hrun : perform sync state = (.error (.invalidState .writeReady), state) := by
      rw [sync, Action.perform_bind, perform_require, if_neg hready]
    rw [ready_writeReady hverified] at hready
    exact Mount.follows_of_error hrun (Mount.perform_sync_refused hready state.2.disk) rfl

/-! ### Blocks -/

/-- **Blocks that the overlay has are read as they were stored.** -/
theorem run_readBlocks_of_mounted {backing : Backing} {origin : Disk}
    {dependable : Overlay.Dependable O blockSize total backing origin} {blocks : Nat → Option Bytes}
    (hblockSize : state.1.blockSize = blockSize) (htotal : state.1.totalBlocks = total) {count : Nat} {data : Bytes}
    (hmounted : dependable.Mounted blocks (state.1.mount, state.2.disk)) (hcount : state.1.cursor + count ≤ total)
    (hstored : Overlay.Stored blocks blockSize state.1.cursor count data) :
    ((readBlocks count).run state).1 = .complete (data.take (count * blockSize)) := by
  induction count generalizing state data with
  | zero =>
    rw [Nat.zero_mul]
    rfl
  | succ count ih =>
    have hcursor : state.1.cursor < total := by omega
    obtain ⟨store, sought, after, hstore, hseek, hread, hafter⟩ := hmounted.read hcursor hstored.head
    have hasked : (readOverlay state.1.cursor).run state
        = (⟨data.take blockSize, .ok .found⟩, withOverlay after state) := by
      rw [run_readOverlay, perform_seekOverlay, show state.1.overlay = _ from hstore]
      dsimp only
      rw [hseek]
      dsimp only [Except.mapError, withOverlay, World.withDisk]
      rw [hblockSize, hread]
      rfl
    have hrest := @ih (atBlock (state.1.cursor + 1) (withOverlay after state)) hblockSize htotal (data.drop blockSize)
      hafter (show state.1.cursor + 1 + count ≤ total by omega) hstored.tail
    rw [run_readBlocks_succ, htotal, if_neg (Nat.not_le.mpr hcursor), run_readBlock hasked]
    dsimp only [Transfer.complete]
    rw [hrest, Nat.succ_mul, Nat.add_comm, List.take_add]
    rfl

theorem run_readBlocks_one (h : state.1.cursor < state.1.totalBlocks) :
    ((readBlocks 1).run state).1 = ((readBlock state.1.cursor).run state).1 := by
  rw [run_readBlocks_succ, if_neg (Nat.not_le.mpr h)]
  rcases (readBlock state.1.cursor).run state with ⟨⟨bytes, result⟩, ended⟩
  cases result with
  | error error => rfl
  | ok done =>
    show (⟨bytes ++ [], .ok ()⟩ : Transfer Error Unit) = ⟨bytes, .ok ()⟩
    rw [List.append_nil]

section

variable {stored : Nat → Option Bytes} {block : Nat}

theorem exists_seekOverlay (hshows : state.1.mount.Shows state.1.blockSize state.1.totalBlocks stored state.2.disk)
    (hblock : block ≤ state.1.totalBlocks) :
    ∃ reached, perform (seekOverlay block) state = (.ok (), reached)
      ∧ reached.1.mount.Shows state.1.blockSize state.1.totalBlocks stored reached.2.disk
      ∧ reached.2.disk = state.2.disk ∧ reached.1.source = state.1.source := by
  rw [perform_seekOverlay]
  cases hstore : state.1.overlay with
  | none => exact ⟨state, rfl, hshows, rfl, rfl⟩
  | some store =>
    rw [Mount.Shows, show state.1.mount.store = _ from hstore] at hshows
    obtain ⟨whole, hwhole, hserves⟩ := hshows
    obtain ⟨sought, hmove, hsought⟩ := hserves.seek hwhole hblock
    dsimp only
    rw [hmove]
    exact ⟨_, rfl, ⟨whole, hsought, hserves⟩, rfl, rfl⟩

theorem exists_readOverlay (hshows : state.1.mount.Shows state.1.blockSize state.1.totalBlocks stored state.2.disk)
    (hblock : block < state.1.totalBlocks) :
    ∃ overlaid reached, (readOverlay block).run state = (overlaid, reached) ∧ Overlay.Answers (stored block) overlaid
      ∧ reached.2.disk = state.2.disk ∧ reached.1.source = state.1.source := by
  rw [run_readOverlay, perform_seekOverlay]
  cases hstore : state.1.overlay with
  | none =>
    rw [Mount.Shows, show state.1.mount.store = _ from hstore] at hshows
    dsimp only
    rw [hstore]
    refine ⟨_, _, rfl, ?_, rfl, rfl⟩
    rw [hshows block hblock]
    rfl
  | some store =>
    rw [Mount.Shows, show state.1.mount.store = _ from hstore] at hshows
    obtain ⟨whole, hwhole, hserves⟩ := hshows
    obtain ⟨sought, hmove, -⟩ := hserves.seek hwhole (Nat.le_of_lt hblock)
    obtain ⟨transfer, after, hread, -, hanswers⟩ := hserves.read hwhole hblock hmove
    dsimp only
    rw [hmove]
    refine ⟨transfer.mapError .overlay,
      withOverlay (after, state.2.disk) (withOverlay (sought, state.2.disk) state), ?_, hanswers.mapError _, rfl, rfl⟩
    show (((Overlay.read state.1.blockSize).run (sought, state.2.disk)).1.mapError Error.overlay,
      withOverlay ((Overlay.read state.1.blockSize).run (sought, state.2.disk)).2
        (withOverlay (sought, state.2.disk) state)) = _
    rw [hread]

/-- What the image has at the place of a block depends on the replies of the source alone. -/
theorem base_alike {other : RawImage O × World} (hblockSize : other.1.blockSize = state.1.blockSize)
    (hread : ∀ offset n, (other.1.source.readExact other.2.disk offset n).1
      = (state.1.source.readExact state.2.disk offset n).1) (block : Nat) : base other block = base state block := by
  rw [base, base, hblockSize]
  cases checked64? (block * state.1.blockSize) with
  | none => rfl
  | some offset =>
    dsimp only
    rw [hread]

/-- **After a seek a block is the one that the overlay holds, or what the image has at its place.** -/
theorem run_readAt (hverified : state.1.verified = true) (hpos : 0 < state.1.blockSize)
    (hshows : state.1.mount.Shows state.1.blockSize state.1.totalBlocks stored state.2.disk)
    (hblock : block < state.1.totalBlocks) :
    ((BlockDevice.readAt block state.1.blockSize).run state).1 = Ground.shown (stored block) (base state block) := by
  obtain ⟨reached, hmove, hreached, hdisk, hsource⟩ := exists_seekOverlay hshows (Nat.le_of_lt hblock)
  have huses := ((seekOverlay_uses writes_calls.toReads block).of_perform hmove).trans (uses_atBlock block reached)
  have hseek : perform (seek block) state = (.ok (), atBlock block reached) := by
    rw [perform_seek hverified, if_neg (by omega), hmove]
  have hsize := huses.blockSize
  have htotal := huses.totalBlocks
  have hone : ((read state.1.blockSize).run (atBlock block reached)).1
      = ((readBlock block).run (atBlock block reached)).1 := by
    rw [run_read (huses.verified.trans hverified), hsize, Nat.mod_self, if_neg (fun hne => hne rfl), Nat.div_self hpos]
    exact @run_readBlocks_one _ _ (atBlock block reached) (htotal ▸ hblock)
  rw [← hsize, ← htotal] at hreached
  obtain ⟨overlaid, asked, hask, hanswers, haskedDisk, haskedSource⟩ :=
    @exists_readOverlay _ _ (atBlock block reached) _ block hreached (htotal ▸ hblock)
  have hasked := readOverlay_uses writes_calls.toReads block (atBlock block reached)
  rw [hask] at hasked
  rw [BlockDevice.run_readAt hseek]
  show ((read state.1.blockSize).run (atBlock block reached)).1 = _
  rw [hone, run_readBlock hask]
  cases hstored : stored block with
  | some bytes =>
    rw [hstored] at hanswers
    obtain rfl : overlaid = _ := hanswers
    rfl
  | none =>
    rw [hstored] at hanswers
    have hanswers : overlaid.result = .ok .notPresent := hanswers
    rw [hanswers]
    refine base_alike (hasked.blockSize.trans hsize) (fun offset n => ?_) block
    rw [haskedSource, haskedDisk]
    show (reached.1.source.readExact reached.2.disk offset n).1 = _
    rw [hsource, hdisk]

theorem run_readAt_of_le (hverified : state.1.verified = true) (hpos : 0 < state.1.blockSize)
    (hshows : state.1.mount.Shows state.1.blockSize state.1.totalBlocks stored state.2.disk)
    (hblock : state.1.totalBlocks ≤ block) :
    ((BlockDevice.readAt block state.1.blockSize).run state).1
      = .failed (.outOfRange block state.1.totalBlocks) := by
  have hseek := perform_seek hverified block
  rcases Nat.lt_or_eq_of_le hblock with hpast | rfl
  · rw [if_pos hpast] at hseek
    exact congrArg Prod.fst (BlockDevice.run_readAt_error hseek)
  · obtain ⟨reached, hmove, -, -⟩ := exists_seekOverlay hshows (Nat.le_refl _)
    have huses := ((seekOverlay_uses writes_calls.toReads state.1.totalBlocks).of_perform hmove).trans
      (uses_atBlock state.1.totalBlocks reached)
    rw [if_neg (Nat.lt_irrefl _), hmove] at hseek
    have hread : (read state.1.blockSize).run (atBlock state.1.totalBlocks reached)
        = (.failed (.outOfRange state.1.totalBlocks state.1.totalBlocks), atBlock state.1.totalBlocks reached) := by
      rw [run_read (huses.verified.trans hverified), huses.blockSize, Nat.mod_self, if_neg (fun hne => hne rfl),
        Nat.div_self hpos, run_readBlocks_succ, huses.totalBlocks]
      exact if_pos (Nat.le_refl _)
    rw [BlockDevice.run_readAt hseek]
    exact congrArg Prod.fst hread

end

theorem releases (state : RawImage O × World) : BlockDevice.Releases mount state := by
  have hclose : (perform state.1.close state.2).2.disk = Overlay.released state.1.overlay state.2.disk := by
    rw [RawImage.close]
    cases state.1.overlay with
    | none => rfl
    | some store => rfl
  exact ⟨hclose, (disk_drop state.1 state.2).trans hclose⟩

/-- **The calls on a verified raw image are layered over its overlay.** -/
theorem layered (mode : OpenMode) (hblockSize : 0 < blockSize) (total : Nat) :
    BlockDevice.Layered (RawImage.source (O := O)) mount mode blockSize total (Verified mode blockSize total) where
  blockSize_pos := hblockSize
  blockSize_eq h := by
    show blockSize? _ = _
    rw [blockSize?, h.verified, h.blockSize_eq]
    rfl
  blockCount_eq h := by
    show blockCount? _ = _
    rw [blockCount?, h.verified, h.totalBlocks_eq]
    rfl
  tell h := ⟨_, tell?_of_verified h.verified⟩
  suits h := h.made
  readOnly h := h.readOnly
  after h operation := ⟨h.toSized.after operation, verified_after h.verified operation⟩
  seek h block := h.totalBlocks_eq ▸ follows_seek h.verified block
  write h htell data := by
    obtain rfl := Option.some.inj ((tell?_of_verified h.verified).symm.trans htell)
    obtain ⟨⟨rfl, rfl, rfl, -⟩, hverified⟩ := h
    exact follows_write hverified data
  sync h htell := by
    obtain rfl := Option.some.inj ((tell?_of_verified h.verified).symm.trans htell)
    exact h.mode_eq ▸ follows_sync h.verified
  uses := by
    intro rel _ hrel state h operation hother
    suffices huses : Uses rel state (operation.after state) from ⟨huses.source, huses.route, huses.used⟩
    cases operation with
    | verify =>
      show Uses rel state (perform verify state).2
      rw [perform_verify_of_verified h.verified]
      exact .refl state
    | seek block => exact seek_uses hrel.toReads block state
    | read length => exact read_uses hrel.toReads length state
    | isUsed => exact isUsed_uses state
    | write data => exact absurd rfl (hother data)
    | sync => exact sync_uses hrel state
  releases _ := releases _
  mounted h hmounted hcount htell hstored := by
    obtain rfl := Option.some.inj ((tell?_of_verified h.verified).symm.trans htell)
    show ((read _).run _).1 = _
    rw [run_read h.verified, h.blockSize_eq, Nat.mul_mod_left, if_neg (fun hne => hne rfl),
      Nat.mul_div_cancel _ hblockSize]
    exact run_readBlocks_of_mounted h.blockSize_eq h.totalBlocks_eq hmounted hcount hstored
  shown h hshows hblock hbytes := by
    obtain ⟨⟨rfl, rfl, rfl, -⟩, hverified⟩ := h
    rw [run_readAt hverified hblockSize hshows hblock, hbytes]
    rfl
  alike h hother hshows hshows' hblock hnone hnone' hread := by
    obtain ⟨⟨rfl, rfl, rfl, -⟩, hverified⟩ := h
    have hsize := hother.blockSize_eq
    have htotal := hother.totalBlocks_eq
    rw [← hsize, ← htotal] at hshows'
    have hreadOther := run_readAt hother.verified (hsize ▸ hblockSize) hshows' (htotal ▸ hblock)
    rw [hsize, hnone'] at hreadOther
    rw [hreadOther, run_readAt hverified hblockSize hshows hblock, hnone]
    exact base_alike hsize hread _
  past h hshows hend := by
    obtain ⟨⟨rfl, rfl, rfl, -⟩, hverified⟩ := h
    exact run_readAt_of_le hverified hblockSize hshows hend

/-- **Whatever is under the path of the overlay, the source of a handle that was verified is safe from it.** -/
theorem guarded_of_verify {start verified : RawImage ChangeFile × World}
    (hsized : Sized mode blockSize total start) (hnone : start.1.overlay = none)
    (hsafe : (groundOf start).Safe start.1.source start.2.disk)
    (hverify : perform verify start = (.ok (), verified)) :
    BlockDevice.Guarded RawImage.source mount (Verified mode blockSize total) (groundOf start) verified := by
  obtain ⟨hroute, hguards⟩ := guards_of_verify hverify hnone hsafe
  have hafter := hsized.verify
  rw [hverify] at hafter
  exact ⟨⟨hafter, (verified_of_verify hverify).1⟩, hroute, hguards⟩

end PartitionImage.RawImage
