import PartitionImage.Proofs.Guarded
import PartitionImage.Proofs.Image.Lifecycle
/-!
# The overlay of a partition image

* `Image.Sized` is a verified handle whose overlay has the size of the image; `Image.Reached.exists_sized` says that
  every verified handle is one.
* `Image.layered` puts the calls together that follow programs on the overlay.
-/

namespace PartitionImage.Image

open PartitionImage.Action (perform perform_bind_ok perform_bind_error)
open PartitionImage.Overlay (Call Calls Mount MadeFor writes_calls)

variable {O : Type} [Overlay O] {options : OpenOptions} {descriptor : Descriptor} {map : BlockMap}
  {state : Image O × World}

theorem Uses.suits {before after : Image O × World} (huses : Uses Calls before after) {blockSize total : Nat}
    (h : before.1.mount.Suits blockSize total) : after.1.mount.Suits blockSize total :=
  @MadeFor.used _ _ _ _ (before.1.overlay, before.2.disk) (after.1.overlay, after.2.disk) h huses.used

/-! ### Handles whose overlay has the size of the image -/

/-- A verified handle whose overlay was opened for its image, if it has one. -/
structure Sized (options : OpenOptions) (descriptor : Descriptor) (map : BlockMap) (state : Image O × World) : Prop
    extends Coherent options descriptor map state.1 where
  memory : bytesForBits descriptor.totalBlocks < allocationLimit
  made : state.1.mount.Suits descriptor.blockSize descriptor.totalBlocks

theorem Sized.short (h : Sized options descriptor map state) : descriptor.totalBlocks < range64 - 1 := by
  have hmemory := h.memory
  unfold bytesForBits allocationLimit at hmemory
  unfold range64
  omega

theorem Sized.after (h : Sized options descriptor map state) (operation : Operation) :
    Sized options descriptor map (operation.after state) := by
  refine ⟨h.toCoherent.after operation, h.memory, ?_⟩
  cases operation with
  | verify =>
    show (perform Image.verify state).2.1.mount.Suits _ _
    rw [perform_verify_of_verified h.stage]
    exact h.made
  | seek block => exact (seek_uses writes_calls.toReads block state).suits h.made
  | read length => exact (read_uses writes_calls.toReads length state).suits h.made
  | isUsed => exact (isUsed_uses writes_calls.toReads state).suits h.made
  | sync => exact (sync_uses writes_calls state).suits h.made
  | write data =>
    show (perform (Image.write data) state).2.1.mount.Suits _ _
    rw [perform_write h.stage fun hsome => h.overlayVerified.trans hsome]
    split
    · exact h.made
    split
    · exact h.made
    split
    · exact (writeBlocks_uses writes_calls _ _ _ data state).suits h.made
    rw [Action.perform_bind, perform_attachOverlay]
    rcases hmake : perform (makeOverlay state.1.setup state.1.route descriptor.blockSize descriptor.totalBlocks)
      state.2.disk with ⟨result, disk⟩
    cases result with
    | error cause => exact h.made
    | ok store =>
      refine (writeBlocks_uses writes_calls _ _ _ data _).suits ?_
      exact Mount.suits_withStore (Overlay.madeFor_of_make hmake) state.1.mount

theorem suits_of_initOverlay {opened : Image O × World} {blockSize total : Nat} (hnone : state.1.overlay = none)
    (h : perform (initOverlay blockSize total) state = (.ok (), opened)) : opened.1.mount.Suits blockSize total := by
  have hbefore : state.1.mount.Suits blockSize total := by
    intro store hstore
    cases hnone.symm.trans hstore
  cases initEnd_of_perform h with
  | unasked hmode => exact hbefore
  | opened hmode hinit => exact Mount.suits_withStore (.init hinit) state.1.mount
  | missing hmode hinit => exact hbefore
  | made hmode hcreate => exact Mount.suits_withStore (.create hcreate) state.1.mount

theorem suits_of_verifyOverlay {checked : Image O × World} {blockSize total : Nat}
    (hsuits : state.1.mount.Suits blockSize total) (h : perform verifyOverlay state = (.ok (), checked)) :
    checked.1.mount.Suits blockSize total := by
  cases verifyEnd_of_perform h with
  | absent hnone => exact hsuits
  | @whole store _ _ hstore hverify =>
    have hcall := Call.verify (store, state.2.disk)
    rw [hverify] at hcall
    exact Mount.suits_withStore ((hsuits _ hstore).called hcall) state.1.mount

/-- **The overlay of a handle that was verified is one for its image.** -/
theorem sized_of_verify {verified : Image O × World} (hunread : Unread options state)
    (hverify : perform verify state = (.ok (), verified)) :
    ∃ descriptor map, Sized options descriptor map verified := by
  obtain ⟨descriptor, map, hcoherent⟩ := coherent_of_verify hunread.overlay hunread.overlayVerified hverify
  rw [hunread.options_eq] at hcoherent
  obtain ⟨_, _, before, opened, loaded, checked, hbefore, hinit, hloaded, hcheck, hafter, hstage⟩ :=
    verify_inv hverify
  obtain ⟨rfl, rfl⟩ := Stage.verified.inj (hstage.symm.trans hcoherent.stage)
  obtain ⟨format, described, layout, _, disk, hfrom⟩ := verifiedFrom_of_verify hverify
  obtain ⟨rfl, rfl⟩ := Stage.verified.inj (hfrom.stage.symm.trans hcoherent.stage)
  have hmemory := (BlockMap.of?_eq_some (hfrom.mapped (state.1.source.backing.agrees_contents disk))).1
  have hopened := suits_of_initOverlay (hbefore.overlay.trans hunread.overlay) hinit
  have hchecked := suits_of_verifyOverlay (fun store hstore => hopened store (hloaded.overlay.symm.trans hstore)) hcheck
  exact ⟨_, _, hcoherent, hmemory, fun store hstore => hchecked store (hafter.overlay.symm.trans hstore)⟩

/-- A verification that was not refused gives a handle whose overlay is one for its image. -/
theorem exists_sized_of_verify {source : Source} {path : String} {setup : Overlay.Setup O} {world : World}
    (h : Reached source path options setup world state) (hok : Operation.verify.error? state = none) :
    ∃ descriptor map, Sized options descriptor map (Operation.verify.after state) := by
  rcases hverify : perform verify state with ⟨result, verified⟩
  have hresult : failure? result = none := by
    rw [show result = (perform verify state).1 from (congrArg Prod.fst hverify).symm]
    exact hok
  cases result with
  | error error => cases hresult
  | ok done =>
    rw [show Operation.verify.after state = verified from congrArg Prod.snd hverify]
    cases h.known with
    | unread h => exact sized_of_verify h hverify
    | stuck h => cases (perform_verify_of_not_opened h.opened).symm.trans hverify
    | verified descriptor map h => cases (perform_verify_of_verified h.stage).symm.trans hverify

/-- **The overlay of a handle that is verified is one for its image**, whatever was called before. -/
theorem Reached.exists_sized {source : Source} {path : String} {setup : Overlay.Setup O} {world : World}
    (h : Reached source path options setup world state) (operations : List Operation)
    (hsized : state.1.stage.isVerified = true → ∃ descriptor map, Sized options descriptor map state)
    (hverified : (Operation.run operations state).1.stage.isVerified = true) :
    ∃ descriptor map, Sized options descriptor map (Operation.run operations state) := by
  induction operations generalizing state with
  | nil => exact hsized hverified
  | cons operation operations ih =>
    refine ih (h.after operation) (fun hafter => ?_) hverified
    rcases (h.verified_after_iff operation).mp hafter with hbefore | ⟨rfl, hok⟩
    · obtain ⟨descriptor, map, hstate⟩ := hsized hbefore
      exact ⟨descriptor, map, hstate.after operation⟩
    · exact exists_sized_of_verify h hok

/-! ### Calls -/

theorem tell?_of_verified (hstage : state.1.stage = .verified descriptor map) :
    state.1.tell? = some state.1.cursor := by
  rw [tell?, hstage]
  rfl

theorem follows_seek (hsuits : map.Suits descriptor) (hstage : state.1.stage = .verified descriptor map) (block : Nat) :
    Mount.Follows Image.source mount (Mount.seek descriptor.totalBlocks block) (seek block) block state := by
  have hrun := perform_seek hsuits hstage block
  have hplan := Mount.perform_seek descriptor.totalBlocks block (state.1.mount, state.2.disk)
  have htell : ∀ reached : Image O × World, reached.1.stage = .verified descriptor map →
      (soughtAt map.bitmap block reached).1.tell? = some block :=
    fun reached hreached => @tell?_of_verified _ _ _ _ (soughtAt map.bitmap block reached) hreached
  by_cases hpast : descriptor.totalBlocks < block
  · rw [if_pos hpast] at hrun hplan
    exact Mount.follows_of_error hrun hplan rfl
  rw [if_neg hpast] at hrun hplan
  rw [perform_seekOverlay] at hrun
  cases hstore : state.1.overlay with
  | none =>
    rw [hstore] at hrun
    rw [Mount.perform_call_none hstore] at hplan
    exact Mount.follows_of_perform hrun hplan rfl fun _ => htell state hstage
  | some store =>
    rw [hstore] at hrun
    rw [Mount.perform_call_some hstore] at hplan
    dsimp only at hrun
    rcases hseek : perform (Overlay.seek block) (store, state.2.disk) with ⟨result, sought⟩
    rw [hseek] at hrun hplan
    cases result with
    | error cause => exact Mount.follows_of_error hrun hplan rfl
    | ok done => exact Mount.follows_of_perform hrun hplan rfl fun _ => htell (withOverlay sought state) hstage

theorem follows_writeBlocks (hstage : state.1.stage = .verified descriptor map) {store : O}
    (hstore : state.1.overlay = some store) (count : Nat) (data : Bytes) :
    Mount.Follows Image.source mount
      (Mount.storeBlocks descriptor.blockSize descriptor.totalBlocks state.1.cursor count data)
      (writeBlocks descriptor.blockSize descriptor.totalBlocks count data) (state.1.cursor + count) state := by
  induction count generalizing state store data with
  | zero => exact Mount.follows_of_perform rfl rfl rfl fun _ => tell?_of_verified hstage
  | succ count ih =>
    have hrun := perform_writeBlocks_succ hstore descriptor.blockSize descriptor.totalBlocks count data
    have hplan := @Mount.perform_storeBlocks_succ _ _ state.1.mount store hstore descriptor.blockSize
      descriptor.totalBlocks state.1.cursor count data state.2.disk
    by_cases hend : descriptor.totalBlocks ≤ state.1.cursor
    · rw [if_pos hend] at hrun hplan
      exact Mount.follows_of_error hrun hplan rfl
    rw [if_neg hend] at hrun hplan
    rcases hseek : perform (Overlay.seek state.1.cursor) (store, state.2.disk) with ⟨result, sought⟩
    rw [hseek] at hrun hplan
    cases result with
    | error cause => exact Mount.follows_of_error hrun hplan rfl
    | ok done =>
      dsimp only at hrun hplan
      rcases hwrite : perform (Overlay.write (data.take descriptor.blockSize)) sought with ⟨result, written⟩
      rw [hwrite] at hrun hplan
      cases result with
      | error cause => exact Mount.follows_of_error hrun hplan rfl
      | ok done =>
        have hrest := @ih (atBlock (state.1.cursor + 1) (withOverlay written state)) hstage written.1 rfl
          (data.drop descriptor.blockSize)
        rw [← Nat.add_assoc, Nat.add_right_comm]
        exact hrest.of_rest hrun hplan rfl

/-- A verified handle takes writes if it was opened for them. -/
theorem Sized.ready_writable (h : Sized options descriptor map state) :
    state.1.ready .writable = (options.mode != .readOnly) := by
  rw [ready, Image.readOnly, h.stage, h.options_eq]
  show (true && !(options.mode == .readOnly && true)) = !(options.mode == .readOnly)
  rw [Bool.true_and, Bool.and_true]

/-- What it has stored can be made to last once there is an overlay. -/
theorem Sized.ready_writeReady (h : Sized options descriptor map state) :
    state.1.ready .writeReady = (options.mode != .readOnly && state.1.overlay.isSome) := by
  rw [← h.ready_writable, ready, ready, h.overlayVerified, Bool.and_assoc, Bool.and_self]

theorem Sized.follows_write (h : Sized options descriptor map state) (data : Bytes) :
    Mount.Follows Image.source mount
      (Mount.put options.mode descriptor.blockSize descriptor.totalBlocks state.1.cursor data) (write data)
      (state.1.cursor + data.length / descriptor.blockSize) state := by
  have hrun := perform_write h.stage (fun hsome => h.overlayVerified.trans hsome) data
  have hplan := Mount.perform_put options.mode descriptor.blockSize descriptor.totalBlocks state.1.cursor data
    (state.1.mount, state.2.disk)
  by_cases hmode : options.mode = .readOnly
  · rw [if_pos (by rw [h.ready_writable, hmode]; rfl)] at hrun
    rw [if_pos hmode] at hplan
    exact Mount.follows_of_error hrun hplan rfl
  rw [h.ready_writable, bne_iff_ne.mpr hmode, if_neg Bool.noConfusion] at hrun
  rw [if_neg hmode] at hplan
  by_cases hwhole : data.length % descriptor.blockSize ≠ 0
  · rw [if_pos hwhole] at hrun hplan
    exact Mount.follows_of_error hrun hplan rfl
  rw [if_neg hwhole] at hrun hplan
  cases hstore : state.1.overlay with
  | some store =>
    rw [hstore, Option.isSome_some, if_pos rfl] at hrun
    rw [perform_bind_ok (Mount.perform_make_some hstore _ _ _)] at hplan
    exact (follows_writeBlocks h.stage hstore _ data).of_rest hrun hplan rfl
  | none =>
    rw [hstore, Option.isSome_none, if_neg Bool.noConfusion, Action.perform_bind, perform_attachOverlay] at hrun
    have hmake := @Mount.perform_make_none _ _ state.1.mount hstore descriptor.blockSize descriptor.totalBlocks
      state.2.disk
    rcases hopen : perform (makeOverlay state.1.setup state.1.route descriptor.blockSize descriptor.totalBlocks)
      state.2.disk with ⟨result, disk⟩
    rw [hopen] at hrun
    rw [show perform (makeOverlay state.1.mount.setup state.1.mount.path _ _) state.2.disk = _ from hopen] at hmake
    cases result with
    | error cause =>
      rw [perform_bind_error hmake] at hplan
      exact Mount.follows_of_error hrun hplan rfl
    | ok store =>
      rw [perform_bind_ok hmake] at hplan
      have hrest := @follows_writeBlocks _ _ _ _ ({ state.1 with
        overlayPath := some state.1.route, overlay := some store, overlayVerified := true }, state.2.withDisk disk)
        h.stage store rfl (data.length / descriptor.blockSize) data
      exact hrest.of_rest hrun hplan rfl

theorem Sized.follows_sync (h : Sized options descriptor map state) :
    Mount.Follows Image.source mount (Mount.sync options.mode) sync state.1.cursor state := by
  by_cases hready : state.1.ready .writeReady = true
  · have hboth := Bool.and_eq_true_iff.mp (h.ready_writeReady.symm.trans hready)
    obtain ⟨store, hstore⟩ := Option.isSome_iff_exists.mp hboth.2
    have hplan := @Mount.perform_sync_some _ _ options.mode state.1.mount store hstore (bne_iff_ne.mp hboth.1)
      state.2.disk
    rw [Mount.perform_call_some hstore] at hplan
    exact Mount.follows_of_perform (perform_sync hready hstore) hplan rfl fun _ =>
      @tell?_of_verified _ _ _ _ (withOverlay _ state) h.stage
  · have hrun : perform sync state = (.error (.invalidState .writeReady), state) := by
      rw [sync, Action.perform_bind, perform_require, if_neg hready]
    rw [h.ready_writeReady] at hready
    exact Mount.follows_of_error hrun (Mount.perform_sync_refused hready state.2.disk) rfl

/-! ### Blocks -/

/-- **Blocks that the overlay has are read as they were stored.** -/
theorem run_readBlocks_of_mounted {backing : Backing} {origin : Disk}
    {dependable : Overlay.Dependable O descriptor.blockSize descriptor.totalBlocks backing origin}
    {blocks : Nat → Option Bytes} (hsuits : map.Suits descriptor) {count : Nat} {data : Bytes}
    (hmounted : dependable.Mounted blocks (state.1.mount, state.2.disk))
    (hcount : state.1.cursor + count ≤ descriptor.totalBlocks)
    (hstored : Overlay.Stored blocks descriptor.blockSize state.1.cursor count data) :
    ((readBlocks descriptor map count).run state).1 = .complete (data.take (count * descriptor.blockSize)) := by
  induction count generalizing state data with
  | zero =>
    rw [Nat.zero_mul]
    rfl
  | succ count ih =>
    have hcursor : state.1.cursor < descriptor.totalBlocks := by omega
    obtain ⟨store, sought, after, hstore, hseek, hread, hafter⟩ := hmounted.read hcursor hstored.head
    have hasked : (readOverlay state.1.cursor descriptor.blockSize).run state
        = (⟨data.take descriptor.blockSize, .ok .found⟩, withOverlay after state) := by
      rw [run_readOverlay, perform_seekOverlay, show state.1.overlay = _ from hstore]
      dsimp only
      rw [hseek]
      dsimp only [Except.mapError, withOverlay, World.withDisk]
      rw [hread]
      rfl
    have hrun := run_readBlock hsuits (map.bitmap.get?_eq_some (by rw [hsuits.length_eq]; exact hcursor)) hasked
    have hrest := @ih (atBlock (state.1.cursor + 1)
      ((pass (map.bitmap.isSet state.1.cursor)).run (withOverlay after state)).2) (data.drop descriptor.blockSize)
      hafter (show state.1.cursor + 1 + count ≤ _ by omega) hstored.tail
    rw [run_readBlocks_succ, if_neg (Nat.not_le.mpr hcursor), hrun]
    dsimp only [Transfer.complete]
    rw [hrest, Nat.succ_mul, Nat.add_comm, List.take_add]
    rfl

/-- What a block is without an overlay: its record, or filler. -/
def base (descriptor : Descriptor) (map : BlockMap) (state : Image O × World) (block : Nat) : Transfer Error Unit :=
  if map.bitmap.isSet block then
    ((readRecord map (map.bitmap.count 0 block) block descriptor.blockSize).run state).1
  else .complete (List.replicate descriptor.blockSize unusedBlockFill)

theorem run_readBlocks_one (map : BlockMap) (h : state.1.cursor < descriptor.totalBlocks) :
    ((readBlocks descriptor map 1).run state).1
      = ((readBlock map state.1.cursor descriptor.blockSize).run state).1 := by
  rw [run_readBlocks_succ, if_neg (Nat.not_le.mpr h)]
  rcases (readBlock map state.1.cursor descriptor.blockSize).run state with ⟨⟨bytes, result⟩, ended⟩
  cases result with
  | error error => rfl
  | ok done =>
    show (⟨bytes ++ [], .ok ()⟩ : Transfer Error Unit) = ⟨bytes, .ok ()⟩
    rw [List.append_nil]

section

variable {stored : Nat → Option Bytes} {block : Nat}

/-- **After a seek a block is the one that the overlay holds, or filler, or a record.** -/
theorem run_readAt (hsuits : map.Suits descriptor) (hstage : state.1.stage = .verified descriptor map)
    (hoverlaid : Overlaid descriptor.blockSize descriptor.totalBlocks stored state)
    (hblock : block < descriptor.totalBlocks) :
    ((BlockDevice.readAt block descriptor.blockSize).run state).1
      = Ground.shown (stored block) (base descriptor map state block) := by
  obtain ⟨reached, hmove, hreached, hdisk, hsource⟩ := hoverlaid.seek (Nat.le_of_lt hblock)
  have hsought : (soughtAt map.bitmap block reached).1.stage = .verified descriptor map :=
    ((seekOverlay_still block).of_perform hmove).stage.trans hstage
  have hseek : perform (seek block) state = (.ok (), soughtAt map.bitmap block reached) := by
    rw [perform_seek hsuits hstage, if_neg (by omega), hmove]
  have hone : ((read descriptor.blockSize).run (soughtAt map.bitmap block reached)).1
      = ((readBlock map block descriptor.blockSize).run (soughtAt map.bitmap block reached)).1 := by
    rw [run_read hsought, Nat.mod_self, if_neg (fun hne => hne rfl), Nat.div_self hsuits.blockSize_pos]
    exact @run_readBlocks_one _ _ _ (soughtAt map.bitmap block reached) map hblock
  have hoverlaid : Overlaid descriptor.blockSize descriptor.totalBlocks stored (soughtAt map.bitmap block reached) :=
    hreached.congr rfl rfl
  obtain ⟨overlaid, asked, hask, hanswers, -, haskedDisk, haskedSource⟩ := hoverlaid.read hblock
  have hpassed := (readOverlay_still block descriptor.blockSize (soughtAt map.bitmap block reached)).passed
  rw [hask] at hpassed
  rw [BlockDevice.run_readAt hseek]
  show ((read descriptor.blockSize).run (soughtAt map.bitmap block reached)).1 = _
  rw [hone, run_readBlock hsuits (map.bitmap.get?_eq_some (by rw [hsuits.length_eq]; exact hblock)) hask]
  cases hstored : stored block with
  | some bytes =>
    rw [hstored] at hanswers
    obtain rfl : overlaid = _ := hanswers
    rfl
  | none =>
    rw [hstored] at hanswers
    have hanswers : overlaid.result = .ok .notPresent := hanswers
    rw [hanswers, base]
    cases map.bitmap.isSet block with
    | false => rfl
    | true =>
      have hcount : asked.1.passed = map.bitmap.count 0 block := hpassed
      dsimp only [Ground.shown]
      rw [if_pos rfl, if_pos rfl, hcount]
      -- neither the source nor the disk is another one than before the overlay was asked
      refine readRecord_alike hsuits (fun offset n => ?_) _ block
      show (asked.1.source.readExact asked.2.disk offset n).1 = (state.1.source.readExact state.2.disk offset n).1
      rw [haskedSource.trans hsource, haskedDisk.trans hdisk]

/-- What a block is without an overlay depends on the replies of the source alone. -/
theorem base_alike (hsuits : map.Suits descriptor) {other : Image O × World}
    (hread : ∀ offset n, (other.1.source.readExact other.2.disk offset n).1
      = (state.1.source.readExact state.2.disk offset n).1) (block : Nat) :
    base descriptor map other block = base descriptor map state block := by
  rw [base, base, readRecord_alike hsuits hread]

theorem run_readAt_of_le (hsuits : map.Suits descriptor) (hstage : state.1.stage = .verified descriptor map)
    (hoverlaid : Overlaid descriptor.blockSize descriptor.totalBlocks stored state)
    (hblock : descriptor.totalBlocks ≤ block) :
    ((BlockDevice.readAt block descriptor.blockSize).run state).1
      = .failed (.outOfRange block descriptor.totalBlocks) := by
  have hseek := perform_seek hsuits hstage block
  rcases Nat.lt_or_eq_of_le hblock with hpast | rfl
  · rw [if_pos hpast] at hseek
    exact congrArg Prod.fst (BlockDevice.run_readAt_error hseek)
  · obtain ⟨reached, hmove, -, -⟩ := hoverlaid.seek (Nat.le_refl _)
    have hsought : (soughtAt map.bitmap descriptor.totalBlocks reached).1.stage = .verified descriptor map :=
      ((seekOverlay_still descriptor.totalBlocks).of_perform hmove).stage.trans hstage
    rw [if_neg (Nat.lt_irrefl _), hmove] at hseek
    have hread : (read descriptor.blockSize).run (soughtAt map.bitmap descriptor.totalBlocks reached)
        = (.failed (.outOfRange descriptor.totalBlocks descriptor.totalBlocks),
          soughtAt map.bitmap descriptor.totalBlocks reached) := by
      rw [run_read hsought, Nat.mod_self, if_neg (fun hne => hne rfl), Nat.div_self hsuits.blockSize_pos,
        run_readBlocks_succ]
      exact if_pos (Nat.le_refl _)
    rw [BlockDevice.run_readAt hseek]
    exact congrArg Prod.fst hread

end

theorem releases (state : Image O × World) : BlockDevice.Releases mount state := by
  have hclose : (perform state.1.close state.2).2.disk = Overlay.released state.1.overlay state.2.disk := by
    rw [Image.close]
    cases state.1.overlay with
    | none => rfl
    | some store => rfl
  exact ⟨hclose, (disk_drop state.1 state.2).trans hclose⟩

/-- **The calls on a verified image are layered over its overlay.** -/
theorem layered (options : OpenOptions) {descriptor : Descriptor} {map : BlockMap} (hsuits : map.Suits descriptor) :
    BlockDevice.Layered (Image.source (O := O)) mount options.mode descriptor.blockSize descriptor.totalBlocks
      (Sized options descriptor map) where
  blockSize_pos := hsuits.blockSize_pos
  blockSize_eq h := by
    show blockSize? _ = _
    rw [blockSize?, verifiedDescriptor?, descriptor?, h.stage]
    rfl
  blockCount_eq h := by
    show blockCount? _ = _
    rw [blockCount?, verifiedDescriptor?, descriptor?, h.stage]
    rfl
  tell h := ⟨_, tell?_of_verified h.stage⟩
  suits h := h.made
  readOnly h := h.readOnly
  after h := h.after
  seek h := follows_seek h.suits h.stage
  write h htell := by
    obtain rfl := Option.some.inj ((tell?_of_verified h.stage).symm.trans htell)
    exact h.follows_write
  sync h htell := by
    obtain rfl := Option.some.inj ((tell?_of_verified h.stage).symm.trans htell)
    exact h.follows_sync
  uses := by
    intro rel _ hrel state h operation hother
    suffices huses : Uses rel state (operation.after state) from ⟨huses.source, huses.route, huses.used⟩
    cases operation with
    | verify =>
      show Uses rel state (perform verify state).2
      rw [perform_verify_of_verified h.stage]
      exact .refl state
    | seek block => exact seek_uses hrel.toReads block state
    | read length => exact read_uses hrel.toReads length state
    | isUsed => exact isUsed_uses hrel.toReads state
    | write data => exact absurd rfl (hother data)
    | sync => exact sync_uses hrel state
  releases _ := releases _
  mounted h hmounted hcount htell hstored := by
    obtain rfl := Option.some.inj ((tell?_of_verified h.stage).symm.trans htell)
    show ((Image.read _).run _).1 = _
    rw [run_read h.stage, Nat.mul_mod_left, if_neg (fun hne => hne rfl),
      Nat.mul_div_cancel _ h.suits.blockSize_pos]
    exact run_readBlocks_of_mounted h.suits hmounted hcount hstored
  shown h hshows hblock hbytes := by
    rw [run_readAt h.suits h.stage hshows hblock, hbytes]
    rfl
  alike h hother hshows hshows' hblock hnone hnone' hread := by
    rw [run_readAt h.suits h.stage hshows hblock, run_readAt h.suits hother.stage hshows' hblock, hnone, hnone']
    exact base_alike h.suits hread _
  past h hshows hend := run_readAt_of_le h.suits h.stage hshows hend

/-- **Whatever is under the path of the overlay, the source of a handle that was verified is safe from it.** -/
theorem guarded_of_verify {start verified : Image ChangeFile × World} (hunread : Unread options start)
    (hsound : start.2.disk.Sound) (hbounded : start.2.disk.Bounded)
    (hverify : perform verify start = (.ok (), verified)) (hstage : verified.1.stage = .verified descriptor map) :
    BlockDevice.Guarded Image.source mount (Sized options descriptor map) (groundOf start descriptor) verified := by
  obtain ⟨_, _, hsized⟩ := sized_of_verify hunread hverify
  obtain ⟨rfl, rfl⟩ := Stage.verified.inj (hsized.stage.symm.trans hstage)
  obtain ⟨hroute, hguards⟩ := guards_of_verify hverify hunread.overlay hsound hbounded hstage
  exact ⟨hsized, hroute, hguards⟩

end PartitionImage.Image
