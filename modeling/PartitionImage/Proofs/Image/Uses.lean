import PartitionImage.Proofs.Image.Counter
import PartitionImage.Proofs.Image.Device
import PartitionImage.Proofs.Opening
/-!
# What is used of a handle

An operation on the blocks of a handle uses its source, its cursor, and its overlay if there is one.  Whatever a
relation says of the overlay's own operations, it says of those that go through the handle.

* `Image.Uses` says that nothing else of a handle is different.
* `Image.onSource_uses` and its companions are steps of verification.
* `Image.seek_uses` and its companions are the operations, whatever the handle is ready for.
* `Image.disk_drop` is about the disk that a handle leaves in the end.
-/

namespace PartitionImage.Image

variable {O : Type} [Overlay O]

open PartitionImage.Action (Respects perform perform_bind_ok)

/-- Nothing of a handle is different but the number of calls that its source has had, its cursor and count, and
its overlay, within the relation. -/
structure Uses (rel : O × Disk → O × Disk → Prop) (before after : Image O × World) : Prop where
  source : before.1.source.Later after.1.source
  stage : after.1.stage = before.1.stage
  path : after.1.path = before.1.path
  options : after.1.options = before.1.options
  setup : after.1.setup = before.1.setup
  overlayPath : after.1.overlayPath = before.1.overlayPath
  overlayVerified : after.1.overlayVerified = before.1.overlayVerified
  used : Overlay.Used rel (before.1.overlay, before.2.disk) (after.1.overlay, after.2.disk)

variable {rel : O × Disk → O × Disk → Prop}

theorem Uses.route {before after : Image O × World} (h : Uses rel before after) :
    after.1.route = before.1.route := by
  rw [Image.route, Image.route, h.overlayPath, h.path]

theorem uses_withOverlay {state : Image O × World} {store : O} (hstore : state.1.overlay = some store)
    {reached : O × Disk} (h : rel (store, state.2.disk) reached) :
    Uses rel state (withOverlay reached state) := by
  refine ⟨.refl _, rfl, rfl, rfl, rfl, rfl, rfl, ?_⟩
  rw [hstore]
  exact .some h

variable [IsPreorder (O × Disk) rel]

theorem Uses.refl (state : Image O × World) : Uses rel state state :=
  ⟨.refl _, rfl, rfl, rfl, rfl, rfl, rfl, .refl _⟩

theorem Uses.trans {a b c : Image O × World} (hab : Uses rel a b) (hbc : Uses rel b c) : Uses rel a c :=
  ⟨hab.source.trans hbc.source, hbc.stage.trans hab.stage, hbc.path.trans hab.path,
    hbc.options.trans hab.options, hbc.setup.trans hab.setup, hbc.overlayPath.trans hab.overlayPath,
    hbc.overlayVerified.trans hab.overlayVerified, hab.used.trans hbc.used⟩

instance : Std.Refl (Uses rel) := ⟨Uses.refl⟩

instance : Trans (Uses rel) (Uses rel) (Uses rel) := ⟨Uses.trans⟩

theorem uses_set (cursor passed : Nat) (state : Image O × World) :
    Uses rel state ({ state.1 with cursor := cursor, passed := passed }, state.2) :=
  ⟨.refl _, rfl, rfl, rfl, rfl, rfl, rfl, .refl _⟩

/-! ### Verifying -/

theorem onSource_uses {α : Type} {act : Action (Source × World) Error α}
    (hact : Respects Source.Onward act) : Respects (Uses rel) (onSource (O := O) act) := by
  intro state
  have honward := hact (state.1.source, state.2)
  refine ⟨honward.later, rfl, rfl, rfl, rfl, rfl, rfl, ?_⟩
  show Overlay.Used rel (state.1.overlay, state.2.disk)
    (state.1.overlay, (perform act (state.1.source, state.2)).2.2.disk)
  rw [honward.disk]
  exact .refl _

theorem warn_uses (warning : Warning) :
    Respects (Uses rel) (Action.warn (σ := Image O) (ε := Error) warning) :=
  .change fun _ => ⟨.refl _, rfl, rfl, rfl, rfl, rfl, rfl, .refl _⟩

theorem repairDeviceSize_uses (descriptor : Descriptor) :
    Respects (Uses rel) (repairDeviceSize (O := O) descriptor) := by
  unfold repairDeviceSize
  dsimp only
  split
  · exact .pure _
  · exact .bind (warn_uses _) fun _ => .pure _

theorem repairUsedBlocks_uses (strict : Bool) (descriptor : Descriptor) (scanned : Nat) :
    Respects (Uses rel) (repairUsedBlocks (O := O) strict descriptor scanned) := by
  unfold repairUsedBlocks
  split
  · exact .pure _
  · split
    · exact .bind (.throw _) fun _ => .bind (warn_uses _) fun _ => .pure _
    · exact .bind (warn_uses _) fun _ => .pure _

/-! ### Reading -/

section

variable (hrel : Overlay.Reads rel)

include hrel

theorem seekOverlay_uses (block : Nat) : Respects (Uses rel) (seekOverlay (O := O) block) := by
  intro state
  rw [perform_seekOverlay]
  cases hstore : state.1.overlay with
  | none => exact .refl state
  | some store => exact uses_withOverlay hstore (hrel.seek block (store, state.2.disk))

theorem readOverlay_uses (block blockSize : Nat) (state : Image O × World) :
    Uses rel state ((readOverlay block blockSize).run state).2 := by
  have hsought := seekOverlay_uses hrel block state
  rw [run_readOverlay]
  split
  · next heq =>
    rw [heq] at hsought
    exact hsought
  · next reached heq =>
    rw [heq] at hsought
    split
    · exact hsought
    · next store hstore =>
      exact hsought.trans (uses_withOverlay hstore (hrel.read blockSize (store, reached.2.disk)))

omit hrel in
theorem readRecord_uses (map : BlockMap) (number block length : Nat) (state : Image O × World) :
    Uses rel state ((readRecord map number block length).run state).2 := by
  obtain ⟨source, hlater, hrun⟩ := readRecord_source map number block length state
  rw [hrun]
  exact ⟨hlater, rfl, rfl, rfl, rfl, rfl, rfl, .refl _⟩

theorem readBlock_uses (map : BlockMap) (block length : Nat) (state : Image O × World) :
    Uses rel state ((readBlock map block length).run state).2 := by
  cases hused : map.bitmap.get? block with
  | none =>
    rw [readBlock, hused]
    exact .refl state
  | some used =>
    have hasked := readOverlay_uses hrel block length state
    rcases hask : (readOverlay block length).run state with ⟨overlaid, asked⟩
    rw [hask] at hasked
    have hpassed : Uses rel state ((pass used).run asked).2 := hasked.trans (uses_set _ _ asked)
    rw [readBlock, hused]
    dsimp only
    rw [StateT.run_bind, hask]
    rcases overlaid with ⟨bytes, _ | _ | _⟩
    · exact hasked
    · exact hpassed
    · cases used with
      | true => exact hpassed.trans (readRecord_uses _ _ _ _ _)
      | false =>
        rw [if_neg Bool.false_ne_true]
        split
        · exact hasked
        · exact hasked

theorem readBlocks_uses (descriptor : Descriptor) (map : BlockMap) (count : Nat) (state : Image O × World) :
    Uses rel state ((readBlocks descriptor map count).run state).2 := by
  induction count generalizing state with
  | zero => exact .refl state
  | succ count ih =>
    have hblock := readBlock_uses hrel map state.1.cursor descriptor.blockSize state
    rw [run_readBlocks_succ]
    split
    · exact .refl state
    · dsimp only
      split
      · exact hblock
      · exact (hblock.trans (uses_set _ _ _)).trans (ih _)

theorem read_uses (length : Nat) (state : Image O × World) :
    Uses rel state ((read length).run state).2 := by
  cases hstage : state.1.stage with
  | verified descriptor map =>
    rw [run_read hstage]
    split
    · exact .refl state
    · exact readBlocks_uses hrel _ _ _ state
  | _ =>
    simp only [read, StateT.run_bind, StateT.run_get, pure_bind, hstage]
    exact .refl state

omit hrel in
theorem readyMap_uses : Respects (Uses rel) (readyMap (O := O)) := by
  refine .bind .get fun _ => ?_
  split
  · exact .pure _
  · exact .throw _

theorem seek_uses (block : Nat) : Respects (Uses rel) (seek (O := O) block) := by
  refine .bind readyMap_uses fun verified => ?_
  obtain ⟨descriptor, map⟩ := verified
  dsimp only
  split
  · exact .throw (Error.outOfRange block descriptor.totalBlocks)
  · split
    · exact .bind (seekOverlay_uses hrel block) fun _ => .change fun state => uses_set _ _ state
    · exact .throw _

omit hrel in
theorem require_uses (required : Readiness) : Respects (Uses rel) (require (O := O) required) := by
  intro state
  rw [perform_require]
  exact .refl state

omit hrel in
theorem requireBlock_uses (total : Nat) : Respects (Uses rel) (requireBlock (O := O) total) := by
  intro state
  rw [perform_requireBlock]
  exact .refl state

theorem isUsed_uses : Respects (Uses rel) (isUsed (O := O)) := by
  refine .bind readyMap_uses fun (descriptor, map) => .bind (requireBlock_uses _) fun _ =>
    .bind .get fun _ => .bind (seekOverlay_uses hrel _) fun _ => .bind .get fun _ => ?_
  split
  · exact .pure _
  · split
    · exact .pure _
    · exact .throw _

end

/-! ### Writing -/

section

variable (hrel : Overlay.Writes rel)

include hrel

theorem sync_uses : Respects (Uses rel) (sync (O := O)) := by
  refine .bind (require_uses _) fun _ state => ?_
  rw [perform_bind_ok (Action.perform_get state)]
  cases hstore : state.1.overlay with
  | none => exact .refl state
  | some store => exact uses_withOverlay hstore (hrel.sync (store, state.2.disk))

theorem writeBlocks_uses (blockSize total : Nat) (count : Nat) (data : Bytes) :
    Respects (Uses rel) (writeBlocks (O := O) blockSize total count data) := by
  induction count generalizing data with
  | zero => exact .pure _
  | succ count ih =>
    refine .bind (requireBlock_uses _) fun _ => .bind .get fun state =>
      .bind (seekOverlay_uses hrel.toReads _) fun _ reached => ?_
    rw [perform_bind_ok (Action.perform_get reached)]
    cases hstore : reached.1.overlay with
    | none => exact .refl reached
    | some store =>
      have hwrite := uses_withOverlay hstore (hrel.write (data.take blockSize) (store, reached.2.disk))
      rcases hrun : perform (onOverlay store (Overlay.write (data.take blockSize))) reached
        with ⟨result, written⟩
      have hwritten : Uses rel reached written := by
        rw [show written = _ from (congrArg Prod.snd hrun).symm]
        exact hwrite
      cases result with
      | error error =>
        dsimp only
        rw [Action.perform_bind_error hrun]
        exact hwritten
      | ok done =>
        dsimp only
        rw [perform_bind_ok hrun]
        refine hwritten.trans (Respects.bind (.change fun state => ?_) (fun _ => ih _) written)
        exact uses_set _ _ state

end

/-! ### Letting go -/

/-- A failure to keep the changes of a handle that is dropped leads to a warning only. -/
theorem disk_drop (image : Image O) (world : World) :
    ((image.drop).run world).2.disk = (perform image.close world).2.disk := by
  rcases hclose : perform image.close world with ⟨result, reached⟩
  have hrun : image.close.run.run world = pure (result, reached) := hclose
  rw [drop, StateT.run_bind, hrun, pure_bind]
  cases result with
  | ok done => rfl
  | error error => rfl

end PartitionImage.Image
