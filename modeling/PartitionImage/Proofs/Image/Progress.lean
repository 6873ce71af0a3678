import PartitionImage.Image.Access
import PartitionImage.Proofs.Action
import PartitionImage.Proofs.Source
/-!
# How far an operation gets

Operations on blocks move the cursor and the count of records passed; the rest of a handle stays as
it is, but for the overlay and the number of calls made to the source.

* `Image.Moves` says by how many blocks and records a step has moved; `Image.Still` that it has not.
* `Image.seekOverlay_still` and its companions are the steps that do not move, whatever the overlay
  does.
-/

namespace PartitionImage.Image

variable {O : Type} [Overlay O]

/-- The state after a step that went over `blocks` blocks and counted `records` records. -/
structure Moves (blocks records : Nat) (before after : Image O × World) : Prop where
  source : before.1.source.Later after.1.source
  stage : after.1.stage = before.1.stage
  options : after.1.options = before.1.options
  cursor : after.1.cursor = before.1.cursor + blocks
  passed : after.1.passed = before.1.passed + records

/-- The state after a step that moved neither cursor nor count. -/
abbrev Still : Image O × World → Image O × World → Prop := Moves 0 0

theorem Moves.refl (state : Image O × World) : Still state state :=
  ⟨.refl _, rfl, rfl, rfl, rfl⟩

theorem Moves.trans {m n p q : Nat} {a b c : Image O × World} (hab : Moves m p a b)
    (hbc : Moves n q b c) : Moves (m + n) (p + q) a c where
  source := hab.source.trans hbc.source
  stage := hbc.stage.trans hab.stage
  options := hbc.options.trans hab.options
  cursor := by rw [hbc.cursor, hab.cursor, Nat.add_assoc]
  passed := by rw [hbc.passed, hab.passed, Nat.add_assoc]

instance : Std.Refl (Still (O := O)) := ⟨Moves.refl⟩

instance : Trans (Still (O := O)) Still Still := ⟨Moves.trans⟩

/-! ### Steps that do not move -/

open PartitionImage.Action (Respects perform)

theorem perform_update (change : Image O → Image O) (state : Image O × World) :
    perform (update change) state = (.ok (), change state.1, state.2) := rfl

theorem withOverlay_still (attached : O × Disk) (state : Image O × World) :
    Still state (withOverlay attached state) :=
  ⟨.refl _, rfl, rfl, rfl, rfl⟩

theorem onOverlay_still {α : Type} (store : O) (act : Action (O × Disk) OverlayError α) :
    Respects Still (onOverlay store act) :=
  .zoom withOverlay_still

theorem onWorld_still {α ε : Type} (act : Action World ε α) :
    Respects Still (Action.onWorld (σ := Image O) act) :=
  .zoom fun _ _ => ⟨.refl _, rfl, rfl, rfl, rfl⟩

theorem perform_seekOverlay (block : Nat) (state : Image O × World) :
    perform (seekOverlay block) state
      = match state.1.overlay with
        | none => (.ok (), state)
        | some store =>
          ((perform (Overlay.seek block) (store, state.2.disk)).1.mapError .overlay,
            withOverlay (perform (Overlay.seek block) (store, state.2.disk)).2 state) := by
  rw [seekOverlay, Action.perform_bind_ok (Action.perform_get state)]
  cases state.1.overlay with
  | none => rfl
  | some store => rfl

/-- Nothing but the overlay can refuse to be moved. -/
theorem seekOverlay_error {block : Nat} {state reached : Image O × World} {error : Error}
    (h : perform (seekOverlay block) state = (.error error, reached)) :
    ∃ cause, error = .overlay cause := by
  rw [perform_seekOverlay] at h
  split at h
  · cases h
  · obtain ⟨cause, -, rfl⟩ := Action.mapError_eq_error_iff.mp (congrArg Prod.fst h)
    exact ⟨cause, rfl⟩

theorem seekOverlay_still (block : Nat) : Respects Still (seekOverlay (O := O) block) := by
  refine .bind .get fun _ => ?_
  split
  · exact onOverlay_still _ _
  · exact .pure _

theorem readyMap_still : Respects Still (readyMap (O := O)) := by
  refine .bind .get fun _ => ?_
  split
  · exact .pure _
  · exact .throw _

theorem perform_requireBlock (total : Nat) (state : Image O × World) :
    perform (requireBlock total) state
      = (if total ≤ state.1.cursor then .error (.outOfRange state.1.cursor total) else .ok (),
        state) := by
  rw [requireBlock, Action.perform_bind_ok (Action.perform_get state)]
  dsimp only
  split
  · rfl
  · rfl

theorem requireBlock_still (total : Nat) : Respects Still (requireBlock (O := O) total) := by
  refine .bind .get fun (image, world) => ?_
  show Respects Still (if total ≤ image.cursor then _ else _)
  split
  · exact .throw _
  · exact .pure _

theorem requireWhole_still (length blockSize : Nat) :
    Respects Still (requireWhole (O := O) length blockSize) := by
  show Respects Still (if length % blockSize ≠ 0 then _ else _)
  split
  · exact .throw _
  · exact .pure _

theorem perform_require (required : Readiness) (state : Image O × World) :
    perform (require required) state
      = (if state.1.ready required then .ok () else .error (.invalidState required), state) := by
  rw [require, Action.perform_bind_ok (Action.perform_get state)]
  cases state.1.ready required with
  | true => rfl
  | false => rfl

theorem require_still (required : Readiness) : Respects Still (require (O := O) required) := by
  refine .bind .get fun _ => ?_
  split
  · exact .throw _
  · exact .pure _

theorem attachOverlay_still (blockSize totalBlocks : Nat) :
    Respects Still (attachOverlay (O := O) blockSize totalBlocks) := by
  refine .bind (.bind .get fun _ => .bind (.change fun _ => ?_) fun _ => .pure _) fun _ =>
    .bind .get fun _ => .bind (onWorld_still _) fun _ => .change fun _ => ?_
  · exact ⟨.refl _, rfl, rfl, rfl, rfl⟩
  · exact ⟨.refl _, rfl, rfl, rfl, rfl⟩

theorem isUsed_still : Respects Still (isUsed (O := O)) := by
  refine .bind (readyMap_still (O := O)) fun (descriptor, map) => .bind (requireBlock_still _) fun _ =>
    .bind .get fun _ => .bind (seekOverlay_still _) fun _ => .bind .get fun _ => ?_
  split
  · exact .pure _
  · split
    · exact .pure _
    · exact .throw _

theorem sync_still : Respects Still (sync (O := O)) := by
  refine .bind (require_still _) fun _ => .bind .get fun _ => ?_
  split
  · exact onOverlay_still _ _
  · exact .throw _

end PartitionImage.Image
