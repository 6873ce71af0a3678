import PartitionImage.Proofs.Harmless
import PartitionImage.Proofs.RawImage.Mount
/-!
# What a raw image leaves alone

The geometry of a raw image is known from the size of its file, and a store is attached only once it is verified, so
that every store that a handle has is its own.

* `RawImage.geometry` is the geometry that a file has for its overlay.
* `RawImage.Sparing` is what a verification keeps, `RawImage.verify_sparing` says so.
* `RawImage.unverified` is what there is to say of a handle before it is verified.
-/

namespace PartitionImage.RawImage

open PartitionImage.Action (Respects Maintains perform perform_bind_error perform_bind_ok)
open ChangeFile (Header Own Spared Step)

variable {start state reached : RawImage ChangeFile × World}

def geometry (bytes : Bytes) : Header :=
  ⟨blockSizeFor bytes.length, bytes.length / blockSizeFor bytes.length⟩

def shape (image : RawImage ChangeFile) : Header := ⟨image.blockSize, image.totalBlocks⟩

/-- A handle that was opened in the state `start`: its geometry stays, and a store is its own. -/
structure Sparing (start state : RawImage ChangeFile × World) : Prop where
  route : state.1.route = start.1.route
  shape : state.1.shape = start.1.shape
  spared : Spared (some start.1.shape) start.2.disk state.2.disk
  own : ∀ file, state.1.overlay = some file →
    Own (some start.1.shape) start.2.disk start.1.route file

theorem Sparing.refl (hnone : start.1.overlay = none) (hsound : start.2.disk.Sound) :
    Sparing start start :=
  ⟨rfl, rfl, .refl hsound, fun file hfile => by cases hnone.symm.trans hfile⟩

/-! ### Operations -/

theorem Sparing.onward (h : Sparing start state) (hroute : reached.1.route = state.1.route)
    (hshape : reached.1.shape = state.1.shape)
    (hspared : Spared (some start.1.shape) start.2.disk reached.2.disk)
    (hown : ∀ file, reached.1.overlay = some file →
      Own (some start.1.shape) start.2.disk start.1.route file) : Sparing start reached :=
  ⟨hroute.trans h.route, hshape.trans h.shape, hspared, hown⟩

theorem Sparing.uses (h : Sparing start state) (huses : Uses Step state reached) :
    Sparing start reached := by
  obtain ⟨hspared, hown⟩ := h.spared.used h.own huses.used
  refine h.onward huses.route ?_ hspared hown
  rw [RawImage.shape, RawImage.shape, huses.blockSize, huses.totalBlocks]

theorem attachOverlay_sparing : Respects (Maintains (Sparing start)) attachOverlay := by
  intro state h
  rw [perform_attachOverlay]
  rcases hmake : perform (makeOverlay state.1.setup state.1.route state.1.blockSize
    state.1.totalBlocks) state.2.disk with ⟨made, disk⟩
  have hspared := h.spared
  rw [← h.shape] at hspared
  obtain ⟨hspared, hown⟩ := hspared.make state.1.setup hmake
  rw [h.shape] at hspared hown
  cases made with
  | error error => exact h.onward rfl rfl hspared h.own
  | ok store =>
    refine h.onward rfl rfl hspared fun file hfile => ?_
    obtain rfl := Option.some.inj hfile
    exact h.route ▸ hown _ rfl

/-- A store that can be opened is attached if it has its whole length. -/
theorem initOverlay_sparing {path : String} (h : Sparing start state) (hpath : path = start.1.route) :
    Sparing start (perform (initOverlay path) state).2 := by
  have hspared := h.spared
  rw [← h.shape] at hspared
  rw [perform_initOverlay]
  rcases hinit : perform (Overlay.init state.1.setup path state.1.blockSize state.1.totalBlocks)
    state.2.disk with ⟨opened, disk⟩
  obtain ⟨rfl, hpending⟩ := hspared.init hinit
  cases opened with
  | error error => exact h.onward rfl rfl h.spared h.own
  | ok store =>
    dsimp only
    rcases hkeep : perform (verifyStore store) state.2.disk with ⟨kept, disk⟩
    obtain ⟨rfl, hown⟩ := (hpending store rfl).keep hkeep
    cases kept with
    | error error => exact h.onward rfl rfl h.spared h.own
    | ok store =>
      refine h.onward rfl rfl h.spared fun file hfile => ?_
      obtain rfl := Option.some.inj hfile
      exact hpath ▸ h.shape ▸ hown _ rfl

/-- **Verification, wherever it ends, leaves what is unusable as it is.** -/
theorem verify_sparing : Respects (Maintains (Sparing start)) verify := by
  have hmarked : Respects (Maintains (Sparing start))
      (update fun image : RawImage ChangeFile => { image with verified := true }) :=
    .change fun _ h => h.onward rfl rfl h.spared h.own
  refine .bind (fun state h => h.uses (require_respects _ state)) fun _ state h => ?_
  rw [perform_bind_ok (Action.perform_get state)]
  dsimp only
  cases state.1.mode with
  | readOnly => exact hmarked state h
  | readWrite =>
    cases hpath : state.1.overlayPath with
    | none => exact hmarked state h
    | some path =>
      have hroute : path = start.1.route := by
        rw [← h.route, RawImage.route, hpath]
        rfl
      have hopened := initOverlay_sparing h hroute
      rcases hinit : perform (initOverlay path) state with ⟨result, reached⟩
      rw [hinit] at hopened
      dsimp only
      rw [Action.perform_bind, hinit]
      cases result with
      | error error => exact hopened
      | ok done => exact hmarked reached hopened
  | create => exact (Respects.bind attachOverlay_sparing fun _ => hmarked) state h

/-! ### Handles -/

theorem perform_require_of_unverified (hunverified : state.1.verified = false) {required : Readiness}
    (hrequired : required ≠ .opened) :
    perform (require required) state = (.error (.invalidState required), state) := by
  have hready : state.1.ready required = false := by
    cases required with
    | opened => exact absurd rfl hrequired
    | verified => exact hunverified
    | readReady => exact hunverified
    | writable => rw [ready, hunverified, Bool.false_and]
    | writeReady => rw [ready, hunverified, Bool.false_and, Bool.false_and]
  rw [perform_require, hready]
  rfl

theorem after_of_unverified (hunverified : state.1.verified = false) {operation : Operation}
    (hoperation : operation ≠ .verify) : operation.after state = state := by
  cases operation with
  | verify => exact absurd rfl hoperation
  | read length =>
    show ((RawImage.read length).run state).2 = state
    rw [RawImage.read, StateT.run_bind, StateT.run_get, pure_bind]
    dsimp only
    rw [hunverified]
    rfl
  | seek block =>
    exact congrArg Prod.snd (perform_bind_error (perform_require_of_unverified hunverified (by decide)))
  | isUsed => exact congrArg Prod.snd (perform_bind_error (perform_require_of_unverified hunverified (by decide)))
  | write data =>
    exact congrArg Prod.snd (perform_bind_error (perform_require_of_unverified hunverified (by decide)))
  | sync => exact congrArg Prod.snd (perform_bind_error (perform_require_of_unverified hunverified (by decide)))

/-- A handle that was opened in the state `start`, and is not verified. -/
structure Unchecked (mode : OpenMode) (start state : RawImage ChangeFile × World) : Prop
    extends Sparing start state where
  sized : Sized mode start.1.blockSize start.1.totalBlocks state
  unverified : state.1.verified = false

/-- **A handle that is verified has a store of its own, or none.** -/
theorem unverified (mode : OpenMode) (hpos : 0 < start.1.blockSize) :
    BlockDevice.Unverified RawImage.source mount (some start.1.shape) start.2.disk start.1.route
      (Unchecked mode start) where
  spared h := h.spared
  unchanged _ hnone := nomatch hnone
  clean h hstore := .inr (h.own _ hstore)
  refused h _ hoperation := after_of_unverified h.unverified hoperation
  write h data :=
    ⟨_, congrArg Prod.fst (perform_bind_error (perform_require_of_unverified h.unverified (by decide)))⟩
  releases _ := releases _
  verify := by
    intro state h
    have hsparing : Sparing start (Operation.verify.after state) := verify_sparing state h.toSparing
    have hsized := h.sized.after .verify
    cases hverified : (Operation.verify.after state).1.verified with
    | false => exact .idle ⟨hsparing, hsized, hverified⟩
    | true =>
      exact .verified rfl (layered mode hpos _) ⟨hsized, hverified⟩ ⟨hsparing.route, hsparing.spared, hsparing.own⟩

end PartitionImage.RawImage
