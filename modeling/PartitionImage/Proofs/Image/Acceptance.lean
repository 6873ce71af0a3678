import PartitionImage.MemoryStore
import PartitionImage.Proofs.Image.Verify
import PartitionImage.Proofs.Supported
/-!
# What verification accepts

A handle for reading only is verified if the bytes behind it are a supported image, and otherwise its
verification fails with the class of the first check that the bytes do not pass.

* `Image.screens_verify` says that verification makes the checks of a supported image, in their order.
* `Image.verify_iff_supported` is the whole.
-/

namespace PartitionImage.Image

variable {O : Type} [Overlay O]

open PartitionImage.Action (perform)
open Check (Settles Screens)

/-- The bytes behind a handle without an overlay, whose source has no faults. -/
structure Fresh (bytes : Bytes) (options : OpenOptions) (state : Image O × World) : Prop where
  source : Source.Gives bytes (state.1.source, state.2)
  overlay : state.1.overlay = none
  options : state.1.options = options

variable {bytes : Bytes} {options : OpenOptions}

theorem screens_onSource {α : Type} {act : Action (Source × World) Error α} {checks : List Check}
    {post : α → Prop} (h : Screens (Source.Gives bytes) act checks post) :
    Screens (Fresh bytes options) (onSource (O := O) act) checks post where
  settles := by
    intro state hfresh
    have hsettles := h.settles hfresh.source
    show Settles checks post ((perform act (state.1.source, state.2)).1.mapError id)
    cases hresult : (perform act (state.1.source, state.2)).1 with
    | ok value => rwa [hresult] at hsettles
    | error error => rwa [hresult] at hsettles
  keeps := by
    intro state hfresh
    exact ⟨h.keeps hfresh.source, hfresh.overlay, hfresh.options⟩

theorem screens_reach (stage : Stage) :
    Screens (Fresh bytes options) (reach (O := O) stage) [] fun _ => True :=
  .change fun hfresh => ⟨hfresh.source, hfresh.overlay, hfresh.options⟩

theorem screens_initOverlay (hmode : options.mode = .readOnly) (blockSize totalBlocks : Nat) :
    Screens (Fresh bytes options) (initOverlay (O := O) blockSize totalBlocks) []
      fun _ => True := by
  have hrun : ∀ {state : Image O × World}, Fresh bytes options state →
      perform (initOverlay blockSize totalBlocks) state = (.ok (), state) := by
    intro state hfresh
    exact initOverlay_ok state (.inl (hfresh.options ▸ hmode)) blockSize totalBlocks
  constructor
  · intro state hfresh
    rw [hrun hfresh]
    exact .ok trivial
  · intro state hfresh
    rwa [hrun hfresh]

theorem screens_repairDeviceSize (descriptor : Descriptor) :
    Screens (Fresh bytes options) (repairDeviceSize (O := O) descriptor) []
      (·.usedBlocks = descriptor.usedBlocks) := by
  unfold repairDeviceSize
  dsimp only
  split
  · exact .pure rfl
  · refine Screens.after (.change fun hfresh => ?_) fun _ _ => .pure rfl
    exact ⟨hfresh.source, hfresh.overlay, hfresh.options⟩

theorem screens_repairUsedBlocks (strict : Bool) {descriptor : Descriptor} {scanned : Nat}
    {format : Format} (hrecorded : descriptor.usedBlocks = format.usedBlocks bytes)
    (hscanned : scanned = format.scanned bytes) :
    Screens (Fresh bytes options) (repairUsedBlocks (O := O) strict descriptor scanned)
      (Supported.countChecks strict bytes format) fun _ => True := by
  have hwarn : Screens (Fresh bytes options)
      (.warn (.usedBlockCount descriptor.usedBlocks scanned) >>= fun _ : Unit =>
        (pure { descriptor with usedBlocks := scanned } : Action (Image O × World) Error _))
      [] fun _ => True := by
    refine Screens.after (.change fun hfresh => ?_) fun _ _ => .pure trivial
    exact ⟨hfresh.source, hfresh.overlay, hfresh.options⟩
  unfold repairUsedBlocks
  split
  · next heq =>
    exact .cons (decide_eq_true fun _ => by rw [← hrecorded, ← hscanned, heq]) (.pure trivial)
  · next hne =>
    refine .unless ⟨fun hstrict hcount => hne ?_, fun hno => ?_⟩ rfl fun _ => hwarn
    · rw [hrecorded, hscanned]
      exact hcount hstrict
    · exact Decidable.byContradiction fun hstrict => hno fun h => absurd h hstrict

theorem screens_verifyOverlay :
    Screens (Fresh bytes options) (verifyOverlay (O := O)) [] fun _ => True where
  settles := by
    intro state hfresh
    rw [verifyOverlay_ok state hfresh.overlay]
    exact .ok trivial
  keeps := by
    intro state hfresh
    rwa [verifyOverlay_ok state hfresh.overlay]

/-- **Verification makes the checks of a supported image, in their order.** -/
theorem screens_verify {start : Image O × World} (hopened : start.1.stage = .opened)
    (hfresh : Fresh bytes options start) (hmode : options.mode = .readOnly)
    (hmemory : ∀ format, Format.of? bytes = some format →
      format.magicOffset bytes + 8 ≤ bytes.length →
        bytesForBits (format.totalBlocks bytes) < allocationLimit) :
    Settles (Supported.checks options.strict bytes) (fun _ => True) (perform verify start).1 := by
  have hrequire : perform (require .opened) start = (.ok (), start) := by
    rw [perform_require, ready, hopened]
    rfl
  rw [verify, Action.perform_bind_ok hrequire, Action.perform_bind_ok (Action.perform_get start)]
  dsimp only
  rw [hfresh.options]
  refine Screens.settles (?_ : Screens (Fresh bytes options) _ _ _) hfresh
  refine (screens_onSource BlockMap.screens_version).bind fun version hversion => ?_
  obtain ⟨hmagic, rfl⟩ := hversion
  refine (screens_reach _).after fun _ _ => ?_
  unfold Format.of? at *
  cases hformat : Format.ofVersion? (Descriptor.versionOf bytes) with
  | none =>
    dsimp only
    exact ⟨fun _ => rfl, fun hfresh => hfresh⟩
  | some format =>
    dsimp only
    refine (screens_reach _).after fun _ _ => ?_
    refine (screens_onSource (BlockMap.screens_descriptor format hmagic)).bind
      fun described hdescribed => ?_
    obtain ⟨hlaidOut, hfit⟩ := hdescribed
    refine (screens_reach _).after fun _ _ => ?_
    refine (screens_initOverlay hmode _ _).after fun _ _ => ?_
    refine (screens_onSource (BlockMap.screens_load hlaidOut hfit (hmemory format hformat hfit)
      _)).bind fun map hscanned => ?_
    refine (screens_repairDeviceSize _).after fun resized hresized => ?_
    refine (screens_reach _).after fun _ _ => ?_
    rw [← List.append_nil (Supported.countChecks _ _ _)]
    refine (screens_repairUsedBlocks options.strict (hresized.trans hlaidOut.usedBlocks)
      hscanned).bind fun counted _ => ?_
    refine (screens_reach _).after fun _ _ => ?_
    refine screens_verifyOverlay.after fun _ _ => ?_
    exact .change fun hfresh => ⟨hfresh.source, hfresh.overlay, hfresh.options⟩

/-- **Verification accepts the supported images and no others.**  A handle for reading only, on a source
without faults and with the memory for the bitmap that the image has, is verified if the bytes are a
supported image; otherwise the failure is of the class of the first check that they do not pass. -/
theorem verify_iff_supported {source : Source} {path : String} {options : OpenOptions}
    {setup : Overlay.Setup O} {world : World} {bytes : Bytes} (hmode : options.mode = .readOnly)
    (hsource : source.Faultless world.disk bytes)
    (hmemory : ∀ format, Format.of? bytes = some format →
      format.magicOffset bytes + 8 ≤ bytes.length →
        bytesForBits (format.totalBlocks bytes) < allocationLimit) :
    ((∃ verified, perform verify (ofSource source path options setup, world) = (.ok (), verified))
        ↔ Supported options.strict bytes)
      ∧ ∀ error failed,
        perform verify (ofSource source path options setup, world) = (.error error, failed) →
          Check.failure? (Supported.checks options.strict bytes) = some error.kind := by
  have hsettles : Settles (Supported.checks options.strict bytes) (fun _ => True)
      (perform verify (ofSource source path options setup, world)).1 :=
    screens_verify rfl ⟨hsource, rfl, rfl⟩ hmode hmemory
  constructor
  · rw [Supported.iff_failure?, ← hsettles.isOk_iff]
    constructor
    · rintro ⟨verified, hverify⟩
      exact ⟨(), congrArg Prod.fst hverify⟩
    · rintro ⟨done, hdone⟩
      exact ⟨_, Prod.ext hdone rfl⟩
  · intro error failed hverify
    rw [hverify] at hsettles
    exact hsettles

/-- The head of a current image, and a descriptor of zeros. -/
def emptyDescriptor : Bytes :=
  Descriptor.imageMagic ++ List.replicate 15 0 ++ Version.current.bytes ++ List.replicate 76 0

/-- A descriptor of zeros has no blocks, no checksum that is right and no bitmap after it; the blocks
are looked at first. -/
theorem verify_iff_supported_emptyDescriptor :
    ¬ Supported false emptyDescriptor ∧ ∃ error failed,
      perform verify (ofSource (O := MemoryStore) (.ofBytes emptyDescriptor) "a.img" {} [], {})
        = (.error error, failed) ∧ error.kind = .integrity := by
  have hmemory : ∀ format, Format.of? emptyDescriptor = some format →
      format.magicOffset emptyDescriptor + 8 ≤ emptyDescriptor.length →
        bytesForBits (format.totalBlocks emptyDescriptor) < allocationLimit := by
    intro format _ hfit
    cases format with
    | legacy => exact absurd hfit (by decide)
    | current => exact absurd hfit (by decide)
  have hfirst : Check.failure? (Supported.checks false emptyDescriptor) = some .integrity := by
    decide
  obtain ⟨hiff, hkind⟩ : ((∃ verified, perform verify
        (ofSource (O := MemoryStore) (.ofBytes emptyDescriptor) "a.img" {} [], {})
          = (.ok (), verified)) ↔ Supported false emptyDescriptor) ∧ _ :=
    verify_iff_supported rfl (Source.faultless_ofBytes _ _) hmemory
  have hunsupported : ¬ Supported false emptyDescriptor := by
    rw [Supported.iff_failure?, hfirst]
    exact fun h => (nomatch h)
  refine ⟨hunsupported, ?_⟩
  rcases hrun : perform verify
      (ofSource (O := MemoryStore) (.ofBytes emptyDescriptor) "a.img" {} [], {})
    with ⟨result, reached⟩
  cases result with
  | ok done => exact absurd (hiff.mp ⟨reached, hrun⟩) hunsupported
  | error error =>
    refine ⟨error, reached, rfl, ?_⟩
    have hfailed := hkind error reached hrun
    rw [hfirst] at hfailed
    exact (Option.some.inj hfailed).symm

end PartitionImage.Image
