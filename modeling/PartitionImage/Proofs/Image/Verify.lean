import PartitionImage.Proofs.BlockMap
import PartitionImage.Proofs.Image.Progress
import PartitionImage.Proofs.Overlay
/-!
# What verification settles

A handle that was verified knows what its image says: descriptor, layout and block map are those that
the bytes have, and the cursor is on the first block.

* `Image.survey` and `Image.settle` are the two halves of a verification, `Image.perform_verify_eq` puts them together.
* `Image.VerifiedFrom` relates a verified handle to the one that was opened;
  `Image.verifiedFrom_of_verify` says that verification leads to such a handle, whatever the source
  and the overlay do.
* `Image.exists_verify_of` says which images are verified when the overlay is, `Image.exists_verify` when there is none;
  `Image.verify_refuses` is the one thing that only a strict verification refuses.
-/

namespace PartitionImage

/-- The descriptor with the size of the device that its blocks make up, and with the number of used
blocks that the bitmap has. -/
def Descriptor.repaired (descriptor : Descriptor) (used : Nat) : Descriptor :=
  { descriptor with
    deviceSize := saturate64 (descriptor.totalBlocks * descriptor.blockSize)
    usedBlocks := used }

theorem RecordLayout.Of.repaired {layout : RecordLayout} {format : Format} {descriptor : Descriptor}
    (h : layout.Of format descriptor) (used : Nat) : layout.Of format (descriptor.repaired used) :=
  ⟨h.blockSize_eq, h.blockSize_pos, h.bitmapLength_eq, h.trailer_eq⟩

namespace Image

variable {O : Type} [Overlay O]

open Source (Onward Extracts)
open PartitionImage.Action (Respects perform perform_bind_inv)

/-- What the steps of verification leave alone: the source but for its calls, and the options. -/
structure Steady (before after : Image O × World) : Prop where
  source : before.1.source.Later after.1.source
  options : after.1.options = before.1.options

theorem Steady.refl (state : Image O × World) : Steady state state := ⟨.refl _, rfl⟩

theorem Steady.trans {a b c : Image O × World} (hab : Steady a b) (hbc : Steady b c) : Steady a c :=
  ⟨hab.source.trans hbc.source, hbc.options.trans hab.options⟩

theorem Moves.steady {m p : Nat} {before after : Image O × World} (h : Moves m p before after) :
    Steady before after :=
  ⟨h.source, h.options⟩

/-- What the steps of verification leave alone if there is no overlay. -/
structure Plain (before after : Image O × World) : Prop extends Steady before after where
  overlay : after.1.overlay = before.1.overlay
  overlayPath : after.1.overlayPath = before.1.overlayPath
  setup : after.1.setup = before.1.setup
  disk : after.2.disk = before.2.disk

theorem Plain.refl (state : Image O × World) : Plain state state := ⟨.refl _, rfl, rfl, rfl, rfl⟩

theorem Plain.trans {a b c : Image O × World} (hab : Plain a b) (hbc : Plain b c) : Plain a c :=
  ⟨hab.toSteady.trans hbc.toSteady, hbc.overlay.trans hab.overlay,
    hbc.overlayPath.trans hab.overlayPath, hbc.setup.trans hab.setup, hbc.disk.trans hab.disk⟩

instance : Std.Refl (Plain (O := O)) := ⟨Plain.refl⟩

instance : Trans (Plain (O := O)) Plain Plain := ⟨Plain.trans⟩

/-! ### The steps -/

/-- Acting on the source leaves the rest of the handle. -/
theorem onSource_inv {α : Type} (bytes : Bytes) {act : Action (Source × World) Error α}
    {found? : Option α} (hact : Extracts bytes act found?) {state reached : Image O × World}
    {value : α} (h : perform (onSource act) state = (.ok value, reached)) :
    (state.1.source.backing.Agrees state.2.disk bytes → found? = some value)
      ∧ Steady state reached ∧ reached.2.disk = state.2.disk := by
  obtain ⟨hvalue, rfl⟩ := Prod.mk.inj h
  have honward := hact.onward (state.1.source, state.2)
  exact ⟨fun hagrees => hact.sound hagrees (Action.mapError_eq_ok_iff.mp hvalue),
    ⟨honward.later, rfl⟩, honward.disk⟩

theorem onSource_plain {α : Type} (bytes : Bytes) {act : Action (Source × World) Error α} {found? : Option α}
    (hact : Extracts bytes act found?) : Respects Plain (onSource (O := O) act) := by
  intro state
  have honward := hact.onward (state.1.source, state.2)
  exact ⟨⟨honward.later, rfl⟩, rfl, rfl, rfl, honward.disk⟩

theorem reach_plain (stage : Stage) : Respects Plain (reach (O := O) stage) :=
  .change fun _ => ⟨⟨.refl _, rfl⟩, rfl, rfl, rfl, rfl⟩

theorem repairDeviceSize_plain (descriptor : Descriptor) :
    Respects Plain (repairDeviceSize (O := O) descriptor) := by
  unfold repairDeviceSize
  dsimp only
  split
  · exact .pure _
  · exact .bind (.change fun _ => ⟨⟨.refl _, rfl⟩, rfl, rfl, rfl, rfl⟩) fun _ => .pure _

theorem reach_steady (stage : Stage) : Respects Steady (reach (O := O) stage) :=
  .change fun _ => ⟨.refl _, rfl⟩

theorem warn_still (warning : Warning) :
    Respects Still (Action.warn (σ := Image O) (ε := Error) warning) :=
  .change fun _ => ⟨.refl _, rfl, rfl, rfl, rfl⟩

theorem settleOverlayPath_still : Respects Still (settleOverlayPath (O := O)) :=
  .bind .get fun _ => .bind (.change fun _ => ⟨.refl _, rfl, rfl, rfl, rfl⟩) fun _ => .pure _

theorem initOverlay_still (blockSize totalBlocks : Nat) :
    Respects Still (initOverlay (O := O) blockSize totalBlocks) := by
  refine .bind .get fun (image, world) => ?_
  dsimp only
  split
  · exact .pure _
  · split
    · refine .bind (.attempt (onWorld_still _)) fun opened => ?_
      split
      · exact .change fun _ => ⟨.refl _, rfl, rfl, rfl, rfl⟩
      · exact warn_still _
    · exact .pure _
  · exact .bind settleOverlayPath_still fun _ => .bind (onWorld_still _) fun _ =>
      .change fun _ => ⟨.refl _, rfl, rfl, rfl, rfl⟩

theorem verifyOverlay_still : Respects Still (verifyOverlay (O := O)) := by
  refine .bind .get fun _ => ?_
  split
  · exact .bind (onOverlay_still _ _) fun _ => .change fun _ => ⟨.refl _, rfl, rfl, rfl, rfl⟩
  · exact .pure _

theorem verifyOverlay_disk [LawfulOverlay O] (state : Image O × World) :
    (perform verifyOverlay state).2.2.disk = state.2.disk := by
  rw [verifyOverlay, Action.perform_bind_ok (Action.perform_get state)]
  split
  · next store _ =>
    have hverify : (perform Overlay.verify (store, state.2.disk)).2.2 = state.2.disk :=
      LawfulOverlay.verify_disk (store, state.2.disk)
    rw [Action.perform_bind]
    rcases hrun : perform (onOverlay store Overlay.verify) state with ⟨result, reached⟩
    have hdisk : reached.2.disk = state.2.disk := by
      rw [← hverify]
      exact congrArg (fun ended => ended.2.2.disk) hrun.symm
    cases result with
    | ok done => exact hdisk
    | error error => exact hdisk
  · rfl

theorem repairDeviceSize_inv {descriptor repaired : Descriptor} {state reached : Image O × World}
    (h : perform (repairDeviceSize descriptor) state = (.ok repaired, reached)) :
    repaired = descriptor.repaired descriptor.usedBlocks ∧ Still state reached
      ∧ reached.2.disk = state.2.disk := by
  unfold repairDeviceSize at h
  dsimp only at h
  split at h
  · next heq =>
    cases h
    exact ⟨by rw [Descriptor.repaired, ← heq], .refl state, rfl⟩
  · cases h
    exact ⟨rfl, warn_still _ state, rfl⟩

theorem repairUsedBlocks_inv {strict : Bool} {descriptor repaired : Descriptor} {scanned : Nat}
    {state reached : Image O × World}
    (h : perform (repairUsedBlocks strict descriptor scanned) state = (.ok repaired, reached)) :
    repaired = { descriptor with usedBlocks := scanned }
      ∧ Still state reached ∧ reached.2.disk = state.2.disk := by
  unfold repairUsedBlocks at h
  split at h
  · next heq =>
    cases h
    exact ⟨by rw [← heq], .refl state, rfl⟩
  · split at h
    · cases h
    · cases h
      exact ⟨rfl, warn_still _ state, rfl⟩

theorem reach_disk {stage : Stage} {state reached : Image O × World} {done : Unit}
    (h : perform (reach stage) state = (.ok done, reached)) : reached.2.disk = state.2.disk := by
  cases h
  rfl

/-! ### The two halves -/

/-- What a verification reads of the image, up to the number of its used blocks, and the opening of its overlay. -/
def survey (factor : Nat) : Action (Image O × World) Error (Descriptor × RecordLayout × BlockMap) := do
  require .opened
  let version ← onSource BlockMap.readVersion
  reach .headerValid
  let some format := Format.ofVersion? version | throw (.unsupportedVersion version)
  reach .versionSelected
  let (descriptor, layout) ← onSource (BlockMap.readDescriptor format)
  reach (.initialized descriptor layout)
  initOverlay descriptor.blockSize descriptor.totalBlocks
  let map ← onSource (BlockMap.load format layout descriptor.totalBlocks factor)
  let descriptor ← repairDeviceSize descriptor
  reach (.initialized descriptor layout)
  return (descriptor, layout, map)

/-- What is left of verification when the descriptor has the size of its device. -/
def settle (strict : Bool) (described : Descriptor) (layout : RecordLayout) (map : BlockMap) :
    Action (Image O × World) Error Unit := do
  let descriptor ← repairUsedBlocks strict described map.stats.used
  reach (.initialized descriptor layout)
  verifyOverlay
  update fun image => { image with stage := .verified descriptor map, cursor := 0, passed := 0 }

/-- **A verification surveys the image, and settles what it has found.** -/
theorem perform_verify_eq (state : Image O × World) :
    perform verify state = perform (survey state.1.options.factor >>= fun (descriptor, layout, map) =>
      settle state.1.options.strict descriptor layout map) state := by
  rw [survey, bind_assoc, verify, Action.perform_bind, Action.perform_bind, perform_require]
  cases state.1.ready .opened with
  | false => rfl
  | true =>
    rw [if_pos rfl]
    dsimp only
    rw [Action.perform_bind_ok (Action.perform_get state), bind_assoc]
    refine congrArg (fun next => perform (onSource BlockMap.readVersion >>= next) state) (funext fun version => ?_)
    rw [bind_assoc]
    refine congrArg (reach .headerValid >>= ·) (funext fun _ => ?_)
    cases Format.ofVersion? version with
    | none => rfl
    | some format =>
      simp only [bind_assoc, pure_bind]
      rfl

/-- **What a survey has found is in the image**, and nothing but the opening of the overlay has come between. -/
theorem survey_inv {factor : Nat} {sized : Descriptor} {layout : RecordLayout} {map : BlockMap}
    {start surveyed : Image O × World}
    (h : perform (survey factor) start = (.ok (sized, layout, map), surveyed)) :
    ∃ format described before attached, sized = described.repaired described.usedBlocks
      ∧ (∀ {bytes : Bytes}, start.1.source.backing.Agrees start.2.disk bytes →
        Descriptor.accepted? bytes = some (format, described, layout))
      ∧ (∀ {bytes : Bytes}, start.1.source.backing.Agrees surveyed.2.disk bytes →
        BlockMap.of? bytes format layout described.totalBlocks factor = some map)
      ∧ Plain start before
      ∧ perform (initOverlay described.blockSize described.totalBlocks) before = (.ok (), attached)
      ∧ Plain attached surveyed ∧ surveyed.1.stage = .initialized sized layout := by
  obtain ⟨_, state₁, hrequire, h⟩ := perform_bind_inv h
  rw [perform_require] at hrequire
  obtain ⟨-, rfl⟩ := Prod.mk.inj hrequire
  obtain ⟨version, state₂, hversion, h⟩ := perform_bind_inv h
  obtain ⟨_, state₃, hreach₃, h⟩ := perform_bind_inv h
  split at h
  case h_2 => cases h
  case h_1 format hformat =>
  obtain ⟨_, state₄, hreach₄, h⟩ := perform_bind_inv h
  obtain ⟨⟨described, _⟩, state₅, hdescribed, h⟩ := perform_bind_inv h
  obtain ⟨_, before, hreach₆, h⟩ := perform_bind_inv h
  obtain ⟨_, attached, hinit, h⟩ := perform_bind_inv h
  obtain ⟨_, state₈, hmap, h⟩ := perform_bind_inv h
  obtain ⟨resized, state₉, hresized, h⟩ := perform_bind_inv h
  obtain ⟨_, state₁₀, hreach₁₀, h⟩ := perform_bind_inv h
  cases h
  have hhead : Plain start state₄ :=
    ((onSource_plain [] BlockMap.extracts_version).of_perform hversion).trans <|
      ((reach_plain _).of_perform hreach₃).trans ((reach_plain _).of_perform hreach₄)
  have hbefore : Plain start before :=
    hhead.trans <| ((onSource_plain [] (BlockMap.extracts_descriptor format)).of_perform hdescribed).trans
      ((reach_plain _).of_perform hreach₆)
  have hloaded : Plain attached state₈ :=
    (onSource_plain [] (BlockMap.extracts_load format layout described.totalBlocks factor)).of_perform hmap
  obtain ⟨rfl, -, -⟩ := repairDeviceSize_inv hresized
  have hsurveyed : Plain state₈ surveyed :=
    ((repairDeviceSize_plain _).of_perform hresized).trans ((reach_plain _).of_perform hreach₁₀)
  have hsource : start.1.source.Later attached.1.source :=
    hbefore.source.trans ((initOverlay_still _ _).of_perform hinit).source
  have hstage : surveyed.1.stage = .initialized (described.repaired described.usedBlocks) layout := by
    cases hreach₁₀
    rfl
  refine ⟨format, described, before, attached, rfl, ?_, ?_, hbefore, hinit, hloaded.trans hsurveyed, hstage⟩
  · -- up to the descriptor the disk is the one that the handle was opened on
    intro bytes hagrees
    have hfitting := (onSource_inv bytes (BlockMap.extracts_descriptor format) hdescribed).1
      (by rw [hhead.source.backing, hhead.disk]; exact hagrees)
    rw [Descriptor.accepted?, (onSource_inv bytes BlockMap.extracts_version hversion).1 hagrees,
      Option.bind_eq_bind, Option.bind_some, hformat, Option.bind_eq_bind, Option.bind_some, hfitting]
    rfl
  · intro bytes hagrees
    refine (onSource_inv bytes (BlockMap.extracts_load format layout described.totalBlocks factor) hmap).1 ?_
    rw [hsource.backing, ← hloaded.disk, ← hsurveyed.disk]
    exact hagrees

/-- Once the bitmap is loaded, the number of used blocks is put right and the overlay checked. -/
theorem settle_inv {sized : Descriptor} {layout : RecordLayout} {map : BlockMap} {strict : Bool}
    {state verified : Image O × World}
    (h : perform (settle strict sized layout map) state = (.ok (), verified)) :
    Steady state verified
      ∧ verified.1.stage = .verified { sized with usedBlocks := map.stats.used } map
      ∧ verified.1.cursor = 0 ∧ verified.1.passed = 0
      ∧ (LawfulOverlay O → verified.2.disk = state.2.disk) := by
  obtain ⟨counted, state₁, hcounted, h⟩ := perform_bind_inv h
  obtain ⟨rfl, hstill₁, hdisk₁⟩ := repairUsedBlocks_inv hcounted
  obtain ⟨_, state₂, hreach₂, h⟩ := perform_bind_inv h
  obtain ⟨_, state₃, hverify, h⟩ := perform_bind_inv h
  have hsteady : Steady state state₃ :=
    hstill₁.steady.trans <| ((reach_steady _).of_perform hreach₂).trans
      (verifyOverlay_still.of_perform hverify).steady
  have hdisk : LawfulOverlay O → state₃.2.disk = state.2.disk := by
    intro _
    have hchecked := verifyOverlay_disk state₂
    rw [hverify] at hchecked
    rw [hchecked, reach_disk hreach₂, hdisk₁]
  cases h
  exact ⟨hsteady.trans ⟨.refl _, rfl⟩, rfl, rfl, rfl, hdisk⟩

/-! ### The whole -/

/-- A handle that was verified, and the one that was opened: `described` is what the head of the image
says, and `map` what its bitmap says, read when the disk was `loaded`. -/
structure VerifiedFrom (start verified : Image O × World) (format : Format)
    (described : Descriptor) (layout : RecordLayout) (map : BlockMap) (loaded : Disk) : Prop where
  steady : Steady start verified
  stage : verified.1.stage = .verified (described.repaired map.stats.used) map
  cursor : verified.1.cursor = 0
  passed : verified.1.passed = 0
  accepted : ∀ {bytes : Bytes}, start.1.source.backing.Agrees start.2.disk bytes →
    Descriptor.accepted? bytes = some (format, described, layout)
  mapped : ∀ {bytes : Bytes}, start.1.source.backing.Agrees loaded bytes →
    BlockMap.of? bytes format layout described.totalBlocks start.1.options.factor = some map
  disk : LawfulOverlay O → verified.2.disk = loaded

/-- **Verification leads to a handle that knows what its image says.** -/
theorem verifiedFrom_of_verify {start verified : Image O × World}
    (h : perform verify start = (.ok (), verified)) :
    ∃ format described layout map loaded,
      VerifiedFrom start verified format described layout map loaded := by
  rw [perform_verify_eq] at h
  obtain ⟨⟨sized, layout, map⟩, surveyed, hsurvey, h⟩ := perform_bind_inv h
  obtain ⟨format, described, before, attached, rfl, haccepted, hmapped, hbefore, hinit, hloaded, -⟩ :=
    survey_inv hsurvey
  obtain ⟨hsteady, hstage, hcursor, hpassed, hdisk⟩ := settle_inv h
  have hsurveyed : Steady start surveyed :=
    hbefore.toSteady.trans <| ((initOverlay_still _ _).of_perform hinit).steady.trans hloaded.toSteady
  exact ⟨format, described, layout, map, surveyed.2.disk, hsurveyed.trans hsteady, hstage, hcursor, hpassed,
    haccepted, hmapped, hdisk⟩

theorem VerifiedFrom.exists_fits {start verified : Image O × World} {format : Format}
    {described : Descriptor} {layout : RecordLayout} {map : BlockMap} {loaded : Disk}
    (h : VerifiedFrom start verified format described layout map loaded) :
    (∃ bytes, map.Fits bytes format layout described.totalBlocks) ∧ layout.Of format described :=
  ⟨⟨_, BlockMap.fits_of (h.mapped (start.1.source.backing.agrees_contents loaded))⟩,
    Descriptor.layout_of_accepted? (h.accepted (start.1.source.backing.agrees_contents _))⟩

theorem VerifiedFrom.suits {start verified : Image O × World} {format : Format}
    {described : Descriptor} {layout : RecordLayout} {map : BlockMap} {loaded : Disk}
    (h : VerifiedFrom start verified format described layout map loaded) :
    map.Suits (described.repaired map.stats.used) := by
  obtain ⟨⟨bytes, hfits⟩, hlayout⟩ := h.exists_fits
  exact hfits.suits (hlayout.repaired _) rfl

/-! ### Images that are verified -/

theorem Plain.delivers {before after : Image O × World} (h : Plain before after) {bytes : Bytes}
    (hbefore : before.1.source.Delivers before.2.disk bytes) :
    after.1.source.Delivers after.2.disk bytes := by
  rw [h.disk]
  exact hbefore.later h.source

theorem onSource_ok {α : Type} {bytes : Bytes} {act : Action (Source × World) Error α}
    {value : α} (hact : Extracts bytes act (some value)) {state : Image O × World}
    (hdelivers : state.1.source.Delivers state.2.disk bytes) :
    ∃ reached, perform (onSource act) state = (.ok value, reached) ∧ Plain state reached := by
  have hvalue : (perform act (state.1.source, state.2)).1 = .ok value :=
    hact.complete hdelivers rfl
  refine ⟨(perform (onSource act) state).2, Prod.ext ?_ rfl, onSource_plain bytes hact state⟩
  exact Action.mapError_eq_ok_iff.mpr hvalue

theorem reach_ok (stage : Stage) (state : Image O × World) :
    ∃ reached, perform (reach stage) state = (.ok (), reached) ∧ Plain state reached :=
  ⟨_, rfl, reach_plain stage state⟩

/-- No overlay is opened for reading only, or for writing if none is configured. -/
theorem initOverlay_ok (state : Image O × World)
    (hmode : state.1.options.mode = .readOnly
      ∨ state.1.options.mode = .readWrite ∧ state.1.overlayPath = none)
    (blockSize totalBlocks : Nat) :
    perform (initOverlay blockSize totalBlocks) state = (.ok (), state) := by
  rw [initOverlay, Action.perform_bind_ok (Action.perform_get state)]
  dsimp only
  rcases hmode with hmode | ⟨hmode, hpath⟩
  · rw [hmode]
    rfl
  · rw [hmode, hpath]
    rfl

theorem repairDeviceSize_ok (descriptor : Descriptor) (state : Image O × World) :
    ∃ reached, perform (repairDeviceSize descriptor) state
        = (.ok (descriptor.repaired descriptor.usedBlocks), reached) ∧ Plain state reached := by
  unfold repairDeviceSize
  dsimp only
  split
  · next heq => exact ⟨state, by rw [Descriptor.repaired, ← heq]; rfl, .refl state⟩
  · exact ⟨_, rfl, ⟨.refl _, rfl⟩, rfl, rfl, rfl, rfl⟩

theorem repairUsedBlocks_ok {strict : Bool} (descriptor : Descriptor) {scanned : Nat}
    (hstrict : strict = true → descriptor.usedBlocks = scanned) (state : Image O × World) :
    ∃ reached, perform (repairUsedBlocks strict descriptor scanned) state
        = (.ok { descriptor with usedBlocks := scanned }, reached)
      ∧ Plain state reached := by
  unfold repairUsedBlocks
  split
  · next heq => exact ⟨state, by rw [← heq]; rfl, .refl state⟩
  · next hne =>
    cases strict with
    | true => exact absurd (hstrict rfl) hne
    | false => exact ⟨_, rfl, ⟨.refl _, rfl⟩, rfl, rfl, rfl, rfl⟩

theorem verifyOverlay_ok (state : Image O × World) (h : state.1.overlay = none) :
    perform verifyOverlay state = (.ok (), state) := by
  rw [verifyOverlay, Action.perform_bind_ok (Action.perform_get state), h]
  rfl

/-- **An image whose head and bitmap are in order is verified up to the number of its used blocks**, if its overlay is
opened. -/
theorem exists_settle {start : Image O × World} {bytes : Bytes} (hopened : start.1.stage = .opened)
    (hdelivers : start.1.source.Delivers start.2.disk bytes)
    {format : Format} {described : Descriptor} {layout : RecordLayout} {map : BlockMap}
    (haccepted : Descriptor.accepted? bytes = some (format, described, layout))
    (hmap : BlockMap.of? bytes format layout described.totalBlocks start.1.options.factor = some map)
    {post : Image O × World → Prop}
    (hoverlay : ∀ before, Plain start before → ∃ attached,
      perform (initOverlay described.blockSize described.totalBlocks) before = (.ok (), attached)
        ∧ Steady before attached ∧ attached.2.disk = before.2.disk ∧ post attached) :
    ∃ attached loaded, post attached ∧ Plain attached loaded
      ∧ perform verify start
        = perform (settle start.1.options.strict (described.repaired described.usedBlocks) layout map) loaded := by
  obtain ⟨version, hversion, hformat, hfitting⟩ := Descriptor.accepted?_eq_some_iff.mp haccepted
  have hrequire : perform (require .opened) start = (.ok (), start) := by
    rw [perform_require, ready, hopened]
    rfl
  obtain ⟨state₁, hrun₁, hplain₁⟩ :=
    onSource_ok (hversion ▸ BlockMap.extracts_version) hdelivers
  obtain ⟨state₂, hrun₂, hplain₂⟩ := reach_ok .headerValid state₁
  obtain ⟨state₃, hrun₃, hplain₃⟩ := reach_ok .versionSelected state₂
  have hhead : Plain start state₃ := hplain₁.trans (hplain₂.trans hplain₃)
  obtain ⟨state₄, hrun₄, hplain₄⟩ :=
    onSource_ok (hfitting ▸ BlockMap.extracts_descriptor format) (hhead.delivers hdelivers)
  obtain ⟨state₅, hrun₅, hplain₅⟩ := reach_ok (.initialized described layout) state₄
  have hdescribed : Plain start state₅ := hhead.trans (hplain₄.trans hplain₅)
  obtain ⟨attached, hinit, hsteady, hdisk, hpost⟩ := hoverlay state₅ hdescribed
  have hattached : attached.1.source.Delivers attached.2.disk bytes := by
    rw [hdisk]
    exact (hdescribed.delivers hdelivers).later hsteady.source
  obtain ⟨state₆, hrun₆, hplain₆⟩ :=
    onSource_ok (hmap ▸ BlockMap.extracts_load format layout described.totalBlocks
      start.1.options.factor) hattached
  obtain ⟨state₇, hrun₇, hplain₇⟩ := repairDeviceSize_ok described state₆
  obtain ⟨state₈, hrun₈, hplain₈⟩ := reach_ok
    (.initialized (described.repaired described.usedBlocks) layout) state₇
  refine ⟨attached, state₈, hpost, hplain₆.trans (hplain₇.trans hplain₈), ?_⟩
  rw [verify, Action.perform_bind_ok hrequire, Action.perform_bind_ok (Action.perform_get start)]
  dsimp only
  rw [Action.perform_bind_ok hrun₁, Action.perform_bind_ok hrun₂, hformat]
  dsimp only
  rw [Action.perform_bind_ok hrun₃, Action.perform_bind_ok hrun₄]
  dsimp only
  rw [Action.perform_bind_ok hrun₅, Action.perform_bind_ok hinit, Action.perform_bind_ok hrun₆,
    Action.perform_bind_ok hrun₇, Action.perform_bind_ok hrun₈]
  rfl

/-- **An image whose head and bitmap are in order is verified**, if its overlay is opened and verified. -/
theorem exists_verify_of {start : Image O × World} {bytes : Bytes} (hopened : start.1.stage = .opened)
    (hdelivers : start.1.source.Delivers start.2.disk bytes)
    {format : Format} {described : Descriptor} {layout : RecordLayout} {map : BlockMap}
    (haccepted : Descriptor.accepted? bytes = some (format, described, layout))
    (hmap : BlockMap.of? bytes format layout described.totalBlocks start.1.options.factor = some map)
    (hstrict : start.1.options.strict = true → described.usedBlocks = map.stats.used)
    {post : Image O × World → Prop}
    (hoverlay : ∀ before, Plain start before → ∃ attached,
      perform (initOverlay described.blockSize described.totalBlocks) before = (.ok (), attached)
        ∧ Steady before attached ∧ attached.2.disk = before.2.disk
        ∧ ∀ loaded, Plain attached loaded →
          ∃ checked, perform verifyOverlay loaded = (.ok (), checked) ∧ post checked) :
    ∃ checked, perform verify start = (.ok (), { checked.1 with
        stage := .verified (described.repaired map.stats.used) map, cursor := 0, passed := 0 }, checked.2)
      ∧ post checked := by
  obtain ⟨attached, state₁, hverified, hplain₁, hverify⟩ :=
    exists_settle hopened hdelivers haccepted hmap hoverlay
  obtain ⟨state₂, hrun₂, hplain₂⟩ : ∃ reached,
      perform (repairUsedBlocks start.1.options.strict (described.repaired described.usedBlocks)
        map.stats.used) state₁ = (.ok (described.repaired map.stats.used), reached)
      ∧ Plain state₁ reached :=
    repairUsedBlocks_ok (described.repaired described.usedBlocks) hstrict state₁
  obtain ⟨state₃, hrun₃, hplain₃⟩ := reach_ok
    (.initialized (described.repaired map.stats.used) layout) state₂
  obtain ⟨checked, hchecked, hpost⟩ := hverified state₃ (hplain₁.trans (hplain₂.trans hplain₃))
  refine ⟨checked, ?_, hpost⟩
  rw [hverify, settle, Action.perform_bind_ok hrun₂, Action.perform_bind_ok hrun₃,
    Action.perform_bind_ok hchecked]
  rfl

/-- Without an overlay to be opened there is nothing that could fail. -/
theorem exists_initOverlay {start : Image O × World}
    (hmode : start.1.options.mode = .readOnly
      ∨ start.1.options.mode = .readWrite ∧ start.1.overlayPath = none) (blockSize totalBlocks : Nat) :
    ∀ before, Plain start before → ∃ attached,
      perform (initOverlay blockSize totalBlocks) before = (.ok (), attached)
        ∧ Steady before attached ∧ attached.2.disk = before.2.disk ∧ Plain start attached := by
  intro before hbefore
  exact ⟨before, initOverlay_ok before (by rw [hbefore.options, hbefore.overlayPath]; exact hmode) _ _,
    .refl _, rfl, hbefore⟩

/-- **An image whose head and bitmap are in order is verified**, if no overlay is to be opened. -/
theorem exists_verify {start : Image O × World} {bytes : Bytes}
    (hopened : start.1.stage = .opened) (hoverlay : start.1.overlay = none)
    (hmode : start.1.options.mode = .readOnly
      ∨ start.1.options.mode = .readWrite ∧ start.1.overlayPath = none)
    (hdelivers : start.1.source.Delivers start.2.disk bytes)
    {format : Format} {described : Descriptor} {layout : RecordLayout} {map : BlockMap}
    (haccepted : Descriptor.accepted? bytes = some (format, described, layout))
    (hmap : BlockMap.of? bytes format layout described.totalBlocks start.1.options.factor
      = some map)
    (hstrict : start.1.options.strict = true → described.usedBlocks = map.stats.used) :
    ∃ verified, perform verify start = (.ok (), verified) ∧ Plain start verified
      ∧ verified.1.stage = .verified (described.repaired map.stats.used) map := by
  have hsettles : ∀ before, Plain start before → ∃ attached,
      perform (initOverlay described.blockSize described.totalBlocks) before = (.ok (), attached)
        ∧ Steady before attached ∧ attached.2.disk = before.2.disk
        ∧ ∀ loaded, Plain attached loaded →
          ∃ checked, perform verifyOverlay loaded = (.ok (), checked) ∧ Plain start checked := by
    intro before hbefore
    obtain ⟨attached, hinit, hsteady, hdisk, hattached⟩ := exists_initOverlay hmode _ _ before hbefore
    refine ⟨attached, hinit, hsteady, hdisk, fun loaded hloaded => ?_⟩
    have hplain := hattached.trans hloaded
    exact ⟨loaded, verifyOverlay_ok loaded (hplain.overlay.trans hoverlay), hplain⟩
  obtain ⟨checked, hverify, hplain⟩ :=
    exists_verify_of hopened hdelivers haccepted hmap hstrict hsettles
  exact ⟨_, hverify, ⟨⟨hplain.source, hplain.options⟩, hplain.overlay, hplain.overlayPath, hplain.setup,
    hplain.disk⟩, rfl⟩

/-- **If descriptors are taken strictly, an image is refused that is in order but for the number of its used
blocks.** -/
theorem verify_refuses {start : Image O × World} {bytes : Bytes} (hopened : start.1.stage = .opened)
    (hmode : start.1.options.mode = .readOnly
      ∨ start.1.options.mode = .readWrite ∧ start.1.overlayPath = none)
    (hdelivers : start.1.source.Delivers start.2.disk bytes)
    {format : Format} {described : Descriptor} {layout : RecordLayout} {map : BlockMap}
    (haccepted : Descriptor.accepted? bytes = some (format, described, layout))
    (hmap : BlockMap.of? bytes format layout described.totalBlocks start.1.options.factor
      = some map)
    (hstrict : start.1.options.strict = true) (hstale : described.usedBlocks ≠ map.stats.used) :
    ∃ refused, perform verify start = (.error (.usedBlockCount described.usedBlocks map.stats.used), refused)
      ∧ Plain start refused := by
  obtain ⟨attached, loaded, hattached, hplain, hverify⟩ :=
    exists_settle hopened hdelivers haccepted hmap (exists_initOverlay hmode _ _)
  have hrefuse : perform (repairUsedBlocks true (described.repaired described.usedBlocks) map.stats.used) loaded
      = (.error (.usedBlockCount described.usedBlocks map.stats.used), loaded) := by
    have hne : (described.repaired described.usedBlocks).usedBlocks ≠ map.stats.used := hstale
    rw [repairUsedBlocks, if_neg hne]
    rfl
  refine ⟨loaded, ?_, hattached.trans hplain⟩
  rw [hverify, hstrict, settle, Action.perform_bind_error hrefuse]

end Image

end PartitionImage
