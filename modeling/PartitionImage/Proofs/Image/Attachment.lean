import PartitionImage.Proofs.ChangeFile.Attached
import PartitionImage.Proofs.Image.Steps
/-!
# The overlay of a verified image

Verification opens the overlay as the mode says.  Whatever there was under its path, the handle that comes out of
it has a change file that is whole or none at all, and the image is safe from it.

* `Image.Aside` is what the steps leave alone that have nothing to do with the overlay; `Image.verify_inv` takes
  verification apart into those and the two that have, `Image.verify_maintains` is about what they keep.
* `Image.guards_of_verify` is what is known of the overlay of a verified handle.
-/

namespace PartitionImage

open PartitionImage.Action (Respects Maintains perform perform_bind_inv)
open ChangeFile (Foreign Silent Spares Ends Opened wholeLength)

/-- An image has another magic than a change file. -/
theorem ChangeFile.decode?_of_accepted {bytes : Bytes} {format : Format} {descriptor : Descriptor}
    {layout : RecordLayout} (h : Descriptor.accepted? bytes = some (format, descriptor, layout)) :
    0 < bytes.length ∧ Header.decode? (bytes.slice 0 headerSize) = none := by
  obtain ⟨version, hversion, -, -⟩ := Descriptor.accepted?_eq_some_iff.mp h
  obtain ⟨head, hhead, hidentify⟩ := Option.bind_eq_some_iff.mp hversion
  obtain ⟨rfl, hlength⟩ := Bytes.range?_eq_some hhead
  have hmagic : bytes.slice 0 15 = Descriptor.imageMagic := by
    have hok := Action.toOption_eq_some_iff.mp hidentify
    unfold Descriptor.identify at hok
    split at hok
    · cases hok
    · split at hok
      · cases hok
      · next hmagic =>
        rw [← Decidable.not_not.mp hmagic, Bytes.slice_slice _ _ _ (by decide)]
  constructor
  · rw [Bytes.length_slice, Descriptor.headSize] at hlength
    omega
  · have hstart : bytes.slice 0 8 = Descriptor.imageMagic.slice 0 8 := by
      rw [← hmagic, Bytes.slice_slice _ _ _ (by decide)]
    have hother : (bytes.slice 0 headerSize).slice 0 8 ≠ magic := by
      rw [Bytes.slice_slice _ _ _ (by decide), hstart]
      decide
    unfold Header.decode?
    dsimp only
    split
    · rfl
    · exact if_neg fun h => hother h.1

theorem ChangeFile.foreign_of_accepted {disk : Disk} {id : FileId} {format : Format}
    {descriptor : Descriptor} {layout : RecordLayout}
    (h : Descriptor.accepted? (disk.content id) = some (format, descriptor, layout))
    (blockSize totalBlocks : Nat) : Foreign blockSize totalBlocks disk id := by
  obtain ⟨hnonempty, hheader⟩ := decode?_of_accepted h
  refine ⟨?_, .inl ?_⟩
  · rw [Disk.length_eq]
    exact hnonempty
  · rw [hheader]
    exact fun h => by cases h

namespace Image

/-! ### The steps of verification -/

section

variable {O : Type} [Overlay O]

/-- What the steps leave alone that do not open the overlay. -/
structure Aside (before after : Image O × World) : Prop where
  source : before.1.source.Later after.1.source
  path : after.1.path = before.1.path
  options : after.1.options = before.1.options
  overlayPath : after.1.overlayPath = before.1.overlayPath
  overlay : after.1.overlay = before.1.overlay
  overlayVerified : after.1.overlayVerified = before.1.overlayVerified
  disk : after.2.disk = before.2.disk

theorem Aside.refl (state : Image O × World) : Aside state state :=
  ⟨.refl _, rfl, rfl, rfl, rfl, rfl, rfl⟩

theorem Aside.trans {a b c : Image O × World} (hab : Aside a b) (hbc : Aside b c) : Aside a c :=
  ⟨hab.source.trans hbc.source, hbc.path.trans hab.path, hbc.options.trans hab.options,
    hbc.overlayPath.trans hab.overlayPath, hbc.overlay.trans hab.overlay,
    hbc.overlayVerified.trans hab.overlayVerified, hbc.disk.trans hab.disk⟩

instance : Std.Refl (Aside (O := O)) := ⟨Aside.refl⟩

instance : Trans (Aside (O := O)) Aside Aside := ⟨Aside.trans⟩

theorem onSource_aside {α : Type} (bytes : Bytes) {act : Action (Source × World) Error α}
    {found? : Option α} (hact : Source.Extracts bytes act found?) :
    Respects Aside (onSource (O := O) act) := by
  intro state
  have honward := hact.onward (state.1.source, state.2)
  exact ⟨honward.later, rfl, rfl, rfl, rfl, rfl, honward.disk⟩

theorem reach_aside (stage : Stage) : Respects Aside (reach (O := O) stage) :=
  .change fun _ => ⟨.refl _, rfl, rfl, rfl, rfl, rfl, rfl⟩

theorem warn_aside (warning : Warning) :
    Respects Aside (Action.warn (σ := Image O) (ε := Error) warning) :=
  .change fun _ => ⟨.refl _, rfl, rfl, rfl, rfl, rfl, rfl⟩

theorem repairDeviceSize_aside (descriptor : Descriptor) :
    Respects Aside (repairDeviceSize (O := O) descriptor) := by
  unfold repairDeviceSize
  dsimp only
  split
  · exact .pure _
  · exact .bind (warn_aside _) fun _ => .pure _

theorem repairUsedBlocks_aside (strict : Bool) (descriptor : Descriptor) (scanned : Nat) :
    Respects Aside (repairUsedBlocks (O := O) strict descriptor scanned) := by
  unfold repairUsedBlocks
  split
  · exact .pure _
  · split
    · exact .bind (.throw _) fun _ => .bind (warn_aside _) fun _ => .pure _
    · exact .bind (warn_aside _) fun _ => .pure _

/-- **Verification opens the overlay and verifies it; every other step leaves it alone.** -/
theorem verify_inv {start verified : Image O × World}
    (h : perform verify start = (.ok (), verified)) :
    ∃ descriptor map before opened loaded checked,
      Aside start before
        ∧ perform (initOverlay descriptor.blockSize descriptor.totalBlocks) before = (.ok (), opened)
        ∧ Aside opened loaded ∧ perform verifyOverlay loaded = (.ok (), checked)
        ∧ Aside checked verified ∧ verified.1.stage = .verified descriptor map := by
  unfold verify at h
  obtain ⟨_, state₁, hrequire, h⟩ := perform_bind_inv h
  rw [perform_require] at hrequire
  obtain ⟨-, rfl⟩ := Prod.mk.inj hrequire
  rw [Action.perform_bind_ok (Action.perform_get _)] at h
  dsimp only at h
  obtain ⟨version, state₂, hversion, h⟩ := perform_bind_inv h
  obtain ⟨_, state₃, hreach₃, h⟩ := perform_bind_inv h
  split at h
  case h_2 => cases h
  case h_1 format hformat =>
  obtain ⟨_, state₄, hreach₄, h⟩ := perform_bind_inv h
  obtain ⟨⟨described, layout⟩, state₅, hdescribed, h⟩ := perform_bind_inv h
  obtain ⟨_, state₆, hreach₆, h⟩ := perform_bind_inv h
  obtain ⟨_, state₇, hinit, h⟩ := perform_bind_inv h
  obtain ⟨map, state₈, hmap, h⟩ := perform_bind_inv h
  obtain ⟨resized, state₉, hresized, h⟩ := perform_bind_inv h
  obtain ⟨_, state₁₀, hreach₁₀, h⟩ := perform_bind_inv h
  obtain ⟨counted, state₁₁, hcounted, h⟩ := perform_bind_inv h
  obtain ⟨_, state₁₂, hreach₁₂, h⟩ := perform_bind_inv h
  obtain ⟨_, state₁₃, hverify, h⟩ := perform_bind_inv h
  have hsize : counted.blockSize = described.blockSize ∧ counted.totalBlocks = described.totalBlocks := by
    obtain ⟨rfl, -, -⟩ := repairDeviceSize_inv hresized
    obtain ⟨rfl, -, -⟩ := repairUsedBlocks_inv hcounted
    exact ⟨rfl, rfl⟩
  have hbefore : Aside start state₆ :=
    ((onSource_aside [] BlockMap.extracts_version).of_perform hversion).trans <|
      ((reach_aside _).of_perform hreach₃).trans <| ((reach_aside _).of_perform hreach₄).trans <|
        ((onSource_aside [] (BlockMap.extracts_descriptor format)).of_perform hdescribed).trans
          ((reach_aside _).of_perform hreach₆)
  have hloaded : Aside state₇ state₁₂ :=
    ((onSource_aside [] (BlockMap.extracts_load format layout described.totalBlocks _)).of_perform
        hmap).trans <|
      ((repairDeviceSize_aside _).of_perform hresized).trans <|
        ((reach_aside _).of_perform hreach₁₀).trans <|
          ((repairUsedBlocks_aside _ _ _).of_perform hcounted).trans
            ((reach_aside _).of_perform hreach₁₂)
  cases h
  refine ⟨counted, map, state₆, state₇, state₁₂, state₁₃, hbefore, ?_, hloaded, hverify,
    ⟨.refl _, rfl, rfl, rfl, rfl, rfl, rfl⟩, rfl⟩
  rw [hsize.1, hsize.2]
  exact hinit

theorem require_aside (required : Readiness) : Respects Aside (require (O := O) required) := by
  intro state
  rw [perform_require]
  exact .refl state

/-- **What depends on the overlay alone is kept by verification if opening and verifying the overlay keep it.** -/
theorem verify_maintains {inv : Image O × World → Prop}
    (haside : ∀ {before after}, Aside before after → inv before → inv after)
    (hinit : ∀ blockSize totalBlocks, Respects (Maintains inv) (initOverlay blockSize totalBlocks))
    (hverify : Respects (Maintains inv) verifyOverlay) : Respects (Maintains inv) (verify (O := O)) := by
  have hkeeps : ∀ {α : Type} {act : Action (Image O × World) Error α},
      Respects Aside act → Respects (Maintains inv) act := fun hact state => haside (hact state)
  refine .bind (hkeeps (require_aside _)) fun _ => .bind .get fun _ =>
    .bind (hkeeps (onSource_aside [] BlockMap.extracts_version)) fun version =>
      .bind (hkeeps (reach_aside _)) fun _ => ?_
  split
  · next format _ =>
    exact .bind (hkeeps (reach_aside _)) fun _ =>
      .bind (hkeeps (onSource_aside [] (BlockMap.extracts_descriptor format))) fun (descriptor, layout) =>
        .bind (hkeeps (reach_aside _)) fun _ => .bind (hinit _ _) fun _ =>
          .bind (hkeeps (onSource_aside [] (BlockMap.extracts_load format layout _ _))) fun _ =>
            .bind (hkeeps (repairDeviceSize_aside _)) fun _ => .bind (hkeeps (reach_aside _)) fun _ =>
              .bind (hkeeps (repairUsedBlocks_aside _ _ _)) fun _ => .bind (hkeeps (reach_aside _)) fun _ =>
                .bind hverify fun _ => .change fun _ => haside ⟨.refl _, rfl, rfl, rfl, rfl, rfl, rfl⟩
  · exact .throw _

theorem Aside.route {before after : Image O × World} (h : Aside before after) :
    after.1.route = before.1.route := by
  rw [Image.route, Image.route, h.overlayPath, h.path]

end

/-! ### The overlay -/

variable {state opened : Image ChangeFile × World} {blockSize totalBlocks : Nat}

/-- What the opening of the overlay leaves: no overlay but the one at the path, foreign files, and where no
overlay was opened although one could have been expected, none that holds a block. -/
structure OverlayOpened (blockSize totalBlocks : Nat) (before after : Image ChangeFile × World) : Prop where
  source : after.1.source = before.1.source
  route : after.1.route = before.1.route
  spares : Spares blockSize totalBlocks before.2.disk after.2.disk
  opened : ∀ file, after.1.overlay = some file →
    Opened before.1.route blockSize totalBlocks before.2.disk after.2.disk file
  silent : before.1.options.mode.settles before.1.overlayPath = true → after.1.overlay = none →
    Silent before.1.route blockSize totalBlocks after.2.disk

/-- **The overlay is opened as the mode says.** -/
theorem initOverlay_inv (hsound : state.2.disk.Sound) (hnone : state.1.overlay = none)
    (h : perform (initOverlay blockSize totalBlocks) state = (.ok (), opened)) :
    OverlayOpened blockSize totalBlocks state opened := by
  have hother : ∀ file, state.1.overlay ≠ some file := by
    intro file hfile
    cases hnone.symm.trans hfile
  cases initEnd_of_perform h with
  | unasked hmode =>
    refine ⟨rfl, rfl, .refl _, fun file hfile => absurd hfile (hother file), fun hsettles => ?_⟩
    rcases hmode with hmode | ⟨hmode, hpath⟩
    · rw [hmode] at hsettles
      cases hsettles
    · rw [hmode, hpath] at hsettles
      cases hsettles
  | opened hmode hinit =>
    have hends := ChangeFile.init_end hsound hinit
    refine ⟨rfl, rfl, hends.spares, ?_, fun _ hno => by cases hno⟩
    rintro _ ⟨⟩
    exact hends.opened _ rfl
  | missing hmode hinit =>
    have hends := ChangeFile.init_end hsound hinit
    obtain rfl : state.2.disk = _ := (ChangeFile.init_disk _ _ _ _).symm.trans (congrArg Prod.snd hinit)
    exact ⟨rfl, rfl, hends.spares, fun file hfile => absurd hfile (hother file),
      fun _ _ => ChangeFile.silent_of_error (congrArg Prod.fst hinit)⟩
  | made hmode hcreate =>
    have hends := ChangeFile.create_ends hsound hcreate
    refine ⟨rfl, rfl, hends.spares, ?_, fun _ hno => by cases hno⟩
    rintro _ ⟨⟩
    exact hends.opened _ rfl

theorem verifyOverlay_inv {checked : Image ChangeFile × World}
    (h : perform verifyOverlay state = (.ok (), checked)) :
    checked.1.source = state.1.source ∧ checked.1.route = state.1.route
      ∧ checked.1.overlay = state.1.overlay ∧ checked.2.disk = state.2.disk
      ∧ ∀ file, state.1.overlay = some file →
        ChangeFile.Spans file.blockSize file.totalBlocks (state.2.disk.length file.file) := by
  cases verifyEnd_of_perform h with
  | absent hnone => exact ⟨rfl, rfl, rfl, rfl, fun file hfile => by cases hnone.symm.trans hfile⟩
  | whole hstore hverify =>
    obtain ⟨hspans, hsame⟩ := Prod.mk.inj ((ChangeFile.perform_verify _ _).symm.trans hverify)
    cases hsame
    refine ⟨rfl, rfl, hstore.symm, rfl, fun file hfile => ?_⟩
    obtain rfl := Option.some.inj (hstore.symm.trans hfile)
    exact ChangeFile.verdict_eq_ok_iff.mp hspans

/-! ### A verified handle -/

/-- What does not change while a handle is used whose descriptor is known. -/
def groundOf (start : Image ChangeFile × World) (descriptor : Descriptor) : Ground where
  source := start.1.source
  disk := start.2.disk
  path := start.1.route
  blockSize := descriptor.blockSize
  totalBlocks := descriptor.totalBlocks
  mode := start.1.options.mode
  configured := start.1.overlayPath

/-- **Whatever is under the path of the overlay, the source of a handle that was verified is safe from it.** -/
theorem guards_of_verify {start verified : Image ChangeFile × World}
    (hverify : perform verify start = (.ok (), verified)) (hnone : start.1.overlay = none)
    (hsound : start.2.disk.Sound) (hbounded : start.2.disk.Bounded) {descriptor : Descriptor}
    {map : BlockMap} (hstage : verified.1.stage = .verified descriptor map) :
    verified.1.route = start.1.route
      ∧ (groundOf start descriptor).Guards verified.1.source verified.1.overlay verified.2.disk := by
  obtain ⟨descriptor', map', before, opened, loaded, checked, hbefore, hinit, hloaded, hcheck, hchecked,
    hstage'⟩ := verify_inv hverify
  obtain ⟨rfl, rfl⟩ := Stage.verified.inj (hstage.symm.trans hstage')
  obtain ⟨format, described, layout, map, disk, hfrom⟩ := verifiedFrom_of_verify hverify
  have hroute : before.1.route = start.1.route := hbefore.route
  have hopened := initOverlay_inv (by rw [hbefore.disk]; exact hsound) (hbefore.overlay.trans hnone) hinit
  obtain ⟨hsource, hkeeps, hoverlay, hdisk, hlength⟩ := verifyOverlay_inv hcheck
  have hsafe : (groundOf start descriptor).Safe start.1.source start.2.disk := by
    refine ⟨.refl _, hsound, hbounded, ?_, fun _ _ => rfl⟩
    intro id hid
    have hbacking : start.1.source.backing = .file id := (Ground.file?_eq_some_iff.mp hid).1
    have hagrees := Backing.agrees_contents (.file id) start.2.disk
    exact ChangeFile.foreign_of_accepted (hfrom.accepted (hbacking ▸ hagrees)) _ _
  have hbase : before.2.disk = start.2.disk := hbefore.disk
  have hspares := hbase ▸ hopened.spares
  have hopening := hopened.opened
  have hsilent := hopened.silent
  rw [hroute, hbase] at hopening
  rw [hroute, hbefore.options, hbefore.overlayPath] at hsilent
  have hlater : start.1.source.Later verified.1.source := by
    have hloaded' := hloaded.source
    have hchecked' := hchecked.source
    rw [hopened.source] at hloaded'
    rw [hsource] at hchecked'
    exact (hbefore.source.trans hloaded').trans hchecked'
  have hfinal : verified.1.overlay = opened.1.overlay := by
    rw [hchecked.overlay, hoverlay, hloaded.overlay]
  have hend : verified.2.disk = opened.2.disk := by
    rw [hchecked.disk, hdisk, hloaded.disk]
  refine ⟨?_, hend ▸ (hsafe.spared hspares).read hlater, ?_, ?_⟩
  · rw [hchecked.route, hkeeps, hloaded.route, hopened.route, hroute]
  · intro file hfile
    have hloadedFile : loaded.1.overlay = some file := by rw [hloaded.overlay, ← hfinal, hfile]
    have hfound := hopening file (hfinal ▸ hfile)
    have hroom := hlength file hloadedFile
    rw [hfound.blockSize_eq, hfound.totalBlocks_eq, hloaded.disk] at hroom
    rw [hend]
    exact hsafe.attached hspares hfound hroom.room
  · intro hsettled hnone
    rw [hend]
    exact hsilent hsettled (hfinal ▸ hnone)

end Image

end PartitionImage
