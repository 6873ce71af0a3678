import PartitionImage.Proofs.Harmless
import PartitionImage.Proofs.Image.Mount
/-!
# What a partition image leaves alone

A handle has an overlay from the moment when its geometry is known, and uses it from the moment when it is verified.
In between the store that was opened may be one that is cut short; it is clean then, so that nothing is written to
it when the handle is let go of.

* `Image.shape?` is the geometry that an image has for its overlay.
* `Image.Sparing` is what a verification keeps, `Image.verify_leads` says so.
* `Image.unverified` is what there is to say of a handle before it is verified.
-/

namespace PartitionImage

open PartitionImage.Action (Leads Respects perform perform_bind_error perform_bind_ok)
open ChangeFile (Header Own Pending Spared Step Unusable verdict verdict_eq_ok_iff writes_step)

namespace Image

variable {known? : Option Header} {geometry : Header} {start state reached : Image ChangeFile × World}
  {bytes : Bytes}

/-- The geometry of an image, if its descriptor can be read. -/
def shape? (bytes : Bytes) : Option Header :=
  (Descriptor.accepted? bytes).map fun (_, descriptor, _) =>
    ⟨descriptor.blockSize, descriptor.totalBlocks⟩

/-- A handle that was opened in the state `start`.  Before the geometry is known nothing has happened to the disk; a
store is clean before the handle is verified, and the handle's own afterwards. -/
structure Sparing (known? : Option Header) (start state : Image ChangeFile × World) : Prop where
  source : start.1.source.Later state.1.source
  route : state.1.route = start.1.route
  spared : Spared known? start.2.disk state.2.disk
  early : state.1.stage.descriptor? = none → state.1.overlay = none ∧ state.2.disk = start.2.disk
  described : ∀ descriptor, state.1.stage.descriptor? = some descriptor →
    known? = some ⟨descriptor.blockSize, descriptor.totalBlocks⟩
  clean : state.1.stage.isVerified = false → ∀ file, state.1.overlay = some file → file.dirty = false
  own : state.1.stage.isVerified = true → ∀ file, state.1.overlay = some file →
    Own known? start.2.disk start.1.route file

theorem Sparing.refl (hopened : start.1.stage = .opened) (hnone : start.1.overlay = none)
    (hsound : start.2.disk.Sound) : Sparing known? start start := by
  have hno : ∀ file, start.1.overlay ≠ some file := fun file hfile => by cases hnone.symm.trans hfile
  refine ⟨.refl _, rfl, .refl hsound, fun _ => ⟨hnone, rfl⟩, fun descriptor hknown => ?_,
    fun _ file hfile => absurd hfile (hno file), fun _ file hfile => absurd hfile (hno file)⟩
  rw [hopened] at hknown
  cases hknown

/-! ### Verifying -/

theorem Sparing.same (h : Sparing known? start state) (hsame : Uses Eq state reached) :
    Sparing known? start reached := by
  obtain ⟨hoverlay, hdisk⟩ := Prod.mk.inj hsame.used.eq
  refine ⟨h.source.trans hsame.source, hsame.route.trans h.route, ?_, ?_, ?_, ?_, ?_⟩
  · rw [hdisk]
    exact h.spared
  · rw [hsame.stage, hoverlay, hdisk]
    exact h.early
  · rw [hsame.stage]
    exact h.described
  · rw [hsame.stage, hoverlay]
    exact h.clean
  · rw [hsame.stage, hoverlay]
    exact h.own

/-- The handle before its descriptor is read. -/
structure Early (known? : Option Header) (start state : Image ChangeFile × World) : Prop
    extends Sparing known? start state where
  unknown : state.1.stage.descriptor? = none

/-- The handle once its overlay was opened: there may be a store, which is not verified yet. -/
structure Waiting (geometry : Header) (start state : Image ChangeFile × World) : Prop
    extends Sparing (some geometry) start state where
  initialized : ∃ descriptor layout, state.1.stage = .initialized descriptor layout
  pending : ∀ file, state.1.overlay = some file →
    Pending geometry start.2.disk start.1.route state.2.disk file

theorem Early.same (h : Early known? start state) (hsame : Uses Eq state reached) : Early known? start reached :=
  ⟨h.toSparing.same hsame, by rw [hsame.stage]; exact h.unknown⟩

theorem Waiting.same (h : Waiting geometry start state) (hsame : Uses Eq state reached) :
    Waiting geometry start reached := by
  obtain ⟨hoverlay, hdisk⟩ := Prod.mk.inj hsame.used.eq
  refine ⟨h.toSparing.same hsame, ?_, ?_⟩
  · rw [hsame.stage]
    exact h.initialized
  · rw [hoverlay, hdisk]
    exact h.pending

theorem Waiting.keeps {α : Type} {act : Action (Image ChangeFile × World) Error α}
    (hact : Respects (Uses Eq) act) :
    Leads (Waiting geometry start) act (fun _ => Waiting geometry start) (Sparing (some geometry) start) :=
  hact.leads (fun hsame h => h.same hsame) fun hsame h => h.toSparing.same hsame

/-- What is read before the descriptor is known is what was there when the handle was opened. -/
theorem Early.reads {α : Type} (hagrees : start.1.source.backing.Agrees start.2.disk bytes)
    {act : Action (Source × World) Error α} {found? : Option α} (hact : Source.Extracts bytes act found?) :
    Leads (Early known? start) (onSource act)
      (fun value state => Early known? start state ∧ found? = some value) (Sparing known? start) := by
  intro state h
  have hsame : Uses Eq state (perform (onSource act) state).2 := onSource_uses hact.onward state
  have hsource : state.1.source.backing.Agrees state.2.disk bytes := by
    rw [h.source.backing, (h.early h.unknown).2]
    exact hagrees
  rcases hrun : perform (onSource act) state with ⟨result, reached⟩
  rw [hrun] at hsame
  cases result with
  | ok value => exact ⟨h.same hsame, (onSource_inv bytes hact hrun).1 hsource⟩
  | error error => exact h.toSparing.same hsame

theorem Early.reach {stage : Stage} (hunknown : stage.descriptor? = none)
    (hunverified : stage.isVerified = false) {fail : Image ChangeFile × World → Prop} :
    Leads (Early known? start) (reach stage) (fun _ => Early known? start) fail := by
  refine .change fun state h => ⟨⟨h.source, h.route, h.spared, fun _ => h.early h.unknown, ?_, ?_, ?_⟩,
    hunknown⟩
  · intro descriptor hknown
    cases hunknown.symm.trans hknown
  · intro _ file hfile
    cases (h.early h.unknown).1.symm.trans hfile
  · intro hverified
    cases hunverified.symm.trans hverified

theorem Early.initialize {descriptor : Descriptor} {layout : RecordLayout}
    {fail : Image ChangeFile × World → Prop} :
    Leads (Early (some ⟨descriptor.blockSize, descriptor.totalBlocks⟩) start)
      (Image.reach (.initialized descriptor layout))
      (fun _ state => Waiting ⟨descriptor.blockSize, descriptor.totalBlocks⟩ start state
        ∧ state.1.overlay = none) fail := by
  refine .change fun state h => ?_
  have hnone : state.1.overlay = none := (h.early h.unknown).1
  have hno : ∀ file, state.1.overlay ≠ some file := fun file hfile => by cases hnone.symm.trans hfile
  refine ⟨⟨⟨h.source, h.route, h.spared, fun _ => h.early h.unknown, ?_, ?_, ?_⟩, ⟨_, _, rfl⟩, ?_⟩, hnone⟩
  · intro other hknown
    cases hknown
    rfl
  · exact fun _ file hfile => absurd hfile (hno file)
  · exact fun hverified => by cases hverified
  · exact fun file hfile => absurd hfile (hno file)

/-- Later descriptors are of the same geometry. -/
theorem Waiting.reach {descriptor : Descriptor} {layout : RecordLayout}
    (hsize : descriptor.blockSize = geometry.blockSize ∧ descriptor.totalBlocks = geometry.totalBlocks)
    {fail : Image ChangeFile × World → Prop} :
    Leads (Waiting geometry start) (Image.reach (.initialized descriptor layout))
      (fun _ => Waiting geometry start) fail := by
  refine .change fun state h => ?_
  obtain ⟨before, known, hstage⟩ := h.initialized
  refine ⟨⟨h.source, h.route, h.spared, ?_, ?_, ?_, ?_⟩, ⟨_, _, rfl⟩, h.pending⟩
  · exact fun hnone => by cases hnone
  · intro other hknown
    cases hknown
    rw [hsize.1, hsize.2]
  · exact fun _ => h.clean (by rw [hstage]; rfl)
  · exact fun hverified => by cases hverified

theorem Waiting.opened (h : Waiting geometry start state) (hsource : reached.1.source = state.1.source)
    (hstage : reached.1.stage = state.1.stage) (hroute : reached.1.route = state.1.route)
    (hspared : Spared (some geometry) start.2.disk reached.2.disk)
    (hpending : ∀ file, reached.1.overlay = some file →
      Pending geometry start.2.disk start.1.route reached.2.disk file) : Waiting geometry start reached := by
  obtain ⟨descriptor, layout, hinitialized⟩ := h.initialized
  refine ⟨⟨hsource ▸ h.source, hroute.trans h.route, hspared, ?_, ?_, ?_, ?_⟩, ?_, hpending⟩
  · rw [hstage, hinitialized]
    exact fun hnone => by cases hnone
  · rw [hstage]
    exact h.described
  · exact fun _ file hfile => (hpending file hfile).clean
  · rw [hstage, hinitialized]
    exact fun hverified => by cases hverified
  · rw [hstage]
    exact h.initialized

/-- **The overlay is opened without harm to anything unusable**, whether it can be opened or not. -/
theorem initOverlay_leads :
    Leads (fun state => Waiting geometry start state ∧ state.1.overlay = none)
      (initOverlay geometry.blockSize geometry.totalBlocks) (fun _ => Waiting geometry start)
      (Sparing (some geometry) start) := by
  rintro state ⟨h, hnone⟩
  rcases hrun : perform (initOverlay geometry.blockSize geometry.totalBlocks) state with ⟨result, reached⟩
  cases initEnd_of_perform hrun with
  | unasked hmode => exact h
  | opened hmode hinit =>
    obtain ⟨rfl, hpending⟩ := h.spared.init hinit
    refine h.opened rfl rfl rfl h.spared ?_
    rintro _ ⟨⟩
    exact h.route ▸ hpending _ rfl
  | missing hmode hinit =>
    obtain ⟨rfl, -⟩ := h.spared.init hinit
    exact h.same (warn_uses _ _)
  | made hmode hcreate =>
    obtain ⟨hspared, hpending⟩ := h.spared.create hcreate
    refine h.opened rfl rfl rfl hspared ?_
    rintro _ ⟨⟩
    exact h.route ▸ hpending _ rfl
  | unmade hmode hcreate =>
    obtain ⟨hspared, -⟩ := h.spared.create hcreate
    have hfailed : Waiting geometry start
        ({ state.1 with overlayPath := some state.1.route }, state.2.withDisk _) :=
      h.opened rfl rfl rfl hspared fun file hfile => by cases hnone.symm.trans hfile
    exact hfailed.toSparing

/-- A store that turns out to be cut short stays unused. -/
theorem verifyOverlay_leads :
    Leads (Waiting geometry start) verifyOverlay
      (fun _ state => Waiting geometry start state
        ∧ ∀ file, state.1.overlay = some file → Own (some geometry) start.2.disk start.1.route file)
      (Sparing (some geometry) start) := by
  intro state h
  rcases hrun : perform verifyOverlay state with ⟨result, reached⟩
  cases verifyEnd_of_perform hrun with
  | absent hnone => exact ⟨h, fun file hfile => by cases hnone.symm.trans hfile⟩
  | whole hstore hverify =>
    have hpending := h.pending _ hstore
    obtain ⟨hverdict, hsame⟩ := Prod.mk.inj ((ChangeFile.perform_verify _ _).symm.trans hverify)
    cases hsame
    rw [hpending.blockSize_eq, hpending.totalBlocks_eq] at hverdict
    constructor
    · refine h.opened rfl rfl rfl h.spared ?_
      rintro _ ⟨⟩
      exact hpending
    · rintro _ ⟨⟩
      exact hpending.own (verdict_eq_ok_iff.mp hverdict).room
  | broken hstore hverify =>
    have hpending := h.pending _ hstore
    obtain ⟨-, hsame⟩ := Prod.mk.inj ((ChangeFile.perform_verify _ _).symm.trans hverify)
    cases hsame
    refine Waiting.toSparing (h.opened rfl rfl rfl h.spared ?_)
    rintro _ ⟨⟩
    exact hpending

theorem Waiting.repairs {act : Action (Image ChangeFile × World) Error Descriptor}
    (hact : Respects (Uses Eq) act)
    (hsize : ∀ {state descriptor reached}, perform act state = (.ok descriptor, reached) →
      descriptor.blockSize = geometry.blockSize ∧ descriptor.totalBlocks = geometry.totalBlocks) :
    Leads (Waiting geometry start) act
      (fun descriptor state => Waiting geometry start state
        ∧ descriptor.blockSize = geometry.blockSize ∧ descriptor.totalBlocks = geometry.totalBlocks)
      (Sparing (some geometry) start) := by
  intro state h
  have hsame := hact state
  rcases hrun : perform act state with ⟨result, reached⟩
  rw [hrun] at hsame
  cases result with
  | ok descriptor => exact ⟨h.same hsame, hsize hrun⟩
  | error error => exact h.toSparing.same hsame

/-- The overlay is verified, and with it the handle. -/
theorem Waiting.verified (h : Waiting geometry start state) {descriptor : Descriptor} {map : BlockMap}
    (hsize : descriptor.blockSize = geometry.blockSize ∧ descriptor.totalBlocks = geometry.totalBlocks)
    (hown : ∀ file, state.1.overlay = some file → Own (some geometry) start.2.disk start.1.route file) :
    Sparing (some geometry) start
      ({ state.1 with stage := .verified descriptor map, cursor := 0, passed := 0 }, state.2) := by
  refine ⟨h.source, h.route, h.spared, fun hnone => (by cases hnone), ?_, fun hverified => (by cases hverified),
    fun _ => hown⟩
  intro other hknown
  cases hknown
  rw [hsize.1, hsize.2]

/-- **Verification, wherever it ends, leaves what is unusable as it is.** -/
theorem verify_leads (hagrees : start.1.source.backing.Agrees start.2.disk bytes) :
    Leads (Sparing (shape? bytes) start) verify (fun _ => Sparing (shape? bytes) start)
      (Sparing (shape? bytes) start) := by
  have hrequire : Leads (Sparing (shape? bytes) start) (require .opened)
      (fun _ => Early (shape? bytes) start) (Sparing (shape? bytes) start) := by
    intro state h
    rw [perform_require]
    cases hstage : state.1.stage with
    | opened =>
      rw [if_pos (by rw [ready, hstage]; rfl)]
      exact ⟨h, by rw [hstage]; rfl⟩
    | _ =>
      rw [if_neg (by rw [ready, hstage]; exact Bool.false_ne_true)]
      exact h
  unfold verify
  refine hrequire.bind fun _ => Leads.get.bind fun before =>
    (Early.reads hagrees BlockMap.extracts_version).bind fun version => .given fun hversion =>
      (Early.reach rfl rfl).bind fun _ => ?_
  cases hformat : Format.ofVersion? version with
  | none => exact .throw fun state h => h.toSparing
  | some format =>
    refine (Early.reach rfl rfl).bind fun _ =>
      (Early.reads hagrees (BlockMap.extracts_descriptor format)).bind fun described => .given fun hfitting => ?_
    obtain ⟨descriptor, layout⟩ := described
    have haccepted : Descriptor.accepted? bytes = some (format, descriptor, layout) :=
      Descriptor.accepted?_eq_some_iff.mpr ⟨version, hversion, hformat, hfitting⟩
    have hgeometry : shape? bytes = some ⟨descriptor.blockSize, descriptor.totalBlocks⟩ := by
      rw [shape?, haccepted]
      rfl
    rw [hgeometry]
    refine Early.initialize.bind fun _ => initOverlay_leads.bind fun _ => (Waiting.keeps
      (onSource_uses (@BlockMap.extracts_load bytes format layout _ _).onward)).bind fun map => ?_
    refine (Waiting.repairs (repairDeviceSize_uses descriptor) fun hrun => ?_).bind fun resized =>
      .given fun hresized => (Waiting.reach hresized).bind fun _ => ?_
    · obtain ⟨rfl, -, -⟩ := repairDeviceSize_inv hrun
      exact ⟨rfl, rfl⟩
    refine (Waiting.repairs (repairUsedBlocks_uses _ resized _) fun hrun => ?_).bind fun counted =>
      .given fun hcounted => (Waiting.reach hcounted).bind fun _ => verifyOverlay_leads.bind fun _ => ?_
    · obtain ⟨rfl, -, -⟩ := repairUsedBlocks_inv hrun
      exact hresized
    exact .change fun state h => h.1.verified hcounted h.2

/-! ### Handles -/

/-- A handle that was opened on `origin`, and is not verified. -/
structure Unchecked (origin : Source) (path : String) (options : OpenOptions) (world : World) (known? : Option Header)
    (state : Image ChangeFile × World) : Prop
    extends Sparing known? (ofSource origin path options (), world) state where
  reached : Reached origin path options () world state
  unverified : state.1.stage.isVerified = false

/-- **A handle that is verified has a store of its own, or none.** -/
theorem unverified {origin : Source} (path : String) (options : OpenOptions) {world : World}
    (hagrees : origin.backing.Agrees world.disk bytes) :
    BlockDevice.Unverified Image.source mount (shape? bytes) world.disk
      (options.overlay.getD (defaultOverlayPath path)) (Unchecked origin path options world (shape? bytes)) where
  spared h := h.spared
  unchanged h hnone := by
    refine h.early (Option.eq_none_iff_forall_ne_some.mpr fun descriptor hknown => ?_)
    cases hnone.symm.trans (h.described descriptor hknown)
  clean h hstore := .inl (h.clean h.unverified _ hstore)
  refused h _ hoperation := after_of_unverified h.unverified hoperation
  write h data :=
    ⟨_, congrArg Prod.fst (perform_bind_error (perform_require_of_unverified h.unverified (by decide)))⟩
  releases _ := releases _
  verify := by
    intro state h
    have hsparing : Sparing (shape? bytes) (ofSource origin path options (), world) (Operation.verify.after state) :=
      (verify_leads hagrees).state h.toSparing
    cases hverified : (Operation.verify.after state).1.stage.isVerified with
    | false => exact .idle ⟨hsparing, h.reached.after .verify, hverified⟩
    | true =>
      rcases (h.reached.verified_after_iff .verify).mp hverified with hbefore | ⟨-, hok⟩
      · cases h.unverified.symm.trans hbefore
      obtain ⟨descriptor, map, hsized⟩ := exists_sized_of_verify h.reached hok
      have hknown := hsparing.described descriptor (by rw [hsized.stage]; rfl)
      have hspared := hsparing.spared
      have hown := hsparing.own hverified
      rw [hknown] at hspared hown
      exact .verified hknown (layered options hsized.suits) hsized ⟨hsparing.route, hspared, hown⟩

end Image

end PartitionImage
