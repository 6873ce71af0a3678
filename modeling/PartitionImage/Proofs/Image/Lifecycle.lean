import Mathlib.Logic.Relation
import PartitionImage.Proofs.Image.Coherence
/-!
# The life of a handle

A handle is opened, verified and used, and in the end closed or dropped.  What it is ready for depends on how
far that went, whatever the source and the overlay do in between.

* `Operation.Succeeds` says that a call in a run has succeeded.
* `Image.Unready` is a handle that nothing can be had from, `Image.AsOpened` one that is as it was opened.
* `Overlay.Life` is what happens to the overlays of a handle, `Overlay.Event` what there is to tell of it.
* `Image.Reached.run` and `Image.Lived.ending` are about every run; `Image.lifecycle` puts it together.
-/

namespace PartitionImage

open PartitionImage.Action (Leads Respects Maintains perform perform_bind_ok perform_bind_error)

/-! ### Calls of a run -/

namespace Operation

variable {D : Type} [BlockDevice D]

/-- One of the calls of a run is the given one, and it has succeeded. -/
def Succeeds (operation : Operation) (operations : List Operation) (state : D × World) : Prop :=
  ∃ before rest, operations = before ++ operation :: rest
    ∧ operation.error? (run before state) = none

theorem succeeds_cons (operation first : Operation) (operations : List Operation) (state : D × World) :
    operation.Succeeds (first :: operations) state
      ↔ operation = first ∧ first.error? state = none ∨ operation.Succeeds operations (first.after state) := by
  constructor
  · rintro ⟨before, rest, hsplit, hok⟩
    cases before with
    | nil =>
      obtain ⟨rfl, -⟩ := List.cons.inj hsplit
      exact .inl ⟨rfl, hok⟩
    | cons head before =>
      obtain ⟨rfl, hrest⟩ := List.cons.inj hsplit
      exact .inr ⟨before, rest, hrest, hok⟩
  · rintro (⟨rfl, hok⟩ | ⟨before, rest, rfl, hok⟩)
    · exact ⟨[], operations, rfl, hok⟩
    · exact ⟨first :: before, rest, rfl, hok⟩

end Operation

/-! ### What happens to overlays -/

namespace Overlay

variable {O : Type} [Overlay O]

/-- One call of a store that leaves it in use. -/
inductive Call : O × Disk → O × Disk → Prop
  | verify (state : O × Disk) : Call state (perform Overlay.verify state).2
  | seek (block : Nat) (state : O × Disk) : Call state (perform (Overlay.seek block) state).2
  | read (length : Nat) (state : O × Disk) : Call state ((Overlay.read length).run state).2
  | write (data : Bytes) (state : O × Disk) : Call state (perform (Overlay.write data) state).2
  | sync (state : O × Disk) : Call state (perform Overlay.sync state).2

abbrev Calls : O × Disk → O × Disk → Prop := Relation.ReflTransGen Call

instance : IsPreorder (O × Disk) Calls where
  refl _ := .refl
  trans _ _ _ := .trans

theorem writes_calls : Writes (O := O) Calls where
  seek block state := .single (.seek block state)
  read length state := .single (.read length state)
  write data state := .single (.write data state)
  sync state := .single (.sync state)

/-- The ways to come by a store. -/
inductive Opening : Action Disk OverlayError O → Prop
  | init (setup : Overlay.Setup O) (path : String) (blockSize totalBlocks : Nat) :
    Opening (Overlay.init setup path blockSize totalBlocks)
  | create (setup : Overlay.Setup O) (path : String) (blockSize totalBlocks : Nat) :
    Opening (Overlay.create setup path blockSize totalBlocks)
  /-- The store is verified before it is attached. -/
  | make (setup : Overlay.Setup O) (path : String) (blockSize totalBlocks : Nat) :
    Opening (makeOverlay setup path blockSize totalBlocks)

/-- What there is to tell of an overlay: that it was attached, and that it was finished. -/
inductive Event
  | attached
  | finished
  deriving DecidableEq, Repr

/-- What happens to the overlay of a handle, if it has one, and to the disk. -/
inductive Life : List Event → Option O × Disk → Option O × Disk → Prop
  | still (state : Option O × Disk) : Life [] state state
  /-- No overlay could be had. -/
  | refused {opening : Action Disk OverlayError O} {disk after : Disk} {error : OverlayError} :
    Opening opening → perform opening disk = (.error error, after) → Life [] (none, disk) (none, after)
  | attached {opening : Action Disk OverlayError O} {disk after : Disk} {store : O} :
    Opening opening → perform opening disk = (.ok store, after) →
      Life [.attached] (none, disk) (some store, after)
  | used {store reached : O} {disk after : Disk} :
    Call (store, disk) (reached, after) → Life [] (some store, disk) (some reached, after)
  | finished (store : O) (disk : Disk) :
    Life [.finished] (some store, disk) (none, (perform (Overlay.finish store) disk).2)
  | trans {first second : List Event} {a b c : Option O × Disk} :
    Life first a b → Life second b c → Life (first ++ second) a c

theorem Used.life {a b : Option O × Disk} (h : Used Calls a b) : Life [] a b := by
  cases h with
  | none disk => exact .still _
  | @some store reached disk after hcalls =>
    generalize hfrom : (store, disk) = start at hcalls
    generalize hto : (reached, after) = final at hcalls
    induction hcalls generalizing reached after with
    | refl =>
      obtain ⟨rfl, rfl⟩ := Prod.mk.inj (hfrom.trans hto.symm)
      exact .still _
    | @tail middle last hcalls hcall ih =>
      subst hto
      exact (ih rfl).trans (.used hcall)

end Overlay

namespace Image

variable {O : Type} [Overlay O]

open Overlay (Calls Life writes_calls)

/-! ### Handles that nothing can be had from -/

/-- Nothing but verification is possible: every other call is refused, reads nothing and asks no overlay. -/
structure Unready (state : Image O × World) : Prop where
  refused : ∀ operation : Operation, operation ≠ .verify →
    operation.answer state = ⟨[], .error (.invalidState operation.requires)⟩ ∧ operation.after state = state
  tell? : state.1.tell? = none
  blockSize? : state.1.blockSize? = none
  blockCount? : state.1.blockCount? = none
  stats? : state.1.stats? = none

/-- **Before a handle is verified every other call is refused.** -/
theorem unready_of_unverified {state : Image O × World} (h : state.1.stage.isVerified = false) :
    Unready state := by
  have hready := perform_readyMap_of_unverified h
  have hdescriptor : state.1.verifiedDescriptor? = none := if_neg (by rw [h]; decide)
  refine ⟨fun operation hoperation => ⟨?_, after_of_unverified h hoperation⟩, if_neg (by rw [h]; decide), ?_, ?_, ?_⟩
  · cases operation with
    | verify => exact absurd rfl hoperation
    | seek block =>
      have hrun : perform (BlockDevice.seek block) state = _ := perform_bind_error hready
      rw [Operation.answer, hrun]
      rfl
    | read length =>
      have hrun : (BlockDevice.read length).run state = _ := run_read_of_unverified h length
      rw [Operation.answer, hrun]
      rfl
    | isUsed =>
      have hrun : perform BlockDevice.isUsed state = _ := perform_bind_error hready
      rw [Operation.answer, hrun]
      rfl
    | write data =>
      have hrun : perform (BlockDevice.write data) state = _ :=
        perform_bind_error (perform_require_of_unverified h (by decide))
      rw [Operation.answer, hrun]
      rfl
    | sync =>
      have hrun : perform BlockDevice.sync state = _ :=
        perform_bind_error (perform_require_of_unverified h (by decide))
      rw [Operation.answer, hrun]
      rfl
  · rw [Image.blockSize?, hdescriptor]
    rfl
  · rw [Image.blockCount?, hdescriptor]
    rfl
  · unfold Image.stats?
    cases hstage : state.1.stage with
    | verified descriptor map =>
      rw [hstage] at h
      cases h
    | _ => rfl

/-! ### Overlays of a handle -/

variable {disk : Disk} {state : Image O × World}

/-- Since the disk was as given, the handle has come by its overlay if it has one, and used it. -/
def Lived (disk : Disk) (state : Image O × World) : Prop :=
  Life (if state.1.overlay.isSome then [.attached] else []) (none, disk) (state.1.overlay, state.2.disk)

theorem Lived.uses (h : Lived disk state) {after : Image O × World} (huses : Uses Calls state after) :
    Lived disk after := by
  have hsome : after.1.overlay.isSome = state.1.overlay.isSome := huses.used.isSome_eq
  have hlife := Life.trans h huses.used.life
  rw [List.append_nil] at hlife
  rw [Lived, hsome]
  exact hlife

section

variable {opening : Action Disk OverlayError O} {after : Disk} {reached : Image O × World}

/-- A handle without an overlay that could not come by one still has none. -/
theorem Lived.refused (h : Lived disk state) (hnone : state.1.overlay = none) (hopening : Overlay.Opening opening)
    {error : OverlayError} (hrun : perform opening state.2.disk = (.error error, after))
    (hoverlay : reached.1.overlay = state.1.overlay) (hdisk : reached.2.disk = after) : Lived disk reached := by
  rw [Lived, hnone] at h
  rw [Lived, hoverlay, hnone, hdisk]
  exact h.trans (.refused hopening hrun)

/-- A handle without an overlay that came by one has it, once. -/
theorem Lived.attached (h : Lived disk state) (hnone : state.1.overlay = none) (hopening : Overlay.Opening opening)
    {store : O} (hrun : perform opening state.2.disk = (.ok store, after))
    (hoverlay : reached.1.overlay = some store) (hdisk : reached.2.disk = after) : Lived disk reached := by
  rw [Lived, hnone] at h
  rw [Lived, hoverlay, hdisk]
  exact h.trans (.attached hopening hrun)

end

theorem Lived.initOverlay (h : Lived disk state) (hnone : state.1.overlay = none) (blockSize totalBlocks : Nat) :
    Lived disk (perform (initOverlay blockSize totalBlocks) state).2 := by
  rcases hrun : perform (Image.initOverlay blockSize totalBlocks) state with ⟨result, opened⟩
  cases initEnd_of_perform hrun with
  | unasked hmode => exact h
  | opened hmode hinit => exact h.attached hnone (.init ..) hinit rfl rfl
  | missing hmode hinit => exact h.refused hnone (.init ..) hinit rfl rfl
  | made hmode hcreate => exact h.attached hnone (.create ..) hcreate rfl rfl
  | unmade hmode hcreate => exact h.refused hnone (.create ..) hcreate rfl rfl

theorem Lived.verifyOverlay (h : Lived disk state) : Lived disk (perform verifyOverlay state).2 := by
  rcases hrun : perform Image.verifyOverlay state with ⟨result, checked⟩
  cases verifyEnd_of_perform hrun with
  | absent hnone => exact h
  | whole hstore hverify =>
    have hused := h.uses (uses_withOverlay hstore (.single (.verify (_, state.2.disk))))
    rwa [hverify] at hused
  | broken hstore hverify =>
    have hused := h.uses (uses_withOverlay hstore (.single (.verify (_, state.2.disk))))
    rwa [hverify] at hused

theorem Lived.attachOverlay (h : Lived disk state) (hnone : state.1.overlay = none) (blockSize totalBlocks : Nat) :
    Lived disk (perform (attachOverlay blockSize totalBlocks) state).2 := by
  rw [perform_attachOverlay]
  rcases hrun : perform (makeOverlay state.1.setup state.1.route blockSize totalBlocks) state.2.disk
    with ⟨result, after⟩
  cases result with
  | error error => exact h.refused hnone (.make ..) hrun rfl rfl
  | ok store => exact h.attached hnone (.make ..) hrun rfl rfl

/-- Every call on a verified handle keeps to its overlay, and comes by one only where there is none. -/
theorem Lived.after {options : OpenOptions} {descriptor : Descriptor} {map : BlockMap} (h : Lived disk state)
    (hcoherent : Coherent options descriptor map state.1) {operation : Operation} (hoperation : operation ≠ .verify) :
    Lived disk (operation.after state) := by
  have hused : ∀ count data (reached : Image O × World), Lived disk reached →
      Lived disk (perform (writeBlocks descriptor.blockSize descriptor.totalBlocks count data) reached).2 :=
    fun count data reached hreached => hreached.uses (writeBlocks_uses writes_calls _ _ count data reached)
  cases operation with
  | verify => exact absurd rfl hoperation
  | seek block => exact h.uses (seek_uses writes_calls.toReads block state)
  | read length => exact h.uses (read_uses writes_calls.toReads length state)
  | isUsed => exact h.uses (isUsed_uses writes_calls.toReads state)
  | sync => exact h.uses (sync_uses writes_calls state)
  | write data =>
    show Lived disk (perform (write data) state).2
    rw [perform_write hcoherent.stage fun hsome => hcoherent.overlayVerified.trans hsome]
    split
    · exact h
    split
    · exact h
    split
    · exact hused _ _ state h
    next hnone =>
    have hattached := h.attachOverlay (Option.not_isSome_iff_eq_none.mp hnone) descriptor.blockSize
      descriptor.totalBlocks
    rw [Action.perform_bind]
    rcases hattach : perform (Image.attachOverlay descriptor.blockSize descriptor.totalBlocks) state
      with ⟨result, reached⟩
    rw [hattach] at hattached
    cases result with
    | error error => exact hattached
    | ok done => exact hused _ _ reached hattached

/-! ### Verification -/

/-- A verification that has read the head and not yet opened the overlay. -/
structure Begun (disk : Disk) (state : Image O × World) : Prop where
  opened : state.1.stage.isOpened = false
  verified : state.1.stage.isVerified = false
  overlay : state.1.overlay = none
  lived : Lived disk state

/-- A verification that has read the head, and has not succeeded. -/
structure Underway (disk : Disk) (state : Image O × World) : Prop where
  opened : state.1.stage.isOpened = false
  verified : state.1.stage.isVerified = false
  lived : Lived disk state

theorem Begun.underway (h : Begun disk state) : Underway disk state := ⟨h.opened, h.verified, h.lived⟩

theorem Begun.used {α : Type} {act : Action (Image O × World) Error α} (hact : Respects (Uses Calls) act) :
    Leads (Begun disk) act (fun _ => Begun disk) (Underway disk) := by
  have hkeep : ∀ {before after : Image O × World}, Uses Calls before after → Begun disk before →
      Begun disk after := by
    intro before after huses h
    have hsome : after.1.overlay.isSome = before.1.overlay.isSome := huses.used.isSome_eq
    rw [h.overlay] at hsome
    exact ⟨(congrArg Stage.isOpened huses.stage).trans h.opened,
      (congrArg Stage.isVerified huses.stage).trans h.verified,
      Option.not_isSome_iff_eq_none.mp (by rw [hsome]; exact Bool.false_ne_true), h.lived.uses huses⟩
  exact hact.leads hkeep fun huses h => (hkeep huses h).underway

theorem Underway.used {α : Type} {act : Action (Image O × World) Error α} (hact : Respects (Uses Calls) act) :
    Leads (Underway disk) act (fun _ => Underway disk) (Underway disk) := by
  have hkeep : ∀ {before after : Image O × World}, Uses Calls before after → Underway disk before →
      Underway disk after := fun huses h =>
    ⟨(congrArg Stage.isOpened huses.stage).trans h.opened,
      (congrArg Stage.isVerified huses.stage).trans h.verified, h.lived.uses huses⟩
  exact hact.leads hkeep hkeep

theorem Begun.reach {stage : Stage} (hopened : stage.isOpened = false) (hverified : stage.isVerified = false) :
    Leads (Begun (O := O) disk) (reach stage) (fun _ => Begun disk) (Underway disk) :=
  .change fun _ h => ⟨hopened, hverified, h.overlay, h.lived⟩

theorem Underway.reach {stage : Stage} (hopened : stage.isOpened = false) (hverified : stage.isVerified = false) :
    Leads (Underway (O := O) disk) (reach stage) (fun _ => Underway disk) (Underway disk) :=
  .change fun _ h => ⟨hopened, hverified, h.lived⟩

/-- What keeps the stage and comes by an overlay does not end a verification. -/
theorem Underway.still {α : Type} {act : Action (Image O × World) Error α} (hact : Respects Still act)
    {pre : Image O × World → Prop} (hpre : ∀ state, pre state → Underway disk state)
    (hlived : ∀ state, pre state → Lived disk (perform act state).2) :
    Leads pre act (fun _ => Underway disk) (Underway disk) := by
  intro state h
  have hreached : Underway disk (perform act state).2 :=
    ⟨(congrArg Stage.isOpened (hact state).stage).trans (hpre state h).opened,
      (congrArg Stage.isVerified (hact state).stage).trans (hpre state h).verified, hlived state h⟩
  rcases hrun : perform act state with ⟨result, reached⟩
  rw [hrun] at hreached
  cases result with
  | error error => exact hreached
  | ok value => exact hreached

theorem perform_onSource {α : Type} (act : Action (Source × World) Error α) (state : Image O × World) :
    perform (onSource act) state
      = ((perform act (state.1.source, state.2)).1,
        { state.1 with source := (perform act (state.1.source, state.2)).2.1 },
        (perform act (state.1.source, state.2)).2.2) := by
  rw [onSource, Action.perform_zoom, Action.mapError_id]

theorem perform_require_opened (hopened : state.1.stage = .opened) :
    perform (require .opened) state = (.ok (), state) := by
  rw [perform_require, ready, hopened]
  rfl

theorem perform_readVersion (source : Source) (world : World) :
    perform BlockMap.readVersion (source, world)
      = ((perform BlockMap.readVersion (source, world)).1,
        (source.readExact world.disk 0 Descriptor.headSize).2, world) := by
  have hfetch : perform (BlockMap.fetch 0 Descriptor.headSize .readDescriptor) (source, world)
      = ((perform (BlockMap.fetch 0 Descriptor.headSize .readDescriptor) (source, world)).1,
        (source.readExact world.disk 0 Descriptor.headSize).2, world) := rfl
  rw [BlockMap.readVersion, Action.perform_bind, hfetch]
  cases (perform (BlockMap.fetch 0 Descriptor.headSize .readDescriptor) (source, world)).1 with
  | error error => rfl
  | ok head => rfl

/-- **A verification that cannot read the head, or finds it wrong, leaves the handle as it was.** -/
theorem perform_verify_of_head_error (hopened : state.1.stage = .opened) {error : Error} {read : Source × World}
    (h : perform BlockMap.readVersion (state.1.source, state.2) = (.error error, read)) :
    perform verify state = (.error error, { state.1 with source := read.1 }, read.2) := by
  have hread : perform (onSource BlockMap.readVersion) state
      = (.error error, { state.1 with source := read.1 }, read.2) := by
    rw [perform_onSource, h]
  rw [verify, perform_bind_ok (perform_require_opened hopened), perform_bind_ok (Action.perform_get state),
    perform_bind_error hread]

/-- **Once the head is known, verification succeeds or stops under way.** -/
theorem verify_of_head (hopened : state.1.stage = .opened) (hnone : state.1.overlay = none)
    (hlived : Lived disk state) {version : Version} {read : Source × World}
    (h : perform BlockMap.readVersion (state.1.source, state.2) = (.ok version, read)) :
    Leads (· = state) verify (fun _ verified => verified.1.stage.isVerified = true ∧ Lived disk verified)
      (Underway disk) := by
  intro start hstart
  rw [hstart]
  have hdisk : read.2 = state.2 := by
    rw [perform_readVersion] at h
    exact (Prod.mk.inj (Prod.mk.inj h).2).2.symm
  have hread : perform (onSource BlockMap.readVersion) state
      = (.ok version, { state.1 with source := read.1 }, state.2) := by
    rw [perform_onSource, h, hdisk]
  have hreach : perform (reach .headerValid) ({ state.1 with source := read.1 }, state.2)
      = (.ok (), { state.1 with source := read.1, stage := .headerValid }, state.2) := rfl
  have hbegun : Begun disk (({ state.1 with source := read.1, stage := .headerValid }, state.2) : Image O × World) :=
    ⟨rfl, rfl, hnone, hlived⟩
  rw [verify, perform_bind_ok (perform_require_opened hopened), perform_bind_ok (Action.perform_get state),
    perform_bind_ok hread, perform_bind_ok hreach]
  refine (show Leads (Begun disk) _ (fun _ verified => verified.1.stage.isVerified = true ∧ Lived disk verified)
    (Underway disk) from ?_) _ hbegun
  cases hformat : Format.ofVersion? version with
  | none => exact .throw fun _ h => h.underway
  | some format =>
    refine (Begun.reach rfl rfl).bind fun _ =>
      (Begun.used (onSource_uses (@BlockMap.extracts_descriptor [] format).onward)).bind fun described => ?_
    obtain ⟨descriptor, layout⟩ := described
    exact (Begun.reach rfl rfl).bind fun _ =>
      (Underway.still (initOverlay_still _ _) (fun _ h => h.underway)
        fun _ h => h.lived.initOverlay h.overlay _ _).bind fun _ =>
      (Underway.used (onSource_uses (@BlockMap.extracts_load [] format layout _ _).onward)).bind fun map =>
      (Underway.used (repairDeviceSize_uses descriptor)).bind fun resized => (Underway.reach rfl rfl).bind fun _ =>
      (Underway.used (repairUsedBlocks_uses _ resized _)).bind fun counted => (Underway.reach rfl rfl).bind fun _ =>
      (Underway.still verifyOverlay_still (fun _ h => h) fun _ h => h.lived.verifyOverlay).bind fun _ =>
      .change fun _ h => ⟨rfl, h.lived⟩

/-! ### Handles that were opened -/

/-- The handle is as it was opened; only its source may have been called. -/
def AsOpened (source : Source) (path : String) (options : OpenOptions) (setup : Overlay.Setup O) (world : World)
    (state : Image O × World) : Prop :=
  ∃ later, source.Later later ∧ state = (ofSource later path options setup, world)

/-- What is known of a handle that was opened, whatever was done to it. -/
structure Reached (source : Source) (path : String) (options : OpenOptions) (setup : Overlay.Setup O) (world : World)
    (state : Image O × World) : Prop where
  known : Known options state
  asOpened : state.1.stage.isOpened = true → AsOpened source path options setup world state
  lived : Lived world.disk state

section

variable {source : Source} {path : String} {options : OpenOptions} {setup : Overlay.Setup O} {world : World}

theorem reached_ofSource (source : Source) (path : String) (options : OpenOptions) (setup : Overlay.Setup O)
    (world : World) : Reached source path options setup world (ofSource source path options setup, world) :=
  ⟨.unread ⟨rfl, rfl, rfl, rfl⟩, fun _ => ⟨source, .refl source, rfl⟩, .still _⟩

theorem Known.options_eq (h : Known options state) : state.1.options = options := by
  cases h with
  | unread h => exact h.options_eq
  | stuck h => exact h.options_eq
  | verified descriptor map h => exact h.options_eq

theorem Known.stage_after (h : Known options state) {operation : Operation} (hoperation : operation ≠ .verify) :
    (operation.after state).1.stage = state.1.stage := by
  cases hverified : state.1.stage.isVerified with
  | false => rw [after_of_unverified hverified hoperation]
  | true =>
    obtain ⟨descriptor, map, hcoherent⟩ := h.coherent hverified
    rw [(hcoherent.after operation).stage, hcoherent.stage]

theorem AsOpened.verify_error (h : AsOpened source path options setup world state) {error : Error}
    (hhead : (perform BlockMap.readVersion (state.1.source, state.2)).1 = .error error) :
    (perform verify state).1 = .error error ∧ AsOpened source path options setup world (perform verify state).2 := by
  obtain ⟨later, hlater, rfl⟩ := h
  have hresult : (perform BlockMap.readVersion (later, world)).1 = .error error := hhead
  have hread := perform_readVersion later world
  rw [hresult] at hread
  have hverify : perform verify (ofSource (O := O) later path options setup, world) = _ :=
    perform_verify_of_head_error rfl hread
  rw [hverify]
  exact ⟨rfl, _, hlater.trans (later.readExact_later world.disk 0 Descriptor.headSize), rfl⟩

theorem AsOpened.verify_ok (h : AsOpened source path options setup world state) {version : Version}
    (hhead : (perform BlockMap.readVersion (state.1.source, state.2)).1 = .ok version) :
    Leads (· = state) verify (fun _ verified => verified.1.stage.isVerified = true ∧ Lived world.disk verified)
      (Underway world.disk) := by
  obtain ⟨later, hlater, rfl⟩ := h
  have hlived : Lived world.disk (ofSource (O := O) later path options setup, world) := .still _
  exact verify_of_head rfl rfl hlived (Prod.ext hhead rfl)

theorem AsOpened.verify_past (h : AsOpened source path options setup world state) {version : Version}
    (hhead : (perform BlockMap.readVersion (state.1.source, state.2)).1 = .ok version) :
    (perform verify state).2.1.stage.isOpened = false ∧ Lived world.disk (perform verify state).2
      ∧ ((perform verify state).2.1.stage.isVerified = true ↔ (perform verify state).1 = .ok ()) := by
  have hend := h.verify_ok hhead state rfl
  rcases hverify : perform verify state with ⟨result, ended⟩
  rw [hverify] at hend
  cases result with
  | ok done =>
    obtain ⟨hverified, hlived⟩ := hend
    obtain ⟨descriptor, map, hstage⟩ := Stage.exists_of_isVerified hverified
    refine ⟨?_, hlived, fun _ => rfl, fun _ => hverified⟩
    show ended.1.stage.isOpened = false
    rw [hstage]
    rfl
  | error error =>
    exact ⟨hend.opened, hend.lived, fun hverified => absurd (hend.verified.symm.trans hverified) Bool.false_ne_true,
      fun hok => nomatch hok⟩

/-- **Every call keeps what is known of a handle that was opened.** -/
theorem Reached.after (h : Reached source path options setup world state) (operation : Operation) :
    Reached source path options setup world (operation.after state) := by
  have hknown := h.known.after operation
  by_cases hoperation : operation = .verify
  · subst hoperation
    cases hopened : state.1.stage.isOpened with
    | false =>
      have hsame : Operation.verify.after state = state :=
        congrArg Prod.snd (perform_verify_of_not_opened hopened)
      rw [hsame]
      exact h
    | true =>
      have has := h.asOpened hopened
      cases hhead : (perform BlockMap.readVersion (state.1.source, state.2)).1 with
      | error error =>
        obtain ⟨-, hstays⟩ := has.verify_error hhead
        refine ⟨hknown, fun _ => hstays, ?_⟩
        obtain ⟨later, -, hstate⟩ := hstays
        rw [show Operation.verify.after state = _ from hstate]
        exact .still _
      | ok version =>
        obtain ⟨hpast, hlived, -⟩ := has.verify_past hhead
        refine ⟨hknown, fun hopened => ?_, hlived⟩
        rw [show (Operation.verify.after state).1.stage.isOpened = false from hpast] at hopened
        cases hopened
  · have hstage := h.known.stage_after hoperation
    cases hverified : state.1.stage.isVerified with
    | false =>
      rw [after_of_unverified hverified hoperation]
      exact h
    | true =>
      obtain ⟨descriptor, map, hcoherent⟩ := h.known.coherent hverified
      refine ⟨hknown, fun hopened => ?_, h.lived.after hcoherent hoperation⟩
      rw [hstage, hcoherent.stage] at hopened
      cases hopened

/-- **So does every run of calls.** -/
theorem Reached.run (h : Reached source path options setup world state) (operations : List Operation) :
    Reached source path options setup world (Operation.run operations state) :=
  Operation.run_induction h (fun h => h.after) operations

/-! ### Runs of calls -/

/-- A handle is verified by a verification that succeeds, and by nothing else. -/
theorem Reached.verified_after_iff (h : Reached source path options setup world state) (operation : Operation) :
    (operation.after state).1.stage.isVerified = true
      ↔ state.1.stage.isVerified = true ∨ .verify = operation ∧ operation.error? state = none := by
  by_cases hoperation : operation = .verify
  · subst hoperation
    cases hopened : state.1.stage.isOpened with
    | false =>
      have hrun : perform BlockDevice.verify state = _ := perform_verify_of_not_opened hopened
      rw [Operation.after, Operation.error?, hrun]
      simp [failure?]
    | true =>
      have hunverified : state.1.stage.isVerified = false := by
        obtain ⟨later, -, rfl⟩ := h.asOpened hopened
        rfl
      have hiff : (Operation.verify.after state).1.stage.isVerified = true
          ↔ (perform verify state).1 = .ok () := by
        cases hhead : (perform BlockMap.readVersion (state.1.source, state.2)).1 with
        | error error =>
          obtain ⟨hresult, later, -, hstate⟩ := (h.asOpened hopened).verify_error hhead
          rw [hresult, show Operation.verify.after state = _ from hstate]
          constructor
          · intro hverified
            cases hverified
          · intro hok
            cases hok
        | ok version => exact ((h.asOpened hopened).verify_past hhead).2.2
      have herror : Operation.verify.error? state = none ↔ (perform verify state).1 = .ok () := by
        show failure? (perform verify state).1 = none ↔ _
        cases (perform verify state).1 with
        | ok done => simp [failure?]
        | error error => simp [failure?]
      rw [hiff, hunverified, herror]
      simp
  · rw [h.known.stage_after hoperation]
    constructor
    · exact .inl
    · rintro (hverified | ⟨hsame, -⟩)
      · exact hverified
      · exact absurd hsame.symm hoperation

/-- **A handle is verified just if a verification has succeeded**, at any time before. -/
theorem Reached.verified_run_iff (h : Reached source path options setup world state) (operations : List Operation) :
    (Operation.run operations state).1.stage.isVerified = true
      ↔ state.1.stage.isVerified = true ∨ Operation.verify.Succeeds operations state := by
  induction operations generalizing state with
  | nil =>
    constructor
    · exact .inl
    · rintro (hverified | ⟨before, rest, hsplit, -⟩)
      · exact hverified
      · cases before with
        | nil => cases hsplit
        | cons first before => cases hsplit
  | cons operation operations ih =>
    rw [Operation.succeeds_cons, ← or_assoc, ← h.verified_after_iff operation]
    exact ih (h.after operation)

theorem Reached.rank_le_after (h : Reached source path options setup world state) (operation : Operation) :
    state.1.stage.rank ≤ (operation.after state).1.stage.rank := by
  by_cases hoperation : operation = .verify
  · subst hoperation
    cases hopened : state.1.stage.isOpened with
    | true =>
      rw [show state.1.stage.rank = 0 from beq_iff_eq.mp hopened]
      exact Nat.zero_le _
    | false =>
      have hsame : Operation.verify.after state = state :=
        congrArg Prod.snd (perform_verify_of_not_opened hopened)
      exact Nat.le_of_eq (congrArg (fun reached => reached.1.stage.rank) hsame.symm)
  · exact Nat.le_of_eq (congrArg Stage.rank (h.known.stage_after hoperation).symm)

/-- **No run of calls does.** -/
theorem Reached.rank_le_run (h : Reached source path options setup world state) (operations : List Operation) :
    state.1.stage.rank ≤ (Operation.run operations state).1.stage.rank := by
  induction operations generalizing state with
  | nil => exact Nat.le_refl _
  | cons operation operations ih => exact Nat.le_trans (h.rank_le_after operation) (ih (h.after operation))

/-- **A handle that is only read takes no writes**, whatever has become of it. -/
theorem Known.refuses_writes (h : Known options state) (hmode : options.mode = .readOnly) :
    (∀ data, perform (write data) state = (.error (.invalidState .writable), state))
      ∧ perform sync state = (.error (.invalidState .writeReady), state) := by
  have hwritable : state.1.ready .writable = false := by
    cases hverified : state.1.stage.isVerified with
    | false => rw [ready, hverified, Bool.false_and]
    | true =>
      obtain ⟨descriptor, map, hstage⟩ := Stage.exists_of_isVerified hverified
      rw [ready, readOnly, h.options_eq, hmode, hstage]
      rfl
  have hsync : state.1.ready .writeReady = false := by
    show (state.1.ready .writable && state.1.overlay.isSome && state.1.overlayVerified) = false
    rw [hwritable]
    rfl
  refine ⟨fun data => perform_bind_error ?_, perform_sync_of_unready hsync⟩
  rw [perform_require, hwritable]
  rfl

/-- Changes are made to last only by an overlay that was verified. -/
theorem overlay_of_sync (h : (perform sync state).1 = .ok ()) :
    state.1.overlay.isSome = true ∧ state.1.overlayVerified = true := by
  cases hready : state.1.ready .writeReady with
  | false =>
    rw [perform_sync_of_unready hready] at h
    cases h
  | true =>
    rw [ready] at hready
    simp only [Bool.and_eq_true] at hready
    exact ⟨hready.1.2, hready.2⟩

/-- **The overlay of a handle is finished when the handle is let go of.** -/
theorem Lived.ending (h : Lived disk state) {ending : Ending} (hending : ending ≠ .kept) :
    Life (if state.1.overlay.isSome then [.attached, .finished] else []) (none, disk)
      ((none : Option O), (ending.after state).disk) := by
  have hdisk : (ending.after state).disk = (perform state.1.close state.2).2.disk := by
    cases ending with
    | kept => exact absurd rfl hending
    | closed => rfl
    | dropped => exact disk_drop state.1 state.2
  rw [hdisk, close]
  rw [Lived] at h
  cases hstore : state.1.overlay with
  | none =>
    rw [hstore] at h
    exact h
  | some store =>
    rw [hstore] at h
    exact h.trans (.finished store state.2.disk)

theorem known_of_verified (h : state.1.stage.isVerified = true) :
    state.1.tell?.isSome = true ∧ state.1.blockSize?.isSome = true ∧ state.1.blockCount?.isSome = true
      ∧ state.1.stats?.isSome = true := by
  obtain ⟨descriptor, map, hstage⟩ := Stage.exists_of_isVerified h
  unfold tell? blockSize? blockCount? stats? verifiedDescriptor? descriptor?
  rw [hstage]
  exact ⟨rfl, rfl, rfl, rfl⟩

/-- **What a handle is ready for, over all of its life**: whatever the source and the overlay do, and whatever was
called before.  It is verified just if a verification has succeeded; before that every other call is refused, reads
nothing and asks no overlay, and nothing is known of the image.  No call leads back to an earlier stage.  A
verification that fails at the head leaves the handle as it was opened; once the head is known none can be begun
again.  A handle that is only read takes no writes, and changes are made to last only by an overlay that was
verified.  At most one overlay is attached, and it is finished once, when the handle is closed or dropped. -/
theorem lifecycle {operations : List Operation}
    (hreached : Operation.run operations (ofSource source path options setup, world) = state) :
    (state.1.stage.isVerified = true
        ↔ Operation.verify.Succeeds operations (ofSource (O := O) source path options setup, world))
      ∧ (state.1.stage.isVerified = false → Unready state)
      ∧ (state.1.stage.isVerified = true → state.1.tell?.isSome = true ∧ state.1.blockSize?.isSome = true
        ∧ state.1.blockCount?.isSome = true ∧ state.1.stats?.isSome = true)
      ∧ (∀ further, state.1.stage.rank ≤ (Operation.run further state).1.stage.rank)
      ∧ (state.1.stage.isOpened = true → AsOpened source path options setup world state
        ∧ match (perform BlockMap.readVersion (state.1.source, state.2)).1 with
          | .error error => (perform verify state).1 = .error error
            ∧ AsOpened source path options setup world (perform verify state).2
          | .ok _ => (perform verify state).2.1.stage.isOpened = false)
      ∧ (state.1.stage.isOpened = false → perform verify state = (.error (.invalidState .opened), state))
      ∧ (options.mode = .readOnly →
        (∀ data, perform (write data) state = (.error (.invalidState .writable), state))
          ∧ perform sync state = (.error (.invalidState .writeReady), state))
      ∧ ((perform sync state).1 = .ok () → state.1.overlay.isSome = true ∧ state.1.overlayVerified = true)
      ∧ Life (if state.1.overlay.isSome then [.attached] else []) (none, world.disk) (state.1.overlay, state.2.disk)
      ∧ ∀ ending : Ending, ending ≠ .kept →
        Life (if state.1.overlay.isSome then [.attached, .finished] else []) (none, world.disk)
          ((none : Option O), (ending.after state).disk) := by
  have hstart := reached_ofSource (O := O) source path options setup world
  have hend := hstart.run operations
  have hiff := hstart.verified_run_iff operations
  rw [hreached] at hend hiff
  refine ⟨?_, unready_of_unverified, known_of_verified, hend.rank_le_run, fun hopened => ?_,
    perform_verify_of_not_opened, hend.known.refuses_writes, overlay_of_sync, hend.lived,
    fun _ hending => hend.lived.ending hending⟩
  · rw [hiff]
    constructor
    · rintro (hverified | hsucceeds)
      · cases hverified
      · exact hsucceeds
    · exact .inr
  · have has := hend.asOpened hopened
    refine ⟨has, ?_⟩
    cases hhead : (perform BlockMap.readVersion (state.1.source, state.2)).1 with
    | error error => exact has.verify_error hhead
    | ok version => exact (has.verify_past hhead).1

/-- An image of two blocks is verified and its first block is written: one store is attached, and it is finished
when the handle is dropped. -/
theorem lifecycle_twoBlocks :
    ∃ state, Operation.run [.verify, .write [0x77, 0x77]] (inMemory twoBlocks.bytes) = state
      ∧ state.1.tell? = some 1
      ∧ Operation.verify.Succeeds [.verify, .write [0x77, 0x77]] (inMemory twoBlocks.bytes)
      ∧ perform verify state = (.error (.invalidState .opened), state)
      ∧ Life [.attached] (none, {}) (state.1.overlay, state.2.disk)
      ∧ Life [.attached, .finished] (none, {}) ((none : Option MemoryStore), (Ending.dropped.after state).disk) := by
  obtain ⟨verified, descriptor, map, hverify, hready⟩ :=
    exists_ready twoBlocks twoBlocks.records (by decide)
  obtain ⟨written, hwrite, hwritten⟩ := hready.write [0x77, 0x77] rfl (by decide)
  have hcalls : ∀ start : Image MemoryStore × World, perform verify start = (.ok (), verified) →
      Operation.run [.verify, .write [0x77, 0x77]] start = written := by
    intro start hstart
    show (perform (write [0x77, 0x77]) (perform verify start).2).2 = _
    rw [hstart, hwrite]
  have hrun := hcalls _ hverify
  obtain ⟨hverified, -, -, -, -, hagain, -, -, hlife, hending⟩ := lifecycle hrun
  have hstage : written.1.stage.isVerified = true := by
    rw [hwritten.stage]
    rfl
  have hdata : ([0x77, 0x77] : Bytes).length = descriptor.blockSize := by
    rw [← hready.mirrors.layout.blockSize_eq]
    rfl
  have hsome : written.1.overlay.isSome = true := by
    obtain ⟨reached, hrun', -, -, hstore⟩ := write_one hready.stage hready.mode hready.overlay hready.setup
      hdata hready.mirrors.layout.blockSize_pos
      (by rw [hready.cursor, hready.mirrors.total_eq]; decide)
    obtain rfl : written = reached := (Prod.mk.inj (hwrite.symm.trans hrun')).2
    rw [hstore]
    rfl
  rw [hsome] at hlife hending
  refine ⟨written, hrun, ?_, hverified.mp hstage, hagain ?_, hlife, hending .dropped (by decide)⟩
  · rw [tell?, if_pos hstage, hwritten.cursor]
  · rw [hwritten.stage]
    rfl

end

end Image

end PartitionImage
