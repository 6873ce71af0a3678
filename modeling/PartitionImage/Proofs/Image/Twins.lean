import PartitionImage.Proofs.Image.Lifecycle
import PartitionImage.Proofs.Parallel
/-!
# Twins

Two handles that differ only by their sources, and by whether descriptors are taken strictly, do the same for ever if
no reading tells their sources apart.  Only a verification asks how descriptors are taken, when everything in the
image has been read.

* `Image.Twin` relates such handles, `Image.recast` makes one of the other.
* `Image.parallel_survey` is what a verification reads, `Image.Twin.verify` the whole of it.
* `Image.Twin.call` is any other call, `Image.Twin.run` any number of them, and `Image.Twin.ending` the end of a handle.
-/

namespace PartitionImage.Image

open PartitionImage.Action (perform perform_bind_ok perform_bind_error parallel_pure parallel_throw
  parallel_ofExcept parallel_bind parallel_get parallel_change parallel_attempt parallel_zoom)
open Source (Interchangeable Alongside)

variable {O : Type} [Overlay O] {alike : Source → Source → Prop} {flags : Bool → Bool → Prop}

/-- The state with another source, and with descriptors taken strictly or not. -/
def recast (source : Source) (strict : Bool) (state : Image O × World) : Image O × World :=
  ({ state.1 with source := source, options := { state.1.options with strict := strict } }, state.2)

/-- Two handles that are the same but for their sources and how they take descriptors. -/
inductive Twin (alike : Source → Source → Prop) (flags : Bool → Bool → Prop) (state : Image O × World) :
    Image O × World → Prop
  | mk {source : Source} {strict : Bool} : alike state.1.source source → flags state.1.options.strict strict →
    Twin alike flags state (recast source strict state)

/-! ### The parts of an operation -/

theorem parallel_update {change : Image O → Image O}
    (hkeeps : ∀ image, (change image).source = image.source ∧ (change image).options = image.options)
    (hrecast : ∀ source strict (state : Image O × World),
      (change (recast source strict state).1, state.2) = recast source strict (change state.1, state.2)) :
    Parallel (Twin alike flags) (update change).run := by
  refine parallel_change ?_
  rintro state _ ⟨halike, hflags⟩
  obtain ⟨hsource, hoptions⟩ := hkeeps state.1
  show Twin alike flags (change state.1, state.2) (change (recast _ _ state).1, state.2)
  rw [hrecast]
  exact .mk (hsource.symm ▸ halike) (hoptions.symm ▸ hflags)

theorem parallel_reach (stage : Stage) : Parallel (Twin (O := O) alike flags) (reach stage).run :=
  parallel_update (fun _ => ⟨rfl, rfl⟩) fun _ _ _ => rfl

theorem parallel_onOverlay {α : Type} (store : O) (act : Action (O × Disk) OverlayError α) :
    Parallel (Twin alike flags) (onOverlay store act).run := by
  rintro state _ ⟨halike, hflags⟩
  exact ⟨rfl, .mk halike hflags⟩

theorem parallel_onWorld {α ε : Type} (act : Action World ε α) :
    Parallel (Twin (O := O) alike flags) (Action.onWorld act : Action (Image O × World) ε α).run := by
  rintro state _ ⟨halike, hflags⟩
  exact ⟨rfl, .mk halike hflags⟩

theorem parallel_onSource {α : Type} {act : Action (Source × World) Error α} (h : Parallel (Alongside alike) act.run) :
    Parallel (Twin (O := O) alike flags) (onSource act).run := by
  refine parallel_zoom h ?_ ?_
  · rintro state _ ⟨halike, -⟩
    exact ⟨halike, rfl⟩
  · rintro state _ ⟨-, hflags⟩ ⟨reached, world⟩ ⟨reached', world'⟩ ⟨halike, hworld⟩
    obtain rfl : world' = world := hworld
    exact .mk halike hflags

theorem parallel_require (required : Readiness) : Parallel (Twin (O := O) alike flags) (require required).run := by
  refine parallel_get ?_ fun state => ?_
  · rintro state _ ⟨-, -⟩
    cases required <;> rfl
  · split
    · exact parallel_throw _
    · exact parallel_pure _

theorem parallel_readyMap : Parallel (Twin (O := O) alike flags) readyMap.run := by
  refine parallel_get ?_ fun state => ?_
  · rintro state _ ⟨-, -⟩
    rfl
  · split
    · exact parallel_pure _
    · exact parallel_throw _

theorem parallel_requireBlock (total : Nat) : Parallel (Twin (O := O) alike flags) (requireBlock total).run := by
  refine parallel_get ?_ fun (image, world) => ?_
  · rintro state _ ⟨-, -⟩
    rfl
  · dsimp only
    split
    · exact parallel_throw _
    · exact parallel_pure _

theorem parallel_requireWhole (length blockSize : Nat) :
    Parallel (Twin (O := O) alike flags) (requireWhole length blockSize).run := by
  rw [requireWhole]
  split
  · exact parallel_throw _
  · exact parallel_pure _

theorem parallel_seekOverlay (block : Nat) : Parallel (Twin (O := O) alike flags) (seekOverlay block).run := by
  refine parallel_get ?_ fun state => ?_
  · rintro state _ ⟨-, -⟩
    rfl
  · split
    · exact parallel_onOverlay _ _
    · exact parallel_pure _

/-! ### Access to blocks -/

theorem parallel_seek (block : Nat) : Parallel (Twin (O := O) alike flags) (seek block).run := by
  refine parallel_bind parallel_readyMap ?_
  rintro ⟨descriptor, map⟩
  dsimp only
  cases map.index.preceding? map.bitmap block with
  | none =>
    dsimp only
    split
    · exact parallel_bind (parallel_throw _) fun _ => parallel_throw _
    · exact parallel_throw _
  | some passed =>
    have hmove : Parallel (Twin (O := O) alike flags) (do
        seekOverlay block
        update fun image => { image with passed := passed, cursor := block } : Action _ Error Unit).run :=
      parallel_bind (parallel_seekOverlay block) fun _ => parallel_update (fun _ => ⟨rfl, rfl⟩) fun _ _ _ => rfl
    dsimp only
    split
    · exact parallel_bind (parallel_throw _) fun _ => hmove
    · exact hmove

theorem parallel_isUsed : Parallel (Twin (O := O) alike flags) isUsed.run := by
  refine parallel_bind parallel_readyMap fun (descriptor, map) => parallel_bind (parallel_requireBlock _) fun _ =>
    parallel_get ?_ fun state => parallel_bind (parallel_seekOverlay _) fun _ => parallel_get ?_ fun state => ?_
  · rintro state _ ⟨-, -⟩
    rfl
  · rintro state _ ⟨-, -⟩
    rfl
  · split
    · exact parallel_pure _
    · split
      · exact parallel_pure _
      · exact parallel_throw _

theorem parallel_sync : Parallel (Twin (O := O) alike flags) sync.run := by
  refine parallel_bind (parallel_require _) fun _ => parallel_get ?_ fun state => ?_
  · rintro state _ ⟨-, -⟩
    rfl
  · split
    · exact parallel_onOverlay _ _
    · exact parallel_throw _

theorem parallel_writeBlocks (blockSize total count : Nat) (data : Bytes) :
    Parallel (Twin (O := O) alike flags) (writeBlocks blockSize total count data).run := by
  induction count generalizing data with
  | zero => exact parallel_pure _
  | succ count ih =>
    refine parallel_bind (parallel_requireBlock _) fun _ => parallel_get ?_ fun state =>
      parallel_bind (parallel_seekOverlay _) fun _ => parallel_get ?_ fun state => ?_
    · rintro state _ ⟨-, -⟩
      rfl
    · rintro state _ ⟨-, -⟩
      rfl
    · split
      · exact parallel_bind (parallel_onOverlay _ _) fun _ => parallel_bind
          (parallel_update (fun _ => ⟨rfl, rfl⟩) fun _ _ _ => rfl) fun _ => ih _
      · exact parallel_throw _

theorem parallel_settleOverlayPath : Parallel (Twin (O := O) alike flags) settleOverlayPath.run := by
  refine parallel_get ?_ fun (image, world) => parallel_bind
    (parallel_update (fun _ => ⟨rfl, rfl⟩) fun _ _ _ => rfl) fun _ => parallel_pure _
  rintro state _ ⟨-, -⟩
  rfl

theorem parallel_attachOverlay (blockSize totalBlocks : Nat) :
    Parallel (Twin (O := O) alike flags) (attachOverlay blockSize totalBlocks).run := by
  refine parallel_bind parallel_settleOverlayPath fun path => parallel_get ?_ fun (image, world) =>
    parallel_bind (parallel_onWorld _) fun store => parallel_update (fun _ => ⟨rfl, rfl⟩) fun _ _ _ => rfl
  rintro state _ ⟨-, -⟩
  rfl

theorem parallel_write (data : Bytes) : Parallel (Twin (O := O) alike flags) (write data).run := by
  refine parallel_bind (parallel_require _) fun _ => parallel_bind parallel_readyMap fun (descriptor, map) =>
    parallel_bind (parallel_requireWhole _ _) fun _ => parallel_get ?_ fun state => ?_
  · rintro state _ ⟨-, -⟩
    rfl
  · dsimp only
    split
    · exact parallel_bind (parallel_attachOverlay _ _) fun _ => parallel_writeBlocks _ _ _ _
    · exact parallel_writeBlocks _ _ _ _

/-! ### Reading blocks -/

theorem parallel_readSource (h : Interchangeable alike) (offset n : Nat) :
    Parallel (Twin (O := O) alike flags) (readSource offset n) := by
  rintro state _ ⟨halike, hflags⟩
  obtain ⟨htransfer, hreached⟩ := h.read halike state.2.disk offset n
  exact ⟨htransfer, .mk hreached hflags⟩

theorem parallel_readRecord (h : Interchangeable alike) (map : BlockMap) (number block length : Nat) :
    Parallel (Twin (O := O) alike flags) (readRecord map number block length) := by
  rw [readRecord]
  split
  case h_2 => exact .pure _
  split
  · exact .bind (parallel_readSource h _ _) fun _ => .pure _
  · split
    · refine .bind (parallel_readSource h _ _) fun transfer => ?_
      split
      · exact .pure _
      · exact .pure _
    · exact .pure _

theorem parallel_readOverlay (block blockSize : Nat) :
    Parallel (Twin (O := O) alike flags) (readOverlay block blockSize) := by
  refine .bind (parallel_seekOverlay block) fun result => ?_
  split
  · exact .pure _
  · refine .get ?_ fun state => ?_
    · rintro state _ ⟨-, -⟩
      rfl
    · split
      · next store _ =>
        refine .bind ?_ fun _ => .pure _
        rintro state _ ⟨halike, hflags⟩
        exact ⟨rfl, .mk halike hflags⟩
      · exact .pure _

theorem parallel_pass (used : Bool) : Parallel (Twin (O := O) alike flags) (pass used) := by
  refine .change ?_
  rintro state _ ⟨halike, hflags⟩
  exact .mk halike hflags

theorem parallel_readBlock (h : Interchangeable alike) (map : BlockMap) (block length : Nat) :
    Parallel (Twin (O := O) alike flags) (readBlock map block length) := by
  rw [readBlock]
  split
  · next used _ =>
    refine .bind (parallel_readOverlay _ _) fun overlaid => ?_
    split
    · exact .pure _
    · exact .bind (parallel_pass _) fun _ => .pure _
    · split
      · refine .get ?_ fun state => .bind (parallel_pass _) fun _ => parallel_readRecord h _ _ _ _
        rintro state _ ⟨-, -⟩
        rfl
      · split
        · exact .pure _
        · exact .pure _
  · exact .pure _

theorem parallel_readBlocks (h : Interchangeable alike) (descriptor : Descriptor) (map : BlockMap) (count : Nat) :
    Parallel (Twin (O := O) alike flags) (readBlocks descriptor map count) := by
  induction count with
  | zero => exact .pure _
  | succ count ih =>
    refine .get ?_ fun state => ?_
    · rintro state _ ⟨-, -⟩
      rfl
    · dsimp only
      split
      · exact .pure _
      · refine .bind (parallel_readBlock h _ _ _) fun transfer => ?_
        split
        · exact .pure _
        · refine .bind (.change ?_) fun _ => .bind ih fun _ => .pure _
          rintro state _ ⟨halike, hflags⟩
          exact .mk halike hflags

theorem parallel_read (h : Interchangeable alike) (length : Nat) :
    Parallel (Twin (O := O) alike flags) (read length) := by
  refine .get ?_ fun state => ?_
  · rintro state _ ⟨-, -⟩
    rfl
  · split
    · split
      · exact .pure _
      · exact parallel_readBlocks h _ _ _
    · exact .pure _

/-! ### Verification -/

theorem parallel_warn (warning : Warning) :
    Parallel (Twin (O := O) alike flags) (Action.warn warning : Action (Image O × World) Error Unit).run := by
  refine parallel_change ?_
  rintro state _ ⟨halike, hflags⟩
  exact .mk halike hflags

theorem parallel_initOverlay (blockSize totalBlocks : Nat) :
    Parallel (Twin (O := O) alike flags) (initOverlay blockSize totalBlocks).run := by
  refine parallel_get ?_ fun (image, world) => ?_
  · rintro state _ ⟨-, -⟩
    rfl
  · dsimp only
    split
    · exact parallel_pure _
    · split
      · refine parallel_bind (parallel_attempt (parallel_onWorld _)) fun opened => ?_
        split
        · exact parallel_update (fun _ => ⟨rfl, rfl⟩) fun _ _ _ => rfl
        · exact parallel_warn _
      · exact parallel_pure _
    · exact parallel_bind parallel_settleOverlayPath fun path => parallel_bind (parallel_onWorld _) fun store =>
        parallel_update (fun _ => ⟨rfl, rfl⟩) fun _ _ _ => rfl

theorem parallel_repairDeviceSize (descriptor : Descriptor) :
    Parallel (Twin (O := O) alike flags) (repairDeviceSize descriptor).run := by
  unfold repairDeviceSize
  dsimp only
  split
  · exact parallel_pure _
  · exact parallel_bind (parallel_warn _) fun _ => parallel_pure _

theorem parallel_repairUsedBlocks (strict : Bool) (descriptor : Descriptor) (scanned : Nat) :
    Parallel (Twin (O := O) alike flags) (repairUsedBlocks strict descriptor scanned).run := by
  unfold repairUsedBlocks
  split
  · exact parallel_pure _
  · split
    · exact parallel_bind (parallel_throw _) fun _ => parallel_bind (parallel_warn _) fun _ => parallel_pure _
    · exact parallel_bind (parallel_warn _) fun _ => parallel_pure _

theorem parallel_verifyOverlay : Parallel (Twin (O := O) alike flags) verifyOverlay.run := by
  refine parallel_get ?_ fun state => ?_
  · rintro state _ ⟨-, -⟩
    rfl
  · split
    · exact parallel_bind (parallel_onOverlay _ _) fun _ => parallel_update (fun _ => ⟨rfl, rfl⟩) fun _ _ _ => rfl
    · exact parallel_pure _

/-- **Everything in the image is read alike**, whether descriptors are taken strictly or not. -/
theorem parallel_survey (h : Interchangeable alike) (factor : Nat) :
    Parallel (Twin (O := O) alike flags) (survey factor).run := by
  refine parallel_bind (parallel_require _) fun _ => parallel_bind
    (parallel_onSource (BlockMap.parallel_readVersion h)) fun version => parallel_bind (parallel_reach _) fun _ => ?_
  split
  · next format _ =>
    refine parallel_bind (parallel_reach _) fun _ => parallel_bind
      (parallel_onSource (BlockMap.parallel_readDescriptor h format)) fun (descriptor, layout) => ?_
    exact parallel_bind (parallel_reach _) fun _ => parallel_bind (parallel_initOverlay _ _) fun _ =>
      parallel_bind (parallel_onSource (BlockMap.parallel_load h _ _ _ _)) fun map =>
      parallel_bind (parallel_repairDeviceSize _) fun descriptor => parallel_bind (parallel_reach _) fun _ =>
      parallel_pure _
  · exact parallel_throw _

theorem parallel_settle (strict : Bool) (descriptor : Descriptor) (layout : RecordLayout) (map : BlockMap) :
    Parallel (Twin (O := O) alike flags) (settle strict descriptor layout map).run :=
  parallel_bind (parallel_repairUsedBlocks _ _ _) fun _ => parallel_bind (parallel_reach _) fun _ =>
    parallel_bind parallel_verifyOverlay fun _ => parallel_update (fun _ => ⟨rfl, rfl⟩) fun _ _ _ => rfl

/-! ### Calls -/

variable {state other : Image O × World}

theorem Twin.eq (htwin : Twin alike Eq state other) :
    other = ({ state.1 with source := other.1.source }, state.2) := by
  obtain ⟨-, rfl⟩ := htwin
  rfl

/-- **A verification goes alike** if descriptors are taken alike. -/
theorem Twin.verify (h : Interchangeable alike) (htwin : Twin alike Eq state other) :
    (perform verify other).1 = (perform verify state).1
      ∧ Twin alike Eq (perform verify state).2 (perform verify other).2 := by
  have hstrict : other.1.options.strict = state.1.options.strict := by
    obtain ⟨-, hflags⟩ := htwin
    exact hflags.symm
  have hfactor : other.1.options.factor = state.1.options.factor := by
    obtain ⟨-, -⟩ := htwin
    rfl
  rw [perform_verify_eq, perform_verify_eq, hstrict, hfactor]
  exact parallel_bind (parallel_survey h _) (fun _ => parallel_settle _ _ _ _) state other htwin

/-- **Every other call goes alike**, however descriptors are taken. -/
theorem Twin.call (h : Interchangeable alike) (htwin : Twin alike flags state other) {operation : Operation}
    (hoperation : operation ≠ .verify) :
    operation.answer other = operation.answer state
      ∧ Twin alike flags (operation.after state) (operation.after other) := by
  have htold : ∀ {α : Type} (told : α → Option Bool) {result result' : Except Error α}, result' = result →
      (⟨[], result'.map told⟩ : Transfer Error (Option Bool)) = ⟨[], result.map told⟩ := by
    rintro α told result _ rfl
    rfl
  cases operation with
  | verify => exact absurd rfl hoperation
  | seek block =>
    obtain ⟨hresult, hafter⟩ := parallel_seek block state other htwin
    exact ⟨htold _ hresult, hafter⟩
  | read length =>
    obtain ⟨hresult, hafter⟩ := parallel_read h length state other htwin
    refine ⟨?_, hafter⟩
    show (⟨((read length).run other).1.bytes, ((read length).run other).1.result.map fun _ => none⟩
      : Transfer Error (Option Bool)) = _
    rw [hresult]
    rfl
  | isUsed =>
    obtain ⟨hresult, hafter⟩ := parallel_isUsed state other htwin
    exact ⟨htold _ hresult, hafter⟩
  | write data =>
    obtain ⟨hresult, hafter⟩ := parallel_write data state other htwin
    exact ⟨htold _ hresult, hafter⟩
  | sync =>
    obtain ⟨hresult, hafter⟩ := parallel_sync state other htwin
    exact ⟨htold _ hresult, hafter⟩

/-- **They end alike.** -/
theorem Twin.ending (htwin : Twin alike flags state other) (ending : Ending) :
    ending.after other = ending.after state := by
  obtain ⟨-, -⟩ := htwin
  cases ending with
  | kept => rfl
  | closed => rfl
  | dropped => rfl

/-- **Two handles whose sources cannot be told apart do the same for ever.** -/
theorem Twin.run (h : Interchangeable alike) (htwin : Twin alike Eq state other) (operations : List Operation) :
    Twin alike Eq (Operation.run operations state) (Operation.run operations other) := by
  induction operations generalizing state other with
  | nil => exact htwin
  | cons operation operations ih =>
    by_cases hoperation : operation = .verify
    · subst hoperation
      exact ih (htwin.verify h).2
    · exact ih (htwin.call h hoperation).2

/-! ### Past the verification -/

/-- Once a verification has begun none can be, so that it does not matter any more how descriptors are taken. -/
theorem Twin.call_past (h : Interchangeable alike) (htwin : Twin alike flags state other)
    (hpast : state.1.stage.isOpened = false) (operation : Operation) :
    operation.answer other = operation.answer state
      ∧ Twin alike flags (operation.after state) (operation.after other) := by
  by_cases hoperation : operation = .verify
  · subst hoperation
    have hpast' : other.1.stage.isOpened = false := by
      obtain ⟨-, -⟩ := htwin
      exact hpast
    have hstate : perform BlockDevice.verify state = _ := perform_verify_of_not_opened hpast
    have hother : perform BlockDevice.verify other = _ := perform_verify_of_not_opened hpast'
    rw [Operation.answer, Operation.answer, Operation.after, Operation.after, hstate, hother]
    exact ⟨rfl, htwin⟩
  · exact htwin.call h hoperation

/-- A handle past its verification stays past it. -/
theorem Reached.past_run {source : Source} {path : String} {options : OpenOptions} {setup : Overlay.Setup O}
    {world : World} (hreached : Reached source path options setup world state)
    (hpast : state.1.stage.isOpened = false) (operations : List Operation) :
    (Operation.run operations state).1.stage.isOpened = false := by
  have hrank := hreached.rank_le_run operations
  rw [Stage.isOpened, beq_eq_false_iff_ne] at hpast ⊢
  omega

/-- **Past the verification two handles do the same for ever**, however they take descriptors. -/
theorem Twin.run_past (h : Interchangeable alike) {source : Source} {path : String} {options : OpenOptions}
    {setup : Overlay.Setup O} {world : World} (hreached : Reached source path options setup world state)
    (hpast : state.1.stage.isOpened = false) (htwin : Twin alike flags state other) (operations : List Operation) :
    Twin alike flags (Operation.run operations state) (Operation.run operations other) := by
  induction operations generalizing state other with
  | nil => exact htwin
  | cons operation operations ih =>
    exact ih (hreached.after operation) (hreached.past_run hpast [operation]) (htwin.call_past h hpast operation).2

end PartitionImage.Image
