import PartitionImage.Proofs.Careful
import PartitionImage.Proofs.Image.Steps
/-!
# Two handles side by side

An overlay that fails without a trace, and one that does not fail, are asked for the same.  The handles that they are
attached to go on side by side, until one overlay fails; then the two may part, but only by what the other has done
since.

* `Image.Carries` is a verified handle whose overlay has the blocks of a map, `Image.Abreast` are two handles that
  stand at the same place, and `Image.Paired` two of them that carry the same blocks.
* `Image.Carries.seekOverlay` and `Image.Carries.readOverlay` are what one handle asks of its overlay,
  `Image.Paired.readRecord` is what both read of the image.
* `Image.Beside` says how a transfer of blocks ends beside one that the overlay does not fail: alike, or early, where
  the other has passed and goes on.
* `Image.Paired.readBlocks` and `Image.Paired.writeBlocks` are the transfers.
-/

namespace PartitionImage.Image

open PartitionImage.Action (perform perform_bind_ok perform_bind_error)

variable {O : Type} [Overlay O] {path : String} {backing : Backing} {origin : Disk} {descriptor : Descriptor}
  {map : BlockMap} {blocks : Nat → Option Bytes} {state other : Image O × World}

/-! ### One handle -/

/-- A verified handle whose overlay has the blocks of a map, or will have them once it is made. -/
structure Carries (care : Overlay.Careful O path descriptor.blockSize descriptor.totalBlocks backing origin)
    (map : BlockMap) (blocks : Nat → Option Bytes) (state : Image O × World) : Prop where
  stage : state.1.stage = .verified descriptor map
  route : state.1.route = path
  backing_eq : state.1.source.backing = backing
  verified : state.1.overlay.isSome = true → state.1.overlayVerified = true
  attached : ∀ store, state.1.overlay = some store → care.stores blocks (store, state.2.disk)
  resting : state.1.overlay = none → care.rests state.1.setup blocks state.2.disk

structure Abreast (state other : Image O × World) : Prop where
  source : other.1.source = state.1.source
  options : other.1.options = state.1.options
  cursor : other.1.cursor = state.1.cursor
  passed : other.1.passed = state.1.passed
  attached : other.1.overlay.isSome = state.1.overlay.isSome

theorem Abreast.symm (h : Abreast state other) : Abreast other state :=
  ⟨h.source.symm, h.options.symm, h.cursor.symm, h.passed.symm, h.attached.symm⟩

theorem Abreast.trans {third : Image O × World} (h : Abreast state other) (hnext : Abreast other third) :
    Abreast state third :=
  ⟨hnext.source.trans h.source, hnext.options.trans h.options, hnext.cursor.trans h.cursor,
    hnext.passed.trans h.passed, hnext.attached.trans h.attached⟩

theorem abreast_withOverlay {store : O} (hstore : state.1.overlay = some store) (reached : O × Disk) :
    Abreast state (withOverlay reached state) := by
  refine ⟨rfl, rfl, rfl, rfl, ?_⟩
  rw [hstore]
  rfl

variable {care : Overlay.Careful O path descriptor.blockSize descriptor.totalBlocks backing origin}

theorem Carries.unchanged (h : Carries care map blocks state) : backing.Unchanged origin state.2.disk := by
  cases hoverlay : state.1.overlay with
  | none => exact care.apart_rests (h.resting hoverlay)
  | some store => exact care.apart (h.attached store hoverlay)

theorem Carries.withOverlay (h : Carries care map blocks state) {store : O} (hstore : state.1.overlay = some store)
    {stored : Nat → Option Bytes} {reached : O × Disk} (hreached : care.stores stored reached) :
    Carries care map stored (withOverlay reached state) where
  stage := h.stage
  route := h.route
  backing_eq := h.backing_eq
  verified _ := h.verified (by rw [hstore]; rfl)
  attached found hfound := by
    cases hfound
    exact hreached
  resting hnone := nomatch hnone

/-- **The overlay moves without a trace**, whether it fails or not. -/
theorem Carries.seekOverlay (h : Carries care map blocks state) {block : Nat}
    (hblock : block ≤ descriptor.totalBlocks) :
    Carries care map blocks (perform (seekOverlay block) state).2
      ∧ Abreast state (perform (seekOverlay block) state).2 := by
  rw [perform_seekOverlay]
  cases hstore : state.1.overlay with
  | none => exact ⟨h, ⟨rfl, rfl, rfl, rfl, rfl⟩⟩
  | some store =>
    exact ⟨h.withOverlay hstore (care.seek (h.attached store hstore) hblock), abreast_withOverlay hstore _⟩

/-- The blocks that a handle gets from its overlay: none where there is no overlay yet. -/
def shown (blocks : Nat → Option Bytes) (state : Image O × World) (block : Nat) : Option Bytes :=
  if state.1.overlay.isSome then blocks block else none

theorem shown_eq (h : Abreast state other) (blocks : Nat → Option Bytes) :
    shown blocks other = shown blocks state := by
  funext block
  rw [shown, shown, h.attached]

/-- **The overlay answers without a trace**, and as it should unless it fails. -/
theorem Carries.readOverlay (h : Carries care map blocks state) {block : Nat} (hblock : block < descriptor.totalBlocks)
    {overlaid : Transfer Error Lookup} {reached : Image O × World}
    (hread : (readOverlay block descriptor.blockSize).run state = (overlaid, reached)) :
    Carries care map blocks reached ∧ Abreast state reached
      ∧ ∀ lookup, overlaid.result = .ok lookup → Overlay.Answers (shown blocks state block) overlaid := by
  have hsought := h.seekOverlay (Nat.le_of_lt hblock)
  rw [run_readOverlay, perform_seekOverlay] at hread
  rw [perform_seekOverlay] at hsought
  rw [shown]
  cases hstore : state.1.overlay with
  | none =>
    rw [hstore] at hread hsought
    dsimp only at hread
    rw [hstore] at hread
    obtain ⟨rfl, rfl⟩ := Prod.mk.inj hread
    exact ⟨h, hsought.2, fun _ _ => rfl⟩
  | some store =>
    rw [hstore] at hread hsought
    dsimp only at hread hsought
    rcases hseek : perform (Overlay.seek block) (store, state.2.disk) with ⟨result, sought⟩
    rw [hseek] at hread hsought
    cases result with
    | error error =>
      obtain ⟨rfl, rfl⟩ := Prod.mk.inj hread
      exact ⟨hsought.1, hsought.2, fun lookup hok => nomatch hok⟩
    | ok done =>
      obtain ⟨rfl, rfl⟩ := Prod.mk.inj hread
      obtain ⟨hstores, hanswers⟩ := care.read (h.attached store hstore) hblock hseek
      refine ⟨hsought.1.withOverlay rfl hstores, hsought.2.trans (abreast_withOverlay rfl _), fun lookup hok => ?_⟩
      exact (hanswers lookup (Action.mapError_eq_ok_iff.mp hok)).mapError Error.overlay

/-- An overlay that was moved knows whether it has the block. -/
theorem Carries.holds (h : Carries care map blocks state) {block : Nat} (hblock : block < descriptor.totalBlocks)
    {reached : Image O × World} (hseek : perform (Image.seekOverlay block) state = (.ok (), reached)) :
    reached.1.overlay.any Overlay.holds = (shown blocks state block).isSome := by
  rw [perform_seekOverlay] at hseek
  rw [shown]
  cases hstore : state.1.overlay with
  | none =>
    rw [hstore] at hseek
    cases hseek
    rw [hstore]
    rfl
  | some store =>
    rw [hstore] at hseek
    dsimp only at hseek
    rcases hmove : perform (Overlay.seek block) (store, state.2.disk) with ⟨result, sought⟩
    rw [hmove] at hseek
    obtain ⟨hresult, rfl⟩ := Prod.mk.inj hseek
    obtain rfl : result = .ok () := Action.mapError_eq_ok_iff.mp hresult
    exact care.holds (h.attached store hstore) hblock hmove

/-- **An overlay is made without a trace**, and has the blocks that it was to have unless that fails. -/
theorem Carries.attachOverlay (h : Carries care map blocks state) (hnone : state.1.overlay = none) :
    (∃ cause reached, perform (attachOverlay descriptor.blockSize descriptor.totalBlocks) state
        = (.error (.overlay cause), reached) ∧ Carries care map blocks reached ∧ Abreast state reached)
      ∨ ∃ store reached, perform (attachOverlay descriptor.blockSize descriptor.totalBlocks) state
          = (.ok (), reached)
        ∧ Carries care map blocks reached ∧ Abreast ({ state.1 with overlay := some store }, state.2) reached := by
  have hroute := h.route
  have hmake := care.make (h.resting hnone)
  rw [perform_attachOverlay, hroute]
  rcases hrun : perform (makeOverlay (O := O) state.1.setup path descriptor.blockSize descriptor.totalBlocks)
    state.2.disk with ⟨made, disk⟩
  rw [hrun] at hmake
  cases made with
  | error cause =>
    exact .inl ⟨cause, _, rfl, ⟨h.stage, rfl, h.backing_eq, h.verified,
      fun store hstore => (nomatch hnone.symm.trans hstore), fun _ => hmake⟩, ⟨rfl, rfl, rfl, rfl, rfl⟩⟩
  | ok store =>
    refine .inr ⟨store, _, rfl, ⟨h.stage, rfl, h.backing_eq, fun _ => rfl, fun found hfound => ?_,
      fun hnone => nomatch hnone⟩, ⟨rfl, rfl, rfl, rfl, rfl⟩⟩
    cases hfound
    exact hmake

/-! ### Two handles -/

/-- Two handles at the same place that carry the same blocks. -/
def Paired (care : Overlay.Careful O path descriptor.blockSize descriptor.totalBlocks backing origin)
    (map : BlockMap) (state other : Image O × World) : Prop :=
  ∃ blocks, Carries care map blocks state ∧ Carries care map blocks other ∧ Abreast state other

/-- **Both overlays move, unless the one fails.**  Then its handle is where it was before. -/
theorem Paired.seekOverlay (h : Paired care map state other) {block : Nat} (hblock : block ≤ descriptor.totalBlocks)
    {result : Except Error Unit} {reached reached' : Image O × World}
    (hrun : perform (seekOverlay block) state = (result, reached))
    (hrun' : perform (seekOverlay block) other = (.ok (), reached')) :
    (result = .ok () ∧ Paired care map reached reached')
      ∨ ∃ cause, result = .error (.overlay cause) ∧ Paired care map reached other := by
  obtain ⟨blocks, hstate, hother, habreast⟩ := h
  have hsought := hstate.seekOverlay hblock
  have hsought' := hother.seekOverlay hblock
  rw [hrun] at hsought
  rw [hrun'] at hsought'
  cases result with
  | ok done =>
    exact .inl ⟨rfl, blocks, hsought.1, hsought'.1, (hsought.2.symm.trans habreast).trans hsought'.2⟩
  | error error =>
    obtain ⟨cause, rfl⟩ := seekOverlay_error hrun
    exact .inr ⟨cause, rfl, blocks, hsought.1, hother, hsought.2.symm.trans habreast⟩

theorem Paired.ready_eq (h : Paired care map state other) (required : Readiness) :
    other.1.ready required = state.1.ready required := by
  obtain ⟨blocks, hstate, hother, habreast⟩ := h
  have hready : ∀ {some : Image O × World}, Carries care map blocks some →
      (some.1.overlay.isSome && some.1.overlayVerified) = some.1.overlay.isSome := by
    intro some hsome
    cases hoverlay : some.1.overlay.isSome with
    | false => rfl
    | true => rw [hsome.verified hoverlay]; rfl
  cases required with
  | writeReady =>
    rw [ready, ready, readOnly, readOnly, hstate.stage, hother.stage, habreast.options, Bool.and_assoc,
      Bool.and_assoc _ state.1.overlay.isSome, hready hstate, hready hother, habreast.attached]
  | _ => simp only [ready, readOnly, hstate.stage, hother.stage, habreast.options]

/-- **Both overlays are made, unless the one fails.**  Then its handle is where it was before. -/
theorem Paired.attachOverlay (h : Paired care map state other) (hnone : state.1.overlay = none)
    {result : Except Error Unit} {reached reached' : Image O × World}
    (hrun : perform (attachOverlay descriptor.blockSize descriptor.totalBlocks) state = (result, reached))
    (hrun' : perform (attachOverlay descriptor.blockSize descriptor.totalBlocks) other = (.ok (), reached')) :
    (result = .ok () ∧ Paired care map reached reached' ∧ reached.1.overlay.isSome = true
        ∧ reached.1.cursor = state.1.cursor ∧ reached.1.ready .writable = state.1.ready .writable)
      ∨ ∃ cause, result = .error (.overlay cause) ∧ Paired care map reached other := by
  obtain ⟨blocks, hstate, hother, habreast⟩ := h
  have hnone' : other.1.overlay = none :=
    Option.not_isSome_iff_eq_none.mp (by rw [habreast.attached, hnone]; exact Bool.false_ne_true)
  obtain ⟨cause, failed, hfailed, -⟩ | ⟨store', made', hmade', hcarries', hstill'⟩ := hother.attachOverlay hnone'
  · rw [hrun'] at hfailed
    cases hfailed
  rw [hrun'] at hmade'
  cases hmade'
  rcases hstate.attachOverlay hnone with
    ⟨cause, failed, hfailed, hcarries, hstill⟩ | ⟨store, made, hmade, hcarries, hstill⟩
  · rw [hrun] at hfailed
    cases hfailed
    exact .inr ⟨cause, rfl, blocks, hcarries, hother, hstill.symm.trans habreast⟩
  · rw [hrun] at hmade
    cases hmade
    have hboth : Abreast ({ state.1 with overlay := some store }, state.2)
        ({ other.1 with overlay := some store' }, other.2) :=
      ⟨habreast.source, habreast.options, habreast.cursor, habreast.passed, rfl⟩
    refine .inl ⟨rfl, ⟨blocks, hcarries, hcarries', (hstill.symm.trans hboth).trans hstill'⟩, hstill.attached,
      hstill.cursor, ?_⟩
    rw [ready, ready, readOnly, readOnly, hcarries.stage, hstate.stage, hstill.options]

theorem Paired.readSource (h : Paired care map state other) (offset n : Nat) :
    ((readSource offset n).run state).1 = ((readSource offset n).run other).1
      ∧ Paired care map ((readSource offset n).run state).2 ((readSource offset n).run other).2 := by
  obtain ⟨blocks, hstate, hother, habreast⟩ := h
  have hbacking := hstate.backing_eq
  have hread : other.1.source.readExact other.2.disk offset n = state.1.source.readExact state.2.disk offset n := by
    rw [habreast.source]
    exact (Source.readExact_unchanged (hbacking ▸ hother.unchanged) offset n).trans
      (Source.readExact_unchanged (hbacking ▸ hstate.unchanged) offset n).symm
  have hlater := state.1.source.readExact_later state.2.disk offset n
  refine ⟨?_, blocks, ?_, ?_, ?_⟩
  · show (state.1.source.readExact state.2.disk offset n).1 = (other.1.source.readExact other.2.disk offset n).1
    rw [hread]
  · exact ⟨hstate.stage, hstate.route, hlater.backing.trans hbacking, hstate.verified, hstate.attached,
      hstate.resting⟩
  · refine ⟨hother.stage, hother.route, ?_, hother.verified, hother.attached, hother.resting⟩
    show (other.1.source.readExact other.2.disk offset n).2.backing = _
    rw [hread]
    exact hlater.backing.trans hbacking
  · exact ⟨congrArg Prod.snd hread, habreast.options, habreast.cursor, habreast.passed, habreast.attached⟩

theorem Paired.readRecord (hsuits : map.Suits descriptor) (h : Paired care map state other) (number block : Nat) :
    ((readRecord map number block descriptor.blockSize).run state).1
        = ((readRecord map number block descriptor.blockSize).run other).1
      ∧ Paired care map ((readRecord map number block descriptor.blockSize).run state).2
        ((readRecord map number block descriptor.blockSize).run other).2 := by
  rw [run_readRecord hsuits, run_readRecord hsuits]
  split
  · exact ⟨rfl, h⟩
  split
  · obtain ⟨htransfer, hpaired⟩ := h.readSource (map.layout.recordStart number) map.layout.blockSize
    exact ⟨by rw [htransfer], hpaired⟩
  · obtain ⟨htransfer, hpaired⟩ := h.readSource
      (map.layout.recordStart number - trailerBefore map.layout number)
      (trailerBefore map.layout number + map.layout.recordSize)
    dsimp only
    rw [htransfer]
    split
    · exact ⟨rfl, hpaired⟩
    · exact ⟨rfl, hpaired⟩

theorem Paired.set (h : Paired care map state other) {cursor cursor' passed passed' : Nat} (hcursor : cursor' = cursor)
    (hpassed : passed' = passed) :
    Paired care map ({ state.1 with cursor := cursor, passed := passed }, state.2)
      ({ other.1 with cursor := cursor', passed := passed' }, other.2) := by
  obtain ⟨blocks, hstate, hother, habreast⟩ := h
  exact ⟨blocks,
    ⟨hstate.stage, hstate.route, hstate.backing_eq, hstate.verified, hstate.attached, hstate.resting⟩,
    ⟨hother.stage, hother.route, hother.backing_eq, hother.verified, hother.attached, hother.resting⟩,
    ⟨habreast.source, habreast.options, hcursor, hpassed, habreast.attached⟩⟩

theorem Paired.pass (h : Paired care map state other) (used : Bool) :
    Paired care map ((pass used).run state).2 ((pass used).run other).2 := by
  obtain ⟨-, -, -, habreast⟩ := id h
  refine h.set habreast.cursor ?_
  rw [habreast.passed]

theorem Paired.atBlock (h : Paired care map state other) (block : Nat) :
    Paired care map (atBlock block state) (atBlock block other) := by
  obtain ⟨-, -, -, habreast⟩ := id h
  exact h.set rfl habreast.passed

/-! ### A block that is read -/

theorem Carries.length_shown (h : Carries care map blocks state) {block : Nat} (hblock : block < descriptor.totalBlocks)
    {data : Bytes} (hdata : shown blocks state block = some data) : data.length = descriptor.blockSize := by
  rw [shown] at hdata
  cases hstore : state.1.overlay with
  | none =>
    rw [hstore] at hdata
    cases hdata
  | some store =>
    rw [hstore] at hdata
    exact care.length_eq (h.attached store hstore) hblock hdata

/-- **A block is read alike**, and is as long as a block, unless the overlay fails.  Then the handle is where it was
before. -/
theorem Paired.readBlock (hsuits : map.Suits descriptor) (h : Paired care map state other) {block : Nat}
    (hblock : block < descriptor.totalBlocks) {transfer transfer' : Transfer Error Unit}
    {reached reached' : Image O × World}
    (hrun : (readBlock map block descriptor.blockSize).run state = (transfer, reached))
    (hrun' : (readBlock map block descriptor.blockSize).run other = (transfer', reached'))
    (hclean : ∀ cause, transfer'.result ≠ .error (.overlay cause)) :
    (transfer = transfer' ∧ Paired care map reached reached'
        ∧ (transfer.result = .ok () → transfer.bytes.length = descriptor.blockSize))
      ∨ ∃ cause, transfer.result = .error (.overlay cause) ∧ Paired care map reached other := by
  obtain ⟨blocks, hstate, hother, habreast⟩ := h
  have hused : map.bitmap.get? block = some (map.bitmap.isSet block) :=
    map.bitmap.get?_eq_some (by rw [hsuits.length_eq]; exact hblock)
  rcases hask : (readOverlay block descriptor.blockSize).run state with ⟨overlaid, asked⟩
  rcases hask' : (readOverlay block descriptor.blockSize).run other with ⟨overlaid', asked'⟩
  obtain ⟨hcarries, hstill, hanswers⟩ := hstate.readOverlay hblock hask
  obtain ⟨hcarries', hstill', hanswers'⟩ := hother.readOverlay hblock hask'
  rw [shown_eq habreast] at hanswers'
  rw [run_readBlock hsuits hused hask] at hrun
  rw [run_readBlock hsuits hused hask'] at hrun'
  have hpaired : Paired care map asked asked' :=
    ⟨blocks, hcarries, hcarries', (hstill.symm.trans habreast).trans hstill'⟩
  cases hresult' : overlaid'.result with
  | error error =>
    obtain ⟨cause, rfl⟩ := readOverlay_error (congrArg (fun ended => ended.1.result) hask' |>.trans hresult')
    rw [hresult'] at hrun'
    cases hrun'
    exact absurd rfl (hclean cause)
  | ok lookup' =>
    cases hresult : overlaid.result with
    | error error =>
      obtain ⟨cause, rfl⟩ := readOverlay_error (congrArg (fun ended => ended.1.result) hask |>.trans hresult)
      rw [hresult] at hrun
      cases hrun
      exact .inr ⟨cause, rfl, blocks, hcarries, hother, hstill.symm.trans habreast⟩
    | ok lookup =>
      refine .inl ?_
      have hanswer := hanswers lookup hresult
      have hanswer' := hanswers' lookup' hresult'
      cases hshown : shown blocks state block with
      | some data =>
        rw [hshown] at hanswer hanswer'
        obtain rfl : overlaid = _ := hanswer
        obtain rfl : overlaid' = _ := hanswer'
        cases hrun
        cases hrun'
        exact ⟨rfl, hpaired.pass _, fun _ => hstate.length_shown hblock hshown⟩
      | none =>
        rw [hshown] at hanswer hanswer'
        obtain rfl : lookup = .notPresent := Except.ok.inj (hresult.symm.trans hanswer)
        obtain rfl : lookup' = .notPresent := Except.ok.inj (hresult'.symm.trans hanswer')
        rw [hresult] at hrun
        rw [hresult'] at hrun'
        cases hbit : map.bitmap.isSet block with
        | false =>
          rw [hbit] at hrun hrun'
          cases hrun
          cases hrun'
          exact ⟨rfl, hpaired, fun _ => List.length_replicate⟩
        | true =>
          rw [hbit] at hrun hrun'
          obtain ⟨-, -, -, hsame⟩ := id hpaired
          have hrecord := (hpaired.pass true).readRecord hsuits asked.1.passed block
          have hlength := length_readRecord hsuits asked.1.passed block ((Image.pass true).run asked).2
          rw [hsame.passed] at hrun'
          dsimp only at hrun hrun'
          rw [if_pos rfl] at hrun hrun'
          rw [hrun, hrun'] at hrecord
          rw [hrun] at hlength
          exact ⟨hrecord.1, hrecord.2, hlength⟩

/-! ### Blocks one after the other -/

/-- How a transfer of blocks ends beside one that the overlay does not fail: alike, or early.  Where it ends early the
other handle has been `between`, after the blocks that were done and with nothing else to tell the two apart, and what
it did from there is what is left. -/
inductive Beside {α : Type}
    (care : Overlay.Careful O path descriptor.blockSize descriptor.totalBlocks backing origin) (map : BlockMap)
    (start : Nat) (left : Nat → Image O × World → Transfer Error α × (Image O × World))
    (ended smooth : Transfer Error α × (Image O × World)) : Prop
  | alike (transfer_eq : ended.1 = smooth.1) (paired : Paired care map ended.2 smooth.2)
  | halted (cause : OverlayError) (done : Nat) (between : Image O × World)
      (failed : ended.1.result = .error (.overlay cause)) (cursor_eq : ended.2.1.cursor = start + done)
      (paired : Paired care map ended.2 between)
      (resumed : smooth = ((Transfer.complete (ended.1.bytes.take (done * descriptor.blockSize))).append
        (left done between).1, (left done between).2))

namespace Beside

variable {α : Type} {start : Nat}
  {left later : Nat → Image O × World → Transfer Error α × (Image O × World)}
  {ended smooth : Transfer Error α × (Image O × World)}

/-- The overlay fails before a block is done. -/
theorem at_once (cause : OverlayError) (hfailed : ended.1.result = .error (.overlay cause))
    (hcursor : other.1.cursor = start) (hpaired : Paired care map ended.2 other) (hsmooth : smooth = left 0 other) :
    Beside care map start left ended smooth := by
  obtain ⟨-, -, -, habreast⟩ := id hpaired
  refine .halted cause 0 other hfailed (habreast.cursor.symm.trans hcursor) hpaired ?_
  rw [Nat.zero_mul, List.take_zero, hsmooth]
  rfl

/-- A block is done, and then the others. -/
theorem step (h : Beside care map (start + 1) left ended smooth) (first : Transfer Error Unit)
    (hfirst : ∀ done, (first.bytes ++ ended.1.bytes).take ((done + 1) * descriptor.blockSize)
      = first.bytes ++ ended.1.bytes.take (done * descriptor.blockSize))
    (hleft : ∀ done between, left done between = later (done + 1) between) :
    Beside care map start later (first.append ended.1, ended.2) (first.append smooth.1, smooth.2) := by
  cases h with
  | alike transfer_eq paired => exact .alike (congrArg first.append transfer_eq) paired
  | halted cause done between failed cursor_eq paired resumed =>
    refine .halted cause (done + 1) between failed (by rw [cursor_eq]; omega) paired ?_
    rw [resumed, ← hleft]
    dsimp only [Transfer.append, Transfer.complete]
    rw [hfirst, List.append_assoc]

end Beside

/-- **Two reads go on alike until the overlay fails**, and the rest of the one that it does not fail is what is left
of the other. -/
theorem Paired.readBlocks (hsuits : map.Suits descriptor) (count : Nat) (h : Paired care map state other)
    (hclean : ∀ cause, ((readBlocks descriptor map count).run other).1.result ≠ .error (.overlay cause)) :
    Beside care map state.1.cursor (fun done between => (readBlocks descriptor map (count - done)).run between)
      ((readBlocks descriptor map count).run state) ((readBlocks descriptor map count).run other) := by
  induction count generalizing state other with
  | zero => exact .alike rfl h
  | succ count ih =>
    obtain ⟨-, -, -, habreast⟩ := id h
    by_cases hend : descriptor.totalBlocks ≤ state.1.cursor
    · rw [run_readBlocks_succ, run_readBlocks_succ, habreast.cursor, if_pos hend, if_pos hend]
      exact .alike rfl h
    · rcases hrun : (Image.readBlock map state.1.cursor descriptor.blockSize).run state with ⟨transfer, reached⟩
      rcases hrun' : (Image.readBlock map state.1.cursor descriptor.blockSize).run other with ⟨transfer', reached'⟩
      have hstate := run_readBlocks_succ descriptor map count state
      have hother := run_readBlocks_succ descriptor map count other
      rw [if_neg hend, hrun] at hstate
      rw [habreast.cursor, if_neg hend, hrun'] at hother
      have hfirst : ∀ cause, transfer'.result ≠ .error (.overlay cause) := by
        intro cause hcause
        refine hclean cause ?_
        rw [hother]
        dsimp only
        rw [hcause]
        exact hcause
      rcases h.readBlock hsuits (Nat.lt_of_not_le hend) hrun hrun' hfirst with
        ⟨rfl, hpaired, hlength⟩ | ⟨cause, hcause, hpaired⟩
      · cases hresult : transfer.result with
        | error error =>
          rw [hstate, hother]
          dsimp only
          rw [hresult]
          exact .alike rfl hpaired
        | ok done =>
          rw [hother] at hclean
          dsimp only at hstate hother hclean
          rw [hresult] at hstate hother hclean
          rw [hstate, hother]
          refine (ih (hpaired.atBlock (state.1.cursor + 1)) hclean).step transfer ?_ ?_
          · intro done
            rw [Nat.succ_mul, Nat.add_comm, ← hlength hresult, List.take_length_add_append]
          · intro done between
            rw [Nat.add_sub_add_right]
      · have hfailed : (Image.readBlocks descriptor map (count + 1)).run state = (transfer, reached) := by
          rw [hstate]
          dsimp only
          rw [hcause]
        rw [hfailed]
        exact .at_once cause hcause habreast.cursor hpaired rfl

/-- What an action ends with, as a transfer of no bytes. -/
def told {α : Type} (ended : Except Error α × (Image O × World)) : Transfer Error α × (Image O × World) :=
  (⟨[], ended.1⟩, ended.2)

/-- **A block is stored, or the overlay fails without a trace.** -/
theorem Carries.writeBlocks_succ (h : Carries care map blocks state) (hsome : state.1.overlay.isSome = true)
    (hblock : state.1.cursor < descriptor.totalBlocks) {data : Bytes} (hdata : descriptor.blockSize ≤ data.length)
    (count : Nat) :
    (∃ cause reached, perform (writeBlocks descriptor.blockSize descriptor.totalBlocks (count + 1) data) state
        = (.error (.overlay cause), reached) ∧ Carries care map blocks reached ∧ Abreast state reached)
      ∨ ∃ reached, perform (writeBlocks descriptor.blockSize descriptor.totalBlocks (count + 1) data) state
          = perform (writeBlocks descriptor.blockSize descriptor.totalBlocks count (data.drop descriptor.blockSize))
            (atBlock (state.1.cursor + 1) reached)
        ∧ Carries care map (Function.update blocks state.1.cursor (some (data.take descriptor.blockSize))) reached
        ∧ Abreast state reached := by
  obtain ⟨store, hstore⟩ := Option.isSome_iff_exists.mp hsome
  have hrun := perform_writeBlocks_succ hstore descriptor.blockSize descriptor.totalBlocks count data
  rw [if_neg (Nat.not_le_of_lt hblock)] at hrun
  have hsought := care.seek (h.attached store hstore) (Nat.le_of_lt hblock)
  rcases hseek : perform (Overlay.seek state.1.cursor) (store, state.2.disk) with ⟨result, sought⟩
  rw [hseek] at hrun hsought
  cases result with
  | error cause => exact .inl ⟨cause, _, hrun, h.withOverlay hstore hsought, abreast_withOverlay hstore _⟩
  | ok done =>
    dsimp only at hrun
    have hwrite := care.write (h.attached store hstore) hblock hseek
      (List.length_take_of_le hdata : (data.take descriptor.blockSize).length = _)
    rcases hstored : perform (Overlay.write (data.take descriptor.blockSize)) sought with ⟨result, written⟩
    rw [hstored] at hrun hwrite
    cases result with
    | error cause => exact .inl ⟨cause, _, hrun, h.withOverlay hstore hwrite, abreast_withOverlay hstore _⟩
    | ok done => exact .inr ⟨_, hrun, h.withOverlay hstore hwrite, abreast_withOverlay hstore _⟩

/-- **Two writes go on alike until the overlay fails**, and the rest of the one that it does not fail is what is left
of the other. -/
theorem Paired.writeBlocks (count : Nat) {data : Bytes} (h : Paired care map state other)
    (hsome : state.1.overlay.isSome = true) (hlength : count * descriptor.blockSize ≤ data.length)
    (hclean : ∀ cause, (perform (writeBlocks descriptor.blockSize descriptor.totalBlocks count data) other).1
      ≠ .error (.overlay cause)) :
    Beside care map state.1.cursor
      (fun done between => told (perform (writeBlocks descriptor.blockSize descriptor.totalBlocks (count - done)
        (data.drop (done * descriptor.blockSize))) between))
      (told (perform (writeBlocks descriptor.blockSize descriptor.totalBlocks count data) state))
      (told (perform (writeBlocks descriptor.blockSize descriptor.totalBlocks count data) other)) := by
  induction count generalizing state other data with
  | zero => exact .alike rfl h
  | succ count ih =>
    obtain ⟨blocks, hcarries, hcarries', habreast⟩ := id h
    have hsome' : other.1.overlay.isSome = true := habreast.attached.trans hsome
    by_cases hend : descriptor.totalBlocks ≤ state.1.cursor
    · obtain ⟨store, hstore⟩ := Option.isSome_iff_exists.mp hsome
      obtain ⟨store', hstore'⟩ := Option.isSome_iff_exists.mp hsome'
      rw [perform_writeBlocks_succ hstore, perform_writeBlocks_succ hstore', habreast.cursor, if_pos hend, if_pos hend]
      exact .alike rfl h
    · have hblock : state.1.cursor < descriptor.totalBlocks := Nat.lt_of_not_le hend
      rw [Nat.succ_mul] at hlength
      have hdata : descriptor.blockSize ≤ data.length := by omega
      have hother := hcarries'.writeBlocks_succ hsome' (habreast.cursor ▸ hblock) hdata count
      rw [habreast.cursor] at hother
      obtain ⟨cause, reached', hother, -⟩ | ⟨reached', hother, hreached', hstill'⟩ := hother
      · exact absurd (congrArg Prod.fst hother) (hclean cause)
      · rcases hcarries.writeBlocks_succ hsome hblock hdata count with
          ⟨cause, reached, hstate, hreached, hstill⟩ | ⟨reached, hstate, hreached, hstill⟩
        · rw [hstate]
          refine .at_once cause rfl habreast.cursor ⟨blocks, hreached, hcarries', hstill.symm.trans habreast⟩ ?_
          rw [Nat.zero_mul, List.drop_zero, Nat.sub_zero]
        · have hnext : Paired care map reached reached' :=
            ⟨_, hreached, hreached', (hstill.symm.trans habreast).trans hstill'⟩
          rw [hother] at hclean
          rw [hstate, hother]
          refine (ih (hnext.atBlock (state.1.cursor + 1)) (hstill.attached.trans hsome) ?_ hclean).step
            (.complete []) ?_ ?_
          · rw [List.length_drop]
            omega
          · intro done
            simp only [told, Transfer.complete, List.append_nil, List.take_nil]
          · intro done between
            rw [Nat.add_sub_add_right, List.drop_drop, Nat.succ_mul, Nat.add_comm descriptor.blockSize]

end PartitionImage.Image
