import PartitionImage.Proofs.Image.Abreast
import PartitionImage.Proofs.Image.Coherence
/-!
# Calls that the overlay fails

A call that fails because of the overlay leaves the handle after the blocks that were done.  Whoever makes the call
again for the blocks that it has left gets in the end what would have come of a single call, if only the overlay fails
without a trace.

* `Image.Halts` says where a call that the overlay fails leaves the handle.
* `Operation.Insists` is a caller that makes a call again and again until the overlay does not fail it.
* `Image.Paired.call` is one call on two handles side by side, `Image.Paired.insists` a caller that insists on it.
* `Image.answers_of_insists` is about any calls on any verified handle.
-/

namespace PartitionImage

/-! ### A caller that insists -/

namespace Operation

/-- The call that is made again, for the blocks that it has left. -/
def rest (blockSize done : Nat) : Operation → Operation
  | read length => read (length - done * blockSize)
  | write data => write (data.drop (done * blockSize))
  | operation => operation

variable {D : Type} [BlockDevice D]

/-- What the caller is told, and the state that is left. -/
def call (state : D × World) (operation : Operation) : Transfer Error (Option Bool) × (D × World) :=
  (operation.answer state, operation.after state)

/-- What a caller is told in the end who makes a call again for the blocks that it has left, as long as it is the
overlay that fails: the bytes of the blocks that were done, and then what the last call has told. -/
inductive Insists (blockSize : Nat) :
    Operation → D × World → Transfer Error (Option Bool) → D × World → Prop
  | settled {operation : Operation} {state : D × World}
      (settled : ∀ cause, operation.error? state ≠ some (.overlay cause)) :
      Insists blockSize operation state (operation.answer state) (operation.after state)
  | again {operation : Operation} {state last : D × World} {cause : OverlayError} {done : Nat}
      {answer : Transfer Error (Option Bool)} (failed : operation.error? state = some (.overlay cause))
      (moved : BlockDevice.tell? (operation.after state).1 = (BlockDevice.tell? state.1).map (· + done))
      (again : Insists blockSize (operation.rest blockSize done) (operation.after state) answer last) :
      Insists blockSize operation state
        ((Transfer.complete ((operation.answer state).bytes.take (done * blockSize))).append answer) last

/-- A call that the overlay does not fail is not made again. -/
theorem Insists.of_call {blockSize : Nat} {operation : Operation} {state last : D × World}
    {answer : Transfer Error (Option Bool)} (hcall : operation.call state = (answer, last))
    (hanswer : ∀ cause, answer.result ≠ .error (.overlay cause)) :
    operation.Insists blockSize state answer last := by
  obtain ⟨rfl, rfl⟩ := Prod.mk.inj hcall
  refine .settled fun cause hcause => hanswer cause ?_
  rw [← failure?_answer] at hcause
  exact failure?_eq_some_iff.mp hcause

/-- A caller that insists on each of its calls. -/
inductive InsistsAll (blockSize : Nat) :
    List Operation → D × World → List (Transfer Error (Option Bool)) → D × World → Prop
  | nil (state : D × World) : InsistsAll blockSize [] state [] state
  | cons {operation : Operation} {operations : List Operation} {state between last : D × World}
      {answer : Transfer Error (Option Bool)} {answers : List (Transfer Error (Option Bool))}
      (first : Insists blockSize operation state answer between)
      (others : InsistsAll blockSize operations between answers last) :
      InsistsAll blockSize (operation :: operations) state (answer :: answers) last

def answers (state : D × World) : List Operation → List (Transfer Error (Option Bool))
  | [] => []
  | operation :: operations => operation.answer state :: answers (operation.after state) operations

/-- None of the calls is failed by the overlay. -/
def Smooth (state : D × World) : List Operation → Prop
  | [] => True
  | operation :: operations =>
    (∀ cause, operation.error? state ≠ some (.overlay cause)) ∧ Smooth (operation.after state) operations

end Operation

namespace Image

open PartitionImage.Action (perform perform_bind_ok perform_bind_error)

variable {O : Type} [Overlay O] {path : String} {backing : Backing} {origin : Disk} {descriptor : Descriptor}
  {map : BlockMap} {blocks : Nat → Option Bytes} {state other : Image O × World}

/-! ### Where a failed call ends -/

theorem readBlocks_refused (hsuits : map.Suits descriptor) (count : Nat) {transfer : Transfer Error Unit}
    {cause : OverlayError} {reached : Image O × World}
    (hrun : (readBlocks descriptor map count).run state = (transfer, reached))
    (hfailed : transfer.result = .error (.overlay cause)) :
    ∃ done, done < count ∧ Moves done (map.bitmap.count state.1.cursor done) state reached := by
  induction count generalizing state transfer with
  | zero =>
    cases hrun
    cases hfailed
  | succ count ih =>
    rw [run_readBlocks_succ] at hrun
    by_cases hend : descriptor.totalBlocks ≤ state.1.cursor
    · rw [if_pos hend] at hrun
      cases hrun
      cases hfailed
    · rw [if_neg hend] at hrun
      have hused : map.bitmap.get? state.1.cursor = some (map.bitmap.isSet state.1.cursor) :=
        map.bitmap.get?_eq_some (by rw [hsuits.length_eq]; omega)
      rcases hfirst : (readBlock map state.1.cursor descriptor.blockSize).run state with ⟨first, middle⟩
      rw [hfirst] at hrun
      dsimp only at hrun
      rcases readBlock_end hsuits hused hfirst with
        ⟨hok, hmoves⟩ | ⟨other, hother, hstill⟩ | ⟨error, herror, hfault, -, -⟩
      · rw [hok] at hrun
        obtain ⟨rfl, rfl⟩ := Prod.mk.inj hrun
        obtain ⟨done, hdone, hrest⟩ := ih rfl hfailed
        have hnext : Moves 1 (if map.bitmap.isSet state.1.cursor then 1 else 0) state
            (atBlock (state.1.cursor + 1) middle) :=
          ⟨hmoves.source, hmoves.stage, hmoves.options, rfl, hmoves.passed⟩
        have hsum := hnext.trans hrest
        rw [hnext.cursor, ← Bitmap.count_succ', Nat.add_comm 1] at hsum
        exact ⟨done + 1, Nat.succ_lt_succ hdone, hsum⟩
      · rw [hother] at hrun
        obtain ⟨-, rfl⟩ := Prod.mk.inj hrun
        exact ⟨0, Nat.succ_pos count, hstill⟩
      · rw [herror] at hrun
        obtain ⟨rfl, -⟩ := Prod.mk.inj hrun
        rw [herror] at hfailed
        cases hfailed
        rcases hfault with hfault | hfault
        · cases hfault
        · cases hfault

theorem writeBlocks_refused {blockSize total : Nat} (count : Nat) {data : Bytes} {cause : OverlayError}
    {reached : Image O × World} (hsome : state.1.overlay.isSome = true)
    (hrun : perform (writeBlocks blockSize total count data) state = (.error (.overlay cause), reached)) :
    ∃ done, done < count ∧ Moves done 0 state reached ∧ reached.1.overlay.isSome = true := by
  induction count generalizing state data with
  | zero => cases hrun
  | succ count ih =>
    obtain ⟨store, hstore⟩ := Option.isSome_iff_exists.mp hsome
    rw [perform_writeBlocks_succ hstore] at hrun
    split at hrun
    · cases hrun
    · split at hrun
      · cases hrun
        exact ⟨0, Nat.succ_pos count, withOverlay_still _ _, rfl⟩
      · split at hrun
        · cases hrun
          exact ⟨0, Nat.succ_pos count, withOverlay_still _ _, rfl⟩
        · next written _ =>
          obtain ⟨done, hdone, hrest, hkept⟩ := ih rfl hrun
          have hnext : Moves 1 0 state (atBlock (state.1.cursor + 1) (withOverlay written state)) :=
            ⟨.refl _, rfl, rfl, rfl, rfl⟩
          have hsum := hnext.trans hrest
          rw [Nat.add_comm 1] at hsum
          exact ⟨done + 1, Nat.succ_lt_succ hdone, hsum, hkept⟩

/-- Where a handle is that a call has left which the overlay failed: a read or a write has done some of its blocks
and has passed them, one that could not attach an overlay none, and nothing else has moved. -/
def Halts (descriptor : Descriptor) (map : BlockMap) (state : Image O × World) (operation : Operation) : Prop :=
  match operation with
  | .read length => ∃ done, done * descriptor.blockSize < length
      ∧ Moves done (map.bitmap.count state.1.cursor done) state (operation.after state)
  | .write data => ∃ done, Moves done 0 state (operation.after state)
      ∧ if (operation.after state).1.overlay.isSome then done * descriptor.blockSize < data.length else done = 0
  | _ => Still state (operation.after state)

theorem mul_lt_of_lt_div {done length blockSize : Nat} (hpos : 0 < blockSize) (h : done < length / blockSize) :
    done * blockSize < length :=
  Nat.lt_of_lt_of_le (Nat.mul_lt_mul_of_pos_right h hpos) (Nat.div_mul_le_self length blockSize)

section

variable {options : OpenOptions} {cause : OverlayError}

theorem Coherent.seek_refused (h : Coherent options descriptor map state.1) {block : Nat}
    (hrun : (perform (Image.seek block) state).1 = .error (.overlay cause)) :
    Still state (perform (Image.seek block) state).2 := by
  have hstill := seekOverlay_still block state
  rw [perform_seek h.suits h.stage] at hrun ⊢
  split at hrun
  · cases hrun
  · next hrange =>
    rw [if_neg hrange]
    rcases hmove : perform (seekOverlay block) state with ⟨result, reached⟩
    rw [hmove] at hrun hstill
    cases result with
    | error error => exact hstill
    | ok done => cases hrun

theorem Coherent.read_refused (h : Coherent options descriptor map state.1) {length : Nat}
    (hrun : ((Image.read length).run state).1.result = .error (.overlay cause)) :
    ∃ done, done * descriptor.blockSize < length
      ∧ Moves done (map.bitmap.count state.1.cursor done) state ((Image.read length).run state).2 := by
  rw [run_read h.stage] at hrun ⊢
  split at hrun
  · cases hrun
  · next hwhole =>
    rw [if_neg hwhole]
    obtain ⟨done, hdone, hmoves⟩ := readBlocks_refused h.suits (length / descriptor.blockSize) rfl hrun
    exact ⟨done, mul_lt_of_lt_div h.suits.blockSize_pos hdone, hmoves⟩

theorem Coherent.write_refused (h : Coherent options descriptor map state.1) {data : Bytes}
    (hrun : (perform (Image.write data) state).1 = .error (.overlay cause)) :
    ∃ done, Moves done 0 state (perform (Image.write data) state).2
      ∧ if (perform (Image.write data) state).2.1.overlay.isSome then
          done * descriptor.blockSize < data.length else done = 0 := by
  have hpos := h.suits.blockSize_pos
  have hwrite := perform_write h.stage (fun hsome => h.overlayVerified.trans hsome) data
  rw [hwrite] at hrun ⊢
  split at hrun
  · cases hrun
  next hwritable =>
  rw [if_neg hwritable]
  split at hrun
  · cases hrun
  next hwhole =>
  rw [if_neg hwhole]
  split at hrun
  · next hsome =>
    rw [if_pos hsome]
    obtain ⟨done, hdone, hmoves, hkept⟩ := writeBlocks_refused _ hsome (Prod.ext hrun rfl)
    refine ⟨done, hmoves, ?_⟩
    rw [if_pos hkept]
    exact mul_lt_of_lt_div hpos hdone
  · next hnone =>
    rw [if_neg hnone]
    have hstill := attachOverlay_still (O := O) descriptor.blockSize descriptor.totalBlocks state
    rw [Action.perform_bind] at hrun ⊢
    rw [perform_attachOverlay] at hrun hstill ⊢
    rcases hmake : perform (makeOverlay (O := O) state.1.setup state.1.route descriptor.blockSize
      descriptor.totalBlocks) state.2.disk with ⟨made, disk⟩
    rw [hmake] at hrun hstill
    cases made with
    | error error =>
      refine ⟨0, hstill, ?_⟩
      rw [if_neg hnone]
    | ok store =>
      obtain ⟨done, hdone, hmoves, hkept⟩ := writeBlocks_refused _ rfl (Prod.ext hrun rfl)
      have hsum := hstill.trans hmoves
      rw [Nat.zero_add] at hsum
      refine ⟨done, hsum, ?_⟩
      rw [if_pos hkept]
      exact mul_lt_of_lt_div hpos hdone

/-- **A call that the overlay fails leaves the handle after the blocks that were done.** -/
theorem Coherent.halts (h : Coherent options descriptor map state.1) {operation : Operation}
    (hfailed : operation.error? state = some (.overlay cause)) : Halts descriptor map state operation := by
  cases operation with
  | verify =>
    have hrun : (perform Image.verify state).1 = .error (.overlay cause) := failure?_eq_some_iff.mp hfailed
    rw [perform_verify_of_verified h.stage] at hrun
    cases hrun
  | seek block => exact h.seek_refused (failure?_eq_some_iff.mp hfailed)
  | read length => exact h.read_refused (failure?_eq_some_iff.mp hfailed)
  | isUsed => exact isUsed_still state
  | write data => exact h.write_refused (failure?_eq_some_iff.mp hfailed)
  | sync => exact sync_still state

end

/-! ### One call on two handles -/

variable {care : Overlay.Careful O path descriptor.blockSize descriptor.totalBlocks backing origin}

def relabel {α β : Type} (f : α → β) (ended : Transfer Error α × (Image O × World)) :
    Transfer Error β × (Image O × World) :=
  (⟨ended.1.bytes, ended.1.result.map f⟩, ended.2)

theorem Beside.relabel {α β : Type} {start : Nat}
    {left : Nat → Image O × World → Transfer Error α × (Image O × World)}
    {later : Nat → Image O × World → Transfer Error β × (Image O × World)}
    {ended smooth : Transfer Error α × (Image O × World)} (h : Beside care map start left ended smooth)
    (f : α → β)
    (hleft : ∀ done between, Abreast ended.2 between → Paired care map ended.2 between →
      Image.relabel f (left done between) = later done between) :
    Beside care map start later (Image.relabel f ended) (Image.relabel f smooth) := by
  cases h with
  | alike transfer_eq paired =>
    refine .alike ?_ paired
    show (⟨_, _⟩ : Transfer Error β) = ⟨_, _⟩
    rw [transfer_eq]
  | halted cause done between failed cursor_eq paired resumed =>
    obtain ⟨-, -, -, habreast⟩ := id paired
    refine .halted cause done between ?_ cursor_eq paired ?_
    · show ended.1.result.map f = _
      rw [failed]
      rfl
    · rw [← hleft done between habreast paired, resumed]
      rfl

theorem call_read (length : Nat) (state : Image O × World) :
    (Operation.read length).call state = relabel (fun _ => none) ((Image.read length).run state) := rfl

theorem call_write (data : Bytes) (state : Image O × World) :
    (Operation.write data).call state = relabel (fun _ => none) (told (perform (Image.write data) state)) := rfl

theorem Paired.stage (h : Paired care map state other) :
    state.1.stage = .verified descriptor map ∧ other.1.stage = .verified descriptor map := by
  obtain ⟨_, hstate, hother, -⟩ := h
  exact ⟨hstate.stage, hother.stage⟩

theorem Paired.seek (hsuits : map.Suits descriptor) (h : Paired care map state other) (block : Nat)
    (hclean : ∀ cause, (perform (Image.seek block) other).1 ≠ .error (.overlay cause)) :
    Beside care map state.1.cursor (fun _ between => told (perform (Image.seek block) between))
      (told (perform (Image.seek block) state)) (told (perform (Image.seek block) other)) := by
  obtain ⟨hstage, hstage'⟩ := h.stage
  obtain ⟨-, -, -, habreast⟩ := id h
  have hstate := perform_seek hsuits hstage block
  have hother := perform_seek hsuits hstage' block
  by_cases hrange : descriptor.totalBlocks < block
  · rw [if_pos hrange] at hstate hother
    rw [hstate, hother]
    exact .alike rfl h
  · rw [if_neg hrange] at hstate hother
    rcases hmove' : perform (Image.seekOverlay block) other with ⟨result', reached'⟩
    rcases hmove : perform (Image.seekOverlay block) state with ⟨result, reached⟩
    rw [hmove] at hstate
    rw [hmove'] at hother
    cases result' with
    | error error =>
      obtain ⟨cause, rfl⟩ := seekOverlay_error hmove'
      exact absurd (congrArg Prod.fst hother) (hclean cause)
    | ok done =>
      rcases h.seekOverlay (Nat.le_of_not_lt hrange) hmove hmove' with ⟨rfl, hpaired⟩ | ⟨cause, rfl, hpaired⟩
      · rw [hstate, hother]
        exact .alike rfl (hpaired.set rfl rfl)
      · rw [hstate]
        exact .at_once cause rfl habreast.cursor hpaired rfl

theorem Paired.isUsed (hsuits : map.Suits descriptor) (h : Paired care map state other)
    (hclean : ∀ cause, (perform Image.isUsed other).1 ≠ .error (.overlay cause)) :
    Beside care map state.1.cursor (fun _ between => told (perform Image.isUsed between))
      (told (perform Image.isUsed state)) (told (perform Image.isUsed other)) := by
  obtain ⟨blocks, hcarries, hcarries', habreast⟩ := id h
  have hstate := perform_isUsed hsuits hcarries.stage
  have hother := perform_isUsed hsuits hcarries'.stage
  rw [habreast.cursor] at hother
  by_cases hend : descriptor.totalBlocks ≤ state.1.cursor
  · rw [if_pos hend] at hstate hother
    rw [hstate, hother]
    exact .alike rfl h
  · have hblock : state.1.cursor < descriptor.totalBlocks := Nat.lt_of_not_le hend
    rw [if_neg hend] at hstate hother
    rcases hmove' : perform (Image.seekOverlay state.1.cursor) other with ⟨result', reached'⟩
    rcases hmove : perform (Image.seekOverlay state.1.cursor) state with ⟨result, reached⟩
    rw [hmove] at hstate
    rw [hmove'] at hother
    cases result' with
    | error error =>
      obtain ⟨cause, rfl⟩ := seekOverlay_error hmove'
      exact absurd (congrArg Prod.fst hother) (hclean cause)
    | ok done =>
      rcases h.seekOverlay (Nat.le_of_lt hblock) hmove hmove' with ⟨rfl, hpaired⟩ | ⟨cause, rfl, hpaired⟩
      · dsimp only at hstate hother
        rw [hcarries.holds hblock hmove] at hstate
        rw [hcarries'.holds hblock hmove', shown_eq habreast] at hother
        rw [hstate, hother]
        exact .alike rfl hpaired
      · rw [hstate]
        exact .at_once cause rfl habreast.cursor hpaired rfl

theorem Paired.sync (h : Paired care map state other)
    (hclean : ∀ cause, (perform Image.sync other).1 ≠ .error (.overlay cause)) :
    Beside care map state.1.cursor (fun _ between => told (perform Image.sync between))
      (told (perform Image.sync state)) (told (perform Image.sync other)) := by
  obtain ⟨blocks, hcarries, hcarries', habreast⟩ := id h
  have hready := h.ready_eq .writeReady
  cases hwrite : state.1.ready .writeReady with
  | false =>
    rw [perform_sync_of_unready hwrite, perform_sync_of_unready (hready.trans hwrite)]
    exact .alike rfl h
  | true =>
    have hsome : state.1.overlay.isSome = true := by
      rw [ready] at hwrite
      simp only [Bool.and_eq_true] at hwrite
      exact hwrite.1.2
    obtain ⟨store, hstore⟩ := Option.isSome_iff_exists.mp hsome
    obtain ⟨store', hstore'⟩ := Option.isSome_iff_exists.mp (habreast.attached.trans hsome)
    have hsynced := care.sync (hcarries.attached store hstore)
    have hsynced' := care.sync (hcarries'.attached store' hstore')
    have hother := perform_sync (hready.trans hwrite) hstore'
    rcases hrun' : perform Overlay.sync (store', other.2.disk) with ⟨result', synced'⟩
    rw [hrun'] at hother hsynced'
    cases result' with
    | error cause => exact absurd (congrArg Prod.fst hother) (hclean cause)
    | ok done =>
      have hstate := perform_sync hwrite hstore
      rcases hrun : perform Overlay.sync (store, state.2.disk) with ⟨result, synced⟩
      rw [hrun] at hstate hsynced
      have hstill := (abreast_withOverlay hstore synced).symm.trans habreast
      cases result with
      | error cause =>
        rw [hstate]
        exact .at_once cause rfl habreast.cursor
          ⟨blocks, hcarries.withOverlay hstore hsynced, hcarries', hstill⟩ rfl
      | ok done =>
        rw [hstate, hother]
        exact .alike rfl ⟨blocks, hcarries.withOverlay hstore hsynced, hcarries'.withOverlay hstore' hsynced',
          hstill.trans (abreast_withOverlay hstore' synced')⟩

theorem run_read_rest (hstage : other.1.stage = .verified descriptor map) {length : Nat}
    (hwhole : length % descriptor.blockSize = 0) (done : Nat) :
    (Image.read (length - done * descriptor.blockSize)).run other
      = (readBlocks descriptor map (length / descriptor.blockSize - done)).run other := by
  have hrest : (length - done * descriptor.blockSize) % descriptor.blockSize = 0 :=
    Nat.mod_eq_zero_of_dvd (Nat.dvd_sub (Nat.dvd_of_mod_eq_zero hwhole) (Nat.dvd_mul_left _ _))
  rw [run_read hstage, if_neg (by rw [hrest]; exact fun h => h rfl), Nat.mul_comm, Nat.sub_mul_div]

theorem perform_write_rest (hpaired : Paired care map state other) (hwritable : state.1.ready .writable = true)
    (hsome : state.1.overlay.isSome = true) {data : Bytes} (hwhole : data.length % descriptor.blockSize = 0)
    (done : Nat) :
    perform (Image.write (data.drop (done * descriptor.blockSize))) other
      = perform (writeBlocks descriptor.blockSize descriptor.totalBlocks (data.length / descriptor.blockSize - done)
        (data.drop (done * descriptor.blockSize))) other := by
  have hready := hpaired.ready_eq .writable
  obtain ⟨_, -, hother, habreast⟩ := hpaired
  have hrest : (data.length - done * descriptor.blockSize) % descriptor.blockSize = 0 :=
    Nat.mod_eq_zero_of_dvd (Nat.dvd_sub (Nat.dvd_of_mod_eq_zero hwhole) (Nat.dvd_mul_left _ _))
  rw [perform_write hother.stage hother.verified, hready, hwritable, if_neg (by decide), List.length_drop,
    if_neg (by rw [hrest]; exact fun h => h rfl), if_pos (habreast.attached.trans hsome), Nat.mul_comm done,
    Nat.sub_mul_div]

theorem Paired.read (hsuits : map.Suits descriptor) (h : Paired care map state other) (length : Nat)
    (hclean : ∀ cause, ((Image.read length).run other).1.result ≠ .error (.overlay cause)) :
    Beside care map state.1.cursor
      (fun done between => (Operation.read (length - done * descriptor.blockSize)).call between)
      ((Operation.read length).call state) ((Operation.read length).call other) := by
  obtain ⟨hstage, hstage'⟩ := h.stage
  rw [run_read hstage'] at hclean
  rw [call_read, call_read, run_read hstage, run_read hstage']
  by_cases hwhole : length % descriptor.blockSize = 0
  · rw [if_neg (fun hne => hne hwhole)] at hclean ⊢
    rw [if_neg (fun hne => hne hwhole)]
    refine (h.readBlocks hsuits _ hclean).relabel _ fun done between _ hbetween => ?_
    rw [call_read, run_read_rest hbetween.stage.2 hwhole]
  · rw [if_pos hwhole, if_pos hwhole]
    exact .alike rfl h

theorem Paired.write_attached (h : Paired care map state other) (hwritable : state.1.ready .writable = true)
    (hsome : state.1.overlay.isSome = true) {data : Bytes} (hwhole : data.length % descriptor.blockSize = 0)
    (hclean : ∀ cause, (perform (Image.writeBlocks descriptor.blockSize descriptor.totalBlocks
      (data.length / descriptor.blockSize) data) other).1 ≠ .error (.overlay cause)) :
    Beside care map state.1.cursor
      (fun done between => (Operation.write (data.drop (done * descriptor.blockSize))).call between)
      (Image.relabel (fun _ => none) (told (perform (Image.writeBlocks descriptor.blockSize descriptor.totalBlocks
        (data.length / descriptor.blockSize) data) state)))
      (Image.relabel (fun _ => none) (told (perform (Image.writeBlocks descriptor.blockSize descriptor.totalBlocks
        (data.length / descriptor.blockSize) data) other))) := by
  refine (h.writeBlocks _ hsome (Nat.div_mul_le_self _ _) hclean).relabel _ fun done between _ hbetween => ?_
  have huses := writeBlocks_uses Overlay.writes_unbound descriptor.blockSize descriptor.totalBlocks
    (data.length / descriptor.blockSize) data state
  have hkept : (perform (Image.writeBlocks descriptor.blockSize descriptor.totalBlocks
      (data.length / descriptor.blockSize) data) state).2.1.ready .writable = true := by
    rw [ready, readOnly, huses.stage, huses.options]
    exact hwritable
  rw [call_write, perform_write_rest hbetween hkept (huses.used.isSome_eq.trans hsome) hwhole]

theorem Paired.write (h : Paired care map state other) (data : Bytes)
    (hclean : ∀ cause, (perform (Image.write data) other).1 ≠ .error (.overlay cause)) :
    Beside care map state.1.cursor
      (fun done between => (Operation.write (data.drop (done * descriptor.blockSize))).call between)
      ((Operation.write data).call state) ((Operation.write data).call other) := by
  obtain ⟨blocks, hcarries, hcarries', habreast⟩ := id h
  have hstate := perform_write hcarries.stage hcarries.verified data
  have hother := perform_write hcarries'.stage hcarries'.verified data
  rw [h.ready_eq .writable, habreast.attached] at hother
  rw [call_write, call_write]
  by_cases hwritable : state.1.ready .writable = false
  · rw [if_pos hwritable] at hstate hother
    rw [hstate, hother]
    exact .alike rfl h
  rw [if_neg hwritable] at hstate hother
  by_cases hwhole : data.length % descriptor.blockSize = 0
  case neg =>
    rw [if_pos hwhole] at hstate hother
    rw [hstate, hother]
    exact .alike rfl h
  rw [if_neg (fun hne => hne hwhole)] at hstate hother
  by_cases hsome : state.1.overlay.isSome = true
  · rw [if_pos hsome] at hstate hother
    rw [hother] at hclean
    rw [hstate, hother]
    exact h.write_attached (Bool.not_eq_false _ ▸ hwritable) hsome hwhole hclean
  · rw [if_neg hsome, Action.perform_bind] at hstate hother
    have hnone : state.1.overlay = none := Option.not_isSome_iff_eq_none.mp hsome
    have hnone' : other.1.overlay = none :=
      Option.not_isSome_iff_eq_none.mp (by rw [habreast.attached]; exact hsome)
    obtain ⟨cause, reached', hrun', -⟩ | ⟨store', reached', hrun', -⟩ := hcarries'.attachOverlay hnone'
    · rw [hrun'] at hother
      exact absurd (congrArg Prod.fst hother) (hclean cause)
    rcases hrun : perform (Image.attachOverlay descriptor.blockSize descriptor.totalBlocks) state
      with ⟨result, reached⟩
    rw [hrun] at hstate
    rw [hrun'] at hother
    rcases h.attachOverlay hnone hrun hrun' with ⟨rfl, hpaired, hmade, hcursor, hready⟩ | ⟨cause, rfl, hpaired⟩
    · dsimp only at hstate hother
      rw [hother] at hclean
      rw [hstate, hother, ← hcursor]
      exact hpaired.write_attached (hready.trans (Bool.not_eq_false _ ▸ hwritable)) hmade hwhole hclean
    · rw [hstate]
      refine .at_once cause rfl habreast.cursor hpaired ?_
      rw [Nat.zero_mul, List.drop_zero]
      rfl

/-- **A call ends as it does beside a handle that the overlay does not fail**, or the overlay fails it, and what is
left of it there is the call that is made again. -/
theorem Paired.call (hsuits : map.Suits descriptor) (h : Paired care map state other) (operation : Operation)
    (hclean : ∀ cause, operation.error? other ≠ some (.overlay cause)) :
    Beside care map state.1.cursor
      (fun done between => (operation.rest descriptor.blockSize done).call between)
      (operation.call state) (operation.call other) := by
  have hresult : ∀ {α : Type} {result : Except Error α}, (∀ cause, failure? result ≠ some (.overlay cause)) →
      ∀ cause, result ≠ .error (.overlay cause) :=
    fun hne cause herror => hne cause (failure?_eq_some_iff.mpr herror)
  cases operation with
  | verify =>
    obtain ⟨hstage, hstage'⟩ := h.stage
    have hcall : ∀ {some : Image O × World}, some.1.stage = .verified descriptor map →
        Operation.verify.call some = (⟨[], .error (.invalidState .opened)⟩, some) := by
      intro some hsome
      show (Image.relabel (fun _ => none) (told (perform Image.verify some))) = _
      rw [perform_verify_of_verified hsome]
      rfl
    rw [hcall hstage, hcall hstage']
    exact .alike rfl h
  | seek block => exact (h.seek hsuits block (hresult hclean)).relabel (fun _ => none) fun _ _ _ _ => rfl
  | read length => exact h.read hsuits length (hresult hclean)
  | isUsed => exact (h.isUsed hsuits (hresult hclean)).relabel some fun _ _ _ _ => rfl
  | write data => exact h.write data (hresult hclean)
  | sync => exact (h.sync (hresult hclean)).relabel (fun _ => none) fun _ _ _ _ => rfl

/-! ### Calls that are made again -/

theorem tell?_eq (hstage : state.1.stage = .verified descriptor map) :
    BlockDevice.tell? state.1 = some state.1.cursor := by
  show state.1.tell? = _
  rw [tell?, hstage]
  rfl

/-- **Whoever insists on a call is told what a single call would have told.** -/
theorem Paired.insists (hsuits : map.Suits descriptor) (h : Paired care map state other) {operation : Operation}
    (hclean : ∀ cause, operation.error? other ≠ some (.overlay cause)) {answer : Transfer Error (Option Bool)}
    {last : Image O × World} (hinsists : operation.Insists descriptor.blockSize state answer last) :
    answer = operation.answer other ∧ Paired care map last (operation.after other) := by
  induction hinsists generalizing other with
  | settled settled =>
    cases h.call hsuits _ hclean with
    | alike transfer_eq paired => exact ⟨transfer_eq, paired⟩
    | halted cause done between failed cursor_eq paired resumed =>
      rw [← Operation.failure?_answer] at settled
      exact absurd (failure?_eq_some_iff.mpr failed) (settled cause)
  | @again operation state last cause done answer failed moved again ih =>
    cases h.call hsuits _ hclean with
    | alike transfer_eq paired =>
      rw [← Operation.failure?_answer, show operation.answer state = _ from transfer_eq,
        show failure? (operation.call other).1.result = _ from Operation.failure?_answer _ _] at failed
      exact absurd failed (hclean cause)
    | halted _ done' between _ cursor_eq paired resumed =>
      have hstage : (operation.after state).1.stage = .verified descriptor map := paired.stage.1
      rw [tell?_eq hstage, tell?_eq h.stage.1] at moved
      have hcursor : (operation.after state).1.cursor = state.1.cursor + done := Option.some.inj moved
      have hcursor' : (operation.after state).1.cursor = state.1.cursor + done' := cursor_eq
      obtain rfl : done' = done := by omega
      obtain ⟨hanswer, hafter⟩ := Prod.mk.inj resumed
      have hrest : ∀ cause, (operation.rest descriptor.blockSize done').error? between ≠ some (.overlay cause) := by
        intro cause hcause
        rw [← Operation.failure?_answer] at hcause
        refine hclean cause ?_
        rw [← Operation.failure?_answer, hanswer]
        exact hcause
      obtain ⟨rfl, hlast⟩ := ih paired hrest
      rw [hanswer, hafter]
      exact ⟨rfl, hlast⟩

/-- **Whoever insists on all calls is told what they would have told otherwise**, and leaves the same. -/
theorem Paired.insistsAll (hsuits : map.Suits descriptor) (h : Paired care map state other)
    {operations : List Operation} (hsmooth : Operation.Smooth other operations)
    {answers : List (Transfer Error (Option Bool))} {last : Image O × World}
    (hinsists : Operation.InsistsAll descriptor.blockSize operations state answers last) :
    answers = Operation.answers other operations ∧ Paired care map last (Operation.run operations other) := by
  induction hinsists generalizing other with
  | nil state => exact ⟨rfl, h⟩
  | cons first others ih =>
    obtain ⟨hanswer, hpaired⟩ := h.insists hsuits hsmooth.1 first
    obtain ⟨hanswers, hlast⟩ := ih hpaired hsmooth.2
    exact ⟨by rw [hanswer, hanswers]; rfl, hlast⟩

/-- **The overlay may fail as it likes, and is none the worse for it.**  Take a handle that was opened and has been
verified.  A call on it that the overlay fails leaves cursor and count after the blocks that were done, and where they
were if it reads and writes none.  Now put a handle beside it that stands at the same place and carries the same
blocks, in an overlay that fails without a trace.  Whoever makes each call on the first again, for the blocks that it
has left, until the overlay does not fail it, is told what the calls on the other tell if the overlay fails none of
them; and in the end the two stand again at the same place and carry the same blocks. -/
theorem answers_of_insists {source : Source} {path : String} {options : OpenOptions} {setup : Overlay.Setup O}
    {world : World} {before : List Operation} {state : Image O × World}
    (hreached : Operation.run before (ofSource source path options setup, world) = state)
    (hverified : state.1.stage.isVerified = true) :
    ∃ descriptor map, state.1.stage = .verified descriptor map
      ∧ (∀ (operation : Operation) (cause : OverlayError), operation.error? state = some (.overlay cause) →
        Halts descriptor map state operation)
      ∧ ∀ {place : String} {backing : Backing} {origin : Disk}
        (care : Overlay.Careful O place descriptor.blockSize descriptor.totalBlocks backing origin)
        {other : Image O × World}, Paired care map state other →
          ∀ {operations : List Operation} {answers : List (Transfer Error (Option Bool))} {last : Image O × World},
            Operation.Smooth other operations →
            Operation.InsistsAll descriptor.blockSize operations state answers last →
              answers = Operation.answers other operations
                ∧ Paired care map last (Operation.run operations other) := by
  have hopened : Known options (ofSource (O := O) source path options setup, world) := .unread ⟨rfl, rfl, rfl, rfl⟩
  have hknown := hopened.run before
  rw [hreached] at hknown
  obtain ⟨descriptor, map, h⟩ := hknown.coherent hverified
  exact ⟨descriptor, map, h.stage, fun operation cause hfailed => h.halts hfailed,
    fun care _ hpaired _ _ _ hsmooth hinsists => hpaired.insistsAll h.suits hsmooth hinsists⟩

/-! ### A write that fails halfway -/

/-- A handle in memory whose overlay fails as given. -/
def inFlakyMemory (bytes : Bytes) (faults : List Bool) : Image (Flaky MemoryStore) × World :=
  (ofSource (.ofBytes bytes) "a.img" { mode := .readWrite } (faults, ([] : List MemoryStore.Operation)), {})

section

variable {flaky : Image (Flaky MemoryStore) × World} {faults : List Bool} {total : Nat}

/-- A handle with an overlay in memory that fails as given. -/
structure Fitted (faults : List Bool) (total : Nat) (flaky : Image (Flaky MemoryStore) × World) : Prop where
  overlay : ∃ blocks cursor, flaky.1.overlay = some ⟨faults, ⟨[], total, blocks, cursor⟩⟩
  verified : flaky.1.overlayVerified = true

/-- A block is stored if it is not the turn of a failure. -/
theorem Fitted.writeBlocks (h : Fitted (false :: false :: faults) total flaky) (hcursor : flaky.1.cursor < total)
    (blockSize count : Nat) (data : Bytes) :
    ∃ written, perform (writeBlocks blockSize total (count + 1) data) flaky
        = perform (writeBlocks blockSize total count (data.drop blockSize)) written
      ∧ Fitted faults total written ∧ Moves 1 0 flaky written := by
  obtain ⟨⟨blocks, cursor, hstore⟩, hverified⟩ := h
  have hseek : perform (Overlay.seek flaky.1.cursor)
      (⟨false :: false :: faults, ⟨[], total, blocks, cursor⟩⟩, flaky.2.disk)
        = (.ok (), (⟨false :: faults, ⟨[], total, blocks, flaky.1.cursor⟩⟩ : Flaky MemoryStore),
          flaky.2.disk) := by
    have hmove : perform (Overlay.seek flaky.1.cursor) ((⟨[], total, blocks, cursor⟩ : MemoryStore), flaky.2.disk)
        = (.ok (), ⟨[], total, blocks, flaky.1.cursor⟩, flaky.2.disk) := by
      rw [show perform (Overlay.seek flaky.1.cursor) _ = _ from MemoryStore.perform_seek _ _ _,
        MemoryStore.fault?_of_not_mem List.not_mem_nil]
      exact if_neg (Nat.not_lt.mpr (Nat.le_of_lt hcursor))
    rw [show perform (Overlay.seek flaky.1.cursor) _ = _ from Flaky.perform_act_false _ _ _ _, hmove]
  refine ⟨atBlock (flaky.1.cursor + 1) (withOverlay (⟨faults, ⟨[], total,
    (flaky.1.cursor, data.take blockSize) :: blocks, flaky.1.cursor + 1⟩⟩, flaky.2.disk) flaky), ?_,
    ⟨⟨_, _, rfl⟩, hverified⟩, ⟨.refl _, rfl, rfl, rfl, rfl⟩⟩
  rw [perform_writeBlocks_succ hstore, if_neg (Nat.not_le_of_lt hcursor), hseek]
  rfl

theorem Fitted.refused (h : Fitted (true :: faults) total flaky) (hcursor : flaky.1.cursor < total)
    (blockSize count : Nat) (data : Bytes) :
    ∃ failed, perform (Image.writeBlocks blockSize total (count + 1) data) flaky
        = (.error (.overlay Flaky.fault), failed)
      ∧ Fitted faults total failed ∧ Still flaky failed := by
  obtain ⟨⟨blocks, cursor, hstore⟩, hverified⟩ := h
  refine ⟨withOverlay (⟨faults, ⟨[], total, blocks, cursor⟩⟩, flaky.2.disk) flaky, ?_,
    ⟨⟨_, _, rfl⟩, hverified⟩, withOverlay_still _ _⟩
  rw [perform_writeBlocks_succ hstore, if_neg (Nat.not_le_of_lt hcursor)]
  rfl

/-- A write to a handle with an overlay stores its blocks. -/
theorem Fitted.write (h : Fitted faults descriptor.totalBlocks flaky)
    (hstage : flaky.1.stage = .verified descriptor map) (hwritable : flaky.1.ready .writable = true) {data : Bytes}
    (hwhole : data.length % descriptor.blockSize = 0) :
    perform (Image.write data) flaky
      = perform (Image.writeBlocks descriptor.blockSize descriptor.totalBlocks
        (data.length / descriptor.blockSize) data) flaky := by
  obtain ⟨⟨blocks, cursor, hstore⟩, hverified⟩ := h
  rw [perform_write hstage (fun _ => hverified), hwritable, if_neg (by decide), if_neg (fun hne => hne hwhole), hstore]
  exact if_pos rfl

/-- A write to a handle without an overlay makes one first. -/
theorem exists_fitted (hstage : flaky.1.stage = .verified descriptor map)
    (hwritable : flaky.1.ready .writable = true) (hoverlay : flaky.1.overlay = none)
    (hsetup : flaky.1.setup = (faults, ([] : List MemoryStore.Operation))) {data : Bytes}
    (hwhole : data.length % descriptor.blockSize = 0) :
    ∃ attached, perform (write data) flaky
        = perform (writeBlocks descriptor.blockSize descriptor.totalBlocks (data.length / descriptor.blockSize) data)
          attached
      ∧ Fitted faults descriptor.totalBlocks attached ∧ Still flaky attached := by
  have hmake : perform (makeOverlay (O := Flaky MemoryStore) flaky.1.setup flaky.1.route descriptor.blockSize
      descriptor.totalBlocks) flaky.2.disk
        = (.ok ⟨faults, ⟨[], descriptor.totalBlocks, [], 0⟩⟩, flaky.2.disk) := by
    rw [hsetup]
    rfl
  have hattach := perform_attachOverlay descriptor.blockSize descriptor.totalBlocks flaky
  have hstill := attachOverlay_still descriptor.blockSize descriptor.totalBlocks flaky
  rw [hmake] at hattach
  rw [hattach] at hstill
  refine ⟨_, ?_, ⟨⟨_, _, rfl⟩, rfl⟩, hstill⟩
  rw [perform_write hstage (fun hsome => by rw [hoverlay] at hsome; cases hsome), hwritable, if_neg (by decide),
    if_neg (fun hne => hne hwhole), hoverlay, if_neg (by decide), Action.perform_bind, hattach]

/-- A verified handle on two blocks of two bytes, whose overlay will fail as given. -/
structure Blank (descriptor : Descriptor) (map : BlockMap) (faults : List Bool)
    (flaky : Image (Flaky MemoryStore) × World) : Prop where
  stage : flaky.1.stage = .verified descriptor map
  mode : flaky.1.options.mode = .readWrite
  overlay : flaky.1.overlay = none
  setup : flaky.1.setup = (faults, ([] : List MemoryStore.Operation))
  cursor : flaky.1.cursor = 0
  blockSize : descriptor.blockSize = 2
  total : descriptor.totalBlocks = 2

theorem Blank.writable (h : Blank descriptor map faults flaky) : flaky.1.ready .writable = true := by
  rw [ready, readOnly, h.stage, h.mode]
  rfl

theorem Blank.carries (h : Blank descriptor map faults flaky) :
    Carries (MemoryStore.careful flaky.1.route descriptor.blockSize descriptor.totalBlocks flaky.1.source.backing
      flaky.2.disk).flaky map (fun _ => none) flaky where
  stage := h.stage
  route := rfl
  backing_eq := rfl
  verified hsome := by
    rw [h.overlay] at hsome
    cases hsome
  attached store hstore := by
    rw [h.overlay] at hstore
    cases hstore
  resting _ := ⟨fun _ _ => rfl, fun _ _ => rfl⟩

/-- The first block is stored if the first two calls do not fail. -/
theorem Blank.first (h : Blank descriptor map (false :: false :: faults) flaky) :
    ∃ written, perform (write [1, 2, 3, 4]) flaky = perform (writeBlocks 2 2 1 [3, 4]) written
      ∧ Fitted faults 2 written ∧ Moves 1 0 flaky written := by
  have hwhole : ([1, 2, 3, 4] : Bytes).length % descriptor.blockSize = 0 := by
    rw [h.blockSize]
    rfl
  obtain ⟨attached, hwrite, hfitted, hstill⟩ := exists_fitted h.stage h.writable h.overlay h.setup hwhole
  rw [h.blockSize, h.total] at hwrite
  rw [h.total] at hfitted
  have hcursor : attached.1.cursor < 2 := by
    rw [hstill.cursor, h.cursor]
    decide
  obtain ⟨written, hfirst, hwritten, hmoves⟩ := hfitted.writeBlocks hcursor 2 1 [1, 2, 3, 4]
  exact ⟨written, hwrite.trans hfirst, hwritten, hstill.trans hmoves⟩

/-- Both blocks are stored if no call fails. -/
theorem Blank.whole (h : Blank descriptor map [false, false, false, false] flaky) :
    ∃ last, perform (write [1, 2, 3, 4]) flaky = (.ok (), last) := by
  obtain ⟨written, hfirst, hfitted, hmoves⟩ := h.first
  have hcursor : written.1.cursor < 2 := by
    rw [hmoves.cursor, h.cursor]
    decide
  obtain ⟨last, hlast, -, -⟩ := hfitted.writeBlocks hcursor 2 0 [3, 4]
  exact ⟨last, hfirst.trans hlast⟩

/-- If the third call fails, the second block is stored when it is written again. -/
theorem Blank.half (h : Blank descriptor map [false, false, true, false, false] flaky) :
    ∃ failed last, perform (write [1, 2, 3, 4]) flaky = (.error (.overlay Flaky.fault), failed)
      ∧ Moves 1 0 flaky failed ∧ perform (write [3, 4]) failed = (.ok (), last) := by
  obtain ⟨written, hfirst, hfitted, hmoves⟩ := h.first
  have hcursor : written.1.cursor < 2 := by
    rw [hmoves.cursor, h.cursor]
    decide
  obtain ⟨failed, hfailed, hfitted, hstill⟩ := hfitted.refused hcursor 2 0 [3, 4]
  have hhalf := hmoves.trans hstill
  have hwritable : failed.1.ready .writable = true := by
    rw [ready, readOnly, hhalf.stage, hhalf.options]
    exact h.writable
  have hagain := Fitted.write (h.total ▸ hfitted) (hhalf.stage.trans h.stage) hwritable
    (show ([3, 4] : Bytes).length % descriptor.blockSize = 0 by rw [h.blockSize]; rfl)
  rw [h.blockSize, h.total] at hagain
  obtain ⟨last, hlast, -, -⟩ := hfitted.writeBlocks (by rw [hstill.cursor]; exact hcursor) 2 0 [3, 4]
  exact ⟨failed, last, hfirst.trans hfailed, hhalf, hagain.trans hlast⟩

end

/-- A write that is made again once. -/
theorem insists_write {failed last : Image O × World} {data : Bytes} {cause : OverlayError} {done : Nat}
    (hstage : state.1.stage = .verified descriptor map)
    (hfailed : perform (write data) state = (.error (.overlay cause), failed)) (hmoves : Moves done 0 state failed)
    (hagain : perform (write (data.drop (done * descriptor.blockSize))) failed = (.ok (), last)) :
    (Operation.write data).Insists descriptor.blockSize state ⟨[], .ok none⟩ last := by
  have hcall : (Operation.write data).call state = (⟨[], .error (.overlay cause)⟩, failed) := by
    rw [call_write, hfailed]
    rfl
  have hrest : (Operation.write (data.drop (done * descriptor.blockSize))).call failed
      = (⟨[], .ok none⟩, last) := by
    rw [call_write, hagain]
    rfl
  obtain ⟨hanswer, hafter⟩ := Prod.mk.inj hcall
  have herror : (Operation.write data).error? state = some (.overlay cause) := by
    rw [← Operation.failure?_answer, hanswer]
    rfl
  have hmoved : BlockDevice.tell? ((Operation.write data).after state).1
      = (BlockDevice.tell? state.1).map (· + done) := by
    rw [hafter, tell?_eq (hmoves.stage.trans hstage), tell?_eq hstage, hmoves.cursor]
    rfl
  have hlater : ((Operation.write data).rest descriptor.blockSize done).Insists descriptor.blockSize
      ((Operation.write data).after state) ⟨[], .ok none⟩ last := by
    rw [hafter]
    exact .of_call hrest nofun
  have hinsists := Operation.Insists.again herror hmoved hlater
  rw [hanswer, List.take_nil] at hinsists
  exact hinsists

/-- Two blocks are written to an image of two blocks, and the overlay fails between them.  The call is made again for
the second block, and the cursor is where it is if the overlay does not fail. -/
theorem answers_of_insists_halfway :
    ∃ state other last : Image (Flaky MemoryStore) × World,
      Operation.run [.verify] (inFlakyMemory twoBlocks.bytes [false, false, true, false, false]) = state
        ∧ (Operation.write [1, 2, 3, 4]).error? state = some (.overlay Flaky.fault)
        ∧ ((Operation.write [1, 2, 3, 4]).after state).1.cursor = 1
        ∧ Operation.run [.write [1, 2, 3, 4], .write [3, 4]] state = last
        ∧ (Operation.write [1, 2, 3, 4]).error? other = none
        ∧ last.1.cursor = ((Operation.write [1, 2, 3, 4]).after other).1.cursor := by
  have hopened : (inFlakyMemory twoBlocks.bytes [false, false, true, false, false]).1.stage = .opened := rfl
  obtain ⟨state, descriptor, map, hverify, hplain, hstage, hmirrors⟩ := exists_verify_image twoBlocks
    twoBlocks.records hopened rfl (.inr ⟨rfl, rfl⟩) (Source.delivers_ofBytes _ _) (by decide)
  obtain ⟨_, _, _, _, _, hfrom⟩ := verifiedFrom_of_verify hverify
  have hrun : ∀ start : Image (Flaky MemoryStore) × World, perform verify start = (.ok (), state) →
      Operation.run [.verify] start = state := fun start hstart => congrArg Prod.snd hstart
  have hblank : Blank descriptor map [false, false, true, false, false] state :=
    ⟨hstage, congrArg OpenOptions.mode hplain.options, hplain.overlay, hplain.setup, hfrom.cursor,
      hmirrors.layout.blockSize_eq.symm, hmirrors.total_eq⟩
  obtain ⟨failed, last, hfailed, hmoves, hagain⟩ := hblank.half
  -- the overlay of the other handle does not fail
  let other : Image (Flaky MemoryStore) × World :=
    ({ state.1 with setup := ([false, false, false, false], ([] : List MemoryStore.Operation)) }, state.2)
  have hother : Blank descriptor map [false, false, false, false] other := { hblank with setup := rfl }
  obtain ⟨last', hdone⟩ := hother.whole
  have hpaired : Paired (MemoryStore.careful state.1.route descriptor.blockSize descriptor.totalBlocks
      state.1.source.backing state.2.disk).flaky map state other :=
    ⟨fun _ => none, hblank.carries, hother.carries, ⟨rfl, rfl, rfl, rfl, rfl⟩⟩
  have hclean : (Operation.write [1, 2, 3, 4]).error? other = none := by
    show failure? (perform (write [1, 2, 3, 4]) other).1 = none
    rw [hdone]
    rfl
  have hinsists := insists_write hstage hfailed hmoves (by rw [hblank.blockSize]; exact hagain)
  obtain ⟨descriptor', map', hstage', -, hsame⟩ := answers_of_insists (hrun _ hverify) (by rw [hstage]; rfl)
  obtain ⟨rfl, rfl⟩ := Stage.verified.inj (hstage.symm.trans hstage')
  have hsmooth : Operation.Smooth other [.write [1, 2, 3, 4]] :=
    ⟨fun cause hcause => (nomatch hclean.symm.trans hcause), trivial⟩
  obtain ⟨-, -, -, -, habreast⟩ := hsame _ hpaired hsmooth (.cons hinsists (.nil last))
  refine ⟨state, other, last, hrun _ hverify, ?_, ?_, ?_, hclean, habreast.cursor.symm⟩
  · show failure? (perform (write [1, 2, 3, 4]) state).1 = _
    rw [hfailed]
    rfl
  · show (perform (write [1, 2, 3, 4]) state).2.1.cursor = 1
    rw [hfailed, hmoves.cursor, hblank.cursor]
  · show (perform (write [3, 4]) (perform (write [1, 2, 3, 4]) state).2).2 = last
    rw [hfailed, hagain]

end Image

end PartitionImage
