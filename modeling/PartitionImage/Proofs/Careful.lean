import Mathlib.Logic.Function.Basic
import PartitionImage.Proofs.Overlay
/-!
# Overlays that fail without a trace

An overlay may fail at any time, for reasons of its own.  If it then has the blocks that it had before, no harm is
done: whoever asked may ask again.

* `Overlay.Careful` is the contract of such an overlay: what it has and answers after an operation that succeeds, and
  that it has no less after one that fails.
* `Overlay.Careful.make` says the same of opening and checking a store.
* `MemoryStore.careful` keeps the contract, with whatever operations are told to fail.
* `Flaky` adds failures to a store, in any order; `Overlay.Careful.flaky` says that the contract is kept.
-/

namespace PartitionImage

open PartitionImage.Action (perform perform_bind_ok perform_bind_error)

namespace Overlay

/-- The contract of an overlay at a path, for a device of `total` blocks whose image is the backing on the disk
`origin`. -/
structure Careful (O : Type) [Overlay O] (path : String) (blockSize total : Nat) (backing : Backing)
    (origin : Disk) where
  /-- The stores that have the blocks of a map, and no others. -/
  stores : (Nat → Option Bytes) → O × Disk → Prop
  /-- The disks on which a store with the blocks of a map may be made. -/
  rests : Overlay.Setup O → (Nat → Option Bytes) → Disk → Prop
  length_eq : ∀ {blocks : Nat → Option Bytes} {state : O × Disk} {block : Nat} {data : Bytes},
    stores blocks state → block < total → blocks block = some data → data.length = blockSize
  apart : ∀ {blocks : Nat → Option Bytes} {state : O × Disk}, stores blocks state →
    backing.Unchanged origin state.2
  apart_rests : ∀ {setup : Overlay.Setup O} {blocks : Nat → Option Bytes} {disk : Disk}, rests setup blocks disk →
    backing.Unchanged origin disk
  /-- A move changes no block, whether it succeeds or not. -/
  seek : ∀ {blocks : Nat → Option Bytes} {state : O × Disk} {block : Nat}, stores blocks state →
    block ≤ total → stores blocks (perform (Overlay.seek block) state).2
  /-- A read changes no block, and gives the one that was sought unless it fails. -/
  read : ∀ {blocks : Nat → Option Bytes} {state sought : O × Disk} {block : Nat}, stores blocks state →
    block < total → perform (Overlay.seek block) state = (.ok (), sought) →
      stores blocks ((Overlay.read blockSize).run sought).2
        ∧ ∀ lookup, ((Overlay.read blockSize).run sought).1.result = .ok lookup →
          Answers (blocks block) ((Overlay.read blockSize).run sought).1
  holds : ∀ {blocks : Nat → Option Bytes} {state sought : O × Disk} {block : Nat}, stores blocks state →
    block < total → perform (Overlay.seek block) state = (.ok (), sought) →
      Overlay.holds sought.1 = (blocks block).isSome
  /-- A write stores the block that was sought, and changes none if it fails. -/
  write : ∀ {blocks : Nat → Option Bytes} {state sought : O × Disk} {block : Nat} {data : Bytes},
    stores blocks state → block < total → perform (Overlay.seek block) state = (.ok (), sought) →
      data.length = blockSize →
        match perform (Overlay.write data) sought with
        | (.ok (), written) => stores (Function.update blocks block (some data)) written
        | (.error _, written) => stores blocks written
  sync : ∀ {blocks : Nat → Option Bytes} {state : O × Disk}, stores blocks state →
    stores blocks (perform Overlay.sync state).2
  /-- A store that cannot be made, or is not whole, can be made again. -/
  create : ∀ {setup : Overlay.Setup O} {blocks : Nat → Option Bytes} {disk : Disk}, rests setup blocks disk →
    match perform (Overlay.create (O := O) setup path blockSize total) disk with
    | (.error _, after) => rests setup blocks after
    | (.ok store, made) =>
      match perform Overlay.verify (store, made) with
      | (.ok (), verified) => stores blocks verified
      | (.error _, checked) => rests setup blocks ((Overlay.discard checked.1).run checked.2).2

variable {O : Type} [Overlay O] {path : String} {blockSize total : Nat} {backing : Backing} {origin : Disk}

/-- **A store that is made has the blocks that it was made with**, and can be made again if that fails. -/
theorem Careful.make (care : Careful O path blockSize total backing origin) {setup : Overlay.Setup O}
    {blocks : Nat → Option Bytes} {disk : Disk} (h : care.rests setup blocks disk) :
    match perform (makeOverlay (O := O) setup path blockSize total) disk with
    | (.error _, after) => care.rests setup blocks after
    | (.ok store, after) => care.stores blocks (store, after) := by
  have hcreate := care.create h
  rcases hmake : perform (Overlay.create (O := O) setup path blockSize total) disk with ⟨made, after⟩
  rw [hmake] at hcreate
  cases made with
  | error error =>
    rw [makeOverlay, perform_bind_error hmake]
    exact hcreate
  | ok store =>
    rw [makeOverlay, perform_bind_ok hmake, perform_verifyStore]
    dsimp only at hcreate
    rcases hverify : perform Overlay.verify (store, after) with ⟨result, checked⟩
    rw [hverify] at hcreate
    cases result with
    | error error => exact hcreate
    | ok done => exact hcreate

end Overlay

/-! ### Stores in memory -/

namespace MemoryStore

theorem eq_of_seek {store : MemoryStore} {disk : Disk} {block : Nat} {sought : MemoryStore × Disk}
    (h : perform (Overlay.seek block) (store, disk) = (.ok (), sought)) :
    sought = ({ store with cursor := block }, disk) := by
  rw [show perform (Overlay.seek block) (store, disk) = _ from perform_seek block store disk] at h
  split at h
  · cases h
  · split at h
    · cases h
    · exact (Prod.mk.inj h).2.symm

theorem run_read_sought (store : MemoryStore) (block : Nat) (disk : Disk) :
    read.run ({ store with cursor := block }, disk)
      = match fault? store.failing .read with
        | .error error => (.failed error, { store with cursor := block }, disk)
        | .ok () => (⟨(store.blocks.lookup block).getD [],
            .ok (if (store.blocks.lookup block).isSome then .found else .notPresent)⟩,
          { store with cursor := block + 1 }, disk) := by
  simp only [read, StateT.run_bind, StateT.run_get, pure_bind]
  cases fault? store.failing .read with
  | error error => rfl
  | ok done =>
    cases store.blocks.lookup block with
    | none => rfl
    | some bytes => rfl

/-- A write stores a block at the cursor, unless writes fail. -/
theorem perform_write (data : Bytes) (state : MemoryStore × Disk) :
    perform (write data) state
      = match fault? state.1.failing .write with
        | .error error => (.error error, state)
        | .ok () => (.ok (), { state.1 with
            blocks := (state.1.cursor, data) :: state.1.blocks, cursor := state.1.cursor + 1 }, state.2) := by
  rw [write, Action.perform_bind, perform_check]
  cases fault? state.1.failing .write with
  | error error => rfl
  | ok done => rfl

theorem perform_start (operation : Operation) (failing : List Operation) (totalBlocks : Nat) (disk : Disk) :
    perform (start operation failing totalBlocks) disk
      = match fault? failing operation with
        | .error error => (.error error, disk)
        | .ok () => (.ok { failing := failing, totalBlocks := totalBlocks, blocks := [], cursor := 0 }, disk) := by
  rw [start, Action.perform_bind, Action.perform_ofExcept]
  cases fault? failing operation with
  | error error => rfl
  | ok done => rfl

/-- Stored blocks that are those of a map. -/
structure Has (blockSize total : Nat) (blocks : Nat → Option Bytes) (held : List (Nat × Bytes)) : Prop where
  lookup_eq : ∀ block, block < total → held.lookup block = blocks block
  length_eq : ∀ block data, block < total → blocks block = some data → data.length = blockSize

theorem Has.update {blockSize total : Nat} {blocks : Nat → Option Bytes} {held : List (Nat × Bytes)}
    (h : Has blockSize total blocks held) (block : Nat) {data : Bytes} (hdata : data.length = blockSize) :
    Has blockSize total (Function.update blocks block (some data)) ((block, data) :: held) := by
  refine ⟨fun other hother => ?_, fun other bytes hother hbytes => ?_⟩
  · by_cases hsame : other = block
    · subst hsame
      rw [Function.update_self, List.lookup_cons_self]
    · rw [Function.update_of_ne hsame, ← h.lookup_eq other hother, List.lookup_cons, beq_false_of_ne hsame]
  · by_cases hsame : other = block
    · subst hsame
      rw [Function.update_self] at hbytes
      exact Option.some.inj hbytes ▸ hdata
    · rw [Function.update_of_ne hsame] at hbytes
      exact h.length_eq other bytes hother hbytes

/-- **Stores in memory fail without a trace**, whatever is told to fail. -/
def careful (path : String) (blockSize total : Nat) (backing : Backing) (origin : Disk) :
    Overlay.Careful MemoryStore path blockSize total backing origin where
  stores blocks state := Has blockSize total blocks state.1.blocks ∧ backing.Unchanged origin state.2
  rests _ blocks disk := (∀ block, block < total → blocks block = none) ∧ backing.Unchanged origin disk
  length_eq h hblock hdata := h.1.length_eq _ _ hblock hdata
  apart h := h.2
  apart_rests h := h.2
  seek := by
    rintro blocks ⟨store, disk⟩ block h -
    rw [show perform (Overlay.seek block) (store, disk) = _ from perform_seek block store disk]
    split
    · exact h
    · split
      · exact h
      · exact h
  read := by
    rintro blocks ⟨store, disk⟩ sought block h hblock hseek
    obtain rfl := eq_of_seek hseek
    rw [show (Overlay.read blockSize).run _ = _ from run_read_sought store block disk, h.1.lookup_eq block hblock]
    split
    · exact ⟨h, fun lookup hok => nomatch hok⟩
    · refine ⟨h, fun lookup _ => ?_⟩
      cases blocks block with
      | none => rfl
      | some bytes => rfl
  holds := by
    rintro blocks ⟨store, disk⟩ sought block h hblock hseek
    obtain rfl := eq_of_seek hseek
    show (store.blocks.lookup block).isSome = _
    rw [h.1.lookup_eq block hblock]
  write := by
    rintro blocks ⟨store, disk⟩ sought block data h hblock hseek hdata
    obtain rfl := eq_of_seek hseek
    rw [show perform (Overlay.write data) _ = _ from perform_write data _]
    cases fault? store.failing .write with
    | error error => exact h
    | ok done => exact ⟨h.1.update block hdata, h.2⟩
  sync h := by
    rw [show perform Overlay.sync _ = _ from perform_check .sync _]
    exact h
  create := by
    rintro setup blocks disk ⟨hnone, hunchanged⟩
    rw [show perform (Overlay.create setup path blockSize total) disk = _ from perform_start .create setup total disk]
    cases fault? setup .create with
    | error error => exact ⟨hnone, hunchanged⟩
    | ok done =>
      dsimp only
      rw [show perform Overlay.verify _ = _ from perform_check .verify _]
      dsimp only
      cases fault? setup .verify with
      | error error => exact ⟨hnone, hunchanged⟩
      | ok done =>
        refine ⟨⟨fun block hblock => (hnone block hblock).symm, fun block data hblock hdata => ?_⟩, hunchanged⟩
        rw [hnone block hblock] at hdata
        cases hdata

end MemoryStore

/-! ### Failures that come and go -/

/-- A store whose next calls may fail, once it is known to be whole. -/
structure Flaky (O : Type) where
  faults : List Bool
  store : O

namespace Flaky

variable {O : Type}

def fault : OverlayError := .io (.injected "call")

def next (state : Flaky O × Disk) (reached : O × Disk) : Flaky O × Disk :=
  ({ faults := state.1.faults.tail, store := reached.1 }, reached.2)

/-- A call of the store, unless it is the turn of a failure. -/
def call {α : Type} (failed : α) (act : StateM (O × Disk) α) : StateM (Flaky O × Disk) α := fun state =>
  if state.1.faults.headD false then (failed, next state (state.1.store, state.2))
  else ((act (state.1.store, state.2)).1, next state (act (state.1.store, state.2)).2)

theorem run_call {α : Type} (failed : α) (act : StateM (O × Disk) α) (state : Flaky O × Disk) :
    (call failed act).run state
      = if state.1.faults.headD false then (failed, next state (state.1.store, state.2))
        else ((act.run (state.1.store, state.2)).1, next state (act.run (state.1.store, state.2)).2) := rfl

/-- An action on the store, unless it is the turn of a failure. -/
def act {α : Type} (action : Action (O × Disk) OverlayError α) : Action (Flaky O × Disk) OverlayError α :=
  ExceptT.mk (call (.error fault) action.run)

theorem perform_act {α : Type} (action : Action (O × Disk) OverlayError α) (state : Flaky O × Disk) :
    perform (act action) state
      = if state.1.faults.headD false then (.error fault, next state (state.1.store, state.2))
        else ((perform action (state.1.store, state.2)).1, next state (perform action (state.1.store, state.2)).2) :=
  rfl

theorem perform_act_false {α : Type} (action : Action (O × Disk) OverlayError α) (faults : List Bool) (store : O)
    (disk : Disk) :
    perform (act action) (⟨false :: faults, store⟩, disk)
      = ((perform action (store, disk)).1, ⟨faults, (perform action (store, disk)).2.1⟩,
        (perform action (store, disk)).2.2) := rfl

/-- An action on the store that is made in any case. -/
def check {α : Type} (action : Action (O × Disk) OverlayError α) : Action (Flaky O × Disk) OverlayError α :=
  .zoom (fun state => (state.1.store, state.2)) (fun reached state => ({ state.1 with store := reached.1 }, reached.2))
    id action

theorem perform_check {α : Type} (action : Action (O × Disk) OverlayError α) (state : Flaky O × Disk) :
    perform (check action) state
      = ((perform action (state.1.store, state.2)).1, { state.1 with store := (perform action
          (state.1.store, state.2)).2.1 }, (perform action (state.1.store, state.2)).2.2) := by
  rw [check, Action.perform_zoom, Action.mapError_id]

/-- An action that succeeds is one of the store. -/
theorem act_inv {α : Type} {action : Action (O × Disk) OverlayError α} {value : α} {state reached : Flaky O × Disk}
    (h : perform (act action) state = (.ok value, reached)) :
    perform action (state.1.store, state.2) = (.ok value, reached.1.store, reached.2) := by
  rw [perform_act] at h
  split at h
  · cases h
  · obtain ⟨hresult, rfl⟩ := Prod.mk.inj h
    exact Prod.ext hresult rfl

/-- A store that is opened, whose next calls fail as given. -/
def start (faults : List Bool) (opened : Action Disk OverlayError O) : Action Disk OverlayError (Flaky O) := do
  let store ← opened
  return { faults := faults, store := store }

theorem perform_start (faults : List Bool) (opened : Action Disk OverlayError O) (disk : Disk) :
    perform (start faults opened) disk
      = ((perform opened disk).1.map (Flaky.mk faults), (perform opened disk).2) := by
  rw [start, Action.perform_bind]
  rcases perform opened disk with ⟨result, after⟩
  cases result with
  | error error => rfl
  | ok store => rfl

instance [Overlay O] : Overlay (Flaky O) where
  Setup := List Bool × Overlay.Setup O
  init setup path blockSize totalBlocks := start setup.1 (Overlay.init setup.2 path blockSize totalBlocks)
  create setup path blockSize totalBlocks := start setup.1 (Overlay.create setup.2 path blockSize totalBlocks)
  verify := check Overlay.verify
  seek block := act (Overlay.seek block)
  read length := call (.failed fault) (Overlay.read length)
  write data := act (Overlay.write data)
  holds flaky := Overlay.holds flaky.store
  sync := act Overlay.sync
  finish flaky := Overlay.finish flaky.store
  discard flaky := Overlay.discard flaky.store

end Flaky

/-- **A store that fails without a trace may fail more often**: the contract is kept where calls fail that are never
made. -/
def Overlay.Careful.flaky {O : Type} [Overlay O] {path : String} {blockSize total : Nat} {backing : Backing}
    {origin : Disk} (care : Overlay.Careful O path blockSize total backing origin) :
    Overlay.Careful (Flaky O) path blockSize total backing origin where
  stores blocks state := care.stores blocks (state.1.store, state.2)
  rests setup := care.rests setup.2
  length_eq h := care.length_eq h
  apart h := care.apart h
  apart_rests h := care.apart_rests h
  seek := by
    intro blocks state block h hblock
    rw [show perform (Overlay.seek block) state = _ from Flaky.perform_act _ state]
    split
    · exact h
    · exact care.seek h hblock
  read := by
    intro blocks state sought block h hblock hseek
    have hsought := care.seek h (Nat.le_of_lt hblock)
    rw [Flaky.act_inv hseek] at hsought
    rw [show (Overlay.read blockSize).run sought = _ from Flaky.run_call _ _ sought]
    split
    · exact ⟨hsought, fun lookup hok => nomatch hok⟩
    · exact care.read h hblock (Flaky.act_inv hseek)
  holds h hblock hseek := care.holds h hblock (Flaky.act_inv hseek)
  write := by
    intro blocks state sought block data h hblock hseek hdata
    have hsought := care.seek h (Nat.le_of_lt hblock)
    rw [Flaky.act_inv hseek] at hsought
    have hwrite := care.write h hblock (Flaky.act_inv hseek) hdata
    rw [show perform (Overlay.write data) sought = _ from Flaky.perform_act _ sought]
    cases sought.1.faults.headD false with
    | true => exact hsought
    | false =>
      rcases hrun : perform (Overlay.write data) (sought.1.store, sought.2) with ⟨result, written⟩
      rw [hrun] at hwrite
      cases result with
      | error error => exact hwrite
      | ok done => exact hwrite
  sync := by
    intro blocks state h
    rw [show perform Overlay.sync state = _ from Flaky.perform_act _ state]
    split
    · exact h
    · exact care.sync h
  create := by
    intro setup blocks disk h
    have hcreate := care.create h
    rw [show perform (Overlay.create setup path blockSize total) disk = _ from
      Flaky.perform_start setup.1 (Overlay.create setup.2 path blockSize total) disk]
    rcases hrun : perform (Overlay.create (O := O) setup.2 path blockSize total) disk with ⟨made, after⟩
    rw [hrun] at hcreate
    cases made with
    | error error => exact hcreate
    | ok store =>
      dsimp only [Except.map] at hcreate ⊢
      rw [show perform Overlay.verify _ = _ from Flaky.perform_check Overlay.verify _]
      rcases hverify : perform Overlay.verify (store, after) with ⟨result, checked⟩
      rw [hverify] at hcreate
      cases result with
      | error error => exact hcreate
      | ok done => exact hcreate

end PartitionImage
