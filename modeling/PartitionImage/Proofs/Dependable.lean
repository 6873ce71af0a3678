import PartitionImage.Proofs.Careful
import PartitionImage.Proofs.ChangeFile.Lasting
/-!
# Overlays that do not fail

An overlay without faults is a table of blocks with a cursor: it does what is asked for within the device, and answers
with what was stored.

* `Overlay.Dependable` is the contract of such an overlay.
* `MemoryStore.dependable` and `ChangeFile.dependable` keep it: stores in memory if nothing is told to fail, and change
  files if they are whole and there is room for them.
* `Overlay.Dependable.Lasting` is the contract of one whose changes are found again; `ChangeFile.lasting` says so of
  change files.
-/

namespace PartitionImage

open PartitionImage.Action (perform)

/-- The contract of an overlay without faults, for a device of `total` blocks whose image is the backing on the disk
`origin`. -/
structure Overlay.Dependable (O : Type) [Overlay O] (blockSize total : Nat) (backing : Backing) (origin : Disk) where
  /-- The stores that have the blocks and the cursor of a table. -/
  has : BlockTable → O × Disk → Prop
  apart : ∀ {table : BlockTable} {state : O × Disk}, has table state → backing.Unchanged origin state.2
  seek : ∀ {table : BlockTable} {state : O × Disk} {block : Nat}, has table state → block ≤ total →
    ∃ sought, perform (Overlay.seek block) state = (.ok (), sought) ∧ has { table with cursor := block } sought
  read : ∀ {table : BlockTable} {state : O × Disk}, has table state → table.cursor < total →
    ∃ transfer after, (Overlay.read blockSize).run state = (transfer, after)
      ∧ Overlay.Answers (table.blocks table.cursor) transfer ∧ has table.advance after
  write : ∀ {table : BlockTable} {state : O × Disk} {data : Bytes}, has table state → table.cursor < total →
    data.length = blockSize →
      ∃ written, perform (Overlay.write data) state = (.ok (), written) ∧ has (table.store data).advance written
  sync : ∀ {table : BlockTable} {state : O × Disk}, has table state →
    ∃ synced, perform Overlay.sync state = (.ok (), synced) ∧ has table synced

/-- Changes that are made to last are found by whoever opens the overlay at its path. -/
def Overlay.Dependable.Lasting {O : Type} [Overlay O] {blockSize total : Nat} {backing : Backing} {origin : Disk}
    (dependable : Overlay.Dependable O blockSize total backing origin) (setup : Overlay.Setup O) (path : String) :
    Prop :=
  ∀ {table : BlockTable} {state synced : O × Disk}, dependable.has table state →
    perform Overlay.sync state = (.ok (), synced) →
      ∃ store disk, perform (Overlay.init setup path blockSize total) synced.2 = (.ok store, disk)
        ∧ dependable.has ⟨table.blocks, 0⟩ (store, disk)

/-! ### Stores in memory -/

namespace MemoryStore

/-- A store that is not told to fail, with the blocks and the cursor of a table. -/
structure Matches (total : Nat) (table : BlockTable) (store : MemoryStore) : Prop where
  failing : store.failing = []
  totalBlocks_eq : store.totalBlocks = total
  cursor_eq : store.cursor = table.cursor
  lookup_eq : ∀ block, store.blocks.lookup block = table.blocks block

/-- **Stores in memory do not fail**, unless they are told to. -/
def dependable (blockSize total : Nat) (backing : Backing) (origin : Disk) :
    Overlay.Dependable MemoryStore blockSize total backing origin where
  has table state := Matches total table state.1 ∧ backing.Unchanged origin state.2
  apart h := h.2
  seek := by
    rintro table ⟨store, disk⟩ block ⟨h, hapart⟩ hblock
    have hrun : perform (Overlay.seek block) (store, disk) = _ := perform_seek block store disk
    have hfault : fault? store.failing .seek = .ok () := by
      rw [h.failing]
      rfl
    rw [hfault] at hrun
    dsimp only at hrun
    rw [if_neg (by rw [h.totalBlocks_eq]; exact Nat.not_lt.mpr hblock)] at hrun
    exact ⟨_, hrun, ⟨h.failing, h.totalBlocks_eq, rfl, h.lookup_eq⟩, hapart⟩
  read := by
    rintro table ⟨store, disk⟩ ⟨h, hapart⟩ -
    have hread : .read ∉ store.failing := by
      rw [h.failing]
      exact List.not_mem_nil
    have hrun : (Overlay.read blockSize).run (store, disk) = _ := run_read hread disk
    have hadvance : Matches total table.advance { store with cursor := store.cursor + 1 } :=
      ⟨h.failing, h.totalBlocks_eq, congrArg Nat.succ h.cursor_eq, h.lookup_eq⟩
    rw [h.lookup_eq, h.cursor_eq] at hrun
    rw [h.cursor_eq] at hadvance
    cases hblock : table.blocks table.cursor with
    | some data =>
      rw [hblock] at hrun
      exact ⟨_, _, hrun, rfl, hadvance, hapart⟩
    | none =>
      rw [hblock] at hrun
      exact ⟨_, _, hrun, rfl, hadvance, hapart⟩
  write := by
    rintro table ⟨store, disk⟩ data ⟨h, hapart⟩ - -
    have hrun : perform (Overlay.write data) (store, disk) = _ := perform_write data (store, disk)
    have hfault : fault? store.failing .write = .ok () := by
      rw [h.failing]
      rfl
    rw [hfault] at hrun
    refine ⟨_, hrun, ⟨h.failing, h.totalBlocks_eq, congrArg Nat.succ h.cursor_eq, fun block => ?_⟩, hapart⟩
    show List.lookup block ((store.cursor, data) :: store.blocks)
      = if block = table.cursor then some data else table.blocks block
    rw [List.lookup_cons, h.cursor_eq, h.lookup_eq]
    by_cases hsame : block = table.cursor
    · rw [if_pos hsame, hsame, beq_self_eq_true]
    · rw [if_neg hsame, beq_false_of_ne hsame]
  sync := by
    rintro table ⟨store, disk⟩ ⟨h, hapart⟩
    have hrun : perform Overlay.sync (store, disk) = _ := perform_check .sync (store, disk)
    have hfault : fault? store.failing .sync = .ok () := by
      rw [h.failing]
      rfl
    rw [hfault] at hrun
    exact ⟨_, hrun, h, hapart⟩

end MemoryStore

/-! ### Change files -/

namespace ChangeFile

theorem Step.unchanged {before after : ChangeFile × Disk} (h : Step before after) {backing : Backing}
    (hother : backing ≠ .file before.1.file) {origin : Disk} (hbefore : backing.Unchanged origin before.2) :
    backing.Unchanged origin after.2 := by
  intro id hid
  have hne : id ≠ before.1.file := by
    rintro rfl
    exact hother hid
  rw [h.changes.data_eq id hne]
  exact hbefore id hid

/-- **Change files do not fail** that are whole and have room, beside an image that is another file. -/
def dependable (path : String) (blockSize total : Nat) (backing : Backing) (origin : Disk) :
    Overlay.Dependable ChangeFile blockSize total backing origin where
  has table state := Refines path blockSize total state table ∧ backing ≠ .file state.1.file
    ∧ backing.Unchanged origin state.2
  apart h := h.2.2
  seek := by
    rintro table state block ⟨h, hother, hapart⟩ hblock
    have hrun : perform (Overlay.seek block) state = _ := perform_seek block state.1 state.2
    rw [if_neg (by rw [h.totalBlocks_eq]; exact Nat.not_lt.mpr hblock)] at hrun
    exact ⟨_, hrun, h.moved block, hother, hapart⟩
  read := by
    rintro table state ⟨h, hother, hapart⟩ hcursor
    have hstep : Step state ((Overlay.read blockSize).run state).2 := read_step blockSize state
    have hother' := hother
    rw [← hstep.file_eq] at hother'
    have hanswer : _ = _ ∧ Refines path blockSize total ((Overlay.read blockSize).run state).2 _ := h.read blockSize
    have hrefusal : table.refusal? blockSize total blockSize = none := by
      rw [BlockTable.refusal?, if_neg (fun hne => hne rfl), if_neg (Nat.not_le.mpr hcursor)]
    rw [Call.expect, hrefusal] at hanswer
    dsimp only at hanswer
    refine ⟨_, _, rfl, ?_, ?_, hother', hstep.unchanged hother hapart⟩
    · cases hblock : table.blocks table.cursor with
      | some data =>
        rw [hblock] at hanswer
        exact Answer.transferred.inj hanswer.1
      | none =>
        rw [hblock] at hanswer
        exact congrArg Transfer.result (Answer.transferred.inj hanswer.1)
    · cases hblock : table.blocks table.cursor with
      | some data =>
        rw [hblock] at hanswer
        exact hanswer.2
      | none =>
        rw [hblock] at hanswer
        exact hanswer.2
  write := by
    rintro table state data ⟨h, hother, hapart⟩ hcursor hdata
    have hstep : Step state (perform (Overlay.write data) state).2 := write_step data state
    have hother' := hother
    rw [← hstep.file_eq] at hother'
    have hanswer : _ = _ ∧ Refines path blockSize total (perform (Overlay.write data) state).2 _ := h.write data
    have hrefusal : table.refusal? blockSize total data.length = none := by
      rw [BlockTable.refusal?, if_neg (fun hne => hne hdata), if_neg (Nat.not_le.mpr hcursor)]
    rw [Call.expect, hrefusal] at hanswer
    have hresult : (perform (Overlay.write data) state).1 = .ok () := Answer.ended.inj hanswer.1
    exact ⟨_, Prod.ext hresult rfl, hanswer.2, hother', hstep.unchanged hother hapart⟩
  sync := by
    rintro table state ⟨h, hother, hapart⟩
    obtain ⟨after, hsync, hafter⟩ := h.exists_sync
    have hstep : Step state (perform ChangeFile.sync state).2 := sync_step state
    have hkept := hstep.unchanged hother hapart
    rw [hsync] at hkept
    exact ⟨_, hsync, hafter, hother, hkept⟩

/-- **What change files are made to keep is found again**: their contract is `Lasting`. -/
theorem lasting (path : String) (blockSize total : Nat) (backing : Backing) (origin : Disk)
    (setup : Overlay.Setup ChangeFile) : (dependable path blockSize total backing origin).Lasting setup path := by
  rintro table state synced ⟨h, hother, hapart⟩ hsync
  obtain ⟨after, hrun, hafter⟩ := h.exists_sync
  obtain ⟨-, rfl⟩ := Prod.mk.inj (hrun.symm.trans hsync)
  have hclosed : Closed path blockSize total table.blocks after :=
    ⟨state.1.clean, rfl, { hafter with cursor_eq := rfl }⟩
  obtain ⟨file, hopen, hfile⟩ := hclosed.opened .init
  have hsame : state.1.file = file.file := Except.ok.inj (hafter.found.symm.trans hfile.found)
  have hstep := sync_step state
  rw [hrun] at hstep
  exact ⟨file, after, hopen, hfile, hsame ▸ hother, hstep.unchanged hother hapart⟩

end ChangeFile

end PartitionImage
