import PartitionImage.Proofs.ChangeFile.Lasting
/-!
# Change files that are left open

A process may end without letting go of a change file.  What it has written by then is on disk: blocks go
to their slots at once, but the map goes there only when it is saved.  At every point between two calls the
file can be opened again, with the blocks of the map that was saved last, each as it was written last.

* `ChangeFile.Ledger` is a table of blocks together with the map that was saved last; `Ledger.survivors` are
  the blocks that are in both.  `Call.note` is a call on a ledger.
* `ChangeFile.reopened` is an open file as one finds it who opens it again.
* `ChangeFile.Tracks` relates an open file to a ledger: `Tracks.make` keeps it for one call,
  `Tracks.makeAll` for many, `Tracks.closed` says that the file can be opened with the survivors.
* `ChangeFile.refines_of_opened` is how a file starts out; `ChangeFile.survivors_of_calls` is the statement.
-/

namespace PartitionImage

open PartitionImage.Action (perform perform_bind_inv)

namespace ChangeFile

/-! ### What would be found again -/

/-- The blocks of a change file, and the map of those that would be found again. -/
structure Ledger where
  table : BlockTable
  saved : Nat → Bool
  /-- A block that was not in the map has been stored since. -/
  pending : Bool

namespace Ledger

def ofBlocks (blocks : Nat → Option Bytes) : Ledger := ⟨⟨blocks, 0⟩, fun block => (blocks block).isSome, false⟩

/-- The blocks of the map that was saved last, as they are now. -/
def survivors (ledger : Ledger) (block : Nat) : Option Bytes :=
  if ledger.saved block then ledger.table.blocks block else none

end Ledger

/-- A call on a ledger.  A write may store a block that is not in the map; a sync saves the map if there is
such a block. -/
def Call.note (blockSize totalBlocks : Nat) (call : Call) (ledger : Ledger) : Ledger :=
  let table := (call.expect blockSize totalBlocks ledger.table).2
  match call with
  | write block =>
    let stored := (ledger.table.refusal? blockSize totalBlocks block.length).isNone
    { ledger with
      table := table
      pending := ledger.pending || stored && (ledger.table.blocks ledger.table.cursor).isNone }
  | sync =>
    { table := table
      saved := if ledger.pending then fun block => (ledger.table.blocks block).isSome else ledger.saved
      pending := false }
  | seek _ | read _ | holds | storedBlocks => { ledger with table := table }

def Call.noteAll (blockSize totalBlocks : Nat) (calls : List Call) (ledger : Ledger) : Ledger :=
  calls.foldl (fun ledger call => call.note blockSize totalBlocks ledger) ledger

/-- An open file as one finds it who opens it again: its map is the one on disk. -/
def reopened (file : ChangeFile) (disk : Disk) : ChangeFile :=
  { file with
    map := (Bitmap.clear file.totalBlocks).load
      (.ofBytes ((disk.content file.file).slice headerSize (bytesForBits file.totalBlocks)))
    dirty := false }

variable {path : String} {blockSize totalBlocks : Nat} {state : ChangeFile × Disk} {ledger : Ledger}
  {table : BlockTable} {file : ChangeFile} {disk after : Disk}

theorem Kept.size_map (h : file.Kept disk) : file.map.bytes.size = bytesForBits file.totalBlocks := by
  rw [file.map.size_bytes, h.positions]

theorem Kept.length_slice_map (h : file.Kept disk) :
    ((disk.content file.file).slice headerSize (bytesForBits file.totalBlocks)).length
      = bytesForBits file.totalBlocks := by
  have hmap := h.map_le
  have hroom := h.room
  rw [Disk.length_eq] at hroom
  rw [h.size_map] at hmap
  exact Bytes.length_slice_of_le (Nat.le_trans hmap hroom)

/-- **A file that can be opened once its map is saved can be opened without that**, with the map on disk. -/
theorem Kept.reopened (h : file.Kept disk) : (file.reopened disk).Kept disk where
  isFile := h.isFile
  positions := rfl
  reach := h.reach
  room := h.room
  found := h.found
  header := h.header
  saved := by
    intro _
    have hsize : (file.reopened disk).map.bytes.size = bytesForBits file.totalBlocks :=
      (file.reopened disk).map.size_bytes
    have hloaded : (file.reopened disk).map.bytes.toBytes
        = (disk.content file.file).slice headerSize (bytesForBits file.totalBlocks) := by
      rw [ChangeFile.reopened, Bitmap.toBytes_load, Packed.toBytes_ofBytes]
      rw [Packed.size_ofBytes, h.length_slice_map]
      exact (Bitmap.clear file.totalBlocks).size_bytes.symm
    rw [hsize, hloaded]
    rfl

theorem Kept.reopened_of_saved (h : file.Kept disk) (hsaved : file.dirty = false) :
    file.reopened disk = file := by
  have hmap : (file.reopened disk).map = file.map := by
    rw [ChangeFile.reopened, ← h.positions]
    refine Bitmap.load_clear file.map ?_
    rw [Packed.toBytes_ofBytes, h.positions, ← h.size_map]
    exact h.saved hsaved
  show { file.reopened disk with map := (file.reopened disk).map } = _
  rw [hmap]
  show { file with dirty := false } = _
  rw [← hsaved]

/-! ### Calls -/

/-- An open change file has the blocks of a ledger, and on disk the map that was saved last. -/
structure Tracks (path : String) (blockSize totalBlocks : Nat) (state : ChangeFile × Disk) (ledger : Ledger) :
    Prop where
  refines : Refines path blockSize totalBlocks state ledger.table
  dirty_eq : state.1.dirty = ledger.pending
  saved_eq : ∀ block, block < totalBlocks →
    (state.1.reopened state.2).map.isSet block = ledger.saved block
  stored : ∀ block, block < totalBlocks → ledger.saved block = true → (ledger.table.blocks block).isSome

/-- The map of a file that is saved is that of its blocks. -/
theorem Refines.isSet_reopened (h : Refines path blockSize totalBlocks state table)
    (hsaved : state.1.dirty = false) {block : Nat} (hblock : block < totalBlocks) :
    (state.1.reopened state.2).map.isSet block = (table.blocks block).isSome := by
  rw [h.kept.reopened_of_saved hsaved, h.isSet_eq hblock]

namespace Tracks

theorem of_saved (h : Refines path blockSize totalBlocks state table) (hsaved : state.1.dirty = false) :
    Tracks path blockSize totalBlocks state ⟨table, fun block => (table.blocks block).isSome, false⟩ :=
  ⟨h, hsaved, fun _ hblock => h.isSet_reopened hsaved hblock, fun _ _ hstored => hstored⟩

/-- **The file can be opened again, with the blocks of the map that was saved last.** -/
theorem closed (h : Tracks path blockSize totalBlocks state ledger) :
    Closed path blockSize totalBlocks ledger.survivors state.2 := by
  refine ⟨state.1.reopened state.2, rfl, h.refines.kept.reopened, h.refines.fits, h.refines.path_eq,
    h.refines.blockSize_eq, h.refines.totalBlocks_eq, rfl, ?_⟩
  intro block hblock
  show (if (state.1.reopened state.2).map.isSet block then _ else none)
    = if ledger.saved block then ledger.table.blocks block else none
  rw [h.saved_eq block hblock]
  split
  · next hsaved =>
    have hset : state.1.map.isSet block = true :=
      (h.refines.isSet_eq hblock).trans (h.stored block hblock hsaved)
    rw [← h.refines.stored_eq block hblock]
    exact (if_pos hset).symm
  · rfl

/-- What only moves the cursor leaves the map, here and on disk. -/
theorem moved (h : Tracks path blockSize totalBlocks state ledger) {reached : ChangeFile × Disk}
    (hmoved : Moved state reached) (hreached : Refines path blockSize totalBlocks reached table)
    (hblocks : table.blocks = ledger.table.blocks) :
    Tracks path blockSize totalBlocks reached { ledger with table := table } := by
  obtain ⟨cursor, rfl⟩ := hmoved
  refine ⟨hreached, h.dirty_eq, h.saved_eq, ?_⟩
  show ∀ block, block < totalBlocks → ledger.saved block = true → (table.blocks block).isSome
  rw [hblocks]
  exact h.stored

/-- **A block goes to its slot, and leaves the map on disk.**  If it was not in the map, that is behind now. -/
theorem write (h : Tracks path blockSize totalBlocks state ledger) (block : Bytes) :
    Tracks path blockSize totalBlocks ((Call.write block).make state).2
      ((Call.write block).note blockSize totalBlocks ledger) := by
  have hagrees := h.refines.write block
  have hrun := perform_write block state.1 state.2
  rw [h.refines.refusal?_eq] at hrun
  have hmade : ((Call.write block).make state).2 = (perform (ChangeFile.write block) state).2 := rfl
  have hended : ((Call.write block).make state).1 = .ended (perform (ChangeFile.write block) state).1 := rfl
  cases hrefusal : ledger.table.refusal? blockSize totalBlocks block.length with
  | some error =>
    rw [hrefusal] at hrun
    have hnote : (Call.write block).note blockSize totalBlocks ledger = ledger := by
      simp only [Call.note, Call.expect, hrefusal, Option.isNone_some, Bool.false_and, Bool.or_false]
    rw [hmade, hnote, hrun]
    exact h
  | none =>
    have hexpect : (Call.write block).expect blockSize totalBlocks ledger.table
        = (.ended (.ok ()), (ledger.table.store block).advance) := by
      rw [Call.expect, hrefusal]
    have hnote : (Call.write block).note blockSize totalBlocks ledger
        = { ledger with
          table := (ledger.table.store block).advance
          pending := ledger.pending || (ledger.table.blocks ledger.table.cursor).isNone } := by
      simp only [Call.note, hexpect, hrefusal, Option.isNone_none, Bool.true_and]
    have hcursor := (refusal?_eq_none_iff.mp ((h.refines.refusal?_eq _).trans hrefusal)).2
    rw [hrefusal] at hrun
    dsimp only at hrun
    rw [if_neg (h.refines.slotStart_lt hcursor)] at hrun
    cases hwrite : state.2.write state.1.file (state.1.slotStart state.1.cursor) (.ofBytes block) with
    | error error =>
      -- the table says that the write succeeds
      rw [hwrite] at hrun
      have hanswer := hended.symm.trans (hagrees.1.trans (congrArg Prod.fst hexpect))
      rw [hrun] at hanswer
      cases hanswer
    | ok after =>
      have hblock : state.1.cursor < totalBlocks := h.refines.totalBlocks_eq ▸ hcursor
      have hreached := hagrees.2
      rw [hwrite] at hrun
      rw [hexpect, hmade, hrun] at hreached
      rw [hmade, hnote, hrun]
      refine ⟨hreached, ?_, ?_, ?_⟩
      · show (state.1.dirty || !state.1.map.isSet state.1.cursor) = _
        rw [h.dirty_eq, h.refines.isSet_eq hblock, h.refines.cursor_eq]
        cases ledger.table.blocks ledger.table.cursor with
        | none => rfl
        | some _ => rfl
      · intro asked hasked
        have hmap := h.refines.kept.map_le
        rw [h.refines.kept.size_map] at hmap
        have hslot := h.refines.kept.map_le_slot state.1.cursor
        rw [h.refines.kept.size_map] at hslot
        rw [← h.saved_eq asked hasked]
        show ((Bitmap.clear state.1.totalBlocks).load (.ofBytes ((after.content state.1.file).slice headerSize
          (bytesForBits state.1.totalBlocks)))).isSet asked = _
        rw [h.refines.kept.slice_write hwrite hmap (.inl hslot)]
        rfl
      · intro asked hasked hsaved
        show (if asked = ledger.table.cursor then some block else ledger.table.blocks asked).isSome
        split
        · rfl
        · exact h.stored asked hasked hsaved

/-- **A sync saves the map of the blocks**, unless it is on disk. -/
theorem sync (h : Tracks path blockSize totalBlocks state ledger) :
    Tracks path blockSize totalBlocks (Call.sync.make state).2
      (Call.sync.note blockSize totalBlocks ledger) := by
  obtain ⟨after, hsync, hafter⟩ := h.refines.exists_sync
  have hmade : (Call.sync.make state).2 = (state.1.clean, after) := by
    show (perform ChangeFile.sync state).2 = _
    rw [hsync]
  have htracks := of_saved hafter rfl
  rw [hmade]
  refine ⟨hafter, rfl, ?_, ?_⟩
  · intro block hblock
    rw [htracks.saved_eq block hblock]
    show _ = (if ledger.pending then fun block => (ledger.table.blocks block).isSome else ledger.saved) block
    cases hpending : ledger.pending with
    | true => rfl
    | false =>
      rw [if_neg Bool.false_ne_true, ← h.saved_eq block hblock,
        h.refines.isSet_reopened (h.dirty_eq.trans hpending) hblock]
  · intro block hblock hsaved
    change (if ledger.pending then fun block => (ledger.table.blocks block).isSome else ledger.saved) block = true
      at hsaved
    split at hsaved
    · exact hsaved
    · exact h.stored block hblock hsaved

/-- **A call on a file keeps to the call on its ledger.** -/
theorem make (h : Tracks path blockSize totalBlocks state ledger) (call : Call) :
    Tracks path blockSize totalBlocks (call.make state).2 (call.note blockSize totalBlocks ledger) := by
  have hreached := (h.refines.make call).2
  cases call with
  | seek block =>
    refine h.moved (reads_moved.seek block state) hreached ?_
    rw [Call.expect]
    split <;> rfl
  | read length =>
    refine h.moved (reads_moved.read length state) hreached ?_
    rw [Call.expect]
    split
    · rfl
    · split <;> rfl
  | write block => exact h.write block
  | holds => exact h
  | storedBlocks => exact h
  | sync => exact h.sync

theorem makeAll (h : Tracks path blockSize totalBlocks state ledger) (calls : List Call) :
    Tracks path blockSize totalBlocks (Call.makeAll calls state).2
      (Call.noteAll blockSize totalBlocks calls ledger) := by
  induction calls generalizing state ledger with
  | nil => exact h
  | cons call calls ih => exact ih (h.make call)

end Tracks

/-! ### How a file starts out -/

theorem unmade_of_size_ne (h : ∀ n, disk.size path ≠ .ok (n + 1)) : Unmade path disk :=
  fun _ hfound => content_eq_nil hfound h

/-- A file that is opened and has its whole length holds what was there. -/
theorem refines_of_init (hsound : disk.Sound) (hfits : Fits blockSize totalBlocks disk.sizeLimit)
    (hinit : perform (init path blockSize totalBlocks) disk = (.ok file, after))
    (hverify : (perform verify (file, after)).1 = .ok ()) :
    Refines path blockSize totalBlocks (file, after) ⟨held disk path blockSize totalBlocks, 0⟩
      ∧ file.dirty = false := by
  obtain ⟨rfl, hfound⟩ := init_inv hinit
  obtain rfl := hfound.blockSize_eq
  obtain rfl := hfound.totalBlocks_eq
  obtain ⟨stored, hmap, hsize, hstored⟩ := hfound.map_eq
  have hroom : wholeLength file.blockSize file.totalBlocks ≤ after.length file.file := by
    rw [perform_verify] at hverify
    exact (verdict_eq_ok_iff.mp hverify).room
  have hkept : ChangeFile.Kept { file with path := path } after := by
    refine ⟨⟨hsound.isFile hfound.found, hfound.positions, hfits.reach, hroom⟩, hfound.found,
      hfound.header, fun _ => ?_⟩
    show (after.content file.file).slice headerSize file.map.bytes.size = file.map.bytes.toBytes
    rw [hmap, Bitmap.toBytes_load _ hsize, hstored]
    congr 1
    exact ((Bitmap.clear file.totalBlocks).load stored).size_bytes.trans
      (Bitmap.clear file.totalBlocks).size_bytes.symm
  -- opening gives the file at the path, with the cursor at the start
  have hagain := perform_init hkept hfound.clean hfits
  have hfile : file = { file with path := path, cursor := 0 } :=
    Except.ok.inj (Prod.mk.inj (hinit.symm.trans hagain)).1
  have hpath : file.path = path := congrArg ChangeFile.path hfile
  refine ⟨⟨?_, hfits, hpath, rfl, rfl, congrArg ChangeFile.cursor hfile, ?_⟩, hfound.clean⟩
  · rw [← hpath] at hkept
    exact hkept
  · intro block hblock
    have hheld : held after path file.blockSize file.totalBlocks block = file.stored after block := by
      rw [held, hinit]
      exact if_pos hblock
    exact hheld.symm

/-- **An open file starts out with what the path held**: nothing, where there was no file or an empty one, and
otherwise what an earlier file left, if it has its whole length. -/
theorem refines_of_opened (hsound : disk.Sound) (hfits : Fits blockSize totalBlocks disk.sizeLimit)
    {opening : Opening} (hopen : perform (opening.enter path blockSize totalBlocks) disk = (.ok file, after))
    (hwhole : (∀ n, disk.size path ≠ .ok (n + 1)) ∨ (perform verify (file, after)).1 = .ok ()) :
    Refines path blockSize totalBlocks (file, after) ⟨held disk path blockSize totalBlocks, 0⟩
      ∧ file.dirty = false := by
  have hopened : ∀ hinit : perform (init path blockSize totalBlocks) disk = (.ok file, after),
      Refines path blockSize totalBlocks (file, after) ⟨held disk path blockSize totalBlocks, 0⟩
        ∧ file.dirty = false := by
    intro hinit
    rcases hwhole with hvacant | hverify
    · exact absurd hinit (unmade_of_size_ne hvacant).init_ne
    · exact refines_of_init hsound hfits hinit hverify
  cases opening with
  | init => exact hopened hopen
  | create =>
    have hcreate : perform (create path blockSize totalBlocks) disk = (.ok file, after) := hopen
    by_cases hsize : ∃ n, disk.size path = .ok (n + 1)
    · obtain ⟨n, hsize⟩ := hsize
      rw [perform_create_of_size hsize] at hcreate
      exact hopened hcreate
    · have hvacant : ∀ n, disk.size path ≠ .ok (n + 1) := fun n hn => hsize ⟨n, hn⟩
      rw [perform_create_of_vacant hvacant] at hcreate
      rcases createEmpty_end hsound hcreate with
        ⟨⟨error, herror⟩, -⟩ | ⟨id, made, hmade, -, -, hfresh⟩
      · cases herror
      · obtain rfl := hfresh file rfl
        obtain ⟨reached, hrun, hkept, hlimit⟩ := perform_createEmpty hsound hmade hfits
        obtain ⟨-, rfl⟩ := Prod.mk.inj (hrun.symm.trans hcreate)
        refine ⟨⟨hkept, hlimit ▸ hfits, rfl, rfl, rfl, rfl, fun block _ => ?_⟩, rfl⟩
        rw [stored_fresh]
        exact (silent_of_vacant hvacant block).symm

/-- **A change file that is left open can be opened again at every point**, and it is whole: it has the blocks
of the map that was saved last, each as it was written last, and no others.  This holds of a file that was made
where there was nothing or an empty file, and of one that was there and was verified; the map on disk is the one
in memory whenever the file is not dirty. -/
theorem survivors_of_calls (hsound : disk.Sound) (hfits : Fits blockSize totalBlocks disk.sizeLimit)
    {opening : Opening} (hopen : perform (opening.enter path blockSize totalBlocks) disk = (.ok file, after))
    (hwhole : (∀ n, disk.size path ≠ .ok (n + 1)) ∨ (perform verify (file, after)).1 = .ok ())
    (calls : List Call) {reached : ChangeFile × Disk} (hreached : (Call.makeAll calls (file, after)).2 = reached)
    {ledger : Ledger}
    (hledger : Call.noteAll blockSize totalBlocks calls (.ofBlocks (held disk path blockSize totalBlocks)) = ledger) :
    (∃ again, perform (init path blockSize totalBlocks) reached.2 = (.ok again, reached.2)
      ∧ perform verify (again, reached.2) = (.ok (), again, reached.2)
      ∧ (∀ block, block < totalBlocks → again.stored reached.2 block = ledger.survivors block)
      ∧ ∀ later : List Call, (Call.makeAll later (again, reached.2)).1
        = (Call.expectAll blockSize totalBlocks later ⟨ledger.survivors, 0⟩).1)
    ∧ reached.1.dirty = ledger.pending
    ∧ (reached.1.dirty = false →
      (reached.2.content reached.1.file).slice headerSize reached.1.map.bytes.size
        = reached.1.map.bytes.toBytes) := by
  obtain ⟨hrefines, hclean⟩ := refines_of_opened hsound hfits hopen hwhole
  have hopened : Tracks path blockSize totalBlocks (file, after)
      (.ofBlocks (held disk path blockSize totalBlocks)) := .of_saved hrefines hclean
  have htracks := hopened.makeAll calls
  rw [hreached, hledger] at htracks
  refine ⟨?_, htracks.dirty_eq, htracks.refines.kept.saved⟩
  obtain ⟨again, hinit, hagain⟩ := htracks.closed.opened .init
  refine ⟨again, hinit, ?_, hagain.stored_eq, fun later => (hagain.makeAll later).1⟩
  rw [perform_verify, hagain.verdict_eq]

/-- A block is written and saved, and then it is written again, after another one.  Who opens the file then
finds it as it was written last, and the other one not at all. -/
theorem survivors_of_calls_unsaved :
    ∃ file after again reached, perform (create "a.cf" 2 3) {} = (.ok file, after)
      ∧ (Call.makeAll [.seek 1, .write [7, 8], .sync, .write [9, 9], .seek 1, .write [5, 6]] (file, after)).2
        = reached
      ∧ perform (init "a.cf" 2 3) reached.2 = (.ok again, reached.2)
      ∧ (Call.makeAll [.read 2, .read 2, .read 2] (again, reached.2)).1
        = [.transferred ⟨[], .ok .notPresent⟩, .transferred ⟨[5, 6], .ok .found⟩,
          .transferred ⟨[], .ok .notPresent⟩]
      ∧ reached.1.dirty = true := by
  have hvacant : Disk.Vacant {} "a.cf" := ⟨0, _, create_on_empty, rfl⟩
  have hfits : Fits 2 3 ({} : Disk).sizeLimit := ⟨by decide, by decide, by decide, by decide⟩
  have hnone : held {} "a.cf" 2 3 = fun _ => none := funext (silent_of_vacant hvacant.size_ne)
  obtain ⟨file, after, hcreate, -⟩ := opened_of_vacant Disk.sound_empty hvacant hfits
  obtain ⟨⟨again, hinit, -, -, hlater⟩, hdirty, -⟩ := survivors_of_calls Disk.sound_empty hfits
    (show perform (Opening.create.enter "a.cf" 2 3) {} = _ from hcreate) (.inl hvacant.size_ne)
    [.seek 1, .write [7, 8], .sync, .write [9, 9], .seek 1, .write [5, 6]] rfl rfl
  rw [hnone] at hlater hdirty
  exact ⟨file, after, again, _, hcreate, rfl, hinit, hlater _, hdirty⟩

end ChangeFile

end PartitionImage
