import Mathlib
import PartitionImage.Proofs.ChangeFile.Contents
/-!
# A change file is a map that lasts

Whatever is done to a change file, and however often it is let go of and opened again, it answers as a
partial map from block numbers to blocks does.

* `ChangeFile.Call` is a call on an open file and `ChangeFile.Answer` what it answers; `Call.make` makes it,
  `Call.expect` is the same call on a `BlockTable`.
* `ChangeFile.Session` is an opening, calls and an ending; `Session.run` and `Session.expect` are the two
  ways through it.
* `ChangeFile.Refines` relates an open file to a table: `Refines.make` keeps it for one call,
  `Refines.makeAll` for many, `Refines.leave` and `Closed.opened` from one session to the next.
* `ChangeFile.answers_of_sessions` is the statement.
-/

namespace PartitionImage

open PartitionImage.Action (perform)

/-- A partial map from block numbers to blocks, and a cursor. -/
structure BlockTable where
  blocks : Nat → Option Bytes
  cursor : Nat

namespace BlockTable

/-- Why a buffer of `length` bytes cannot be exchanged with the block at the cursor, if it cannot. -/
def refusal? (table : BlockTable) (blockSize totalBlocks length : Nat) : Option OverlayError :=
  if length ≠ blockSize then some (.bufferSize length blockSize)
  else if totalBlocks ≤ table.cursor then some (.outOfRange table.cursor)
  else none

def advance (table : BlockTable) : BlockTable := { table with cursor := table.cursor + 1 }

/-- The table with a block at its cursor. -/
def store (table : BlockTable) (block : Bytes) : BlockTable :=
  { table with
    blocks := fun asked => if asked = table.cursor then some block else table.blocks asked }

def count (table : BlockTable) (totalBlocks : Nat) : Nat :=
  (List.range totalBlocks).countP fun block => (table.blocks block).isSome

end BlockTable

namespace ChangeFile

/-! ### Calls -/

inductive Call
  | seek (block : Nat)
  /-- Reads into a buffer of `length` bytes. -/
  | read (length : Nat)
  | write (block : Bytes)
  | holds
  | storedBlocks
  | sync
  deriving DecidableEq, Repr

inductive Answer
  | ended (result : Except OverlayError Unit)
  | transferred (transfer : Transfer OverlayError Lookup)
  | truth (value : Bool)
  | number (value : Nat)

def Call.make : Call → ChangeFile × Disk → Answer × ChangeFile × Disk
  | seek block, state =>
    let (result, after) := perform (ChangeFile.seek block) state
    (.ended result, after)
  | read length, state =>
    let (transfer, after) := (ChangeFile.read length).run state
    (.transferred transfer, after)
  | write block, state =>
    let (result, after) := perform (ChangeFile.write block) state
    (.ended result, after)
  | holds, state => (.truth state.1.holds, state)
  | storedBlocks, state => (.number state.1.storedBlocks, state)
  | sync, state =>
    let (result, after) := perform ChangeFile.sync state
    (.ended result, after)

/-- The same call on a table. -/
def Call.expect (blockSize totalBlocks : Nat) : Call → BlockTable → Answer × BlockTable
  | seek block, table =>
    if totalBlocks < block then (.ended (.error (.outOfRange block)), table)
    else (.ended (.ok ()), { table with cursor := block })
  | read length, table =>
    match table.refusal? blockSize totalBlocks length with
    | some error => (.transferred (.failed error), table)
    | none =>
      match table.blocks table.cursor with
      | some block => (.transferred ⟨block, .ok .found⟩, table.advance)
      | none => (.transferred ⟨[], .ok .notPresent⟩, table.advance)
  | write block, table =>
    match table.refusal? blockSize totalBlocks block.length with
    | some error => (.ended (.error error), table)
    | none => (.ended (.ok ()), (table.store block).advance)
  | holds, table =>
    (.truth (table.cursor < totalBlocks && (table.blocks table.cursor).isSome), table)
  | storedBlocks, table => (.number (table.count totalBlocks), table)
  | sync, table => (.ended (.ok ()), table)

def Call.makeAll : List Call → ChangeFile × Disk → List Answer × ChangeFile × Disk
  | [], state => ([], state)
  | call :: calls, state =>
    let (answer, reached) := call.make state
    let (answers, after) := makeAll calls reached
    (answer :: answers, after)

def Call.expectAll (blockSize totalBlocks : Nat) : List Call → BlockTable → List Answer × BlockTable
  | [], table => ([], table)
  | call :: calls, table =>
    let (answer, reached) := call.expect blockSize totalBlocks table
    let (answers, after) := expectAll blockSize totalBlocks calls reached
    (answer :: answers, after)

/-! ### Sessions -/

inductive Opening
  | create
  | init
  deriving DecidableEq, Repr

inductive Ending
  | finish
  | drop
  deriving DecidableEq, Repr

/-- An opening, calls, and an ending. -/
structure Session where
  opening : Opening
  calls : List Call
  ending : Ending
  deriving DecidableEq, Repr

def Opening.enter : Opening → (path : String) → (blockSize totalBlocks : Nat) →
    Action Disk OverlayError ChangeFile
  | create => ChangeFile.create
  | init => ChangeFile.init

def Ending.leave : Ending → ChangeFile → Disk → List Answer × Disk
  | finish, file, disk =>
    let (result, after) := perform file.finish disk
    ([.ended result], after)
  | drop, file, disk => ([], (file.drop.run disk).2)

/-- What an ending answers if it succeeds. -/
def Ending.expect : Ending → List Answer
  | finish => [.ended (.ok ())]
  | drop => []

/-- The answers of a session and the disk that it leaves, unless the file cannot be opened. -/
def Session.run (path : String) (blockSize totalBlocks : Nat) (session : Session) (disk : Disk) :
    Except OverlayError (List Answer) × Disk :=
  match perform (session.opening.enter path blockSize totalBlocks) disk with
  | (.error error, reached) => (.error error, reached)
  | (.ok file, reached) =>
    let (answers, file, reached) := Call.makeAll session.calls (file, reached)
    let (last, after) := session.ending.leave file reached
    (.ok (answers ++ last), after)

/-- The same session on a map, with a cursor that starts at the first block. -/
def Session.expect (blockSize totalBlocks : Nat) (session : Session) (blocks : Nat → Option Bytes) :
    List Answer × (Nat → Option Bytes) :=
  let (answers, table) := Call.expectAll blockSize totalBlocks session.calls ⟨blocks, 0⟩
  (answers ++ session.ending.expect, table.blocks)

/-- The answers of sessions, one after the other on one disk. -/
def Session.runAll (path : String) (blockSize totalBlocks : Nat) :
    List Session → Disk → List (Except OverlayError (List Answer))
  | [], _ => []
  | session :: sessions, disk =>
    let (answers, after) := session.run path blockSize totalBlocks disk
    answers :: runAll path blockSize totalBlocks sessions after

/-- The same sessions on a map that lasts from one to the next. -/
def Session.expectAll (blockSize totalBlocks : Nat) :
    List Session → (Nat → Option Bytes) → List (List Answer)
  | [], _ => []
  | session :: sessions, blocks =>
    let (answers, after) := session.expect blockSize totalBlocks blocks
    answers :: expectAll blockSize totalBlocks sessions after

/-! ### Refinement -/

/-- An open change file at a path has the blocks and the cursor of a table. -/
structure Refines (path : String) (blockSize totalBlocks : Nat) (state : ChangeFile × Disk)
    (table : BlockTable) : Prop where
  kept : state.1.Kept state.2
  fits : Fits blockSize totalBlocks state.2.sizeLimit
  path_eq : state.1.path = path
  blockSize_eq : state.1.blockSize = blockSize
  totalBlocks_eq : state.1.totalBlocks = totalBlocks
  cursor_eq : state.1.cursor = table.cursor
  stored_eq : ∀ block, block < totalBlocks → state.1.stored state.2 block = table.blocks block

variable {path : String} {blockSize totalBlocks : Nat} {state : ChangeFile × Disk}
  {table : BlockTable} {disk : Disk} {blocks : Nat → Option Bytes}

namespace Refines

theorem refusal?_eq (h : Refines path blockSize totalBlocks state table) (length : Nat) :
    state.1.refusal? length = table.refusal? blockSize totalBlocks length := by
  rw [ChangeFile.refusal?, BlockTable.refusal?, h.blockSize_eq, h.totalBlocks_eq, h.cursor_eq]

theorem isSet_eq (h : Refines path blockSize totalBlocks state table) {block : Nat}
    (hblock : block < totalBlocks) : state.1.map.isSet block = (table.blocks block).isSome := by
  rw [← h.stored_eq block hblock, stored]
  split
  · next hset => exact hset
  · next hset => exact Bool.eq_false_iff.mpr hset

theorem moved (h : Refines path blockSize totalBlocks state table) (cursor : Nat) :
    Refines path blockSize totalBlocks ({ state.1 with cursor := cursor }, state.2)
      { table with cursor := cursor } :=
  ⟨h.kept.moved cursor, h.fits, h.path_eq, h.blockSize_eq, h.totalBlocks_eq, rfl, h.stored_eq⟩

theorem storedBlocks_eq (h : Refines path blockSize totalBlocks state table) :
    state.1.storedBlocks = table.count totalBlocks := by
  rw [ChangeFile.storedBlocks, BlockTable.count, Bitmap.count_eq, h.totalBlocks_eq,
    ← List.range_eq_range']
  apply List.countP_congr
  intro block hblock
  rw [h.isSet_eq (List.mem_range.mp hblock)]

theorem holds_eq (h : Refines path blockSize totalBlocks state table) :
    state.1.holds = (decide (table.cursor < totalBlocks) && (table.blocks table.cursor).isSome) := by
  rw [ChangeFile.holds, h.totalBlocks_eq, h.cursor_eq]
  by_cases hcursor : table.cursor < totalBlocks
  · rw [h.isSet_eq hcursor]
  · rw [decide_eq_false hcursor, Bool.false_and, Bool.false_and]

/-- An answer is that of the table, and the state is related to what the table is then. -/
def Agrees (path : String) (blockSize totalBlocks : Nat) (made : Answer × ChangeFile × Disk)
    (expected : Answer × BlockTable) : Prop :=
  made.1 = expected.1 ∧ Refines path blockSize totalBlocks made.2 expected.2

theorem seek (h : Refines path blockSize totalBlocks state table) (block : Nat) :
    Agrees path blockSize totalBlocks ((Call.seek block).make state)
      ((Call.seek block).expect blockSize totalBlocks table) := by
  obtain rfl := h.totalBlocks_eq
  have hrun := perform_seek block state.1 state.2
  rw [Call.make, Call.expect]
  show Agrees _ _ _ (.ended (perform (ChangeFile.seek block) (state.1, state.2)).1,
    (perform (ChangeFile.seek block) (state.1, state.2)).2) _
  rw [hrun]
  split
  · exact ⟨rfl, h⟩
  · exact ⟨rfl, h.moved block⟩

theorem slotStart_lt (h : Refines path blockSize totalBlocks state table)
    (hcursor : state.1.cursor < state.1.totalBlocks) : ¬ range64 ≤ state.1.slotStart state.1.cursor :=
  ChangeFile.slotStart_lt hcursor (wholeLength_lt_of_reach h.kept.reach)

theorem spans (h : Refines path blockSize totalBlocks state table) :
    Spans state.1.blockSize state.1.totalBlocks (state.2.length state.1.file) :=
  ⟨wholeLength_lt_of_reach h.kept.reach, h.kept.room⟩

theorem verdict_eq (h : Refines path blockSize totalBlocks state table) :
    verdict state.1.blockSize state.1.totalBlocks (state.2.length state.1.file) = .ok () :=
  verdict_eq_ok_iff.mpr h.spans

/-- A slot of a file that is whole can be read. -/
theorem exists_slot (h : Refines path blockSize totalBlocks state table)
    (hcursor : state.1.cursor < state.1.totalBlocks) :
    ∃ slot, readFile state.2 state.1.file (state.1.slotStart state.1.cursor) state.1.blockSize
        = (slot, .ok ())
      ∧ slot.toBytes = (state.2.content state.1.file).slice (state.1.slotStart state.1.cursor)
        state.1.blockSize :=
  have hslot := slotStart_add_le hcursor
  readFile_of_le (Nat.le_trans hslot h.kept.room) (Nat.le_trans hslot h.kept.reach)

theorem read (h : Refines path blockSize totalBlocks state table) (length : Nat) :
    Agrees path blockSize totalBlocks ((Call.read length).make state)
      ((Call.read length).expect blockSize totalBlocks table) := by
  rw [Call.make, Call.expect, ← h.refusal?_eq]
  show Agrees _ _ _ (.transferred ((ChangeFile.read length).run state).1,
    ((ChangeFile.read length).run state).2) _
  cases hrefusal : state.1.refusal? length with
  | some error =>
    have hrun : (ChangeFile.read length).run state = (.failed error, state) := by
      simp only [ChangeFile.read, StateT.run_bind, StateT.run_get, pure_bind, hrefusal]
      rfl
    rw [hrun]
    exact ⟨rfl, h⟩
  | none =>
    have hrun : (ChangeFile.read length).run state = _ := run_read hrefusal state.2
    obtain ⟨rfl, hcursor⟩ := refusal?_eq_none_iff.mp hrefusal
    have hstored := h.stored_eq state.1.cursor (h.totalBlocks_eq ▸ hcursor)
    have hadvance : Refines path blockSize totalBlocks (state.1.advance, state.2) table.advance := by
      rw [advance, h.cursor_eq]
      exact h.moved _
    rw [hrun, ← h.cursor_eq, ← hstored, stored]
    cases state.1.map.isSet state.1.cursor with
    | true =>
      obtain ⟨slot, hread, hslot⟩ := h.exists_slot hcursor
      rw [if_pos rfl, if_pos rfl, if_neg (h.slotStart_lt hcursor), hread, ← hslot]
      exact ⟨rfl, hadvance⟩
    | false => exact ⟨rfl, hadvance⟩

theorem write (h : Refines path blockSize totalBlocks state table) (block : Bytes) :
    Agrees path blockSize totalBlocks ((Call.write block).make state)
      ((Call.write block).expect blockSize totalBlocks table) := by
  have hrun := perform_write block state.1 state.2
  rw [Call.make, Call.expect, ← h.refusal?_eq]
  show Agrees _ _ _ (.ended (perform (ChangeFile.write block) (state.1, state.2)).1,
    (perform (ChangeFile.write block) (state.1, state.2)).2) _
  cases hrefusal : state.1.refusal? block.length with
  | some error =>
    rw [hrun, hrefusal]
    exact ⟨rfl, h⟩
  | none =>
    obtain ⟨hlength, hcursor⟩ := refusal?_eq_none_iff.mp hrefusal
    obtain ⟨after, hwrite⟩ : ∃ after, state.2.write state.1.file
        (state.1.slotStart state.1.cursor) (.ofBytes block) = .ok after := by
      refine Disk.exists_write _ ?_ h.kept.reach ?_
      · rw [Packed.size_ofBytes, hlength]
        exact slotStart_add_le hcursor
      · rw [h.blockSize_eq, h.totalBlocks_eq]
        exact h.fits.limit
    have hkept := h.kept.write hwrite
    rw [hrun, hrefusal]
    dsimp only
    rw [if_neg (h.slotStart_lt hcursor), hwrite]
    refine ⟨rfl, hkept, ?_, h.path_eq, h.blockSize_eq, h.totalBlocks_eq,
      congrArg Nat.succ h.cursor_eq, ?_⟩
    · show Fits _ _ after.sizeLimit
      rw [(Disk.changesOnly_write hwrite).sizeLimit_eq]
      exact h.fits
    · intro asked hasked
      show state.1.marked.advance.stored after asked
        = if asked = table.cursor then some block else table.blocks asked
      rw [h.kept.stored_write hcursor hlength hwrite (h.totalBlocks_eq ▸ hasked), h.cursor_eq,
        h.stored_eq asked hasked]

theorem exists_sync (h : Refines path blockSize totalBlocks state table) :
    ∃ after, perform ChangeFile.sync state = (.ok (), state.1.clean, after)
      ∧ Refines path blockSize totalBlocks (state.1.clean, after) table := by
  have hlimit : wholeLength state.1.blockSize state.1.totalBlocks ≤ state.2.sizeLimit := by
    rw [h.blockSize_eq, h.totalBlocks_eq]
    exact h.fits.limit
  obtain ⟨after, hsync, hkept, hsize, hstored⟩ := perform_sync h.kept hlimit
  refine ⟨after, hsync, hkept, ?_, h.path_eq, h.blockSize_eq, h.totalBlocks_eq, h.cursor_eq, ?_⟩
  · show Fits _ _ after.sizeLimit
    rw [hsize]
    exact h.fits
  · intro block hblock
    exact (hstored block (h.totalBlocks_eq ▸ hblock)).trans (h.stored_eq block hblock)

theorem sync (h : Refines path blockSize totalBlocks state table) :
    Agrees path blockSize totalBlocks (Call.sync.make state)
      (Call.sync.expect blockSize totalBlocks table) := by
  obtain ⟨after, hsync, hafter⟩ := h.exists_sync
  show Agrees _ _ _ (.ended (perform ChangeFile.sync state).1, (perform ChangeFile.sync state).2) _
  rw [hsync]
  exact ⟨rfl, hafter⟩

/-- **A call on a file answers as the call on its table does.** -/
theorem make (h : Refines path blockSize totalBlocks state table) (call : Call) :
    Agrees path blockSize totalBlocks (call.make state)
      (call.expect blockSize totalBlocks table) := by
  cases call with
  | seek block => exact h.seek block
  | read length => exact h.read length
  | write block => exact h.write block
  | holds => exact ⟨congrArg Answer.truth h.holds_eq, h⟩
  | storedBlocks => exact ⟨congrArg Answer.number h.storedBlocks_eq, h⟩
  | sync => exact h.sync

theorem makeAll (h : Refines path blockSize totalBlocks state table) (calls : List Call) :
    (Call.makeAll calls state).1 = (Call.expectAll blockSize totalBlocks calls table).1
      ∧ Refines path blockSize totalBlocks (Call.makeAll calls state).2
        (Call.expectAll blockSize totalBlocks calls table).2 := by
  induction calls generalizing state table with
  | nil => exact ⟨rfl, h⟩
  | cons call calls ih =>
    obtain ⟨hanswer, hreached⟩ := h.make call
    obtain ⟨hanswers, hafter⟩ := ih hreached
    exact ⟨List.cons_eq_cons.mpr ⟨hanswer, hanswers⟩, hafter⟩

end Refines

/-- A disk has a change file that holds the blocks of a map, and can be opened. -/
def Closed (path : String) (blockSize totalBlocks : Nat) (blocks : Nat → Option Bytes)
    (disk : Disk) : Prop :=
  ∃ file : ChangeFile, file.dirty = false
    ∧ Refines path blockSize totalBlocks (file, disk) ⟨blocks, file.cursor⟩

/-- **A file that is let go of, in either way, keeps its blocks.** -/
theorem Refines.leave (h : Refines path blockSize totalBlocks state table) (ending : Ending) :
    (ending.leave state.1 state.2).1 = ending.expect
      ∧ Closed path blockSize totalBlocks table.blocks (ending.leave state.1 state.2).2 := by
  obtain ⟨after, hsync, hafter⟩ := h.exists_sync
  have hfinish : perform state.1.finish state.2 = (.ok (), after) := by
    rw [ChangeFile.finish, Action.perform_zoom, show (state.1, state.2) = state from rfl, hsync]
    rfl
  have hclosed : Closed path blockSize totalBlocks table.blocks after := by
    refine ⟨state.1.clean, rfl, ?_⟩
    rw [show state.1.clean.cursor = table.cursor from h.cursor_eq]
    exact hafter
  cases ending with
  | finish =>
    show [Answer.ended (perform state.1.finish state.2).1] = _
      ∧ Closed _ _ _ _ (perform state.1.finish state.2).2
    rw [hfinish]
    exact ⟨rfl, hclosed⟩
  | drop =>
    show [] = _ ∧ Closed _ _ _ _ (perform state.1.finish state.2).2
    rw [hfinish]
    exact ⟨rfl, hclosed⟩

/-- **A file that was let go of is opened with its blocks**, by either constructor. -/
theorem Closed.opened (h : Closed path blockSize totalBlocks blocks disk) (opening : Opening) :
    ∃ file, perform (opening.enter path blockSize totalBlocks) disk = (.ok file, disk)
      ∧ Refines path blockSize totalBlocks (file, disk) ⟨blocks, 0⟩ := by
  obtain ⟨file, hsaved, hfile⟩ := h
  obtain rfl : file.path = path := hfile.path_eq
  obtain rfl : file.blockSize = blockSize := hfile.blockSize_eq
  obtain rfl : file.totalBlocks = totalBlocks := hfile.totalBlocks_eq
  have hinit : perform (ChangeFile.init file.path file.blockSize file.totalBlocks) disk
      = (.ok { file with cursor := 0 }, disk) := perform_init hfile.kept hsaved hfile.fits
  refine ⟨{ file with cursor := 0 }, ?_, hfile.moved 0⟩
  cases opening with
  | init => exact hinit
  | create =>
    obtain ⟨n, hsize⟩ : ∃ n, disk.length file.file = n + 1 := by
      have hroom : wholeLength file.blockSize file.totalBlocks ≤ disk.length file.file :=
        hfile.kept.room
      have hplaces := headerSize_add_le file.blockSize file.totalBlocks
      have hheader : headerSize = 32 := rfl
      unfold wholeLength at hroom
      exact ⟨disk.length file.file - 1, by omega⟩
    have hfound := Disk.size_of_lookupFile hfile.kept.found
    rw [hsize] at hfound
    exact (perform_create_of_size hfound).trans hinit

/-- Where nothing is lost a file can be made, and can be opened again. -/
theorem exists_fresh (hsound : disk.Sound) (hvacant : disk.Vacant path)
    (hfits : Fits blockSize totalBlocks disk.sizeLimit) :
    ∃ id made, perform (create path blockSize totalBlocks) disk
        = (.ok (fresh path id blockSize totalBlocks), made)
      ∧ (fresh path id blockSize totalBlocks).Kept made ∧ made.sizeLimit = disk.sizeLimit := by
  have hsize := hvacant.size_ne
  obtain ⟨id, created, hcreate, -⟩ := hvacant
  obtain ⟨made, hrun, hkept, hlimit⟩ := perform_createEmpty hsound hcreate hfits
  exact ⟨id, made, (perform_create_of_vacant hsize).trans hrun, hkept, hlimit⟩

/-- **A file that is made has no blocks.** -/
theorem opened_of_vacant (hsound : disk.Sound) (hvacant : disk.Vacant path)
    (hfits : Fits blockSize totalBlocks disk.sizeLimit) :
    ∃ file after, perform (create path blockSize totalBlocks) disk = (.ok file, after)
      ∧ Refines path blockSize totalBlocks (file, after) ⟨fun _ => none, 0⟩ := by
  obtain ⟨id, after, hcreate, hkept, hlimit⟩ := exists_fresh hsound hvacant hfits
  exact ⟨fresh path id blockSize totalBlocks, after, hcreate, hkept, hlimit ▸ hfits, rfl, rfl, rfl, rfl,
    fun block _ => stored_fresh after block⟩

/-- Opened alike, a session answers as on its map and leaves a file with the map that comes of it. -/
theorem run_of_opened (session : Session) {file : ChangeFile} {reached : Disk}
    (hopened : perform (session.opening.enter path blockSize totalBlocks) disk = (.ok file, reached))
    (hfile : Refines path blockSize totalBlocks (file, reached) ⟨blocks, 0⟩) :
    (session.run path blockSize totalBlocks disk).1
        = .ok (session.expect blockSize totalBlocks blocks).1
      ∧ Closed path blockSize totalBlocks (session.expect blockSize totalBlocks blocks).2
        (session.run path blockSize totalBlocks disk).2 := by
  obtain ⟨hanswers, hreached⟩ := hfile.makeAll session.calls
  obtain ⟨hlast, hclosed⟩ := hreached.leave session.ending
  rw [Session.run, hopened]
  refine ⟨?_, hclosed⟩
  show Except.ok (_ ++ _) = Except.ok (_ ++ _)
  rw [hanswers, hlast]

/-- Sessions on a file that is there answer as on its map. -/
theorem Closed.runAll (h : Closed path blockSize totalBlocks blocks disk) (sessions : List Session) :
    Session.runAll path blockSize totalBlocks sessions disk
      = (Session.expectAll blockSize totalBlocks sessions blocks).map .ok := by
  induction sessions generalizing disk blocks with
  | nil => rfl
  | cons session sessions ih =>
    obtain ⟨file, hopened, hfile⟩ := h.opened session.opening
    obtain ⟨hanswers, hclosed⟩ := run_of_opened session hopened hfile
    exact List.cons_eq_cons.mpr ⟨hanswers, ih hclosed⟩

/-- **A change file is a map that lasts.**  Where there is nothing or an empty file, any sessions of which
the first makes the file answer as the same sessions on a map that has no blocks at first. -/
theorem answers_of_sessions (hsound : disk.Sound) (hvacant : disk.Vacant path)
    (hfits : Fits blockSize totalBlocks disk.sizeLimit) {sessions : List Session}
    (hfirst : ∀ session, sessions.head? = some session → session.opening = .create) :
    Session.runAll path blockSize totalBlocks sessions disk
      = (Session.expectAll blockSize totalBlocks sessions fun _ => none).map .ok := by
  cases sessions with
  | nil => rfl
  | cons session sessions =>
    obtain ⟨file, after, hopened, hfile⟩ := opened_of_vacant hsound hvacant hfits
    have hcreate : session.opening = .create := hfirst session rfl
    obtain ⟨hanswers, hclosed⟩ := run_of_opened session
      (by rw [hcreate]; exact hopened) hfile
    exact List.cons_eq_cons.mpr ⟨hanswers, hclosed.runAll sessions⟩

theorem create_on_empty : ({} : Disk).create "a.cf" = .ok (0, Disk.withNew {} ["a.cf"]) := by cbv

/-- The second session finds the block that the first one wrote, behind one that was not. -/
theorem answers_of_sessions_reopened :
    Session.runAll "a.cf" 2 3
        [⟨.create, [.seek 1, .write [7, 8], .write [9], .storedBlocks], .finish⟩,
          ⟨.init, [.read 2, .read 2, .seek 4], .drop⟩] {}
      = [.ok [.ended (.ok ()), .ended (.ok ()), .ended (.error (.bufferSize 1 2)), .number 1,
            .ended (.ok ())],
          .ok [.transferred ⟨[], .ok .notPresent⟩, .transferred ⟨[7, 8], .ok .found⟩,
            .ended (.error (.outOfRange 4))]] := by
  refine answers_of_sessions Disk.sound_empty ⟨0, _, create_on_empty, rfl⟩
    ⟨by decide, by decide, by decide, by decide⟩ ?_
  intro session hsession
  cases hsession
  rfl

end ChangeFile

end PartitionImage
