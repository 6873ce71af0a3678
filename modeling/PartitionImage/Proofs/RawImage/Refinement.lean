import PartitionImage.Proofs.Dependable
import PartitionImage.Proofs.RawImage.Mount
/-!
# A raw image is an array of blocks

A raw image whose overlay does not fail is a device that can be told in a few lines: bytes that are cut into blocks,
some of which are replaced, and a cursor.  The bytes after the last whole block have no part in it.

* `BlockArray` is that device, `BlockArray.expect` what a call on it answers and leaves.
* `Operation.reports` is what a caller is told by its calls, with the place of the cursor after each.
* `RawImage.Stands` relates a verified handle to the device; `RawImage.Stands.step` keeps it for one call,
  `RawImage.Stands.reports` for many.
* `RawImage.stands_of_verify` is where it begins, `RawImage.reports_eq_array` the whole.
-/

namespace PartitionImage

open PartitionImage.Action (Respects perform perform_bind_inv perform_bind_ok)

/-- What a caller is told by its calls, each with the place of the cursor afterwards. -/
def Operation.reports {D : Type} [BlockDevice D] :
    List Operation → D × World → List (Transfer Error (Option Bool) × Option Nat)
  | [], _ => []
  | operation :: operations, state =>
    (operation.answer state, BlockDevice.tell? (operation.after state).1)
      :: reports operations (operation.after state)

/-! ### The device -/

/-- Bytes that are cut into blocks. -/
structure BlockArray where
  bytes : Bytes
  blockSize : Nat
  total : Nat
  blockSize_pos : 0 < blockSize
  fits : total * blockSize ≤ bytes.length

namespace BlockArray

/-- As many blocks as there are bytes for: large ones if there are many bytes. -/
def ofBytes (bytes : Bytes) : BlockArray where
  bytes := bytes
  blockSize := if 100000000000 < bytes.length then 4096 else 512
  total := bytes.length / if 100000000000 < bytes.length then 4096 else 512
  blockSize_pos := by split <;> decide
  fits := Nat.div_mul_le_self _ _

/-- A block: the one that replaces it, or the bytes at its place. -/
def block (array : BlockArray) (table : BlockTable) (block : Nat) : Bytes :=
  (table.blocks block).getD (array.bytes.slice (block * array.blockSize) array.blockSize)

/-- How many of `count` blocks there are from the cursor on. -/
def room (array : BlockArray) (table : BlockTable) (count : Nat) : Nat := min count (array.total - table.cursor)

/-- How a transfer of `count` blocks from the cursor on ends. -/
def ending (array : BlockArray) (table : BlockTable) (count : Nat) : Except Error Unit :=
  if table.cursor + count ≤ array.total then .ok () else .error (.outOfRange array.total array.total)

/-- What a call answers and leaves. -/
def expect (array : BlockArray) : Operation → BlockTable → Transfer Error (Option Bool) × BlockTable
  | .verify, table => (⟨[], .error (.invalidState .opened)⟩, table)
  | .seek block, table =>
    if array.total < block then (⟨[], .error (.outOfRange block array.total)⟩, table)
    else (⟨[], .ok none⟩, { table with cursor := block })
  | .read length, table =>
    if length % array.blockSize ≠ 0 then (⟨[], .error (.bufferSize length array.blockSize)⟩, table)
    else
      let room := array.room table (length / array.blockSize)
      (⟨(List.range' table.cursor room).flatMap (array.block table),
          (array.ending table (length / array.blockSize)).map fun _ => none⟩,
        { table with cursor := table.cursor + room })
  | .isUsed, table =>
    (⟨[], if table.cursor < array.total then .ok (some true) else .error (.outOfRange array.total array.total)⟩,
      table)
  | .write data, table =>
    if data.length % array.blockSize ≠ 0 then (⟨[], .error (.bufferSize data.length array.blockSize)⟩, table)
    else
      let room := array.room table (data.length / array.blockSize)
      (⟨[], (array.ending table (data.length / array.blockSize)).map fun _ => none⟩,
        { blocks := Ground.replaced table.blocks array.blockSize table.cursor room data
          cursor := table.cursor + room })
  | .sync, table => (⟨[], .ok none⟩, table)

/-- What a caller is told by its calls, each with the place of the cursor afterwards. -/
def reports (array : BlockArray) :
    List Operation → BlockTable → List (Transfer Error (Option Bool) × Option Nat)
  | [], _ => []
  | operation :: operations, table =>
    let (answer, reached) := array.expect operation table
    (answer, some reached.cursor) :: reports array operations reached

variable {array : BlockArray} {table : BlockTable}

theorem room_zero : array.room table 0 = 0 := Nat.zero_min _

theorem room_of_end (hend : array.total ≤ table.cursor) (count : Nat) : array.room table count = 0 := by
  rw [room, Nat.sub_eq_zero_of_le hend, Nat.min_zero]

theorem room_succ (hcursor : table.cursor < array.total) (blocks : Nat → Option Bytes) (count : Nat) :
    array.room table (count + 1) = array.room ⟨blocks, table.cursor + 1⟩ count + 1 := by
  simp only [room]
  omega

theorem ending_succ (blocks : Nat → Option Bytes) (count : Nat) :
    array.ending table (count + 1) = array.ending ⟨blocks, table.cursor + 1⟩ count := by
  simp only [ending, Nat.add_assoc, Nat.add_comm 1]

theorem ending_zero (hcursor : table.cursor ≤ array.total) : array.ending table 0 = .ok () := if_pos hcursor

theorem ending_of_end (hend : table.cursor = array.total) (count : Nat) :
    array.ending table (count + 1) = .error (.outOfRange array.total array.total) := by
  rw [ending, if_neg (by omega)]

theorem place_le {block : Nat} (hblock : block < array.total) :
    block * array.blockSize + array.blockSize ≤ array.bytes.length := by
  have hsucc : (block + 1) * array.blockSize ≤ array.total * array.blockSize := Nat.mul_le_mul_right _ hblock
  rw [Nat.succ_mul] at hsucc
  exact Nat.le_trans hsucc array.fits

end BlockArray

namespace RawImage

variable {O : Type} [Overlay O] {array : BlockArray} {backing : Backing} {origin : Disk} {table : BlockTable}
  {state : RawImage O × World}

/-! ### What stands for the device -/

/-- A verified handle that stands for the device with the blocks and the cursor of a table. -/
structure Stands (array : BlockArray) (dependable : Overlay.Dependable O array.blockSize array.total backing origin)
    (table : BlockTable) (state : RawImage O × World) : Prop where
  verified : state.1.verified = true
  mode : state.1.mode ≠ .readOnly
  blockSize_eq : state.1.blockSize = array.blockSize
  totalBlocks_eq : state.1.totalBlocks = array.total
  cursor_eq : state.1.cursor = table.cursor
  cursor_le : table.cursor ≤ array.total
  backing_eq : state.1.source.backing = backing
  source : state.1.source.DeliversWithin origin array.bytes
  short : array.bytes.length < range64
  /-- The cursor of the overlay may be anywhere. -/
  overlay : ∃ store cursor, state.1.overlay = some store ∧ dependable.has ⟨table.blocks, cursor⟩ (store, state.2.disk)

namespace Stands

variable {dependable : Overlay.Dependable O array.blockSize array.total backing origin}

theorem withOverlay (h : Stands array dependable table state) {blocks : Nat → Option Bytes} {cursor : Nat}
    {reached : O × Disk} (hhas : dependable.has ⟨blocks, cursor⟩ reached) :
    Stands array dependable ⟨blocks, table.cursor⟩ (RawImage.withOverlay reached state) :=
  ⟨h.verified, h.mode, h.blockSize_eq, h.totalBlocks_eq, h.cursor_eq, h.cursor_le, h.backing_eq, h.source, h.short,
    reached.1, cursor, rfl, hhas⟩

theorem atBlock (h : Stands array dependable table state) {block : Nat} (hblock : block ≤ array.total) :
    Stands array dependable ⟨table.blocks, block⟩ (RawImage.atBlock block state) :=
  ⟨h.verified, h.mode, h.blockSize_eq, h.totalBlocks_eq, rfl, hblock, h.backing_eq, h.source, h.short, h.overlay⟩

theorem seekOverlay (h : Stands array dependable table state) {block : Nat} (hblock : block ≤ array.total) :
    ∃ sought, perform (RawImage.seekOverlay block) state = (.ok (), RawImage.withOverlay sought state)
      ∧ dependable.has ⟨table.blocks, block⟩ sought := by
  obtain ⟨store, cursor, hstore, hhas⟩ := h.overlay
  obtain ⟨sought, hseek, hsought⟩ := dependable.seek hhas hblock
  refine ⟨sought, ?_, hsought⟩
  rw [perform_seekOverlay, hstore]
  dsimp only
  rw [hseek]
  rfl

/-! ### Reading -/

/-- **One block is read**, from the overlay if it has it and from its place if not. -/
theorem readBlock (h : Stands array dependable table state) {block : Nat} (hblock : block < array.total) :
    ∃ reached, (RawImage.readBlock block).run state = (.complete (array.block table block), reached)
      ∧ Stands array dependable table reached := by
  obtain ⟨⟨store, disk⟩, hmove, hsought⟩ := h.seekOverlay (Nat.le_of_lt hblock)
  obtain ⟨transfer, after, hread, hanswer, hafter⟩ := dependable.read hsought hblock
  have hasked : (readOverlay block).run state
      = (transfer.mapError .overlay, RawImage.withOverlay after state) := by
    rw [← h.blockSize_eq] at hread
    rw [run_readOverlay, hmove]
    dsimp only [RawImage.withOverlay, World.withDisk]
    rw [hread]
  have hreached : Stands array dependable table (RawImage.withOverlay after state) := h.withOverlay hafter
  have hanswer : Overlay.Answers (table.blocks block) (transfer.mapError Error.overlay) := hanswer.mapError _
  rw [run_readBlock hasked]
  cases hentry : table.blocks block with
  | some data =>
    rw [hentry] at hanswer
    rw [show transfer.mapError Error.overlay = _ from hanswer, BlockArray.block, hentry]
    exact ⟨_, rfl, hreached⟩
  | none =>
    rw [hentry] at hanswer
    rw [show (transfer.mapError Error.overlay).result = _ from hanswer]
    have hplace := array.place_le hblock
    have hplaced : block * state.1.blockSize < range64 := by
      rw [h.blockSize_eq]
      exact Nat.lt_of_le_of_lt (Nat.le_of_add_right_le hplace) h.short
    have hunchanged : state.1.source.backing.Unchanged origin after.2 := by
      rw [h.backing_eq]
      exact dependable.apart hafter
    have hbase : base (RawImage.withOverlay after state) block = .complete (array.block table block) := by
      rw [base_of_lt (show block * (RawImage.withOverlay after state).1.blockSize < range64 from hplaced)]
      show ((state.1.source.readExact after.2 (block * state.1.blockSize)
        state.1.blockSize).1.mapError (Error.readBlock block)) = _
      rw [h.blockSize_eq, Source.readExact_unchanged hunchanged, Source.readExact_within h.source hplace,
        BlockArray.block, hentry]
      rfl
    obtain ⟨source, hlater, hfrom⟩ := readFrom_eq (RawImage.withOverlay after state) block
    rw [hbase, hfrom]
    exact ⟨_, rfl, h.verified, h.mode, h.blockSize_eq, h.totalBlocks_eq, h.cursor_eq, h.cursor_le,
      hlater.backing.trans h.backing_eq, h.source.later hlater, h.short, hreached.overlay⟩

/-- **A run of blocks is read as far as there are any.** -/
theorem readBlocks (h : Stands array dependable table state) (count : Nat) :
    ∃ reached, (RawImage.readBlocks count).run state
        = (⟨(List.range' table.cursor (array.room table count)).flatMap (array.block table),
          array.ending table count⟩, reached)
      ∧ Stands array dependable ⟨table.blocks, table.cursor + array.room table count⟩ reached := by
  induction count generalizing table state with
  | zero =>
    refine ⟨state, ?_, ?_⟩
    · rw [BlockArray.room_zero, BlockArray.ending_zero h.cursor_le]
      rfl
    · rw [BlockArray.room_zero]
      exact h
  | succ count ih =>
    rw [run_readBlocks_succ, h.totalBlocks_eq, h.cursor_eq]
    by_cases hend : array.total ≤ table.cursor
    · have hlast : table.cursor = array.total := Nat.le_antisymm h.cursor_le hend
      rw [if_pos hend, BlockArray.room_of_end hend, BlockArray.ending_of_end hlast, hlast]
      refine ⟨state, rfl, ?_⟩
      rw [Nat.add_zero, ← hlast]
      exact h
    · have hcursor : table.cursor < array.total := Nat.lt_of_not_le hend
      obtain ⟨first, hfirst, hstands⟩ := h.readBlock hcursor
      obtain ⟨reached, hrest, hreached⟩ := ih (hstands.atBlock (Nat.succ_le_of_lt hcursor))
      rw [if_neg hend, hfirst]
      dsimp only [Transfer.complete]
      rw [hrest, BlockArray.room_succ hcursor table.blocks, BlockArray.ending_succ table.blocks, List.range'_succ,
        List.flatMap_cons, ← Nat.add_assoc, Nat.add_right_comm]
      exact ⟨reached, rfl, hreached⟩

/-! ### Writing -/

/-- **A run of blocks is stored as far as there is room for it.** -/
theorem writeBlocks (h : Stands array dependable table state) (count : Nat) {data : Bytes}
    (hdata : count * array.blockSize ≤ data.length) :
    ∃ reached, perform (RawImage.writeBlocks count data) state = (array.ending table count, reached)
      ∧ Stands array dependable
        ⟨Ground.replaced table.blocks array.blockSize table.cursor (array.room table count) data,
          table.cursor + array.room table count⟩ reached := by
  induction count generalizing table state data with
  | zero =>
    rw [BlockArray.room_zero, BlockArray.ending_zero h.cursor_le, Ground.replaced_zero]
    exact ⟨state, rfl, h⟩
  | succ count ih =>
    obtain ⟨store, cursor, hstore, hhas⟩ := h.overlay
    rw [perform_writeBlocks_succ hstore, h.totalBlocks_eq, h.blockSize_eq, h.cursor_eq]
    by_cases hend : array.total ≤ table.cursor
    · have hlast : table.cursor = array.total := Nat.le_antisymm h.cursor_le hend
      rw [if_pos hend, BlockArray.room_of_end hend, BlockArray.ending_of_end hlast, Ground.replaced_zero, hlast]
      refine ⟨state, rfl, ?_⟩
      rw [Nat.add_zero, ← hlast]
      exact h
    · have hcursor : table.cursor < array.total := Nat.lt_of_not_le hend
      rw [Nat.succ_mul] at hdata
      obtain ⟨sought, hseek, hsought⟩ := dependable.seek hhas (Nat.le_of_lt hcursor)
      obtain ⟨written, hwrite, hwritten⟩ :=
        dependable.write hsought hcursor (List.length_take_of_le (Nat.le_of_add_left_le hdata))
      have hstored := (h.withOverlay hwritten).atBlock (Nat.succ_le_of_lt hcursor)
      have hrest : count * array.blockSize ≤ (data.drop array.blockSize).length := by
        rw [List.length_drop]
        omega
      obtain ⟨reached, hrun, hreached⟩ := ih hstored hrest
      have hreplaced : ∀ room, Ground.replaced ((⟨table.blocks, table.cursor⟩ : BlockTable).store
          (data.take array.blockSize)).blocks array.blockSize (table.cursor + 1) room (data.drop array.blockSize)
            = Ground.replaced table.blocks array.blockSize table.cursor (room + 1) data := by
        intro room
        funext block
        exact Ground.replaced_succ rfl room
      rw [if_neg hend, hseek]
      dsimp only
      rw [hwrite]
      dsimp only
      rw [BlockArray.room_succ hcursor, BlockArray.ending_succ, ← hreplaced, ← Nat.add_assoc, Nat.add_right_comm]
      exact ⟨reached, hrun, hreached⟩

/-! ### Calls -/

theorem perform_require (h : Stands array dependable table state) {required : Readiness} (hreq : required ≠ .opened) :
    perform (require required) state = (.ok (), state) := by
  obtain ⟨store, -, hstore, -⟩ := h.overlay
  have hmode : (state.1.mode != .readOnly) = true := bne_iff_ne.mpr h.mode
  rw [RawImage.perform_require, if_pos]
  cases required with
  | opened => exact absurd rfl hreq
  | verified => exact h.verified
  | readReady => exact h.verified
  | writable => rw [ready, h.verified, hmode, Bool.and_self]
  | writeReady => rw [ready, h.verified, hmode, hstore, Option.isSome_some, Bool.and_self, Bool.and_self]

theorem perform_seek (h : Stands array dependable table state) (block : Nat) :
    if array.total < block then perform (RawImage.seek block) state = (.error (.outOfRange block array.total), state)
    else ∃ reached, perform (RawImage.seek block) state = (.ok (), reached)
      ∧ Stands array dependable { table with cursor := block } reached := by
  rw [RawImage.perform_seek h.verified, h.totalBlocks_eq]
  split
  · rfl
  · next hblock =>
    obtain ⟨sought, hmove, hsought⟩ := h.seekOverlay (Nat.le_of_not_lt hblock)
    rw [hmove]
    exact ⟨_, rfl, (h.withOverlay hsought).atBlock (Nat.le_of_not_lt hblock)⟩

theorem perform_isUsed (h : Stands array dependable table state) :
    perform RawImage.isUsed state
      = (if table.cursor < array.total then .ok true else .error (.outOfRange array.total array.total), state) := by
  rw [RawImage.isUsed, Action.perform_bind, h.perform_require (by decide)]
  dsimp only
  rw [Action.perform_bind, perform_requireBlock, h.totalBlocks_eq, h.cursor_eq]
  by_cases hcursor : table.cursor < array.total
  · rw [if_neg (Nat.not_le.mpr hcursor), if_pos hcursor]
    rfl
  · rw [if_pos (Nat.le_of_not_lt hcursor), if_neg hcursor,
      Nat.le_antisymm h.cursor_le (Nat.le_of_not_lt hcursor)]

theorem perform_sync (h : Stands array dependable table state) :
    ∃ reached, perform RawImage.sync state = (.ok (), reached) ∧ Stands array dependable table reached := by
  obtain ⟨store, cursor, hstore, hhas⟩ := h.overlay
  obtain ⟨synced, hsync, hsynced⟩ := dependable.sync hhas
  refine ⟨RawImage.withOverlay synced state, ?_, h.withOverlay hsynced⟩
  rw [RawImage.sync, Action.perform_bind, h.perform_require (by decide)]
  dsimp only
  rw [perform_bind_ok (Action.perform_get state), hstore]
  dsimp only
  rw [onOverlay, Action.perform_zoom, hsync]
  rfl

/-- **One call answers as the device does, and the handle stands for what the device becomes.** -/
theorem step (h : Stands array dependable table state) (operation : Operation) :
    operation.answer state = (array.expect operation table).1
      ∧ Stands array dependable (array.expect operation table).2 (operation.after state) := by
  cases operation with
  | verify =>
    show Transfer.mk [] ((perform RawImage.verify state).1.map _) = _ ∧ Stands _ _ _ (perform RawImage.verify state).2
    rw [perform_verify_of_verified h.verified]
    exact ⟨rfl, h⟩
  | seek block =>
    have hseek := h.perform_seek block
    show Transfer.mk [] ((perform (RawImage.seek block) state).1.map _) = _
      ∧ Stands _ _ _ (perform (RawImage.seek block) state).2
    rw [BlockArray.expect]
    split at hseek
    · next hpast =>
      rw [if_pos hpast, hseek]
      exact ⟨rfl, h⟩
    · next hblock =>
      obtain ⟨reached, hrun, hreached⟩ := hseek
      rw [if_neg hblock, hrun]
      exact ⟨rfl, hreached⟩
  | read length =>
    have hrun := run_read h.verified length
    rw [h.blockSize_eq] at hrun
    show Transfer.mk ((RawImage.read length).run state).1.bytes (((RawImage.read length).run state).1.result.map _) = _
      ∧ Stands _ _ _ ((RawImage.read length).run state).2
    rw [BlockArray.expect, hrun]
    split
    · exact ⟨rfl, h⟩
    · obtain ⟨reached, hread, hreached⟩ := h.readBlocks (length / array.blockSize)
      rw [hread]
      exact ⟨rfl, hreached⟩
  | isUsed =>
    show Transfer.mk [] ((perform RawImage.isUsed state).1.map some) = _ ∧ Stands _ _ _ (perform RawImage.isUsed state).2
    rw [BlockArray.expect, h.perform_isUsed]
    split
    · exact ⟨rfl, h⟩
    · exact ⟨rfl, h⟩
  | write data =>
    obtain ⟨store, cursor, hstore, -⟩ := h.overlay
    have hready : state.1.ready .writable ≠ false := by
      rw [ready, h.verified, bne_iff_ne.mpr h.mode]
      decide
    have hattached : state.1.overlay.isSome = true := by
      rw [hstore]
      rfl
    show Transfer.mk [] ((perform (RawImage.write data) state).1.map _) = _
      ∧ Stands _ _ _ (perform (RawImage.write data) state).2
    rw [BlockArray.expect, perform_write, if_neg hready, if_pos hattached, h.blockSize_eq]
    split
    · exact ⟨rfl, h⟩
    · obtain ⟨reached, hwrite, hreached⟩ :=
        h.writeBlocks (data.length / array.blockSize) (Nat.div_mul_le_self _ _)
      rw [hwrite]
      exact ⟨rfl, hreached⟩
  | sync =>
    obtain ⟨reached, hrun, hreached⟩ := h.perform_sync
    show Transfer.mk [] ((perform RawImage.sync state).1.map _) = _ ∧ Stands _ _ _ (perform RawImage.sync state).2
    rw [hrun]
    exact ⟨rfl, hreached⟩

/-- **Every run of calls answers as the device does.** -/
theorem reports (h : Stands array dependable table state) (operations : List Operation) :
    Operation.reports operations state = array.reports operations table := by
  induction operations generalizing table state with
  | nil => rfl
  | cons operation operations ih =>
    obtain ⟨hanswer, hstands⟩ := h.step operation
    have htell : BlockDevice.tell? (operation.after state).1 = some (array.expect operation table).2.cursor := by
      show (operation.after state).1.tell? = _
      rw [tell?, hstands.verified, if_pos rfl, hstands.cursor_eq]
    rw [Operation.reports, BlockArray.reports, hanswer, htell, ih hstands]

end Stands

/-! ### A handle that is verified -/

variable {source : Source} {path : String} {options : OpenOptions} {setup : Overlay.Setup O} {world opened : World}
  {image : RawImage O} {bytes : Bytes} {store : O} {blocks : Nat → Option Bytes} {cursor : Nat}

/-- **A handle that was verified stands for the bytes of its source**, with the blocks that its overlay has. -/
theorem stands_of_verify (hopen : perform (ofSource source path options setup) world = (.ok image, opened))
    (hsource : source.DeliversWithin world.disk bytes) (hshort : bytes.length < range64)
    {dependable : Overlay.Dependable O (BlockArray.ofBytes bytes).blockSize (BlockArray.ofBytes bytes).total
      source.backing world.disk}
    (hverify : perform verify (image, opened) = (.ok (), state)) (hstore : state.1.overlay = some store)
    (hhas : dependable.has ⟨blocks, cursor⟩ (store, state.2.disk)) :
    Stands (BlockArray.ofBytes bytes) dependable ⟨blocks, 0⟩ state := by
  obtain ⟨rfl, size, hsize, rfl⟩ := opened_of_ofSource hopen
  obtain ⟨hkept_source, hmode, hblockSize, htotal, hcursor⟩ := kept_of_verify hverify
  obtain ⟨hverified, hreadOnly⟩ := verified_of_verify hverify
  obtain rfl : size = bytes.length := by
    rw [Source.size, hsource.sized] at hsize
    exact (Except.ok.inj hsize).symm.trans hsource.holds.size_eq
  refine ⟨hverified, fun hread => ?_, hblockSize, htotal, hcursor, Nat.zero_le _, congrArg Source.backing hkept_source,
    hkept_source.symm ▸ hsource, hshort, store, cursor, hstore, hhas⟩
  have hnone := hreadOnly (hmode.symm.trans hread)
  rw [hstore] at hnone
  cases hnone

/-- **A raw image with an overlay that does not fail is an array of blocks**: whatever is called, it answers as the
blocks of its source do that are replaced by those of the overlay, and its cursor is theirs.  So it does if the calls
of the source that reach past the end go another way, since there are none. -/
theorem reports_eq_array (hopen : perform (ofSource source path options setup) world = (.ok image, opened))
    (hsource : source.DeliversWithin world.disk bytes) (hshort : bytes.length < range64)
    (dependable : Overlay.Dependable O (BlockArray.ofBytes bytes).blockSize (BlockArray.ofBytes bytes).total
      source.backing world.disk)
    (hverify : perform verify (image, opened) = (.ok (), state)) (hstore : state.1.overlay = some store)
    (hhas : dependable.has ⟨blocks, cursor⟩ (store, state.2.disk)) (operations : List Operation) :
    state.1.blockSize? = some (BlockArray.ofBytes bytes).blockSize
      ∧ state.1.blockCount? = some (BlockArray.ofBytes bytes).total
      ∧ Operation.reports operations state = (BlockArray.ofBytes bytes).reports operations ⟨blocks, 0⟩
      ∧ ∀ manner : Manner,
        (∀ call offset want, offset + want ≤ bytes.length →
          manner.respond call offset want = state.1.source.manner.respond call offset want) →
        Operation.reports operations ({ state.1 with source := { state.1.source with manner := manner } }, state.2)
          = (BlockArray.ofBytes bytes).reports operations ⟨blocks, 0⟩ := by
  have hstands := stands_of_verify hopen hsource hshort hverify hstore hhas
  refine ⟨?_, ?_, hstands.reports operations, fun manner halike => ?_⟩
  · rw [blockSize?, hstands.verified, if_pos rfl, hstands.blockSize_eq]
  · rw [blockCount?, hstands.verified, if_pos rfl, hstands.totalBlocks_eq]
  -- a call that reaches past the end may do as it likes: the contract of the source says nothing of it
  have hother : Stands (BlockArray.ofBytes bytes) dependable ⟨blocks, 0⟩
      ({ state.1 with source := { state.1.source with manner := manner } }, state.2) :=
    { hstands with
      source := {
        hstands.source with
        responds := fun call hcall offset want hwant hfit =>
          halike call offset want hfit ▸ hstands.source.responds call hcall offset want hwant hfit } }
  exact hother.reports operations

/-- Bytes in memory are opened and verified with an empty store in memory. -/
theorem exists_verified (bytes : Bytes) :
    ∃ (image : RawImage MemoryStore) (opened : World) (state : RawImage MemoryStore × World),
      perform (ofSource (.ofBytes bytes) "a.img" { mode := .create } []) {} = (.ok image, opened)
        ∧ perform verify (image, opened) = (.ok (), state)
        ∧ state.1.overlay = some ⟨[], (BlockArray.ofBytes bytes).total, [], 0⟩ := by
  have hsize : (Source.ofBytes bytes).size ({} : Disk) = .ok bytes.length :=
    congrArg Except.ok (Backing.holds_ofBytes {} bytes).size_eq
  refine ⟨⟨.ofBytes bytes, "a.img", .create, [], false, blockSizeFor bytes.length,
    bytes.length / blockSizeFor bytes.length, none, none, 0⟩, {}, ?_⟩
  refine ⟨_, ?_, rfl, rfl⟩
  rw [ofSource, perform_bind_ok (Action.perform_get _)]
  dsimp only
  rw [hsize]
  rfl

/-- Two blocks and a half: the first is written, and a read of three blocks gives the two that there are. -/
theorem reports_halves :
    ∃ (image : RawImage MemoryStore) (opened : World) (state : RawImage MemoryStore × World) (store : MemoryStore),
      perform (ofSource (.ofBytes (List.replicate 1280 0x61)) "a.img" { mode := .create } []) {} = (.ok image, opened)
        ∧ perform verify (image, opened) = (.ok (), state)
        ∧ state.1.overlay = some store
        ∧ (Operation.reports [.write (List.replicate 512 0x77), .seek 0, .read 1536] state).map Prod.snd
          = [some 1, some 0, some 2] := by
  obtain ⟨image, opened, state, hopen, hverify, hstore⟩ :=
    exists_verified (List.replicate 1280 0x61)
  have hdelivers : (Source.ofBytes (List.replicate 1280 0x61)).DeliversWithin ({} : World).disk
      (List.replicate 1280 0x61) :=
    ⟨Backing.holds_ofBytes _ _, rfl, fun _ _ _ want hwant _ => .inr ⟨want, hwant, rfl⟩⟩
  have hhas : (MemoryStore.dependable (BlockArray.ofBytes (List.replicate 1280 0x61)).blockSize
      (BlockArray.ofBytes (List.replicate 1280 0x61)).total (Source.ofBytes (List.replicate 1280 0x61)).backing
      {}).has ⟨fun _ => none, 0⟩ (⟨[], _, [], 0⟩, state.2.disk) := ⟨⟨rfl, rfl, rfl, fun _ => rfl⟩, fun _ => nofun⟩
  have hreports := (reports_eq_array hopen hdelivers (by rw [List.length_replicate]; decide) _ hverify hstore hhas
    [.write (List.replicate 512 0x77), .seek 0, .read 1536]).2.2.1
  refine ⟨image, opened, state, _, hopen, hverify, hstore, ?_⟩
  rw [hreports]
  simp only [BlockArray.reports, BlockArray.expect, BlockArray.ofBytes, BlockArray.room, List.length_replicate,
    List.map_cons, List.map_nil]
  rfl

end RawImage

end PartitionImage
