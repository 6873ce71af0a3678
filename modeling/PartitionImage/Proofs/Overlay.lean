import Mathlib.Order.Defs.Unbundled
import PartitionImage.ChangeFile
import PartitionImage.MemoryStore
import PartitionImage.Proofs.Action
import PartitionImage.Proofs.Source
/-!
# What overlays do

What images rely on in an overlay, and that change files and stores in memory do it.

* `LawfulOverlay` says that a move of the cursor overrides earlier ones, and that checking a store
  writes nothing.
* `Overlay.perform_verifyStore` is what becomes of a store that is checked.
* `Overlay.Shows` says that a store holds the blocks of a partial map and that none of its seeks and
  reads fails; `ChangeFile.shows` and `MemoryStore.shows` say which stores do.
-/

namespace PartitionImage

open PartitionImage.Action (Respects perform)

class LawfulOverlay (O : Type) [Overlay O] : Prop where
  /-- After a move that succeeds, another one goes as it would have gone before. -/
  seek_seek : ∀ {first : Nat} (second : Nat) {state reached : O × Disk},
    perform (Overlay.seek first) state = (.ok (), reached) →
      (perform (Overlay.seek second) reached).1 = (perform (Overlay.seek second) state).1
        ∧ ((perform (Overlay.seek second) state).1 = .ok () →
          (perform (Overlay.seek second) reached).2 = (perform (Overlay.seek second) state).2)
  /-- A store that is checked is not written. -/
  verify_disk : ∀ state : O × Disk, (perform Overlay.verify state).2.2 = state.2

namespace Overlay

variable {O : Type} [Overlay O]

theorem perform_verifyStore (store : O) (disk : Disk) :
    perform (verifyStore store) disk
      = match perform Overlay.verify (store, disk) with
        | (.ok (), checked) => (.ok checked.1, checked.2)
        | (.error error, checked) => (.error error, ((Overlay.discard checked.1).run checked.2).2) := by
  rw [verifyStore, Action.perform_bind_ok (Action.perform_get disk)]
  rcases perform Overlay.verify (store, disk) with ⟨result, checked, after⟩
  cases result with
  | error error => rfl
  | ok done => rfl

/-- The disk that is left when a store is finished, if there is one. -/
def released (store : Option O) (disk : Disk) : Disk :=
  match store with
  | none => disk
  | some store => (perform (Overlay.finish store) disk).2

/-- The answer to a read of a block that holds the bytes, or that is not stored. -/
def Answers {ε : Type} : Option Bytes → Transfer ε Lookup → Prop
  | some bytes, transfer => transfer = ⟨bytes, .ok .found⟩
  | none, transfer => transfer.result = .ok .notPresent

theorem Answers.mapError {ε ε' : Type} {stored : Option Bytes} {transfer : Transfer ε Lookup}
    (h : Answers stored transfer) (wrap : ε → ε') : Answers stored (transfer.mapError wrap) := by
  cases stored with
  | some bytes =>
    obtain rfl : transfer = _ := h
    rfl
  | none =>
    have hresult : transfer.result = .ok .notPresent := h
    show transfer.result.mapError wrap = _
    rw [hresult]
    rfl

/-- Stores that are `whole` have the blocks of a map, from whatever operation they come. -/
structure Serves (disk : Disk) (blockSize total : Nat) (stored : Nat → Option Bytes)
    (whole : O → Prop) : Prop where
  seek : ∀ {store : O} {block : Nat}, whole store → block ≤ total →
    ∃ sought, perform (Overlay.seek block) (store, disk) = (.ok (), sought, disk) ∧ whole sought
  read : ∀ {store sought : O} {block : Nat}, whole store → block < total →
    perform (Overlay.seek block) (store, disk) = (.ok (), sought, disk) →
      ∃ transfer after, (Overlay.read blockSize).run (sought, disk) = (transfer, after, disk)
        ∧ whole after ∧ Answers (stored block) transfer

/-- A store that has the blocks of a map, and whose seeks and reads do not fail. -/
def Shows (store : O) (disk : Disk) (blockSize total : Nat) (stored : Nat → Option Bytes) : Prop :=
  ∃ whole : O → Prop, whole store ∧ Serves disk blockSize total stored whole

/-- The relation holds between the two ends of what a read asks of a store. -/
structure Reads (rel : O × Disk → O × Disk → Prop) : Prop where
  seek : ∀ block, Respects rel (Overlay.seek (O := O) block)
  read : ∀ length state, rel state ((Overlay.read length).run state).2

/-- The relation holds between the two ends of whatever is asked of a store. -/
structure Writes (rel : O × Disk → O × Disk → Prop) : Prop extends Reads rel where
  write : ∀ block, Respects rel (Overlay.write (O := O) block)
  sync : Respects rel (Overlay.sync (O := O))

/-- Nothing is said of what a store does. -/
def Unbound (_ _ : O × Disk) : Prop := True

instance : IsPreorder (O × Disk) Unbound where
  refl _ := trivial
  trans _ _ _ _ _ := trivial

theorem writes_unbound : Writes (O := O) Unbound :=
  ⟨⟨fun _ _ => trivial, fun _ _ => trivial⟩, fun _ _ => trivial, fun _ => trivial⟩

omit [Overlay O] in
/-- A store is used within a relation.  Where there is none, nothing happens. -/
inductive Used (rel : O × Disk → O × Disk → Prop) : Option O × Disk → Option O × Disk → Prop
  | none (disk : Disk) : Used rel (none, disk) (none, disk)
  | some {store reached : O} {disk after : Disk} :
    rel (store, disk) (reached, after) → Used rel (some store, disk) (some reached, after)

namespace Used

variable {rel : O × Disk → O × Disk → Prop} {a b c : Option O × Disk}

omit [Overlay O]

theorem refl [IsPreorder (O × Disk) rel] : (a : Option O × Disk) → Used rel a a
  | (.none, disk) => .none disk
  | (.some store, disk) => .some (Std.Refl.refl (store, disk))

theorem trans [IsPreorder (O × Disk) rel] (hab : Used rel a b) (hbc : Used rel b c) : Used rel a c := by
  cases hab with
  | none disk => exact hbc
  | some hstep =>
    cases hbc with
    | some hnext => exact .some (Trans.trans hstep hnext)

theorem isSome_eq (h : Used rel a b) : b.1.isSome = a.1.isSome := by
  cases h with
  | none disk => rfl
  | some hstep => rfl

theorem eq (h : Used Eq a b) : b = a := by
  cases h with
  | none disk => rfl
  | some hsame =>
    cases hsame
    rfl

theorem none_inv {disk : Disk} (h : Used rel (.none, disk) b) : b = (.none, disk) := by
  cases h
  rfl

end Used

end Overlay

/-! ### Stores in memory -/

namespace MemoryStore

theorem perform_check (operation : Operation) (state : MemoryStore × Disk) :
    perform (check operation) state = (fault? state.1.failing operation, state) :=
  Action.perform_bind_ok (Action.perform_get state)

theorem fault?_of_not_mem {failing : List Operation} {operation : Operation}
    (h : operation ∉ failing) : fault? failing operation = .ok () :=
  if_neg h

/-- A move goes to the end at most, unless moves are to fail. -/
theorem perform_seek (block : Nat) (store : MemoryStore) (disk : Disk) :
    perform (seek block) (store, disk)
      = match fault? store.failing .seek with
        | .error error => (.error error, store, disk)
        | .ok () =>
          if store.totalBlocks < block then (.error (.outOfRange block), store, disk)
          else (.ok (), { store with cursor := block }, disk) := by
  rw [seek, Action.perform_bind, perform_check]
  cases fault? store.failing .seek with
  | error error => rfl
  | ok done =>
    show perform (get >>= fun state => _) (store, disk) = _
    rw [Action.perform_bind_ok (Action.perform_get _)]
    dsimp only
    split
    · rfl
    · rfl

theorem run_read {store : MemoryStore} (hread : .read ∉ store.failing) (disk : Disk) :
    read.run (store, disk)
      = match store.blocks.lookup store.cursor with
        | some block => (⟨block, .ok .found⟩, { store with cursor := store.cursor + 1 }, disk)
        | none => (⟨[], .ok .notPresent⟩, { store with cursor := store.cursor + 1 }, disk) := by
  simp only [read, StateT.run_bind, StateT.run_get, pure_bind, fault?_of_not_mem hread]
  cases store.blocks.lookup store.cursor with
  | some block => rfl
  | none => rfl

instance : LawfulOverlay MemoryStore where
  seek_seek := by
    intro first second ⟨store, disk⟩ reached h
    have hreached : reached = ({ store with cursor := first }, disk) := by
      have hfirst := perform_seek first store disk
      rw [show perform (seek first) (store, disk) = _ from h] at hfirst
      split at hfirst
      · cases hfirst
      · split at hfirst
        · cases hfirst
        · exact (Prod.mk.inj hfirst).2
    subst hreached
    show (perform (seek second) _).1 = (perform (seek second) _).1
      ∧ ((perform (seek second) _).1 = _ → (perform (seek second) _).2 = (perform (seek second) _).2)
    rw [perform_seek, perform_seek]
    dsimp only
    split
    · refine ⟨rfl, ?_⟩
      intro hok
      cases hok
    · split
      · refine ⟨rfl, ?_⟩
        intro hok
        cases hok
      · exact ⟨rfl, fun _ => rfl⟩
  verify_disk := by
    intro state
    show (perform (check .verify) state).2.2 = _
    rw [perform_check]

/-- **A store in memory shows the blocks that are stored in it**, if moves and reads do not fail. -/
theorem shows {store : MemoryStore} {total : Nat} (hseek : .seek ∉ store.failing)
    (hread : .read ∉ store.failing) (htotal : total ≤ store.totalBlocks) (disk : Disk)
    (blockSize : Nat) :
    Overlay.Shows store disk blockSize total fun block => store.blocks.lookup block := by
  refine ⟨fun other => ∃ cursor, other = { store with cursor := cursor }, ⟨store.cursor, rfl⟩,
    ?_, ?_⟩
  · rintro _ block ⟨cursor, rfl⟩ hblock
    refine ⟨{ store with cursor := block }, ?_, block, rfl⟩
    show perform (seek block) _ = _
    rw [perform_seek, fault?_of_not_mem hseek]
    exact if_neg (Nat.not_lt.mpr (Nat.le_trans hblock htotal))
  · rintro _ sought block ⟨cursor, rfl⟩ hblock hsought
    have hsought' : sought = { store with cursor := block } := by
      have hmove := perform_seek block { store with cursor := cursor } disk
      rw [show perform (seek block) _ = _ from hsought, fault?_of_not_mem hseek] at hmove
      dsimp only at hmove
      rw [if_neg (by omega)] at hmove
      exact (Prod.mk.inj (Prod.mk.inj hmove).2).1
    subst hsought'
    have hrun := run_read (show .read ∉ ({ store with cursor := block } : MemoryStore).failing from hread)
      disk
    dsimp only at hrun
    cases hlookup : store.blocks.lookup block with
    | some bytes =>
      rw [hlookup] at hrun
      exact ⟨_, _, hrun, ⟨block + 1, rfl⟩, rfl⟩
    | none =>
      rw [hlookup] at hrun
      exact ⟨_, _, hrun, ⟨block + 1, rfl⟩, rfl⟩

end MemoryStore

/-! ### Change files -/

namespace ChangeFile

theorem perform_seek (block : Nat) (file : ChangeFile) (disk : Disk) :
    perform (seek block) (file, disk)
      = if file.totalBlocks < block then (.error (.outOfRange block), file, disk)
        else (.ok (), { file with cursor := block }, disk) := by
  rw [seek, Action.perform_bind_ok (Action.perform_get _)]
  dsimp only
  split
  · rfl
  · rfl

theorem run_read {file : ChangeFile} {length : Nat} (hrefusal : file.refusal? length = none)
    (disk : Disk) :
    (read length).run (file, disk)
      = if file.map.isSet file.cursor then
          if range64 ≤ file.slotStart file.cursor then (.failed .overflow, file, disk)
          else
            match readFile disk file.file (file.slotStart file.cursor) length with
            | (slot, .error error) => (⟨slot.toBytes, .error (.io error)⟩, file, disk)
            | (slot, .ok ()) => (⟨slot.toBytes, .ok .found⟩, file.advance, disk)
        else (⟨[], .ok .notPresent⟩, file.advance, disk) := by
  simp only [read, StateT.run_bind, StateT.run_get, pure_bind, hrefusal]
  cases file.map.isSet file.cursor with
  | false => rfl
  | true =>
    rcases Nat.lt_or_ge (file.slotStart file.cursor) range64 with hlt | hle
    · rw [slotOffset?, checked64?_of_lt hlt, if_neg (Nat.not_le.mpr hlt)]
      simp only [Bool.not_true, Bool.false_eq_true, if_false, if_true]
      rcases readFile disk file.file (file.slotStart file.cursor) length with ⟨slot, result⟩
      cases result with
      | error error => rfl
      | ok done => rfl
    · rw [slotOffset?, checked64?_of_le hle, if_pos hle]
      rfl

/-- What is found out about a file of `length` bytes. -/
def verdict (blockSize totalBlocks length : Nat) : Except OverlayError Unit :=
  if range64 ≤ wholeLength blockSize totalBlocks then .error .overflow
  else if length < wholeLength blockSize totalBlocks then
    .error (.truncated length (wholeLength blockSize totalBlocks))
  else .ok ()

/-- A file of `length` bytes has all its slots, and the end of the last one is below `2^64`. -/
structure Spans (blockSize totalBlocks length : Nat) : Prop where
  whole_lt : wholeLength blockSize totalBlocks < range64
  room : wholeLength blockSize totalBlocks ≤ length

theorem verdict_eq_ok_iff {blockSize totalBlocks length : Nat} :
    verdict blockSize totalBlocks length = .ok () ↔ Spans blockSize totalBlocks length := by
  unfold verdict
  split
  · next hle => exact ⟨fun h => (nomatch h), fun h => absurd h.whole_lt (Nat.not_lt.mpr hle)⟩
  split
  · next hshort => exact ⟨fun h => (nomatch h), fun h => absurd h.room (Nat.not_le.mpr hshort)⟩
  · next hlt hroom => exact ⟨fun _ => ⟨Nat.not_le.mp hlt, Nat.not_lt.mp hroom⟩, fun _ => rfl⟩

theorem perform_verify (file : ChangeFile) (disk : Disk) :
    perform verify (file, disk)
      = (verdict file.blockSize file.totalBlocks (disk.length file.file), file, disk) := by
  rw [verify, Action.perform_bind_ok (Action.perform_get _), verdict]
  dsimp only
  rcases Nat.lt_or_ge (wholeLength file.blockSize file.totalBlocks) range64 with hlt | hle
  · rw [expectedLength?, checked64?_of_lt hlt, if_neg (Nat.not_le.mpr hlt)]
    dsimp only
    split
    · rfl
    · rfl
  · rw [expectedLength?, checked64?_of_le hle, if_pos hle]
    rfl

theorem readFile_of_le {disk : Disk} {id : FileId} {offset n : Nat}
    (hfit : offset + n ≤ disk.length id) (hmax : offset + n ≤ Disk.maxOffset) :
    ∃ slot, readFile disk id offset n = (slot, .ok ())
      ∧ slot.toBytes = (disk.content id).slice offset n := by
  unfold readFile
  split
  · next hzero =>
    subst hzero
    exact ⟨.empty, rfl, Packed.toBytes_empty⟩
  · have hread : disk.read id offset n = .ok ((disk.data id).read offset n) :=
      if_neg (Nat.not_lt.mpr hmax)
    have hbytes := disk.read_eq id hread
    rw [hread]
    refine ⟨(disk.data id).read offset n, ?_, hbytes⟩
    have hsize : ((disk.data id).read offset n).size = n := by
      rw [disk.length_eq] at hfit
      rw [← Packed.length_toBytes, hbytes, Bytes.length_slice_of_le hfit]
    simp only [if_pos hsize]

/-- The blocks that a change file holds: those of its map, each in its slot. -/
def stored (file : ChangeFile) (disk : Disk) (block : Nat) : Option Bytes :=
  if file.map.isSet block then
    some ((disk.content file.file).slice (file.slotStart block) file.blockSize)
  else none

instance : LawfulOverlay ChangeFile where
  seek_seek := by
    intro first second ⟨file, disk⟩ reached h
    have hreached : reached = ({ file with cursor := first }, disk) := by
      have hfirst := perform_seek first file disk
      rw [show perform (seek first) (file, disk) = _ from h] at hfirst
      split at hfirst
      · cases hfirst
      · exact (Prod.mk.inj hfirst).2
    subst hreached
    show (perform (seek second) _).1 = (perform (seek second) _).1
      ∧ ((perform (seek second) _).1 = _ → (perform (seek second) _).2 = (perform (seek second) _).2)
    rw [perform_seek, perform_seek]
    dsimp only
    split
    · refine ⟨rfl, ?_⟩
      intro hok
      cases hok
    · exact ⟨rfl, fun _ => rfl⟩
  verify_disk := by
    intro ⟨file, disk⟩
    show (perform verify (file, disk)).2.2 = disk
    rw [perform_verify]

/-- Every slot ends within the whole file. -/
theorem slotStart_add_le {file : ChangeFile} {block : Nat} (hblock : block < file.totalBlocks) :
    file.slotStart block + file.blockSize ≤ wholeLength file.blockSize file.totalBlocks := by
  have hsucc : (block + 1) * file.blockSize ≤ file.totalBlocks * file.blockSize :=
    Nat.mul_le_mul_right _ hblock
  rw [Nat.succ_mul] at hsucc
  rw [slotStart, wholeLength]
  omega

/-- A file whose end is a file offset ends below `2^64`. -/
theorem wholeLength_lt_of_reach {blockSize totalBlocks : Nat}
    (hreach : wholeLength blockSize totalBlocks ≤ Disk.maxOffset) :
    wholeLength blockSize totalBlocks < range64 :=
  Nat.lt_of_le_of_lt hreach (by decide)

/-- Its slots then start below `2^64`. -/
theorem slotStart_lt {file : ChangeFile} {block : Nat} (hblock : block < file.totalBlocks)
    (hwhole : wholeLength file.blockSize file.totalBlocks < range64) : ¬ range64 ≤ file.slotStart block := by
  have hend := slotStart_add_le hblock
  omega

/-- **A change file that is whole shows the blocks that are stored in it.** -/
theorem shows {file : ChangeFile} {disk : Disk}
    (hreach : wholeLength file.blockSize file.totalBlocks ≤ Disk.maxOffset)
    (hwhole : wholeLength file.blockSize file.totalBlocks ≤ disk.length file.file) :
    Overlay.Shows file disk file.blockSize file.totalBlocks (file.stored disk) := by
  refine ⟨fun other => ∃ cursor, other = { file with cursor := cursor }, ⟨file.cursor, rfl⟩,
    ?_, ?_⟩
  · rintro _ block ⟨cursor, rfl⟩ hblock
    refine ⟨{ file with cursor := block }, ?_, block, rfl⟩
    show perform (seek block) _ = _
    rw [perform_seek]
    exact if_neg (Nat.not_lt.mpr hblock)
  · rintro _ sought block ⟨cursor, rfl⟩ hblock hsought
    have hsought' : sought = { file with cursor := block } := by
      have hmove := perform_seek block { file with cursor := cursor } disk
      rw [show perform (seek block) _ = _ from hsought] at hmove
      dsimp only at hmove
      rw [if_neg (by omega)] at hmove
      exact (Prod.mk.inj (Prod.mk.inj hmove).2).1
    subst hsought'
    have hrefusal : refusal? { file with cursor := block } file.blockSize = none := by
      rw [refusal?, if_neg (fun h => h rfl), if_neg (Nat.not_le.mpr hblock)]
    have hrun := run_read hrefusal disk
    have hslot := slotStart_add_le hblock
    have hoffset : ¬ range64 ≤ slotStart { file with cursor := block } block :=
      slotStart_lt hblock (wholeLength_lt_of_reach hreach)
    obtain ⟨slot, hread, hbytes⟩ :=
      readFile_of_le (Nat.le_trans hslot hwhole) (Nat.le_trans hslot hreach)
    dsimp only at hrun
    unfold stored
    split
    · next hset =>
      rw [if_pos hset, if_neg hoffset, show slotStart { file with cursor := block } block
        = file.slotStart block from rfl, hread] at hrun
      exact ⟨_, _, hrun, ⟨block + 1, rfl⟩, by rw [← hbytes]; rfl⟩
    · next hset =>
      rw [if_neg hset] at hrun
      exact ⟨_, _, hrun, ⟨block + 1, rfl⟩, rfl⟩

end ChangeFile

end PartitionImage
