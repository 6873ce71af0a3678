import PartitionImage.Proofs.Disk
import PartitionImage.Proofs.Overlay
/-!
# Overlays that repeat themselves

An overlay may fail, and it need not last.  To be asked for a block again it is enough that it then replies as it did
before, wherever it was moved in the meantime, and whatever was written to a file that is not its own.

* `Overlay.Reply` is what an overlay makes of a block.
* `Overlay.Repeats` is the contract, `Overlay.exists_replies` what it says of a handle with or without an overlay.
* `ChangeFile.repeats` and `MemoryStore.repeats` keep it.
-/

namespace PartitionImage

open PartitionImage.Action (perform)

namespace Overlay

/-- What an overlay makes of a block: it cannot be moved there, or it has the block or not, and gives something. -/
abbrev Reply := Except OverlayError (Bool × Transfer OverlayError Lookup)

def Reply.moved (reply : Reply) : Except Error Unit := (reply.map fun _ => ()).mapError .overlay

def Reply.given : Reply → Transfer Error Lookup
  | .error cause => .failed (.overlay cause)
  | .ok (_, transfer) => transfer.mapError .overlay

def absent : Reply := .ok (false, ⟨[], .ok .notPresent⟩)

variable {O : Type} [Overlay O] {file : FileId} {origin : Disk} {blockSize : Nat}

/-- Stores that are `alike` reply the same whenever they are asked, on every disk beside `origin`. -/
structure Replies (file : FileId) (origin : Disk) (blockSize : Nat) (reply : Nat → Reply) (alike : O → Prop) :
    Prop where
  seek : ∀ {store : O} {disk : Disk} (block : Nat), alike store → Disk.Beside file origin disk →
    ∃ sought, perform (Overlay.seek block) (store, disk) = ((reply block).map fun _ => (), sought, disk)
      ∧ alike sought ∧ ∀ holds transfer, reply block = .ok (holds, transfer) →
        Overlay.holds sought = holds
          ∧ ∃ after, (Overlay.read blockSize).run (sought, disk) = (transfer, after, disk) ∧ alike after
  /-- A block that is found fills the buffer. -/
  length_eq : ∀ {block : Nat} {holds : Bool} {transfer : Transfer OverlayError Lookup},
    reply block = .ok (holds, transfer) → transfer.result = .ok .found → transfer.bytes.length = blockSize

/-- A store that replies the same whenever it is asked, whatever is written to the file. -/
def Repeats (file : FileId) (origin : Disk) (blockSize : Nat) (store : O) : Prop :=
  ∃ (reply : Nat → Reply) (alike : O → Prop), alike store ∧ Replies file origin blockSize reply alike

omit [Overlay O] in
/-- The overlay of a handle, if it has one, is one of those that reply so. -/
def Replying (reply : Nat → Reply) (alike : O → Prop) : Option O → Prop
  | none => ∀ block, reply block = absent
  | some store => alike store

/-- A handle whose overlay repeats itself gets replies, and so does one that has none. -/
theorem exists_replies {overlay : Option O}
    (h : ∀ store, overlay = some store → Repeats file origin blockSize store) :
    ∃ (reply : Nat → Reply) (alike : O → Prop), Replies file origin blockSize reply alike
      ∧ Replying reply alike overlay := by
  cases overlay with
  | none =>
    refine ⟨fun _ => absent, fun _ => False, ⟨fun _ hstore => hstore.elim, ?_⟩, fun _ => rfl⟩
    intro block holds transfer hreply hfound
    cases hreply
    cases hfound
  | some store =>
    obtain ⟨reply, alike, hstore, hreplies⟩ := h store rfl
    exact ⟨reply, alike, hreplies, hstore⟩

end Overlay

/-! ### Change files -/

namespace ChangeFile

variable {written : FileId} {origin disk : Disk}

theorem readFile_beside (hbeside : Disk.Beside written origin disk) {asked : FileId} (hne : asked ≠ written)
    (offset n : Nat) : readFile disk asked offset n = readFile origin asked offset n := by
  unfold readFile Disk.read
  rw [hbeside.data_eq asked hne]

/-- A read moves the cursor at most. -/
theorem read_beside (file : ChangeFile) (hne : file.file ≠ written) (hbeside : Disk.Beside written origin disk)
    (length : Nat) :
    ∃ cursor, (read length).run (file, disk)
      = (((read length).run (file, origin)).1, { file with cursor := cursor }, disk) := by
  cases hrefusal : file.refusal? length with
  | some error =>
    refine ⟨file.cursor, ?_⟩
    simp only [read, StateT.run_bind, StateT.run_get, pure_bind, hrefusal]
    rfl
  | none =>
    rw [run_read hrefusal, run_read hrefusal, readFile_beside hbeside hne]
    cases file.map.isSet file.cursor with
    | false => exact ⟨file.cursor + 1, rfl⟩
    | true =>
      rw [if_pos rfl, if_pos rfl]
      by_cases hoverflow : range64 ≤ file.slotStart file.cursor
      · rw [if_pos hoverflow, if_pos hoverflow]
        exact ⟨file.cursor, rfl⟩
      rw [if_neg hoverflow, if_neg hoverflow]
      rcases readFile origin file.file (file.slotStart file.cursor) length with ⟨slot, result⟩
      cases result with
      | error error => exact ⟨file.cursor, rfl⟩
      | ok done => exact ⟨file.cursor + 1, rfl⟩

theorem length_of_found {file : ChangeFile} {length : Nat}
    (hfound : ((read length).run (file, disk)).1.result = .ok .found) :
    ((read length).run (file, disk)).1.bytes.length = length := by
  cases hrefusal : file.refusal? length with
  | some error =>
    simp only [read, StateT.run_bind, StateT.run_get, pure_bind, hrefusal] at hfound
    cases hfound
  | none =>
    rw [run_read hrefusal] at hfound ⊢
    cases hset : file.map.isSet file.cursor with
    | false =>
      rw [hset] at hfound
      cases hfound
    | true =>
      rw [hset, if_pos rfl] at hfound
      rw [if_pos rfl]
      by_cases hoverflow : range64 ≤ file.slotStart file.cursor
      · rw [if_pos hoverflow] at hfound
        cases hfound
      rw [if_neg hoverflow] at hfound ⊢
      unfold readFile at hfound ⊢
      by_cases hzero : length = 0
      · rw [if_pos hzero]
        exact (congrArg List.length Packed.toBytes_empty).trans hzero.symm
      · rw [if_neg hzero] at hfound ⊢
        cases hread : disk.read file.file (file.slotStart file.cursor) length with
        | error error =>
          rw [hread] at hfound
          cases hfound
        | ok slot =>
          rw [hread] at hfound
          dsimp only at hfound ⊢
          by_cases hsize : slot.size = length
          · rw [if_pos hsize]
            exact (Packed.length_toBytes slot).trans hsize
          · rw [if_neg hsize] at hfound
            cases hfound

/-- **A change file repeats itself** while another file is written. -/
theorem repeats (file : ChangeFile) (hne : file.file ≠ written) (origin : Disk) (blockSize : Nat) :
    Overlay.Repeats written origin blockSize file := by
  refine ⟨fun block => if file.totalBlocks < block then .error (.outOfRange block)
      else .ok (holds { file with cursor := block }, ((read blockSize).run ({ file with cursor := block }, origin)).1),
    fun other => ∃ cursor, other = { file with cursor := cursor }, ⟨file.cursor, rfl⟩, ?_, ?_⟩
  · rintro _ disk block ⟨cursor, rfl⟩ hbeside
    have hseek : perform (Overlay.seek block) ({ file with cursor := cursor }, disk) = _ :=
      perform_seek block { file with cursor := cursor } disk
    rw [hseek]
    dsimp only
    split
    · exact ⟨_, rfl, ⟨cursor, rfl⟩, fun _ _ hreply => nomatch hreply⟩
    · refine ⟨_, rfl, ⟨block, rfl⟩, ?_⟩
      rintro holds transfer ⟨⟩
      obtain ⟨after, hread⟩ := read_beside { file with cursor := block } hne hbeside blockSize
      exact ⟨rfl, _, hread, after, rfl⟩
  · intro block holds transfer hreply hfound
    split at hreply
    · cases hreply
    · cases hreply
      exact length_of_found hfound

end ChangeFile

/-! ### Stores in memory -/

namespace MemoryStore

/-- What a store replies, with the operations that fail in it. -/
def reply (store : MemoryStore) (block : Nat) : Overlay.Reply :=
  match fault? store.failing .seek with
  | .error error => .error error
  | .ok () =>
    if store.totalBlocks < block then .error (.outOfRange block)
    else .ok ((store.blocks.lookup block).isSome,
      match fault? store.failing .read with
      | .error error => .failed error
      | .ok () =>
        match store.blocks.lookup block with
        | some bytes => ⟨bytes, .ok .found⟩
        | none => ⟨[], .ok .notPresent⟩)

/-- **A store in memory repeats itself**, whatever is told to fail in it, if its blocks are as long as blocks are. -/
theorem repeats (store : MemoryStore) {blockSize : Nat}
    (hlength : ∀ block bytes, store.blocks.lookup block = some bytes → bytes.length = blockSize) (written : FileId)
    (origin : Disk) : Overlay.Repeats written origin blockSize store := by
  refine ⟨store.reply, fun other => ∃ cursor, other = { store with cursor := cursor }, ⟨store.cursor, rfl⟩, ?_, ?_⟩
  · rintro _ disk block ⟨cursor, rfl⟩ -
    have hseek : perform (Overlay.seek block) ({ store with cursor := cursor }, disk) = _ :=
      perform_seek block { store with cursor := cursor } disk
    rw [hseek, reply]
    dsimp only
    cases fault? store.failing .seek with
    | error error => exact ⟨_, rfl, ⟨cursor, rfl⟩, fun _ _ hreply => nomatch hreply⟩
    | ok done =>
      dsimp only
      by_cases hpast : store.totalBlocks < block
      · rw [if_pos hpast, if_pos hpast]
        exact ⟨_, rfl, ⟨cursor, rfl⟩, fun _ _ hreply => nomatch hreply⟩
      · rw [if_neg hpast, if_neg hpast]
        refine ⟨_, rfl, ⟨block, rfl⟩, ?_⟩
        rintro holds transfer ⟨⟩
        refine ⟨rfl, ?_⟩
        show ∃ after, read.run ({ store with cursor := block }, disk) = _ ∧ _
        simp only [read, StateT.run_bind, StateT.run_get, pure_bind]
        cases fault? store.failing .read with
        | error error => exact ⟨_, rfl, block, rfl⟩
        | ok done =>
          cases store.blocks.lookup block with
          | some bytes => exact ⟨_, rfl, block + 1, rfl⟩
          | none => exact ⟨_, rfl, block + 1, rfl⟩
  · intro block holds transfer hreply hfound
    unfold reply at hreply
    split at hreply
    · cases hreply
    · split at hreply
      · cases hreply
      · cases hreply
        split at hfound
        · cases hfound
        · split at hfound
          · next bytes hbytes => exact hlength block bytes hbytes
          · cases hfound

end MemoryStore

end PartitionImage
