import PartitionImage.Image.Basic
import PartitionImage.Proofs.BlockMap
/-!
# The device that an image stands for

What every block of a device holds, said of the bytes of its image and of the blocks that were changed,
block by block and without a cursor, a count or an index.

* `Device.answer` is the content of a block: the changed block, filler, or the payload of a record.
  `Device.block` takes the record of the block itself.
* `Device.record` is the content of a record, checked from its own seed.
* `Device.Reads` says what a read of a run of blocks gives: the blocks in order, up to the first that
  fails.
-/

namespace PartitionImage

/-- What there is to read in a block. -/
inductive BlockAnswer
  | data (bytes : Bytes)
  /-- The record is cut off; so much of the payload is there. -/
  | short (there : Bytes)
  /-- The checksum of the payload is `computed`, and `stored` is another. -/
  | mismatch (payload : Bytes) (stored computed : UInt32)
  deriving DecidableEq, Repr

/-- The transfers that say what there is to read in a block.  Where the record is cut off, some of what
is there may have arrived. -/
inductive BlockAnswer.Gives (block : Nat) : BlockAnswer → Transfer Error Unit → Prop
  | data (bytes : Bytes) : Gives block (.data bytes) (.complete bytes)
  | short {there got : Bytes} (cause : IoError) (arrived : List.IsPrefix got there) :
      Gives block (.short there) ⟨got, .error (.readBlock block cause)⟩
  | mismatch (payload : Bytes) (stored computed : UInt32) :
      Gives block (.mismatch payload stored computed)
        ⟨payload, .error (.blockChecksum block stored computed)⟩

theorem BlockAnswer.Gives.eq_complete {block : Nat} {bytes : Bytes}
    {transfer : Transfer Error Unit} (h : (BlockAnswer.data bytes).Gives block transfer) :
    transfer = .complete bytes := by
  cases h
  rfl

/-- A block whose checksum is wrong gives the payload and the two checksums. -/
theorem BlockAnswer.Gives.eq_mismatch {block : Nat} {payload : Bytes} {stored computed : UInt32}
    {transfer : Transfer Error Unit}
    (h : (BlockAnswer.mismatch payload stored computed).Gives block transfer) :
    transfer = ⟨payload, .error (.blockChecksum block stored computed)⟩ := by
  cases h
  rfl

/-- A transfer that is complete is one of the bytes of the block. -/
theorem BlockAnswer.Gives.eq_data {block : Nat} {answer : BlockAnswer} {bytes : Bytes}
    (h : answer.Gives block ⟨bytes, .ok ()⟩) : answer = .data bytes := by
  cases h
  rfl

/-- A device: the bytes of its image, what the head of the image says, and the changed blocks. -/
structure Device where
  bytes : Bytes
  format : Format
  layout : RecordLayout
  total : Nat
  stored : Nat → Option Bytes

namespace Device

def of? (bytes : Bytes) (stored : Nat → Option Bytes) : Option Device :=
  (Descriptor.accepted? bytes).map fun (format, described, layout) =>
    { bytes := bytes, format := format, layout := layout, total := described.totalBlocks,
      stored := stored }

def changed (device : Device) (stored : Nat → Option Bytes) : Device :=
  { device with stored := stored }

def marked (device : Device) (block : Nat) : Bool :=
  BlockMap.marked device.bytes device.layout.bitmapOffset block device.format

def rank (device : Device) (block : Nat) : Nat := (List.range block).countP device.marked

def recordStart (device : Device) (number : Nat) : Nat :=
  device.layout.bitmapEnd + number * device.layout.recordSize

/-- Where the checksum of a record starts from: the trailer before it, or the seed. -/
def seed (device : Device) (number : Nat) : UInt32 :=
  if device.layout.reseed || number == 0 then Checksum.seed
  else
    UInt32.ofNat (device.bytes.field (device.recordStart number - Checksum.size) Checksum.size)

/-- What there is to read in a record.  Where no checksum is stored, the payload is enough. -/
def record (device : Device) (number : Nat) : BlockAnswer :=
  let start := device.recordStart number
  let payload := device.bytes.slice start device.layout.blockSize
  if device.layout.algorithm = .none then
    if start + device.layout.blockSize ≤ device.bytes.length then .data payload
    else .short payload
  else if start + device.layout.recordSize ≤ device.bytes.length then
    let stored := UInt32.ofNat
      (device.bytes.field (start + device.layout.blockSize) Checksum.size)
    let computed := device.layout.algorithm.compute (device.seed number) payload
    if computed = stored then .data payload else .mismatch payload stored computed
  else .short payload

/-- What there is to read in a block if `passed` records are taken to precede it: what was changed, filler for an unused
block, or a record. -/
def answer (device : Device) (passed block : Nat) : BlockAnswer :=
  match device.stored block with
  | some bytes => .data bytes
  | none =>
    if device.marked block then device.record passed
    else .data (List.replicate device.layout.blockSize unusedBlockFill)

def block (device : Device) (number : Nat) : BlockAnswer := device.answer (device.rank number) number

theorem answer_of_marked {device : Device} {block : Nat} (hstored : device.stored block = none)
    (hmarked : device.marked block = true) (passed : Nat) :
    device.answer passed block = device.record passed := by
  unfold answer
  rw [hstored]
  exact if_pos hmarked

/-- What a read of `n` blocks from a block on gives, and where it leaves the cursor: the blocks in order,
up to the first that fails. -/
inductive Reads (device : Device) : (block n : Nat) → Transfer Error Unit → (cursor : Nat) → Prop
  | done (block : Nat) : Reads device block 0 (.complete []) block
  | next {block n cursor : Nat} {bytes : Bytes} {rest : Transfer Error Unit}
      (first : device.block block = .data bytes) (others : Reads device (block + 1) n rest cursor) :
      Reads device block (n + 1) (Transfer.append (.complete bytes : Transfer Error Unit) rest) cursor
  | stop {block n : Nat} {got : Bytes} {error : Error}
      (fails : (device.block block).Gives block ⟨got, .error error⟩) :
      Reads device block (n + 1) ⟨got, .error error⟩ block

/-- A run of one block gives what there is to read in it. -/
theorem Reads.gives {device : Device} {block cursor : Nat} {transfer : Transfer Error Unit}
    (h : device.Reads block 1 transfer cursor) : (device.block block).Gives block transfer := by
  cases h with
  | next first others =>
    cases others
    rw [first]
    show (BlockAnswer.data _).Gives block ⟨_ ++ [], .ok ()⟩
    rw [List.append_nil]
    exact .data _
  | stop fails => exact fails

/-- A run of blocks none of which fails is read whole, and the cursor is left behind it. -/
theorem Reads.eq_complete {device : Device} {block n cursor : Nat} {transfer : Transfer Error Unit}
    (h : device.Reads block n transfer cursor) (content : Nat → Bytes)
    (hblocks : ∀ other, block ≤ other → other < block + n →
      device.block other = .data (content other)) :
    transfer = .complete ((List.range' block n).flatMap content) ∧ cursor = block + n := by
  induction n generalizing block transfer with
  | zero =>
    cases h
    exact ⟨rfl, rfl⟩
  | succ n ih =>
    have hfirst := hblocks block (Nat.le_refl _) (by omega)
    cases h with
    | next first others =>
      obtain ⟨rfl, rfl⟩ := ih others fun other hfrom hto => hblocks other (by omega) (by omega)
      rw [hfirst] at first
      cases first
      exact ⟨rfl, by omega⟩
    | stop fails =>
      rw [hfirst] at fails
      cases fails

/-- A run of blocks stops at the first if its checksum is wrong. -/
theorem Reads.eq_mismatch {device : Device} {block n cursor : Nat} {transfer : Transfer Error Unit}
    (h : device.Reads block (n + 1) transfer cursor) {payload : Bytes} {stored computed : UInt32}
    (hblock : device.block block = .mismatch payload stored computed) :
    transfer = ⟨payload, .error (.blockChecksum block stored computed)⟩ ∧ cursor = block := by
  cases h with
  | next first others =>
    rw [hblock] at first
    cases first
  | stop fails =>
    rw [hblock] at fails
    cases fails
    exact ⟨rfl, rfl⟩

end Device

end PartitionImage
