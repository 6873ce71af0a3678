import PartitionImage.Proofs.Archive.Layout
import PartitionImage.Proofs.Device
/-!
# The device of an image that was made

What went into an image is what its device holds.

* `Archive.record_eq` is one record: its checksum starts from where it was started when it was made.
* `Archive.rank_eq` and `Archive.payloads_rank` tie a block to its record.
* `Archive.block_eq` is one block, `Archive.reads_contents` a run of them, and `Archive.changed_block` a block over which
  there may be a change.
-/

namespace PartitionImage.Archive

variable (archive : Archive) (tail : Bytes)

def device : Device where
  bytes := archive.image tail
  format := archive.head.format
  layout := archive.layout
  total := archive.total
  stored := fun _ => none

/-- The device of an image is found in its bytes. -/
theorem of?_image (stored : Nat → Option Bytes) :
    Device.of? (archive.image tail) stored = some ((archive.device tail).changed stored) := by
  obtain ⟨described, haccepted, hrecorded⟩ := archive.accepted tail
  have htotal : described.totalBlocks = archive.total := hrecorded.totalBlocks_eq
  rw [Device.of?, haccepted, Option.map_some]
  dsimp only
  rw [htotal]
  rfl

/-! ### Records -/

/-- A record in terms of what stands after the bitmap, where checksums are stored. -/
theorem record_tail (hchecked : archive.layout.algorithm ≠ .none) (number : Nat)
    (hfit : number * archive.layout.recordSize + archive.layout.recordSize ≤ tail.length) :
    (archive.device tail).record number
      = if archive.layout.algorithm.compute ((archive.device tail).seed number)
            (tail.slice (number * archive.layout.recordSize) archive.blockSize)
          = UInt32.ofNat (tail.field (number * archive.layout.recordSize + archive.blockSize)
              Checksum.size) then
          .data (tail.slice (number * archive.layout.recordSize) archive.blockSize)
        else
          .mismatch (tail.slice (number * archive.layout.recordSize) archive.blockSize)
            (UInt32.ofNat (tail.field (number * archive.layout.recordSize + archive.blockSize)
              Checksum.size))
            (archive.layout.algorithm.compute ((archive.device tail).seed number)
              (tail.slice (number * archive.layout.recordSize) archive.blockSize)) := by
  have hlong : (archive.device tail).recordStart number + (archive.device tail).layout.recordSize
      ≤ (archive.device tail).bytes.length := by
    show archive.layout.bitmapEnd + number * archive.layout.recordSize + archive.layout.recordSize
      ≤ (archive.image tail).length
    rw [length_image]
    omega
  have hpayload : (archive.device tail).bytes.slice ((archive.device tail).recordStart number)
      (archive.device tail).layout.blockSize
        = tail.slice (number * archive.layout.recordSize) archive.blockSize :=
    archive.slice_tail tail _ _
  have hstored : (archive.device tail).bytes.field
      ((archive.device tail).recordStart number + (archive.device tail).layout.blockSize)
        Checksum.size
        = tail.field (number * archive.layout.recordSize + archive.blockSize) Checksum.size := by
    rw [Bytes.field, Bytes.field, ← archive.slice_tail tail, ← Nat.add_assoc]
    rfl
  have halgorithm : (archive.device tail).layout.algorithm ≠ .none := hchecked
  rw [Device.record, hpayload, hstored]
  dsimp only
  rw [if_neg halgorithm, if_pos hlong]
  rfl

/-- Where checksums are chained, what one starts from in terms of what stands after the bitmap. -/
theorem seed_tail (hreseed : archive.layout.reseed = false) {number : Nat} (hpos : 0 < number)
    (hsize : Checksum.size ≤ archive.layout.recordSize) :
    (archive.device tail).seed number
      = UInt32.ofNat
        (tail.field (number * archive.layout.recordSize - Checksum.size) Checksum.size) := by
  have hmul : 1 * archive.layout.recordSize ≤ number * archive.layout.recordSize :=
    Nat.mul_le_mul_right _ hpos
  have hplace : (archive.device tail).recordStart number - Checksum.size
      = archive.layout.bitmapEnd + (number * archive.layout.recordSize - Checksum.size) := by
    show archive.layout.bitmapEnd + number * archive.layout.recordSize - Checksum.size = _
    omega
  have hchained : ((archive.device tail).layout.reseed || number == 0) = false := by
    show (archive.layout.reseed || number == 0) = false
    rw [hreseed]
    simpa using Nat.pos_iff_ne_zero.mp hpos
  rw [Device.seed, hchained, hplace, Bytes.field, Bytes.field, ← archive.slice_tail tail]
  rfl

/-- What the checksum of a record was started from. -/
def seed (number : Nat) : UInt32 :=
  archive.head.trailers.seedAfter archive.head.checked Checksum.seed (archive.payloads.take number)

variable {archive} {number : Nat} {payload : Bytes.Sized archive.blockSize}

theorem slice_payload (h : archive.payloads[number]? = some payload) :
    archive.bytes.slice ((archive.device archive.records).recordStart number) archive.blockSize = payload.val := by
  obtain ⟨rest, hdrop⟩ := archive.drop_recordStart h
  show (archive.bytes.drop (archive.layout.bitmapEnd + number * archive.layout.recordSize)).take _ = _
  rw [hdrop, List.take_append_of_le_length (Nat.le_of_eq payload.length_val.symm),
    List.take_of_length_le (Nat.le_of_eq payload.length_val)]

theorem recordStart_add_le (h : archive.payloads[number]? = some payload) :
    (archive.device archive.records).recordStart number + archive.layout.recordSize ≤ archive.bytes.length := by
  obtain ⟨hlt, -⟩ := List.getElem?_eq_some_iff.mp h
  have hmul : (number + 1) * archive.layout.recordSize
      ≤ archive.payloads.length * archive.layout.recordSize := Nat.mul_le_mul_right _ hlt
  rw [Nat.succ_mul] at hmul
  rw [bytes, length_image, length_records]
  show archive.layout.bitmapEnd + number * archive.layout.recordSize + _ ≤ _
  omega

theorem checksum_eq (hchecked : archive.layout.algorithm ≠ .none)
    (h : archive.payloads[number]? = some payload) :
    UInt32.ofNat (archive.bytes.field ((archive.device archive.records).recordStart number + archive.blockSize)
        Checksum.size)
      = archive.layout.algorithm.compute (archive.seed number) payload.val := by
  obtain ⟨rest, hdrop⟩ := archive.drop_recordStart h
  have htrailer : archive.head.trailers.trailer archive.head.checked number (archive.seed number)
        payload.val
      = Bytes.ofNat Checksum.size
          (archive.layout.algorithm.compute (archive.seed number) payload.val).toNat := by
    unfold layout at hchecked ⊢
    cases htrailers : archive.head.trailers with
    | chained => rfl
    | reseeded flag flag_ne => rfl
    | unchecked size filling flag shared =>
      rw [htrailers] at hchecked
      exact absurd rfl hchecked
  have hslice : archive.bytes.slice ((archive.device archive.records).recordStart number + archive.blockSize)
      Checksum.size = Bytes.ofNat Checksum.size
          (archive.layout.algorithm.compute (archive.seed number) payload.val).toNat := by
    rw [Bytes.slice, ← List.drop_drop]
    show ((archive.bytes.drop (archive.layout.bitmapEnd
      + number * archive.layout.recordSize)).drop _).take _ = _
    rw [hdrop]
    show ((_ ++ (archive.head.trailers.trailer archive.head.checked number (archive.seed number)
      payload.val ++ rest)).drop _).take _ = _
    rw [htrailer, List.drop_append_of_le_length (Nat.le_of_eq payload.length_val.symm),
      List.drop_of_length_le (Nat.le_of_eq payload.length_val), List.nil_append,
      List.take_append_of_le_length (by simp), List.take_of_length_le (by simp)]
  rw [Bytes.field, hslice, Checksum.ofNat_toNat_ofNat]

/-- The seed of the next record, in terms of the one before it. -/
theorem seed_succ (h : archive.payloads[number]? = some payload) :
    archive.seed (number + 1)
      = archive.head.trailers.next archive.head.checked (archive.seed number) payload.val := by
  rw [seed, Trailers.seedAfter, List.take_add_one, h, Option.toList_some, List.foldl_append]
  rfl

/-- Where checksums are not chained all of them start from the same seed. -/
theorem seed_of_reseeds (hreseeds : archive.head.trailers.reseeds = true) :
    archive.seed number = Checksum.seed := by
  unfold seed
  generalize archive.payloads.take number = payloads
  cases htrailers : archive.head.trailers with
  | chained =>
    rw [htrailers] at hreseeds
    cases hreseeds
  | reseeded flag flag_ne =>
    induction payloads with
    | nil => rfl
    | cons payload payloads ih => exact ih
  | unchecked size filling flag shared =>
    induction payloads with
    | nil => rfl
    | cons payload payloads ih => exact ih

/-- A record starts from the trailer before it, if that is how it was made. -/
theorem seed_eq (hchecked : archive.layout.algorithm ≠ .none)
    (h : archive.payloads[number]? = some payload) :
    (archive.device archive.records).seed number = archive.seed number := by
  cases number with
  | zero =>
    rw [Device.seed, if_pos (by simp)]
    rfl
  | succ number =>
    obtain ⟨hlt, -⟩ := List.getElem?_eq_some_iff.mp h
    have hbefore : archive.payloads[number]? = some archive.payloads[number] :=
      List.getElem?_eq_getElem (by omega)
    have htrailer := checksum_eq hchecked hbefore
    have hsucc := seed_succ hbefore
    rw [Device.seed]
    show (if archive.head.trailers.reseeds || number + 1 == 0 then _ else _) = _
    cases htrailers : archive.head.trailers with
    | reseeded flag flag_ne =>
      have hreseeds := Trailers.reseeds_reseeded flag_ne
      rw [seed_of_reseeds (htrailers ▸ hreseeds), hreseeds]
      rfl
    | unchecked size filling flag shared =>
      rw [layout, htrailers] at hchecked
      exact absurd rfl hchecked
    | chained =>
      have hstart : (archive.device archive.records).recordStart (number + 1) - Checksum.size
          = (archive.device archive.records).recordStart number + archive.blockSize := by
        have hsize : archive.layout.recordSize = archive.blockSize + Checksum.size := by
          rw [RecordLayout.recordSize, layout, htrailers]
          rfl
        show archive.layout.bitmapEnd + (number + 1) * archive.layout.recordSize - _
          = archive.layout.bitmapEnd + number * archive.layout.recordSize + _
        rw [Nat.succ_mul]
        omega
      have halgorithm : archive.layout.algorithm = archive.head.checked := by
        rw [layout, htrailers]
        rfl
      rw [hsucc, htrailers, hstart]
      show UInt32.ofNat (archive.bytes.field _ _) = _
      rw [htrailer, halgorithm]
      rfl

theorem record_eq (h : archive.payloads[number]? = some payload) :
    (archive.device archive.records).record number = .data payload.val := by
  have hfit := recordStart_add_le h
  have hpayload := slice_payload h
  unfold Device.record
  dsimp only
  show (if archive.layout.algorithm = .none then
      if (archive.device archive.records).recordStart number + archive.blockSize ≤ archive.bytes.length then
        BlockAnswer.data (archive.bytes.slice ((archive.device archive.records).recordStart number) archive.blockSize)
      else _
    else if (archive.device archive.records).recordStart number + archive.layout.recordSize ≤ archive.bytes.length then
      if archive.layout.algorithm.compute ((archive.device archive.records).seed number)
          (archive.bytes.slice ((archive.device archive.records).recordStart number) archive.blockSize)
        = UInt32.ofNat (archive.bytes.field ((archive.device archive.records).recordStart number + archive.blockSize)
            Checksum.size) then
        BlockAnswer.data (archive.bytes.slice ((archive.device archive.records).recordStart number) archive.blockSize)
      else _
    else _) = _
  rw [hpayload]
  by_cases hnone : archive.layout.algorithm = .none
  · have hshort : (archive.device archive.records).recordStart number + archive.blockSize ≤ archive.bytes.length := by
      refine Nat.le_trans (Nat.add_le_add_left ?_ _) hfit
      exact Nat.le_add_right _ _
    rw [if_pos hnone, if_pos hshort]
  · rw [if_neg hnone, if_pos hfit, seed_eq hnone h, checksum_eq hnone h, if_pos rfl]

/-! ### Blocks -/

variable {block : Nat}

theorem marked_device (tail : Bytes) (h : block < archive.total) :
    (archive.device tail).marked block = archive.blocks[block].isSome := by
  rw [← isUsed_eq archive h]
  exact archive.marked_eq tail h

theorem rank_eq (tail : Bytes) (h : block ≤ archive.total) :
    (archive.device tail).rank block = (archive.blocks.take block).countP Option.isSome := by
  induction block with
  | zero => rfl
  | succ block ih =>
    have hlt : block < archive.total := h
    have hone : (archive.device tail).rank (block + 1)
        = (archive.device tail).rank block + if archive.blocks[block].isSome then 1 else 0 := by
      rw [Device.rank, List.range_succ, List.countP_append, ← marked_device tail hlt]
      simp [Device.rank, List.countP_cons]
    rw [hone, ih (Nat.le_of_lt hlt), List.take_add_one, List.getElem?_eq_getElem hlt,
      List.countP_append]
    simp [List.countP_cons]

/-- **The record of a used block is that of its payload.** -/
theorem payloads_rank (tail : Bytes) (h : archive.blocks[block]? = some (some payload)) :
    archive.payloads[(archive.device tail).rank block]? = some payload := by
  obtain ⟨hlt, hget⟩ := List.getElem?_eq_some_iff.mp h
  have hsplit : archive.blocks
      = archive.blocks.take block ++ some payload :: archive.blocks.drop (block + 1) := by
    rw [← hget, ← List.drop_eq_getElem_cons hlt, List.take_append_drop]
  have hpayloads : archive.payloads
      = (archive.blocks.take block).filterMap id
        ++ payload :: (archive.blocks.drop (block + 1)).filterMap id := by
    rw [payloads]
    conv => lhs; rw [hsplit]
    rw [List.filterMap_append]
    rfl
  have hlength : ((archive.blocks.take block).filterMap id).length = (archive.device tail).rank block := by
    rw [rank_eq tail (Nat.le_of_lt hlt), List.length_filterMap_eq_countP]
    rfl
  rw [hpayloads, List.getElem?_append_right (Nat.le_of_eq hlength), hlength, Nat.sub_self]
  rfl

theorem recordStart_rank_lt (hoffsets : archive.bytes.length < range64) (h : block < archive.total)
    (hmarked : (archive.device archive.records).marked block = true) :
    (archive.device archive.records).recordStart ((archive.device archive.records).rank block)
      < range64 := by
  rw [marked_device _ h] at hmarked
  obtain ⟨payload, hpayload⟩ := Option.isSome_iff_exists.mp hmarked
  have hfit := recordStart_add_le (payloads_rank archive.records
    (List.getElem?_eq_some_iff.mpr ⟨h, hpayload⟩))
  omega

/-- A used block that is not changed is what is in the record that it is taken to have. -/
theorem answer_eq {stored : Nat → Option Bytes} (hstored : stored block = none)
    {own : Bytes.Sized archive.blockSize} (hused : archive.blocks[block]? = some (some own))
    (h : archive.payloads[number]? = some payload) :
    ((archive.device archive.records).changed stored).answer number block = .data payload.val := by
  obtain ⟨hlt, hget⟩ := List.getElem?_eq_some_iff.mp hused
  have hmarked : ((archive.device archive.records).changed stored).marked block = true := by
    show (archive.device archive.records).marked block = true
    rw [marked_device archive.records hlt, hget]
    rfl
  exact (Device.answer_of_marked hstored hmarked number).trans (record_eq h)

/-- A used block that is not changed is what was put into the image. -/
theorem block_of_used {stored : Nat → Option Bytes} (hstored : stored block = none)
    (h : archive.blocks[block]? = some (some payload)) :
    ((archive.device archive.records).changed stored).block block = .data payload.val :=
  answer_eq hstored h (payloads_rank archive.records h)

/-- **A block of the device is what was put into the image.** -/
theorem block_eq (h : block < archive.total) :
    (archive.device archive.records).block block
      = .data (archive.content archive.blocks[block]) := by
  have hget := List.getElem?_eq_getElem h
  cases hblock : archive.blocks[block] with
  | none =>
    have hmarked : (archive.device archive.records).marked block = false := by
      rw [marked_device archive.records h, hblock]
      rfl
    unfold Device.block Device.answer
    show (if (archive.device archive.records).marked block then _ else _) = _
    rw [hmarked]
    rfl
  | some payload =>
    rw [hblock] at hget
    exact block_of_used (show (fun _ => none : Nat → Option Bytes) block = none from rfl) hget

def payload? (archive : Archive) (block : Nat) : Option Bytes :=
  archive.blocks[block]?.join.map Subtype.val

theorem isSome_payload? (tail : Bytes) (h : block < archive.total) :
    (archive.payload? block).isSome = (archive.device tail).marked block := by
  rw [marked_device tail h, payload?, List.getElem?_eq_getElem h]
  cases archive.blocks[block] with
  | none => rfl
  | some payload => rfl

/-- **A block of the device is what it was changed to**, or else what was put into the image. -/
theorem changed_block (stored : Nat → Option Bytes) (h : block < archive.total) :
    ((archive.device archive.records).changed stored).block block
      = .data (((stored block).or (archive.payload? block)).getD
          (List.replicate archive.blockSize unusedBlockFill)) := by
  cases hstored : stored block with
  | some bytes =>
    have hchanged : ((archive.device archive.records).changed stored).stored block = some bytes := hstored
    rw [Device.block, Device.answer, hchanged]
    rfl
  | none =>
    have hchanged : ((archive.device archive.records).changed stored).stored block = none := hstored
    have hdevice : ((archive.device archive.records).changed stored).block block
        = (archive.device archive.records).block block := by
      rw [Device.block, Device.answer, hchanged]
      rfl
    rw [hdevice, block_eq h, payload?, List.getElem?_eq_getElem h]
    cases archive.blocks[block] with
    | none => rfl
    | some payload => rfl

theorem contents_eq (block n : Nat) (hbound : block + n ≤ archive.total) :
    archive.contents block n
      = (List.range' block n).flatMap fun other => archive.content archive.blocks[other]?.join := by
  induction n generalizing block with
  | zero => rw [contents, List.take_zero, List.range'_zero, List.flatMap_nil, List.flatMap_nil]
  | succ n ih =>
    have hlt : block < archive.blocks.length := by
      have hbound : block + (n + 1) ≤ archive.blocks.length := hbound
      omega
    rw [List.range'_succ, List.flatMap_cons, ← ih (block + 1) (by omega), contents, contents,
      List.drop_eq_getElem_cons hlt, List.take_succ_cons, List.flatMap_cons,
      List.getElem?_eq_getElem hlt]
    rfl

/-- **A run of blocks is read whole**, and the cursor is left behind it. -/
theorem reads_contents {n cursor : Nat} {transfer : Transfer Error Unit}
    (hbound : block + n ≤ archive.total)
    (h : (archive.device archive.records).Reads block n transfer cursor) :
    transfer = .complete (archive.contents block n) ∧ cursor = block + n := by
  rw [contents_eq block n hbound]
  apply h.eq_complete
  intro other _ hto
  have hlt : other < archive.total := by omega
  rw [block_eq hlt, List.getElem?_eq_getElem hlt]
  rfl

/-! ### A plain image -/

/-- A legacy image with blocks of two bytes, and zeros in the fields that are free. -/
def plain (blocks : List (Option (Bytes.Sized 2))) (total_lt : blocks.length < range64) : Archive where
  head := .legacy {
    fsType := ⟨List.replicate 15 0, List.length_replicate⟩
    unused := ⟨List.replicate 2 0, List.length_replicate⟩
    options := ⟨List.replicate 4096 0, List.length_replicate⟩ }
  blockSize := 2
  blockSize_pos := by decide
  blockSize_lt := by decide
  deviceSize := 2 * blocks.length
  blocks := blocks
  total_lt := total_lt

end PartitionImage.Archive
