import PartitionImage.Proofs.FirstByte
import PartitionImage.Proofs.Image.Burst
/-!
# A checksum protects the first byte of a block

The payload of a block of a legacy image changes.  The block cannot be read if the first byte of the payload
is another one, and reads as the new payload otherwise; every other block reads as before.

* `Device.rank_lt` says that used blocks have records of their own.
* `Archive.retouched` is the change of a payload.
* `Image.read_after_retouch` is the statement.
-/

namespace PartitionImage

theorem Device.rank_lt (device : Device) {a b : Nat} (h : a < b) (hmarked : device.marked a = true) :
    device.rank a < device.rank b := by
  obtain ⟨later, rfl⟩ := Nat.exists_eq_add_of_lt h
  rw [rank, rank, Nat.add_right_comm, List.range_add, List.countP_append, List.range_succ,
    List.countP_append, List.countP_singleton, if_pos hmarked]
  omega

/-- Two used blocks do not share a record. -/
theorem Device.rank_ne (device : Device) {a b : Nat} (h : a ≠ b) (ha : device.marked a = true)
    (hb : device.marked b = true) : device.rank a ≠ device.rank b := by
  rcases Nat.lt_or_gt_of_ne h with hlt | hgt
  · exact Nat.ne_of_lt (device.rank_lt hlt ha)
  · exact Nat.ne_of_gt (device.rank_lt hgt hb)

/-- The payload of a block of a legacy image changes. -/
theorem Archive.retouched {archive : Archive} {head : LegacyHead} (hlegacy : archive.head = .legacy head)
    {other : Bytes} {number : Nat}
    (hpayload : archive.bytes.SameBeside other (archive.made.recordStart number) archive.blockSize) :
    archive.made.Retouched other number where
  toSameBeside := hpayload
  algorithm := by
    show archive.head.trailers.algorithm archive.head.checked = .firstByte
    rw [hlegacy]
    rfl
  trailer := by
    show archive.head.trailers.size = Checksum.size
    rw [hlegacy]
    rfl
  blockSize_pos := archive.blockSize_pos
  blockSize_lt := by
    have hlt := archive.blockSize_lt
    rw [hlegacy, Head.sizeLimit] at hlt
    exact Nat.lt_trans hlt (by decide)

namespace Image

variable {O : Type} [Overlay O]

open PartitionImage.Action (perform)

/-- **The checksum of a block of a legacy image protects the first byte of its payload, and nothing else.**
Whatever the size of the blocks, their payloads and which of them are used: if bytes in the payload of one
block change, the image is verified all the same.  If the first of them is another one, the block cannot be
read for its checksum; if it is not, the block reads as the payload has become.  Every other block, the
next that is used included, reads as it was put into the image. -/
theorem read_after_retouch (archive : Archive) {head : LegacyHead} (hlegacy : archive.head = .legacy head)
    (hmemory : bytesForBits archive.total < allocationLimit)
    (hoffsets : archive.bytes.length < range64) {block start : Nat}
    {payload : Bytes.Sized archive.blockSize} (hused : archive.blocks[block]? = some (some payload))
    (hstart : archive.made.recordStart (archive.made.rank block) = start) {other : Bytes}
    (hpayload : archive.bytes.SameBeside other start archive.blockSize)
    {opened : Image O × World} (hopened : OpenedOn other opened) :
    archive.bytes.slice start archive.blockSize = payload.val
      ∧ ∃ verified, perform verify opened = (.ok (), verified)
        ∧ (other.getD start 0 ≠ archive.bytes.getD start 0 →
          ∃ got stored computed, ((BlockDevice.readAt block archive.blockSize).run verified).1
            = ⟨got, .error (.blockChecksum block stored computed)⟩)
        ∧ (other.getD start 0 = archive.bytes.getD start 0 →
          ((BlockDevice.readAt block archive.blockSize).run verified).1
            = .complete (other.slice start archive.blockSize))
        ∧ ∀ away (haway : away < archive.total), away ≠ block →
          ((BlockDevice.readAt away archive.blockSize).run verified).1
            = .complete (archive.content archive.blocks[away]) := by
  subst hstart
  obtain ⟨hblock, hget⟩ := List.getElem?_eq_some_iff.mp hused
  have hmarked : archive.made.marked block = true := by
    rw [Archive.marked_device _ hblock, hget]
    rfl
  have hretouched := Archive.retouched hlegacy hpayload
  obtain ⟨tail, rfl⟩ := Archive.exists_tail_of_sameBeside hpayload (Nat.le_add_right _ _)
  have hdevice : archive.made.withBytes (archive.image tail) = archive.device tail := rfl
  have hmade : archive.made.bytes = archive.bytes := rfl
  obtain ⟨verified, hverify, hreads⟩ := exists_readAt archive tail hopened hmemory hoffsets
  have hnumber := Archive.payloads_rank archive.records hused
  obtain ⟨stored, computed, hrecord⟩ := hretouched.record_hit (Archive.record_eq hnumber)
  have hgives := hreads block hblock
  rw [Archive.block_of_marked archive tail hblock hmarked, ← hdevice, hrecord, hmade] at hgives
  refine ⟨Archive.slice_payload hnumber, verified, hverify, ?_, ?_, ?_⟩
  · intro hfirst
    rw [if_neg hfirst] at hgives
    exact ⟨_, stored, computed, hgives.eq_mismatch⟩
  · intro hfirst
    rw [if_pos hfirst] at hgives
    exact hgives.eq_complete
  · intro away haway hne
    have hsame : (archive.device tail).block away = archive.made.block away := by
      apply Archive.block_congr archive tail haway
      intro hother
      rw [← hdevice]
      exact hretouched.record_of_ne (archive.made.rank_ne hne hother hmarked)
    have hothers := hreads away haway
    rw [hsame, Archive.block_eq haway] at hothers
    exact hothers.eq_complete

/-- The first byte of the first of two payloads is changed, or else the second.  Only the former is noticed,
and the other blocks read as before. -/
theorem read_after_retouch_threeBlocks :
    ∃ (first second : Bytes) (hit kept : Image MemoryStore × World),
      perform verify (inMemory first) = (.ok (), hit)
        ∧ (∃ got stored computed, ((BlockDevice.readAt 0 2).run hit).1
          = ⟨got, .error (.blockChecksum 0 stored computed)⟩)
        ∧ ((BlockDevice.readAt 2 2).run hit).1 = .complete [0x22, 0x22]
        ∧ perform verify (inMemory second) = (.ok (), kept)
        ∧ ((BlockDevice.readAt 0 2).run kept).1 = .complete [0x11, 0xEE]
        ∧ ((BlockDevice.readAt 2 2).run kept).1 = .complete [0x22, 0x22] := by
  have hused : threeBlocks.blocks[0]? = some (some (.twice 0x11)) := rfl
  have hoffsets : threeBlocks.bytes.length < range64 := by
    rw [Archive.bytes, Archive.length_image, Archive.length_records]
    decide
  obtain ⟨start, hstart⟩ : ∃ start, threeBlocks.made.recordStart (threeBlocks.made.rank 0) = start :=
    ⟨_, rfl⟩
  have hwhole := Archive.recordStart_add_le (Archive.payloads_rank threeBlocks.records hused)
  have hfit : ∀ a b : UInt8, start + [a, b].length ≤ threeBlocks.bytes.length := by
    intro a b
    rw [← hstart]
    refine Nat.le_trans (Nat.add_le_add_left ?_ _) hwhole
    show 2 ≤ threeBlocks.layout.recordSize
    decide
  have hopened : ∀ bytes, OpenedOn bytes (inMemory bytes) := fun bytes =>
    ⟨rfl, rfl, .inr ⟨rfl, rfl⟩, Source.delivers_ofBytes _ _⟩
  have hchange := fun a b : UInt8 => read_after_retouch threeBlocks rfl (by decide) hoffsets hused hstart
    (Bytes.sameBeside_overwrite (hfit a b)) (hopened (threeBlocks.bytes.overwrite start [a, b]))
  have hbefore : threeBlocks.bytes.getD start 0 = 0x11 := by
    have hbyte := congrArg (fun payload : Bytes => payload.getD 0 0) (hchange 0 0).1
    rwa [Bytes.getD_slice, if_pos (by decide), Nat.add_zero] at hbyte
  have hafter : ∀ a b : UInt8, (threeBlocks.bytes.overwrite start [a, b]).getD start 0 = a := by
    intro a b
    rw [Bytes.getD_overwrite, if_pos ⟨Nat.le_refl _, Nat.lt_add_of_pos_right Nat.two_pos⟩, Nat.sub_self]
    rfl
  obtain ⟨-, hit, hverified, hwrong, -, hothers⟩ := hchange 0xEE 0x11
  obtain ⟨-, kept, hverified', -, hright, hothers'⟩ := hchange 0x11 0xEE
  refine ⟨_, _, hit, kept, hverified, hwrong (by rw [hafter, hbefore]; decide), hothers 2 (by decide) (by decide),
    hverified', ?_, hothers' 2 (by decide) (by decide)⟩
  rw [← Bytes.slice_overwrite threeBlocks.bytes [0x11, 0xEE] start]
  exact hright (by rw [hafter, hbefore])

end Image

end PartitionImage
