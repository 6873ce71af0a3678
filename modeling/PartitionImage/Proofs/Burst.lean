import PartitionImage.Proofs.Checksum
import PartitionImage.Proofs.Device
/-!
# Damage to a record

Bytes of an image change inside one record, and other records are as before.  Where records have a CRC and
all that changes is within four places, the record is found to be wrong, the next one may be, and no other
is.

* `Bytes.SameBeside` says that two strings differ in a window at most, `Bytes.Burst` that they do.
* `Checksum.crc32_slice_eq_zero_iff` says when a range ends in its own checksum.
* `Checksum.crc32_ne_of_burst` says that a short burst changes what the register holds at the end.
* `Device.Altered` is a device one record of which may have changed; `Device.Altered.record_of_ne` and
  `Device.Altered.record_next_eq` are its other records.
* `Device.Damaged` is one whose record is hit by a short burst; `Device.Damaged.record_hit` and
  `Device.Damaged.record_next_ne` say which records are wrong.
-/

namespace PartitionImage

namespace Bytes

/-- Another string of the same length that does not differ but in the `width` bytes at `start`. -/
structure SameBeside (bytes other : Bytes) (start width : Nat) : Prop where
  length_eq : other.length = bytes.length
  same : ∀ i, i < start ∨ start + width ≤ i → other.getD i 0 = bytes.getD i 0

/-- Another string of the same length that differs, but only in the `width` bytes at `start`. -/
structure Burst (bytes other : Bytes) (start width : Nat) : Prop where
  length_eq : other.length = bytes.length
  ne : other ≠ bytes
  same : ∀ i, i < start ∨ start + width ≤ i → other.getD i 0 = bytes.getD i 0

variable {bytes other : Bytes} {start width : Nat}

theorem Burst.sameBeside (h : bytes.Burst other start width) : bytes.SameBeside other start width :=
  ⟨h.length_eq, h.same⟩

theorem SameBeside.slice_eq (h : bytes.SameBeside other start width) {offset n : Nat}
    (hbeside : offset + n ≤ start ∨ start + width ≤ offset) :
    other.slice offset n = bytes.slice offset n := by
  refine ext_getD ?_ fun i hi => ?_
  · rw [length_slice, length_slice, h.length_eq]
  · rw [length_slice] at hi
    rw [getD_slice, getD_slice, if_pos (by omega), if_pos (by omega)]
    exact h.same _ (by omega)

theorem Burst.slice_eq (h : bytes.Burst other start width) {offset n : Nat}
    (hbeside : offset + n ≤ start ∨ start + width ≤ offset) :
    other.slice offset n = bytes.slice offset n :=
  h.sameBeside.slice_eq hbeside

theorem Burst.slice_ne (h : bytes.Burst other start width) :
    other.slice start width ≠ bytes.slice start width := by
  intro hsame
  refine h.ne (ext_getD h.length_eq fun i _ => ?_)
  by_cases hwindow : start ≤ i ∧ i < start + width
  · have hbyte := congrArg (fun window : Bytes => window.getD (i - start) 0) hsame
    simp only [getD_slice, if_pos (show i - start < width by omega)] at hbyte
    rwa [Nat.add_sub_cancel' hwindow.1] at hbyte
  · exact h.same i (by omega)

/-- Bytes that are written within a string leave what lies beside them. -/
theorem sameBeside_overwrite {new : Bytes} (hfit : start + new.length ≤ bytes.length) :
    bytes.SameBeside (bytes.overwrite start new) start new.length where
  length_eq := by
    rw [length_overwrite]
    split
    · rfl
    · omega
  same := by
    intro i hbeside
    rw [getD_overwrite, if_neg (by omega)]

/-- Other bytes that are written within a string are a burst. -/
theorem burst_overwrite {new : Bytes} (hfit : start + new.length ≤ bytes.length)
    (hne : new ≠ bytes.slice start new.length) :
    bytes.Burst (bytes.overwrite start new) start new.length where
  length_eq := (sameBeside_overwrite hfit).length_eq
  ne := by
    intro hsame
    have hslice := slice_overwrite bytes new start
    rw [hsame] at hslice
    exact hne hslice.symm
  same := (sameBeside_overwrite hfit).same

/-- A window of which every byte is raised is a burst. -/
theorem burst_succ (hpos : 0 < width) (hfit : start + width ≤ bytes.length) :
    bytes.Burst (bytes.overwrite start ((bytes.slice start width).map (· + 1))) start width := by
  have hwindow : (bytes.slice start width).length = width := length_slice_of_le hfit
  have hlength : ((bytes.slice start width).map (· + 1)).length = width := by
    rw [List.length_map, hwindow]
  have hne : (bytes.slice start width).map (· + 1) ≠ bytes.slice start width := by
    obtain ⟨byte, rest, hcons⟩ := List.exists_cons_of_length_pos (by rwa [hwindow])
    rw [hcons]
    intro hsame
    have hfirst : byte + 1 = byte := (List.cons.inj hsame).1
    simp at hfirst
  generalize (bytes.slice start width).map (· + 1) = raised at hlength hne ⊢
  subst hlength
  exact burst_overwrite hfit hne

/-- A range around a window is what is before it, the window, and what is after it. -/
theorem slice_around (bytes : Bytes) {offset n : Nat} (hfrom : offset ≤ start)
    (hto : start + width ≤ offset + n) :
    bytes.slice offset n
      = bytes.slice offset (start - offset)
        ++ (bytes.slice start width
          ++ bytes.slice (start + width) (offset + n - (start + width))) := by
  have hmiddle := slice_append_slice bytes start width (offset + n - (start + width))
  have hall := slice_append_slice bytes offset (start - offset)
    (width + (offset + n - (start + width)))
  rw [Nat.add_sub_cancel' hfrom] at hall
  rw [hmiddle, hall]
  congr 1
  omega

end Bytes

/-- The register is zero after a range if what it ends in is the checksum of the rest. -/
theorem Checksum.crc32_slice_eq_zero_iff (register : UInt32) {bytes : Bytes} {offset n : Nat}
    (hfit : offset + n + size ≤ bytes.length) :
    crc32 register (bytes.slice offset (n + size)) = 0
      ↔ crc32 register (bytes.slice offset n) = UInt32.ofNat (bytes.field (offset + n) size) := by
  have htrailer : (bytes.slice (offset + n) size).length = size := Bytes.length_slice_of_le hfit
  rw [← Bytes.slice_append_slice, crc32_eq_zero_iff _ _ htrailer, Bytes.field]

/-- **A burst of at most four bytes changes the CRC** of every range that it lies in. -/
theorem Checksum.crc32_ne_of_burst {bytes other : Bytes} {start width : Nat}
    (h : bytes.Burst other start width) (hwidth : width ≤ 4) (register : UInt32) {offset n : Nat}
    (hfrom : offset ≤ start) (hto : start + width ≤ offset + n) :
    crc32 register (other.slice offset n) ≠ crc32 register (bytes.slice offset n) := by
  intro hsame
  rw [Bytes.slice_around other hfrom hto, Bytes.slice_around bytes hfrom hto,
    h.slice_eq (.inl (Nat.le_of_eq (Nat.add_sub_cancel' hfrom))), h.slice_eq (.inr (Nat.le_refl _)),
    crc32_append, crc32_append, crc32_append register, crc32_append] at hsame
  have hwindow := crc32_seed_injective _ hsame
  have hlength : (other.slice start width).length = (bytes.slice start width).length := by
    rw [Bytes.length_slice, Bytes.length_slice, h.length_eq]
  have hshort : (other.slice start width).length ≤ 4 := by
    rw [Bytes.length_slice]
    omega
  exact h.slice_ne (crc32_window_injective hlength hshort hwindow)

namespace Device

def withBytes (device : Device) (other : Bytes) : Device := { device with bytes := other }

/-- A device whose records have checksums, and other bytes that do not differ but in one record. -/
structure Altered (device : Device) (other : Bytes) (hit start width : Nat) : Prop
    extends device.bytes.SameBeside other start width where
  trailer : device.layout.trailer = Checksum.size
  start_le : device.recordStart hit ≤ start
  le_end : start + width ≤ device.recordStart hit + device.layout.recordSize

/-- A device whose records have a CRC, and other bytes that differ in one record only, within four
places. -/
structure Damaged (device : Device) (other : Bytes) (hit start width : Nat) : Prop
    extends device.bytes.Burst other start width where
  algorithm : device.layout.algorithm = .crc32
  trailer : device.layout.trailer = Checksum.size
  short : width ≤ 4
  start_le : device.recordStart hit ≤ start
  le_end : start + width ≤ device.recordStart hit + device.layout.recordSize
  whole : device.recordStart hit + device.layout.recordSize ≤ device.bytes.length

variable {device : Device} {other : Bytes} {hit start width : Nat}

/-- The record after another begins where that one ends. -/
theorem recordStart_succ (device : Device) (number : Nat) :
    device.recordStart (number + 1) = device.recordStart number + device.layout.recordSize := by
  rw [recordStart, recordStart, Nat.succ_mul, Nat.add_assoc]

theorem recordStart_mono (device : Device) {a b : Nat} (h : a ≤ b) :
    device.recordStart a ≤ device.recordStart b :=
  Nat.add_le_add_left (Nat.mul_le_mul_right _ h) _

/-- A record that is there is right if the checksum of its payload is the one that is stored. -/
theorem record_of_whole (hchecked : device.layout.algorithm ≠ .none) {number : Nat}
    (hwhole : device.recordStart number + device.layout.recordSize ≤ device.bytes.length) :
    device.record number
      = if device.layout.algorithm.compute (device.seed number)
            (device.bytes.slice (device.recordStart number) device.layout.blockSize)
          = UInt32.ofNat
            (device.bytes.field (device.recordStart number + device.layout.blockSize) Checksum.size) then
          .data (device.bytes.slice (device.recordStart number) device.layout.blockSize)
        else
          .mismatch (device.bytes.slice (device.recordStart number) device.layout.blockSize)
            (UInt32.ofNat
              (device.bytes.field (device.recordStart number + device.layout.blockSize) Checksum.size))
            (device.layout.algorithm.compute (device.seed number)
              (device.bytes.slice (device.recordStart number) device.layout.blockSize)) := by
  unfold record
  dsimp only
  rw [if_neg hchecked, if_pos hwhole]

/-- Where a CRC is stored, a record is right if the register is zero after it. -/
theorem record_of_crc (halgorithm : device.layout.algorithm = .crc32)
    (htrailer : device.layout.trailer = Checksum.size) {number : Nat}
    (hwhole : device.recordStart number + device.layout.recordSize ≤ device.bytes.length) :
    ∃ payload stored computed, device.record number
      = if Checksum.crc32 (device.seed number)
            (device.bytes.slice (device.recordStart number) device.layout.recordSize) = 0 then
          .data payload
        else .mismatch payload stored computed := by
  have hsize : device.layout.recordSize = device.layout.blockSize + Checksum.size := by
    rw [RecordLayout.recordSize, htrailer]
  have hfit : device.recordStart number + device.layout.blockSize + Checksum.size
      ≤ device.bytes.length := by
    omega
  have hchecked : device.layout.algorithm ≠ .none := by
    rw [halgorithm]
    exact fun h => (nomatch h)
  rw [record_of_whole hchecked hwhole, hsize]
  simp only [Checksum.crc32_slice_eq_zero_iff _ hfit, halgorithm]
  exact ⟨_, _, _, rfl⟩

theorem whole_of_data {number : Nat} (hchecked : device.layout.algorithm ≠ .none) {payload : Bytes}
    (h : device.record number = .data payload) :
    device.recordStart number + device.layout.recordSize ≤ device.bytes.length := by
  unfold record at h
  dsimp only at h
  rw [if_neg hchecked] at h
  split at h
  · next hwhole => exact hwhole
  · cases h

/-- Where checksums are chained, the next record starts from the trailer of a record. -/
theorem seed_succ (device : Device) (htrailer : device.layout.trailer = Checksum.size)
    (hchained : device.layout.reseed = false) (number : Nat) :
    device.seed (number + 1)
      = UInt32.ofNat
        (device.bytes.field (device.recordStart number + device.layout.blockSize) Checksum.size) := by
  have hplace : device.recordStart (number + 1) - Checksum.size
      = device.recordStart number + device.layout.blockSize := by
    rw [device.recordStart_succ, RecordLayout.recordSize, htrailer]
    omega
  rw [seed, hchained, hplace]
  rfl

namespace Altered

variable (h : device.Altered other hit start width)

include h

theorem recordSize_eq : device.layout.recordSize = device.layout.blockSize + Checksum.size := by
  rw [RecordLayout.recordSize, h.trailer]

/-- A seed that is not in the record that is hit is as before. -/
theorem seed_eq {number : Nat} (hbeside : device.layout.reseed = true ∨ number ≤ hit
    ∨ hit + 1 < number) : (device.withBytes other).seed number = device.seed number := by
  unfold seed
  show (if device.layout.reseed || number == 0 then _ else _) = _
  cases hfirst : (device.layout.reseed || number == 0) with
  | true => rfl
  | false =>
    have hreseed : device.layout.reseed ≠ true ∧ number ≠ 0 := by simpa using hfirst
    have hfrom := h.start_le
    have hto := h.le_end
    have hsize := h.recordSize_eq
    have hslice : other.slice (device.recordStart number - Checksum.size) Checksum.size
        = device.bytes.slice (device.recordStart number - Checksum.size) Checksum.size := by
      apply h.slice_eq
      obtain ⟨before, rfl⟩ := Nat.exists_eq_succ_of_ne_zero hreseed.2
      rw [device.recordStart_succ]
      rcases hbeside with hbeside | hbeside | hbeside
      · exact absurd hbeside hreseed.1
      · have hmono := device.recordStart_mono hbeside
        rw [device.recordStart_succ] at hmono
        exact .inl (by omega)
      · have hmono := device.recordStart_mono (Nat.le_of_lt_succ hbeside)
        rw [device.recordStart_succ] at hmono
        exact .inr (by omega)
    show UInt32.ofNat (Bytes.toNat (other.slice _ _)) = UInt32.ofNat (Bytes.toNat _)
    rw [← hslice]
    rfl

/-- A record that is not hit is as before if its seed is. -/
theorem record_eq {number : Nat} (hne : number ≠ hit)
    (hseed : (device.withBytes other).seed number = device.seed number) :
    (device.withBytes other).record number = device.record number := by
  have hfrom := h.start_le
  have hto := h.le_end
  have hsize := h.recordSize_eq
  have hbeside : device.recordStart number + device.layout.recordSize ≤ start
      ∨ start + width ≤ device.recordStart number := by
    rcases Nat.lt_or_gt_of_ne hne with hlt | hgt
    · have hmono := device.recordStart_mono (Nat.succ_le_of_lt hlt)
      rw [device.recordStart_succ] at hmono
      exact .inl (by omega)
    · have hmono := device.recordStart_mono (Nat.succ_le_of_lt hgt)
      rw [device.recordStart_succ] at hmono
      exact .inr (by omega)
  have hpayload : other.slice (device.recordStart number) device.layout.blockSize
      = device.bytes.slice (device.recordStart number) device.layout.blockSize :=
    h.slice_eq (by omega)
  have hstored : other.field (device.recordStart number + device.layout.blockSize) Checksum.size
      = device.bytes.field (device.recordStart number + device.layout.blockSize) Checksum.size :=
    congrArg Bytes.toNat (h.slice_eq (by omega))
  have hlength := h.length_eq
  have hbytes : (device.withBytes other).bytes = other := rfl
  have hlayout : (device.withBytes other).layout = device.layout := rfl
  have hstart : (device.withBytes other).recordStart number = device.recordStart number := rfl
  rw [record, hseed, hbytes, hlayout, hstart, hpayload, hstored, hlength]
  rfl

/-- **Records other than the one that is hit and the next one are as before.** -/
theorem record_of_ne {number : Nat} (hne : number ≠ hit) (hnext : number ≠ hit + 1) :
    (device.withBytes other).record number = device.record number :=
  h.record_eq hne (h.seed_eq (by omega))

/-- **The next record is as before if its checksum does not start from the trailer that was hit.** -/
theorem record_next_eq (hkept : device.layout.reseed = true
      ∨ other.slice (device.recordStart hit + device.layout.blockSize) Checksum.size
        = device.bytes.slice (device.recordStart hit + device.layout.blockSize) Checksum.size) :
    (device.withBytes other).record (hit + 1) = device.record (hit + 1) := by
  apply h.record_eq (Nat.succ_ne_self hit)
  cases hreseed : device.layout.reseed with
  | true => exact h.seed_eq (.inl hreseed)
  | false =>
    have hsame := hkept.resolve_left (by rw [hreseed]; decide)
    rw [seed_succ device h.trailer hreseed, seed_succ (device.withBytes other) h.trailer hreseed]
    exact congrArg (fun trailer => UInt32.ofNat (Bytes.toNat trailer)) hsame

end Altered

namespace Damaged

variable (h : device.Damaged other hit start width)

include h

theorem altered : device.Altered other hit start width where
  toSameBeside := h.sameBeside
  trailer := h.trailer
  start_le := h.start_le
  le_end := h.le_end

theorem checked : device.layout.algorithm ≠ .none := by
  rw [h.algorithm]
  exact fun heq => (nomatch heq)

/-- **Records other than the one that is hit and the next one are as before.** -/
theorem record_of_ne {number : Nat} (hne : number ≠ hit) (hnext : number ≠ hit + 1) :
    (device.withBytes other).record number = device.record number :=
  h.altered.record_of_ne hne hnext

/-- **The next record is as before if its checksum does not start from the trailer that was hit.** -/
theorem record_next_eq (hkept : device.layout.reseed = true
      ∨ other.slice (device.recordStart hit + device.layout.blockSize) Checksum.size
        = device.bytes.slice (device.recordStart hit + device.layout.blockSize) Checksum.size) :
    (device.withBytes other).record (hit + 1) = device.record (hit + 1) :=
  h.altered.record_next_eq hkept

/-- With another seed, or after a burst, a record that was right is found to be wrong. -/
theorem record_of_crc_ne {number : Nat} {payload : Bytes}
    (hdata : device.record number = .data payload)
    (hne : Checksum.crc32 ((device.withBytes other).seed number)
        (other.slice (device.recordStart number) device.layout.recordSize)
      ≠ Checksum.crc32 (device.seed number)
        (device.bytes.slice (device.recordStart number) device.layout.recordSize)) :
    ∃ got stored computed,
      (device.withBytes other).record number = .mismatch got stored computed := by
  have hwhole := whole_of_data h.checked hdata
  obtain ⟨right, stored, computed, hright⟩ := record_of_crc h.algorithm h.trailer hwhole
  have hzero : Checksum.crc32 (device.seed number)
      (device.bytes.slice (device.recordStart number) device.layout.recordSize) = 0 := by
    apply Decidable.byContradiction
    intro hwrong
    rw [hdata, if_neg hwrong] at hright
    cases hright
  have hother : (device.withBytes other).recordStart number
      + (device.withBytes other).layout.recordSize ≤ (device.withBytes other).bytes.length := by
    show _ ≤ other.length
    rw [h.length_eq]
    exact hwhole
  have halgorithm : (device.withBytes other).layout.algorithm = .crc32 := h.algorithm
  obtain ⟨got, stored', computed', hgot⟩ := record_of_crc halgorithm h.trailer hother
  rw [hzero] at hne
  exact ⟨got, stored', computed', hgot.trans (if_neg hne)⟩

/-- **The record that is hit is found to be wrong.** -/
theorem record_hit {payload : Bytes} (hdata : device.record hit = .data payload) :
    ∃ got stored computed,
      (device.withBytes other).record hit = .mismatch got stored computed := by
  apply h.record_of_crc_ne hdata
  rw [h.altered.seed_eq (.inr (.inl (Nat.le_refl hit)))]
  exact Checksum.crc32_ne_of_burst h.toBurst h.short _ h.start_le h.le_end

/-- **The next record is found to be wrong if its checksum starts from a trailer that changed.** -/
theorem record_next_ne {payload : Bytes} (hdata : device.record (hit + 1) = .data payload)
    (hchained : device.layout.reseed = false)
    (hchanged : other.slice (device.recordStart hit + device.layout.blockSize) Checksum.size
      ≠ device.bytes.slice (device.recordStart hit + device.layout.blockSize) Checksum.size) :
    ∃ got stored computed,
      (device.withBytes other).record (hit + 1) = .mismatch got stored computed := by
  have hsize := h.altered.recordSize_eq
  have hto := h.le_end
  have hwhole := h.whole
  have hlength : ∀ bytes : Bytes, bytes.length = device.bytes.length →
      (bytes.slice (device.recordStart hit + device.layout.blockSize) Checksum.size).length
        = Checksum.size := by
    intro bytes hbytes
    apply Bytes.length_slice_of_le
    omega
  apply h.record_of_crc_ne hdata
  rw [seed_succ device h.trailer hchained, seed_succ (device.withBytes other) h.trailer hchained,
    h.slice_eq (.inr (by rw [device.recordStart_succ]; exact hto))]
  intro hsame
  -- the register keeps two seeds apart, and the seeds are the trailers
  exact hchanged (Bytes.ofNat_toNat_inj ((hlength other h.length_eq).trans (hlength _ rfl).symm)
    (Nat.le_of_eq (hlength other h.length_eq)) (Checksum.crc32_seed_injective _ hsame))

end Damaged

end Device

end PartitionImage
