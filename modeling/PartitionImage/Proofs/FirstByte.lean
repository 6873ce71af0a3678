import Mathlib.Data.Nat.GCD.Basic
import PartitionImage.Proofs.Burst
import PartitionImage.Proofs.Period
/-!
# What a checksum of the first byte finds

The legacy checksum folds the first byte of a payload once for every byte of it.  It tells two payloads of
one length apart just if their first bytes differ, unless the length is a multiple of the period of the
register.  No block is that long.

* `Checksum.apart` is how two registers differ over which different bytes are folded;
  `Checksum.apart_eq_zero_iff` says when they do not, by a telescoping sum.
* `Checksum.firstByte_eq_iff` says which strings have the same checksum.
* `Device.Retouched` is a device the payload of one record of which may have changed;
  `Device.Retouched.record_hit` says what becomes of the record, `Device.Retouched.record_of_ne` that the
  others are as before.
-/

namespace PartitionImage

namespace Checksum

/-- The difference of two equal registers after two bytes, which differ by `change`, are folded over them
`count` times. -/
def apart (change : UInt32) (count : Nat) : UInt32 :=
  Nat.repeat (fun difference => shifts 8 (difference ^^^ change)) count 0

theorem apart_succ (change : UInt32) (count : Nat) :
    apart change (count + 1) = shifts 8 (apart change count ^^^ change) := rfl

theorem repeat_fold_xor (a b : UInt8) (register : UInt32) (count : Nat) :
    Nat.repeat (fun register => fold register a) count register
        ^^^ Nat.repeat (fun register => fold register b) count register
      = apart (a.toUInt32 ^^^ b.toUInt32) count := by
  induction count with
  | zero =>
    show register ^^^ register = 0
    rw [UInt32.xor_self]
  | succ count ih =>
    rw [apart_succ, ← ih, Nat.repeat, Nat.repeat, fold_eq_shifts, fold_eq_shifts, ← shifts_xor]
    congr 1
    ac_rfl

/-- **The differences telescope**: one byte more leaves only what is oldest and what is newest. -/
theorem shifts_apart_xor (change : UInt32) (count : Nat) :
    shifts 8 (apart change count) ^^^ apart change count
      = shifts (8 * count) (shifts 8 change) ^^^ shifts 8 change := by
  induction count with
  | zero =>
    show shifts 8 0 ^^^ 0 = shifts 8 change ^^^ shifts 8 change
    rw [shifts_zero, UInt32.xor_self, UInt32.xor_self]
  | succ count ih =>
    have hnext : apart change (count + 1) = shifts 8 (apart change count) ^^^ shifts 8 change := by
      rw [apart_succ, shifts_xor]
    have hlast : shifts (8 * (count + 1)) (shifts 8 change)
        = shifts 8 (shifts (8 * count) (shifts 8 change)) := by
      rw [← shifts_add 8 (8 * count), Nat.mul_succ, Nat.add_comm]
    calc shifts 8 (apart change (count + 1)) ^^^ apart change (count + 1)
        = shifts 8 (shifts 8 (apart change count) ^^^ apart change count)
            ^^^ (shifts 8 (shifts 8 change) ^^^ shifts 8 change) := by
          rw [hnext, shifts_xor, shifts_xor]
          ac_rfl
      _ = shifts (8 * (count + 1)) (shifts 8 change)
            ^^^ (shifts 8 (shifts 8 change) ^^^ shifts 8 (shifts 8 change)) ^^^ shifts 8 change := by
          rw [ih, shifts_xor, hlast]
          ac_rfl
      _ = shifts (8 * (count + 1)) (shifts 8 change) ^^^ shifts 8 change := by
          rw [UInt32.xor_self, UInt32.xor_zero]

/-- Only the empty register comes back after eight shifts. -/
theorem eq_zero_of_shifts_eight {a : UInt32} (h : shifts 8 a = a) : a = 0 := by
  apply Decidable.byContradiction
  intro ha
  have hdvd := (shifts_eq_self_iff ha 8).mp h
  exact absurd (Nat.le_of_dvd (by decide) hdvd) (by decide)

/-- **Different bytes meet again only after multiples of the `period`.** -/
theorem apart_eq_zero_iff (change : UInt32) (count : Nat) :
    apart change count = 0 ↔ change = 0 ∨ period ∣ count := by
  have htelescope := shifts_apart_xor change count
  have hempty : shifts 8 change = 0 ↔ change = 0 := by
    constructor
    · intro h
      exact shifts_injective 8 (h.trans (shifts_zero 8).symm)
    · rintro rfl
      exact shifts_zero 8
  -- both sides say that the change comes back after as many bytes
  have hback : apart change count = 0 ↔ shifts (8 * count) (shifts 8 change) = shifts 8 change := by
    rw [← UInt32.xor_eq_zero_iff (a := shifts (8 * count) _), ← htelescope, UInt32.xor_eq_zero_iff]
    constructor
    · intro h
      rw [h, shifts_zero]
    · exact eq_zero_of_shifts_eight
  rw [hback]
  by_cases hchange : change = 0
  · rw [hempty.mpr hchange, shifts_zero]
    exact ⟨fun _ => .inl hchange, fun _ => rfl⟩
  · have hcoprime : Nat.Coprime period 8 := by decide
    rw [shifts_eq_self_iff (fun h => hchange (hempty.mp h)), hcoprime.dvd_mul_left]
    exact (or_iff_right hchange).symm

/-- **The checksum of the first byte tells first bytes apart, and nothing else**, unless the `period` divides the length
of the strings. -/
theorem firstByte_eq_iff {a b : Bytes} (hlength : a.length = b.length) (register : UInt32) :
    firstByte register a = firstByte register b ↔ a.head? = b.head? ∨ period ∣ a.length := by
  cases a with
  | nil =>
    obtain rfl : b = [] := List.eq_nil_of_length_eq_zero hlength.symm
    exact ⟨fun _ => .inl rfl, fun _ => rfl⟩
  | cons first rest =>
    cases b with
    | nil => cases hlength
    | cons other others =>
      have hbyte : first.toUInt32 ^^^ other.toUInt32 = 0 ↔ first = other := by
        rw [UInt32.xor_eq_zero_iff, ← UInt32.toNat_inj, ← UInt8.toNat_inj]
        rfl
      rw [List.head?_cons, List.head?_cons, Option.some_inj, ← hbyte, ← apart_eq_zero_iff,
        ← repeat_fold_xor first other register, UInt32.xor_eq_zero_iff, firstByte, firstByte, hlength]

end Checksum

theorem Bytes.head?_slice {bytes : Bytes} {offset n : Nat} (hpos : 0 < n) (hfit : offset + n ≤ bytes.length) :
    (bytes.slice offset n).head? = some (bytes.getD offset 0) := by
  have hbyte := getD_slice bytes offset n 0
  have hlength : (bytes.slice offset n).length = n := length_slice_of_le hfit
  rw [if_pos hpos, Nat.add_zero] at hbyte
  rw [← hbyte, List.head?_eq_getElem?, List.getElem?_eq_getElem (by omega), List.getD_eq_getElem?_getD,
    List.getElem?_eq_getElem (by omega), Option.getD_some]

namespace Device

/-- A device whose records have a checksum of their first byte, and other bytes that do not differ but in
the payload of one record. -/
structure Retouched (device : Device) (other : Bytes) (hit : Nat) : Prop
    extends device.bytes.SameBeside other (device.recordStart hit) device.layout.blockSize where
  algorithm : device.layout.algorithm = .firstByte
  trailer : device.layout.trailer = Checksum.size
  blockSize_pos : 0 < device.layout.blockSize
  blockSize_lt : device.layout.blockSize < Checksum.period

namespace Retouched

variable {device : Device} {other : Bytes} {hit : Nat} (h : device.Retouched other hit)

include h

theorem altered : device.Altered other hit (device.recordStart hit) device.layout.blockSize where
  toSameBeside := h.toSameBeside
  trailer := h.trailer
  start_le := Nat.le_refl _
  le_end := Nat.add_le_add_left (Nat.le_add_right _ _) _

/-- **Every other record is as before**, the next one included: its checksum starts from a trailer. -/
theorem record_of_ne {number : Nat} (hne : number ≠ hit) :
    (device.withBytes other).record number = device.record number := by
  by_cases hnext : number = hit + 1
  · rw [hnext]
    exact h.altered.record_next_eq (.inr (h.slice_eq (.inr (Nat.le_refl _))))
  · exact h.altered.record_of_ne hne hnext

/-- **A record whose first byte has changed is found to be wrong, and no other is**: with the same first byte
the record gives the other payload. -/
theorem record_hit {payload : Bytes} (hdata : device.record hit = .data payload) :
    ∃ stored computed, (device.withBytes other).record hit
      = if other.getD (device.recordStart hit) 0 = device.bytes.getD (device.recordStart hit) 0 then
          .data (other.slice (device.recordStart hit) device.layout.blockSize)
        else
          .mismatch (other.slice (device.recordStart hit) device.layout.blockSize) stored computed := by
  have hchecked : device.layout.algorithm ≠ .none := by
    rw [h.algorithm]
    exact fun heq => (nomatch heq)
  have hwhole := whole_of_data hchecked hdata
  have hlong : device.recordStart hit + device.layout.blockSize ≤ device.bytes.length := by
    rw [h.altered.recordSize_eq] at hwhole
    omega
  have hstored : other.field (device.recordStart hit + device.layout.blockSize) Checksum.size
      = device.bytes.field (device.recordStart hit + device.layout.blockSize) Checksum.size :=
    congrArg Bytes.toNat (h.slice_eq (.inr (Nat.le_refl _)))
  have hseed : (device.withBytes other).seed hit = device.seed hit :=
    h.altered.seed_eq (.inr (.inl (Nat.le_refl hit)))
  have hright : Checksum.firstByte (device.seed hit)
        (device.bytes.slice (device.recordStart hit) device.layout.blockSize)
      = UInt32.ofNat
        (device.bytes.field (device.recordStart hit + device.layout.blockSize) Checksum.size) := by
    rw [record_of_whole hchecked hwhole, h.algorithm] at hdata
    split at hdata
    · next hsame => exact hsame
    · cases hdata
  have hiff : Checksum.firstByte (device.seed hit)
        (other.slice (device.recordStart hit) device.layout.blockSize)
      = Checksum.firstByte (device.seed hit)
        (device.bytes.slice (device.recordStart hit) device.layout.blockSize)
      ↔ other.getD (device.recordStart hit) 0 = device.bytes.getD (device.recordStart hit) 0 := by
    have hlength : (device.bytes.slice (device.recordStart hit) device.layout.blockSize).length
        = device.layout.blockSize :=
      Bytes.length_slice_of_le hlong
    have hother : (other.slice (device.recordStart hit) device.layout.blockSize).length
        = device.layout.blockSize :=
      Bytes.length_slice_of_le (by rw [h.length_eq]; exact hlong)
    have hshort : ¬ Checksum.period ∣ device.layout.blockSize :=
      Nat.not_dvd_of_pos_of_lt h.blockSize_pos h.blockSize_lt
    rw [Checksum.firstByte_eq_iff (hother.trans hlength.symm), hother, or_iff_left hshort,
      Bytes.head?_slice h.blockSize_pos (by rw [h.length_eq]; exact hlong),
      Bytes.head?_slice h.blockSize_pos hlong, Option.some_inj]
  have hotherChecked : (device.withBytes other).layout.algorithm ≠ .none := hchecked
  have hotherWhole : (device.withBytes other).recordStart hit + (device.withBytes other).layout.recordSize
      ≤ (device.withBytes other).bytes.length := by
    show _ ≤ other.length
    rw [h.length_eq]
    exact hwhole
  -- the checksum was right, so it is right just if it is the same
  refine ⟨_, _, (record_of_whole hotherChecked hotherWhole).trans (if_congr ?_ rfl rfl)⟩
  show device.layout.algorithm.compute ((device.withBytes other).seed hit)
      (other.slice (device.recordStart hit) device.layout.blockSize)
    = UInt32.ofNat (other.field (device.recordStart hit + device.layout.blockSize) Checksum.size) ↔ _
  rw [hseed, hstored, h.algorithm, ← hright]
  exact hiff

end Retouched

end Device

end PartitionImage
