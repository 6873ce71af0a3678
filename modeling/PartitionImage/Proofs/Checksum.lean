import PartitionImage.Checksum
/-!
# The register of a checksum

The register is linear in what was in it and in what comes in, and loses nothing: two registers stay
different over the same bytes, and so do two strings of at most four bytes in the same register.

* `Checksum.shift_xor` and `Checksum.shift_injective` are one bit, `Checksum.fold_eq_shifts` is one byte:
  the table holds eight bits of it.
* `Checksum.crc32_eq_shifts` takes up to four bytes in at once.
* `Checksum.crc32_seed_injective` and `Checksum.crc32_window_injective` say that nothing is lost.
* `Checksum.crc32_eq_zero_iff` says that a string with its checksum after it leaves nothing in the
  register.
-/

namespace PartitionImage

namespace Bytes

theorem toNat_inj {a b : Bytes} (hlength : a.length = b.length) (h : toNat a = toNat b) : a = b := by
  induction a generalizing b with
  | nil => exact (List.eq_nil_of_length_eq_zero hlength.symm).symm
  | cons first rest ih =>
    cases b with
    | nil => cases hlength
    | cons other others =>
      have hfirst := first.toNat_lt
      have hother := other.toNat_lt
      rw [toNat, toNat] at h
      have hbyte : first = other := UInt8.toNat_inj.mp (by omega)
      rw [hbyte, ih (Nat.succ.inj hlength) (by omega)]

theorem capacity_mono {m n : Nat} (h : m ≤ n) : capacity m ≤ capacity n := by
  induction h with
  | refl => exact Nat.le_refl _
  | step _ ih =>
    rw [capacity]
    omega

theorem ofNat_toNat_inj {a b : Bytes} (hlength : a.length = b.length) (hwidth : a.length ≤ 4)
    (h : UInt32.ofNat (toNat a) = UInt32.ofNat (toNat b)) : a = b := by
  have hroom : ∀ bytes : Bytes, bytes.length ≤ 4 → toNat bytes < 2 ^ 32 := by
    intro bytes hbytes
    show toNat bytes < capacity 4
    exact Nat.lt_of_lt_of_le (toNat_lt bytes) (capacity_mono hbytes)
  have hnumbers := congrArg UInt32.toNat h
  rw [UInt32.toNat_ofNat', UInt32.toNat_ofNat', Nat.mod_eq_of_lt (hroom a hwidth),
    Nat.mod_eq_of_lt (hroom b (hlength ▸ hwidth))] at hnumbers
  exact toNat_inj hlength hnumbers

end Bytes

namespace Checksum

/-! ### One bit -/

theorem and_one_eq_one_iff (x : UInt32) : x &&& 1 = 1 ↔ x.toNat % 2 = 1 := by
  rw [← UInt32.toNat_inj, UInt32.toNat_and, ← Nat.and_one_is_mod]
  rfl

theorem toNat_half (x : UInt32) : (x >>> 1).toNat = x.toNat / 2 := by
  rw [UInt32.toNat_shiftRight]
  exact Nat.shiftRight_eq_div_pow x.toNat 1

/-- **A step is linear**: `shift (a ^^^ b) = shift a ^^^ shift b`. -/
theorem shift_xor (a b : UInt32) : shift (a ^^^ b) = shift a ^^^ shift b := by
  unfold shift
  simp only [and_one_eq_one_iff, UInt32.toNat_xor, Nat.xor_mod_two_eq_one, UInt32.shiftRight_xor]
  by_cases ha : a.toNat % 2 = 1
  · by_cases hb : b.toNat % 2 = 1
    · -- the polynomial comes in twice
      rw [if_neg (fun h => h ⟨fun _ => hb, fun _ => ha⟩), if_pos ha, if_pos hb]
      have hcancel : a >>> 1 ^^^ polynomial ^^^ (b >>> 1 ^^^ polynomial)
          = a >>> 1 ^^^ b >>> 1 ^^^ (polynomial ^^^ polynomial) := by ac_rfl
      rw [hcancel, UInt32.xor_self, UInt32.xor_zero]
    · rw [if_pos (fun h => hb (h.mp ha)), if_pos ha, if_neg hb]
      ac_rfl
  · by_cases hb : b.toNat % 2 = 1
    · rw [if_pos (fun h => ha (h.mpr hb)), if_neg ha, if_pos hb]
      ac_rfl
    · rw [if_neg (fun h => h ⟨fun h => absurd h ha, fun h => absurd h hb⟩), if_neg ha, if_neg hb]

@[simp] theorem shift_zero : shift 0 = 0 := by decide

/-- Only an empty register is empty after a step: the highest bit of the polynomial is set. -/
theorem eq_zero_of_shift {x : UInt32} (h : shift x = 0) : x = 0 := by
  rw [← UInt32.toNat_inj]
  have hlt := x.toNat_lt
  unfold shift at h
  simp only [and_one_eq_one_iff] at h
  split at h
  · next hodd =>
    have hhalf := congrArg UInt32.toNat (UInt32.xor_eq_zero_iff.mp h)
    rw [toNat_half] at hhalf
    have hpolynomial : polynomial.toNat = 0xEDB88320 := rfl
    omega
  · next heven =>
    have hhalf := congrArg UInt32.toNat h
    rw [toNat_half] at hhalf
    have hzero : (0 : UInt32).toNat = 0 := rfl
    omega

/-- **A step loses nothing.** -/
theorem shift_injective {a b : UInt32} (h : shift a = shift b) : a = b := by
  apply UInt32.xor_eq_zero_iff.mp
  apply eq_zero_of_shift
  rw [shift_xor, h, UInt32.xor_self]

/-! ### Many bits -/

theorem shifts_succ (count : Nat) (x : UInt32) : shifts (count + 1) x = shift (shifts count x) := rfl

@[simp] theorem shifts_zero (count : Nat) : shifts count 0 = 0 := by
  induction count with
  | zero => rfl
  | succ count ih => rw [shifts_succ, ih, shift_zero]

theorem shifts_add (m n : Nat) (x : UInt32) : shifts (m + n) x = shifts m (shifts n x) := by
  induction m with
  | zero => rw [Nat.zero_add]; rfl
  | succ m ih => rw [Nat.succ_add, shifts_succ, shifts_succ, ih]

theorem shifts_xor (count : Nat) (a b : UInt32) :
    shifts count (a ^^^ b) = shifts count a ^^^ shifts count b := by
  induction count with
  | zero => rfl
  | succ count ih => rw [shifts_succ, ih, shift_xor, shifts_succ, shifts_succ]

theorem shifts_injective (count : Nat) {a b : UInt32} (h : shifts count a = shifts count b) :
    a = b := by
  induction count with
  | zero => exact h
  | succ count ih => exact ih (shift_injective h)

/-- Shifts of a register whose low bits are clear only move it down. -/
theorem shifts_shiftLeft (count : Nat) {n : Nat} (h : n <<< count < UInt32.size) :
    shifts count (UInt32.ofNat (n <<< count)) = UInt32.ofNat n := by
  induction count generalizing n with
  | zero => rfl
  | succ count ih =>
    rw [Nat.shiftLeft_succ_inside] at h ⊢
    have hfit : 2 * n < UInt32.size := Nat.lt_of_le_of_lt Nat.le_shiftLeft h
    have hsize : UInt32.size = 0x100000000 := rfl
    have heven : ¬ UInt32.ofNat (2 * n) &&& 1 = 1 := by
      rw [and_one_eq_one_iff, UInt32.toNat_ofNat']
      omega
    rw [shifts_succ, ih h, shift, if_neg heven, ← UInt32.toNat_inj, toNat_half,
      UInt32.toNat_ofNat', UInt32.toNat_ofNat']
    omega

/-- Eight of them move down by a byte. -/
theorem shifts_eight {n : Nat} (h : 256 * n < UInt32.size) :
    shifts 8 (UInt32.ofNat (256 * n)) = UInt32.ofNat n := by
  have hmoved : n <<< 8 = 256 * n := by rw [Nat.shiftLeft_eq, Nat.mul_comm]
  rw [← hmoved] at h ⊢
  exact shifts_shiftLeft 8 h

/-! ### Bytes -/

/-- Bits above a byte, and the byte: `256 * high ^^^ low = 256 * high + low`. -/
theorem xor_eq_add {low : Nat} (h : low < 256) (high : Nat) :
    (256 * high) ^^^ low = 256 * high + low := by
  have hpower : (256 : Nat) = 2 ^ 8 := rfl
  rw [hpower] at h ⊢
  apply Nat.eq_of_testBit_eq
  intro i
  rw [Nat.testBit_xor, Nat.testBit_two_pow_mul, Nat.testBit_two_pow_mul_add high h]
  by_cases hi : i < 8
  · rw [if_pos hi, decide_eq_false (by omega), Bool.false_and, Bool.false_xor]
  · have hlow : low.testBit i = false :=
      Nat.testBit_lt_two_pow (Nat.lt_of_lt_of_le h (Nat.pow_le_pow_right (by decide) (by omega)))
    rw [if_neg hi, hlow, decide_eq_true (by omega), Bool.true_and, Bool.xor_false]

/-- The same in a register. -/
theorem ofNat_xor_ofNat {low : Nat} (h : low < 256) (high : Nat) :
    UInt32.ofNat (256 * high) ^^^ UInt32.ofNat low = UInt32.ofNat (256 * high + low) := by
  rw [← UInt32.ofNat_xor, xor_eq_add h]

theorem table_get (i : Fin 256) : table.get i = shifts 8 (UInt32.ofNat i.val) := by
  show table[i.val] = _
  rw [table, Vector.getElem_ofFn]

/-- **A byte by table is eight bits**: those of the low byte are in the table, and the others only move down. -/
theorem fold_eq_shifts (register : UInt32) (byte : UInt8) :
    fold register byte = shifts 8 (register ^^^ byte.toUInt32) := by
  have hhigh : register >>> 8 = (register ^^^ byte.toUInt32) >>> 8 := by
    have hbyte : byte.toUInt32 >>> 8 = 0 := by
      have hlt := byte.toNat_lt
      rw [← UInt32.toNat_inj, UInt32.toNat_shiftRight, UInt8.toNat_toUInt32]
      show byte.toNat >>> 8 = 0
      rw [Nat.shiftRight_eq_div_pow]
      omega
    rw [UInt32.shiftRight_xor, hbyte, UInt32.xor_zero]
  rw [fold, hhigh, table_get]
  generalize register ^^^ byte.toUInt32 = both
  have hlt := both.toNat_lt
  have hsplit : both
      = UInt32.ofNat (256 * (both.toNat / 256)) ^^^ UInt32.ofNat (both.toNat % 256) := by
    rw [ofNat_xor_ofNat (Nat.mod_lt _ (by decide)), ← UInt32.toNat_inj, UInt32.toNat_ofNat']
    omega
  have hdown : both >>> 8 = UInt32.ofNat (both.toNat / 256) := by
    rw [← UInt32.toNat_inj, UInt32.toNat_shiftRight, UInt32.toNat_ofNat']
    show both.toNat >>> 8 = _
    rw [Nat.shiftRight_eq_div_pow]
    omega
  have hmoved : shifts 8 (UInt32.ofNat (256 * (both.toNat / 256)))
      = UInt32.ofNat (both.toNat / 256) :=
    shifts_eight (Nat.lt_of_le_of_lt (Nat.mul_div_le both.toNat 256) hlt)
  conv => rhs; rw [hsplit]
  rw [shifts_xor, hmoved, hdown]
  rfl

theorem fold_injective {a b : UInt32} {byte : UInt8} (h : fold a byte = fold b byte) : a = b := by
  rw [fold_eq_shifts, fold_eq_shifts] at h
  exact (UInt32.xor_left_inj _).mp (shifts_injective 8 h)

theorem crc32_cons (register : UInt32) (byte : UInt8) (bytes : Bytes) :
    crc32 register (byte :: bytes) = crc32 (fold register byte) bytes := rfl

/-- **Two registers stay different over the same bytes.** -/
theorem crc32_seed_injective {a b : UInt32} (bytes : Bytes) (h : crc32 a bytes = crc32 b bytes) :
    a = b := by
  induction bytes generalizing a b with
  | nil => exact h
  | cons byte bytes ih => exact fold_injective (ih h)

/-- **Up to four bytes come in at once**, since so many have room in the register. -/
theorem crc32_eq_shifts (register : UInt32) {bytes : Bytes} (h : bytes.length ≤ 4) :
    crc32 register bytes = shifts (8 * bytes.length) (register ^^^ UInt32.ofNat (Bytes.toNat bytes)) := by
  induction bytes generalizing register with
  | nil =>
    show register = register ^^^ 0
    rw [UInt32.xor_zero]
  | cons byte bytes ih =>
    rw [List.length_cons] at h
    have hroom : 256 * Bytes.toNat bytes < UInt32.size := by
      have hlt := Bytes.toNat_lt bytes
      have hle : Bytes.capacity bytes.length ≤ Bytes.capacity 3 := Bytes.capacity_mono (by omega)
      have hthree : 256 * Bytes.capacity 3 = UInt32.size := rfl
      omega
    -- what comes in after the byte comes in above it
    have hlater : UInt32.ofNat (Bytes.toNat bytes)
        = shifts 8 (UInt32.ofNat (256 * Bytes.toNat bytes)) := (shifts_eight hroom).symm
    have hboth : byte.toUInt32 ^^^ UInt32.ofNat (256 * Bytes.toNat bytes)
        = UInt32.ofNat (Bytes.toNat (byte :: bytes)) := by
      have hbyte : byte.toUInt32 = UInt32.ofNat byte.toNat := by
        rw [← UInt8.toNat_toUInt32, UInt32.ofNat_toNat]
      rw [hbyte, UInt32.xor_comm, ofNat_xor_ofNat byte.toNat_lt, Bytes.toNat, Nat.add_comm]
    rw [crc32_cons, ih _ (by omega), fold_eq_shifts, hlater, ← shifts_xor, ← shifts_add,
      UInt32.xor_assoc, hboth, List.length_cons, Nat.mul_succ]

/-- **Two strings of at most four bytes stay different in the same register.** -/
theorem crc32_window_injective {register : UInt32} {a b : Bytes} (hlength : a.length = b.length)
    (hwidth : a.length ≤ 4) (h : crc32 register a = crc32 register b) : a = b := by
  rw [crc32_eq_shifts register hwidth, crc32_eq_shifts register (hlength ▸ hwidth), hlength] at h
  exact Bytes.ofNat_toNat_inj hlength hwidth
    ((UInt32.xor_right_inj register).mp (shifts_injective _ h))

/-- **A string with its own checksum after it leaves nothing in the register**, and with no other. -/
theorem crc32_eq_zero_iff (register : UInt32) (bytes : Bytes) {trailer : Bytes}
    (h : trailer.length = size) :
    crc32 register (bytes ++ trailer) = 0
      ↔ crc32 register bytes = UInt32.ofNat (Bytes.toNat trailer) := by
  rw [crc32_append, crc32_eq_shifts _ (Nat.le_of_eq h)]
  constructor
  · intro hzero
    apply UInt32.xor_eq_zero_iff.mp
    exact shifts_injective _ (hzero.trans (shifts_zero _).symm)
  · intro heq
    rw [heq, UInt32.xor_self, shifts_zero]

end Checksum

end PartitionImage
