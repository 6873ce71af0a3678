import Mathlib.Data.List.Prime
import Mathlib.Dynamics.PeriodicPts.Lemmas
import Mathlib.Tactic.NormNum.Prime
import PartitionImage.Proofs.Checksum
/-!
# The period of the register

Registers are polynomials over the field of two elements, modulo the polynomial of the checksum, and a step
multiplies by the indeterminate.  A register that is not empty comes back after `2 ^ 32 - 1` steps and their
multiples, and never in between: the polynomial is primitive.

* `Checksum.times` multiplies two registers, `Checksum.one` is the unit; `Checksum.Linear.eq_times` says
  that whatever is linear and commutes with a step is a multiplication.
* `Checksum.power` is the register after many steps, by squaring; `Checksum.power_eq` says that it is.
* `Checksum.cofactors` are the primes of the period, each with a certificate that a step does not have the
  period without it.
* `Checksum.shifts_eq_self_iff` is the result.
-/

namespace PartitionImage.Checksum

/-! ### Multiplication -/

/-- The register of the polynomial 1, whose coefficient is in the highest bit: `2^31`. -/
def one : UInt32 := 0x80000000

/-- The product of `b` and the part of `a` in its lowest `bits` bits, if the highest of them stands for 1. -/
def timesFrom : (bits : Nat) → (a b : UInt32) → UInt32
  | 0, _, _ => 0
  | bits + 1, a, b => (if a.toNat.testBit bits then b else 0) ^^^ timesFrom bits a (shift b)

def times (a b : UInt32) : UInt32 := timesFrom 32 a b

/-- A map of registers that is linear over polynomials. -/
structure Linear (f : UInt32 → UInt32) : Prop where
  map_xor : ∀ a b, f (a ^^^ b) = f a ^^^ f b
  map_shift : ∀ a, f (shift a) = shift (f a)

namespace Linear

variable {f : UInt32 → UInt32} (hf : Linear f)

include hf

theorem map_zero : f 0 = 0 := by
  have hsum := hf.map_xor 0 0
  rwa [UInt32.xor_self, UInt32.xor_self] at hsum

/-- The second factor of a product may be mapped instead of it. -/
theorem map_timesFrom (bits : Nat) (a b : UInt32) : f (timesFrom bits a b) = timesFrom bits a (f b) := by
  induction bits generalizing b with
  | zero => exact hf.map_zero
  | succ bits ih =>
    rw [timesFrom, timesFrom, hf.map_xor, ih, hf.map_shift, apply_ite f, hf.map_zero]

theorem map_times (a b : UInt32) : f (times a b) = times a (f b) := hf.map_timesFrom 32 a b

end Linear

theorem linear_shifts (count : Nat) : Linear (shifts count) where
  map_xor := shifts_xor count
  map_shift := by
    intro a
    show shifts count (shifts 1 a) = shifts 1 (shifts count a)
    rw [← shifts_add, ← shifts_add, Nat.add_comm]

theorem linear_timesFrom (bits : Nat) (a : UInt32) : Linear (timesFrom bits a) where
  map_xor := by
    intro b c
    induction bits generalizing b c with
    | zero => exact (UInt32.xor_self).symm
    | succ bits ih =>
      rw [timesFrom, timesFrom, timesFrom, shift_xor, ih]
      split
      · ac_rfl
      · rw [UInt32.zero_xor, UInt32.zero_xor, UInt32.zero_xor]
  map_shift := by
    intro b
    exact ((linear_shifts 1).map_timesFrom bits a b).symm

theorem linear_times (a : UInt32) : Linear (times a) := linear_timesFrom 32 a

theorem ofNat_mod_two_pow_succ (n bits : Nat) :
    (if n.testBit bits then UInt32.ofNat (2 ^ bits) else 0) ^^^ UInt32.ofNat (n % 2 ^ bits)
      = UInt32.ofNat (n % 2 ^ (bits + 1)) := by
  have hnumber : (if n.testBit bits then 2 ^ bits else 0) ^^^ (n % 2 ^ bits) = n % 2 ^ (bits + 1) := by
    apply Nat.eq_of_testBit_eq
    intro i
    rw [Nat.testBit_xor, Nat.testBit_mod_two_pow, Nat.testBit_mod_two_pow, apply_ite (Nat.testBit · i),
      Nat.testBit_two_pow, Nat.zero_testBit]
    rcases Nat.lt_trichotomy i bits with hlt | rfl | hgt
    · simp [hlt, Nat.lt_succ_of_lt hlt, Nat.ne_of_gt hlt]
    · simp
    · have hnot : ¬ i < bits := by omega
      have hneither : ¬ i < bits + 1 := by omega
      simp [hnot, hneither, Nat.ne_of_lt hgt]
  rw [← hnumber, UInt32.ofNat_xor, apply_ite UInt32.ofNat]
  rfl

theorem shifts_two_pow (count : Nat) {bits : Nat} (h : bits + count < 32) :
    shifts count (UInt32.ofNat (2 ^ (bits + count))) = UInt32.ofNat (2 ^ bits) := by
  have hroom : 2 ^ bits <<< count < UInt32.size := by
    rw [Nat.shiftLeft_eq, ← Nat.pow_add]
    exact Nat.pow_lt_pow_right (by decide) h
  have hmoved := shifts_shiftLeft count hroom
  rwa [Nat.shiftLeft_eq, ← Nat.pow_add] at hmoved

/-- The lowest bits of a register are made of the multiples of the highest of them. -/
theorem timesFrom_two_pow (a : UInt32) {bits : Nat} (h : bits < 32) :
    timesFrom (bits + 1) a (UInt32.ofNat (2 ^ bits)) = UInt32.ofNat (a.toNat % 2 ^ (bits + 1)) := by
  induction bits with
  | zero =>
    have hnone : timesFrom 0 a (shift (UInt32.ofNat (2 ^ 0))) = UInt32.ofNat (a.toNat % 2 ^ 0) := by
      rw [Nat.pow_zero, Nat.mod_one]
      rfl
    rw [timesFrom, hnone, ofNat_mod_two_pow_succ]
  | succ bits ih =>
    have hdown : shift (UInt32.ofNat (2 ^ (bits + 1))) = UInt32.ofNat (2 ^ bits) := shifts_two_pow 1 h
    rw [timesFrom, hdown, ih (by omega), ofNat_mod_two_pow_succ]

/-- **A product with 1 is the other factor.** -/
theorem times_one (a : UInt32) : times a one = a := by
  have hall : times a one = UInt32.ofNat (a.toNat % 2 ^ 32) := timesFrom_two_pow a (by decide)
  rw [hall, Nat.mod_eq_of_lt a.toNat_lt, UInt32.ofNat_toNat]

/-- **What is linear is a multiplication.** -/
theorem Linear.eq_times {f : UInt32 → UInt32} (hf : Linear f) (a : UInt32) : f a = times a (f one) := by
  have hone := hf.map_times a one
  rwa [times_one] at hone

theorem times_comm (a b : UInt32) : times a b = times b a := by
  have hproduct := (linear_times a).eq_times b
  rwa [times_one] at hproduct

theorem times_left_comm (a b c : UInt32) : times a (times b c) = times b (times a c) :=
  (linear_times a).map_times b c

/-- Steps multiply by what they make of 1. -/
theorem times_shifts_one (count : Nat) (a : UInt32) : times (shifts count one) a = shifts count a := by
  rw [times_comm]
  exact ((linear_shifts count).eq_times a).symm

/-! ### Powers -/

/-- What `n` steps make of 1, if `n` has at most `bits` bits. -/
def power : (bits n : Nat) → UInt32
  | 0, _ => one
  | bits + 1, n =>
    let half := power bits (n / 2)
    if n % 2 = 1 then shift (times half half) else times half half

theorem power_eq {bits n : Nat} (h : n < 2 ^ bits) : power bits n = shifts n one := by
  induction bits generalizing n with
  | zero =>
    rw [Nat.lt_one_iff.mp h]
    rfl
  | succ bits ih =>
    have hsquare : times (shifts (n / 2) one) (shifts (n / 2) one) = shifts (n / 2 + n / 2) one := by
      rw [times_shifts_one, shifts_add]
    rw [power, ih (by rw [Nat.pow_succ] at h; omega), hsquare]
    split
    · next hodd =>
      rw [← shifts_succ]
      congr 1
      omega
    · next heven =>
      congr 1
      omega

/-! ### The period -/

/-- The number of registers that are not empty, `2^32 - 1`. -/
def period : Nat := 0xFFFFFFFF

/-- The primes of the period, each with the inverse of what is left of 1 if 1 is taken off after as many
steps as there are in the period without it. -/
def cofactors : List (Nat × UInt32) :=
  [(3, 0xC736EB52), (5, 0x3D436701), (17, 0xE1A0922E), (257, 0x3C1C66B1), (65537, 0xD4E6C8CA)]

theorem prod_cofactors : (cofactors.map Prod.fst).prod = period := by decide

theorem prime_cofactors : ∀ cofactor ∈ cofactors, cofactor.1.Prime := by
  simp only [cofactors, List.forall_mem_cons, List.not_mem_nil, false_implies, implies_true, and_true]
  norm_num

theorem times_cofactors : ∀ cofactor ∈ cofactors,
    times cofactor.2 (power 32 (period / cofactor.1) ^^^ one) = one := by
  decide +kernel

/-- **Every register comes back after the period.** -/
theorem shifts_period (a : UInt32) : shifts period a = a := by
  have hone : power 32 period = one := by decide +kernel
  rw [power_eq (by decide)] at hone
  rw [← times_shifts_one, hone, times_comm, times_one]

/-- Where a difference to 1 has an inverse, only the empty register comes back. -/
theorem eq_zero_of_shifts {a inverse : UInt32} {count : Nat}
    (hinverse : times inverse (shifts count one ^^^ one) = one) (h : shifts count a = a) : a = 0 := by
  have hzero : times a (shifts count one ^^^ one) = 0 := by
    rw [(linear_times a).map_xor, times_one, ← (linear_shifts count).eq_times, h, UInt32.xor_self]
  calc a = times a one := (times_one a).symm
    _ = times a (times inverse (shifts count one ^^^ one)) := by rw [hinverse]
    _ = times inverse (times a (shifts count one ^^^ one)) := times_left_comm _ _ _
    _ = 0 := by rw [hzero, (linear_times inverse).map_zero]

theorem shifts_eq_iterate (count : Nat) (a : UInt32) : shifts count a = shift^[count] a := by
  induction count with
  | zero => rfl
  | succ count ih => rw [shifts_succ, ih, Function.iterate_succ_apply']

/-- A prime of the period is one of those that have a certificate. -/
theorem exists_cofactor {p : Nat} (hp : p.Prime) (hdvd : p ∣ period) :
    ∃ cofactor ∈ cofactors, cofactor.1 = p := by
  rw [← prod_cofactors] at hdvd
  obtain ⟨q, hq, hpq⟩ := (Prime.dvd_prod_iff hp.prime).mp hdvd
  obtain ⟨cofactor, hcofactor, rfl⟩ := List.mem_map.mp hq
  exact ⟨cofactor, hcofactor,
    ((Nat.prime_dvd_prime_iff_eq hp (prime_cofactors cofactor hcofactor)).mp hpq).symm⟩

/-- **The polynomial is primitive**: a register that is not empty goes through all of them. -/
theorem minimalPeriod_shift {a : UInt32} (ha : a ≠ 0) : Function.minimalPeriod shift a = period := by
  have hperiodic : Function.IsPeriodicPt shift period a := by
    show shift^[period] a = a
    rw [← shifts_eq_iterate, shifts_period]
  obtain ⟨rest, hrest⟩ := hperiodic.minimalPeriod_dvd
  by_cases hone : rest = 1
  · rw [hrest, hone, Nat.mul_one]
  · -- a prime would be left over, and the register would come back after the period without it
    obtain ⟨p, hp, left, rfl⟩ := Nat.exists_prime_and_dvd hone
    obtain ⟨cofactor, hcofactor, rfl⟩ := exists_cofactor hp
      ⟨Function.minimalPeriod shift a * left, by rw [hrest]; ac_rfl⟩
    have hquotient : period / cofactor.1 = Function.minimalPeriod shift a * left := by
      rw [hrest, Nat.mul_left_comm, Nat.mul_div_cancel_left _ hp.pos]
    have hreturn : shifts (period / cofactor.1) a = a := by
      rw [hquotient, shifts_eq_iterate]
      exact (Function.isPeriodicPt_minimalPeriod shift a).mul_const left
    have hinverse := times_cofactors cofactor hcofactor
    rw [power_eq (Nat.lt_of_le_of_lt (Nat.div_le_self _ _) (by decide))] at hinverse
    exact absurd (eq_zero_of_shifts hinverse hreturn) ha

/-- **A register that is not empty comes back after multiples of the period, and only then.** -/
theorem shifts_eq_self_iff {a : UInt32} (ha : a ≠ 0) (count : Nat) :
    shifts count a = a ↔ period ∣ count := by
  rw [shifts_eq_iterate, ← minimalPeriod_shift ha]
  exact Function.isPeriodicPt_iff_minimalPeriod_dvd

end PartitionImage.Checksum
