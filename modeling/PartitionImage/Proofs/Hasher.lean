import Mathlib.Data.Fintype.EquivFin
import PartitionImage.Proofs.Period
/-!
# Hashers

CRC-32 is standardised bit by bit, over a register that is inverted before and after, and libraries compute
it in pieces: a hasher starts from the CRC-32 of what came before, takes in a string and gives the CRC-32 of
both.  Whoever undoes the two inversions of a hasher that keeps to the standard has the register of
`Checksum.crc32`, whatever the hasher does in between.

* `Bytes.bits` is a string in the order in which its bits are sent, `Checksum.feed` takes in one of them;
  `Checksum.foldl_feed_bits` says that bits make of a register what bytes make of it by table.
* `Checksum.standard` is the CRC-32 of a string, and `Checksum.Hasher.Standard` says that a hasher computes
  it.  `Checksum.Hasher.ofTable` is one that does.
* `Checksum.Hasher.register` undoes the inversions; `Checksum.Hasher.Standard.register_eq` says what is left.
* `Checksum.register_laws` are the laws of that register.
-/

namespace PartitionImage

/-- The bits of a string in the order in which they are sent: byte by byte, the lowest bit of each first. -/
def Bytes.bits (bytes : Bytes) : List Bool :=
  bytes.flatMap fun byte => (List.range 8).map byte.toNat.testBit

namespace Checksum

/-! ### Bit by bit -/

/-- One bit of a message comes in.  The polynomial is added if the bit differs from the one that leaves the
register at the low end. -/
def feed (register : UInt32) (bit : Bool) : UInt32 :=
  if register.toNat.testBit 0 != bit then (register >>> 1) ^^^ polynomial else register >>> 1

/-- The CRC-32 of a string, continued from the CRC-32 of what came before it: `initial` is 0 if nothing did.  The
register is inverted before and after. -/
def standard (initial : UInt32) (bytes : Bytes) : UInt32 := ~~~ bytes.bits.foldl feed (~~~ initial)

def digits : Bytes := [0x31, 0x32, 0x33, 0x34, 0x35, 0x36, 0x37, 0x38, 0x39]

example : standard 0 digits = 0xCBF43926 := by decide +kernel

/-- A bit that comes in is added to the low end of the register before a step. -/
theorem feed_eq_shift (register : UInt32) (bit : Bool) :
    feed register bit = shift (register ^^^ bit.toUInt32) := by
  have hlow : (bit.toUInt32).toNat = bit.toNat := by cases bit <;> rfl
  have hgone : bit.toUInt32 >>> 1 = 0 := by cases bit <;> rfl
  have hiff : (register ^^^ bit.toUInt32) &&& 1 = 1 ↔ (register.toNat.testBit 0 != bit) = true := by
    rw [and_one_eq_one_iff, UInt32.toNat_xor, Nat.xor_mod_two_eq_one, hlow, Nat.testBit_zero]
    cases bit <;> simp
  rw [feed, shift, UInt32.shiftRight_xor, hgone, UInt32.xor_zero]
  exact if_congr hiff.symm rfl rfl

/-- **The lowest bits of a number come in** as if all of them had been added before the first step. -/
theorem foldl_feed_range (register : UInt32) (n : Nat) {count : Nat} (h : count ≤ 32) :
    ((List.range count).map n.testBit).foldl feed register
      = shifts count (register ^^^ UInt32.ofNat (n % 2 ^ count)) := by
  induction count with
  | zero =>
    rw [Nat.pow_zero, Nat.mod_one]
    exact (UInt32.xor_zero).symm
  | succ count ih =>
    -- the newest bit, moved back to where it stands in the number
    have hnewest : (n.testBit count).toUInt32
        = shifts count (if n.testBit count then UInt32.ofNat (2 ^ count) else 0) := by
      cases n.testBit count with
      | false => exact (shifts_zero count).symm
      | true =>
        have hdown := shifts_two_pow count (show 0 + count < 32 by omega)
        rw [Nat.zero_add] at hdown
        exact hdown.symm
    calc ((List.range (count + 1)).map n.testBit).foldl feed register
        = feed (((List.range count).map n.testBit).foldl feed register) (n.testBit count) := by
          rw [List.range_succ, List.map_append, List.foldl_append]
          rfl
      _ = shift (shifts count (register ^^^ UInt32.ofNat (n % 2 ^ count))
            ^^^ (n.testBit count).toUInt32) := by
          rw [ih (Nat.le_of_succ_le h), feed_eq_shift]
      _ = shifts (count + 1) (register ^^^ UInt32.ofNat (n % 2 ^ count)
            ^^^ if n.testBit count then UInt32.ofNat (2 ^ count) else 0) := by
          rw [hnewest, ← shifts_xor, ← shifts_succ]
      _ = shifts (count + 1) (register ^^^ UInt32.ofNat (n % 2 ^ (count + 1))) := by
          rw [UInt32.xor_assoc, UInt32.xor_comm (UInt32.ofNat _), ofNat_mod_two_pow_succ]

/-- **Bits make of a register what bytes make of it by table.** -/
theorem foldl_feed_bits (register : UInt32) (bytes : Bytes) :
    bytes.bits.foldl feed register = crc32 register bytes := by
  have hbyte : ∀ (register : UInt32) (byte : UInt8),
      ((List.range 8).map byte.toNat.testBit).foldl feed register = fold register byte := by
    intro register byte
    have hlow : UInt32.ofNat (byte.toNat % 2 ^ 8) = byte.toUInt32 := by
      rw [Nat.mod_eq_of_lt byte.toNat_lt, ← UInt8.toNat_toUInt32, UInt32.ofNat_toNat]
    rw [foldl_feed_range register _ (by decide), hlow, fold_eq_shifts]
  rw [Bytes.bits, List.foldl_flatMap, crc32]
  simp only [hbyte]

theorem standard_eq (initial : UInt32) (bytes : Bytes) :
    standard initial bytes = ~~~ crc32 (~~~ initial) bytes := by
  rw [standard, foldl_feed_bits]

/-! ### Hashers -/

structure Hasher (State : Type) where
  start : (initial : UInt32) → State
  update : State → Bytes → State
  finish : State → UInt32

namespace Hasher

variable {State : Type}

def checksum (hasher : Hasher State) (initial : UInt32) (bytes : Bytes) : UInt32 :=
  hasher.finish (hasher.update (hasher.start initial) bytes)

/-- A hasher computes the CRC-32 of every string, continued from every initial value. -/
def Standard (hasher : Hasher State) : Prop :=
  ∀ initial bytes, hasher.checksum initial bytes = standard initial bytes

/-- The register after a string.  The hasher inverts it before and after, and both are undone. -/
def register (hasher : Hasher State) (seed : UInt32) (bytes : Bytes) : UInt32 :=
  ~~~ hasher.checksum (~~~ seed) bytes

def ofTable : Hasher UInt32 where
  start initial := ~~~ initial
  update := crc32
  finish register := ~~~ register

theorem standard_ofTable : ofTable.Standard := fun initial bytes => (standard_eq initial bytes).symm

/-- **Whatever keeps to the standard has the same register.** -/
theorem Standard.register_eq {hasher : Hasher State} (h : hasher.Standard) :
    hasher.register = crc32 := by
  funext seed bytes
  rw [register, h, standard_eq, UInt32.not_not, UInt32.not_not]

end Hasher

/-! ### The laws of the register -/

/-- **No register is lost and none is missed**: over the same bytes, every register comes from one other. -/
theorem crc32_bijective (bytes : Bytes) : Function.Bijective fun seed => crc32 seed bytes := by
  have hfinite : Finite UInt32 := Finite.of_injective UInt32.toFin fun _ _ => UInt32.toFin_inj.mp
  apply Function.Injective.bijective_of_finite
  intro a b h
  exact crc32_seed_injective bytes h

/-- A string with a stored register after it leaves nothing just if it is the right one. -/
theorem crc32_append_ofNat_eq_zero_iff (seed stored : UInt32) (bytes : Bytes) :
    crc32 seed (bytes ++ Bytes.ofNat size stored.toNat) = 0 ↔ stored = crc32 seed bytes := by
  have hback : UInt32.ofNat (Bytes.toNat (Bytes.ofNat size stored.toNat)) = stored := by
    have hroom : stored.toNat < Bytes.capacity size := stored.toNat_lt
    rw [Bytes.toNat_ofNat, Nat.mod_eq_of_lt hroom, UInt32.ofNat_toNat]
  rw [crc32_eq_zero_iff seed bytes (Bytes.length_ofNat _ _), hback]
  exact eq_comm

/-- The checksum of the first byte is that of a string of the same length with no other byte in it. -/
theorem firstByte_cons (seed : UInt32) (first : UInt8) (rest : Bytes) :
    firstByte seed (first :: rest) = crc32 seed (List.replicate (first :: rest).length first) := by
  rw [firstByte]
  generalize (first :: rest).length = count
  induction count with
  | zero => rfl
  | succ count ih =>
    rw [Nat.repeat, ih, List.replicate_succ', crc32_append]
    rfl

/-- **The laws of the register**, as every hasher that keeps to the standard gives it.  A step by table is
eight steps of a bit, strings may be taken in one part after the other, no register is lost or missed, a
string with a register after it leaves nothing just if that is its own, and the checksum of the first byte is
that of as many such bytes. -/
theorem register_laws {State : Type} (hasher : Hasher State) (h : hasher.Standard) :
    (∀ (register : UInt32) (byte : UInt8), fold register byte = shifts 8 (register ^^^ byte.toUInt32))
      ∧ hasher.register = crc32
      ∧ (∀ (seed : UInt32) (a b : Bytes),
        hasher.register seed (a ++ b) = hasher.register (hasher.register seed a) b)
      ∧ (∀ bytes : Bytes, Function.Bijective fun seed => hasher.register seed bytes)
      ∧ (∀ (seed stored : UInt32) (bytes : Bytes),
        hasher.register seed (bytes ++ Bytes.ofNat size stored.toNat) = 0
          ↔ stored = hasher.register seed bytes)
      ∧ (∀ (seed : UInt32) (first : UInt8) (rest : Bytes),
        firstByte seed (first :: rest)
          = hasher.register seed (List.replicate (first :: rest).length first))
      ∧ ∀ seed : UInt32, firstByte seed [] = seed := by
  rw [h.register_eq]
  exact ⟨fold_eq_shifts, rfl, crc32_append, crc32_bijective, crc32_append_ofNat_eq_zero_iff, firstByte_cons,
    fun _ => rfl⟩

/-- The register of `digits` is the complement of the published checksum `0xCBF43926`.  It is the same in two parts, and
stored after the digits it leaves nothing, as no other does. -/
theorem register_laws_digits :
    Hasher.ofTable.Standard
      ∧ Hasher.ofTable.register seed digits = ~~~ 0xCBF43926
      ∧ Hasher.ofTable.register (Hasher.ofTable.register seed (digits.take 4)) (digits.drop 4)
        = ~~~ 0xCBF43926
      ∧ (Function.Bijective fun seed => Hasher.ofTable.register seed digits)
      ∧ (∀ stored : UInt32, Hasher.ofTable.register seed (digits ++ Bytes.ofNat size stored.toNat) = 0
        ↔ stored = ~~~ 0xCBF43926)
      ∧ firstByte seed digits = Hasher.ofTable.register seed (List.replicate 9 0x31)
      ∧ firstByte seed [] = seed := by
  obtain ⟨-, hcrc, happend, hbijective, hzero, hfirst, hnil⟩ :=
    register_laws Hasher.ofTable Hasher.standard_ofTable
  have hcheck : Hasher.ofTable.register seed digits = ~~~ 0xCBF43926 := by
    rw [hcrc]
    decide +kernel
  refine ⟨Hasher.standard_ofTable, hcheck, ?_, hbijective digits, fun stored => ?_, hfirst seed 0x31 _,
    hnil seed⟩
  · rw [← happend, List.take_append_drop]
    exact hcheck
  · rw [hzero, hcheck]

end Checksum

end PartitionImage
