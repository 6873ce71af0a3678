/-!
# Byte strings

Images, change files and buffers are lists of bytes.  This module holds what is done to them
whatever they stand for.

* `Bytes.slice` and `Bytes.overwrite` read and replace a range; a range that starts past the end
  is read as empty and written over a gap of zeros, as a file does.
* `Bytes.ofNat` and `Bytes.toNat` are the little-endian encodings of a number.
* `checked64?` and `saturate64` bring a number into 64 bits: of an offset that does not fit there is none,
  a derived size saturates.
-/

namespace PartitionImage

abbrev Bytes := List UInt8

/-- `2^64`, the number of values of 64 bits. -/
abbrev range64 : Nat := 0x10000000000000000

/-- `n` if it is below `2^64`.  A sum or product of offsets that is not is an overflow, which ends the call
that computes it. -/
def checked64? (n : Nat) : Option Nat := if n < range64 then some n else none

/-- `n` cut off at `2^64 - 1`, as derived sizes are. -/
def saturate64 (n : Nat) : Nat := min n (range64 - 1)

@[simp] theorem checked64?_eq_some_iff {n m : Nat} : checked64? n = some m ↔ n < range64 ∧ n = m := by
  simp [checked64?]

@[simp] theorem checked64?_eq_none_iff {n : Nat} : checked64? n = none ↔ range64 ≤ n := by
  simp [checked64?]

theorem checked64?_of_lt {n : Nat} (h : n < range64) : checked64? n = some n := if_pos h

theorem checked64?_of_le {n : Nat} (h : range64 ≤ n) : checked64? n = none := if_neg (Nat.not_lt.mpr h)

theorem saturate64_of_lt {n : Nat} (h : n < range64) : saturate64 n = n := by
  unfold saturate64
  omega

namespace Bytes

/-! ### Ranges -/

/-- The `n` bytes at `offset`, fewer where the string ends before. -/
def slice (bytes : Bytes) (offset n : Nat) : Bytes := (bytes.drop offset).take n

/-- The string with `new` in place of what stood at `offset`.  Bytes past the end are appended,
after zeros if `offset` lies beyond it; writing nothing changes nothing. -/
def overwrite (bytes : Bytes) (offset : Nat) (new : Bytes) : Bytes :=
  if new.isEmpty then bytes
  else
    bytes.take offset ++ List.replicate (offset - bytes.length) 0 ++ new
      ++ bytes.drop (offset + new.length)

/-- The parts before and after position `n`; `none` if that lies past the end. -/
def splitAt? (bytes : Bytes) (n : Nat) : Option (Bytes × Bytes) :=
  if n ≤ bytes.length then some (bytes.take n, bytes.drop n) else none

/-- The string cut or extended with zeros to `n` bytes. -/
def resize (bytes : Bytes) (n : Nat) : Bytes :=
  bytes.take n ++ List.replicate (n - bytes.length) 0

theorem length_slice (bytes : Bytes) (offset n : Nat) :
    (bytes.slice offset n).length = min n (bytes.length - offset) := by
  simp [slice]

theorem length_resize (bytes : Bytes) (n : Nat) : (bytes.resize n).length = n := by
  simp only [resize, List.length_append, List.length_take, List.length_replicate]
  omega

/-- Strings of one length are equal if they have the same byte at every `i`. -/
theorem ext_getD {a b : Bytes} (hlen : a.length = b.length)
    (h : ∀ i, i < a.length → a.getD i 0 = b.getD i 0) : a = b := by
  refine List.ext_getElem hlen fun i ha hb => ?_
  have hi := h i ha
  rwa [List.getD_eq_getElem?_getD, List.getD_eq_getElem?_getD, List.getElem?_eq_getElem ha,
    List.getElem?_eq_getElem hb] at hi

theorem getD_take (bytes : Bytes) (n i : Nat) :
    (bytes.take n).getD i 0 = if i < n then bytes.getD i 0 else 0 := by
  rw [List.getD_eq_getElem?_getD, List.getElem?_take, List.getD_eq_getElem?_getD]
  split <;> rfl

theorem getD_slice (bytes : Bytes) (offset n i : Nat) :
    (bytes.slice offset n).getD i 0 = if i < n then bytes.getD (offset + i) 0 else 0 := by
  rw [slice, getD_take, List.getD_eq_getElem?_getD, List.getElem?_drop,
    ← List.getD_eq_getElem?_getD]

theorem getD_resize (bytes : Bytes) (n i : Nat) :
    (bytes.resize n).getD i 0 = if i < n then bytes.getD i 0 else 0 := by
  rw [resize, List.getD_eq_getElem?_getD, List.getElem?_append, List.length_take]
  by_cases hmin : i < min n bytes.length
  · have hn : i < n := by omega
    rw [if_pos hmin, if_pos hn, List.getElem?_take, if_pos hn, List.getD_eq_getElem?_getD]
  · rw [if_neg hmin]
    by_cases hn : i < n
    · have hnone : bytes[i]? = none := List.getElem?_eq_none (by omega)
      rw [if_pos hn, List.getD_eq_getElem?_getD, hnone,
        List.getElem?_replicate_of_lt (by omega)]
      rfl
    · rw [if_neg hn, List.getElem?_eq_none (by rw [List.length_replicate]; omega)]
      rfl

/-- A byte after a write: the new one from `offset` to `offset + new.length`. -/
theorem getD_overwrite (bytes : Bytes) (offset : Nat) (new : Bytes) (i : Nat) :
    (bytes.overwrite offset new).getD i 0
      = if offset ≤ i ∧ i < offset + new.length then new.getD (i - offset) 0
        else bytes.getD i 0 := by
  cases new with
  | nil =>
    have h : ¬ (offset ≤ i ∧ i < offset + ([] : Bytes).length) := by
      simp only [List.length_nil]
      omega
    rw [if_neg h]
    rfl
  | cons b new =>
    have hgap : (bytes.take offset ++ List.replicate (offset - bytes.length) (0 : UInt8)).length
        = offset := by
      simp only [List.length_append, List.length_take, List.length_replicate]
      omega
    have hhead : bytes.take offset ++ List.replicate (offset - bytes.length) 0
        = bytes.resize offset := rfl
    simp only [overwrite, List.isEmpty_cons, Bool.false_eq_true, if_false]
    rw [List.append_assoc, List.getD_eq_getElem?_getD, List.getElem?_append, hgap]
    by_cases hbefore : i < offset
    · rw [if_pos hbefore, hhead, ← List.getD_eq_getElem?_getD, getD_resize, if_pos hbefore,
        if_neg (by omega)]
    · rw [if_neg hbefore, List.getElem?_append]
      by_cases hin : i - offset < (b :: new).length
      · rw [if_pos hin, if_pos (by omega), List.getD_eq_getElem?_getD]
      · rw [if_neg hin, if_neg (by omega), List.getElem?_drop, List.getD_eq_getElem?_getD,
          show offset + (b :: new).length + (i - offset - (b :: new).length) = i by omega]

/-- Writing nothing leaves the length, whatever `offset` is. -/
theorem length_overwrite (bytes : Bytes) (offset : Nat) (new : Bytes) :
    (bytes.overwrite offset new).length
      = if new.length = 0 then bytes.length else max bytes.length (offset + new.length) := by
  cases new with
  | nil => rfl
  | cons b new =>
    simp only [overwrite, List.isEmpty_cons, Bool.false_eq_true, if_false, List.length_append,
      List.length_take, List.length_replicate, List.length_drop, List.length_cons]
    split <;> omega

/-- A range that was written reads back. -/
theorem slice_overwrite (bytes new : Bytes) (offset : Nat) :
    (bytes.overwrite offset new).slice offset new.length = new := by
  cases new with
  | nil => simp [slice]
  | cons b new =>
    have hgap : (bytes.take offset ++ List.replicate (offset - bytes.length) (0 : UInt8)).length
        = offset := by
      simp only [List.length_append, List.length_take, List.length_replicate]
      omega
    simp only [overwrite, slice, List.isEmpty_cons, Bool.false_eq_true, if_false]
    rw [List.append_assoc, List.drop_append, hgap, Nat.sub_self, List.drop_zero,
      List.drop_eq_nil_of_le (Nat.le_of_eq hgap), List.nil_append, List.take_left]

/-! ### Little-endian numbers -/

/-- The `width` bytes of `n`, least significant first; higher bits are dropped. -/
def ofNat : (width n : Nat) → Bytes
  | 0, _ => []
  | width + 1, n => UInt8.ofNat (n % 256) :: ofNat width (n / 256)

/-- The number whose bytes are given, least significant first. -/
def toNat : Bytes → Nat
  | [] => 0
  | b :: bytes => b.toNat + 256 * toNat bytes

/-- `256 ^ width`, the number of values of `width` bytes. -/
def capacity : (width : Nat) → Nat
  | 0 => 1
  | width + 1 => 256 * capacity width

/-- The number in the `width` bytes at `offset`. -/
def field (bytes : Bytes) (offset width : Nat) : Nat := toNat (bytes.slice offset width)

@[simp] theorem length_ofNat (width n : Nat) : (ofNat width n).length = width := by
  induction width generalizing n with
  | zero => rfl
  | succ width ih => simp [ofNat, ih]

/-- A stored number reads back modulo `capacity width`. -/
theorem toNat_ofNat (width n : Nat) : toNat (ofNat width n) = n % capacity width := by
  induction width generalizing n with
  | zero => simp [ofNat, toNat, capacity, Nat.mod_one]
  | succ width ih =>
    have h : (UInt8.ofNat (n % 256)).toNat = n % 256 := by
      simp
    rw [ofNat, toNat, ih, h, capacity, Nat.mod_mul]

/-- So many bytes hold no larger number. -/
theorem toNat_lt (bytes : Bytes) : toNat bytes < capacity bytes.length := by
  induction bytes with
  | nil => simp [toNat, capacity]
  | cons b bytes ih =>
    have hb := b.toNat_lt
    rw [toNat, List.length_cons, capacity]
    omega

/-! ### Text fields -/

/-- The bytes before the first zero, or all of them: the form of a padded text field. -/
def untilZero (bytes : Bytes) : Bytes := bytes.takeWhile (· != 0)

end Bytes

end PartitionImage
