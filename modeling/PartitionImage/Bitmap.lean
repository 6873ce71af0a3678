import PartitionImage.Packed
/-!
# Usage bitmaps

One bit for each block of a device: bit `pos` is bit `pos % 8` of byte `pos / 8`, lowest first.
The packed bytes are also what current images and change files store, so the bits that pad the
last byte are kept and may be set.

* `Bitmap.new` makes an all-clear map, unless it is too large to allocate.
* `Bitmap.get?` and `Bitmap.set?` look at one position and change it.  They know only bytes: a
  padding bit of the last byte is a position like any other, one past it is none.
* `Bitmap.countRange?` counts the set positions of a range, `Bitmap.last?` finds the last one.
* `Bitmap.load` puts stored bytes in place of the packed ones.
-/

namespace PartitionImage

inductive AllocationError
  | refused
  deriving DecidableEq, Repr

def AllocationError.message : AllocationError → String
  | .refused => "memory allocation failed because the memory allocator returned an error"

/-- Requests of `2^47` bytes and more are refused: no address space holds them. -/
def allocationLimit : Nat := 0x800000000000

/-- Bytes that hold `bits` packed bits. -/
def bytesForBits (bits : Nat) : Nat := (bits + 7) / 8

structure Bitmap where
  /-- The packed bits, lowest first. -/
  bytes : Packed
  /-- Number of positions that stand for blocks. -/
  length : Nat
  /-- There are just enough bytes. -/
  size_bytes : bytes.size = bytesForBits length

namespace Bitmap

/-- No position is set. -/
def clear (length : Nat) : Bitmap where
  bytes := Packed.empty.pad (bytesForBits length)
  length := length
  size_bytes := by rw [Packed.size_pad]; exact Nat.zero_add _

/-- `clear`, if memory for it can be had. -/
def new (length : Nat) : Except AllocationError Bitmap :=
  if bytesForBits length < allocationLimit then .ok (clear length) else .error .refused

def text (map : Bitmap) : String :=
  "BitIndex \x7b len: " ++ toString map.length ++ ", .. \x7d"

def isEmpty (map : Bitmap) : Bool := map.length == 0

/-- Whether position `pos` is set, with no position set past the last byte. -/
def isSet (map : Bitmap) (pos : Nat) : Bool :=
  (map.bytes.get (pos / 8)).toNat.testBit (pos % 8)

/-- Whether position `pos` is set; `none` past the last byte. -/
def get? (map : Bitmap) (pos : Nat) : Option Bool :=
  if pos / 8 < map.bytes.size then some (map.isSet pos) else none

/-- The map with the bit at `pos` set; unchanged past the last byte. -/
def set (map : Bitmap) (pos : Nat) : Bitmap where
  bytes := map.bytes.set (pos / 8)
    (UInt8.ofNat ((map.bytes.get (pos / 8)).toNat ||| 1 <<< (pos % 8)))
  length := map.length
  size_bytes := by rw [Packed.size_set, map.size_bytes]

/-- The map with position `pos` set; `none` past the last byte. -/
def set? (map : Bitmap) (pos : Nat) : Option Bitmap :=
  if pos / 8 < map.bytes.size then some (map.set pos) else none

/-- Number of set positions among the `n` from `start`, after `counted` others. -/
def countFrom (map : Bitmap) : (n start counted : Nat) → Nat
  | 0, _, counted => counted
  | n + 1, start, counted =>
    map.countFrom n (start + 1) (if map.isSet start then counted + 1 else counted)

/-- Number of set positions among the `n` from `start`. -/
def count (map : Bitmap) (start n : Nat) : Nat := map.countFrom n start 0

/-- Number of set positions in `start..stop`; `none` if the range leaves the last byte.  An empty
range has no set position, wherever it lies. -/
def countRange? (map : Bitmap) (start stop : Nat) : Option Nat :=
  if stop ≤ start then some 0
  else if stop ≤ 8 * map.bytes.size then some (map.count start (stop - start))
  else none

def last? (map : Bitmap) : (n : Nat) → Option Nat
  | 0 => none
  | n + 1 => if map.isSet n then some n else map.last? n

/-- The map with `bytes` over the first of its own, as many as both have. -/
def load (map : Bitmap) (bytes : Packed) : Bitmap where
  bytes := map.bytes.overwrite 0 (bytes.take map.bytes.size)
  length := map.length
  size_bytes := by
    rw [Packed.size_overwrite _ (by rw [Packed.size_take]; omega), map.size_bytes]

theorem div_lt_size_bytes (map : Bitmap) {pos : Nat} (h : pos < map.length) :
    pos / 8 < map.bytes.size := by
  rw [map.size_bytes, bytesForBits]
  omega

theorem get?_eq_some (map : Bitmap) {pos : Nat} (h : pos < map.length) :
    map.get? pos = some (map.isSet pos) :=
  if_pos (map.div_lt_size_bytes h)

theorem countFrom_eq (map : Bitmap) (n start counted : Nat) :
    map.countFrom n start counted = counted + (List.range' start n).countP map.isSet := by
  induction n generalizing start counted with
  | zero => rfl
  | succ n ih =>
    rw [countFrom, ih, List.range'_succ, List.countP_cons]
    split <;> omega

theorem count_eq (map : Bitmap) (start n : Nat) :
    map.count start n = (List.range' start n).countP map.isSet := by
  rw [count, countFrom_eq, Nat.zero_add]

theorem last?_eq_some_iff (map : Bitmap) (n pos : Nat) :
    map.last? n = some pos
      ↔ pos < n ∧ map.isSet pos = true ∧ ∀ i, pos < i → i < n → map.isSet i = false := by
  induction n with
  | zero => simp [last?]
  | succ n ih =>
    unfold last?
    cases hset : map.isSet n with
    | true =>
      simp only [if_true, Option.some.injEq]
      refine ⟨fun h => h ▸ ⟨Nat.lt_succ_self _, hset, fun i hlo hhi => by omega⟩,
        fun ⟨hlt, _, hnone⟩ => ?_⟩
      refine Decidable.byContradiction fun hne => ?_
      have hclear := hnone n (by omega) (Nat.lt_succ_self _)
      rw [hset] at hclear
      cases hclear
    | false =>
      simp only [Bool.false_eq_true, if_false, ih]
      refine ⟨fun ⟨hlt, hpos, hnone⟩ => ⟨by omega, hpos, fun i hlo hhi => ?_⟩,
        fun ⟨hlt, hpos, hnone⟩ => ⟨?_, hpos, fun i hlo hhi => hnone i hlo (by omega)⟩⟩
      · by_cases hi : i = n
        · rw [hi, hset]
        · exact hnone i hlo (by omega)
      · have hne : pos ≠ n := fun h => by
          rw [h, hset] at hpos
          cases hpos
        omega

/-! ### One position -/

/-- `1 <<< k` sets the bit `k` of a byte, and changes no other bit. -/
theorem testBit_or_bit (byte : UInt8) {k : Nat} (hk : k < 8) (j : Nat) :
    (UInt8.ofNat (byte.toNat ||| 1 <<< k)).toNat.testBit j
      = (decide (j = k) || byte.toNat.testBit j) := by
  have hone : 1 <<< k < 2 ^ 8 := by
    rw [Nat.one_shiftLeft]
    exact Nat.pow_lt_pow_right (by decide) hk
  have hlt : byte.toNat ||| 1 <<< k < 2 ^ 8 := Nat.or_lt_two_pow byte.toNat_lt hone
  rw [UInt8.toNat_ofNat', Nat.mod_eq_of_lt hlt, Nat.testBit_or, Nat.one_shiftLeft,
    Nat.testBit_two_pow, Bool.or_comm]
  by_cases h : k = j
  · subst h
    simp
  · simp [h, Ne.symm h]

/-- `set` sets its position and no other. -/
theorem isSet_set (map : Bitmap) {pos : Nat} (h : pos / 8 < map.bytes.size) (other : Nat) :
    (map.set pos).isSet other = (decide (other = pos) || map.isSet other) := by
  have hlen : pos / 8 < map.bytes.toBytes.length := h
  have hget : (map.set pos).bytes.get (other / 8)
      = if other / 8 = pos / 8 then UInt8.ofNat ((map.bytes.get (pos / 8)).toNat ||| 1 <<< (pos % 8))
        else map.bytes.get (other / 8) := by
    rw [set, Packed.get_eq, Packed.toBytes_set, List.getD_eq_getElem?_getD, List.getElem?_set]
    by_cases hbyte : other / 8 = pos / 8
    · rw [if_pos hbyte.symm, if_pos hbyte, if_pos hlen]
      rfl
    · rw [if_neg (Ne.symm hbyte), if_neg hbyte, ← List.getD_eq_getElem?_getD, ← Packed.get_eq]
  rw [isSet, hget, isSet]
  by_cases hbyte : other / 8 = pos / 8
  · have hiff : other % 8 = pos % 8 ↔ other = pos := by omega
    rw [if_pos hbyte, testBit_or_bit _ (Nat.mod_lt _ (by decide)), hbyte]
    simp only [hiff]
  · have hne : other ≠ pos := fun heq => hbyte (by rw [heq])
    rw [if_neg hbyte, decide_eq_false hne, Bool.false_or]

@[simp] theorem isSet_clear (length pos : Nat) : (clear length).isSet pos = false := by
  have hget : (clear length).bytes.get (pos / 8) = 0 := by
    rw [clear, Packed.get_eq, Packed.toBytes_pad, Packed.toBytes_empty, List.nil_append,
      List.getD_eq_getElem?_getD, List.getElem?_replicate]
    split <;> rfl
  rw [isSet, hget]
  exact Nat.zero_testBit _

/-- A position of a map that is loaded whole is bit `pos % 8` of the stored byte `pos / 8`. -/
theorem isSet_load (map : Bitmap) {bytes : Packed} (h : bytes.size = map.bytes.size) (pos : Nat) :
    (map.load bytes).isSet pos = (bytes.get (pos / 8)).toNat.testBit (pos % 8) := by
  have hget : (map.load bytes).bytes.get (pos / 8) = bytes.get (pos / 8) := by
    rw [load, Packed.get_overwrite, Packed.size_take, Packed.get_take, Nat.sub_zero]
    by_cases hpos : pos / 8 < map.bytes.size
    · rw [if_pos (by omega), if_pos hpos]
    · rw [if_neg (by omega), Packed.get_of_size_le _ (by omega), Packed.get_of_size_le _ (by omega)]
  rw [isSet, hget]

/-! ### Counting -/

@[simp] theorem count_zero (map : Bitmap) (start : Nat) : map.count start 0 = 0 := rfl

theorem count_add (map : Bitmap) (start m n : Nat) :
    map.count start (m + n) = map.count start m + map.count (start + m) n := by
  rw [count_eq, count_eq, count_eq, ← List.range'_append_1, List.countP_append]

theorem count_succ (map : Bitmap) (start n : Nat) :
    map.count start (n + 1) = map.count start n + if map.isSet (start + n) then 1 else 0 := by
  rw [count_add, count_eq map (start + n) 1]
  simp [List.countP_cons]

theorem count_succ' (map : Bitmap) (start n : Nat) :
    map.count start (n + 1) = (if map.isSet start then 1 else 0) + map.count (start + 1) n := by
  rw [Nat.add_comm n 1, count_add, count_eq map start 1]
  simp [List.countP_cons]

theorem count_zero_add (map : Bitmap) (start n : Nat) :
    map.count 0 (start + n) = map.count 0 start + map.count start n := by
  rw [count_add, Nat.zero_add]

theorem count_le (map : Bitmap) (start n : Nat) : map.count start n ≤ n := by
  rw [count_eq]
  exact Nat.le_trans List.countP_le_length (Nat.le_of_eq List.length_range')

theorem countRange?_eq_some (map : Bitmap) {start stop : Nat} (h : stop ≤ map.length) :
    map.countRange? start stop = some (map.count start (stop - start)) := by
  unfold countRange?
  by_cases hempty : stop ≤ start
  · rw [if_pos hempty, Nat.sub_eq_zero_of_le hempty]
    rfl
  · have hbytes : stop ≤ 8 * map.bytes.size := by
      rw [map.size_bytes, bytesForBits]
      omega
    rw [if_neg hempty, if_pos hbytes]

end Bitmap

end PartitionImage
