import PartitionImage.Bytes
/-!
# Packed bytes

Whatever holds many bytes holds them packed, so that a byte or a range costs the same wherever it
lies.

* `Packed.toBytes` is the string of bytes that a packed one stands for, `Packed.ofBytes` packs it.
* `Packed.get` is one byte, and zero past the end: `Packed.get_eq`.
* `Packed.slice`, `Packed.overwrite` and `Packed.resize` are `Bytes.slice`, `Bytes.overwrite` and
  `Bytes.resize` of that string: `Packed.toBytes_slice`, `Packed.toBytes_overwrite` and
  `Packed.toBytes_resize`.
-/

namespace PartitionImage

structure Packed where
  array : ByteArray

namespace Packed

/-- The string of bytes that a packed one stands for. -/
def toBytes (packed : Packed) : Bytes := packed.array.data.toList

/-- A string of bytes, packed. -/
def ofBytes (bytes : Bytes) : Packed := ⟨⟨bytes.toArray⟩⟩

def empty : Packed := ofBytes []

instance : Inhabited Packed := ⟨empty⟩

def size (packed : Packed) : Nat := packed.array.size

/-- The byte at `pos`, zero past the end. -/
def get (packed : Packed) (pos : Nat) : UInt8 :=
  if h : pos < packed.array.size then packed.array[pos] else 0

/-- The string with another byte at `pos`; unchanged past the end. -/
def set (packed : Packed) (pos : Nat) (byte : UInt8) : Packed :=
  if h : pos < packed.array.size then ⟨packed.array.set pos byte h⟩ else packed

/-- The `n` bytes at `offset`, fewer where the string ends before. -/
def slice (packed : Packed) (offset n : Nat) : Packed :=
  if offset < packed.size then
    ⟨packed.array.extract offset (min (offset + n) packed.size)⟩
  else empty

def append (first second : Packed) : Packed := ⟨first.array ++ second.array⟩

/-- The string with `count` zeros after it. -/
def pad (packed : Packed) (count : Nat) : Packed :=
  ⟨Nat.repeat (fun array => array.push 0) count packed.array⟩

/-- The string with `new` in place of what stood at `offset`, after zeros if that lies past the
end. -/
def overwrite (packed : Packed) (offset : Nat) (new : Packed) : Packed :=
  if new.size = 0 then packed
  else
    let padded := if packed.size < offset then packed.pad (offset - packed.size) else packed
    ⟨new.array.copySlice 0 padded.array offset new.size⟩

/-- The string cut or extended with zeros to `n` bytes. -/
def resize (packed : Packed) (n : Nat) : Packed :=
  if packed.size ≤ n then packed.pad (n - packed.size) else ⟨packed.array.extract 0 n⟩

/-- The first `n` bytes of a string, or all. -/
def take (packed : Packed) (n : Nat) : Packed :=
  if packed.size ≤ n then packed else ⟨packed.array.extract 0 n⟩

/-! ### The view -/

@[simp] theorem toBytes_ofBytes (bytes : Bytes) : (ofBytes bytes).toBytes = bytes := rfl

@[simp] theorem toBytes_empty : empty.toBytes = [] := rfl

@[simp] theorem length_toBytes (packed : Packed) : packed.toBytes.length = packed.size := rfl

@[simp] theorem size_ofBytes (bytes : Bytes) : (ofBytes bytes).size = bytes.length :=
  List.size_toArray

/-- A packed string is determined by what it stands for. -/
theorem toBytes_inj {a b : Packed} : a.toBytes = b.toBytes ↔ a = b := by
  refine ⟨fun h => ?_, fun h => h ▸ rfl⟩
  obtain ⟨⟨a⟩⟩ := a
  obtain ⟨⟨b⟩⟩ := b
  have hab : a = b := Array.toList_inj.mp h
  rw [hab]

instance : DecidableEq Packed := fun a b => decidable_of_iff (a.toBytes = b.toBytes) toBytes_inj

theorem get_eq (packed : Packed) (pos : Nat) : packed.get pos = packed.toBytes.getD pos 0 := by
  unfold get
  split
  · next h =>
    have hlen : pos < packed.toBytes.length := h
    rw [List.getD_eq_getElem?_getD, List.getElem?_eq_getElem hlen,
      ByteArray.getElem_eq_getElem_data]
    rfl
  · next h =>
    have hlen : packed.toBytes.length ≤ pos := Nat.le_of_not_lt h
    rw [List.getD_eq_getElem?_getD, List.getElem?_eq_none hlen]
    rfl

theorem get_of_size_le (packed : Packed) {pos : Nat} (h : packed.size ≤ pos) :
    packed.get pos = 0 := by
  have hlen : packed.toBytes.length ≤ pos := h
  rw [get_eq, List.getD_eq_getElem?_getD, List.getElem?_eq_none hlen]
  rfl

theorem toBytes_set (packed : Packed) (pos : Nat) (byte : UInt8) :
    (packed.set pos byte).toBytes = packed.toBytes.set pos byte := by
  unfold set
  split
  · next h => simp [toBytes, ByteArray.data_set]
  · next h =>
    have hlen : packed.toBytes.length ≤ pos := Nat.le_of_not_lt h
    rw [List.set_eq_of_length_le hlen]

@[simp] theorem size_set (packed : Packed) (pos : Nat) (byte : UInt8) :
    (packed.set pos byte).size = packed.size := by
  rw [← length_toBytes, toBytes_set, List.length_set, length_toBytes]

@[simp] theorem toBytes_append (first second : Packed) :
    (first.append second).toBytes = first.toBytes ++ second.toBytes := by
  simp [append, toBytes, ByteArray.data_append]

@[simp] theorem toBytes_pad (packed : Packed) (count : Nat) :
    (packed.pad count).toBytes = packed.toBytes ++ List.replicate count 0 := by
  induction count with
  | zero => simp [pad, Nat.repeat]
  | succ count ih =>
    have hstep : (packed.pad (count + 1)).toBytes = (packed.pad count).toBytes ++ [0] := by
      simp [pad, Nat.repeat, toBytes, ByteArray.data_push]
    rw [hstep, ih, List.append_assoc, ← List.replicate_succ']

@[simp] theorem size_pad (packed : Packed) (count : Nat) :
    (packed.pad count).size = packed.size + count := by
  rw [← length_toBytes, toBytes_pad, List.length_append, List.length_replicate, length_toBytes]

@[simp] theorem toBytes_slice (packed : Packed) (offset n : Nat) :
    (packed.slice offset n).toBytes = packed.toBytes.slice offset n := by
  unfold slice Bytes.slice
  split
  · next h =>
    change (packed.array.extract offset _).data.toList = _
    rw [ByteArray.data_extract, Array.toList_extract, List.extract_eq_take_drop]
    change (packed.toBytes.drop offset).take _ = _
    apply List.take_eq_take_iff.mpr
    rw [List.length_drop, length_toBytes]
    omega
  · next h =>
    rw [toBytes_empty, List.drop_eq_nil_of_le (by rw [length_toBytes]; omega), List.take_nil]

/-- A byte of a range, zero past its end. -/
theorem get_slice (packed : Packed) (offset n pos : Nat) :
    (packed.slice offset n).get pos = if pos < n then packed.get (offset + pos) else 0 := by
  rw [get_eq, toBytes_slice, Bytes.getD_slice, get_eq]

@[simp] theorem toBytes_take (packed : Packed) (n : Nat) :
    (packed.take n).toBytes = packed.toBytes.take n := by
  unfold take
  split
  · next h => rw [List.take_of_length_le (by rw [length_toBytes]; exact h)]
  · simp [toBytes]

theorem size_take (packed : Packed) (n : Nat) : (packed.take n).size = min n packed.size := by
  rw [← length_toBytes, toBytes_take, List.length_take, length_toBytes]

/-- A byte among the first, zero past them. -/
theorem get_take (packed : Packed) (n pos : Nat) :
    (packed.take n).get pos = if pos < n then packed.get pos else 0 := by
  rw [get_eq, toBytes_take, Bytes.getD_take, get_eq]

/-- Copying over a string that reaches the place leaves what is before and after. -/
theorem toBytes_copySlice (packed : Packed) (offset : Nat) (new : Packed) :
    toBytes ⟨new.array.copySlice 0 packed.array offset new.size⟩
      = packed.toBytes.take offset ++ new.toBytes
        ++ packed.toBytes.drop (offset + new.toBytes.length) := by
  have hsize : new.array.data.size = new.size := rfl
  have hlen : new.array.data.toList.length = new.size := rfl
  rw [ByteArray.copySlice_eq_append, length_toBytes]
  simp only [toBytes, hsize, ByteArray.data_append, ByteArray.data_extract,
    Array.toList_append, Array.toList_extract, List.extract_eq_take_drop, Nat.sub_zero,
    List.drop_zero, Nat.zero_add, Nat.min_self]
  rw [List.take_of_length_le (i := packed.array.data.size - (offset + new.size))
    (by rw [List.length_drop]; exact Nat.le_refl _),
    List.take_of_length_le (l := new.array.data.toList) (Nat.le_of_eq hlen)]

/-- Writing into a packed string writes into the string. -/
theorem toBytes_overwrite (packed : Packed) (offset : Nat) (new : Packed) :
    (packed.overwrite offset new).toBytes = packed.toBytes.overwrite offset new.toBytes := by
  have hempty : new.size = 0 ↔ new.toBytes.isEmpty = true := by
    rw [← length_toBytes, List.length_eq_zero_iff, List.isEmpty_iff]
  unfold overwrite Bytes.overwrite
  simp only [hempty]
  split
  · rfl
  · rw [toBytes_copySlice]
    split
    · next h =>
      have htail : offset + new.toBytes.length - packed.size
          = offset - packed.size + new.toBytes.length := by
        omega
      rw [toBytes_pad, List.take_append, List.drop_append, length_toBytes packed, htail,
        List.take_replicate, Nat.min_self, List.drop_replicate, Nat.sub_add_eq, Nat.sub_self,
        Nat.zero_sub, List.replicate_zero, List.append_nil]
    · next h =>
      rw [length_toBytes packed, Nat.sub_eq_zero_of_le (by omega), List.replicate_zero,
        List.append_nil]

/-- Writing inside a packed string keeps its size. -/
theorem size_overwrite (packed : Packed) {offset : Nat} {new : Packed}
    (h : offset + new.size ≤ packed.size) : (packed.overwrite offset new).size = packed.size := by
  rw [← length_toBytes, toBytes_overwrite, Bytes.length_overwrite, length_toBytes, length_toBytes]
  split <;> omega

/-- A byte after a write: the new one where something was written. -/
theorem get_overwrite (packed : Packed) (offset : Nat) (new : Packed) (pos : Nat) :
    (packed.overwrite offset new).get pos
      = if offset ≤ pos ∧ pos < offset + new.size then new.get (pos - offset)
        else packed.get pos := by
  rw [get_eq, toBytes_overwrite, Bytes.getD_overwrite, length_toBytes, get_eq, get_eq]

theorem toBytes_resize (packed : Packed) (n : Nat) :
    (packed.resize n).toBytes = packed.toBytes.resize n := by
  unfold resize Bytes.resize
  split
  · next h =>
    rw [toBytes_pad, List.take_of_length_le (by rw [length_toBytes]; omega), length_toBytes]
  · next h =>
    rw [length_toBytes, Nat.sub_eq_zero_of_le (by omega), List.replicate_zero, List.append_nil]
    simp [toBytes]

end Packed

end PartitionImage
