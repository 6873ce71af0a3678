import PartitionImage.Packed
/-!
# Bytes with holes

A file may be far longer than what was ever written to it: between the places that were written
lie holes, which read as zeros and take no room.  A sparse string keeps its size and the pages that
hold something.

* `SparseBytes.toBytes` is the string of bytes that a sparse one stands for; `SparseBytes.get` is
  one of them.
* `SparseBytes.read`, `SparseBytes.overwrite` and `SparseBytes.resize` are `Bytes.slice`,
  `Bytes.overwrite` and `Bytes.resize` of that string: `SparseBytes.toBytes_read`,
  `SparseBytes.toBytes_overwrite` and `SparseBytes.toBytes_resize`.
* `SparseBytes.extents` lists what is not a hole.
-/

namespace PartitionImage

/-- A page has `2^14` bytes. -/
abbrev pageSize : Nat := 0x4000

/-- Pages by number.  A page that is not there, and what follows the bytes of one that is, is
zero. -/
abbrev Pages := List (Nat × Packed)

namespace Pages

def page (pages : Pages) (number : Nat) : Packed := (pages.lookup number).getD .empty

def get (pages : Pages) (pos : Nat) : UInt8 := (pages.page (pos / pageSize)).get (pos % pageSize)

/-- The pages with one of them changed.  It comes first, since what is written next often lies in
it. -/
def update (pages : Pages) (number : Nat) (change : Packed → Packed) : Pages :=
  (number, change (pages.page number)) :: pages.eraseP fun entry => entry.1 == number

/-- What the pages hold before `stop`. -/
def cut (stop : Nat) : Pages → Pages
  | [] => []
  | (number, page) :: pages =>
    if number * pageSize < stop then
      (number, page.take (stop - number * pageSize)) :: cut stop pages
    else cut stop pages

/-- The `n` bytes at `offset` after those in `before`, page by page.  Each round takes a byte at
least. -/
def gather (pages : Pages) : (rounds offset n : Nat) → (before : Packed) → Packed
  | 0, _, _, before => before
  | rounds + 1, offset, n, before =>
    if n = 0 then before
    else
      let part := min n (pageSize - offset % pageSize)
      let piece := (pages.page (offset / pageSize)).slice (offset % pageSize) part
      pages.gather rounds (offset + part) (n - part) (before.append (piece.resize part))

/-- The pages with `n` bytes of `data`, from its position `start` on, written at `offset`, page by
page.  Each round takes a byte at least. -/
def scatter (data : Packed) : (rounds offset start n : Nat) → Pages → Pages
  | 0, _, _, _, pages => pages
  | rounds + 1, offset, start, n, pages =>
    if n = 0 then pages
    else
      let part := min n (pageSize - offset % pageSize)
      let piece := data.slice start part
      scatter data rounds (offset + part) (start + part) (n - part)
        (pages.update (offset / pageSize) fun page => page.overwrite (offset % pageSize) piece)

/-! ### One page -/

theorem page_eraseP (pages : Pages) {number other : Nat} (h : other ≠ number) :
    page (pages.eraseP fun entry => entry.1 == number) other = pages.page other := by
  induction pages with
  | nil => rfl
  | cons entry pages ih =>
    obtain ⟨first, page⟩ := entry
    rw [List.eraseP_cons]
    by_cases hfirst : first = number
    · subst hfirst
      simp [Pages.page, List.lookup_cons, beq_false_of_ne h]
    · by_cases hother : other = first
      · subst hother
        simp [Pages.page, beq_false_of_ne hfirst]
      · simpa [Pages.page, List.lookup_cons, beq_false_of_ne hfirst, beq_false_of_ne hother] using ih

theorem page_update (pages : Pages) (number : Nat) (change : Packed → Packed) (other : Nat) :
    (pages.update number change).page other
      = if other = number then change (pages.page other) else pages.page other := by
  by_cases h : other = number
  · subst h
    simp [update, page]
  · rw [if_neg h, ← page_eraseP pages h]
    simp [update, page, List.lookup_cons, beq_false_of_ne h]

/-- A page after a cut holds what it held before the end. -/
theorem page_cut (stop : Nat) (pages : Pages) (number : Nat) :
    (pages.cut stop).page number = (pages.page number).take (stop - number * pageSize) := by
  have hempty : ∀ n, Packed.empty.take n = Packed.empty := fun n => by
    rw [← Packed.toBytes_inj, Packed.toBytes_take, Packed.toBytes_empty, List.take_nil]
  induction pages with
  | nil => simp [cut, page, hempty]
  | cons entry pages ih =>
    obtain ⟨first, page⟩ := entry
    unfold cut
    by_cases hnumber : number = first
    · subst hnumber
      by_cases hstop : number * pageSize < stop
      · simp [hstop, Pages.page]
      · have hzero : stop - number * pageSize = 0 := Nat.sub_eq_zero_of_le (Nat.le_of_not_lt hstop)
        have htake : ∀ packed : Packed, packed.take 0 = .empty := fun packed => by
          rw [← Packed.toBytes_inj, Packed.toBytes_take, Packed.toBytes_empty, List.take_zero]
        rw [if_neg hstop, ih, hzero, htake, htake]
    · have hne : (number == first) = false := beq_false_of_ne hnumber
      by_cases hstop : first * pageSize < stop
      · rw [if_pos hstop]
        simpa [Pages.page, List.lookup_cons, hne] using ih
      · rw [if_neg hstop]
        simpa [Pages.page, List.lookup_cons, hne] using ih

/-! ### One byte -/

/-- A cut makes the bytes from its place on zero. -/
theorem get_cut (stop : Nat) (pages : Pages) (pos : Nat) :
    (pages.cut stop).get pos = if pos < stop then pages.get pos else 0 := by
  unfold get
  rw [page_cut, Packed.get_take]
  have hiff : pos % pageSize < stop - pos / pageSize * pageSize ↔ pos < stop := by
    unfold pageSize
    omega
  simp only [hiff]

/-- Writing into one page changes the bytes written and no other. -/
theorem get_update (pages : Pages) (offset : Nat) (piece : Packed) (pos : Nat)
    (h : offset % pageSize + piece.size ≤ pageSize) :
    (pages.update (offset / pageSize) fun page =>
        page.overwrite (offset % pageSize) piece).get pos
      = if offset ≤ pos ∧ pos < offset + piece.size then piece.get (pos - offset)
        else pages.get pos := by
  unfold get
  rw [page_update]
  by_cases hpage : pos / pageSize = offset / pageSize
  · rw [if_pos hpage, Packed.get_overwrite]
    have hiff : offset % pageSize ≤ pos % pageSize
          ∧ pos % pageSize < offset % pageSize + piece.size
        ↔ offset ≤ pos ∧ pos < offset + piece.size := by
      unfold pageSize at hpage ⊢
      omega
    have hdiff : pos % pageSize - offset % pageSize = pos - offset := by
      unfold pageSize at hpage ⊢
      omega
    simp only [hiff, hdiff]
  · rw [if_neg hpage, if_neg]
    unfold pageSize at hpage h
    omega

/-! ### Ranges -/

/-- A range inside one page, with zeros for what the page does not hold. -/
theorem toBytes_piece (pages : Pages) (offset part : Nat)
    (h : offset % pageSize + part ≤ pageSize) :
    (((pages.page (offset / pageSize)).slice (offset % pageSize) part).resize part).toBytes
      = (List.range' offset part).map pages.get := by
  refine Bytes.ext_getD ?_ fun i hi => ?_
  · rw [Packed.toBytes_resize, Bytes.length_resize, List.length_map, List.length_range']
  · rw [Packed.toBytes_resize, Bytes.length_resize] at hi
    have hrange : i < (List.range' offset part).length := by rw [List.length_range']; exact hi
    have hmap : i < ((List.range' offset part).map pages.get).length := by
      rw [List.length_map]
      exact hrange
    rw [Packed.toBytes_resize, Bytes.getD_resize, if_pos hi, ← Packed.get_eq, Packed.get_slice,
      if_pos hi, List.getD_eq_getElem?_getD, List.getElem?_eq_getElem hmap, Option.getD_some,
      List.getElem_map, List.getElem_range', Nat.one_mul, get]
    have hpage : (offset + i) / pageSize = offset / pageSize := by
      unfold pageSize at h ⊢
      omega
    have hpos : (offset + i) % pageSize = offset % pageSize + i := by
      unfold pageSize at h ⊢
      omega
    rw [hpage, hpos]

/-- Gathering gives the bytes of the range. -/
theorem toBytes_gather (pages : Pages) (rounds offset n : Nat) (before : Packed)
    (h : n ≤ rounds) :
    (pages.gather rounds offset n before).toBytes
      = before.toBytes ++ (List.range' offset n).map pages.get := by
  induction rounds generalizing offset n before with
  | zero =>
    have hn : n = 0 := Nat.le_zero.mp h
    subst hn
    simp [gather]
  | succ rounds ih =>
    unfold gather
    by_cases hn : n = 0
    · subst hn
      simp
    · have hpart : 0 < min n (pageSize - offset % pageSize) := by
        unfold pageSize
        omega
      have hfit : offset % pageSize + min n (pageSize - offset % pageSize) ≤ pageSize := by
        unfold pageSize
        omega
      have hsplit : n = min n (pageSize - offset % pageSize)
          + (n - min n (pageSize - offset % pageSize)) := by
        omega
      rw [if_neg hn, ih _ _ _ (by omega), Packed.toBytes_append, toBytes_piece _ _ _ hfit,
        List.append_assoc, ← List.map_append, List.range'_append_1, ← hsplit]

/-- Scattering changes the bytes written and no other. -/
theorem get_scatter (data : Packed) (rounds offset start n : Nat) (pages : Pages) (pos : Nat)
    (hrounds : n ≤ rounds) (hdata : start + n ≤ data.size) :
    (pages.scatter data rounds offset start n).get pos
      = if offset ≤ pos ∧ pos < offset + n then data.get (start + (pos - offset))
        else pages.get pos := by
  induction rounds generalizing offset start n pages with
  | zero =>
    have hn : n = 0 := Nat.le_zero.mp hrounds
    subst hn
    rw [if_neg (by omega)]
    rfl
  | succ rounds ih =>
    unfold scatter
    by_cases hn : n = 0
    · subst hn
      rw [if_pos rfl, if_neg (by omega)]
    · have hpart : 0 < min n (pageSize - offset % pageSize) := by
        unfold pageSize
        omega
      have hfit : offset % pageSize + min n (pageSize - offset % pageSize) ≤ pageSize := by
        unfold pageSize
        omega
      rw [if_neg hn]
      generalize hlen : min n (pageSize - offset % pageSize) = part at hpart hfit
      have hle : part ≤ n := by omega
      have hsize : (data.slice start part).size = part := by
        rw [← Packed.length_toBytes, Packed.toBytes_slice, Bytes.length_slice,
          Packed.length_toBytes]
        omega
      rw [ih _ _ _ _ (by omega) (by omega), get_update _ _ _ _ (by rw [hsize]; exact hfit), hsize,
        Packed.get_slice]
      by_cases hbefore : offset ≤ pos ∧ pos < offset + part
      · rw [if_neg (by omega), if_pos hbefore, if_pos (by omega), if_pos (by omega)]
      · rw [if_neg hbefore]
        by_cases hafter : offset + part ≤ pos ∧ pos < offset + part + (n - part)
        · rw [if_pos hafter, if_pos (by omega),
            show start + part + (pos - (offset + part)) = start + (pos - offset) by omega]
        · rw [if_neg hafter, if_neg (by omega)]

end Pages

/-- A string of bytes with holes.  What the pages hold past the end does not count. -/
structure SparseBytes where
  size : Nat
  pages : Pages
  deriving DecidableEq

namespace SparseBytes

def get (bytes : SparseBytes) (pos : Nat) : UInt8 :=
  if pos < bytes.size then bytes.pages.get pos else 0

/-- The string of bytes that a sparse one stands for. -/
def toBytes (bytes : SparseBytes) : Bytes := (List.range bytes.size).map bytes.get

def empty : SparseBytes := ⟨0, []⟩

instance : Inhabited SparseBytes := ⟨empty⟩

/-- The `n` bytes at `offset`, fewer where the string ends before. -/
def read (bytes : SparseBytes) (offset n : Nat) : Packed :=
  let n := min n (bytes.size - offset)
  bytes.pages.gather n offset n .empty

/-- The string cut or extended with a hole to `n` bytes. -/
def resize (bytes : SparseBytes) (n : Nat) : SparseBytes :=
  ⟨n, bytes.pages.cut (min n bytes.size)⟩

/-- The string with `data` in place of what stood at `offset`, after a hole if that lies past the
end. -/
def overwrite (bytes : SparseBytes) (offset : Nat) (data : Packed) : SparseBytes :=
  if data.size = 0 then bytes
  else
    let grown := if bytes.size < offset + data.size then bytes.resize (offset + data.size) else bytes
    { grown with pages := grown.pages.scatter data data.size offset 0 data.size }

/-- A string without holes. -/
def ofPacked (data : Packed) : SparseBytes := empty.overwrite 0 data

/-- What is not a hole, in order: where it starts, and its bytes. -/
def extents (bytes : SparseBytes) : List (Nat × Packed) :=
  (bytes.pages.cut bytes.size).map (fun (number, page) => (number * pageSize, page))
    |>.mergeSort fun a b => a.1 ≤ b.1

/-! ### The view -/

@[simp] theorem length_toBytes (bytes : SparseBytes) : bytes.toBytes.length = bytes.size := by
  rw [toBytes, List.length_map, List.length_range]

@[simp] theorem toBytes_empty : empty.toBytes = [] := rfl

theorem get_eq (bytes : SparseBytes) (pos : Nat) : bytes.get pos = bytes.toBytes.getD pos 0 := by
  rw [List.getD_eq_getElem?_getD, toBytes, List.getElem?_map]
  by_cases h : pos < bytes.size
  · rw [List.getElem?_range h]
    rfl
  · rw [List.getElem?_eq_none (by rw [List.length_range]; omega), get, if_neg h]
    rfl

theorem toBytes_read (bytes : SparseBytes) (offset n : Nat) :
    (bytes.read offset n).toBytes = bytes.toBytes.slice offset n := by
  have hgather : (bytes.read offset n).toBytes
      = (List.range' offset (min n (bytes.size - offset))).map bytes.pages.get := by
    rw [read, Pages.toBytes_gather _ _ _ _ _ (Nat.le_refl _), Packed.toBytes_empty, List.nil_append]
  have hlen : (bytes.read offset n).toBytes.length = min n (bytes.size - offset) := by
    rw [hgather, List.length_map, List.length_range']
  refine Bytes.ext_getD ?_ fun i hi => ?_
  · rw [hlen, Bytes.length_slice, length_toBytes]
  · rw [hlen] at hi
    have hrange : i < ((List.range' offset (min n (bytes.size - offset))).map
        bytes.pages.get).length := by
      rw [List.length_map, List.length_range']
      exact hi
    rw [hgather, List.getD_eq_getElem?_getD, List.getElem?_eq_getElem hrange, Option.getD_some,
      List.getElem_map, List.getElem_range', Nat.one_mul, Bytes.getD_slice, if_pos (by omega),
      ← get_eq, get, if_pos (by omega)]

/-- A byte of a resized string, zero where there was none. -/
theorem get_resize (bytes : SparseBytes) (n pos : Nat) :
    (bytes.resize n).get pos = if pos < n then bytes.get pos else 0 := by
  change (if pos < n then (bytes.pages.cut (min n bytes.size)).get pos else 0) = _
  by_cases hn : pos < n
  · rw [if_pos hn, if_pos hn, Pages.get_cut, get]
    by_cases hsize : pos < bytes.size
    · rw [if_pos (by omega), if_pos hsize]
    · rw [if_neg (by omega), if_neg hsize]
  · rw [if_neg hn, if_neg hn]

theorem toBytes_resize (bytes : SparseBytes) (n : Nat) :
    (bytes.resize n).toBytes = bytes.toBytes.resize n := by
  refine Bytes.ext_getD ?_ fun i _ => ?_
  · rw [length_toBytes, Bytes.length_resize]
    rfl
  · rw [← get_eq, get_resize, Bytes.getD_resize, get_eq]

/-- Writing reaches as far as what was there or what is new. -/
theorem size_overwrite (bytes : SparseBytes) (offset : Nat) (data : Packed) :
    (bytes.overwrite offset data).size
      = if data.size = 0 then bytes.size else max bytes.size (offset + data.size) := by
  unfold overwrite
  by_cases hdata : data.size = 0
  · rw [if_pos hdata, if_pos hdata]
  · rw [if_neg hdata, if_neg hdata]
    by_cases hsize : bytes.size < offset + data.size
    · simp only [hsize, if_true, resize]
      omega
    · simp only [hsize, if_false]
      omega

theorem get_overwrite (bytes : SparseBytes) (offset : Nat) (data : Packed) (pos : Nat) :
    (bytes.overwrite offset data).get pos
      = if offset ≤ pos ∧ pos < offset + data.size then data.get (pos - offset)
        else bytes.get pos := by
  by_cases hdata : data.size = 0
  · rw [overwrite, if_pos hdata, if_neg (by omega)]
  · have hgrown : ∀ grown : SparseBytes, offset + data.size ≤ grown.size →
        (∀ i, grown.get i = bytes.get i) →
        get { grown with pages := grown.pages.scatter data data.size offset 0 data.size } pos
          = if offset ≤ pos ∧ pos < offset + data.size then data.get (pos - offset)
            else bytes.get pos := by
      intro grown hroom hsame
      rw [← hsame]
      simp only [get]
      rw [Pages.get_scatter _ _ _ _ _ _ _ (Nat.le_refl _) (by omega), Nat.zero_add]
      by_cases hpos : pos < grown.size
      · rw [if_pos hpos, if_pos hpos]
      · rw [if_neg hpos, if_neg hpos, if_neg (by omega)]
    rw [overwrite, if_neg hdata]
    by_cases hsize : bytes.size < offset + data.size
    · simp only [hsize, if_true]
      refine hgrown _ (Nat.le_refl _) fun i => ?_
      rw [get_resize]
      by_cases hi : i < offset + data.size
      · rw [if_pos hi]
      · rw [if_neg hi, get, if_neg (by omega)]
    · simp only [hsize, if_false]
      exact hgrown _ (Nat.le_of_not_lt hsize) fun _ => rfl

/-- Writing into a sparse string writes into the string. -/
theorem toBytes_overwrite (bytes : SparseBytes) (offset : Nat) (data : Packed) :
    (bytes.overwrite offset data).toBytes = bytes.toBytes.overwrite offset data.toBytes := by
  refine Bytes.ext_getD ?_ fun i _ => ?_
  · rw [length_toBytes, size_overwrite, Bytes.length_overwrite, length_toBytes,
      Packed.length_toBytes]
  · rw [← get_eq, get_overwrite, Bytes.getD_overwrite, Packed.length_toBytes, get_eq,
      Packed.get_eq]

@[simp] theorem toBytes_ofPacked (data : Packed) : (ofPacked data).toBytes = data.toBytes := by
  rw [ofPacked, toBytes_overwrite, toBytes_empty, Bytes.overwrite]
  split
  · next h => rw [List.isEmpty_iff.mp h]
  · simp

end SparseBytes

end PartitionImage
