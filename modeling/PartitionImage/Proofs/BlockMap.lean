import PartitionImage.Proofs.Descriptor
import PartitionImage.Proofs.PrefixCount
/-!
# The block map of an image

The block map as a function of the bytes of an image, and that this is what is loaded, chunk by chunk
and whatever the calls of the source do.

* `BlockMap.of?` is the block map of an image; `BlockMap.extracts_load` says that it is loaded.
* `BlockMap.marked` is the entry of a block in the stored bitmap; `BlockMap.fits_of` says that the map
  has the bits that are stored, and an index that is made of them.
* `BlockMap.Suits` is what the operations on blocks rely on in a block map and its descriptor.
* `BlockMap.exists_of` says which images have a block map.
-/

namespace PartitionImage

namespace BlockMap

open Source (Extracts extracts_fetch)
open PartitionImage.Action (toOption_mapError)

variable {bytes : Bytes}

/-! ### The bitmap -/

/-- `empty` with what the stored bitmap says. -/
def loading? (bytes : Bytes) (offset : Nat) (empty : Bitmap) : Format → Option Loading
  | .legacy => (bytes.range? offset empty.length).map (Loading.entriesFrom { bitmap := empty } 0)
  | .current =>
    (bytes.range? offset empty.bytes.size).map fun stored =>
      { bitmap := empty.load (.ofBytes stored) }

def assemble (layout : RecordLayout) (total factor : Nat) (loading : Loading) : BlockMap where
  layout := layout
  bitmap := loading.bitmap
  index := (PrefixCount.build loading.bitmap factor).1
  stats := {
    total := total
    used := (PrefixCount.build loading.bitmap factor).2
    unused := total - (PrefixCount.build loading.bitmap factor).2
    anomalous := loading.anomalous
    anomalies := loading.anomalies
    lastUsed := loading.bitmap.last? total }
  fillerSize := layout.blockSize
  scratchSize := layout.trailer + layout.recordSize

def of? (bytes : Bytes) (format : Format) (layout : RecordLayout) (total factor : Nat) :
    Option BlockMap := do
  let empty ← (Bitmap.new total).toOption
  let loading ← loading? bytes layout.bitmapOffset empty format
  let magic ← bytes.range? layout.magicOffset bitmapMagic.length
  if magic ≠ bitmapMagic then none
  return assemble layout total factor loading

theorem Loading.entriesFrom_append (loading : Loading) (block : Nat) (first second : Bytes) :
    loading.entriesFrom block (first ++ second)
      = (loading.entriesFrom block first).entriesFrom (block + first.length) second := by
  induction first generalizing loading block with
  | nil => rfl
  | cons value values ih =>
    rw [List.cons_append, entriesFrom, entriesFrom, ih, List.length_cons, Nat.add_assoc,
      Nat.add_comm 1]

theorem range?_entriesFrom (bytes : Bytes) (offset block a b : Nat) (loading : Loading) :
    (bytes.range? (offset + block) (a + b)).map (loading.entriesFrom block)
      = (bytes.range? (offset + block) a).bind fun first =>
          (bytes.range? (offset + (block + a)) b).map
            ((loading.entriesFrom block first).entriesFrom (block + a)) := by
  rw [Bytes.range?_add, Nat.add_assoc offset block a]
  cases hfirst : bytes.range? (offset + block) a with
  | none => rfl
  | some first =>
    have hlength := (Bytes.range?_eq_some hfirst).2
    rw [Option.bind_some, Option.bind_some]
    cases bytes.range? (offset + (block + a)) b with
    | none => rfl
    | some second =>
      show some (loading.entriesFrom block (first ++ second)) = some _
      rw [Loading.entriesFrom_append, hlength]

/-- Chunk by chunk, the entries of all blocks are read. -/
theorem extracts_loadEntries (offset total : Nat) {chunks : Nat} (block : Nat) (loading : Loading)
    (hchunks : chunks = (total - block + chunkSize - 1) / chunkSize) :
    Extracts bytes (loadEntries offset total block loading chunks)
      ((bytes.range? (offset + block) (total - block)).map (loading.entriesFrom block)) := by
  induction chunks generalizing block loading with
  | zero =>
    have hnone : total - block = 0 := by
      simp only [chunkSize] at hchunks
      omega
    rw [hnone]
    exact .pure loading
  | succ chunks ih =>
    -- the first chunk and the rest make up the entries from `block` on
    have hrest : chunks
        = (total - (block + min (total - block) chunkSize) + chunkSize - 1) / chunkSize := by
      simp only [chunkSize] at hchunks ⊢
      omega
    have hsplit : total - block
        = min (total - block) chunkSize + (total - (block + min (total - block) chunkSize)) := by
      omega
    rw [loadEntries]
    generalize min (total - block) chunkSize = n at hrest hsplit ⊢
    rw [hsplit, range?_entriesFrom]
    exact (extracts_fetch _ _ _).bind fun values => ih _ _ hrest

theorem extracts_loadBytes (offset : Nat) (bitmap : Bitmap) :
    Extracts bytes (loadBytes offset bitmap)
      (loading? bytes offset bitmap .legacy) := by
  have hentries : Extracts bytes _ _ :=
    extracts_loadEntries offset bitmap.length 0 { bitmap := bitmap } rfl
  rw [Nat.sub_zero, Nat.add_zero] at hentries
  rw [← Option.bind_fun_some (loading? bytes offset bitmap .legacy)]
  refine hentries.bind fun loading => ?_
  split
  · exact (Extracts.warn _).bind fun _ => .pure loading
  · exact .pure loading

theorem extracts_loadBits (offset : Nat) (bitmap : Bitmap) :
    Extracts bytes (loadBits offset bitmap) (loading? bytes offset bitmap .current) := by
  rw [loading?, Option.map_eq_bind]
  exact (extracts_fetch _ _ _).bind fun _ => .pure _

theorem extracts_loadStored (format : Format) (offset : Nat) (bitmap : Bitmap) :
    Extracts bytes (loadStored format offset bitmap) (loading? bytes offset bitmap format) := by
  cases format with
  | legacy => exact extracts_loadBytes offset bitmap
  | current => exact extracts_loadBits offset bitmap

/-- **The block map is read off the bytes.** -/
theorem extracts_load (format : Format) (layout : RecordLayout) (total factor : Nat) :
    Extracts bytes (load format layout total factor)
      (of? bytes format layout total factor) := by
  have hrest : ∀ loading, Extracts bytes
      (fetch layout.magicOffset bitmapMagic.length .readBitmap >>= fun magic =>
        if magic ≠ bitmapMagic then throw Error.bitmapMagic >>= fun _ : PUnit =>
          pure (assemble layout total factor loading)
        else pure (assemble layout total factor loading))
      ((bytes.range? layout.magicOffset bitmapMagic.length).bind fun magic =>
        if magic ≠ bitmapMagic then (none : Option PUnit).bind fun _ =>
          some (assemble layout total factor loading)
        else some (assemble layout total factor loading)) := by
    intro loading
    refine (extracts_fetch _ _ _).bind fun magic => ?_
    split
    · exact (Extracts.throw _).bind fun _ => .pure _
    · exact .pure _
  rw [of?, ← toOption_mapError Error.allocateBitmap]
  exact (Extracts.ofExcept _).bind fun empty => (extracts_loadStored format _ empty).bind hrest

/-! ### The bits -/

/-- The entry of a block in the stored bitmap: a byte that is 1, or a bit. -/
def marked (bytes : Bytes) (offset block : Nat) : Format → Bool
  | .legacy => bytes.getD (offset + block) 0 == 1
  | .current => (bytes.getD (offset + block / 8) 0).toNat.testBit (block % 8)

/-- A block map of an image whose layout is known: it has the bits that are stored, its index and number
of used blocks are made of them, and its buffers are as large as the layout asks for. -/
structure Fits (map : BlockMap) (bytes : Bytes) (format : Format) (layout : RecordLayout)
    (total : Nat) : Prop where
  layout_eq : map.layout = layout
  length_eq : map.bitmap.length = total
  index_eq : ∃ factor, map.index = (PrefixCount.build map.bitmap factor).1
  used_eq : map.stats.used = map.bitmap.count 0 map.bitmap.length
  isSet_eq : ∀ block, block < total →
    map.bitmap.isSet block = marked bytes layout.bitmapOffset block format
  filler_eq : map.fillerSize = layout.blockSize
  scratch_eq : map.scratchSize = layout.trailer + layout.recordSize

/-- A block map that goes with a descriptor. -/
structure Suits (map : BlockMap) (descriptor : Descriptor) : Prop where
  length_eq : map.bitmap.length = descriptor.totalBlocks
  index_eq : ∃ factor, map.index = (PrefixCount.build map.bitmap factor).1
  layout : ∃ format, map.layout.Of format descriptor
  filler_eq : map.fillerSize = map.layout.blockSize
  scratch_eq : map.scratchSize = map.layout.trailer + map.layout.recordSize

theorem Suits.blockSize_eq {map : BlockMap} {descriptor : Descriptor} (h : map.Suits descriptor) :
    map.layout.blockSize = descriptor.blockSize :=
  h.layout.elim fun _ hlayout => hlayout.blockSize_eq

theorem Suits.blockSize_pos {map : BlockMap} {descriptor : Descriptor} (h : map.Suits descriptor) :
    0 < descriptor.blockSize :=
  h.layout.elim fun _ hlayout => hlayout.blockSize_pos

/-- Where a checksum is stored, the trailer is `Checksum.size` bytes. -/
theorem Suits.trailer_eq {map : BlockMap} {descriptor : Descriptor} (h : map.Suits descriptor)
    (hchecked : map.layout.algorithm ≠ .none) : map.layout.trailer = Checksum.size :=
  h.layout.elim fun _ hlayout => hlayout.trailer_eq hchecked

/-- The block map of an image goes with the descriptor that gives its layout. -/
theorem Fits.suits {map : BlockMap} {format : Format} {layout : RecordLayout} {total : Nat}
    (h : map.Fits bytes format layout total) {descriptor : Descriptor}
    (hlayout : layout.Of format descriptor) (htotal : descriptor.totalBlocks = total) :
    map.Suits descriptor where
  length_eq := h.length_eq.trans htotal.symm
  index_eq := h.index_eq
  layout := ⟨format, by rw [h.layout_eq]; exact hlayout⟩
  filler_eq := by rw [h.filler_eq, h.layout_eq]
  scratch_eq := by rw [h.scratch_eq, h.layout_eq]

theorem Loading.bitmap_entry (loading : Loading) (block : Nat) (value : UInt8) :
    (loading.entry block value).bitmap
      = if value = 1 then loading.bitmap.set block else loading.bitmap := by
  unfold entry
  split
  · rfl
  · split
    · rfl
    · rfl

theorem Loading.length_entriesFrom (loading : Loading) (block : Nat) (values : Bytes) :
    (loading.entriesFrom block values).bitmap.length = loading.bitmap.length := by
  induction values generalizing loading block with
  | nil => rfl
  | cons value values ih =>
    rw [entriesFrom, ih, bitmap_entry]
    split
    · rfl
    · rfl

/-- A block is used if it was before or its entry is 1. -/
theorem Loading.isSet_entriesFrom (loading : Loading) {block : Nat} {values : Bytes}
    (hfit : block + values.length ≤ loading.bitmap.length) (other : Nat) :
    (loading.entriesFrom block values).bitmap.isSet other
      = (loading.bitmap.isSet other
          || decide (block ≤ other) && values.getD (other - block) 0 == 1) := by
  induction values generalizing loading block with
  | nil => simp [entriesFrom]
  | cons value values ih =>
    rw [List.length_cons] at hfit
    have hlength : (loading.entry block value).bitmap.length = loading.bitmap.length := by
      rw [bitmap_entry]
      split
      · rfl
      · rfl
    have hentry : (loading.entry block value).bitmap.isSet other
        = (loading.bitmap.isSet other || decide (other = block) && value == 1) := by
      rw [bitmap_entry]
      split
      · next hone =>
        rw [Bitmap.isSet_set _ (Bitmap.div_lt_size_bytes _ (by omega)), hone, Bool.or_comm]
        simp
      · next hone => simp [hone]
    rw [entriesFrom, ih _ (by rw [hlength]; omega), hentry, Bool.or_assoc]
    congr 1
    rcases Nat.lt_trichotomy other block with hlt | rfl | hgt
    · have h₁ : ¬ other = block := by omega
      have h₂ : ¬ block + 1 ≤ other := by omega
      have h₃ : ¬ block ≤ other := by omega
      simp [h₁, h₂, h₃]
    · have hself : ¬ other + 1 ≤ other := by omega
      simp [hself]
    · have h₁ : ¬ other = block := by omega
      have h₂ : block + 1 ≤ other := by omega
      have h₃ : block ≤ other := by omega
      have hsub : other - block = other - (block + 1) + 1 := by omega
      simp [h₁, h₂, h₃, hsub]

/-- Entries that are neither 0 nor 1 are counted. -/
theorem Loading.anomalous_entriesFrom (loading : Loading) (block : Nat) (values : Bytes) :
    (loading.entriesFrom block values).anomalous
      = loading.anomalous + values.countP fun value => value != 1 && value != 0 := by
  induction values generalizing loading block with
  | nil => rfl
  | cons value values ih =>
    rw [entriesFrom, ih, List.countP_cons]
    unfold entry
    split
    · next hone => simp [hone]
    · next hone =>
      split
      · next hzero => simp [hzero]
      · next hzero =>
        simp [hone, hzero]
        omega

theorem loading?_marked {format : Format} {offset total : Nat} {loading : Loading}
    (h : loading? bytes offset (Bitmap.clear total) format = some loading) :
    loading.bitmap.length = total ∧ ∀ block, block < total →
      loading.bitmap.isSet block = marked bytes offset block format := by
  have hlength : (Bitmap.clear total).length = total := rfl
  cases format with
  | legacy =>
    obtain ⟨values, hvalues, rfl⟩ := Option.map_eq_some_iff.mp h
    obtain ⟨rfl, hvaluesLength⟩ := Bytes.range?_eq_some hvalues
    rw [hlength] at hvaluesLength ⊢
    refine ⟨(Loading.length_entriesFrom _ _ _).trans hlength, ?_⟩
    intro block hblock
    rw [Loading.isSet_entriesFrom _ (by show 0 + _ ≤ (Bitmap.clear total).length; omega),
      Bitmap.isSet_clear, Bytes.getD_slice, Nat.sub_zero, if_pos hblock]
    simp [marked]
  | current =>
    obtain ⟨stored, hstored, rfl⟩ := Option.map_eq_some_iff.mp h
    obtain ⟨hslice, hstoredLength⟩ := Bytes.range?_eq_some hstored
    refine ⟨hlength, ?_⟩
    intro block hblock
    have hbyte : block / 8 < (Bitmap.clear total).bytes.size := (Bitmap.clear total).div_lt_size_bytes hblock
    have hsize : (Packed.ofBytes stored).size = (Bitmap.clear total).bytes.size := by
      rw [Packed.size_ofBytes, hstoredLength]
    show ((Bitmap.clear total).load (.ofBytes stored)).isSet block = _
    rw [Bitmap.isSet_load _ hsize, Packed.get_eq, Packed.toBytes_ofBytes, hslice, Bytes.getD_slice,
      if_pos hbyte]
    rfl

/-- The number of used blocks is the number of entries that say so. -/
theorem used_of_loading? {format : Format} {offset total : Nat} {loading : Loading}
    (h : loading? bytes offset (Bitmap.clear total) format = some loading) (factor : Nat) :
    (PrefixCount.build loading.bitmap factor).2
      = (List.range total).countP fun block => marked bytes offset block format := by
  obtain ⟨hlength, hmarked⟩ := loading?_marked h
  rw [PrefixCount.build_snd, hlength, PrefixCount.count_zero_eq]
  refine List.countP_congr fun block hblock => ?_
  rw [hmarked block (List.mem_range.mp hblock)]

/-- A bitmap that lies within the image can be read. -/
theorem exists_loading {format : Format} {offset total : Nat}
    (h : offset + format.bitmapLength total ≤ bytes.length) :
    ∃ loading, loading? bytes offset (Bitmap.clear total) format = some loading := by
  cases format with
  | legacy =>
    have hrange : offset + (Bitmap.clear total).length ≤ bytes.length := h
    rw [loading?, Bytes.range?_of_le hrange]
    exact ⟨_, rfl⟩
  | current =>
    have hrange : offset + (Bitmap.clear total).bytes.size ≤ bytes.length := by
      rw [(Bitmap.clear total).size_bytes]
      exact h
    rw [loading?, Bytes.range?_of_le hrange]
    exact ⟨_, rfl⟩

/-- A bitmap that is there, with the magic after it, can be loaded if it takes less than `allocationLimit` bytes. -/
theorem exists_of {format : Format} {layout : RecordLayout} {total factor : Nat}
    (hmemory : bytesForBits total < allocationLimit)
    (hbitmap : layout.bitmapLength = format.bitmapLength total)
    (hfit : layout.bitmapEnd ≤ bytes.length)
    (hmagic : bytes.slice layout.magicOffset bitmapMagic.length = bitmapMagic) :
    ∃ map, of? bytes format layout total factor = some map := by
  have hend : layout.bitmapOffset + format.bitmapLength total + bitmapMagic.length
      = layout.bitmapEnd := by
    rw [← hbitmap]
    rfl
  obtain ⟨loading, hloading⟩ : ∃ loading,
      loading? bytes layout.bitmapOffset (Bitmap.clear total) format = some loading :=
    exists_loading (by omega)
  refine ⟨assemble layout total factor loading, ?_⟩
  have hnew : (Bitmap.new total).toOption = some (Bitmap.clear total) := by
    rw [Bitmap.new, if_pos hmemory]
    rfl
  have hrange : bytes.range? layout.magicOffset bitmapMagic.length = some bitmapMagic := by
    rw [Bytes.range?_of_le hfit, hmagic]
  rw [of?, hnew, Option.bind_eq_bind, Option.bind_some, hloading, Option.bind_eq_bind,
    Option.bind_some, hrange]
  rfl

theorem of?_eq_some {format : Format} {layout : RecordLayout} {total factor : Nat} {map : BlockMap}
    (h : of? bytes format layout total factor = some map) :
    bytesForBits total < allocationLimit
      ∧ ∃ loading, loading? bytes layout.bitmapOffset (Bitmap.clear total) format = some loading
        ∧ map = assemble layout total factor loading := by
  obtain ⟨empty, hempty, h⟩ := Option.bind_eq_some_iff.mp h
  obtain ⟨loading, hloading, h⟩ := Option.bind_eq_some_iff.mp h
  obtain ⟨magic, -, h⟩ := Option.bind_eq_some_iff.mp h
  have hmap : map = assemble layout total factor loading := by
    split at h
    · cases h
    · exact (Option.some.inj h).symm
  rw [Bitmap.new] at hempty
  split at hempty
  · next hmemory =>
    obtain rfl : Bitmap.clear total = empty := Option.some.inj hempty
    exact ⟨hmemory, loading, hloading, hmap⟩
  · cases hempty

/-- The index of a block map is made of its bitmap, as densely as asked for. -/
theorem index_of {format : Format} {layout : RecordLayout} {total factor : Nat} {map : BlockMap}
    (h : of? bytes format layout total factor = some map) :
    map.index = (PrefixCount.build map.bitmap factor).1 := by
  obtain ⟨-, loading, -, rfl⟩ := of?_eq_some h
  rfl

/-- The number of entries of the stored bitmap that are neither 0 nor 1.  Bits are one or the other. -/
def anomalies (bytes : Bytes) (offset total : Nat) : Format → Nat
  | .legacy => (bytes.slice offset total).countP fun value => value != 1 && value != 0
  | .current => 0

/-- The entries that are neither 0 nor 1 are counted while the bitmap is loaded. -/
theorem anomalous_of_loading? {format : Format} {offset total : Nat} {loading : Loading}
    (h : loading? bytes offset (Bitmap.clear total) format = some loading) :
    loading.anomalous = anomalies bytes offset total format := by
  cases format with
  | legacy =>
    obtain ⟨values, hvalues, rfl⟩ := Option.map_eq_some_iff.mp h
    obtain ⟨rfl, -⟩ := Bytes.range?_eq_some hvalues
    rw [Loading.anomalous_entriesFrom]
    exact Nat.zero_add _
  | current =>
    obtain ⟨stored, -, rfl⟩ := Option.map_eq_some_iff.mp h
    rfl

theorem stats_of {format : Format} {layout : RecordLayout} {total factor : Nat} {map : BlockMap}
    (h : of? bytes format layout total factor = some map) :
    map.stats.anomalous = anomalies bytes layout.bitmapOffset total format
      ∧ map.stats.lastUsed = map.bitmap.last? total := by
  obtain ⟨-, loading, hloading, rfl⟩ := of?_eq_some h
  exact ⟨anomalous_of_loading? hloading, rfl⟩

/-- **The block map fits the image that it is read from.** -/
theorem fits_of {format : Format} {layout : RecordLayout} {total factor : Nat} {map : BlockMap}
    (h : of? bytes format layout total factor = some map) :
    map.Fits bytes format layout total := by
  obtain ⟨-, loading, hloading, rfl⟩ := of?_eq_some h
  obtain ⟨hlength, hmarked⟩ := loading?_marked hloading
  exact ⟨rfl, hlength, ⟨factor, rfl⟩, PrefixCount.build_snd _ factor, hmarked, rfl, rfl⟩

end BlockMap

end PartitionImage
