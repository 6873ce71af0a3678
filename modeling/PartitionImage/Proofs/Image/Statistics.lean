import PartitionImage.Proofs.Image.Head
import PartitionImage.Proofs.Image.Archive
/-!
# What the bitmap of an image holds

The bits and the statistics of a verified handle, block by block: which blocks are used, how many, the
last of them, and which entries of the stored bitmap are neither 0 nor 1.

* `BlockMap.oddities` are those entries with their blocks, in order; `BlockMap.anomalies_of_loading?` says
  that the first of them are remembered, however the bitmap is read.
* `BitmapStats.Tallies` relates statistics to the blocks that they count; `BlockMap.tallies_of` says that
  those of a block map do.
* `Image.statistics_of_verify` is the whole, of every image that is verified.
-/

namespace PartitionImage

/-! ### The last used block -/

/-- `last?` finds nothing just if no position below `n` is set. -/
theorem Bitmap.last?_eq_none_iff (map : Bitmap) (n : Nat) :
    map.last? n = none ↔ ∀ pos, pos < n → map.isSet pos = false := by
  induction n with
  | zero => simp [last?]
  | succ n ih =>
    unfold last?
    cases hset : map.isSet n with
    | true =>
      simp only [if_true, reduceCtorEq, false_iff]
      intro hnone
      rw [hnone n (Nat.lt_succ_self n)] at hset
      cases hset
    | false =>
      simp only [Bool.false_eq_true, if_false, ih]
      constructor
      · intro hnone pos hpos
        by_cases hlast : pos = n
        · rw [hlast, hset]
        · exact hnone pos (by omega)
      · intro hnone pos hpos
        exact hnone pos (by omega)

/-! ### Entries that are neither 0 nor 1 -/

/-- What there is to remember of an entry: nothing if it is 0 or 1. -/
def Anomaly.of? (block : Nat) (value : UInt8) : Option Anomaly :=
  if value = 1 ∨ value = 0 then none else some ⟨block, value⟩

namespace BlockMap

variable {bytes : Bytes}

/-- The entries from `block` on that are neither 0 nor 1, with their blocks. -/
def Loading.oddities (block : Nat) (values : Bytes) : List Anomaly :=
  (values.zipIdx block).filterMap fun entry => Anomaly.of? entry.2 entry.1

theorem Loading.oddities_cons (block : Nat) (value : UInt8) (values : Bytes) :
    oddities block (value :: values)
      = (Anomaly.of? block value).toList ++ oddities (block + 1) values := by
  unfold oddities
  rw [List.zipIdx_cons, List.filterMap_cons]
  cases Anomaly.of? block value with
  | none => simp
  | some anomaly => simp

theorem Loading.anomalies_entry {loading : Loading} (hroom : loading.anomalies.length ≤ maxAnomalies)
    (block : Nat) (value : UInt8) :
    (loading.entry block value).anomalies
      = (loading.anomalies ++ (Anomaly.of? block value).toList).take maxAnomalies := by
  unfold entry Anomaly.of?
  by_cases hone : value = 1
  · simp [hone, List.take_of_length_le hroom]
  · by_cases hzero : value = 0
    · simp [hzero, List.take_of_length_le hroom]
    · simp only [hone, hzero, if_false, or_self, Option.toList_some]
      by_cases hless : loading.anomalies.length < maxAnomalies
      · rw [if_pos hless, List.take_of_length_le]
        rw [List.length_append, List.length_singleton]
        omega
      · have hfull : loading.anomalies.length = maxAnomalies := by omega
        rw [if_neg hless, ← hfull, List.take_left]

/-- Of successive entries, the first that are neither 0 nor 1 are remembered, as many as there is room
for. -/
theorem Loading.anomalies_entriesFrom {loading : Loading}
    (hroom : loading.anomalies.length ≤ maxAnomalies) (block : Nat) (values : Bytes) :
    (loading.entriesFrom block values).anomalies
      = (loading.anomalies ++ oddities block values).take maxAnomalies := by
  induction values generalizing loading block with
  | nil => simp [entriesFrom, oddities, List.take_of_length_le hroom]
  | cons value values ih =>
    have hentry := anomalies_entry hroom block value
    have hleft : (loading.entry block value).anomalies.length ≤ maxAnomalies := by
      rw [hentry]
      exact List.length_take_le _ _
    have hcut : maxAnomalies - min maxAnomalies (loading.anomalies ++ (Anomaly.of? block value).toList).length
        = maxAnomalies - (loading.anomalies ++ (Anomaly.of? block value).toList).length := by
      omega
    rw [entriesFrom, ih hleft, hentry, oddities_cons, ← List.append_assoc, List.take_append,
      List.take_take, Nat.min_self, List.length_take, hcut, ← List.take_append]

/-- The blocks whose entries in the stored bitmap are neither 0 nor 1, with these, in order.  Bits are one
or the other. -/
def oddities (bytes : Bytes) (offset total : Nat) : Format → List Anomaly
  | .legacy =>
    (List.range total).filterMap fun block => Anomaly.of? block (bytes.getD (offset + block) 0)
  | .current => []

theorem Loading.length_oddities (block : Nat) (values : Bytes) :
    (oddities block values).length = values.countP fun value => value != 1 && value != 0 := by
  induction values generalizing block with
  | nil => rfl
  | cons value values ih =>
    rw [oddities_cons, List.length_append, ih, List.countP_cons, Nat.add_comm]
    unfold Anomaly.of?
    by_cases hone : value = 1
    · simp [hone]
    · by_cases hzero : value = 0
      · simp [hzero]
      · simp [hone, hzero]

theorem Loading.oddities_slice {offset total : Nat} (h : (bytes.slice offset total).length = total) :
    oddities 0 (bytes.slice offset total) = BlockMap.oddities bytes offset total .legacy := by
  have hentries : (bytes.slice offset total).zipIdx
      = (List.range total).map fun block => (bytes.getD (offset + block) 0, block) := by
    apply List.ext_getElem?
    intro block
    rw [List.getElem?_zipIdx, List.getElem?_map, Nat.zero_add]
    by_cases hblock : block < total
    · have hbyte := Bytes.getD_slice bytes offset total block
      rw [if_pos hblock, List.getD_eq_getElem?_getD, List.getElem?_eq_getElem (by omega),
        Option.getD_some] at hbyte
      rw [List.getElem?_range hblock, List.getElem?_eq_getElem (by omega), hbyte]
      rfl
    · rw [List.getElem?_eq_none (by omega), List.getElem?_eq_none (by simpa using hblock)]
      rfl
  rw [oddities, hentries, List.filterMap_map]
  rfl

/-- **The entries that are neither 0 nor 1 are counted, and the first of them remembered**, while the bitmap
is loaded. -/
theorem anomalies_of_loading? {format : Format} {offset total : Nat} {loading : Loading}
    (h : loading? bytes offset (Bitmap.clear total) format = some loading) :
    loading.anomalous = (oddities bytes offset total format).length
      ∧ loading.anomalies = (oddities bytes offset total format).take maxAnomalies := by
  cases format with
  | legacy =>
    obtain ⟨values, hvalues, rfl⟩ := Option.map_eq_some_iff.mp h
    obtain ⟨rfl, hlength⟩ := Bytes.range?_eq_some hvalues
    have hslice : (bytes.slice offset total).length = total := hlength
    rw [← Loading.oddities_slice hslice]
    constructor
    · rw [Loading.length_oddities]
      exact anomalous_of_loading? h
    · rw [Loading.anomalies_entriesFrom (Nat.zero_le _)]
      exact congrArg (List.take maxAnomalies) (List.nil_append _)
  | current =>
    obtain ⟨stored, -, rfl⟩ := Option.map_eq_some_iff.mp h
    exact ⟨rfl, rfl⟩

/-- An entry that is neither 0 nor 1 leaves its block unused. -/
theorem countP_marked_add_length_oddities_le (bytes : Bytes) (offset total : Nat) (format : Format) :
    ((List.range total).countP fun block => marked bytes offset block format)
      + (oddities bytes offset total format).length ≤ total := by
  cases format with
  | legacy =>
    have hsplit : (List.range total).length = _ :=
      List.length_eq_countP_add_countP fun block => marked bytes offset block .legacy
    rw [List.length_range] at hsplit
    rw [oddities, List.length_filterMap_eq_countP]
    have hodd : (List.range total).countP
          (fun block => (Anomaly.of? block (bytes.getD (offset + block) 0)).isSome)
        ≤ (List.range total).countP fun block => ¬ marked bytes offset block .legacy := by
      apply List.countP_mono_left
      intro block _ hodd
      rw [decide_eq_true_eq]
      intro hmarked
      rw [marked, beq_iff_eq] at hmarked
      rw [Anomaly.of?, if_pos (.inl hmarked)] at hodd
      cases hodd
    omega
  | current =>
    exact Nat.le_trans List.countP_le_length (Nat.le_of_eq List.length_range)

end BlockMap

/-! ### Statistics -/

/-- Statistics of the blocks of a device: `used` says which of them are used, and `odd` are the entries of
the bitmap that say neither. -/
structure BitmapStats.Tallies (stats : BitmapStats) (total : Nat) (used : Nat → Bool)
    (odd : List Anomaly) : Prop where
  total_eq : stats.total = total
  used_eq : stats.used = (List.range total).countP used
  used_add_unused : stats.used + stats.unused = total
  lastUsed_eq_some_iff : ∀ block, stats.lastUsed = some block
    ↔ block < total ∧ used block = true ∧ ∀ later, block < later → later < total → used later = false
  lastUsed_eq_none_iff : stats.lastUsed = none ↔ ∀ block, block < total → used block = false
  anomalous_eq : stats.anomalous = odd.length
  anomalous_le : stats.anomalous ≤ stats.unused
  anomalies_eq : stats.anomalies = odd.take 64

namespace BlockMap

variable {bytes : Bytes}

/-- **The statistics of a block map are those of the stored bitmap.** -/
theorem tallies_of {format : Format} {layout : RecordLayout} {total factor : Nat} {map : BlockMap}
    (h : of? bytes format layout total factor = some map) :
    map.stats.Tallies total map.bitmap.isSet (oddities bytes layout.bitmapOffset total format) := by
  obtain ⟨-, loading, hloading, rfl⟩ := of?_eq_some h
  obtain ⟨hlength, -⟩ := loading?_marked hloading
  obtain ⟨hanomalous, hanomalies⟩ := anomalies_of_loading? hloading
  have hmarked := used_of_loading? hloading factor
  have hroom := countP_marked_add_length_oddities_le bytes layout.bitmapOffset total format
  have hused : (PrefixCount.build loading.bitmap factor).2
      = (List.range total).countP loading.bitmap.isSet := by
    rw [PrefixCount.build_snd, hlength, PrefixCount.count_zero_eq]
  exact {
    total_eq := rfl
    used_eq := hused
    used_add_unused := by
      show (PrefixCount.build loading.bitmap factor).2
        + (total - (PrefixCount.build loading.bitmap factor).2) = total
      omega
    lastUsed_eq_some_iff := loading.bitmap.last?_eq_some_iff total
    lastUsed_eq_none_iff := loading.bitmap.last?_eq_none_iff total
    anomalous_eq := hanomalous
    anomalous_le := by
      show loading.anomalous ≤ total - (PrefixCount.build loading.bitmap factor).2
      omega
    anomalies_eq := hanomalies }

/-- What the head of an accepted image says of the place and the number of its entries. -/
theorem laidOut_of_accepted? {format : Format} {descriptor : Descriptor} {layout : RecordLayout}
    (h : Descriptor.accepted? bytes = some (format, descriptor, layout)) :
    Format.of? bytes = some format ∧ LaidOut bytes format (descriptor, layout)
      ∧ format.magicOffset bytes + 8 ≤ bytes.length := by
  obtain ⟨version, hversion, hformat, hfitting⟩ := Descriptor.accepted?_eq_some_iff.mp h
  obtain ⟨hmagic, rfl⟩ := Descriptor.of_version? hversion
  -- the bytes in memory are read, and pass the checks
  have hgives : Source.Gives bytes (Source.ofBytes bytes, ({} : World)) := Source.faultless_ofBytes _ _
  have hread := (extracts_descriptor format).complete hgives.toDelivers hfitting
  have hsettles := (screens_descriptor format hmagic).settles hgives
  rw [hread] at hsettles
  exact ⟨hformat, hsettles.2⟩

end BlockMap

namespace Image

variable {O : Type} [Overlay O]

open PartitionImage.Action (perform)

/-- **The bitmap is loaded exactly, and so are its statistics.**  Whatever image is verified, in either
layout and in whatever mode, the handle has a bit for each block that the image gives, which is set just if
the stored bitmap has the block as used: if its byte is 1, or its bit.  The bitmap lies within the image.
The statistics count the bits that are set and those that are not, and name the last that is set; of a
byte for each block they also count those that are neither 0 nor 1, whose blocks are not used, and list the
first 64 of them in order. -/
theorem statistics_of_verify [LawfulOverlay O] {start verified : Image O × World}
    (hverify : perform verify start = (.ok (), verified)) {bytes : Bytes}
    (hstart : start.1.source.backing.Agrees start.2.disk bytes)
    (hloaded : start.1.source.backing.Agrees verified.2.disk bytes) :
    ∃ format descriptor map, Format.of? bytes = some format
      ∧ format.magicOffset bytes + 8 ≤ bytes.length
      ∧ verified.1.stage = .verified descriptor map
      ∧ descriptor.totalBlocks = format.totalBlocks bytes
      ∧ map.bitmap.length = format.totalBlocks bytes
      ∧ (∀ block, block < format.totalBlocks bytes →
          map.bitmap.isSet block = BlockMap.marked bytes format.bitmapOffset block format)
      ∧ verified.1.stats? = some map.stats
      ∧ map.stats.Tallies (format.totalBlocks bytes) map.bitmap.isSet
          (BlockMap.oddities bytes format.bitmapOffset (format.totalBlocks bytes) format) := by
  obtain ⟨format, described, layout, map, loaded, hfrom⟩ := verifiedFrom_of_verify hverify
  rw [hfrom.disk inferInstance] at hloaded
  obtain ⟨hformat, hlaidOut, hend⟩ := BlockMap.laidOut_of_accepted? (hfrom.accepted hstart)
  have hfits := BlockMap.fits_of (hfrom.mapped hloaded)
  have htallies := BlockMap.tallies_of (hfrom.mapped hloaded)
  have hmarked := hfits.isSet_eq
  have hlength := hfits.length_eq
  rw [hlaidOut.totalBlocks, hlaidOut.bitmapOffset] at htallies hmarked
  rw [hlaidOut.totalBlocks] at hlength
  have hstats : verified.1.stats? = some map.stats := by
    rw [stats?, hfrom.stage]
  exact ⟨format, _, map, hformat, hend, hfrom.stage, hlaidOut.totalBlocks, hlength, hmarked, hstats, htallies⟩

/-- A legacy image of three blocks of two bytes, the first of which is used.  The entry of the second is 7. -/
@[irreducible] def oddEntry : Bytes :=
  Descriptor.imageMagic ++ List.replicate 15 0 ++ Version.legacy.bytes ++ [0, 0]
    ++ Bytes.ofNat 4 2 ++ Bytes.ofNat 8 6 ++ Bytes.ofNat 8 3 ++ Bytes.ofNat 8 1
    ++ List.replicate 4096 0 ++ [1, 7, 0] ++ bitmapMagic ++ [0x11, 0x11, 0, 0, 0, 0]

/-- The entry that is neither 0 nor 1 is listed, and its block is not used. -/
theorem statistics_of_verify_oddEntry :
    ∃ verified, perform verify (ofSource (O := MemoryStore) (.ofBytes oddEntry) "a.img" {} [], {})
        = (.ok (), verified)
      ∧ verified.1.stats? = some ⟨3, 1, 2, 1, [⟨1, 7⟩], some 0⟩ := by
  have hformat : Format.of? oddEntry = some .legacy := by decide +kernel
  have htotal : Format.legacy.totalBlocks oddEntry = 3 := by decide +kernel
  have hmemory : ∀ format, Format.of? oddEntry = some format →
      format.magicOffset oddEntry + 8 ≤ oddEntry.length →
        bytesForBits (format.totalBlocks oddEntry) < allocationLimit := by
    intro format hknown _
    rw [← Option.some.inj (hformat.symm.trans hknown), htotal]
    decide
  have hholds := Backing.holds_ofBytes
  have hfresh : Fresh oddEntry {} (ofSource (O := MemoryStore) (.ofBytes oddEntry) "a.img" {} [], {}) :=
    ⟨Source.faultless_ofBytes _ _, rfl, rfl⟩
  have hsettles := screens_verify rfl hfresh rfl hmemory
  obtain ⟨_, hdone⟩ := hsettles.isOk_iff.mpr (by decide +kernel)
  obtain ⟨verified, hverify⟩ : ∃ verified,
      perform verify (ofSource (O := MemoryStore) (.ofBytes oddEntry) "a.img" {} [], {})
        = (.ok (), verified) :=
    ⟨_, Prod.ext hdone rfl⟩
  refine ⟨verified, hverify, ?_⟩
  obtain ⟨format, descriptor, map, hknown, -, -, -, -, hmarked, hstats, htallies⟩ :=
    statistics_of_verify hverify (hholds _ oddEntry).toAgrees (hholds _ oddEntry).toAgrees
  obtain rfl := Option.some.inj (hformat.symm.trans hknown)
  rw [htotal] at hmarked htallies
  have hoddities : BlockMap.oddities oddEntry Format.legacy.bitmapOffset 3 .legacy = [⟨1, 7⟩] := by
    decide +kernel
  rw [hoddities] at htallies
  have hused : map.stats.used = 1 := by
    rw [htallies.used_eq]
    have hsame : (List.range 3).countP map.bitmap.isSet = (List.range 3).countP fun block =>
        BlockMap.marked oddEntry Format.legacy.bitmapOffset block .legacy := by
      refine List.countP_congr fun block hblock => ?_
      rw [hmarked block (List.mem_range.mp hblock)]
    rw [hsame]
    decide +kernel
  have hlast : map.stats.lastUsed = some 0 := by
    rw [htallies.lastUsed_eq_some_iff, hmarked 0 (by decide)]
    refine ⟨by decide, by decide +kernel, ?_⟩
    intro later hlo hhi
    rw [hmarked later hhi]
    have hcases : later = 1 ∨ later = 2 := by omega
    rcases hcases with rfl | rfl
    · decide +kernel
    · decide +kernel
  have hunused : map.stats.unused = 2 := by
    have hsum := htallies.used_add_unused
    omega
  have hparts : map.stats = ⟨map.stats.total, map.stats.used, map.stats.unused, map.stats.anomalous,
      map.stats.anomalies, map.stats.lastUsed⟩ := rfl
  rw [hstats, hparts, htallies.total_eq, hused, hunused, htallies.anomalous_eq, htallies.anomalies_eq, hlast]
  rfl

end Image

end PartitionImage
