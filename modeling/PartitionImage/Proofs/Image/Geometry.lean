import PartitionImage.Proofs.Image.Lifecycle
/-!
# Room for the bitmap

The number of blocks of an image is whatever its head says, up to 64 bits.  Before anything is sized from it, the
bitmap and the magic after it must lie within the image: then no place of either is reduced, the bitmap in memory is
no larger than the image, and what is loaded are the bytes of the stored bitmap and no others.

* `Covers` says that ranges are those of one area, one after the other; `BlockMap.Reads` that an action reads ranges.
* `BlockMap.reads_loadStored` says so of the bitmap in either format.
* `RecordLayout.Housed` is a bitmap for which there is room, `BlockMap.housed_of_descriptor` where that is found out.
* `Image.perform_verify_crowded` is a verification that finds no room; `Image.geometry_gate` puts it together.
-/

namespace PartitionImage

/-! ### Ranges -/

/-- How many bytes there are in ranges. -/
def extent : List (Nat × Nat) → Nat
  | [] => 0
  | range :: ranges => range.2 + extent ranges

/-- Ranges, each a place and a length, that lie one after the other in the `length` bytes from `start`, and leave none
of them out. -/
structure Covers (ranges : List (Nat × Nat)) (start length : Nat) : Prop where
  within : ∀ range ∈ ranges, start ≤ range.1 ∧ range.1 + range.2 ≤ start + length
  apart : ranges.Pairwise fun first second => first.1 + first.2 ≤ second.1
  extent_eq : extent ranges = length

theorem covers_nil (start : Nat) : Covers [] start 0 :=
  ⟨fun _ hrange => absurd hrange List.not_mem_nil, .nil, rfl⟩

/-- A range and the area after it make a larger area. -/
theorem Covers.cons {ranges : List (Nat × Nat)} {start n length : Nat} (h : Covers ranges (start + n) length) :
    Covers ((start, n) :: ranges) start (n + length) where
  within := by
    intro range hrange
    rcases List.mem_cons.mp hrange with rfl | hrange
    · exact ⟨Nat.le_refl _, by dsimp only; omega⟩
    · have hwithin := h.within range hrange
      omega
  apart := List.pairwise_cons.mpr ⟨fun range hrange => (h.within range hrange).1, h.apart⟩
  extent_eq := congrArg (n + ·) h.extent_eq

theorem covers_one (start length : Nat) : Covers [(start, length)] start length :=
  (covers_nil (start + length)).cons

theorem Bytes.range?_take (bytes : Bytes) {n size : Nat} (h : n ≤ size) :
    Bytes.range? (bytes.take size) 0 n = bytes.range? 0 n := by
  have hslice : Bytes.slice (bytes.take size) 0 n = bytes.slice 0 n := by
    rw [slice, slice, List.drop_zero, List.drop_zero, List.take_take, Nat.min_eq_left h]
  unfold range?
  rw [hslice, List.length_take]
  congr 1
  exact propext (by omega)

theorem Descriptor.head_take (bytes : Bytes) :
    version? (bytes.take legacySize) = version? bytes
      ∧ decode? (bytes.take legacySize) .legacy = decode? bytes .legacy :=
  ⟨congrArg (Option.bind · _) (bytes.range?_take (by decide)),
    congrArg (Option.bind · _) (bytes.range?_take (by decide))⟩

namespace BlockMap

open Source (Extracts extracts_fetch)
open PartitionImage.Action (Respects perform perform_bind_ok perform_bind_error)

variable {α : Type}

/-! ### What is read of an image -/

/-- Reads ranges of the image that are needed whole, one after the other. -/
def fetchAll (wrap : IoError → Error) : List (Nat × Nat) → Action (Source × World) Error Bytes
  | [] => return []
  | (offset, n) :: ranges => do
    let first ← fetch offset n wrap
    let rest ← fetchAll wrap ranges
    return first ++ rest

/-- An action reads some ranges of the image, one after the other, and nothing after them. -/
def Reads (act : Action (Source × World) Error α) (wrap : IoError → Error) (ranges : List (Nat × Nat)) : Prop :=
  ∃ finish : Bytes → Action (Source × World) Error α,
    (∀ bytes state, (perform (finish bytes) state).2.1 = state.1)
      ∧ ∀ state, perform act state = perform (fetchAll wrap ranges >>= finish) state

theorem length_of_fetch {offset n : Nat} {wrap : IoError → Error} {state reached : Source × World} {got : Bytes}
    (h : perform (fetch offset n wrap) state = (.ok got, reached)) : got.length = n :=
  (Bytes.range?_eq_some ((extracts_fetch offset n wrap).sound (state.1.backing.agrees_contents state.2.disk)
    (congrArg Prod.fst h))).2

/-- The chunks of a bitmap of one byte for each block, from `block` on. -/
def chunkRanges (offset total : Nat) : (block chunks : Nat) → List (Nat × Nat)
  | _, 0 => []
  | block, chunks + 1 =>
    let n := min (total - block) chunkSize
    (offset + block, n) :: chunkRanges offset total (block + n) chunks

/-- The chunks are the entries from `block` on. -/
theorem covers_chunkRanges (offset total : Nat) {chunks : Nat} (block : Nat)
    (hchunks : chunks = (total - block + chunkSize - 1) / chunkSize) :
    Covers (chunkRanges offset total block chunks) (offset + block) (total - block) := by
  induction chunks generalizing block with
  | zero =>
    have hnone : total - block = 0 := by
      simp only [chunkSize] at hchunks
      omega
    rw [hnone]
    exact covers_nil _
  | succ chunks ih =>
    have hrest : chunks = (total - (block + min (total - block) chunkSize) + chunkSize - 1) / chunkSize := by
      simp only [chunkSize] at hchunks ⊢
      omega
    have hsplit : total - block
        = min (total - block) chunkSize + (total - (block + min (total - block) chunkSize)) := by
      omega
    rw [chunkRanges]
    generalize min (total - block) chunkSize = n at hrest hsplit ⊢
    have hcovers := ih (block + n) hrest
    rw [← Nat.add_assoc] at hcovers
    rw [hsplit]
    exact hcovers.cons

/-- **The entries of a bitmap are read chunk by chunk**, and say together what they say one chunk after the other. -/
theorem perform_loadEntries (offset total block chunks : Nat) (loading : Loading) (state : Source × World) :
    perform (loadEntries offset total block loading chunks) state
      = perform (fetchAll .readBitmap (chunkRanges offset total block chunks) >>= fun stored =>
          pure (loading.entriesFrom block stored)) state := by
  induction chunks generalizing block loading state with
  | zero => rfl
  | succ chunks ih =>
    rw [loadEntries, chunkRanges, fetchAll, bind_assoc]
    rcases hfetch : perform (fetch (offset + block) (min (total - block) chunkSize) .readBitmap) state
      with ⟨result, reached⟩
    cases result with
    | error error => rw [perform_bind_error hfetch, perform_bind_error hfetch]
    | ok values =>
      have hlength := length_of_fetch hfetch
      rw [perform_bind_ok hfetch, perform_bind_ok hfetch, ih]
      simp only [bind_assoc, pure_bind, Loading.entriesFrom_append, hlength]

/-- **In either format what is read are the bytes of the stored bitmap.** -/
theorem reads_loadStored (format : Format) (offset : Nat) (empty : Bitmap) :
    ∃ ranges, Reads (loadStored format offset empty) .readBitmap ranges
      ∧ Covers ranges offset (format.bitmapLength empty.length) := by
  cases format with
  | legacy =>
    have hcovers := covers_chunkRanges offset empty.length 0 rfl
    refine ⟨_, ⟨fun stored => do
      let loading : Loading := Loading.entriesFrom { bitmap := empty } 0 stored
      if 0 < loading.anomalous then
        Action.warn (.anomalousBitmap loading.anomalous loading.anomalies.head?)
      return loading, fun stored state => ?_, fun state => ?_⟩, hcovers⟩
    · dsimp only
      split
      · rfl
      · rfl
    · show perform (loadEntries _ _ _ _ _ >>= _) state = _
      rw [Action.perform_bind, perform_loadEntries, ← Action.perform_bind, bind_assoc]
      simp only [pure_bind]
      rfl
  | current =>
    refine ⟨[(offset, empty.bytes.size)], ⟨fun stored => return { bitmap := empty.load (.ofBytes stored) },
      fun _ _ => rfl, fun state => ?_⟩, ?_⟩
    · simp only [loadStored, loadBits, fetchAll, bind_assoc, pure_bind, List.append_nil]
    · rw [empty.size_bytes]
      exact covers_one offset _

/-! ### What is decided before that -/

structure Asked (before after : Source × World) : Prop where
  later : before.1.Later after.1
  world : after.2 = before.2

theorem Asked.refl (state : Source × World) : Asked state state := ⟨.refl _, rfl⟩

theorem Asked.trans {a b c : Source × World} (hab : Asked a b) (hbc : Asked b c) : Asked a c :=
  ⟨hab.later.trans hbc.later, hbc.world.trans hab.world⟩

instance : Std.Refl Asked := ⟨Asked.refl⟩

instance : Trans Asked Asked Asked := ⟨Asked.trans⟩

theorem Asked.size {before after : Source × World} (h : Asked before after) :
    after.1.size after.2.disk = before.1.size before.2.disk := by
  obtain ⟨calls, -, hsource⟩ := h.later
  rw [hsource, h.world]
  rfl

theorem fetch_asked (offset n : Nat) (wrap : IoError → Error) : Respects Asked (fetch offset n wrap) :=
  fun state => ⟨state.1.readExact_later state.2.disk offset n, rfl⟩

theorem readVersion_asked : Respects Asked readVersion :=
  (fetch_asked _ _ _).bind fun _ => .ofExcept _

theorem readLayout_asked (format : Format) : Respects Asked (readLayout format) := by
  cases format with
  | legacy => exact (fetch_asked _ _ _).bind fun _ => .bind (.ofExcept _) fun _ => .pure _
  | current =>
    refine (fetch_asked _ _ _).bind fun stored => .bind (.ofExcept _) fun descriptor => ?_
    dsimp only
    split
    · exact .bind (.throw _) fun _ => .bind (.ofExcept _) fun _ => .pure _
    · exact .bind (.ofExcept _) fun _ => .pure _

/-- **An image that is too short for its bitmap is refused**, or one whose size cannot be told. -/
theorem perform_readDescriptor_crowded {format : Format} {state reached : Source × World} {described : Descriptor}
    {layout : RecordLayout} (h : perform (readLayout format) state = (.ok (described, layout), reached))
    (hroom : state.1.backing.size state.2.disk < layout.bitmapEnd) :
    perform (readDescriptor format) state
      = (.error (.readBitmap (state.1.sizeFault.getD .endBeforeTrailer)), reached) := by
  have hsize := ((readLayout_asked format).of_perform h).size
  rw [readDescriptor, perform_bind_ok h, perform_bind_ok (Action.perform_get reached)]
  dsimp only
  rw [hsize, Source.size]
  cases state.1.sizeFault with
  | some fault => rfl
  | none =>
    rw [Action.perform_bind, Action.perform_ofExcept]
    show perform (if state.1.backing.size state.2.disk < layout.bitmapEnd then _ else _) reached = _
    rw [if_pos hroom]
    rfl

end BlockMap

/-- A bitmap for which an image of `size` bytes has room, with the magic after it: where the magic is and where the
records start are below `2^64`. -/
structure RecordLayout.Housed (layout : RecordLayout) (size : Nat) : Prop where
  end_le : layout.bitmapOffset + layout.bitmapLength + 8 ≤ size
  magicOffset_lt : layout.bitmapOffset + layout.bitmapLength < range64
  dataOffset_eq : layout.dataOffset = layout.bitmapOffset + layout.bitmapLength + 8

namespace BlockMap

open PartitionImage.Action (perform)

/-- A bit for each block takes no more than the stored bitmap. -/
theorem bytesForBits_le (format : Format) (total : Nat) : bytesForBits total ≤ format.bitmapLength total := by
  cases format with
  | legacy =>
    show (total + 7) / 8 ≤ total
    omega
  | current => exact Nat.le_refl _

/-- **A descriptor that is accepted comes with room for the bitmap**, which is no longer than the image. -/
theorem housed_of_descriptor {format : Format} {state reached : Source × World} {descriptor : Descriptor}
    {layout : RecordLayout} (hsize : state.1.backing.size state.2.disk < range64)
    (h : perform (readDescriptor format) state = (.ok (descriptor, layout), reached)) :
    layout.Housed (state.1.backing.size state.2.disk)
      ∧ layout.bitmapLength = format.bitmapLength descriptor.totalBlocks := by
  have hagrees := state.1.backing.agrees_contents state.2.disk
  have hfitting := (extracts_descriptor format).sound hagrees (congrArg Prod.fst h)
  obtain ⟨hdecoded, hfit⟩ := Descriptor.fitting?_eq_some_iff.mp hfitting
  rw [← hagrees.size_eq] at hfit
  have hend : layout.bitmapEnd = layout.bitmapOffset + layout.bitmapLength + 8 := rfl
  refine ⟨⟨hfit, ?_, ?_⟩, (Descriptor.layout_of_decode? hdecoded).bitmapLength_eq⟩
  · omega
  · rw [RecordLayout.dataOffset, saturate64_of_lt (by omega), hend]

end BlockMap

namespace Image

variable {O : Type} [Overlay O]

open BlockMap (Reads loadStored readVersion readLayout readDescriptor)
open PartitionImage.Action (perform perform_bind_ok perform_bind_error)

theorem perform_reach (stage : Stage) (state : Image O × World) :
    perform (reach stage) state = (.ok (), { state.1 with stage := stage }, state.2) := rfl

/-- **A verification that finds no room for the bitmap ends there**: nothing is known of the image, no overlay was
asked for, and the world is as it was. -/
theorem perform_verify_crowded {source : Source} (path : String) (options : OpenOptions) (setup : Overlay.Setup O)
    {world : World} {version : Version} {format : Format} {described : Descriptor} {layout : RecordLayout}
    {read reached : Source × World} (hversion : perform readVersion (source, world) = (.ok version, read))
    (hformat : Format.ofVersion? version = some format)
    (hdescribed : perform (readLayout format) read = (.ok (described, layout), reached))
    (hroom : source.backing.size world.disk < layout.bitmapEnd) :
    source.Later reached.1
      ∧ perform verify (ofSource source path options setup, world)
        = (.error (.readBitmap (source.sizeFault.getD .endBeforeTrailer)),
          { ofSource reached.1 path options setup with stage := .versionSelected }, world) := by
  have hread := BlockMap.readVersion_asked.of_perform hversion
  have hreached := (BlockMap.readLayout_asked format).of_perform hdescribed
  have hworld : reached.2 = world := hreached.world.trans hread.world
  obtain ⟨calls, -, hsource⟩ := id hread.later
  have hsize : read.1.backing.size read.2.disk < layout.bitmapEnd := by
    rw [hread.world, hsource]
    exact hroom
  have hfault : read.1.sizeFault = source.sizeFault := by rw [hsource]
  have hrefused := BlockMap.perform_readDescriptor_crowded hdescribed hsize
  have hhead : perform (onSource (O := O) readVersion) (ofSource source path options setup, world)
      = (.ok version, ofSource read.1 path options setup, read.2) := by
    rw [perform_onSource, show ((ofSource source path options setup : Image O), world).1.source = source from rfl,
      hversion]
    rfl
  have hgate : perform (onSource (readDescriptor format))
      (({ ofSource read.1 path options setup with stage := .versionSelected }, read.2) : Image O × World)
      = (.error (.readBitmap (source.sizeFault.getD .endBeforeTrailer)),
        { ofSource reached.1 path options setup with stage := .versionSelected }, world) := by
    rw [perform_onSource, ← hworld, ← hfault]
    dsimp only [ofSource]
    rw [hrefused]
  refine ⟨hread.later.trans hreached.later, ?_⟩
  rw [verify, perform_bind_ok (perform_require_opened rfl), perform_bind_ok (Action.perform_get _)]
  dsimp only
  rw [perform_bind_ok hhead, perform_bind_ok (perform_reach _ _), hformat]
  dsimp only
  rw [perform_bind_ok (perform_reach _ _)]
  exact perform_bind_error hgate

/-- **The bitmap is given room before anything is sized from it.**  A descriptor that is accepted has bitmap and magic
within the image, so that the place of either is below `2^64`; the bitmap that is allocated is no larger than the image,
and what is read into it are the bytes of the stored bitmap, all of them and no others.  If there is no room, however
large the numbers in the head, verification fails in every mode: nothing is known of the image then, there is no
overlay, and no file is touched. -/
theorem geometry_gate (source : Source) (path : String) (options : OpenOptions) (setup : Overlay.Setup O)
    (world : World) (hsize : source.backing.size world.disk < range64) :
    (∀ format descriptor layout reached,
        perform (readDescriptor format) (source, world) = (.ok (descriptor, layout), reached) →
        layout.Housed (source.backing.size world.disk)
          ∧ ∀ empty, Bitmap.new descriptor.totalBlocks = .ok empty →
            empty.bytes.size ≤ source.backing.size world.disk
              ∧ ∃ ranges, Reads (loadStored format layout.bitmapOffset empty) .readBitmap ranges
                ∧ Covers ranges layout.bitmapOffset layout.bitmapLength)
      ∧ ∀ version format described layout read reached,
        perform readVersion (source, world) = (.ok version, read) → Format.ofVersion? version = some format →
        perform (readLayout format) read = (.ok (described, layout), reached) →
        source.backing.size world.disk < layout.bitmapOffset + layout.bitmapLength + 8 →
        ∃ refused : Image O, ∃ later, source.Later later
          ∧ perform verify (ofSource source path options setup, world)
            = (.error (.readBitmap (source.sizeFault.getD .endBeforeTrailer)), refused, world)
          ∧ refused = { ofSource later path options setup with stage := .versionSelected }
          ∧ refused.descriptor? = none ∧ refused.dataOffset? = none ∧ refused.stats? = none
          ∧ refused.overlay = none := by
  refine ⟨fun format descriptor layout reached hdescribed => ?_,
    fun version format described layout read reached hversion hformat hdescribed hroom => ?_⟩
  · obtain ⟨hhoused, hlength⟩ := BlockMap.housed_of_descriptor hsize hdescribed
    refine ⟨hhoused, fun empty hnew => ?_⟩
    obtain rfl : Bitmap.clear descriptor.totalBlocks = empty := by
      rw [Bitmap.new] at hnew
      split at hnew
      · exact Except.ok.inj hnew
      · cases hnew
    obtain ⟨ranges, hreads, hcovers⟩ :=
      BlockMap.reads_loadStored format layout.bitmapOffset (Bitmap.clear descriptor.totalBlocks)
    have hbits := BlockMap.bytesForBits_le format descriptor.totalBlocks
    have hend : layout.bitmapOffset + layout.bitmapLength + 8 ≤ source.backing.size world.disk := hhoused.end_le
    rw [← hlength] at hbits
    refine ⟨?_, ranges, hreads, ?_⟩
    · rw [Bitmap.size_bytes, show (Bitmap.clear descriptor.totalBlocks).length = descriptor.totalBlocks from rfl]
      omega
    · rw [hlength]
      exact hcovers
  · obtain ⟨hlater, hverify⟩ :=
      perform_verify_crowded path options setup hversion hformat hdescribed hroom
    exact ⟨_, _, hlater, hverify, rfl, rfl, rfl, rfl, rfl⟩

/-- A legacy head of `2^64 - 11` blocks. -/
def vast : Archive := .plain (List.replicate 18446744073709551605 none) (by rw [List.length_replicate]; decide)

theorem bitmapLength_vast : vast.layout.bitmapLength = 18446744073709551605 := List.length_replicate

/-- An image that ends after its head, and claims so many blocks that its bitmap would end past `2^64` bytes, is refused
in every mode; an image of two blocks has its two entries read. -/
theorem geometry_gate_vast :
    (∀ options : OpenOptions, ∃ refused : Image MemoryStore, ∃ later,
        (Source.ofBytes ((vast.image []).take Descriptor.legacySize)).Later later
          ∧ perform verify
            (ofSource (.ofBytes ((vast.image []).take Descriptor.legacySize)) "a.img" options [], {})
              = (.error (.readBitmap .endBeforeTrailer), refused, {})
          ∧ refused.descriptor? = none ∧ refused.dataOffset? = none ∧ refused.overlay = none)
      ∧ range64 ≤ vast.layout.bitmapOffset + vast.layout.bitmapLength + 8
      ∧ ∃ descriptor layout reached,
        perform (readDescriptor .legacy) (.ofBytes twoBlocks.bytes, {}) = (.ok (descriptor, layout), reached)
          ∧ layout.Housed twoBlocks.bytes.length ∧ layout.dataOffset = 4170
          ∧ ∃ ranges, Reads (loadStored .legacy layout.bitmapOffset (.clear 2)) .readBitmap ranges
            ∧ Covers ranges 4160 2 := by
  refine ⟨fun options => ?_, ?_, ?_⟩
  · obtain ⟨described, hdecoded, -⟩ := vast.decode?_image []
    obtain ⟨version, hversion, hformat⟩ := vast.version?_image []
    obtain ⟨hversionTake, hdecodedTake⟩ := Descriptor.head_take (vast.image [])
    rw [← hversionTake] at hversion
    replace hdecoded := hdecodedTake.trans hdecoded
    have hlength : ((vast.image []).take Descriptor.legacySize).length ≤ 4160 := by
      rw [List.length_take]
      exact Nat.min_le_left _ _
    generalize (vast.image []).take Descriptor.legacySize = bytes at hversion hdecoded hlength ⊢
    have hdelivers : (Source.ofBytes bytes).Delivers ({} : World).disk bytes := Source.delivers_ofBytes _ bytes
    have hsize : (Source.ofBytes bytes).backing.size ({} : World).disk = bytes.length := hdelivers.holds.size_eq
    have hrange : (Source.ofBytes bytes).backing.size ({} : World).disk < range64 := by
      rw [hsize, range64]
      omega
    have hread : (perform readVersion (.ofBytes bytes, {})).1 = .ok version :=
      BlockMap.extracts_version.complete hdelivers hversion
    have honward := (@BlockMap.extracts_version bytes).onward (.ofBytes bytes, {})
    have hdescribed := (BlockMap.extracts_layout .legacy).complete (honward.delivers hdelivers) hdecoded
    obtain ⟨-, hrefuse⟩ := geometry_gate (O := MemoryStore) (.ofBytes bytes) "a.img" options [] {} hrange
    obtain ⟨refused, later, hlater, hverify, -, hdescriptor, hoffset, -, hoverlay⟩ :=
      hrefuse version .legacy described vast.layout _ _ (Prod.ext hread rfl) hformat (Prod.ext hdescribed rfl)
        (by rw [hsize, bitmapLength_vast]; omega)
    exact ⟨refused, later, hlater, hverify, hdescriptor, hoffset, hoverlay⟩
  · rw [bitmapLength_vast]
    decide
  · obtain ⟨described, haccepted, hrecorded⟩ := twoBlocks.accepted twoBlocks.records
    obtain ⟨version, -, -, hfitting⟩ := Descriptor.accepted?_eq_some_iff.mp haccepted
    have hdelivers : (Source.ofBytes twoBlocks.bytes).Delivers ({} : World).disk twoBlocks.bytes :=
      Source.delivers_ofBytes _ _
    have hsize : (Source.ofBytes twoBlocks.bytes).backing.size ({} : World).disk = twoBlocks.bytes.length :=
      hdelivers.holds.size_eq
    have hdescribed : (perform (readDescriptor .legacy) (.ofBytes twoBlocks.bytes, {})).1
        = .ok (described, twoBlocks.layout) := (BlockMap.extracts_descriptor .legacy).complete hdelivers hfitting
    rcases hrun : perform (readDescriptor .legacy) (.ofBytes twoBlocks.bytes, {}) with ⟨result, reached⟩
    rw [hrun] at hdescribed
    obtain rfl : result = .ok (described, twoBlocks.layout) := hdescribed
    obtain ⟨hgate, -⟩ := geometry_gate (O := MemoryStore) (.ofBytes twoBlocks.bytes) "a.img" {} [] {}
      (by rw [hsize]; exact length_twoBlocks)
    obtain ⟨hhoused, hbitmap⟩ := hgate .legacy described twoBlocks.layout reached hrun
    have hnew : Bitmap.new described.totalBlocks = .ok (.clear 2) := by
      rw [hrecorded.totalBlocks_eq]
      rfl
    obtain ⟨-, ranges, hreads, hcovers⟩ := hbitmap _ hnew
    rw [hsize] at hhoused
    exact ⟨described, twoBlocks.layout, reached, rfl, hhoused, hhoused.dataOffset_eq.trans (by decide), ranges,
      hreads, hcovers⟩

end Image

end PartitionImage
