import PartitionImage.Proofs.Extraction
/-!
# The descriptor of an image

Format, descriptor and layout as functions of the bytes of an image, and that this is what is read.

* `Descriptor.accepted?` is what the head of an image says, if it can be read.
* `BlockMap.extracts_version` and `BlockMap.extracts_descriptor` say that it is read.
* `RecordLayout.Of` is what a layout has in common with its descriptor;
  `Descriptor.layout_of_decode?` says that it does.
-/

namespace PartitionImage

/-- Bytes of the stored bitmap of a device. -/
def Format.bitmapLength (total : Nat) : Format → Nat
  | .legacy => total
  | .current => bytesForBits total

/-- What a layout that was read off a descriptor has in common with it. -/
structure RecordLayout.Of (layout : RecordLayout) (format : Format) (descriptor : Descriptor) :
    Prop where
  blockSize_eq : layout.blockSize = descriptor.blockSize
  blockSize_pos : 0 < descriptor.blockSize
  bitmapLength_eq : layout.bitmapLength = format.bitmapLength descriptor.totalBlocks
  trailer_eq : layout.algorithm ≠ .none → layout.trailer = Checksum.size

namespace Descriptor

def version? (bytes : Bytes) : Option Version := do
  let head ← bytes.range? 0 headSize
  (identify head).toOption

/-- The descriptor and the layout of an image in a format. -/
def decode? (bytes : Bytes) : Format → Option (Descriptor × RecordLayout)
  | .legacy => do
    let stored ← bytes.range? 0 legacySize
    let descriptor ← (decodeLegacy stored).toOption
    return (descriptor, .legacy descriptor)
  | .current => do
    let stored ← bytes.range? 0 (currentSize + Checksum.size)
    let body := stored.take currentSize
    let descriptor ← (decodeCurrent body).toOption
    if UInt32.ofNat (stored.field currentSize Checksum.size) ≠ Checksum.crc32 Checksum.seed body then
      none
    let layout ← (RecordLayout.current? descriptor).toOption
    return (descriptor, layout)

/-- The descriptor and the layout of an image that is long enough for its bitmap. -/
def fitting? (bytes : Bytes) (format : Format) : Option (Descriptor × RecordLayout) := do
  let (descriptor, layout) ← decode? bytes format
  if bytes.length < layout.bitmapEnd then none
  return (descriptor, layout)

/-- The format, the descriptor and the layout of an image. -/
def accepted? (bytes : Bytes) : Option (Format × Descriptor × RecordLayout) := do
  let version ← version? bytes
  let format ← Format.ofVersion? version
  let (descriptor, layout) ← fitting? bytes format
  return (format, descriptor, layout)

theorem decodeLegacy_inv {bytes : Bytes} {descriptor : Descriptor}
    (h : decodeLegacy bytes = .ok descriptor) :
    0 < descriptor.blockSize ∧ descriptor.blockSize = (signed32 (bytes.field 36 4)).toNat := by
  unfold decodeLegacy at h
  dsimp only at h
  split at h
  · cases h
  · split at h
    · cases h
    · split at h
      · cases h
      · next hpos =>
        cases h
        refine ⟨?_, rfl⟩
        show 0 < (signed32 (bytes.field 36 4)).toNat
        omega

theorem decodeCurrent_inv {bytes : Bytes} {descriptor : Descriptor}
    (h : decodeCurrent bytes = .ok descriptor) :
    0 < descriptor.blockSize ∧ descriptor.blockSize = bytes.field 84 4
      ∧ descriptor.checksumSize = bytes.field 98 2 := by
  unfold decodeCurrent at h
  dsimp only at h
  split at h
  · cases h
  · split at h
    · cases h
    · split at h
      · cases h
      · next hpos =>
        split at h
        · cases h
        · cases h
          exact ⟨Nat.pos_of_ne_zero hpos, rfl, rfl⟩

theorem current?_eq_ok {descriptor : Descriptor} {layout : RecordLayout}
    (h : RecordLayout.current? descriptor = .ok layout) :
    ∃ algorithm, RecordLayout.algorithm? descriptor = .ok algorithm
      ∧ layout = {
        bitmapOffset := currentSize + Checksum.size
        bitmapLength := bytesForBits descriptor.totalBlocks
        blockSize := descriptor.blockSize
        trailer := if algorithm = .none then descriptor.checksumSize else algorithm.trailerSize
        algorithm := algorithm
        reseed := descriptor.reseed } := by
  unfold RecordLayout.current? at h
  cases halgorithm : RecordLayout.algorithm? descriptor with
  | error error =>
    rw [halgorithm] at h
    cases h
  | ok algorithm =>
    rw [halgorithm] at h
    cases h
    exact ⟨algorithm, rfl, rfl⟩

/-- A descriptor that can be decoded has the layout that it describes. -/
theorem layout_of_decode? {bytes : Bytes} {format : Format} {descriptor : Descriptor}
    {layout : RecordLayout} (h : decode? bytes format = some (descriptor, layout)) :
    layout.Of format descriptor := by
  cases format with
  | legacy =>
    obtain ⟨stored, -, h⟩ := Option.bind_eq_some_iff.mp h
    obtain ⟨decoded, hdecoded, h⟩ := Option.bind_eq_some_iff.mp h
    obtain ⟨rfl, rfl⟩ := Prod.mk.inj (Option.some.inj h)
    have hpos := (decodeLegacy_inv (Action.toOption_eq_some_iff.mp hdecoded)).1
    exact ⟨rfl, hpos, rfl, fun _ => rfl⟩
  | current =>
    obtain ⟨stored, -, h⟩ := Option.bind_eq_some_iff.mp h
    obtain ⟨decoded, hdecoded, h⟩ := Option.bind_eq_some_iff.mp h
    have hpos := (decodeCurrent_inv (Action.toOption_eq_some_iff.mp hdecoded)).1
    split at h
    · cases h
    · obtain ⟨made, hmade, h⟩ := Option.bind_eq_some_iff.mp h
      obtain ⟨rfl, rfl⟩ := Prod.mk.inj (Option.some.inj h)
      obtain ⟨algorithm, -, rfl⟩ := current?_eq_ok (Action.toOption_eq_some_iff.mp hmade)
      refine ⟨rfl, hpos, rfl, ?_⟩
      intro hne
      show (if algorithm = .none then _ else algorithm.trailerSize) = _
      rw [if_neg hne]
      cases algorithm with
      | none => exact absurd rfl hne
      | crc32 => rfl
      | firstByte => rfl

theorem fitting?_eq_some_iff {bytes : Bytes} {format : Format} {descriptor : Descriptor}
    {layout : RecordLayout} :
    fitting? bytes format = some (descriptor, layout)
      ↔ decode? bytes format = some (descriptor, layout) ∧ layout.bitmapEnd ≤ bytes.length := by
  unfold fitting?
  rcases decode? bytes format with _ | ⟨decoded, made⟩
  · simp
  · by_cases hshort : bytes.length < made.bitmapEnd
    · simp only [Option.bind_eq_bind, Option.bind_some, if_pos hshort, Option.bind_none]
      constructor
      · intro h
        cases h
      · rintro ⟨h, hfit⟩
        cases h
        omega
    · simp only [Option.bind_eq_bind, Option.bind_some, if_neg hshort]
      constructor
      · intro h
        cases h
        exact ⟨rfl, by omega⟩
      · rintro ⟨h, -⟩
        exact h

theorem accepted?_eq_some_iff {bytes : Bytes} {format : Format} {descriptor : Descriptor}
    {layout : RecordLayout} :
    accepted? bytes = some (format, descriptor, layout)
      ↔ ∃ version, version? bytes = some version ∧ Format.ofVersion? version = some format
        ∧ fitting? bytes format = some (descriptor, layout) := by
  constructor
  · intro h
    obtain ⟨version, hversion, h⟩ := Option.bind_eq_some_iff.mp h
    obtain ⟨found, hformat, h⟩ := Option.bind_eq_some_iff.mp h
    obtain ⟨⟨decoded, fitted⟩, hfitting, h⟩ := Option.bind_eq_some_iff.mp h
    cases h
    exact ⟨version, hversion, hformat, hfitting⟩
  · rintro ⟨version, hversion, hformat, hfitting⟩
    rw [accepted?, hversion, Option.bind_eq_bind, Option.bind_some, hformat, Option.bind_eq_bind,
      Option.bind_some, hfitting]
    rfl

/-- What the head of an image says goes together. -/
theorem layout_of_accepted? {bytes : Bytes} {format : Format} {descriptor : Descriptor}
    {layout : RecordLayout} (h : accepted? bytes = some (format, descriptor, layout)) :
    layout.Of format descriptor := by
  obtain ⟨version, -, -, hfitting⟩ := accepted?_eq_some_iff.mp h
  exact layout_of_decode? (fitting?_eq_some_iff.mp hfitting).1

end Descriptor

namespace BlockMap

open Source (Extracts extracts_fetch)

open PartitionImage.Action (toOption_mapError)

variable {bytes : Bytes}

theorem extracts_version : Extracts bytes readVersion (Descriptor.version? bytes) := by
  refine (extracts_fetch _ _ _).bind fun head => ?_
  rw [← toOption_mapError Error.parseDescriptor]
  exact .ofExcept _

theorem extracts_legacy : Extracts bytes readLegacy (Descriptor.decode? bytes .legacy) := by
  refine (extracts_fetch _ _ _).bind fun stored => ?_
  rw [← toOption_mapError Error.parseDescriptor]
  exact (Extracts.ofExcept _).bind fun descriptor => .pure _

theorem extracts_current : Extracts bytes readCurrent (Descriptor.decode? bytes .current) := by
  refine (extracts_fetch _ _ _).bind fun stored => ?_
  dsimp only
  rw [← toOption_mapError Error.parseDescriptor]
  refine (Extracts.ofExcept _).bind fun descriptor => ?_
  rw [← toOption_mapError (Error.unsupported .current)]
  split
  · exact (Extracts.throw _).bind fun _ => (Extracts.ofExcept _).bind fun layout => .pure _
  · exact (Extracts.ofExcept _).bind fun layout => .pure _

/-- **The descriptor and the layout are read off the bytes.** -/
theorem extracts_layout (format : Format) :
    Extracts bytes (readLayout format) (Descriptor.decode? bytes format) := by
  cases format with
  | legacy => exact extracts_legacy
  | current => exact extracts_current

/-- They are given if there is room for the bitmap. -/
theorem extracts_descriptor (format : Format) :
    Extracts bytes (readDescriptor format) (Descriptor.fitting? bytes format) := by
  let fit? (described : Descriptor × RecordLayout) (size : Nat) :
      Option (Descriptor × RecordLayout) :=
    if size < described.2.bitmapEnd then (none : Option PUnit) >>= fun _ => pure described
    else pure described
  have hfit : ∀ described : Descriptor × RecordLayout,
      Extracts bytes
        (get >>= fun state => Action.ofExcept ((state.1.size state.2.disk).mapError .readBitmap)
          >>= fun size =>
            if size < described.2.bitmapEnd then
              throw (Error.readBitmap .endBeforeTrailer) >>= fun _ : PUnit => pure described
            else pure described)
        (fit? described bytes.length) := by
    intro described
    apply Extracts.size
    intro size
    show Extracts bytes _ (if size < described.2.bitmapEnd then _ else _)
    split
    · exact (Extracts.throw _).bind fun _ => .pure _
    · exact .pure _
  exact (extracts_layout format).bind hfit

end BlockMap

end PartitionImage
