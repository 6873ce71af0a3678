import PartitionImage.Proofs.BlockMap
import PartitionImage.Proofs.Screening
/-!
# The images that are supported

Which strings of bytes are images that can be read, place by place, and the checks that find out in
their order.

* `Supported` says which strings are, in either layout.
* `Supported.checks` lists the checks, with the class of the failure of each;
  `Supported.iff_failure?` says that they are passed by just those strings.
* `BlockMap.screens_version`, `BlockMap.screens_descriptor` and `BlockMap.screens_load` say that the
  checks are made when version, descriptor and bitmap are read from a source without faults.
-/

namespace PartitionImage

/-! ### Places -/

namespace Format

def of? (bytes : Bytes) : Option Format := ofVersion? (Descriptor.versionOf bytes)

def bitmapOffset : Format → Nat
  | legacy => 4160
  | current => 110

/-- The field for the number of blocks. -/
def totalBlocks (bytes : Bytes) : Format → Nat
  | legacy => bytes.field 48 8
  | current => bytes.field 60 8

/-- The field for the number of used blocks. -/
def usedBlocks (bytes : Bytes) : Format → Nat
  | legacy => bytes.field 56 8
  | current => bytes.field 68 8

def magicOffset (bytes : Bytes) (format : Format) : Nat :=
  format.bitmapOffset + format.bitmapLength (format.totalBlocks bytes)

/-- The number of blocks that the bitmap has as used. -/
def scanned (bytes : Bytes) (format : Format) : Nat :=
  (List.range (format.totalBlocks bytes)).countP fun block =>
    BlockMap.marked bytes format.bitmapOffset block format

end Format

/-! ### The format -/

structure Supported.Legacy (strict : Bool) (bytes : Bytes) : Prop where
  version : bytes.slice 30 4 = [0x30, 0x30, 0x30, 0x31]
  descriptor : 4160 ≤ bytes.length
  blockSize : 0 < Descriptor.signed32 (bytes.field 36 4)
  bitmap : 4160 + bytes.field 48 8 + 8 ≤ bytes.length
  magic : bytes.slice (4160 + bytes.field 48 8) 8 = bitmapMagic
  used : strict = true → bytes.field 56 8 = Format.legacy.scanned bytes

structure Supported.Current (strict : Bool) (bytes : Bytes) : Prop where
  version : bytes.slice 30 4 = [0x30, 0x30, 0x30, 0x32]
  descriptor : 110 ≤ bytes.length
  blockSize : 1 ≤ bytes.field 84 4
  blocksPerChecksum : 1 ≤ bytes.field 100 4
  checksum : bytes.field 106 4 = (Checksum.crc32 0xFFFFFFFF (bytes.slice 0 106)).toNat
  byteOrder : bytes.field 34 2 = 0xC0DE
  bitmapMode : bytes.field 105 1 = 1
  checksumMode : bytes.field 96 2 = 0x00
    ∨ bytes.field 96 2 = 0x20 ∧ bytes.field 98 2 = 4 ∧ bytes.field 100 4 = 1
  bitmap : 110 + bytesForBits (bytes.field 60 8) + 8 ≤ bytes.length
  magic : bytes.slice (110 + bytesForBits (bytes.field 60 8)) 8 = bitmapMagic
  used : strict = true → bytes.field 68 8 = Format.current.scanned bytes

/-- The images that are supported.  If descriptors are taken strictly, the number of used blocks has
to be right. -/
def Supported (strict : Bool) (bytes : Bytes) : Prop :=
  bytes.slice 0 15 = Descriptor.imageMagic
    ∧ (Supported.Legacy strict bytes ∨ Supported.Current strict bytes)

namespace Supported

/-! ### The checks -/

/-- The checks of the head, which both layouts share. -/
def headChecks (bytes : Bytes) : List Check :=
  [⟨36 ≤ bytes.length, .formatMismatch⟩,
    ⟨bytes.slice 0 15 = Descriptor.imageMagic, .formatMismatch⟩]

/-- The checks of a descriptor, up to its checksum if it has one. -/
def descriptorChecks (bytes : Bytes) : Format → List Check
  | .legacy =>
    [⟨4160 ≤ bytes.length, .formatMismatch⟩,
      ⟨0 < Descriptor.signed32 (bytes.field 36 4), .integrity⟩]
  | .current =>
    [⟨110 ≤ bytes.length, .formatMismatch⟩,
      ⟨1 ≤ bytes.field 84 4, .integrity⟩,
      ⟨1 ≤ bytes.field 100 4, .integrity⟩,
      ⟨bytes.field 106 4 = (Checksum.crc32 0xFFFFFFFF (bytes.slice 0 106)).toNat, .integrity⟩]

/-- The checks of what a descriptor asks for.  The legacy layout has nothing to ask for. -/
def featureChecks (bytes : Bytes) : Format → List Check
  | .legacy => []
  | .current =>
    [⟨bytes.field 34 2 = 0xC0DE, .unsupported⟩,
      ⟨bytes.field 105 1 = 1, .unsupported⟩,
      ⟨bytes.field 96 2 = 0x00 ∨ bytes.field 96 2 = 0x20, .unsupported⟩,
      ⟨bytes.field 96 2 = 0x20 → bytes.field 98 2 = 4, .unsupported⟩,
      ⟨bytes.field 96 2 = 0x20 → bytes.field 100 4 = 1, .unsupported⟩]

def roomChecks (bytes : Bytes) (format : Format) : List Check :=
  [⟨format.magicOffset bytes + 8 ≤ bytes.length, .io⟩]

def magicChecks (bytes : Bytes) (format : Format) : List Check :=
  [⟨bytes.slice (format.magicOffset bytes) 8 = bitmapMagic, .integrity⟩]

/-- The check of the number of used blocks, which is made if descriptors are taken strictly. -/
def countChecks (strict : Bool) (bytes : Bytes) (format : Format) : List Check :=
  [⟨strict = true → format.usedBlocks bytes = format.scanned bytes, .integrity⟩]

/-- All checks, in the order in which they are made. -/
def checks (strict : Bool) (bytes : Bytes) : List Check :=
  headChecks bytes ++
    match Format.of? bytes with
    | none => [⟨false, .formatMismatch⟩]
    | some format =>
      (descriptorChecks bytes format ++ (featureChecks bytes format ++ roomChecks bytes format))
        ++ (magicChecks bytes format ++ countChecks strict bytes format)

theorem of?_eq (bytes : Bytes) :
    Format.of? bytes
      = if bytes.slice 30 4 = [0x30, 0x30, 0x30, 0x31] then some .legacy
        else if bytes.slice 30 4 = [0x30, 0x30, 0x30, 0x32] then some .current
        else none := by
  show (if Version.mk (bytes.slice 30 4) = ⟨[0x30, 0x30, 0x30, 0x31]⟩ then _
    else if Version.mk (bytes.slice 30 4) = ⟨[0x30, 0x30, 0x30, 0x32]⟩ then _ else _) = _
  simp only [Version.mk.injEq]

/-- A string with the head of a legacy image is one if it passes the checks of the layout. -/
theorem legacy_iff {strict : Bool} {bytes : Bytes}
    (hversion : bytes.slice 30 4 = [0x30, 0x30, 0x30, 0x31]) :
    Supported.Legacy strict bytes ↔ ∀ check ∈ (descriptorChecks bytes .legacy
      ++ (featureChecks bytes .legacy ++ roomChecks bytes .legacy))
      ++ (magicChecks bytes .legacy ++ countChecks strict bytes .legacy), check.passed = true := by
  simp only [descriptorChecks, featureChecks, roomChecks, magicChecks, countChecks,
    List.forall_mem_append, List.forall_mem_cons, List.not_mem_nil, false_implies, implies_true,
    decide_eq_true_eq, and_true, true_and]
  constructor
  · intro h
    exact ⟨⟨⟨h.descriptor, h.blockSize⟩, h.bitmap⟩, h.magic, h.used⟩
  · rintro ⟨⟨⟨hdescriptor, hblockSize⟩, hbitmap⟩, hmagic, hused⟩
    exact ⟨hversion, hdescriptor, hblockSize, hbitmap, hmagic, hused⟩

/-- A string with the head of a current image is one if it passes the checks of the layout. -/
theorem current_iff {strict : Bool} {bytes : Bytes}
    (hversion : bytes.slice 30 4 = [0x30, 0x30, 0x30, 0x32]) :
    Supported.Current strict bytes ↔ ∀ check ∈ (descriptorChecks bytes .current
      ++ (featureChecks bytes .current ++ roomChecks bytes .current))
      ++ (magicChecks bytes .current ++ countChecks strict bytes .current),
        check.passed = true := by
  simp only [descriptorChecks, featureChecks, roomChecks, magicChecks, countChecks,
    List.forall_mem_append, List.forall_mem_cons, List.not_mem_nil, false_implies, implies_true,
    decide_eq_true_eq, and_true]
  constructor
  · intro h
    have hmode : (bytes.field 96 2 = 0x00 ∨ bytes.field 96 2 = 0x20)
        ∧ (bytes.field 96 2 = 0x20 → bytes.field 98 2 = 4)
        ∧ (bytes.field 96 2 = 0x20 → bytes.field 100 4 = 1) := by
      have h := h.checksumMode
      omega
    exact ⟨⟨⟨h.descriptor, h.blockSize, h.blocksPerChecksum, h.checksum⟩,
      ⟨h.byteOrder, h.bitmapMode, hmode⟩, h.bitmap⟩, h.magic, h.used⟩
  · rintro ⟨⟨⟨hdescriptor, hblockSize, hblocks, hchecksum⟩, ⟨hbyteOrder, hbitmapMode, hmode⟩,
      hbitmap⟩, hmagic, hused⟩
    exact ⟨hversion, hdescriptor, hblockSize, hblocks, hchecksum, hbyteOrder, hbitmapMode, by omega,
      hbitmap, hmagic, hused⟩

theorem head_iff (bytes : Bytes) :
    (∀ check ∈ headChecks bytes, check.passed = true)
      ↔ 36 ≤ bytes.length ∧ bytes.slice 0 15 = Descriptor.imageMagic := by
  simp only [headChecks, List.forall_mem_cons, List.not_mem_nil, false_implies, implies_true,
    decide_eq_true_eq, and_true]

/-- **The supported images are those that pass all checks.** -/
theorem iff_failure? (strict : Bool) (bytes : Bytes) :
    Supported strict bytes ↔ Check.failure? (checks strict bytes) = none := by
  rw [Check.failure?_eq_none_iff, checks, of?_eq, List.forall_mem_append, head_iff]
  by_cases hlegacy : bytes.slice 30 4 = [0x30, 0x30, 0x30, 0x31]
  · have hcurrent : ¬ Supported.Current strict bytes := by
      intro h
      have hversion := h.version
      rw [hlegacy] at hversion
      cases hversion
    rw [if_pos hlegacy]
    dsimp only
    rw [← legacy_iff hlegacy, Supported, or_iff_left hcurrent]
    constructor
    · rintro ⟨hmagic, h⟩
      exact ⟨⟨Nat.le_trans (by decide) h.descriptor, hmagic⟩, h⟩
    · rintro ⟨⟨-, hmagic⟩, h⟩
      exact ⟨hmagic, h⟩
  · have hnotLegacy : ¬ Supported.Legacy strict bytes := fun h => hlegacy h.version
    rw [if_neg hlegacy, Supported, or_iff_right hnotLegacy]
    by_cases hcurrent : bytes.slice 30 4 = [0x30, 0x30, 0x30, 0x32]
    · rw [if_pos hcurrent]
      dsimp only
      rw [← current_iff hcurrent]
      constructor
      · rintro ⟨hmagic, h⟩
        exact ⟨⟨Nat.le_trans (by decide) h.descriptor, hmagic⟩, h⟩
      · rintro ⟨⟨-, hmagic⟩, h⟩
        exact ⟨hmagic, h⟩
    · rw [if_neg hcurrent]
      constructor
      · rintro ⟨-, h⟩
        exact absurd h.version hcurrent
      · rintro ⟨-, h⟩
        exact absurd (h _ (List.mem_singleton.mpr rfl)) (by decide)

end Supported

/-! ### Sources without faults -/

namespace Source

variable {bytes : Bytes}

/-- Bytes are behind a source that has no faults. -/
def Gives (bytes : Bytes) (state : Source × World) : Prop :=
  state.1.Faultless state.2.disk bytes

theorem Onward.gives {before after : Source × World} (h : Onward before after)
    (hbefore : Gives bytes before) : Gives bytes after := by
  show after.1.Faultless after.2.disk bytes
  rw [h.disk]
  exact hbefore.later h.later

/-- What is to be found is found without a check. -/
theorem Extracts.screens {α : Type} {act : Action (Source × World) Error α} {value : α}
    (h : Extracts bytes act (some value)) : Check.Screens (Gives bytes) act [] (· = value) where
  settles := by
    intro state hgives
    rw [h.complete hgives.toDelivers rfl]
    exact .ok rfl
  keeps := by
    intro state hgives
    exact (h.onward state).gives hgives

theorem screens_fetch {offset n : Nat} (hn : 0 < n) (hplace : offset + n ≤ Disk.maxOffset)
    {wrap : IoError → Error} {kind : ErrorKind} (hkind : (wrap .endOfImage).kind = kind) :
    Check.Screens (Gives bytes) (BlockMap.fetch offset n wrap) [⟨offset + n ≤ bytes.length, kind⟩]
      fun got => offset + n ≤ bytes.length ∧ got = bytes.slice offset n where
  settles := by
    intro state hgives
    by_cases hfit : offset + n ≤ bytes.length
    · rw [(extracts_fetch offset n wrap).complete hgives.toDelivers (Bytes.range?_of_le hfit)]
      exact ⟨Check.failure?_cons_of_passed (decide_eq_true hfit) [], hfit, rfl⟩
    · have hend := readExact_end hgives hn (by omega) hplace
      have hresult : (Action.perform (BlockMap.fetch offset n wrap) state).1
          = .error (wrap .endOfImage) := by
        show ((state.1.readExact state.2.disk offset n).1.result.map fun _ =>
          (state.1.readExact state.2.disk offset n).1.bytes).mapError wrap = _
        rw [hend]
        rfl
      rw [hresult, ← hkind]
      exact Check.failure?_cons_of_failed (decide_eq_false hfit) []
  keeps := by
    intro state hgives
    have honward := (extracts_fetch offset n wrap : Extracts bytes _ _).onward state
    exact honward.gives hgives

theorem screens_size {α : Type} {wrap : IoError → Error}
    {next : Nat → Action (Source × World) Error α} {checks : List Check} {post : α → Prop}
    (hnext : Check.Screens (Gives bytes) (next bytes.length) checks post) :
    Check.Screens (Gives bytes)
      (get >>= fun state => Action.ofExcept ((state.1.size state.2.disk).mapError wrap) >>= next)
      checks post := by
  have hrun : ∀ {state}, Gives bytes state →
      Action.perform (get >>= fun state : Source × World =>
        Action.ofExcept ((state.1.size state.2.disk).mapError wrap) >>= next) state
      = Action.perform (next bytes.length) state := by
    intro state hgives
    have hsize : (state.1.size state.2.disk).mapError wrap = .ok bytes.length := by
      rw [Source.size, hgives.sized]
      exact congrArg Except.ok hgives.holds.size_eq
    rw [Action.perform_bind_ok (Action.perform_get state), hsize]
    rfl
  constructor
  · intro state hgives
    rw [hrun hgives]
    exact hnext.settles hgives
  · intro state hgives
    rw [hrun hgives]
    exact hnext.keeps hgives

end Source

namespace BlockMap

open Check (Settles Screens)
open Source (Gives screens_fetch)

variable {bytes : Bytes}

/-! ### The version -/

theorem settles_identify (h : 36 ≤ bytes.length) :
    Settles [⟨bytes.slice 0 15 = Descriptor.imageMagic, .formatMismatch⟩]
      (fun version => bytes.slice 0 15 = Descriptor.imageMagic
        ∧ version = Descriptor.versionOf bytes)
      ((Descriptor.identify (bytes.slice 0 Descriptor.headSize)).mapError .parseDescriptor) := by
  have hlength : (bytes.slice 0 Descriptor.headSize).length = Descriptor.headSize :=
    Bytes.length_slice_of_le h
  have hmagic : (bytes.slice 0 Descriptor.headSize).slice 0 15 = bytes.slice 0 15 :=
    Bytes.slice_slice bytes 0 _ (by decide)
  have hversion : Descriptor.versionOf (bytes.slice 0 Descriptor.headSize)
      = Descriptor.versionOf bytes :=
    congrArg Version.mk (Bytes.slice_slice bytes 0 _ (by decide))
  rw [Descriptor.identify, if_neg (by omega), hmagic, hversion,
    apply_ite (Except.mapError Error.parseDescriptor)]
  exact .ite Iff.rfl rfl fun hmagic => .ok ⟨hmagic, rfl⟩

theorem screens_version :
    Screens (Gives bytes) readVersion (Supported.headChecks bytes)
      fun version => bytes.slice 0 15 = Descriptor.imageMagic
        ∧ version = Descriptor.versionOf bytes := by
  refine (screens_fetch (by decide) (by decide) rfl).bind fun head hhead => ?_
  rw [Nat.zero_add] at hhead
  rw [hhead.2]
  exact .ofExcept (settles_identify hhead.1)

/-! ### The descriptor -/

/-- What a descriptor has of an image. -/
structure Describes (bytes : Bytes) (format : Format) (descriptor : Descriptor) : Prop where
  totalBlocks : descriptor.totalBlocks = format.totalBlocks bytes
  usedBlocks : descriptor.usedBlocks = format.usedBlocks bytes

theorem field_head (bytes : Bytes) {n start width : Nat} (h : start + width ≤ n) :
    (bytes.slice 0 n).field start width = bytes.field start width := by
  rw [Bytes.field_slice bytes 0 n h, Nat.zero_add]

theorem magic_head {n : Nat} (h : 15 ≤ n) (hmagic : bytes.slice 0 15 = Descriptor.imageMagic) :
    (bytes.slice 0 n).slice 0 15 = Descriptor.imageMagic := by
  rw [Bytes.slice_slice bytes 0 n h]
  exact hmagic

/-- A legacy descriptor is decoded just if its block size is not zero. -/
theorem settles_decodeLegacy (h : 4160 ≤ bytes.length)
    (hmagic : bytes.slice 0 15 = Descriptor.imageMagic) :
    Settles [⟨0 < Descriptor.signed32 (bytes.field 36 4), .integrity⟩]
      (Describes bytes .legacy)
      ((Descriptor.decodeLegacy (bytes.slice 0 Descriptor.legacySize)).mapError
        .parseDescriptor) := by
  have hlength : (bytes.slice 0 Descriptor.legacySize).length = Descriptor.legacySize :=
    Bytes.length_slice_of_le h
  unfold Descriptor.decodeLegacy
  dsimp only
  rw [if_neg (by rw [hlength]; decide), if_neg (fun hne => hne (magic_head (by decide) hmagic)),
    field_head bytes (by decide), apply_ite (Except.mapError Error.parseDescriptor)]
  exact .ite Int.not_lt.symm rfl fun _ =>
    .ok ⟨field_head bytes (by decide), field_head bytes (by decide)⟩

/-- What a current descriptor asks for, and what it has of an image. -/
structure Asks (bytes : Bytes) (descriptor : Descriptor) : Prop
    extends Describes bytes .current descriptor where
  endianness : descriptor.endianness = .ofMarker (bytes.field 34 2)
  bitmapMode : descriptor.bitmapMode = .ofCode (bytes.field 105 1)
  checksumMode : descriptor.checksumMode = .ofCode (bytes.field 96 2)
  checksumSize : descriptor.checksumSize = bytes.field 98 2
  blocksPerChecksum : descriptor.blocksPerChecksum = bytes.field 100 4

/-- A current descriptor is decoded just if neither its block size nor its number of blocks for each checksum is zero.
-/
theorem settles_decodeCurrent (h : 110 ≤ bytes.length)
    (hmagic : bytes.slice 0 15 = Descriptor.imageMagic) :
    Settles [⟨1 ≤ bytes.field 84 4, .integrity⟩, ⟨1 ≤ bytes.field 100 4, .integrity⟩]
      (Asks bytes)
      ((Descriptor.decodeCurrent (bytes.slice 0 Descriptor.currentSize)).mapError
        .parseDescriptor) := by
  have hlength : (bytes.slice 0 Descriptor.currentSize).length = Descriptor.currentSize :=
    Bytes.length_slice_of_le (Nat.le_trans (by decide) h)
  unfold Descriptor.decodeCurrent
  dsimp only
  rw [if_neg (by rw [hlength]; decide), if_neg (fun hne => hne (magic_head (by decide) hmagic)),
    field_head bytes (by decide), apply_ite (Except.mapError Error.parseDescriptor),
    apply_ite (Except.mapError Error.parseDescriptor)]
  refine .ite (by omega) rfl fun _ => ?_
  rw [field_head bytes (by decide)]
  refine .ite (by omega) rfl fun _ => .ok ?_
  have hfield : ∀ {start width : Nat}, start + width ≤ Descriptor.currentSize →
      (bytes.slice 0 Descriptor.currentSize).field start width = bytes.field start width :=
    field_head bytes
  exact ⟨⟨hfield (by decide), hfield (by decide)⟩, congrArg Endianness.ofMarker (hfield (by decide)),
    congrArg BitmapMode.ofCode (hfield (by decide)),
    congrArg ChecksumMode.ofCode (hfield (by decide)), hfield (by decide), rfl⟩

/-- The checksum of a current image can be told if the descriptor asks for nothing else. -/
theorem algorithm?_isOk_iff (descriptor : Descriptor) :
    (∃ algorithm, RecordLayout.algorithm? descriptor = .ok algorithm)
      ↔ descriptor.endianness = .little ∧ descriptor.bitmapMode = .bit
        ∧ (descriptor.checksumMode = .none
          ∨ descriptor.checksumMode = .crc32 ∧ descriptor.checksumSize = Checksum.size
            ∧ descriptor.blocksPerChecksum = 1) := by
  unfold RecordLayout.algorithm?
  cases hendianness : descriptor.endianness with
  | big => simp [throw, throwThe, MonadExceptOf.throw, bind, Except.bind]
  | unknown marker => simp [throw, throwThe, MonadExceptOf.throw, bind, Except.bind]
  | little =>
    by_cases hbitmap : descriptor.bitmapMode = .bit
    · cases hchecksum : descriptor.checksumMode with
      | none => simp [hbitmap, pure, Except.pure]
      | firstByte => simp [hbitmap, throw, throwThe, MonadExceptOf.throw]
      | unknown code => simp [hbitmap, throw, throwThe, MonadExceptOf.throw]
      | crc32 =>
        by_cases hsize : descriptor.checksumSize = Checksum.size
        · by_cases hblocks : descriptor.blocksPerChecksum = 1
          · simp [hbitmap, hsize, hblocks, pure, Except.pure]
          · simp [hbitmap, hsize, hblocks, bind, Except.bind, throw, throwThe, MonadExceptOf.throw]
        · simp [hbitmap, hsize, bind, Except.bind, throw, throwThe, MonadExceptOf.throw]
    · simp [hbitmap, bind, Except.bind, throw, throwThe, MonadExceptOf.throw]

theorem ofMarker_eq_little_iff (marker : Nat) :
    Endianness.ofMarker marker = .little ↔ marker = 0xC0DE := by
  unfold Endianness.ofMarker
  grind

theorem bitmapMode_eq_bit_iff (code : Nat) : BitmapMode.ofCode code = .bit ↔ code = 0x01 := by
  unfold BitmapMode.ofCode
  grind

theorem checksumMode_eq_none_iff (code : Nat) :
    ChecksumMode.ofCode code = .none ↔ code = 0x00 := by
  unfold ChecksumMode.ofCode
  grind

theorem checksumMode_eq_crc32_iff (code : Nat) :
    ChecksumMode.ofCode code = .crc32 ↔ code = 0x20 := by
  unfold ChecksumMode.ofCode
  grind

/-- A current image has a layout if its descriptor asks for nothing that cannot be read. -/
theorem settles_current? {descriptor : Descriptor} (h : Asks bytes descriptor) :
    Settles (Supported.featureChecks bytes .current)
      (fun layout => RecordLayout.current? descriptor = .ok layout)
      ((RecordLayout.current? descriptor).mapError (.unsupported .current)) := by
  refine (Settles.of_kind .unsupported ?_ ?_ ?_).imp fun layout hlayout => Action.mapError_eq_ok_iff.mp hlayout
  · simp only [Supported.featureChecks, List.forall_mem_cons, List.not_mem_nil, false_implies,
      implies_true, and_true]
  · intro error herror
    obtain ⟨feature, -, rfl⟩ := Action.mapError_eq_error_iff.mp herror
    rfl
  · have hlayout : (∃ layout,
        (RecordLayout.current? descriptor).mapError (Error.unsupported .current) = .ok layout)
        ↔ ∃ algorithm, RecordLayout.algorithm? descriptor = .ok algorithm := by
      constructor
      · rintro ⟨layout, hok⟩
        obtain ⟨algorithm, halgorithm, -⟩ :=
          Descriptor.current?_eq_ok (Action.mapError_eq_ok_iff.mp hok)
        exact ⟨algorithm, halgorithm⟩
      · rintro ⟨algorithm, halgorithm⟩
        rw [RecordLayout.current?, halgorithm]
        exact ⟨_, rfl⟩
    rw [hlayout, algorithm?_isOk_iff, h.endianness, h.bitmapMode, h.checksumMode, h.checksumSize,
      h.blocksPerChecksum, ofMarker_eq_little_iff, bitmapMode_eq_bit_iff, checksumMode_eq_none_iff,
      checksumMode_eq_crc32_iff]
    simp only [Supported.featureChecks, List.forall_mem_cons, List.not_mem_nil, false_implies,
      implies_true, decide_eq_true_eq, and_true, Checksum.size]
    omega

/-- What a layout and its descriptor have of an image. -/
structure LaidOut (bytes : Bytes) (format : Format) (described : Descriptor × RecordLayout) :
    Prop extends Describes bytes format described.1 where
  bitmapOffset : described.2.bitmapOffset = format.bitmapOffset
  bitmapLength : described.2.bitmapLength = format.bitmapLength described.1.totalBlocks

theorem LaidOut.magicOffset {format : Format} {described : Descriptor × RecordLayout}
    (h : LaidOut bytes format described) :
    described.2.magicOffset = format.magicOffset bytes := by
  rw [RecordLayout.magicOffset, h.bitmapOffset, h.bitmapLength, h.totalBlocks, Format.magicOffset]

/-- A legacy descriptor is read if it is in order. -/
theorem screens_legacy (hmagic : bytes.slice 0 15 = Descriptor.imageMagic) :
    Screens (Gives bytes) readLegacy
      (Supported.descriptorChecks bytes .legacy ++ Supported.featureChecks bytes .legacy)
      (LaidOut bytes .legacy) := by
  refine (screens_fetch (by decide) (by decide) rfl).bind fun stored hstored => ?_
  rw [Nat.zero_add] at hstored
  rw [hstored.2]
  refine (Screens.ofExcept (settles_decodeLegacy hstored.1 hmagic)).bind fun descriptor h => ?_
  exact .pure ⟨h, rfl, rfl⟩

theorem stored_eq_iff {n : Nat} (h : n < Bytes.capacity 4) (checksum : UInt32) :
    UInt32.ofNat n = checksum ↔ n = checksum.toNat := by
  have hn : n < 2 ^ 32 := h
  constructor
  · rintro rfl
    rw [UInt32.toNat_ofNat', Nat.mod_eq_of_lt hn]
  · rintro rfl
    exact UInt32.ofNat_toNat

/-- A current descriptor is read if it is in order and asks for nothing that cannot be read. -/
theorem screens_current (hmagic : bytes.slice 0 15 = Descriptor.imageMagic) :
    Screens (Gives bytes) readCurrent
      (Supported.descriptorChecks bytes .current ++ Supported.featureChecks bytes .current)
      (LaidOut bytes .current) := by
  refine (screens_fetch (by decide) (by decide) rfl).bind fun stored hstored => ?_
  rw [Nat.zero_add] at hstored
  have hbody : stored.take Descriptor.currentSize = bytes.slice 0 Descriptor.currentSize := by
    rw [hstored.2, Bytes.slice, List.take_take]
    rfl
  have hchecksum : UInt32.ofNat (stored.field Descriptor.currentSize Checksum.size)
      = Checksum.crc32 Checksum.seed (bytes.slice 0 Descriptor.currentSize)
        ↔ bytes.field 106 4 = (Checksum.crc32 0xFFFFFFFF (bytes.slice 0 106)).toNat := by
    have hlength : (bytes.slice 106 4).length = 4 := Bytes.length_slice_of_le hstored.1
    have hlt := Bytes.toNat_lt (bytes.slice 106 4)
    rw [hlength] at hlt
    rw [hstored.2, field_head bytes (by decide)]
    exact stored_eq_iff hlt _
  dsimp only
  rw [hbody]
  refine (Screens.ofExcept (settles_decodeCurrent hstored.1 hmagic)).bind fun descriptor h => ?_
  refine .unless (not_congr hchecksum) rfl fun _ => ?_
  refine (Screens.ofExcept (settles_current? h)).bind fun layout hlayout => ?_
  obtain ⟨algorithm, -, rfl⟩ := Descriptor.current?_eq_ok hlayout
  exact .pure ⟨h.toDescribes, rfl, rfl⟩

theorem screens_layout (format : Format) (hmagic : bytes.slice 0 15 = Descriptor.imageMagic) :
    Screens (Gives bytes) (readLayout format)
      (Supported.descriptorChecks bytes format ++ Supported.featureChecks bytes format)
      (LaidOut bytes format) := by
  cases format with
  | legacy => exact screens_legacy hmagic
  | current => exact screens_current hmagic

/-- **The descriptor and the layout are read if they are in order**, and the bitmap lies within the
image. -/
theorem screens_descriptor (format : Format) (hmagic : bytes.slice 0 15 = Descriptor.imageMagic) :
    Screens (Gives bytes) (readDescriptor format)
      (Supported.descriptorChecks bytes format
        ++ (Supported.featureChecks bytes format ++ Supported.roomChecks bytes format))
      fun described => LaidOut bytes format described
        ∧ format.magicOffset bytes + 8 ≤ bytes.length := by
  have hroom : ∀ described : Descriptor × RecordLayout, LaidOut bytes format described →
      Screens (Gives bytes)
        (get >>= fun state => Action.ofExcept ((state.1.size state.2.disk).mapError .readBitmap)
          >>= fun size =>
            if size < described.2.bitmapEnd then
              throw (Error.readBitmap .endBeforeTrailer) >>= fun _ : PUnit => pure described
            else pure described)
        (Supported.roomChecks bytes format)
        fun described => LaidOut bytes format described
          ∧ format.magicOffset bytes + 8 ≤ bytes.length := by
    intro described hdescribed
    have hend : described.2.bitmapEnd = format.magicOffset bytes + 8 := by
      rw [RecordLayout.bitmapEnd, hdescribed.magicOffset]
      rfl
    apply Source.screens_size
    rw [hend]
    exact .unless Nat.not_le.symm rfl fun hfit => .pure ⟨hdescribed, hfit⟩
  rw [← List.append_assoc]
  exact (screens_layout format hmagic).bind hroom

/-! ### The bitmap -/

/-- **The bitmap is loaded if the magic stands after it.** -/
theorem screens_load {format : Format} {described : Descriptor × RecordLayout}
    (h : LaidOut bytes format described) (hfit : format.magicOffset bytes + 8 ≤ bytes.length)
    (hmemory : bytesForBits (format.totalBlocks bytes) < allocationLimit) (factor : Nat) :
    Screens (Gives bytes) (load format described.2 described.1.totalBlocks factor)
      (Supported.magicChecks bytes format) fun map => map.stats.used = format.scanned bytes := by
  have hnew : Bitmap.new described.1.totalBlocks = .ok (Bitmap.clear described.1.totalBlocks) := by
    rw [h.totalBlocks]
    exact if_pos hmemory
  have hwithin : described.2.bitmapOffset + format.bitmapLength described.1.totalBlocks
      ≤ bytes.length := by
    rw [h.bitmapOffset, h.totalBlocks]
    exact Nat.le_trans (Nat.le_add_right _ 8) hfit
  obtain ⟨loading, hloading⟩ := exists_loading hwithin
  have hused := used_of_loading? hloading factor
  rw [h.totalBlocks, h.bitmapOffset] at hused
  have hmagic : Screens (Gives bytes)
      (fetch described.2.magicOffset bitmapMagic.length .readBitmap >>= fun magic =>
        if magic ≠ bitmapMagic then throw Error.bitmapMagic >>= fun _ : PUnit =>
          pure (assemble described.2 described.1.totalBlocks factor loading)
        else pure (assemble described.2 described.1.totalBlocks factor loading))
      (Supported.magicChecks bytes format) fun map => map.stats.used = format.scanned bytes := by
    have hfetch : Source.Extracts bytes
        (fetch described.2.magicOffset bitmapMagic.length .readBitmap)
        (some (bytes.slice (format.magicOffset bytes) 8)) := by
      rw [h.magicOffset, ← Bytes.range?_of_le hfit]
      exact Source.extracts_fetch _ _ _
    refine hfetch.screens.bind fun magic heq => ?_
    rw [heq]
    exact .unless Iff.rfl rfl fun _ => .pure hused
  rw [load, hnew]
  have hempty : Screens (Gives bytes)
      (Action.ofExcept ((Except.ok (Bitmap.clear described.1.totalBlocks)).mapError
        Error.allocateBitmap)) [] (· = Bitmap.clear described.1.totalBlocks) :=
    .ofExcept (.ok rfl)
  refine hempty.bind fun empty heq => ?_
  rw [heq]
  refine ((hloading ▸ extracts_loadStored format _ _).screens).bind fun found hfound => ?_
  rw [hfound]
  exact hmagic

end BlockMap

end PartitionImage
