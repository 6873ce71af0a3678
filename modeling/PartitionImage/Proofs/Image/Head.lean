import PartitionImage.Proofs.Image.Acceptance
import PartitionImage.Proofs.Image.Burst
/-!
# What the head of an image decides

Version and descriptor are read before the overlay's turn comes.  What verification finds wrong with
them does not depend on the mode, and what it finds wrong later is never taken for a file of another
kind.

* `Supported.openingChecks` lists the checks that are made first; `Image.begins_verify` says that
  verification makes them first in every mode.
* `Descriptor.crc32_of_accepted?` says that an accepted descriptor goes with its checksum.
* `Image.verify_after_burst` says that a short burst in the descriptor of a current image is found.
-/

namespace PartitionImage

open Check (Screens Begins Avoids)
open PartitionImage.Action (perform)

/-- The checks that are made before the overlay's turn comes. -/
def Supported.openingChecks (bytes : Bytes) : List Check :=
  headChecks bytes ++
    match Format.of? bytes with
    | none => [⟨false, .formatMismatch⟩]
    | some format =>
      descriptorChecks bytes format ++ (featureChecks bytes format ++ roomChecks bytes format)

theorem Error.overlay_kind_ne (cause : OverlayError) :
    (Error.overlay cause).kind ≠ .formatMismatch := by
  cases cause <;> exact fun h => nomatch h

/-! ### The bitmap -/

namespace BlockMap

theorem avoids_fetch (offset n : Nat) : Avoids .formatMismatch (fetch offset n .readBitmap) := by
  intro _ _ hfailed
  obtain ⟨cause, -, rfl⟩ := Action.mapError_eq_error_iff.mp hfailed
  exact fun h => nomatch h

theorem avoids_loadEntries (offset total : Nat) (chunks : Nat) : ∀ (block : Nat) (loading : Loading),
    Avoids .formatMismatch (loadEntries offset total block loading chunks) := by
  induction chunks with
  | zero => exact fun _ _ => .pure _
  | succ chunks ih =>
    intro block loading
    exact (avoids_fetch _ _).bind fun _ => ih _ _

theorem avoids_loadBytes (offset : Nat) (bitmap : Bitmap) :
    Avoids .formatMismatch (loadBytes offset bitmap) := by
  refine (avoids_loadEntries _ _ _ _ _).bind fun loading => ?_
  dsimp only
  split
  · exact (Avoids.modify _).bind fun _ => .pure _
  · exact .pure _

theorem avoids_loadBits (offset : Nat) (bitmap : Bitmap) :
    Avoids .formatMismatch (loadBits offset bitmap) :=
  (avoids_fetch _ _).bind fun _ => .pure _

/-- A bitmap that cannot be loaded does not make an image a file of another kind. -/
theorem avoids_load (format : Format) (layout : RecordLayout) (total factor : Nat) :
    Avoids .formatMismatch (load format layout total factor) := by
  refine (Avoids.ofExcept (fun cause => ?_) _).bind fun empty => ?_
  · exact fun h => nomatch h
  · have hmagic : ∀ loading : Loading, Avoids .formatMismatch
        (fetch layout.magicOffset bitmapMagic.length .readBitmap >>= fun magic =>
          if magic ≠ bitmapMagic then throw Error.bitmapMagic >>= fun _ : PUnit =>
            pure (assemble layout total factor loading)
          else pure (assemble layout total factor loading)) := by
      intro loading
      refine (avoids_fetch _ _).bind fun magic => ?_
      split
      · have hkind : Error.bitmapMagic.kind ≠ .formatMismatch := by decide
        exact (Avoids.throw hkind).bind fun _ => .pure _
      · exact .pure _
    cases format with
    | legacy => exact (avoids_loadBytes _ _).bind hmagic
    | current => exact (avoids_loadBits _ _).bind hmagic

end BlockMap

/-! ### Verification -/

namespace Image

variable {O : Type} [Overlay O] {bytes : Bytes} {options : OpenOptions}

theorem avoids_initOverlay (blockSize totalBlocks : Nat) :
    Avoids .formatMismatch (initOverlay (O := O) blockSize totalBlocks) := by
  refine Avoids.get.bind fun (image, _) => ?_
  dsimp only
  split
  · exact .pure _
  · split
    · refine (Avoids.attempt _).bind fun opened => ?_
      split
      · exact .modify _
      · exact .modify _
    · exact .pure _
  · refine Avoids.bind (Avoids.get.bind fun _ => (Avoids.modify _).bind fun _ => .pure _) fun path => ?_
    refine Avoids.bind (.zoom_id (.zoom Error.overlay_kind_ne _)) fun store => ?_
    exact .modify _

theorem avoids_repairDeviceSize (descriptor : Descriptor) :
    Avoids .formatMismatch (repairDeviceSize (O := O) descriptor) := by
  unfold repairDeviceSize
  dsimp only
  split
  · exact .pure _
  · exact (Avoids.modify _).bind fun _ => .pure _

theorem avoids_repairUsedBlocks (strict : Bool) (descriptor : Descriptor) (scanned : Nat) :
    Avoids .formatMismatch (repairUsedBlocks (O := O) strict descriptor scanned) := by
  unfold repairUsedBlocks
  split
  · exact .pure _
  · split
    · have hkind : (Error.usedBlockCount descriptor.usedBlocks scanned).kind ≠ .formatMismatch :=
        fun h => nomatch h
      exact (Avoids.throw hkind).bind fun _ => (Avoids.modify _).bind fun _ => .pure _
    · exact (Avoids.modify _).bind fun _ => .pure _

theorem avoids_verifyOverlay : Avoids .formatMismatch (verifyOverlay (O := O)) := by
  refine Avoids.get.bind fun _ => ?_
  split
  · exact (Avoids.zoom Error.overlay_kind_ne _).bind fun _ => .modify _
  · exact .pure _

/-- **Verification makes the checks of version and descriptor first, in every mode.**  What fails after
them is never of the class of a file of another kind. -/
theorem begins_verify {start : Image O × World} (hopened : start.1.stage = .opened)
    (hfresh : Fresh bytes options start) :
    match Check.failure? (Supported.openingChecks bytes) with
    | some kind => ∃ error, (perform verify start).1 = .error error ∧ error.kind = kind
    | none => ∀ error, (perform verify start).1 = .error error → error.kind ≠ .formatMismatch := by
  have hrequire : perform (require .opened) start = (.ok (), start) := by
    rw [perform_require, ready, hopened]
    rfl
  rw [verify, Action.perform_bind_ok hrequire, Action.perform_bind_ok (Action.perform_get start)]
  dsimp only
  suffices hbegins : Begins (Fresh bytes options) .formatMismatch _
      (Supported.openingChecks bytes) from hbegins hfresh
  refine (screens_onSource BlockMap.screens_version).begins fun version hversion => ?_
  obtain ⟨hmagic, rfl⟩ := hversion
  rw [← List.nil_append (match Format.of? bytes with | none => _ | some _ => _)]
  refine (screens_reach _).begins fun _ _ => ?_
  unfold Format.of?
  cases hformat : Format.ofVersion? (Descriptor.versionOf bytes) with
  | none =>
    intro _ _
    exact ⟨_, rfl, rfl⟩
  | some format =>
    dsimp only
    rw [← List.nil_append (Supported.descriptorChecks _ _ ++ _)]
    refine (screens_reach _).begins fun _ _ => ?_
    rw [← List.append_nil (Supported.descriptorChecks _ _ ++ _)]
    refine (screens_onSource (BlockMap.screens_descriptor format hmagic)).begins fun described _ => ?_
    refine Avoids.begins ?_
    refine (Avoids.modify _).bind fun _ => ?_
    refine (avoids_initOverlay _ _).bind fun _ => ?_
    refine (Avoids.zoom_id (BlockMap.avoids_load _ _ _ _)).bind fun map => ?_
    refine (avoids_repairDeviceSize _).bind fun _ => ?_
    refine (Avoids.modify _).bind fun _ => ?_
    refine (avoids_repairUsedBlocks _ _ _).bind fun _ => ?_
    refine (Avoids.modify _).bind fun _ => ?_
    exact avoids_verifyOverlay.bind fun _ => .modify _

end Image

/-! ### The checksum of a descriptor -/

theorem Descriptor.of_version? {bytes : Bytes} {version : Version}
    (h : version? bytes = some version) :
    bytes.slice 0 15 = imageMagic ∧ version = versionOf bytes := by
  obtain ⟨head, hhead, hversion⟩ := Option.bind_eq_some_iff.mp h
  obtain ⟨rfl, -⟩ := Bytes.range?_eq_some hhead
  have hidentify := Action.toOption_eq_some_iff.mp hversion
  unfold identify at hidentify
  split at hidentify
  · cases hidentify
  · split at hidentify
    · cases hidentify
    · next hmagic =>
      rw [Bytes.slice_slice bytes 0 _ (by decide)] at hmagic
      cases hidentify
      exact ⟨Decidable.not_not.mp hmagic, congrArg Version.mk (Bytes.slice_slice bytes 0 _ (by decide))⟩

/-- The checksum after a descriptor is right just if the register is zero after it. -/
theorem Descriptor.crc32_eq_zero_iff {bytes : Bytes} (hlength : 110 ≤ bytes.length) :
    Checksum.crc32 Checksum.seed (bytes.slice 0 110) = 0
      ↔ UInt32.ofNat (bytes.field 106 4) = Checksum.crc32 Checksum.seed (bytes.slice 0 106) := by
  have hfit : 0 + 106 + Checksum.size ≤ bytes.length := hlength
  rw [show 110 = 106 + Checksum.size from rfl, Checksum.crc32_slice_eq_zero_iff _ hfit]
  exact eq_comm

theorem Descriptor.crc32_of_accepted? {bytes : Bytes} {descriptor : Descriptor}
    {layout : RecordLayout} (h : accepted? bytes = some (.current, descriptor, layout)) :
    110 ≤ bytes.length ∧ Checksum.crc32 Checksum.seed (bytes.slice 0 110) = 0 := by
  obtain ⟨version, -, -, hfitting⟩ := accepted?_eq_some_iff.mp h
  obtain ⟨stored, hstored, hdecoded⟩ :=
    Option.bind_eq_some_iff.mp (fitting?_eq_some_iff.mp hfitting).1
  obtain ⟨decoded, -, hdecoded⟩ := Option.bind_eq_some_iff.mp hdecoded
  obtain ⟨rfl, hwhole⟩ := Bytes.range?_eq_some hstored
  have hlength : 110 ≤ bytes.length := by
    rw [Bytes.length_slice, show currentSize + Checksum.size = 110 from rfl] at hwhole
    omega
  have hbody : (bytes.slice 0 110).take 106 = bytes.slice 0 106 := by
    rw [Bytes.slice, Bytes.slice, List.take_take]
    rfl
  split at hdecoded
  · cases hdecoded
  · next hright =>
    refine ⟨hlength, (crc32_eq_zero_iff hlength).mpr ?_⟩
    have hright := Decidable.not_not.mp hright
    rw [show currentSize + Checksum.size = 110 from rfl, show currentSize = 106 from rfl, hbody,
      BlockMap.field_head bytes (by decide)] at hright
    exact hright

/-- The class of the failure of an image in the current layout whose checksum is not right. -/
theorem Supported.failure?_of_crc32_ne {bytes : Bytes}
    (hversion : bytes.slice 30 4 = [0x30, 0x30, 0x30, 0x32]) (hlength : 110 ≤ bytes.length)
    (hcrc : Checksum.crc32 Checksum.seed (bytes.slice 0 110) ≠ 0) :
    Check.failure? (openingChecks bytes)
      = some (if bytes.slice 0 15 = Descriptor.imageMagic then .integrity else .formatMismatch) := by
  have hformat : Format.of? bytes = some .current := by
    rw [of?_eq, if_neg (by rw [hversion]; decide), if_pos hversion]
  have hlong : decide (36 ≤ bytes.length) = true :=
    decide_eq_true (Nat.le_trans (by decide) hlength)
  rw [openingChecks, hformat, headChecks, List.cons_append, Check.failure?_cons_of_passed hlong]
  by_cases hmagic : bytes.slice 0 15 = Descriptor.imageMagic
  · have hchecksum : ¬ bytes.field 106 4
        = (Checksum.crc32 0xFFFFFFFF (bytes.slice 0 106)).toNat := by
      intro heq
      refine hcrc ((Descriptor.crc32_eq_zero_iff hlength).mpr ?_)
      rw [heq]
      exact UInt32.ofNat_toNat
    rw [if_pos hmagic, List.cons_append, Check.failure?_cons_of_passed (decide_eq_true hmagic),
      List.nil_append, Check.failure?_append]
    have hdescriptor : Check.failure? (descriptorChecks bytes .current) = some .integrity := by
      rw [descriptorChecks, Check.failure?_cons_of_passed (decide_eq_true hlength)]
      apply Check.failure?_of_kind
      · simp only [List.forall_mem_cons, List.not_mem_nil, false_implies, implies_true, and_true]
      · exact ⟨_, List.mem_cons_of_mem _ (List.mem_cons_of_mem _ (List.mem_singleton_self _)),
          decide_eq_false hchecksum⟩
    rw [hdescriptor, Option.some_or]
  · rw [if_neg hmagic, List.cons_append,
      Check.failure?_cons_of_failed (decide_eq_false hmagic)]

namespace Image

variable {O O' : Type} [Overlay O] [Overlay O']

/-- **A short burst in the descriptor of a current image is found.**  An image in the current layout
that can be verified, on whatever source and in whatever mode, differs from other bytes in at most four
places in a row, which lie within the descriptor and its checksum and not within the version.  Then
the other bytes cannot be verified, in whatever mode: with another magic they are a file of another
kind, and otherwise damaged. -/
theorem verify_after_burst {source damaged : Source} {path path' : String}
    {options options' : OpenOptions} {setup : Overlay.Setup O} {setup' : Overlay.Setup O'}
    {world world' : World} {verified : Image O × World} {bytes other : Bytes} {start width : Nat}
    (hbytes : source.backing.Agrees world.disk bytes)
    (hverify : perform verify (ofSource source path options setup, world) = (.ok (), verified))
    (hcurrent : bytes.slice 30 4 = Version.current.bytes)
    (hburst : bytes.Burst other start width) (hwidth : width ≤ 4) (hwithin : start + width ≤ 110)
    (hversion : other.slice 30 4 = bytes.slice 30 4)
    (hother : damaged.Faultless world'.disk other) :
    ∃ error failed,
      perform verify (ofSource damaged path' options' setup', world') = (.error error, failed)
        ∧ error.kind
          = if other.slice 0 15 = bytes.slice 0 15 then .integrity else .formatMismatch := by
  obtain ⟨format, described, layout, map, loaded, hfrom⟩ := verifiedFrom_of_verify hverify
  have haccepted := hfrom.accepted hbytes
  obtain ⟨version, hread, hformat, -⟩ := Descriptor.accepted?_eq_some_iff.mp haccepted
  obtain ⟨hmagic, rfl⟩ := Descriptor.of_version? hread
  have hcurrent : bytes.slice 30 4 = [0x30, 0x30, 0x30, 0x32] := hcurrent
  have hknown : format = .current := by
    have hof : Format.of? bytes = some .current := by
      rw [Supported.of?_eq, if_neg (by rw [hcurrent]; decide), if_pos hcurrent]
    exact Option.some.inj (hformat.symm.trans hof)
  subst hknown
  -- the checksum was right, so after a burst it is not
  obtain ⟨hlength, hright⟩ := Descriptor.crc32_of_accepted? haccepted
  have hwrong : Checksum.crc32 Checksum.seed (other.slice 0 110) ≠ 0 := by
    rw [← hright]
    exact Checksum.crc32_ne_of_burst hburst hwidth _ (Nat.zero_le _) (by omega)
  have hfailure := Supported.failure?_of_crc32_ne (hversion.trans hcurrent)
    (hburst.length_eq ▸ hlength) hwrong
  have hbegins := begins_verify (O := O') rfl
    (⟨hother, rfl, rfl⟩ : Fresh other options' (ofSource damaged path' options' setup', world'))
  rw [hfailure] at hbegins
  obtain ⟨error, herror, hkind⟩ := hbegins
  refine ⟨error, _, Prod.ext herror rfl, ?_⟩
  rw [hkind, hmagic]

/-- The lowest byte of the number of blocks is changed. -/
theorem verify_after_burst_total :
    ∃ (other : Bytes) (whole failed : Image MemoryStore × World) (error : Error),
      perform verify (inMemory checkedBlocks.bytes) = (.ok (), whole)
        ∧ checkedBlocks.bytes.Burst other 60 1
        ∧ perform verify (inMemory other) = (.error error, failed) ∧ error.kind = .integrity := by
  have hlength : checkedBlocks.bytes.length = 131 := by
    rw [Archive.bytes, Archive.length_image, Archive.length_records]
    rfl
  have hne : [checkedBlocks.bytes.getD 60 0 + 1] ≠ checkedBlocks.bytes.slice 60 1 := by
    intro hsame
    have hbyte := congrArg (fun window : Bytes => window.getD 0 0) hsame
    simp only [Bytes.getD_slice] at hbyte
    have hchanged : ∀ byte : UInt8, byte + 1 ≠ byte := by
      intro byte
      simp
    exact hchanged _ hbyte
  obtain ⟨other, hburst⟩ : ∃ other, checkedBlocks.bytes.Burst other 60 1 :=
    ⟨_, Bytes.burst_overwrite (by rw [hlength]; decide) hne⟩
  have hwhole : (inMemory checkedBlocks.bytes).1.source.Delivers
      (inMemory checkedBlocks.bytes).2.disk checkedBlocks.bytes := Source.delivers_ofBytes _ _
  obtain ⟨whole, -, -, hverify, -⟩ := exists_verify_image checkedBlocks checkedBlocks.records rfl rfl
    (.inr ⟨rfl, rfl⟩) hwhole (by decide)
  have hcurrent : checkedBlocks.bytes.slice 30 4 = Version.current.bytes := by decide
  have hversion := hburst.slice_eq (.inl (by decide : 30 + 4 ≤ 60))
  have hmagic := hburst.slice_eq (.inl (by decide : 0 + 15 ≤ 60))
  have hdamaged : (inMemory other).1.source.Faultless (inMemory other).2.disk other :=
    Source.faultless_ofBytes _ _
  obtain ⟨error, failed, hfailed, hkind⟩ :
      ∃ error failed, perform verify (inMemory other) = (.error error, failed) ∧ _ :=
    verify_after_burst hwhole.holds.toAgrees hverify hcurrent hburst (by decide) (by decide) hversion
      hdamaged
  refine ⟨other, whole, failed, error, hverify, hburst, hfailed, ?_⟩
  rw [hkind, if_pos hmagic]

end Image

end PartitionImage
