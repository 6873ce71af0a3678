import PartitionImage.Proofs.Burst
import PartitionImage.Proofs.ChangeFile.Opening
import PartitionImage.Proofs.ChangeFile.Sessions
/-!
# The header of a change file is checked

A change file is opened for the geometry it was made for and for no other one, and not at all once a short
burst has hit its header.  The checksum is checked before the geometry, so that damage is never taken for
a file of another image.

* `ChangeFile.Header.crc32_of_decode?` says what the checksum of a header is good for, and
  `ChangeFile.Header.decode?_of_burst` that a header is not found after a burst.
* `ChangeFile.refusalOf` is why a file is not opened, as far as its header goes, and
  `ChangeFile.perform_init_of_refused` that it is why.
* `ChangeFile.header_checked` is the statement about a file that was just made.
-/

namespace PartitionImage

open PartitionImage.Action (perform)

namespace ChangeFile

/-! ### Headers -/

namespace Header

variable {bytes other : Bytes} {header : Header} {start width : Nat}

/-- Bytes of the header up to the end of its checksum. -/
def sealedSize : Nat := checkedSize + Checksum.size

/-- The register is zero after the `sealedSize` bytes of a header that can be decoded. -/
theorem crc32_of_decode? (h : decode? bytes = some header) :
    Checksum.crc32 Checksum.seed (bytes.slice 0 sealedSize) = 0 := by
  unfold decode? at h
  dsimp only at h
  split at h
  · cases h
  · next hlong =>
    split at h
    · next hright =>
      have hfit : 0 + checkedSize + Checksum.size ≤ bytes.length :=
        Nat.le_trans (by decide) (Nat.le_of_not_lt hlong)
      have hstored : bytes.field (0 + checkedSize) Checksum.size
          = (Checksum.crc32 Checksum.seed (bytes.slice 0 checkedSize)).toNat := hright.2
      rw [sealedSize, Checksum.crc32_slice_eq_zero_iff _ hfit, hstored, UInt32.ofNat_toNat]
    · cases h

/-- **A short burst that reaches no further than the checksum leaves no header to be found.** -/
theorem decode?_of_burst (h : decode? (bytes.slice 0 headerSize) = some header)
    (hburst : bytes.Burst other start width) (hwidth : width ≤ 4)
    (hwithin : start + width ≤ sealedSize) : decode? (other.slice 0 headerSize) = none := by
  have hsealed : ∀ bytes : Bytes, (bytes.slice 0 headerSize).slice 0 sealedSize
      = bytes.slice 0 sealedSize := fun bytes => Bytes.slice_slice bytes 0 _ (by decide)
  have hright := crc32_of_decode? h
  rw [hsealed] at hright
  cases hfound : decode? (other.slice 0 headerSize) with
  | none => rfl
  | some found =>
    have hother := crc32_of_decode? hfound
    rw [hsealed, ← hright] at hother
    refine absurd hother (Checksum.crc32_ne_of_burst hburst hwidth _ (Nat.zero_le _) ?_)
    rwa [Nat.zero_add]

end Header

/-! ### Opening -/

variable {file : ChangeFile} {disk altered : Disk} {path : String} {id : FileId}
  {blockSize totalBlocks start width : Nat}

/-- Why a file with this header is not opened for a geometry, if that is why. -/
def refusalOf (path : String) (blockSize totalBlocks : Nat) : Option Header → Option OverlayError
  | none => some (.invalidHeader path)
  | some header =>
    if header = ⟨blockSize, totalBlocks⟩ then none
    else some (.geometryMismatch header.blockSize header.totalBlocks blockSize totalBlocks)

/-- **A file whose header is refused is not opened, and is left as it is.** -/
theorem perform_init_of_refused {error : OverlayError} (hfound : disk.lookupFile path = .ok id)
    (h : refusalOf path blockSize totalBlocks
      (Header.decode? ((disk.content id).slice 0 headerSize)) = some error) :
    perform (init path blockSize totalBlocks) disk = (.error error, disk) := by
  have hopened : (disk.lookupFile path).mapError (OverlayError.cannotOpen path) = .ok id :=
    Action.mapError_eq_ok_iff.mpr hfound
  rw [init, Action.perform_bind_ok (Action.perform_get _), hopened,
    Action.perform_bind_ok (Action.perform_ofExcept _ _),
    toBytes_readFile disk id (show 0 + headerSize ≤ Disk.maxOffset by decide)]
  cases hheader : Header.decode? ((disk.content id).slice 0 headerSize) with
  | none =>
    rw [hheader] at h
    obtain rfl : OverlayError.invalidHeader path = error := Option.some.inj h
    rfl
  | some header =>
    rw [hheader, refusalOf] at h
    split at h
    · cases h
    · next hne =>
      obtain rfl := Option.some.inj h
      dsimp only
      rw [if_pos hne, Action.perform_bind_error (Action.perform_throw _ _)]

theorem perform_init_of_ne (hkept : file.Kept disk)
    (hne : (blockSize, totalBlocks) ≠ (file.blockSize, file.totalBlocks)) :
    perform (init file.path blockSize totalBlocks) disk
      = (.error (.geometryMismatch file.blockSize file.totalBlocks blockSize totalBlocks), disk) := by
  have hother : (⟨file.blockSize, file.totalBlocks⟩ : Header) ≠ ⟨blockSize, totalBlocks⟩ := by
    intro hsame
    cases hsame
    exact hne rfl
  apply perform_init_of_refused hkept.found
  rw [hkept.header, refusalOf, if_neg hother]

/-- A file whose header was hit by a short burst is refused whatever it is opened for. -/
theorem perform_init_of_burst (hkept : file.Kept disk) (hfound : altered.lookupFile path = .ok id)
    (hburst : (disk.content file.file).Burst (altered.content id) start width) (hwidth : width ≤ 4)
    (hwithin : start + width ≤ Header.sealedSize) :
    perform (init path blockSize totalBlocks) altered = (.error (.invalidHeader path), altered) := by
  apply perform_init_of_refused hfound
  rw [Header.decode?_of_burst hkept.header hburst hwidth hwithin, refusalOf]

theorem Ending.leave_of_saved (h : file.dirty = false) (ending : Ending) (disk : Disk) :
    ending.leave file disk = (ending.expect, disk) := by
  have hfinish : perform file.finish disk = (.ok (), disk) := by
    rw [ChangeFile.finish, Action.perform_zoom, perform_sync_of_saved h]
    rfl
  cases ending with
  | finish => rw [leave, hfinish, expect]
  | drop =>
    show ([], (perform file.finish disk).2) = _
    rw [hfinish, expect]

/-! ### A file that was just made -/

/-- **The header of a change file is checked.**  A file that is made where nothing is lost is opened again for
its geometry, whether it was let go of or not, and for any other one it is refused with the geometry that it
was made for.  Wherever a file is that differs from it in at most four bytes in a row, within the first
28, it is refused for its header whatever it is to be opened for, and is left as it is. -/
theorem header_checked (hsound : disk.Sound) (hvacant : disk.Vacant path)
    (hfits : Fits blockSize totalBlocks disk.sizeLimit) :
    ∃ file made, perform (create path blockSize totalBlocks) disk = (.ok file, made)
      ∧ (∀ ending : Ending, ending.leave file made = (ending.expect, made))
      ∧ perform (init path blockSize totalBlocks) made = (.ok file, made)
      ∧ (∀ otherSize otherTotal, (otherSize, otherTotal) ≠ (blockSize, totalBlocks) →
        perform (init path otherSize otherTotal) made
          = (.error (.geometryMismatch blockSize totalBlocks otherSize otherTotal), made))
      ∧ ∀ (altered : Disk) (place : String) (id : FileId) (start width : Nat),
        altered.lookupFile place = .ok id →
        (made.content file.file).Burst (altered.content id) start width → width ≤ 4 →
        start + width ≤ 28 →
        ∀ anySize anyTotal,
          perform (init place anySize anyTotal) altered = (.error (.invalidHeader place), altered) := by
  obtain ⟨id, made, hcreate, hkept, -⟩ := exists_fresh hsound hvacant hfits
  refine ⟨fresh path id blockSize totalBlocks, made, hcreate, ?_, ?_, ?_, ?_⟩
  · intro ending
    exact ending.leave_of_saved rfl made
  · have hinit := perform_init hkept rfl hfits
    exact hinit
  · intro otherSize otherTotal hne
    have hother := perform_init_of_ne hkept hne
    exact hother
  · intro altered place other start width hfound hburst hwidth hwithin anySize anyTotal
    exact perform_init_of_burst hkept hfound hburst hwidth hwithin

/-- Four bytes are changed, two of the number of blocks and two of the checksum. -/
theorem header_checked_astride :
    ∃ file made altered, perform (create "a.cf" 2 3) {} = (.ok file, made)
      ∧ perform (init "a.cf" 2 3) made = (.ok file, made)
      ∧ perform (init "a.cf" 2 4) made = (.error (.geometryMismatch 2 3 2 4), made)
      ∧ (made.content file.file).Burst (altered.content file.file) 22 4
      ∧ perform (init "a.cf" 2 3) altered = (.error (.invalidHeader "a.cf"), altered) := by
  have hvacant : ({} : Disk).Vacant "a.cf" := ⟨0, _, create_on_empty, rfl⟩
  have hfits : Fits 2 3 ({} : Disk).sizeLimit := ⟨by decide, by decide, by decide, by decide⟩
  obtain ⟨id, made, hfresh, hkept, hlimit⟩ := exists_fresh Disk.sound_empty hvacant hfits
  obtain ⟨file, reached, hcreate, -, hinit, hother, hdamaged⟩ :=
    header_checked Disk.sound_empty hvacant hfits
  obtain ⟨hfile, rfl⟩ := Prod.mk.inj (hfresh.symm.trans hcreate)
  obtain rfl := Except.ok.inj hfile
  have hisFile : made.IsFile id := hkept.isFile
  have hroom : 22 + 4 ≤ (made.content id).length := by
    have hwhole : wholeLength 2 3 ≤ made.length id := hkept.room
    rw [← Disk.length_eq]
    exact Nat.le_trans (by decide) hwhole
  obtain ⟨altered, hwrite⟩ : ∃ altered, made.write id 22
      (.ofBytes (((made.content id).slice 22 4).map (· + 1))) = .ok altered := by
    have hend : 22 + (Packed.ofBytes (((made.content id).slice 22 4).map (· + 1))).size ≤ 26 := by
      rw [Packed.size_ofBytes, List.length_map, Bytes.length_slice_of_le hroom]
    exact Disk.exists_write id hend (by decide) (by rw [hlimit]; decide)
  have hburst : (made.content id).Burst (altered.content id) 22 4 := by
    rw [made.content_write hisFile hwrite, Packed.toBytes_ofBytes]
    exact Bytes.burst_succ (by decide) hroom
  have hfound : altered.lookupFile "a.cf" = .ok id :=
    (Disk.changesOnly_write hwrite).keeps.lookupFile hkept.found
  exact ⟨_, made, altered, hcreate, hinit, hother 2 4 (by decide), hburst,
    hdamaged altered "a.cf" id 22 4 hfound hburst (by decide) (by decide) 2 3⟩

end ChangeFile

end PartitionImage
