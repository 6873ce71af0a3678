import PartitionImage.Proofs.ChangeFile.Format
import PartitionImage.Proofs.Disk
/-!
# What is in a change file

One lemma for each operation of an open change file: what it does to the blocks that are stored, and that
header, map and slots stay where they are.

* `ChangeFile.Whole` says that an open file has room for every slot, `ChangeFile.Kept` that a header for its
  geometry and, unless it is dirty, its map are on disk, so that it can be opened again.
* `ChangeFile.perform_createEmpty` makes a file, `ChangeFile.perform_init` opens it again as it was.
* `ChangeFile.Whole.stored_write` is the write of a block, `ChangeFile.perform_sync` saves the map.
-/

namespace PartitionImage

open PartitionImage.Action (perform)

/-- A string that was resized keeps what it still has room for. -/
theorem Bytes.slice_resize {bytes : Bytes} {size start n : Nat} (hroom : start + n ≤ bytes.length)
    (hsize : start + n ≤ size) : (bytes.resize size).slice start n = bytes.slice start n := by
  refine ext_getD ?_ fun i hi => ?_
  · rw [length_slice, length_slice, length_resize]
    omega
  · have hin : i < n := by
      rw [length_slice] at hi
      exact Nat.lt_of_lt_of_le hi (Nat.min_le_left _ _)
    rw [getD_slice, getD_slice, getD_resize, if_pos hin, if_pos hin, if_pos (by omega)]

theorem Bytes.overwrite_all {bytes new : Bytes} (h : new.length = bytes.length) :
    bytes.overwrite 0 new = new := by
  refine ext_getD ?_ fun i hi => ?_
  · rw [length_overwrite]
    split <;> omega
  · rw [getD_overwrite]
    split
    · rfl
    · next hout =>
      rw [length_overwrite] at hi
      split at hi <;> omega

/-- A map has the bytes that were loaded into it, if they are as many as its own. -/
theorem Bitmap.toBytes_load (map : Bitmap) {bytes : Packed} (h : bytes.size = map.bytes.size) :
    (map.load bytes).bytes.toBytes = bytes.toBytes := by
  have htake : (bytes.take map.bytes.size).toBytes = bytes.toBytes := by
    rw [Packed.toBytes_take, ← h, ← Packed.length_toBytes, List.take_length]
  show (map.bytes.overwrite 0 _).toBytes = _
  rw [Packed.toBytes_overwrite, htake]
  exact Bytes.overwrite_all (by rw [Packed.length_toBytes, Packed.length_toBytes, h])

/-- A map that is loaded from its own bytes is the same again. -/
theorem Bitmap.load_clear (map : Bitmap) {bytes : Packed} (h : bytes.toBytes = map.bytes.toBytes) :
    (clear map.length).load bytes = map := by
  obtain rfl : bytes = map.bytes := Packed.toBytes_inj.mp h
  have hsize : map.bytes.size = (clear map.length).bytes.size :=
    map.size_bytes.trans (clear map.length).size_bytes.symm
  have hloaded : ((clear map.length).load map.bytes).bytes = map.bytes :=
    Packed.toBytes_inj.mp (toBytes_load _ hsize)
  rcases map with ⟨bytes, length, hbytes⟩
  rw [load] at hloaded ⊢
  congr

namespace ChangeFile

variable {file : ChangeFile} {disk after : Disk} {path : String} {id : FileId}
  {blockSize totalBlocks : Nat}

/-! ### Files that are whole -/

/-- An open file has a map and a slot for every block. -/
structure Whole (file : ChangeFile) (disk : Disk) : Prop where
  isFile : disk.IsFile file.file
  positions : file.map.length = file.totalBlocks
  reach : wholeLength file.blockSize file.totalBlocks ≤ Disk.maxOffset
  room : wholeLength file.blockSize file.totalBlocks ≤ disk.length file.file

/-- An open file can be opened again once its map is saved. -/
structure Kept (file : ChangeFile) (disk : Disk) : Prop extends Whole file disk where
  found : disk.lookupFile file.path = .ok file.file
  header : Header.decode? ((disk.content file.file).slice 0 headerSize)
    = some ⟨file.blockSize, file.totalBlocks⟩
  saved : file.dirty = false →
    (disk.content file.file).slice headerSize file.map.bytes.size = file.map.bytes.toBytes

theorem Kept.moved (h : file.Kept disk) (cursor : Nat) : { file with cursor := cursor }.Kept disk :=
  ⟨⟨h.isFile, h.positions, h.reach, h.room⟩, h.found, h.header, h.saved⟩

/-! ### Writing to the file -/

section

variable {offset : Nat} {bytes : Packed}

theorem Whole.write (hwhole : file.Whole disk)
    (h : disk.write file.file offset bytes = .ok after) : file.Whole after :=
  ⟨((Disk.changesOnly_write h).isFile_iff _).mpr hwhole.isFile, hwhole.positions, hwhole.reach,
    Nat.le_trans hwhole.room (Disk.length_le_of_write hwhole.isFile h)⟩

theorem Whole.slice_write (hwhole : file.Whole disk)
    (h : disk.write file.file offset bytes = .ok after) {start n : Nat}
    (hroom : start + n ≤ wholeLength file.blockSize file.totalBlocks)
    (haway : start + n ≤ offset ∨ offset + bytes.size ≤ start) :
    (after.content file.file).slice start n = (disk.content file.file).slice start n := by
  have hlength := hwhole.room
  rw [Disk.length_eq] at hlength
  rw [disk.content_write hwhole.isFile h]
  exact Bytes.slice_overwrite_of_disjoint (Nat.le_trans hroom hlength) haway

theorem Whole.slice_written (hwhole : file.Whole disk)
    (h : disk.write file.file offset bytes = .ok after) :
    (after.content file.file).slice offset bytes.size = bytes.toBytes := by
  rw [disk.content_write hwhole.isFile h, ← Packed.length_toBytes]
  exact Bytes.slice_overwrite _ _ _

end

/-! ### Blocks -/

theorem refusal?_eq_none_iff {length : Nat} :
    file.refusal? length = none ↔ length = file.blockSize ∧ file.cursor < file.totalBlocks := by
  unfold refusal?
  split
  · next hne => exact ⟨fun h => (nomatch h), fun h => absurd h.1 hne⟩
  · next heq =>
    split
    · exact ⟨fun h => (nomatch h), fun h => by omega⟩
    · exact ⟨fun _ => ⟨Decidable.not_not.mp heq, by omega⟩, fun _ => rfl⟩

/-- The file with the block at its cursor in the map, which is then behind on disk. -/
def marked (file : ChangeFile) : ChangeFile :=
  { file with
    map := if file.map.isSet file.cursor then file.map else file.map.set file.cursor
    dirty := file.dirty || !file.map.isSet file.cursor }

theorem marked_eq (file : ChangeFile) :
    file.marked = if file.map.isSet file.cursor then file
      else { file with map := file.map.set file.cursor, dirty := true } := by
  unfold marked
  split
  · next hset =>
    rw [hset]
    exact congrArg (fun dirty => { file with dirty := dirty }) (Bool.or_false _)
  · next hset =>
    rw [Bool.eq_false_iff.mpr hset]
    exact congrArg (fun dirty => { file with map := file.map.set file.cursor, dirty := dirty })
      (Bool.or_true _)

/-- A write stores the block in its slot, if it can be exchanged with one. -/
theorem perform_write (block : Bytes) (file : ChangeFile) (disk : Disk) :
    perform (write block) (file, disk)
      = match file.refusal? block.length with
        | some error => (.error error, file, disk)
        | none =>
          if range64 ≤ file.slotStart file.cursor then (.error .overflow, file, disk)
          else
            match disk.write file.file (file.slotStart file.cursor) (.ofBytes block) with
            | .error error => (.error (.io error), file, disk)
            | .ok after => (.ok (), file.marked.advance, after) := by
  rw [write, Action.perform_bind_ok (Action.perform_get _)]
  dsimp only
  cases file.refusal? block.length with
  | some error => rfl
  | none =>
    dsimp only
    rcases Nat.lt_or_ge (file.slotStart file.cursor) range64 with hlt | hle
    · rw [slotOffset?, checked64?_of_lt hlt, if_neg (Nat.not_le.mpr hlt)]
      dsimp only
      rw [Action.perform_bind, Action.perform_ofExcept, marked_eq]
      cases disk.write file.file (file.slotStart file.cursor) (.ofBytes block) with
      | error error => rfl
      | ok after => rfl
    · rw [slotOffset?, checked64?_of_le hle, if_pos hle]
      rfl

theorem isSet_marked (hcursor : file.cursor < file.map.length) (block : Nat) :
    file.marked.map.isSet block = (decide (block = file.cursor) || file.map.isSet block) := by
  rw [marked]
  dsimp only
  split
  · next hset =>
    by_cases heq : block = file.cursor
    · rw [heq, hset, decide_eq_true rfl, Bool.true_or]
    · rw [decide_eq_false heq, Bool.false_or]
  · exact file.map.isSet_set (file.map.div_lt_size_bytes hcursor) block

theorem length_map_marked (file : ChangeFile) : file.marked.map.length = file.map.length := by
  rw [marked]
  dsimp only
  split
  · rfl
  · rfl

section

variable {block : Bytes}

/-- **A write stores the block and no other.** -/
theorem Whole.stored_write (hwhole : file.Whole disk) (hcursor : file.cursor < file.totalBlocks)
    (hlength : block.length = file.blockSize)
    (h : disk.write file.file (file.slotStart file.cursor) (.ofBytes block) = .ok after)
    {asked : Nat} (hasked : asked < file.totalBlocks) :
    file.marked.advance.stored after asked
      = if asked = file.cursor then some block else file.stored disk asked := by
  have hplace : file.marked.advance.stored after asked
      = if file.marked.map.isSet asked then
          some ((after.content file.file).slice (file.slotStart asked) file.blockSize)
        else none := rfl
  rw [hplace, isSet_marked (hwhole.positions ▸ hcursor)]
  by_cases heq : asked = file.cursor
  · have hwritten := hwhole.slice_written h
    rw [Packed.size_ofBytes, hlength, Packed.toBytes_ofBytes] at hwritten
    rw [heq, decide_eq_true rfl, Bool.true_or, if_pos rfl, if_pos rfl, hwritten]
  · have hkept := hwhole.slice_write h (slotStart_add_le hasked) (by
      rw [Packed.size_ofBytes, hlength]
      exact slots_disjoint heq)
    rw [decide_eq_false heq, Bool.false_or, if_neg heq, hkept]
    rfl

theorem Whole.map_le_slot (hwhole : file.Whole disk) (asked : Nat) :
    headerSize + file.map.bytes.size ≤ file.slotStart asked := by
  have hplace := headerSize_add_le file.blockSize file.totalBlocks
  rw [file.map.size_bytes, hwhole.positions, slotStart]
  omega

theorem Whole.map_le (hwhole : file.Whole disk) :
    headerSize + file.map.bytes.size ≤ wholeLength file.blockSize file.totalBlocks := by
  have hplace := headerSize_add_le file.blockSize file.totalBlocks
  rw [file.map.size_bytes, hwhole.positions, wholeLength]
  omega

theorem Kept.write (hkept : file.Kept disk)
    (h : disk.write file.file (file.slotStart file.cursor) (.ofBytes block) = .ok after) :
    file.marked.advance.Kept after := by
  have hwhole := hkept.toWhole.write h
  have hmap := hkept.map_le
  have hslot := hkept.map_le_slot file.cursor
  refine ⟨⟨hwhole.isFile, file.length_map_marked.trans hwhole.positions, hwhole.reach, hwhole.room⟩,
    (Disk.changesOnly_write h).keeps.lookupFile hkept.found, ?_, ?_⟩
  · show Header.decode? ((after.content file.file).slice 0 headerSize) = _
    rw [hkept.slice_write h (by omega) (.inl (by omega))]
    exact hkept.header
  · intro hclean
    -- the map is only up to date if the block was in it before
    obtain ⟨hsaved, hunset⟩ := Bool.or_eq_false_iff.mp hclean
    have hset : file.map.isSet file.cursor = true := by simpa using hunset
    have hmarked : file.marked = file := file.marked_eq.trans (if_pos hset)
    show (after.content file.file).slice headerSize file.marked.map.bytes.size = _
    rw [hmarked, hkept.slice_write h hmap (.inl hslot)]
    exact hkept.saved hsaved

end

/-! ### Saving the map -/

def clean (file : ChangeFile) : ChangeFile := { file with dirty := false }

theorem clean_of_saved (h : file.dirty = false) : file.clean = file := by
  rw [clean, ← h]

theorem perform_sync_of_saved (h : file.dirty = false) (disk : Disk) :
    perform sync (file, disk) = (.ok (), file, disk) := by
  rw [sync, Action.perform_bind_ok (Action.perform_get _)]
  simp [h]

/-- **Saving the map of a file leaves its blocks and makes it one that can be opened again.** -/
theorem perform_sync (hkept : file.Kept disk)
    (hlimit : wholeLength file.blockSize file.totalBlocks ≤ disk.sizeLimit) :
    ∃ after, perform sync (file, disk) = (.ok (), file.clean, after) ∧ file.clean.Kept after
      ∧ after.sizeLimit = disk.sizeLimit
      ∧ ∀ block, block < file.totalBlocks → file.clean.stored after block = file.stored disk block := by
  cases hdirty : file.dirty with
  | false =>
    rw [clean_of_saved hdirty]
    exact ⟨disk, perform_sync_of_saved hdirty disk, hkept, rfl, fun _ _ => rfl⟩
  | true =>
    obtain ⟨after, h⟩ := Disk.exists_write file.file hkept.map_le hkept.reach hlimit
    have hwrite : perform writeMap (file, disk) = (.ok (), file.clean, after) := by
      rw [writeMap, Action.perform_bind_ok (Action.perform_get _)]
      dsimp only
      rw [h]
      rfl
    have hwhole := hkept.toWhole.write h
    have hsync : perform sync (file, disk) = perform writeMap (file, disk) := by
      rw [sync, Action.perform_bind_ok (Action.perform_get _)]
      simp [hdirty]
    refine ⟨after, hsync.trans hwrite, ?_, (Disk.changesOnly_write h).sizeLimit_eq, ?_⟩
    · refine ⟨⟨hwhole.isFile, hwhole.positions, hwhole.reach, hwhole.room⟩,
        (Disk.changesOnly_write h).keeps.lookupFile hkept.found, ?_, fun _ => hkept.slice_written h⟩
      show Header.decode? ((after.content file.file).slice 0 headerSize) = _
      have hmap := hkept.map_le
      rw [hkept.slice_write h (by omega) (.inl (by omega))]
      exact hkept.header
    · intro block hblock
      have hslot := hkept.slice_write h (slotStart_add_le hblock)
        (.inr (hkept.map_le_slot block))
      show (if file.map.isSet block then
          some ((after.content file.file).slice (file.slotStart block) file.blockSize)
        else none) = _
      rw [hslot]
      rfl

/-! ### Opening -/

/-- **A file whose map is saved is opened again as it was**, with the cursor at the start. -/
theorem perform_init {sizeLimit : Nat} (hkept : file.Kept disk) (hsaved : file.dirty = false)
    (hfits : Fits file.blockSize file.totalBlocks sizeLimit) :
    perform (init file.path file.blockSize file.totalBlocks) disk
      = (.ok { file with cursor := 0 }, disk) := by
  have hroom := hkept.room
  have hreach := hkept.reach
  have hmap := hkept.map_le
  have hsize : (Bitmap.clear file.totalBlocks).bytes.size = file.map.bytes.size := by
    rw [Bitmap.size_bytes, Bitmap.size_bytes, hkept.positions]
    rfl
  obtain ⟨header, hreadHeader, hheader⟩ := readFile_of_le
    (show 0 + headerSize ≤ disk.length file.file by omega) (by omega)
  obtain ⟨stored, hreadMap, hstored⟩ := readFile_of_le
    (show headerSize + (Bitmap.clear file.totalBlocks).bytes.size ≤ disk.length file.file by omega)
    (by omega)
  have hloaded : (Bitmap.clear file.totalBlocks).load stored = file.map := by
    rw [← hkept.positions]
    apply Bitmap.load_clear
    rw [hstored, hsize]
    exact hkept.saved hsaved
  have hopened : (disk.lookupFile file.path).mapError (OverlayError.cannotOpen file.path)
      = .ok file.file := Action.mapError_eq_ok_iff.mpr hkept.found
  rw [init, Action.perform_bind_ok (Action.perform_get _), hopened,
    Action.perform_bind_ok (Action.perform_ofExcept _ _), hreadHeader]
  dsimp only
  rw [hheader, hkept.header]
  dsimp only
  rw [if_neg (fun hne => hne rfl), hfits.newMap_eq,
    Action.perform_bind_ok (Action.perform_ofExcept _ _), hreadMap]
  dsimp only
  rw [hloaded, ← hsaved]
  rfl

theorem perform_create_of_size {n : Nat} (h : disk.size path = .ok (n + 1)) :
    perform (create path blockSize totalBlocks) disk
      = perform (init path blockSize totalBlocks) disk := by
  rw [create, Action.perform_bind_ok (Action.perform_get _), h]

/-- Where there is nothing, or an empty file, a file is made. -/
theorem perform_create_of_vacant (h : ∀ n, disk.size path ≠ .ok (n + 1)) :
    perform (create path blockSize totalBlocks) disk
      = perform (createEmpty path blockSize totalBlocks) disk := by
  rw [create, Action.perform_bind_ok (Action.perform_get _)]
  split
  · next n hsize => exact absurd hsize (h n)
  · rfl

def fresh (path : String) (id : FileId) (blockSize totalBlocks : Nat) : ChangeFile where
  path := path
  file := id
  blockSize := blockSize
  totalBlocks := totalBlocks
  map := .clear totalBlocks
  dirty := false
  cursor := 0

theorem stored_fresh (disk : Disk) (block : Nat) :
    (fresh path id blockSize totalBlocks).stored disk block = none := by
  show (if (Bitmap.clear totalBlocks).isSet block then _ else none) = none
  rw [Bitmap.isSet_clear]
  rfl

/-- The bytes of a file that was just made: header and map, and a hole for the slots. -/
theorem slice_made {header map : Bytes} {size : Nat} (hheader : header.length = headerSize)
    (hroom : headerSize + map.length ≤ size) {bytes : Bytes}
    (hbytes : bytes = ((Bytes.overwrite [] 0 header).overwrite headerSize map).resize size) :
    bytes.slice 0 headerSize = header ∧ bytes.slice headerSize map.length = map := by
  subst hbytes
  have hlengthHeader : (Bytes.overwrite [] 0 header).length = headerSize := by
    rw [Bytes.length_overwrite, hheader, if_neg (by decide)]
    exact Nat.max_eq_right (Nat.zero_le _)
  have hlengthMap : headerSize + map.length
      ≤ ((Bytes.overwrite [] 0 header).overwrite headerSize map).length := by
    rw [Bytes.length_overwrite, hlengthHeader]
    split <;> omega
  constructor
  · rw [Bytes.slice_resize (by omega) (by omega),
      Bytes.slice_overwrite_of_disjoint (by omega) (.inl (by omega)), ← hheader]
    exact Bytes.slice_overwrite _ _ _
  · rw [Bytes.slice_resize hlengthMap hroom]
    exact Bytes.slice_overwrite _ _ _

/-- **A file that is made has no blocks, and can be opened again.** -/
theorem perform_createEmpty {made : Disk} (hsound : disk.Sound)
    (hcreate : disk.create path = .ok (id, made)) (hfits : Fits blockSize totalBlocks disk.sizeLimit) :
    ∃ after, perform (createEmpty path blockSize totalBlocks) disk
        = (.ok (fresh path id blockSize totalBlocks), after)
      ∧ (fresh path id blockSize totalBlocks).Kept after ∧ after.sizeLimit = disk.sizeLimit := by
  have hreach := hfits.reach
  have hlimit := hfits.limit
  rw [← Disk.sizeLimit_create hcreate] at hlimit
  have hfound := Disk.lookupFile_create hcreate
  have hfile := (hsound.create hcreate).isFile hfound
  have hplaces := headerSize_add_le blockSize totalBlocks
  have hsize : (Bitmap.clear totalBlocks).bytes.size = bytesForBits totalBlocks :=
    (Bitmap.clear totalBlocks).size_bytes
  have hend : headerSize + (Bitmap.clear totalBlocks).bytes.size ≤ wholeLength blockSize totalBlocks := by
    rw [hsize, wholeLength]
    omega
  have hheaderSize : (Packed.ofBytes (Header.encode ⟨blockSize, totalBlocks⟩)).size = headerSize := by
    rw [Packed.size_ofBytes, Header.length_encode]
  obtain ⟨headed, hheader⟩ := Disk.exists_write id (show 0 + _ ≤ _ by rw [hheaderSize]; omega)
    hreach hlimit
  have hheaded := Disk.changesOnly_write hheader
  rw [← hheaded.sizeLimit_eq] at hlimit
  obtain ⟨mapped, hmap⟩ := Disk.exists_write id hend hreach hlimit
  have hmapped := Disk.changesOnly_write hmap
  rw [← hmapped.sizeLimit_eq] at hlimit
  obtain ⟨after, hlength⟩ : ∃ after,
      mapped.setLength id (wholeLength blockSize totalBlocks) = .ok after :=
    ⟨_, (mapped.setLength_eq_ok_iff id _ _).mpr
      ⟨(mapped.lengthRefusal?_eq_none_iff _).mpr ⟨hreach, hlimit⟩, rfl⟩⟩
  have hmade : (disk.create path).mapError (OverlayError.cannotOpen path) = .ok (id, made) :=
    Action.mapError_eq_ok_iff.mpr hcreate
  have hrun : perform (createEmpty path blockSize totalBlocks) disk
      = (.ok (fresh path id blockSize totalBlocks), after) := by
    have honDisk : ∀ {change : Disk → Except IoError Disk} {before next : Disk},
        change before = .ok next → perform (onDisk change) before = (.ok (), next) := by
      intro change before next h
      rw [onDisk, Action.perform_bind_ok (Action.perform_get _), h]
      rfl
    rw [createEmpty, Action.perform_bind_ok (Action.perform_get _), hmade,
      Action.perform_bind_ok (Action.perform_ofExcept _ _)]
    dsimp only
    rw [Action.perform_bind_ok (Action.perform_set _ _), hfits.newMap_eq,
      Action.perform_bind_ok (Action.perform_ofExcept _ _),
      Action.perform_bind_ok (honDisk hheader), Action.perform_bind_ok (honDisk hmap), hfits.expectedLength?_eq]
    dsimp only
    rw [Action.perform_bind_ok (honDisk hlength)]
    rfl
  have hheadedFile := (hheaded.isFile_iff id).mpr hfile
  have hmappedFile := (hmapped.isFile_iff id).mpr hheadedFile
  have hchanged := (hheaded.trans hmapped).trans (Disk.changesOnly_setLength hlength)
  have hcontent := mapped.content_setLength hmappedFile hlength
  rw [headed.content_write hheadedFile hmap, made.content_write hfile hheader,
    Disk.content_create hsound hcreate, Packed.toBytes_ofBytes] at hcontent
  obtain ⟨hslice, hsliceMap⟩ := slice_made (Header.length_encode _) hend hcontent
  have hheaded : Header.decode? ((after.content id).slice 0 headerSize) = some ⟨blockSize, totalBlocks⟩ := by
    rw [hslice]
    exact hfits.decode?_encode
  refine ⟨after, hrun, ⟨⟨?_, rfl, hfits.reach, ?_⟩, ?_, hheaded, fun _ => hsliceMap⟩, ?_⟩
  · exact (hchanged.isFile_iff id).mpr hfile
  · show _ ≤ after.length id
    rw [Disk.length_eq, hcontent, Bytes.length_resize]
    exact Nat.le_refl _
  · exact hchanged.keeps.lookupFile hfound
  · exact hchanged.sizeLimit_eq.trans (Disk.sizeLimit_create hcreate)

end ChangeFile

end PartitionImage
