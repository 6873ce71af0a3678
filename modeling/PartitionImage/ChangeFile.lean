import PartitionImage.Bitmap
import PartitionImage.Checksum
import PartitionImage.Overlay
import PartitionImage.Text.Quoted
/-!
# Change files

A change file keeps changed blocks beside an image: a header of 32 bytes, a map with one bit for
each block, and a slot for each block.  Slots start at a multiple of the block size.  The map is kept
in memory and written back when the changes are to last.

* `ChangeFile.Header` is the header, `Header.encode` and `Header.decode?` its form on disk.
* `ChangeFile` is an open change file; `ChangeFile.init` opens one, `ChangeFile.create` makes one
  where there is none.
* `ChangeFile` is an `Overlay`.
-/

namespace PartitionImage

structure ChangeFile where
  path : String
  file : FileId
  blockSize : Nat
  totalBlocks : Nat
  map : Bitmap
  /-- The map on disk is not `map`. -/
  dirty : Bool
  cursor : Nat

namespace ChangeFile

def text (file : ChangeFile) : String :=
  "ChangeFile \x7b path: " ++ Text.quoted file.path ++ ", block_size: "
    ++ toString file.blockSize ++ ", total_blocks: " ++ toString file.totalBlocks
    ++ ", cursor: " ++ toString file.cursor ++ ", dirty: " ++ Text.bool file.dirty ++ ", .. \x7d"

/-! ### Header -/

/-- The geometry that a change file was made for. -/
structure Header where
  blockSize : Nat
  totalBlocks : Nat
  deriving DecidableEq, Repr

/-- `PCIMGCF1`, at the start of every change file. -/
def magic : Bytes := [0x50, 0x43, 0x49, 0x4D, 0x47, 0x43, 0x46, 0x31]

def headerSize : Nat := 32

/-- Bytes of the header that its checksum covers, which is stored after them. -/
def checkedSize : Nat := 24

namespace Header

/-- The part of a header that its checksum covers: magic, block size, a reserved word, and the
number of blocks. -/
def checked (header : Header) : Bytes :=
  magic ++ Bytes.ofNat 4 header.blockSize ++ Bytes.ofNat 4 0 ++ Bytes.ofNat 8 header.totalBlocks

/-- A header as it is stored: the checked part, its checksum, and a reserved word. -/
def encode (header : Header) : Bytes :=
  header.checked ++ Bytes.ofNat 4 (Checksum.crc32 Checksum.seed header.checked).toNat
    ++ Bytes.ofNat 4 0

/-- The header in the first bytes of a file, if magic and checksum are right. -/
def decode? (bytes : Bytes) : Option Header :=
  let covered := bytes.slice 0 checkedSize
  if bytes.length < headerSize then none
  else if bytes.slice 0 8 = magic
      ∧ bytes.field 24 4 = (Checksum.crc32 Checksum.seed covered).toNat then
    some { blockSize := bytes.field 8 4, totalBlocks := bytes.field 16 8 }
  else none

end Header

/-! ### Places -/

/-- The least multiple of `step` that is not below `n`. -/
def roundUp (n step : Nat) : Nat := (n + step - 1) / step * step

/-- Where the first slot starts: the header and the map, rounded up to `blockSize`. -/
def dataOffset (blockSize totalBlocks : Nat) : Nat :=
  roundUp (headerSize + bytesForBits totalBlocks) (max blockSize 1)

/-- Where the slot of a block starts, a natural number. -/
def slotStart (file : ChangeFile) (block : Nat) : Nat :=
  dataOffset file.blockSize file.totalBlocks + block * file.blockSize

/-- `slotStart` as an offset of 64 bits. -/
def slotOffset? (file : ChangeFile) (block : Nat) : Option Nat := checked64? (file.slotStart block)

/-- Bytes of a change file with all its slots, a natural number. -/
def wholeLength (blockSize totalBlocks : Nat) : Nat :=
  dataOffset blockSize totalBlocks + totalBlocks * blockSize

/-- `wholeLength` as a length of 64 bits. -/
def expectedLength? (blockSize totalBlocks : Nat) : Option Nat :=
  checked64? (wholeLength blockSize totalBlocks)

def storedBlocks (file : ChangeFile) : Nat := file.map.count 0 file.totalBlocks

/-- Exactly `n` bytes at `offset`, or those before the end of the file and the failure.  Reading no bytes succeeds at
any place. -/
def readFile (disk : Disk) (id : FileId) (offset n : Nat) : Packed × Except IoError Unit :=
  if n = 0 then (.empty, .ok ())
  else
    match disk.read id offset n with
    | .error error => (.empty, .error error)
    | .ok bytes => (bytes, if bytes.size = n then .ok () else .error .endOfFile)

/-- Changes the disk, or fails with `OverlayError.io`. -/
def onDisk (change : Disk → Except IoError Disk) : Action Disk OverlayError Unit := do
  set (← .ofExcept <| (change (← get)).mapError .io)

/-! ### Opening -/

def newMap (totalBlocks : Nat) : Except OverlayError Bitmap :=
  (Bitmap.new totalBlocks).mapError fun _ => .io .outOfMemory

/-- Opens the change file at `path`, made for the given geometry. -/
def init (path : String) (blockSize totalBlocks : Nat) :
    Action Disk OverlayError ChangeFile := do
  let disk ← get
  let file ← .ofExcept <| (disk.lookupFile path).mapError (.cannotOpen path)
  let some header := Header.decode? (readFile disk file 0 headerSize).1.toBytes
    | throw (.invalidHeader path)
  if header ≠ ⟨blockSize, totalBlocks⟩ then
    throw (.geometryMismatch header.blockSize header.totalBlocks blockSize totalBlocks)
  let map ← .ofExcept <| newMap totalBlocks
  let (stored, result) := readFile disk file headerSize map.bytes.size
  .ofExcept <| result.mapError .io
  return {
    path := path
    file := file
    blockSize := blockSize
    totalBlocks := totalBlocks
    map := map.load stored
    dirty := false
    cursor := 0 }

/-- Makes an empty change file at `path`.  What was there is lost even if memory for the map cannot be had, and header
and map are written before `wholeLength` is computed. -/
def createEmpty (path : String) (blockSize totalBlocks : Nat) :
    Action Disk OverlayError ChangeFile := do
  let (file, disk) ← .ofExcept <| ((← get).create path).mapError (.cannotOpen path)
  set disk
  let map ← .ofExcept <| newMap totalBlocks
  onDisk (·.write file 0 (.ofBytes (Header.encode ⟨blockSize, totalBlocks⟩)))
  onDisk (·.write file headerSize map.bytes)
  let some length := expectedLength? blockSize totalBlocks | throw .overflow
  onDisk (·.setLength file length)
  return {
    path := path
    file := file
    blockSize := blockSize
    totalBlocks := totalBlocks
    map := map
    dirty := false
    cursor := 0 }

/-- Opens the change file at `path`, or makes one if there is nothing or an empty file.  A file that holds something is
never overwritten: it may be an earlier change file. -/
def create (path : String) (blockSize totalBlocks : Nat) :
    Action Disk OverlayError ChangeFile := do
  match (← get).size path with
  | .ok (_ + 1) => init path blockSize totalBlocks
  | _ => createEmpty path blockSize totalBlocks

/-! ### Blocks -/

def verify : Action (ChangeFile × Disk) OverlayError Unit := do
  let (file, disk) ← get
  let length := disk.length file.file
  let some expected := expectedLength? file.blockSize file.totalBlocks | throw .overflow
  if length < expected then throw (.truncated length expected)

/-- Moves the cursor, to `totalBlocks` at most. -/
def seek (block : Nat) : Action (ChangeFile × Disk) OverlayError Unit := do
  let (file, disk) ← get
  if file.totalBlocks < block then throw (.outOfRange block)
  set ({ file with cursor := block }, disk)

/-- Why a buffer of `length` bytes cannot be exchanged with the slot at the cursor, if it cannot. -/
def refusal? (file : ChangeFile) (length : Nat) : Option OverlayError :=
  if length ≠ file.blockSize then some (.bufferSize length file.blockSize)
  else if file.totalBlocks ≤ file.cursor then some (.outOfRange file.cursor)
  else none

def advance (file : ChangeFile) : ChangeFile := { file with cursor := file.cursor + 1 }

/-- Reads the block at the cursor, if it is stored, and moves on. -/
def read (length : Nat) : StateM (ChangeFile × Disk) (Transfer OverlayError Lookup) := do
  let (file, disk) ← get
  if let some error := file.refusal? length then return .failed error
  if !file.map.isSet file.cursor then
    set (file.advance, disk)
    return ⟨[], .ok .notPresent⟩
  let some offset := file.slotOffset? file.cursor | return .failed .overflow
  let (slot, result) := readFile disk file.file offset length
  match result with
  | .error error => return ⟨slot.toBytes, .error (.io error)⟩
  | .ok () =>
    set (file.advance, disk)
    return ⟨slot.toBytes, .ok .found⟩

/-- Stores a block at the cursor and moves on.  The map on disk stays behind. -/
def write (block : Bytes) : Action (ChangeFile × Disk) OverlayError Unit := do
  let (file, disk) ← get
  if let some error := file.refusal? block.length then throw error
  let some offset := file.slotOffset? file.cursor | throw .overflow
  let disk ← .ofExcept <| (disk.write file.file offset (.ofBytes block)).mapError .io
  let file :=
    if file.map.isSet file.cursor then file
    else { file with map := file.map.set file.cursor, dirty := true }
  set (file.advance, disk)

def holds (file : ChangeFile) : Bool :=
  file.cursor < file.totalBlocks && file.map.isSet file.cursor

/-- Writes the map back. -/
def writeMap : Action (ChangeFile × Disk) OverlayError Unit := do
  let (file, disk) ← get
  let disk ← .ofExcept <| (disk.write file.file headerSize file.map.bytes).mapError .io
  set ({ file with dirty := false }, disk)

/-- `writeMap` if the map is `dirty`. -/
def sync : Action (ChangeFile × Disk) OverlayError Unit := do
  if (← get).1.dirty then writeMap

/-- `sync`, after which the file is let go of. -/
def finish (file : ChangeFile) : Action Disk OverlayError Unit :=
  .zoom (fun disk => (file, disk)) (fun state _ => state.2) id sync

/-- Lets go of the file, with the map written back if that can be done. -/
def drop (file : ChangeFile) : StateM Disk Unit := do
  discard file.finish.run

end ChangeFile

instance : Overlay ChangeFile where
  Setup := Unit
  init _ := ChangeFile.init
  create _ := ChangeFile.create
  verify := ChangeFile.verify
  seek := ChangeFile.seek
  read := ChangeFile.read
  write := ChangeFile.write
  holds := ChangeFile.holds
  sync := ChangeFile.sync
  finish := ChangeFile.finish
  discard := ChangeFile.drop

end PartitionImage
