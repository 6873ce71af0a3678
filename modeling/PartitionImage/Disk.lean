import PartitionImage.IoError
import PartitionImage.SparseBytes
/-!
# Files on disk

A directory tree with the contents of its files.  Names and contents are kept apart: a name leads
to a `FileId`, and a handle that was opened holds the identifier, so that it goes on reading and
writing the same file when the name is removed or the file is truncated by someone else.

* `Disk.approach` follows a path to its last part, `Disk.resolve` to its end.
* `Disk.lookup` finds what a path names, `Disk.create` makes or empties a file, `Disk.tree` lists
  what there is.
* `Disk.content` is what a file holds; `Disk.length` and `Disk.read` look at it, `Disk.setContent`,
  `Disk.write` and `Disk.setLength` change it.
-/

namespace PartitionImage

/-- The identity of a file, whatever it is called. -/
abbrev FileId := Nat

inductive Node
  | directory
  | file (id : FileId)
  deriving DecidableEq, Repr

/-- A directory tree with the contents of its files. -/
structure Disk where
  /-- Everything that has a name, by the steps of its path. -/
  entries : List (List String × Node) := []
  /-- The bytes of every file that was ever made, by identifier. -/
  contents : Array SparseBytes := #[]
  /-- The most bytes that a file can have, which the file system decides.  With ext4 it is 16 TiB
  less a block. -/
  sizeLimit : Nat := 0xFFFFFFFF000
  deriving DecidableEq

namespace Disk

/-! ### Paths -/

def maxPath : Nat := 4095

def maxName : Nat := 255

/-- The parts of a path between slashes, without empty ones. -/
def parts (path : String) : List String := (path.splitOn "/").filter (· != "")

/-- Where the way along a path begins: at the top, or in the working directory. -/
def start (path : String) : List String := if path.startsWith "/" then ["/"] else []

/-- A path that ends with `/` has to name a directory. -/
def endsWithSlash (path : String) : Bool := path.endsWith "/"

/-- `.` and `..` lead to a directory that needs no name: the one that was reached, or the one above it. -/
def isDots (part : String) : Bool := part == "." || part == ".."

/-- Where one more step leads.  The step up from the working directory and from what is above it
is remembered; the top is above itself. -/
def step (place : List String) (part : String) : List String :=
  if part == "." then place
  else if part != ".." then place ++ [part]
  else if place == ["/"] then place
  else if place.all (· == "..") then place ++ [".."]
  else place.dropLast

/-- Where one more step leads, if the name is not too long. -/
def enter (place : List String) (part : String) : Except IoError (List String) :=
  if maxName < part.utf8ByteSize then .error .nameTooLong else .ok (step place part)

/-- Fails for what no path can be.  A zero byte is found first, and the empty path leads
nowhere. -/
def checkPath (path : String) : Except IoError Unit :=
  if path.toList.contains '\x00' then .error .zeroInPath
  else if path.isEmpty then .error .notFound
  else if maxPath < path.utf8ByteSize then .error .nameTooLong
  else .ok ()

/-- Whether the given steps lead to a directory that is always there: the working directory, what
is above it, or the top. -/
def isFixed (place : List String) : Bool := place == ["/"] || place.all (· == "..")

def node? (disk : Disk) (place : List String) : Option Node :=
  if isFixed place then some .directory else disk.entries.lookup place

/-- Where the parts of a path but the last lead, and the last.  Each of them has to lead to a
directory. -/
def walk (disk : Disk) (reached : List String) :
    List String → Except IoError (List String × String)
  | [] => .ok (reached, ".")
  | [last] => .ok (reached, last)
  | part :: rest => do
    let place ← enter reached part
    match disk.node? place with
    | none => throw .notFound
    | some (.file _) => throw .notADirectory
    | some .directory => disk.walk place rest

/-- The directory that holds what a path names, and the last part of the path. -/
def approach (disk : Disk) (path : String) : Except IoError (List String × String) := do
  checkPath path
  disk.walk (start path) (parts path)

def resolve (disk : Disk) (path : String) : Except IoError (List String) := do
  let (place, last) ← disk.approach path
  enter place last

def lookup (disk : Disk) (path : String) : Except IoError Node := do
  let place ← disk.resolve path
  match disk.node? place with
  | none => throw .notFound
  | some .directory => return .directory
  | some (.file id) => if endsWithSlash path then throw .notADirectory else return .file id

def lookupFile (disk : Disk) (path : String) : Except IoError FileId := do
  match ← disk.lookup path with
  | .directory => throw .isADirectory
  | .file id => return id

/-! ### Contents -/

/-- The last place in a file of any file system: nothing is read or written past `2^63 - 1`. -/
def maxOffset : Nat := 0x7FFFFFFFFFFFFFFF

/-- The bytes of a file, with its holes. -/
def data (disk : Disk) (id : FileId) : SparseBytes := disk.contents.getD id .empty

def content (disk : Disk) (id : FileId) : Bytes := (disk.data id).toBytes

def length (disk : Disk) (id : FileId) : Nat := (disk.data id).size

/-- The `n` bytes at `offset` of a file, or those before its end. -/
def read (disk : Disk) (id : FileId) (offset n : Nat) : Except IoError Packed :=
  if maxOffset < offset + n then .error .invalidArgument
  else .ok ((disk.data id).read offset n)

/-- The disk with the bytes of a file changed. -/
def modify (disk : Disk) (id : FileId) (change : SparseBytes → SparseBytes) : Disk :=
  { disk with contents := disk.contents.modify id change }

/-- The disk with other bytes in a file. -/
def setContent (disk : Disk) (id : FileId) (bytes : SparseBytes) : Disk :=
  disk.modify id fun _ => bytes

/-- Why `n` bytes cannot be written at `offset` of a file, if they cannot.  Writing no bytes succeeds
at any place. -/
def writeRefusal? (disk : Disk) (offset n : Nat) : Option IoError :=
  if n = 0 then none
  else if maxOffset < offset + n then some .invalidArgument
  else if disk.sizeLimit < offset + n then some .fileTooLarge
  else none

/-- The disk with `bytes` written at `offset` of a file. -/
def write (disk : Disk) (id : FileId) (offset : Nat) (bytes : Packed) : Except IoError Disk :=
  match disk.writeRefusal? offset bytes.size with
  | some error => .error error
  | none => .ok (disk.modify id fun data => data.overwrite offset bytes)

def lengthRefusal? (disk : Disk) (length : Nat) : Option IoError :=
  if maxOffset < length then some .lengthTooLarge
  else if disk.sizeLimit < length then some .fileTooLarge
  else none

/-- The disk with a file cut or extended with a hole to `length` bytes. -/
def setLength (disk : Disk) (id : FileId) (length : Nat) : Except IoError Disk :=
  match disk.lengthRefusal? length with
  | some error => .error error
  | none => .ok (disk.modify id fun data => data.resize length)

/-- Whether a file was ever made. -/
def IsFile (disk : Disk) (id : FileId) : Prop := id < disk.contents.size

/-- The length of a file is the number of its bytes. -/
@[simp] theorem length_eq (disk : Disk) (id : FileId) :
    disk.length id = (disk.content id).length :=
  (SparseBytes.length_toBytes _).symm

theorem read_eq (disk : Disk) (id : FileId) {offset n : Nat} {bytes : Packed}
    (h : disk.read id offset n = .ok bytes) :
    bytes.toBytes = (disk.content id).slice offset n := by
  unfold read at h
  split at h
  · cases h
  · cases h
    exact SparseBytes.toBytes_read ..

theorem data_modify (disk : Disk) {id : FileId} (h : disk.IsFile id)
    (change : SparseBytes → SparseBytes) :
    (disk.modify id change).data id = change (disk.data id) := by
  have hid : id < disk.contents.size := h
  simp [modify, data, Array.getD_eq_getD_getElem?, Array.getElem_modify, hid]

/-- A change to a file leaves every other file as it is. -/
theorem data_modify_of_ne (disk : Disk) {id other : FileId} (h : other ≠ id)
    (change : SparseBytes → SparseBytes) :
    (disk.modify id change).data other = disk.data other := by
  simp [modify, data, Array.getD_eq_getD_getElem?, Array.getElem?_modify, Ne.symm h]

/-- Bytes can be written if they end at `maxOffset` and at `sizeLimit` at the latest, or if there are none. -/
theorem writeRefusal?_eq_none_iff (disk : Disk) (offset n : Nat) :
    disk.writeRefusal? offset n = none
      ↔ n = 0 ∨ offset + n ≤ maxOffset ∧ offset + n ≤ disk.sizeLimit := by
  unfold writeRefusal?
  split
  · next h => exact ⟨fun _ => .inl h, fun _ => rfl⟩
  · split
    · exact ⟨fun h => (nomatch h), fun h => by omega⟩
    · split
      · exact ⟨fun h => (nomatch h), fun h => by omega⟩
      · exact ⟨fun _ => .inr (by omega), fun _ => rfl⟩

theorem lengthRefusal?_eq_none_iff (disk : Disk) (length : Nat) :
    disk.lengthRefusal? length = none ↔ length ≤ maxOffset ∧ length ≤ disk.sizeLimit := by
  unfold lengthRefusal?
  split
  · exact ⟨fun h => (nomatch h), fun h => by omega⟩
  · split
    · exact ⟨fun h => (nomatch h), fun h => by omega⟩
    · exact ⟨fun _ => by omega, fun _ => rfl⟩

/-- Writing succeeds where nothing is in the way, and changes the file. -/
theorem write_eq_ok_iff (disk : Disk) (id : FileId) (offset : Nat) (bytes : Packed)
    (after : Disk) :
    disk.write id offset bytes = .ok after
      ↔ disk.writeRefusal? offset bytes.size = none
        ∧ after = disk.modify id fun data => data.overwrite offset bytes := by
  unfold write
  split
  · next h =>
    rw [h]
    exact ⟨fun hok => (nomatch hok), fun hno => (nomatch hno.1)⟩
  · next h =>
    rw [h]
    exact ⟨fun hok => ⟨rfl, (Except.ok.inj hok).symm⟩, fun hafter => hafter.2 ▸ rfl⟩

theorem setLength_eq_ok_iff (disk : Disk) (id : FileId) (length : Nat) (after : Disk) :
    disk.setLength id length = .ok after
      ↔ disk.lengthRefusal? length = none
        ∧ after = disk.modify id fun data => data.resize length := by
  unfold setLength
  split
  · next h =>
    rw [h]
    exact ⟨fun hok => (nomatch hok), fun hno => (nomatch hno.1)⟩
  · next h =>
    rw [h]
    exact ⟨fun hok => ⟨rfl, (Except.ok.inj hok).symm⟩, fun hafter => hafter.2 ▸ rfl⟩

/-- Writing to a file overwrites its bytes. -/
theorem content_write (disk : Disk) {id : FileId} (h : disk.IsFile id) {offset : Nat}
    {bytes : Packed} {after : Disk} (hwrite : disk.write id offset bytes = .ok after) :
    after.content id = (disk.content id).overwrite offset bytes.toBytes := by
  rw [((disk.write_eq_ok_iff id offset bytes after).mp hwrite).2, content, data_modify disk h,
    SparseBytes.toBytes_overwrite, content]

theorem content_setLength (disk : Disk) {id : FileId} (h : disk.IsFile id) {length : Nat}
    {after : Disk} (hset : disk.setLength id length = .ok after) :
    after.content id = (disk.content id).resize length := by
  rw [((disk.setLength_eq_ok_iff id length after).mp hset).2, content, data_modify disk h,
    SparseBytes.toBytes_resize, content]

theorem content_setContent (disk : Disk) {id : FileId} (h : disk.IsFile id)
    (bytes : SparseBytes) : (disk.setContent id bytes).content id = bytes.toBytes := by
  rw [setContent, content, data_modify disk h]

def directorySize : Nat := 4096

def size (disk : Disk) (path : String) : Except IoError Nat := do
  match ← disk.lookup path with
  | .directory => return directorySize
  | .file id => return disk.length id

/-! ### Names -/

/-- An empty file under the given path, made or emptied, and the disk that has it.  A path that
ends as the path of a directory makes no file. -/
def create (disk : Disk) (path : String) : Except IoError (FileId × Disk) := do
  let (place, last) ← disk.approach path
  if isDots last || endsWithSlash path then throw .isADirectory
  let place ← enter place last
  match disk.node? place with
  | some .directory => throw .isADirectory
  | some (.file id) => return (id, disk.setContent id .empty)
  | none =>
    return (disk.contents.size,
      { disk with
        entries := disk.entries ++ [(place, .file disk.contents.size)]
        contents := disk.contents.push .empty })

/-- The disk with a file of the given bytes under the path. -/
def put (disk : Disk) (path : String) (bytes : Packed) : Except IoError Disk := do
  let (id, disk) ← disk.create path
  return disk.setContent id (.ofPacked bytes)

/-- The disk without the name of a file; its bytes stay for those who hold it open. -/
def remove (disk : Disk) (path : String) : Except IoError Disk := do
  let place ← disk.resolve path
  discard (disk.lookupFile path)
  return { disk with entries := disk.entries.filter fun entry => entry.1 != place }

/-- The disk with directories for the given parts, one in the other. -/
def makeDirectories (disk : Disk) (place : List String) : List String → Except IoError Disk
  | [] => .ok disk
  | part :: rest => do
    let place ← enter place part
    match disk.node? place with
    | some .directory => disk.makeDirectories place rest
    | some (.file _) => throw .notADirectory
    | none =>
      let entries := disk.entries ++ [(place, Node.directory)]
      makeDirectories { disk with entries := entries } place rest

/-- The disk with a directory under the path, and every directory on the way to it. -/
def makeDirectory (disk : Disk) (path : String) : Except IoError Disk := do
  checkPath path
  disk.makeDirectories (start path) (parts path)

/-- Everything below the working directory, by its path from there. -/
def tree (disk : Disk) : List (String × Node) :=
  disk.entries.filterMap fun (place, node) =>
    if place.head? == some "/" || place.head? == some ".." then none
    else some ("/".intercalate place, node)

end Disk

end PartitionImage
