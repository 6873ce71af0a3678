import PartitionImage.Disk
import PartitionImage.Transfer
/-!
# Sources

A source gives positional read access to the bytes of an image: a file, or bytes held in memory.
A call may give fewer bytes than it was asked for, may be interrupted, and may fail; the manner of a
source says what each of its calls does, and the source counts them.

* `Content` holds bytes in memory, with a tail that need not be written out.
* `Manner` says how calls go; `Manner.settles` rules out that they are interrupted for ever.
* `Source.readAt` is one call, `Source.readSettled` repeats it while it is interrupted, and
  `Source.readExact` goes on until all bytes are there.
-/

namespace PartitionImage

/-! ### Content -/

/-- `size` bytes: those of `data`, then those of `tail`. -/
structure Content where
  data : Packed
  size : Nat
  /-- The byte at a position past the end of `data`. -/
  tail : Nat → UInt8 := fun _ => 0

namespace Content

def ofPacked (data : Packed) : Content := { data := data, size := data.size }

def ofBytes (data : Bytes) : Content := ofPacked (.ofBytes data)

/-- The `n` bytes at `offset`, fewer where the content ends before. -/
def slice (content : Content) (offset n : Nat) : Bytes :=
  let n := min n (content.size - offset)
  let written := (content.data.slice offset n).toBytes
  written ++ (List.range' (offset + written.length) (n - written.length)).map content.tail

theorem slice_ofPacked (data : Packed) (offset n : Nat) :
    (ofPacked data).slice offset n = data.toBytes.slice offset n := by
  have hlen : (data.toBytes.slice offset (min n (data.size - offset))).length
      = min n (data.size - offset) := by
    rw [Bytes.length_slice, Packed.length_toBytes]
    omega
  simp only [slice, ofPacked, Packed.toBytes_slice, hlen, Nat.sub_self, List.range'_zero,
    List.map_nil, List.append_nil]
  simp only [Bytes.slice, List.take_eq_take_iff, List.length_drop, Packed.length_toBytes]
  omega

theorem slice_ofBytes (data : Bytes) (offset n : Nat) :
    (ofBytes data).slice offset n = data.slice offset n := by
  rw [ofBytes, slice_ofPacked, Packed.toBytes_ofBytes]

end Content

/-! ### Manners -/

/-- How the calls of a source go. -/
structure Manner where
  /-- What call number `call` does when asked for `want` bytes at `offset`: it fails, or gives at
  most so many bytes. -/
  respond : (call offset want : Nat) → Except IoError Nat
  /-- The most calls in a row that are interrupted, from the given one on. -/
  patience : (call offset want : Nat) → Nat
  /-- Interruptions end. -/
  settles : ∀ call offset want, ∃ after, after ≤ patience call offset want ∧
    respond (call + after) offset want ≠ .error .interrupted

namespace Manner

def prompt : Manner where
  respond := fun _ _ want => .ok want
  patience := fun _ _ _ => 0
  settles := fun _ _ _ => ⟨0, Nat.le_refl 0, fun h => by cases h⟩

/-- A call at `fault` fails, and one that starts before it stops there; no call gives more than
`chunk` bytes. -/
def limited (chunk fault : Option Nat) (offset want : Nat) : Except IoError Nat :=
  let most := match chunk with
    | some chunk => min want chunk
    | none => want
  match fault with
  | some position =>
    if offset = position then .error (.injected "read")
    else if offset < position then .ok (min most (position - offset))
    else .ok most
  | none => .ok most

theorem limited_ne_interrupted (chunk fault : Option Nat) (offset want : Nat) :
    limited chunk fault offset want ≠ .error .interrupted := by
  unfold limited
  cases fault with
  | none => simp
  | some position =>
    simp only
    split
    · simp
    · split <;> simp

/-- Short reads and a fault, as `limited` says, and an interruption of the first, third, fifth …
call if `interrupts`. -/
def faulty (chunk fault : Option Nat) (interrupts : Bool) : Manner where
  respond := fun call offset want =>
    if interrupts && call % 2 == 0 then .error .interrupted else limited chunk fault offset want
  patience := fun _ _ _ => 1
  settles := fun call offset want => by
    refine ⟨1 - call % 2, by omega, ?_⟩
    have hodd : (call + (1 - call % 2)) % 2 = 1 := by omega
    simp only [hodd, Nat.reduceBEq, Bool.and_false, Bool.false_eq_true, if_false]
    exact limited_ne_interrupted chunk fault offset want

end Manner

/-! ### Sources -/

inductive Backing
  | file (id : FileId)
  /-- Nowhere: a directory can be opened but not read. -/
  | directory
  | memory (content : Content)

namespace Backing

/-- The `n` bytes at `offset` behind a source, fewer where it ends before.  A directory has none to
give, and no file has any past the last place. -/
def slice (disk : Disk) (offset n : Nat) : Backing → Except IoError Bytes
  | file id => (disk.read id offset n).map Packed.toBytes
  | directory =>
    .error (if Disk.maxOffset < offset + n then .invalidArgument else .isADirectory)
  | memory content => .ok (content.slice offset n)

/-- The number of bytes that a source reports. -/
def size (disk : Disk) : Backing → Nat
  | file id => disk.length id
  | directory => Disk.directorySize
  | memory content => content.size

end Backing

/-- Positional read access to the bytes of an image. -/
structure Source where
  backing : Backing
  manner : Manner
  /-- Why the size cannot be told, if it cannot. -/
  sizeFault : Option IoError := none
  /-- Calls made so far; the next one has this number. -/
  calls : Nat := 0

namespace Source

/-- A source in memory that gives every byte at once. -/
def ofBytes (data : Bytes) : Source := { backing := .memory (.ofBytes data), manner := .prompt }

/-- The file or directory that a path names, opened for reading. -/
def openFile (disk : Disk) (path : String) : Except IoError Source := do
  match ← disk.lookup path with
  | .directory => return { backing := .directory, manner := .prompt }
  | .file id => return { backing := .file id, manner := .prompt }

def size (source : Source) (disk : Disk) : Except IoError Nat :=
  match source.sizeFault with
  | some error => .error error
  | none => .ok (source.backing.size disk)

/-- What a call gives, if the manner of the source lets it give `most` bytes.  At the end and past
it, a call gives nothing and no fault strikes. -/
def deliver (backing : Backing) (disk : Disk) (offset want : Nat)
    (response : Except IoError Nat) : Except IoError Bytes :=
  match response with
  | .error .interrupted => .error .interrupted
  | .error error => if offset < backing.size disk then .error error else .ok []
  | .ok most => backing.slice disk offset (min want most)

/-- One call: at most `want` bytes at `offset`, none at the end and past it. -/
def readAt (source : Source) (disk : Disk) (offset want : Nat) : Except IoError Bytes × Source :=
  (deliver source.backing disk offset want (source.manner.respond source.calls offset want),
    { source with calls := source.calls + 1 })

/-- A call that is repeated while it is interrupted, at most `patience` times. -/
def readSettled (source : Source) (disk : Disk) (offset want : Nat) :
    (patience : Nat) → Except IoError Bytes × Source
  | 0 => source.readAt disk offset want
  | patience + 1 =>
    match source.readAt disk offset want with
    | (.error .interrupted, source) => source.readSettled disk offset want patience
    | result => result

def patience (source : Source) (offset want : Nat) : Nat :=
  source.manner.patience source.calls offset want

/-- The bytes that calls give one after the other until `want` of them are there, and why they
stopped if they stopped before.  Each round that goes on gives a byte at least, so `rounds` need
not exceed the number of bytes wanted. -/
def collect (source : Source) (disk : Disk) (offset want : Nat) :
    (rounds : Nat) → Transfer IoError Unit × Source
  | 0 => (⟨[], if want = 0 then .ok () else .error .endOfImage⟩, source)
  | rounds + 1 =>
    if want = 0 then (⟨[], .ok ()⟩, source)
    else
      match source.readSettled disk offset want (source.patience offset want) with
      | (.error error, source) => (⟨[], .error error⟩, source)
      | (.ok [], source) => (⟨[], .error .endOfImage⟩, source)
      | (.ok bytes, source) =>
        let (rest, source) :=
          source.collect disk (offset + bytes.length) (want - bytes.length) rounds
        (⟨bytes ++ rest.bytes, rest.result⟩, source)

/-- The `want` bytes at `offset`, or those that could be had and why no more. -/
def readExact (source : Source) (disk : Disk) (offset want : Nat) :
    Transfer IoError Unit × Source :=
  source.collect disk offset want want

end Source

end PartitionImage
