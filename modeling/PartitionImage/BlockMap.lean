import PartitionImage.PrefixCount
import PartitionImage.RecordLayout
import PartitionImage.Source
import PartitionImage.World
/-!
# Loading the bitmap

The block map of an image says which blocks have a record and where it is.  It is made in one pass
over the stored bitmap, whose geometry is checked against the size of the image before anything is
sized from it.

* `BlockMap.fetch` reads bytes of the image that are needed whole.
* `BlockMap.readVersion` and `BlockMap.readDescriptor` read the descriptor and fix the layout.
* `BlockMap.load` reads the bitmap, checks the magic after it, and samples it.
* `BitmapStats` counts what the bitmap holds.
-/

namespace PartitionImage

structure BitmapStats where
  total : Nat
  used : Nat
  unused : Nat
  /-- Entries that are neither `0` nor `1`; their blocks are unused. -/
  anomalous : Nat
  /-- The first of the anomalous entries, at most `maxAnomalies`. -/
  anomalies : List Anomaly
  lastUsed : Option Nat
  deriving DecidableEq, Repr

/-- Which blocks have a record, and where it is, with the sizes of the buffers that reading them takes. -/
structure BlockMap where
  layout : RecordLayout
  bitmap : Bitmap
  index : PrefixCount
  stats : BitmapStats
  /-- Bytes of the filler that a block without data is copied from. -/
  fillerSize : Nat
  /-- Bytes of the buffer that a record is read into, with room for the trailer before it. -/
  scratchSize : Nat

namespace BlockMap

def maxAnomalies : Nat := 64

/-- The `n` bytes of the image at `offset`, which are needed whole. -/
def fetch (offset n : Nat) (wrap : IoError → Error) : Action (Source × World) Error Bytes :=
  fun (source, world) =>
    let (transfer, source) := source.readExact world.disk offset n
    (transfer.result.map (fun _ => transfer.bytes) |>.mapError wrap, source, world)

/-! ### The descriptor -/

/-- The version in the head of the image. -/
def readVersion : Action (Source × World) Error Version := do
  let head ← fetch 0 Descriptor.headSize .readDescriptor
  .ofExcept <| (Descriptor.identify head).mapError .parseDescriptor

/-- A legacy descriptor and its layout. -/
def readLegacy : Action (Source × World) Error (Descriptor × RecordLayout) := do
  let bytes ← fetch 0 Descriptor.legacySize .readDescriptor
  let descriptor ← .ofExcept <| (Descriptor.decodeLegacy bytes).mapError .parseDescriptor
  return (descriptor, .legacy descriptor)

/-- A current descriptor and its layout.  The checksum of the descriptor has to be right. -/
def readCurrent : Action (Source × World) Error (Descriptor × RecordLayout) := do
  let bytes ← fetch 0 (Descriptor.currentSize + Checksum.size) .readDescriptor
  let body := bytes.take Descriptor.currentSize
  let descriptor ← .ofExcept <| (Descriptor.decodeCurrent body).mapError .parseDescriptor
  let stored := UInt32.ofNat (bytes.field Descriptor.currentSize Checksum.size)
  let computed := Checksum.crc32 Checksum.seed body
  if stored ≠ computed then throw (.descriptorChecksum stored computed)
  let layout ← .ofExcept <|
    (RecordLayout.current? descriptor).mapError (.unsupported .current)
  return (descriptor, layout)

def readLayout (format : Format) : Action (Source × World) Error (Descriptor × RecordLayout) :=
  match format with
  | .legacy => readLegacy
  | .current => readCurrent

/-- `readLayout` of an image that is long enough for its bitmap and the magic after it. -/
def readDescriptor (format : Format) :
    Action (Source × World) Error (Descriptor × RecordLayout) := do
  let (descriptor, layout) ← readLayout format
  let (source, world) ← get
  let size ← .ofExcept <| (source.size world.disk).mapError .readBitmap
  if size < layout.bitmapEnd then throw (.readBitmap .endBeforeTrailer)
  return (descriptor, layout)

/-! ### The bitmap -/

/-- Bytes of a byte-per-block bitmap that are read at once. -/
def chunkSize : Nat := 16 * 1024

structure Loading where
  bitmap : Bitmap
  anomalous : Nat := 0
  anomalies : List Anomaly := []

namespace Loading

/-- What an entry says about its block: `1` is used, `0` is not, and anything else counts as unused and is remembered.
-/
def entry (loading : Loading) (block : Nat) (value : UInt8) : Loading :=
  if value = 1 then { loading with bitmap := loading.bitmap.set block }
  else if value = 0 then loading
  else
    { loading with
      anomalous := loading.anomalous + 1
      anomalies :=
        if loading.anomalies.length < maxAnomalies then loading.anomalies ++ [⟨block, value⟩]
        else loading.anomalies }

/-- What the entries of successive blocks say. -/
def entriesFrom (loading : Loading) (block : Nat) : Bytes → Loading
  | [] => loading
  | value :: values => (loading.entry block value).entriesFrom (block + 1) values

end Loading

/-- Reads the entries from `block` on, `chunkSize` at a time. -/
def loadEntries (offset total : Nat) (block : Nat) (loading : Loading) :
    (chunks : Nat) → Action (Source × World) Error Loading
  | 0 => return loading
  | chunks + 1 => do
    let n := min (total - block) chunkSize
    let values ← fetch (offset + block) n .readBitmap
    loadEntries offset total (block + n) (loading.entriesFrom block values) chunks

/-- Reads a bitmap of one byte for each block. -/
def loadBytes (offset : Nat) (bitmap : Bitmap) : Action (Source × World) Error Loading := do
  let total := bitmap.length
  let loading ← loadEntries offset total 0 { bitmap := bitmap }
    ((total + chunkSize - 1) / chunkSize)
  if 0 < loading.anomalous then
    .warn (.anomalousBitmap loading.anomalous loading.anomalies.head?)
  return loading

/-- Reads a bitmap of one bit for each block. -/
def loadBits (offset : Nat) (bitmap : Bitmap) : Action (Source × World) Error Loading := do
  let stored ← fetch offset bitmap.bytes.size .readBitmap
  return { bitmap := bitmap.load (.ofBytes stored) }

/-- `loadBytes` or `loadBits`, as the format has it. -/
def loadStored (format : Format) (offset : Nat) (empty : Bitmap) :
    Action (Source × World) Error Loading :=
  match format with
  | .legacy => loadBytes offset empty
  | .current => loadBits offset empty

/-- Reads the bitmap, checks the magic after it, and samples it with `factor`. -/
def load (format : Format) (layout : RecordLayout) (total factor : Nat) :
    Action (Source × World) Error BlockMap := do
  let empty ← .ofExcept <| (Bitmap.new total).mapError .allocateBitmap
  let loading ← loadStored format layout.bitmapOffset empty
  let magic ← fetch layout.magicOffset bitmapMagic.length .readBitmap
  if magic ≠ bitmapMagic then throw .bitmapMagic
  let bitmap := loading.bitmap
  let (index, used) := PrefixCount.build bitmap factor
  return {
    layout := layout
    bitmap := bitmap
    index := index
    stats := {
      total := total
      used := used
      unused := total - used
      anomalous := loading.anomalous
      anomalies := loading.anomalies
      lastUsed := bitmap.last? total }
    fillerSize := layout.blockSize
    scratchSize := layout.trailer + layout.recordSize }

end BlockMap

end PartitionImage
