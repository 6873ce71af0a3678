import PartitionImage.Recognition
/-!
# Inspecting images

An image that can be verified may still disagree with itself.  An inspection compares the number of
used blocks with the bitmap and the size of the file with the records, and reads the first and the
last record.

* `Problem` lists what can be found, `Report` holds everything that was.
* `InspectError` lists what prevents an inspection.
* `inspect` inspects an image.
-/

namespace PartitionImage

inductive InspectError
  | openFailed (path : String) (cause : Error)
  | verifyFailed (path : String) (cause : Error)
  | sizeFailed (path : String) (cause : IoError)
  | noDescriptor (path : String)
  /-- `dataOffset + used * recordSize` is not below `2^64`. -/
  | overflow
  deriving DecidableEq, Repr

namespace InspectError

def name : InspectError → String
  | openFailed .. => "OpenFailed"
  | verifyFailed .. => "VerifyFailed"
  | sizeFailed .. => "MetadataFailed"
  | noDescriptor _ => "NoDescriptor"
  | overflow => "Overflow"

/-- The text includes that of the nearest cause. -/
def message : InspectError → String
  | openFailed path cause => "cannot open " ++ path ++ ": " ++ cause.message
  | verifyFailed path cause => "cannot verify " ++ path ++ ": " ++ cause.message
  | sizeFailed path cause => "cannot get size of " ++ path ++ ": " ++ cause.message
  | noDescriptor path => path ++ " has no descriptor after verify"
  | overflow => "end of records past 64 bits"

def causes : InspectError → List String
  | openFailed _ cause | verifyFailed _ cause => cause.message :: cause.causes
  | sizeFailed _ cause => [cause.message]
  | noDescriptor _ | overflow => []

def panics : InspectError → Bool
  | openFailed _ cause | verifyFailed _ cause => cause.panics
  | overflow => true
  | _ => false

end InspectError

/-- An inconsistency of a readable image. -/
inductive Problem
  /-- The descriptor and the bitmap disagree on the number of used blocks. -/
  | staleUsedCount (recorded scanned : Nat)
  | anomalousBitmap (count : Nat)
  /-- The file ends before the last record does. -/
  | truncated (missing : Nat)
  /-- Bytes follow the last record. -/
  | trailingData (bytes : Nat)
  | readFailed (block : Nat) (cause : Error)
  deriving DecidableEq, Repr

namespace Problem

def name : Problem → String
  | staleUsedCount .. => "StaleUsedCount"
  | anomalousBitmap _ => "AnomalousBitmap"
  | truncated _ => "Truncated"
  | trailingData _ => "TrailingData"
  | readFailed .. => "ReadFailed"

def message : Problem → String
  | staleUsedCount recorded scanned =>
    "header records " ++ toString recorded ++ " used blocks, bitmap has " ++ toString scanned
  | anomalousBitmap count => toString count ++ " bitmap entries are neither 0 nor 1"
  | truncated missing => "file is " ++ toString missing ++ " bytes short of the last record"
  | trailingData bytes => toString bytes ++ " bytes follow the last record"
  | readFailed block cause => "cannot read block #" ++ toString block ++ ": " ++ cause.message

end Problem

structure Report where
  path : String
  /-- The descriptor after it was put right. -/
  descriptor : Descriptor
  stats : BitmapStats
  fileSize : Nat
  dataOffset : Nat
  recordSize : Nat
  /-- Whole records that fit between the start of the records and the end of the file. -/
  records : Nat
  /-- Bytes after the last of them. -/
  remainder : Nat
  problems : List Problem
  deriving DecidableEq, Repr

def Report.isOk (report : Report) : Bool := report.problems.isEmpty

namespace Inspection

/-- Where the last of `used` records ends: `dataOffset + used * recordSize`, if that is below `2^64`. -/
def recordsEnd? (dataOffset recordSize used : Nat) : Option Nat :=
  checked64? (dataOffset + used * recordSize)

def sizeProblems (stop fileSize : Nat) : List Problem :=
  if fileSize < stop then [.truncated (stop - fileSize)]
  else if stop < fileSize then [.trailingData (fileSize - stop)]
  else []

/-- Opens an image strictly; if only its number of used blocks is wrong, opens it again and notes
that. -/
def openImage (path : String) :
    Action World InspectError (Image ChangeFile × List Problem) := do
  let strict ← .zoom id (fun world _ => world) (.openFailed path)
    (Image.open path { strict := true } ())
  match ← Action.attempt (verified (strict : Image ChangeFile)) with
  | .ok image => return (image, [])
  | .error (.usedBlockCount recorded scanned) =>
    let lenient ← .zoom id (fun world _ => world) (.openFailed path) (Image.open path {} ())
    let image ← .zoom id (fun world _ => world) (.verifyFailed path)
      (verified (lenient : Image ChangeFile))
    return (image, [.staleUsedCount recorded scanned])
  | .error error => throw (.verifyFailed path error)

/-- Reads one block and gives the problem that this shows, if it does. -/
def probeBlock (block : Nat) : StateM (Image ChangeFile × World) (List Problem) := do
  let blockSize := (← get).1.blockSize?.getD 0
  match ← (Image.seek block).run with
  | .error error => return [.readFailed block error]
  | .ok () =>
    match (← Image.read blockSize).result with
    | .error error => return [.readFailed block error]
    | .ok () => return []

/-- Reads block 0 and the last used block. -/
def probeBlocks (lastUsed : Option Nat) :
    StateM (Image ChangeFile × World) (List Problem) := do
  let first ← probeBlock 0
  match lastUsed with
  | some (block + 1) => return first ++ (← probeBlock (block + 1))
  | _ => return first

end Inspection

/-- Verifies the image at a path and checks its records against its bitmap. -/
def inspect (path : String) : Action World InspectError Report := do
  let (image, stale) ← Inspection.openImage path
  let some descriptor := image.descriptor? | throw (.noDescriptor path)
  let some stats := image.stats? | throw (.noDescriptor path)
  let some dataOffset := image.dataOffset? | throw (.noDescriptor path)
  let some recordSize := image.recordSize? | throw (.noDescriptor path)
  let world ← get
  let fileSize ← .ofExcept <| (world.disk.size path).mapError (.sizeFailed path)
  let anomalous := if 0 < stats.anomalous then [.anomalousBitmap stats.anomalous] else []
  let some stop := Inspection.recordsEnd? dataOffset recordSize stats.used | throw .overflow
  let area := fileSize - dataOffset
  let (unread, image, world) := Inspection.probeBlocks stats.lastUsed (image, world)
  set world
  ExceptT.lift image.drop
  return {
    path := path
    descriptor := descriptor
    stats := stats
    fileSize := fileSize
    dataOffset := dataOffset
    recordSize := recordSize
    records := area / recordSize
    remainder := if recordSize = 0 then area else area % recordSize
    problems := stale ++ anomalous ++ Inspection.sizeProblems stop fileSize ++ unread }

end PartitionImage
