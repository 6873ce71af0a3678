import PartitionImage.CommandLine.Arguments
import PartitionImage.CommandLine.ErrorTrace
import PartitionImage.Export
import PartitionImage.Inspection
import PartitionImage.Patch
/-!
# Running commands

* `Console` is what a command works on: the world, and the two outputs.
* `CommandError` lists how a command can fail.
* `Command.run` runs a command; `CommandLine.run` a whole command line, to its `Exit`.
-/

namespace PartitionImage

/-! ### Output -/

/-- A part of the output. -/
inductive Piece
  | text (written : String)
  /-- The time that the command has taken, in seconds. -/
  | elapsed
  deriving DecidableEq, Repr

/-- The output as text, where the command has taken `elapsed` seconds. -/
def Piece.render (elapsed : String) (pieces : List Piece) : String :=
  String.join <| pieces.map fun
    | .text written => written
    | .elapsed => elapsed

/-- What a command works on. -/
structure Console where
  world : World
  stdout : List Piece := []
  stderr : String := ""
  deriving DecidableEq

inductive CommandError
  | inspect (cause : InspectError)
  | problems (count total : Nat)
  | probe (path : String) (cause : Error)
  | openImage (path : String) (cause : Error)
  | export (cause : ExportError)
  | readPatch (path : String) (cause : IoError)
  | patch (cause : PatchError)
  | close (cause : Error)
  deriving DecidableEq, Repr

namespace CommandError

def message : CommandError → String
  | inspect _ => "cannot inspect image"
  | problems count total => toString count ++ " of " ++ toString total ++ " images have problems"
  | probe path _ => "cannot probe '" ++ path ++ "'"
  | openImage path _ => "cannot open image '" ++ path ++ "'"
  | «export» _ => "failed to export image"
  | readPatch path _ => "cannot read '" ++ path ++ "'"
  | patch _ => "failed to patch image"
  | close _ => "failed to close image"

def causes : CommandError → List String
  | inspect cause => cause.message :: cause.causes
  | problems .. => []
  | probe _ cause | openImage _ cause | close cause => cause.message :: cause.causes
  | «export» cause => cause.message :: cause.causes
  | readPatch _ cause => [cause.message]
  | patch cause => cause.message :: cause.causes

/-- Whether a failure is a panic, which ends the program without a report. -/
def panics : CommandError → Bool
  | inspect cause => cause.panics
  | «export» cause => cause.panics
  | patch cause => cause.panics
  | probe _ cause | openImage _ cause | close cause => cause.panics
  | problems .. | readPatch .. => false

end CommandError

namespace Command

/-- Runs an action on the world. -/
def onWorld {ε α : Type} (wrap : ε → CommandError) (act : Action World ε α) :
    Action Console CommandError α :=
  .zoom Console.world (fun world console => { console with world := world }) wrap act

/-- Writes pieces to the output. -/
def print (pieces : List Piece) : Action Console CommandError Unit :=
  modify fun console => { console with stdout := console.stdout ++ pieces }

def printLine (line : String) : Action Console CommandError Unit := print [.text (line ++ "\n")]

def complain (line : String) : Action Console CommandError Unit :=
  modify fun console => { console with stderr := console.stderr ++ line ++ "\n" }

/-! ### Inspection -/

def reportLines (report : Report) : List String :=
  let descriptor := report.descriptor
  let stats := report.stats
  ["Image: " ++ report.path, "", "Version:        " ++ descriptor.version.text]
    ++ (if descriptor.creator.isEmpty then [] else ["Creator:        " ++ descriptor.creator])
    ++ ["Filesystem:     " ++ descriptor.fsType,
      "Block Size:     " ++ toString descriptor.blockSize ++ " bytes",
      "Device Size:    " ++ toString descriptor.deviceSize ++ " bytes",
      "Total Blocks:   " ++ toString descriptor.totalBlocks,
      "Checksum:       " ++ descriptor.checksumMode.text,
      "Bitmap Mode:    " ++ descriptor.bitmapMode.text,
      "Bitmap:         " ++ toString stats.used ++ " used, " ++ toString stats.unused
        ++ " unused, " ++ toString stats.anomalous ++ " anomalous"]
    ++ stats.anomalies.map (fun anomaly =>
      "  block " ++ Text.padLeft 12 (toString anomaly.block) ++ "  value 0x"
        ++ Text.hexUpper 2 anomaly.value.toNat)
    ++ (match stats.lastUsed with
      | some block => ["Last Used:      " ++ toString block]
      | none => [])
    ++ ["Data Start:     0x" ++ Text.hexUpper 1 report.dataOffset,
      "Record Size:    " ++ toString report.recordSize ++ " bytes",
      "File Size:      " ++ toString report.fileSize ++ " bytes",
      "Records:        " ++ toString report.records ++ " (" ++ toString report.remainder
        ++ " bytes partial)"]
    ++ (if report.isOk then ["OK"]
      else report.problems.map (fun problem => "  " ++ problem.message)
        ++ ["!!! " ++ report.path ++ ": " ++ toString report.problems.length ++ " problems"])

/-- Inspects every image.  An image that cannot be inspected does not keep the others from it. -/
def inspectAll : List String → StateM World (List (Except InspectError Report))
  | [] => return []
  | path :: paths => do
    let result ← (inspect path).run
    return result :: (← inspectAll paths)

/-- The panic in a result, which keeps the other results from being printed. -/
def panic? : Except InspectError Report → Option InspectError
  | .ok _ => none
  | .error error => if error.panics then some error else none

/-- Prints the results of an inspection, the first of them or not, and counts those that are not
well.  The failure of an only image is the failure of the command. -/
def printResults (only : Bool) :
    (isFirst : Bool) → List (Except InspectError Report) → Action Console CommandError Nat
  | _, [] => return 0
  | isFirst, result :: results => do
    if !isFirst then printLine ""
    let failed ← match result with
      | .ok report => do
        (reportLines report).forM printLine
        pure (if report.isOk then 0 else 1)
      | .error error => do
        if only then throw (.inspect error)
        complain ("!!! " ++ error.message)
        pure 1
    return failed + (← printResults only false results)

def runInfo (images : List String) : Action Console CommandError Unit := do
  let results ← onWorld .inspect <| ExceptT.lift (inspectAll images)
  if let some error := results.findSome? panic? then throw (.inspect error)
  let total := results.length
  let failed ← printResults (total == 1) true results
  if failed ≠ 0 then throw (.problems failed total)

/-! ### The other commands -/

def runProbe (image : String) : Action Console CommandError Unit := do
  let type ← onWorld (.probe image) (probeAny image)
  printLine (image ++ ": " ++ type.text)

/-- What is printed when an export is told of progress. -/
def progressLines (events : List Export.Event) : List String :=
  let total := events.foldl (fun total event =>
    match event with
    | .advance blocks => total + blocks
    | _ => total) 0
  events.filterMap fun
    | .completed written =>
      some ("Export complete (" ++ toString total ++ " blocks, " ++ toString written
        ++ " with data).")
    | _ => none

/-- Runs an action on an open device; if it fails, the device is let go of. -/
def onDevice {ε α : Type} (wrap : ε → CommandError)
    (act : Action (AnyImage ChangeFile × World) ε α) (device : AnyImage ChangeFile) :
    Action Console CommandError (α × AnyImage ChangeFile) := do
  let (result, device, world) := act.perform (device, (← get).world)
  match result with
  | .ok value =>
    modify fun console => { console with world := world }
    return (value, device)
  | .error error =>
    modify fun console => { console with world := ((BlockDevice.drop device).run world).2 }
    throw (wrap error)

/-- Exports a device and keeps what the caller was told. -/
def exportTold (output : String) :
    Action (AnyImage ChangeFile × World) ExportError (Export.Summary × List Export.Event) :=
  fun (device, world) =>
    let (result, state) := (exportDevice output).perform
      ({ device := device, world := world, events := [] } : Export.State (AnyImage ChangeFile))
    (result.map fun summary => (summary, state.events), state.device, state.world)

/-- Writes the device of an image to a file.  An overlay that exists is applied; one that does not
is no failure. -/
def runExport (image output : String) (overlay : Option String) (quiet : Bool) :
    Action Console CommandError Unit := do
  let options : OpenOptions := match overlay with
    | some path => { mode := .readWrite, overlay := some path }
    | none => {}
  let device ← onWorld (.openImage image) (openAny image options)
  if !quiet then printLine ("Exporting " ++ image ++ " to " ++ output ++ "...")
  let ((summary, events), device) ← onDevice .export (exportTold output) device
  if !quiet then (progressLines events).forM printLine
  onWorld .close (BlockDevice.close device)
  if !quiet then
    print [.text "Done in ", .elapsed, .text ("s (" ++ toString summary.written ++ " of "
      ++ toString summary.blocks ++ " blocks hold data).\n")]

/-- Writes blocks from a file into the overlay of an image. -/
def runPatch (image : String) (block : Nat) (source : String) (overlay : Option String) :
    Action Console CommandError Unit := do
  let disk := (← get).world.disk
  let file ← .ofExcept <| (disk.lookupFile source).mapError (.readPatch source)
  let data ← .ofExcept <| (disk.read file 0 (disk.length file)).mapError (.readPatch source)
  let device ← onWorld (.openImage image)
    (openAny image { mode := .readWrite, overlay := overlay })
  let (count, device) ← onDevice .patch (PartitionImage.patch block data.toBytes) device
  onWorld .close (BlockDevice.close device)
  printLine ("Patched " ++ toString count ++ " blocks starting at #" ++ toString block ++ ".")

/-- Runs a command. -/
def run : Command → Action Console CommandError Unit
  | info images => runInfo images
  | probe image => runProbe image
  | «export» image output overlay quiet => runExport image output overlay quiet
  | patch image block source overlay => runPatch image block source overlay

end Command

namespace Command

def outputs : Command → List String
  | info _ | probe _ => []
  | «export» _ output overlay _ => output :: overlay.toList
  | patch image _ _ overlay => [overlay.getD (defaultOverlayPath image)]

/-- The files that a command may look at or change. -/
def paths (command : Command) : List String :=
  command.outputs ++ match command with
    | info images => images
    | probe image | «export» image _ _ _ => [image]
    | patch image _ source _ => [image, source]

end Command

/-! ### Command lines -/

/-- How a command line ended. -/
inductive Exit
  | usage
  /-- A command was run and printed something. -/
  | ran (code : Nat) (stdout : List Piece) (stderr : String)
  /-- A command panicked after it had printed something. -/
  | panicked (stdout : List Piece) (stderr : String)
  deriving DecidableEq, Repr

def Exit.code : Exit → Nat
  | usage => 2
  | ran code _ _ => code
  | panicked .. => 101

namespace CommandLine

/-- How a command ended that has printed what is in `console`. -/
def exit (console : Console) : Except CommandError Unit → Exit
  | .ok () => .ran 0 console.stdout console.stderr
  | .error error =>
    if error.panics then .panicked console.stdout console.stderr
    else
      let trace := ErrorTrace.render (error.message :: error.causes)
      .ran 1 console.stdout (console.stderr ++ "Error: " ++ trace ++ "\n")

/-- Runs a command line. -/
def run (arguments : List String) : StateM World Exit := fun world =>
  match Command.parse? arguments with
  | none => (.usage, world)
  | some command =>
    let (result, console) := command.run.perform { world := world }
    (exit console result, console.world)

end CommandLine

end PartitionImage
