import PartitionImage.CommandLine.Run
/-!
# The program

Loads what a command line names from the file system, runs it, and writes back what has changed.
What a command does is said by `CommandLine.run`.
-/

namespace PartitionImage.Program

/-- The directories on the way to a path, the outermost first. -/
def parents (path : String) : List String :=
  let parts := path.splitOn "/"
  (List.range (parts.length - 1)).map fun i => "/".intercalate (parts.take (i + 1))

def loadOne (disk : Disk) (path : String) : IO Disk := do
  try
    let packed : Packed := ⟨← IO.FS.readBinFile path⟩
    return ((disk.put path packed).toOption).getD disk
  catch
    | .inappropriateType _ 21 _ => return ((disk.makeDirectory path).toOption).getD disk
    | .inappropriateType .. | .noFileOrDirectory .. => return disk
    | error => throw error

def load (paths : List String) : IO Disk :=
  (paths.flatMap fun path => (parents path ++ [path]).filter fun part => !part.isEmpty).foldlM
    loadOne {}

/-- Writes back the files under the paths that are not as they were. -/
def save (before after : Disk) (paths : List String) : IO Unit :=
  paths.forM fun path => do
    if let .ok id := after.lookupFile path then
      let old := (before.lookupFile path).toOption.map before.data
      if old ≠ some (after.data id) then
        let bytes := (after.data id).read 0 (after.length id)
        IO.FS.writeBinFile path bytes.array

def seconds (milliseconds : Nat) : String :=
  let hundredths := (milliseconds + 5) / 10
  let part := hundredths % 100
  toString (hundredths / 100) ++ "." ++ toString (part / 10) ++ toString (part % 10)

def warningLine (warning : Warning) : String :=
  "WARN " ++ warning.message
    ++ String.join (warning.fields.map fun (name, value) => " " ++ name ++ "=" ++ value)

def usage : String :=
  "Usage: partition-image [-v] <COMMAND>\n\n"
    ++ "Commands:\n"
    ++ "  info <IMAGE>...\n"
    ++ "  probe <IMAGE>\n"
    ++ "  export <IMAGE> --output <FILE> [--overlay <CF>] [--quiet]\n"
    ++ "  patch <IMAGE> --block <N> --from <FILE> [--overlay <CF>]\n"

end PartitionImage.Program

open PartitionImage in
def main (arguments : List String) : IO UInt32 := do
  let command := Command.parse? arguments
  let before ← Program.load ((command.map Command.paths).getD [])
  let start ← IO.monoMsNow
  let (exit, world) := CommandLine.run arguments { disk := before }
  Program.save before world.disk ((command.map Command.outputs).getD [])
  world.warnings.forM fun warning => IO.eprintln (Program.warningLine warning)
  match exit with
  | .usage => IO.eprint Program.usage
  | .ran _ stdout stderr | .panicked stdout stderr =>
    IO.print (Piece.render (Program.seconds ((← IO.monoMsNow) - start)) stdout)
    IO.eprint stderr
  return UInt32.ofNat exit.code
