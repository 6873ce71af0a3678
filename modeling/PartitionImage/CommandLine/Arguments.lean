import PartitionImage.Bytes
/-!
# Command line arguments

A command line is a command, its flags, its options with a value, and its operands, in any order
after the command.  Short flags may share a dash, the value of an option may follow it directly,
after an equals sign, or as the next argument, and after `--` everything is an operand.

* `Command` is what a command line asks for.
* `Flag` describes a flag or option, `Arguments.scan` sorts the arguments of a command.
* `Command.parse?` reads a whole command line; a wrong one asks for nothing.
-/

namespace PartitionImage

/-- What a command line asks for. -/
inductive Command
  | info (images : List String)
  | probe (image : String)
  | export (image output : String) (overlay : Option String) (quiet : Bool)
  | patch (image : String) (block : Nat) (source : String) (overlay : Option String)
  deriving DecidableEq, Repr

/-- A flag, or an option that takes a value. -/
structure Flag where
  long : String
  short : Option Char
  takesValue : Bool
  repeatable : Bool := false
  deriving DecidableEq, Repr

namespace Flag

def verbose : Flag := { long := "verbose", short := 'v', takesValue := false, repeatable := true }

def quiet : Flag := { long := "quiet", short := 'q', takesValue := false }

/-- The file that an export writes. -/
def output : Flag := { long := "output", short := 'o', takesValue := true }

/-- The overlay that is applied or changed. -/
def overlay : Flag := { long := "overlay", short := none, takesValue := true }

/-- The first block that a patch replaces. -/
def block : Flag := { long := "block", short := 'b', takesValue := true }

/-- The file with the replacement blocks. -/
def source : Flag := { long := "from", short := 'f', takesValue := true }

end Flag

/-- The arguments of a command, sorted. -/
structure Arguments where
  operands : List String := []
  /-- Flags and options that were given, the latest first. -/
  given : List (Flag × Option String) := []
  deriving DecidableEq, Repr

namespace Arguments

/-- The arguments with a flag more, unless it may be given only once and was. -/
def give? (arguments : Arguments) (flag : Flag) (value : Option String) : Option Arguments :=
  if !flag.repeatable && arguments.given.any (·.1 == flag) then none
  else some { arguments with given := (flag, value) :: arguments.given }

/-- The arguments with an operand more. -/
def operand (arguments : Arguments) (text : String) : Arguments :=
  { arguments with operands := arguments.operands ++ [text] }

/-- An argument that starts with `-` is a flag, unless it is `-` itself. -/
def isFlag (text : String) : Bool := text.startsWith "-" && text != "-"

/-- The value of an option that was given. -/
def value? (arguments : Arguments) (flag : Flag) : Option String :=
  (arguments.given.find? (·.1 == flag)).bind (·.2)

def has (arguments : Arguments) (flag : Flag) : Bool := arguments.given.any (·.1 == flag)

/-- What a cluster of short flags leaves to be done. -/
inductive Cluster
  | done (arguments : Arguments)
  /-- The value of the last one is the next argument. -/
  | awaits (arguments : Arguments) (flag : Flag)
  deriving DecidableEq, Repr

/-- Sorts the short flags that share a dash.  What follows an option is its value. -/
def cluster? (flags : List Flag) : Arguments → List Char → Option Cluster
  | arguments, [] => some (.done arguments)
  | arguments, c :: rest => do
    let flag ← flags.find? (·.short == some c)
    if !flag.takesValue then cluster? flags (← arguments.give? flag none) rest
    else
      match rest with
      | [] => return .awaits arguments flag
      | '=' :: value => return .done (← arguments.give? flag (some (String.ofList value)))
      | value => return .done (← arguments.give? flag (some (String.ofList value)))

/-- A long flag, with what follows its equals sign if there is one. -/
def long? (flags : List Flag) (arguments : Arguments) (name : List Char) : Option Cluster := do
  let flag ← flags.find? (·.long.toList == name.takeWhile (· != '='))
  match flag.takesValue, name.dropWhile (· != '=') with
  | true, [] => return .awaits arguments flag
  | true, _ :: value => return .done (← arguments.give? flag (some (String.ofList value)))
  | false, [] => return .done (← arguments.give? flag none)
  | false, _ => none

/-- Sorts arguments, where an option in front may await its value. -/
def scan (flags : List Flag) : (awaiting : Option Flag) → Arguments → List String →
    Option Arguments
  | none, arguments, [] => some arguments
  | some _, _, [] => none
  | some flag, arguments, text :: rest => do
    if isFlag text then none
    else scan flags none (← arguments.give? flag (some text)) rest
  | none, arguments, text :: rest =>
    if text = "--" then some { arguments with operands := arguments.operands ++ rest }
    else if isFlag text then
      let sorted := match text.toList with
        | '-' :: '-' :: name => long? flags arguments name
        | _ :: cluster => cluster? flags arguments cluster
        | [] => none
      match sorted with
      | none => none
      | some (.done arguments) => scan flags none arguments rest
      | some (.awaits arguments flag) => scan flags (some flag) arguments rest
    else scan flags none (arguments.operand text) rest

end Arguments

namespace Command

def path? (text : String) : Option String := if text.isEmpty then none else some text

/-- A number below `2^64` in decimal digits, with `+` before them or not. -/
def number? (text : String) : Option Nat :=
  let digits := match text.toList with
    | '+' :: digits => digits
    | digits => digits
  if digits.isEmpty || !digits.all Char.isDigit then none
  else
    let n := digits.foldl (fun n c => 10 * n + (c.toNat - '0'.toNat)) 0
    if n < range64 then some n else none

/-- A path that may be missing but is not empty. -/
def optionalPath? : Option String → Option (Option String)
  | none => some none
  | some text => (path? text).map some

/-- The command of the given name with its arguments. -/
def ofName? (name : String) (rest : List String) : Option Command := do
  match name with
  | "info" =>
    let arguments ← Arguments.scan [.verbose] none {} rest
    if arguments.operands.isEmpty then none
    return info (← arguments.operands.mapM path?)
  | "probe" =>
    let arguments ← Arguments.scan [.verbose] none {} rest
    let [image] := arguments.operands | none
    return probe (← path? image)
  | "export" =>
    let arguments ← Arguments.scan [.verbose, .output, .overlay, .quiet] none {} rest
    let [image] := arguments.operands | none
    return «export» (← path? image) (← path? (← arguments.value? .output))
      (← optionalPath? (arguments.value? .overlay)) (arguments.has .quiet)
  | "patch" =>
    let arguments ← Arguments.scan [.verbose, .block, .source, .overlay] none {} rest
    let [image] := arguments.operands | none
    return patch (← path? image) (← number? (← arguments.value? .block))
      (← path? (← arguments.value? .source)) (← optionalPath? (arguments.value? .overlay))
  | _ => none

/-- Whether an argument is nothing but a request for more messages, which may stand before the
command. -/
def isVerbose (text : String) : Bool :=
  text == "--verbose" || (Arguments.isFlag text && (text.toList.drop 1).all (· == 'v'))

/-- The command that a command line asks for; `none` if it is wrong. -/
def parse? (arguments : List String) : Option Command :=
  match arguments.dropWhile isVerbose with
  | [] => none
  | name :: rest => ofName? name rest

end Command

end PartitionImage
