/-!
# Traces of errors

A failure is shown with everything that lies behind it, one line for each.  Texts that end with the
text of the next line are cut short and marked, so that nothing is said twice.

* `ErrorTrace.clean` shortens a text.
* `ErrorTrace.render` writes the whole trace.
-/

namespace PartitionImage.ErrorTrace

def isBlank (c : Char) : Bool :=
  let code := c.toNat
  (9 ≤ code && code ≤ 13) || code == 0x20 || code == 0x85 || code == 0xA0 || code == 0x1680
    || (0x2000 ≤ code && code ≤ 0x200A) || code == 0x2028 || code == 0x2029 || code == 0x202F
    || code == 0x205F || code == 0x3000

/-- The text, reversed, without the ends that are the given text, reversed; `rounds` bounds how
often one is taken away. -/
def dropRepeated (ending : List Char) : (rounds : Nat) → List Char → List Char
  | 0, text => text
  | rounds + 1, text =>
    if !ending.isEmpty && ending.isPrefixOf text then
      dropRepeated ending rounds (text.drop ending.length)
    else text

/-- A text without the text of the next line at its end, and without the blanks and colons before
that. -/
def clean (text next : String) : String :=
  let rest := dropRepeated next.toList.reverse text.length text.toList.reverse
  String.ofList ((rest.dropWhile isBlank).dropWhile (· == ':')).reverse

structure Lines where
  lines : List String := []
  shortened : Bool := false
  removed : Bool := false
  deriving DecidableEq, Repr

/-- The lines for a failure and its causes. -/
def cleaned : List String → Lines
  | [] => {}
  | [text] => { lines := [text] }
  | text :: next :: rest =>
    let below := cleaned (next :: rest)
    let short := clean text next
    if short.isEmpty then { below with removed := true }
    else if short = text then { below with lines := text :: below.lines }
    else { below with lines := (short ++ " *") :: below.lines, shortened := true }

/-- Lines with their numbers, from `number` on. -/
def numbered (number : Nat) : List String → String
  | [] => ""
  | line :: lines =>
    let digits := toString number
    String.ofList (List.replicate (3 - digits.length) ' ') ++ digits ++ ": " ++ line ++ "\n"
      ++ numbered (number + 1) lines

def note (lines : Lines) : String :=
  if !lines.shortened && !lines.removed then ""
  else
    "\nNOTE: Some redundant information has been removed"
      ++ (if lines.shortened then " from the lines marked with *" else "")
      ++ ". Set SNAFU_RAW_ERROR_MESSAGES=1 to disable this behavior.\n"

/-- The trace of a failure, whose text comes first, and of its causes. -/
def render (texts : List String) : String :=
  let lines := cleaned texts
  match lines.lines with
  | [] => ""
  | [line] => line ++ "\n" ++ note lines
  | [line, cause] =>
    line ++ "\n\nCaused by this error:\n" ++ numbered 1 [cause] ++ note lines
  | line :: causes =>
    line ++ "\n\nCaused by these errors (recent errors listed first):\n" ++ numbered 1 causes
      ++ note lines

end PartitionImage.ErrorTrace
