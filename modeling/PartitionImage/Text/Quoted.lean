import PartitionImage.Text.Hexadecimal
import PartitionImage.Text.Invisible
/-!
# Quoted text

Paths in a description of a handle stand between double quotes, with everything that would not
show, or would end the quotation, spelled out.

* `Text.quoted` quotes a text.
* `Text.quotedOption` writes a text that may be missing, `Text.bool` a truth value.
-/

namespace PartitionImage.Text

def quotedChar (c : Char) : String :=
  if c = '"' then "\\\""
  else if c = '\\' then "\\\\"
  else if c = '\n' then "\\n"
  else if c = '\r' then "\\r"
  else if c = '\t' then "\\t"
  else if c.toNat = 0 then "\\0"
  else if c.toNat < 0x20 || c.toNat = 0x7F || (0x80 ≤ c.toNat && isInvisible c.toNat) then
    "\\u\x7b" ++ hex 1 c.toNat ++ "\x7d"
  else c.toString

def quoted (text : String) : String :=
  "\"" ++ String.join (text.toList.map quotedChar) ++ "\""

/-- `None`, or a quoted text in `Some(…)`. -/
def quotedOption : Option String → String
  | none => "None"
  | some text => "Some(" ++ quoted text ++ ")"

def bool (b : Bool) : String := if b then "true" else "false"

end PartitionImage.Text
