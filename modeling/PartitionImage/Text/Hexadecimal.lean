/-!
# Numbers in base sixteen

* `Text.hex` and `Text.hexUpper` write a number with at least a given number of digits.
* `Text.padLeft` brings a text to a width with spaces before it.
-/

namespace PartitionImage.Text

/-- A number in base sixteen with at least `width` digits, letters in lower case. -/
def hex (width n : Nat) : String :=
  let digits := Nat.toDigits 16 n
  String.ofList (List.replicate (width - digits.length) '0' ++ digits)

/-- A number in base sixteen with at least `width` digits, letters in upper case. -/
def hexUpper (width n : Nat) : String :=
  String.ofList ((hex width n).toList.map Char.toUpper)

def padLeft (width : Nat) (text : String) : String :=
  String.ofList (List.replicate (width - text.length) ' ') ++ text

end PartitionImage.Text
