import PartitionImage.Bytes
/-!
# Text from untrusted bytes

Text fields of an image are meant to be UTF-8 but hold whatever the creating tool left there.
Decoding never fails: every maximal run of bytes that begins a character and cannot be completed
gives one replacement character, and so does every byte that begins none.

* `Text.Lossy.State` is what a decoder knows between two bytes, `Text.Lossy.step` what it does with
  the next one.
* `Text.lossy` decodes a whole string.
-/

namespace PartitionImage.Text

namespace Lossy

/-- The character that stands for bytes that are no text. -/
def replacement : Char := '\uFFFD'

/-- What is known between two bytes. -/
inductive State
  | between
  /-- A character is under way: its bits so far, how many bytes are to follow the next one, and
  the bounds of the next one. -/
  | within (bits after low high : Nat)

/-- A byte at the start of a character. -/
def first (byte : Nat) : List Char × State :=
  if byte < 0x80 then ([Char.ofNat byte], .between)
  else if byte < 0xC2 then ([replacement], .between)
  else if byte < 0xE0 then ([], .within (byte - 0xC0) 0 0x80 0xBF)
  else if byte = 0xE0 then ([], .within 0 1 0xA0 0xBF)
  else if byte = 0xED then ([], .within 0xD 1 0x80 0x9F)
  else if byte < 0xF0 then ([], .within (byte - 0xE0) 1 0x80 0xBF)
  else if byte = 0xF0 then ([], .within 0 2 0x90 0xBF)
  else if byte < 0xF4 then ([], .within (byte - 0xF0) 2 0x80 0xBF)
  else if byte = 0xF4 then ([], .within 4 2 0x80 0x8F)
  else ([replacement], .between)

/-- The characters that the next byte completes or rules out, and what is known after it.  A byte
that cannot continue a character begins the next one. -/
def step : State → UInt8 → List Char × State
  | .between, byte => first byte.toNat
  | .within bits after low high, byte =>
    if low ≤ byte.toNat ∧ byte.toNat ≤ high then
      let bits := 64 * bits + byte.toNat % 64
      match after with
      | 0 => ([Char.ofNat bits], .between)
      | after + 1 => ([], .within bits after 0x80 0xBF)
    else
      let (chars, state) := first byte.toNat
      (replacement :: chars, state)

def decode : State → Bytes → List Char
  | .between, [] => []
  | .within .., [] => [replacement]
  | state, byte :: bytes =>
    let (chars, state) := step state byte
    chars ++ decode state bytes

end Lossy

/-- A string of bytes as text. -/
def lossy (bytes : Bytes) : String := String.ofList (Lossy.decode .between bytes)

end PartitionImage.Text
