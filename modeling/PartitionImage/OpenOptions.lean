import PartitionImage.PrefixCount
import PartitionImage.Text.Quoted
/-!
# Options

How an image is opened: whether it may be written, where its changes go, how strictly its descriptor
is checked, and how densely its bitmap is sampled.
-/

namespace PartitionImage

/-- What a handle does about writes. -/
inductive OpenMode
  | readOnly
  /-- Writes go to an overlay, which is made on the first write if it cannot be opened. -/
  | readWrite
  /-- Writes go to an overlay, which is opened or made while the image is verified. -/
  | create
  deriving DecidableEq, Repr

def OpenMode.text : OpenMode → String
  | readOnly => "ReadOnly"
  | readWrite => "ReadWrite"
  | create => "Create"

structure OpenOptions where
  mode : OpenMode := .readOnly
  /-- Where the changes go, if not beside the image. -/
  overlay : Option String := none
  /-- Whether a wrong number of used blocks in the descriptor is a failure. -/
  strict : Bool := false
  /-- How densely the bitmap is sampled: once every `2^factor` positions. -/
  factor : Nat := PrefixCount.defaultFactor
  deriving DecidableEq, Repr

namespace OpenOptions

/-- The sampling is no sparser than `PrefixCount.maxFactor` allows. -/
def withFactor (options : OpenOptions) (factor : Nat) : OpenOptions :=
  { options with factor := min factor PrefixCount.maxFactor }

def text (options : OpenOptions) : String :=
  "OpenOptions \x7b mode: " ++ options.mode.text ++ ", overlay: "
    ++ Text.quotedOption options.overlay ++ ", strict_headers: " ++ Text.bool options.strict
    ++ ", index_factor: " ++ toString options.factor ++ " \x7d"

end OpenOptions

end PartitionImage
