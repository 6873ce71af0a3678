import PartitionImage.BlockDevice
/-!
# Patching blocks

Replacement blocks are written into the overlay of a verified image.  Everything is checked before
anything is touched.

* `PatchError` lists what can go wrong.
* `patch` writes the blocks and makes them last.
-/

namespace PartitionImage

inductive PatchError
  | notVerified
  | partialBlock (length blockSize : Nat)
  | outOfRange (first stop total : Nat)
  | write (cause : Error)
  | sync (cause : Error)
  deriving DecidableEq, Repr

namespace PatchError

def name : PatchError → String
  | notVerified => "NotVerified"
  | partialBlock .. => "PartialBlock"
  | outOfRange .. => "OutOfRange"
  | write _ => "WriteFailed"
  | sync _ => "SyncFailed"

def message : PatchError → String
  | notVerified => "image is not verified"
  | partialBlock length blockSize =>
    toString length ++ " bytes is not a whole number of " ++ toString blockSize ++ "-byte blocks"
  | outOfRange first stop total =>
    "blocks #" ++ toString first ++ "..#" ++ toString stop ++ " are beyond the last block ("
      ++ toString total ++ " blocks)"
  | write cause => "cannot write blocks: " ++ cause.message
  | sync cause => "cannot sync overlay: " ++ cause.message

def causes : PatchError → List String
  | write cause | sync cause => cause.message :: cause.causes
  | _ => []

def panics : PatchError → Bool
  | write cause | sync cause => cause.panics
  | _ => false

end PatchError

variable {D : Type} [BlockDevice D]

/-- Writes `data` as whole blocks from block `first` on and makes them last.  The result is the number of blocks. -/
def patch (first : Nat) (data : Bytes) : Action (D × World) PatchError Nat := do
  let (device, _) ← get
  let some blockSize := BlockDevice.blockSize? device | throw .notVerified
  let some total := BlockDevice.blockCount? device | throw .notVerified
  if data.length % blockSize ≠ 0 then throw (.partialBlock data.length blockSize)
  let count := data.length / blockSize
  let stop := saturate64 (first + count)
  if total < stop then throw (.outOfRange first stop total)
  .zoom id (fun state _ => state) .write (BlockDevice.seek first)
  .zoom id (fun state _ => state) .write (BlockDevice.write data)
  .zoom id (fun state _ => state) .sync BlockDevice.sync
  return count

end PartitionImage
