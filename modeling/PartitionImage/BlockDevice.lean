import PartitionImage.Image.Access
import PartitionImage.RawImage
/-!
# Block devices

Partition images and raw images are used alike: both are devices of numbered blocks.

* `BlockDevice` is what they have in common.
* `AnyImage` is a device of either type.
-/

namespace PartitionImage

/-- A device of numbered blocks, behind a handle. -/
class BlockDevice (D : Type) where
  /-- The type of the image, in a word. -/
  typeName : D → String
  verify : Action (D × World) Error Unit
  /-- Bytes of a block, `none` before verification. -/
  blockSize? : D → Option Nat
  /-- Blocks of the device, `none` before verification. -/
  blockCount? : D → Option Nat
  /-- The block that is read or written next, `none` before verification. -/
  tell? : D → Option Nat
  seek : (block : Nat) → Action (D × World) Error Unit
  read : (length : Nat) → StateM (D × World) (Transfer Error Unit)
  isUsed : Action (D × World) Error Bool
  write : Bytes → Action (D × World) Error Unit
  sync : Action (D × World) Error Unit
  close : D → Action World Error Unit
  /-- Releases a handle that is not closed. -/
  drop : D → StateM World Unit

variable {O : Type} [Overlay O]

instance : BlockDevice (Image O) where
  typeName _ := "partclone"
  verify := Image.verify
  blockSize? := Image.blockSize?
  blockCount? := Image.blockCount?
  tell? := Image.tell?
  seek := Image.seek
  read := Image.read
  isUsed := Image.isUsed
  write := Image.write
  sync := Image.sync
  close := Image.close
  drop := Image.drop

instance : BlockDevice (RawImage O) where
  typeName _ := "raw"
  verify := RawImage.verify
  blockSize? := RawImage.blockSize?
  blockCount? := RawImage.blockCount?
  tell? := RawImage.tell?
  seek := RawImage.seek
  read := RawImage.read
  isUsed := RawImage.isUsed
  write := RawImage.write
  sync := RawImage.sync
  close := RawImage.close
  drop := RawImage.drop

inductive AnyImage (O : Type) [Overlay O]
  | partition (image : Image O)
  | raw (image : RawImage O)

namespace AnyImage

/-- Runs `act` on the device, of whatever type it is. -/
def onDevice {α : Type} (act : {D : Type} → [BlockDevice D] → StateM (D × World) α) :
    StateM (AnyImage O × World) α
  | (partition image, world) =>
    let (value, image, world) := act (image, world)
    (value, partition image, world)
  | (raw image, world) =>
    let (value, image, world) := act (image, world)
    (value, raw image, world)

end AnyImage

instance : BlockDevice (AnyImage O) where
  typeName
    | .partition image => BlockDevice.typeName image
    | .raw image => BlockDevice.typeName image
  verify := ExceptT.mk <| AnyImage.onDevice BlockDevice.verify.run
  blockSize?
    | .partition image => image.blockSize?
    | .raw image => image.blockSize?
  blockCount?
    | .partition image => image.blockCount?
    | .raw image => image.blockCount?
  tell?
    | .partition image => image.tell?
    | .raw image => image.tell?
  seek block := ExceptT.mk <| AnyImage.onDevice (BlockDevice.seek block).run
  read length := AnyImage.onDevice (BlockDevice.read length)
  isUsed := ExceptT.mk <| AnyImage.onDevice BlockDevice.isUsed.run
  write data := ExceptT.mk <| AnyImage.onDevice (BlockDevice.write data).run
  sync := ExceptT.mk <| AnyImage.onDevice BlockDevice.sync.run
  close
    | .partition image => image.close
    | .raw image => image.close
  drop
    | .partition image => image.drop
    | .raw image => image.drop

end PartitionImage
