import PartitionImage.Bytes
/-!
# Transfers

Reading into a buffer can end halfway: the bytes that arrived before the fault stay in the buffer.
A `Transfer` therefore carries both the bytes that arrived, from the start of the buffer on, and how
the transfer ended.

* `Transfer.into` is the buffer after a transfer.
* `Transfer.append` joins two transfers to adjoining parts of a buffer.
-/

namespace PartitionImage

/-- The bytes that arrived, and how the transfer ended. -/
structure Transfer (ε α : Type) where
  bytes : Bytes
  result : Except ε α

namespace Transfer

variable {ε ε' α β : Type}

def failed (error : ε) : Transfer ε α := ⟨[], .error error⟩

def complete (bytes : Bytes) : Transfer ε Unit := ⟨bytes, .ok ()⟩

def mapError (wrap : ε → ε') (transfer : Transfer ε α) : Transfer ε' α :=
  ⟨transfer.bytes, transfer.result.mapError wrap⟩

/-- The buffer after a transfer into it: what arrived, then what was there. -/
def into (transfer : Transfer ε α) (buffer : Bytes) : Bytes :=
  transfer.bytes ++ buffer.drop transfer.bytes.length

/-- Two transfers to adjoining parts of a buffer, as one. -/
def append (first : Transfer ε α) (second : Transfer ε β) : Transfer ε β :=
  ⟨first.bytes ++ second.bytes, second.result⟩

end Transfer

end PartitionImage
