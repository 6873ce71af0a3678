import PartitionImage.Overlay
/-!
# Stores in memory

An overlay that keeps its blocks in memory and may be told which of its operations fail.  Every
store starts empty, so it shows how an image behaves on changes that do not last and on an overlay
that breaks down.

* `MemoryStore.Operation` names what can be told to fail.
* `MemoryStore` is an `Overlay` whose setup is the list of failing operations.
-/

namespace PartitionImage

namespace MemoryStore

/-- An operation that can be told to fail. -/
inductive Operation
  | init
  | create
  | verify
  | seek
  | read
  | write
  | sync
  | finish
  deriving DecidableEq, Repr

namespace Operation

def all : List Operation := [init, create, verify, seek, read, write, sync, finish]

def name : Operation → String
  | init => "init"
  | create => "create"
  | verify => "verify"
  | seek => "seek"
  | read => "read"
  | write => "write"
  | sync => "sync"
  | finish => "finish"

def ofName? (name : String) : Option Operation := all.find? (·.name == name)

end Operation

end MemoryStore

/-- A store of blocks in memory. -/
structure MemoryStore where
  failing : List MemoryStore.Operation
  totalBlocks : Nat
  /-- The stored blocks, the latest first. -/
  blocks : List (Nat × Bytes)
  cursor : Nat
  deriving DecidableEq, Repr

namespace MemoryStore

def fault? (failing : List Operation) (operation : Operation) : Except OverlayError Unit :=
  if operation ∈ failing then .error (.io (.injected operation.name)) else .ok ()

/-- An empty store, unless the operation that opens it fails. -/
def start (operation : Operation) (failing : List Operation) (totalBlocks : Nat) :
    Action Disk OverlayError MemoryStore := do
  .ofExcept <| fault? failing operation
  return { failing := failing, totalBlocks := totalBlocks, blocks := [], cursor := 0 }

def check (operation : Operation) : Action (MemoryStore × Disk) OverlayError Unit := do
  .ofExcept <| fault? (← get).1.failing operation

/-- Moves the cursor, to the end at most. -/
def seek (block : Nat) : Action (MemoryStore × Disk) OverlayError Unit := do
  check .seek
  let (store, disk) ← get
  if store.totalBlocks < block then throw (.outOfRange block)
  set ({ store with cursor := block }, disk)

/-- Reads the block at the cursor, if it is stored, and moves on either way. -/
def read : StateM (MemoryStore × Disk) (Transfer OverlayError Lookup) := do
  let (store, disk) ← get
  if let .error error := fault? store.failing .read then return .failed error
  set ({ store with cursor := store.cursor + 1 }, disk)
  match store.blocks.lookup store.cursor with
  | some block => return ⟨block, .ok .found⟩
  | none => return ⟨[], .ok .notPresent⟩

/-- Stores a block at the cursor and moves on. -/
def write (block : Bytes) : Action (MemoryStore × Disk) OverlayError Unit := do
  check .write
  let (store, disk) ← get
  set ({ store with
    blocks := (store.cursor, block) :: store.blocks
    cursor := store.cursor + 1 }, disk)

/-- Whether the block at the cursor is stored. -/
def holds (store : MemoryStore) : Bool := (store.blocks.lookup store.cursor).isSome

end MemoryStore

instance : Overlay MemoryStore where
  Setup := List MemoryStore.Operation
  init failing _ _ totalBlocks := MemoryStore.start .init failing totalBlocks
  create failing _ _ totalBlocks := MemoryStore.start .create failing totalBlocks
  verify := MemoryStore.check .verify
  seek := MemoryStore.seek
  read _ := MemoryStore.read
  write := MemoryStore.write
  holds := MemoryStore.holds
  sync := MemoryStore.check .sync
  finish store := .ofExcept <| MemoryStore.fault? store.failing .finish
  discard _ := pure ()

end PartitionImage
