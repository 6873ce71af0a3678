import PartitionImage.BlockDevice
/-!
# Runs of a device

What a caller may do with a handle that it keeps, as data, so that statements can range over
everything that may have happened to a handle before.

* `Operation` is a call on a handle, with what it is given.
* `Operation.after` is the state that a call leaves, whether it succeeds or not.
* `Operation.run` is the state after a list of calls; `Operation.run_induction` is about what they keep.
* `Operation.error?` is the failure of a call, `Operation.answer` all that the caller is told, `Operation.requires`
  what the call requires of the handle.
* `Ending` is what may happen to a handle in the end, and `Ending.after` the world that is left.
* `BlockDevice.readAt` is what a seek and a read from there give, `BlockDevice.isUsedAt` whether the block holds data.
* `BlockDevice.Embeds` relates a device to one that it is made part of: calls on the one are calls on the other.
  `Image.embeds` and `RawImage.embeds` are the two types of images.
-/

namespace PartitionImage

def failure? {ε α : Type} : Except ε α → Option ε
  | .ok _ => none
  | .error error => some error

theorem failure?_eq_some_iff {ε α : Type} {result : Except ε α} {error : ε} :
    failure? result = some error ↔ result = .error error := by
  cases result with
  | ok value => simp [failure?]
  | error other => simp [failure?]

inductive Operation
  | verify
  | seek (block : Nat)
  /-- Reads into a buffer of `length` bytes. -/
  | read (length : Nat)
  | isUsed
  | write (data : Bytes)
  | sync
  deriving DecidableEq, Repr

namespace Operation

variable {D : Type} [BlockDevice D]

def after (state : D × World) : Operation → D × World
  | verify => (Action.perform BlockDevice.verify state).2
  | seek block => (Action.perform (BlockDevice.seek block) state).2
  | read length => ((BlockDevice.read length).run state).2
  | isUsed => (Action.perform BlockDevice.isUsed state).2
  | write data => (Action.perform (BlockDevice.write data) state).2
  | sync => (Action.perform BlockDevice.sync state).2

def requires : Operation → Readiness
  | verify => .opened
  | seek _ | read _ | isUsed => .readReady
  | write _ => .writable
  | sync => .writeReady

/-- The failure that a call ends with, if it fails. -/
def error? (state : D × World) : Operation → Option Error
  | verify => failure? (Action.perform BlockDevice.verify state).1
  | seek block => failure? (Action.perform (BlockDevice.seek block) state).1
  | read length => failure? ((BlockDevice.read length).run state).1.result
  | isUsed => failure? (Action.perform BlockDevice.isUsed state).1
  | write data => failure? (Action.perform (BlockDevice.write data) state).1
  | sync => failure? (Action.perform BlockDevice.sync state).1

/-- What a caller is told: the bytes that a read has given, whether a block is used if that was asked, and how
the call ended. -/
def answer (state : D × World) : Operation → Transfer Error (Option Bool)
  | verify => ⟨[], (Action.perform BlockDevice.verify state).1.map fun _ => none⟩
  | seek block => ⟨[], (Action.perform (BlockDevice.seek block) state).1.map fun _ => none⟩
  | read length =>
    let transfer := ((BlockDevice.read length).run state).1
    ⟨transfer.bytes, transfer.result.map fun _ => none⟩
  | isUsed => ⟨[], (Action.perform BlockDevice.isUsed state).1.map some⟩
  | write data => ⟨[], (Action.perform (BlockDevice.write data) state).1.map fun _ => none⟩
  | sync => ⟨[], (Action.perform BlockDevice.sync state).1.map fun _ => none⟩

theorem failure?_answer (operation : Operation) (state : D × World) :
    failure? (operation.answer state).result = operation.error? state := by
  have hmap : ∀ {α β : Type} (f : α → β) (result : Except Error α),
      failure? (result.map f) = failure? result := by
    intro α β f result
    cases result with
    | ok value => rfl
    | error error => rfl
  cases operation with
  | verify => exact hmap _ _
  | seek block => exact hmap _ _
  | read length => exact hmap _ _
  | isUsed => exact hmap _ _
  | write data => exact hmap _ _
  | sync => exact hmap _ _

def run (operations : List Operation) (state : D × World) : D × World :=
  operations.foldl after state

/-- Calls go on from where earlier ones ended. -/
theorem run_append (first second : List Operation) (state : D × World) :
    run (first ++ second) state = run second (run first state) :=
  List.foldl_append

/-- **What every call keeps, every run of calls keeps.** -/
theorem run_induction {inv : D × World → Prop} {state : D × World} (h : inv state)
    (hafter : ∀ {state}, inv state → ∀ operation : Operation, inv (operation.after state))
    (operations : List Operation) : inv (run operations state) := by
  induction operations generalizing state with
  | nil => exact h
  | cons operation operations ih => exact ih (hafter h operation)

end Operation

/-- What may happen to a handle in the end. -/
inductive Ending
  | kept
  | closed
  | dropped
  deriving DecidableEq, Repr

def Ending.after {D : Type} [BlockDevice D] (state : D × World) : Ending → World
  | kept => state.2
  | closed => (Action.perform (BlockDevice.close state.1) state.2).2
  | dropped => ((BlockDevice.drop state.1).run state.2).2

/-- What holds of the disk when a handle is kept and when it is closed holds however it ends, if a handle that is dropped
leaves the same disk as one that is closed. -/
theorem BlockDevice.ending_of_close {D : Type} [BlockDevice D] {state : D × World}
    (hdrop : ((BlockDevice.drop state.1).run state.2).2.disk
      = (Action.perform (BlockDevice.close state.1) state.2).2.disk)
    (post : Disk → Prop) (hkept : post state.2.disk)
    (hclosed : post (Action.perform (BlockDevice.close state.1) state.2).2.disk) (ending : Ending) :
    post (ending.after state).disk := by
  cases ending with
  | kept => exact hkept
  | closed => exact hclosed
  | dropped => exact hdrop.symm ▸ hclosed

/-- Moves to a block and reads `length` bytes from there. -/
def BlockDevice.readAt {D : Type} [BlockDevice D] (block length : Nat) :
    StateM (D × World) (Transfer Error Unit) := do
  match ← (BlockDevice.seek block).run with
  | .error error => return .failed error
  | .ok () => BlockDevice.read length

theorem BlockDevice.run_readAt {D : Type} [BlockDevice D] {block length : Nat}
    {state sought : D × World} (h : Action.perform (BlockDevice.seek block) state = (.ok (), sought)) :
    (BlockDevice.readAt block length).run state = (BlockDevice.read length).run sought := by
  show (match (Action.perform (BlockDevice.seek block) state).1 with
    | .error error => (pure (Transfer.failed error) : StateM (D × World) (Transfer Error Unit))
    | .ok () => BlockDevice.read length).run (Action.perform (BlockDevice.seek block) state).2 = _
  rw [h]

theorem BlockDevice.run_readAt_error {D : Type} [BlockDevice D] {block length : Nat}
    {state sought : D × World} {error : Error}
    (h : Action.perform (BlockDevice.seek block) state = (.error error, sought)) :
    (BlockDevice.readAt block length).run state = (.failed error, sought) := by
  show (match (Action.perform (BlockDevice.seek block) state).1 with
    | .error error => (pure (Transfer.failed error) : StateM (D × World) (Transfer Error Unit))
    | .ok () => BlockDevice.read length).run (Action.perform (BlockDevice.seek block) state).2 = _
  rw [h]
  rfl

/-- Moves to a block and asks whether it holds data. -/
def BlockDevice.isUsedAt {D : Type} [BlockDevice D] (block : Nat) : Action (D × World) Error Bool := do
  BlockDevice.seek block
  BlockDevice.isUsed

/-! ### Devices as parts of others -/

/-- What is done to the device that `embed` gives is done to the device that it is given. -/
structure BlockDevice.Embeds {D E : Type} [BlockDevice D] [BlockDevice E] (embed : D → E) : Prop where
  verify : ∀ device world, Action.perform BlockDevice.verify (embed device, world)
    = ((Action.perform BlockDevice.verify (device, world)).1,
      Prod.map embed id (Action.perform BlockDevice.verify (device, world)).2)
  seek : ∀ block device world, Action.perform (BlockDevice.seek block) (embed device, world)
    = ((Action.perform (BlockDevice.seek block) (device, world)).1,
      Prod.map embed id (Action.perform (BlockDevice.seek block) (device, world)).2)
  read : ∀ length device world, (BlockDevice.read length).run (embed device, world)
    = (((BlockDevice.read length).run (device, world)).1,
      Prod.map embed id ((BlockDevice.read length).run (device, world)).2)
  isUsed : ∀ device world, Action.perform BlockDevice.isUsed (embed device, world)
    = ((Action.perform BlockDevice.isUsed (device, world)).1,
      Prod.map embed id (Action.perform BlockDevice.isUsed (device, world)).2)
  write : ∀ data device world, Action.perform (BlockDevice.write data) (embed device, world)
    = ((Action.perform (BlockDevice.write data) (device, world)).1,
      Prod.map embed id (Action.perform (BlockDevice.write data) (device, world)).2)
  sync : ∀ device world, Action.perform BlockDevice.sync (embed device, world)
    = ((Action.perform BlockDevice.sync (device, world)).1,
      Prod.map embed id (Action.perform BlockDevice.sync (device, world)).2)
  close : ∀ device, BlockDevice.close (embed device) = BlockDevice.close device
  drop : ∀ device, BlockDevice.drop (embed device) = BlockDevice.drop device
  blockSize? : ∀ device, BlockDevice.blockSize? (embed device) = BlockDevice.blockSize? device
  blockCount? : ∀ device, BlockDevice.blockCount? (embed device) = BlockDevice.blockCount? device
  tell? : ∀ device, BlockDevice.tell? (embed device) = BlockDevice.tell? device

namespace BlockDevice.Embeds

variable {D E : Type} [BlockDevice D] [BlockDevice E] {embed : D → E}

/-- A call on the one is the call on the other. -/
theorem after (h : Embeds embed) (operation : Operation) (state : D × World) :
    operation.after (Prod.map embed id state) = Prod.map embed id (operation.after state) := by
  obtain ⟨device, world⟩ := state
  cases operation with
  | verify => exact congrArg Prod.snd (h.verify device world)
  | seek block => exact congrArg Prod.snd (h.seek block device world)
  | read length => exact congrArg Prod.snd (h.read length device world)
  | isUsed => exact congrArg Prod.snd (h.isUsed device world)
  | write data => exact congrArg Prod.snd (h.write data device world)
  | sync => exact congrArg Prod.snd (h.sync device world)

/-- So are many. -/
theorem run (h : Embeds embed) (operations : List Operation) (state : D × World) :
    Operation.run operations (Prod.map embed id state)
      = Prod.map embed id (Operation.run operations state) := by
  induction operations generalizing state with
  | nil => rfl
  | cons operation operations ih =>
    show Operation.run operations (operation.after (Prod.map embed id state)) = _
    rw [h.after]
    exact ih (operation.after state)

theorem run_verify (h : Embeds embed) {state reached : D × World}
    (hverify : Action.perform BlockDevice.verify state = (.ok (), reached)) :
    Operation.run [.verify] (Prod.map embed id state) = Prod.map embed id reached := by
  have hrun : Operation.run [.verify] state = reached := congrArg Prod.snd hverify
  rw [h.run, hrun]

theorem ending (h : Embeds embed) (ending : Ending) (state : D × World) :
    ending.after (Prod.map embed id state) = ending.after state := by
  cases ending with
  | kept => rfl
  | closed => exact congrArg (fun act => (Action.perform act state.2).2) (h.close state.1)
  | dropped => exact congrArg (fun act => (act.run state.2).2) (h.drop state.1)

theorem run_readAt (h : Embeds embed) (block length : Nat) (state : D × World) :
    ((BlockDevice.readAt block length).run (Prod.map embed id state)).1
      = ((BlockDevice.readAt block length).run state).1 := by
  obtain ⟨device, world⟩ := state
  have hembedded := h.seek block device world
  rcases hseek : Action.perform (BlockDevice.seek block) (device, world) with ⟨result, sought, reached⟩
  rw [hseek] at hembedded
  cases result with
  | error error =>
    rw [BlockDevice.run_readAt_error hseek]
    exact congrArg Prod.fst (BlockDevice.run_readAt_error hembedded)
  | ok done =>
    rw [BlockDevice.run_readAt hseek]
    exact (congrArg Prod.fst (BlockDevice.run_readAt hembedded)).trans
      (congrArg Prod.fst (h.read length sought reached))

theorem perform_isUsedAt (h : Embeds embed) (block : Nat) (state : D × World) :
    (Action.perform (BlockDevice.isUsedAt block) (Prod.map embed id state)).1
      = (Action.perform (BlockDevice.isUsedAt block) state).1 := by
  obtain ⟨device, world⟩ := state
  have hembedded := h.seek block device world
  rcases hseek : Action.perform (BlockDevice.seek block) (device, world) with ⟨result, sought, reached⟩
  rw [hseek] at hembedded
  rw [BlockDevice.isUsedAt, BlockDevice.isUsedAt]
  cases result with
  | error error =>
    rw [Action.perform_bind_error hseek]
    exact congrArg Prod.fst (Action.perform_bind_error hembedded)
  | ok done =>
    rw [Action.perform_bind_ok hseek]
    exact (congrArg Prod.fst (Action.perform_bind_ok hembedded)).trans (congrArg Prod.fst (h.isUsed sought reached))

/-- A verification that succeeds is one of the device that is made part of the other. -/
theorem verify_inv (h : Embeds embed) {device : D} {world : World} {verified : E × World}
    (hverify : Action.perform BlockDevice.verify (embed device, world) = (.ok (), verified)) :
    ∃ reached, Action.perform BlockDevice.verify (device, world) = (.ok (), reached)
      ∧ verified = Prod.map embed id reached := by
  rw [h.verify] at hverify
  obtain ⟨hresult, rfl⟩ := Prod.mk.inj hverify
  exact ⟨_, Prod.ext hresult rfl, rfl⟩

/-- A write to the one is a write to the other. -/
theorem perform_write (h : Embeds embed) {data : Bytes} {state written : D × World}
    {result : Except Error Unit}
    (hwrite : Action.perform (BlockDevice.write data) state = (result, written)) :
    Action.perform (BlockDevice.write data) (Prod.map embed id state)
      = (result, Prod.map embed id written) := by
  obtain ⟨device, world⟩ := state
  show Action.perform (BlockDevice.write data) (embed device, world) = _
  rw [h.write, hwrite]

end BlockDevice.Embeds

section

variable {O : Type} [Overlay O]

theorem Image.embeds : BlockDevice.Embeds (AnyImage.partition (O := O)) where
  verify _ _ := rfl
  seek _ _ _ := rfl
  read _ _ _ := rfl
  isUsed _ _ := rfl
  write _ _ _ := rfl
  sync _ _ := rfl
  close _ := rfl
  drop _ := rfl
  blockSize? _ := rfl
  blockCount? _ := rfl
  tell? _ := rfl

theorem RawImage.embeds : BlockDevice.Embeds (AnyImage.raw (O := O)) where
  verify _ _ := rfl
  seek _ _ _ := rfl
  read _ _ _ := rfl
  isUsed _ _ := rfl
  write _ _ _ := rfl
  sync _ _ := rfl
  close _ := rfl
  drop _ := rfl
  blockSize? _ := rfl
  blockCount? _ := rfl
  tell? _ := rfl

end

end PartitionImage
