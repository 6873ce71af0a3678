import PartitionImage.Proofs.Measured
/-!
# What a handle does to its overlay

An image of either type keeps its changes in an overlay, which is made by the first write if there is none.  A call
on a handle is a program on the overlay alone, besides what it reads of the image.

* `Mount.call` and `Mount.make` are what is done to the overlay of a handle, `Mount.seek`, `Mount.put` and
  `Mount.sync` what a seek, a write and a sync do.
* `Mount.Uses` says that the store is used within a relation.
* `Mount.error_of_seek` and its companions are about programs that fail.
* `Overlay.Dependable.Mounted` and `Overlay.Dependable.Ready` say that the overlay does not fail, now or once it is
  made; `Ready.seek`, `Ready.make` and their companions are about programs that succeed.
* `Overlay.Stored` says what bytes blocks hold that were stored one after the other.
* `Mount.Shows` says what blocks a store has.
-/

namespace PartitionImage

open PartitionImage.Action (Respects perform perform_bind_ok perform_bind_error perform_bind_inv)

namespace Overlay

variable {O : Type} [Overlay O]

namespace Mount

variable {mode : OpenMode} {blockSize total block count : Nat} {data : Bytes} {mount : Mount O} {disk : Disk}
  {error : Error}

/-! ### Programs -/

def withStore (mount : Mount O) (store : O) : Mount O := { mount with store := some store }

def call (act : Action (O × Disk) OverlayError Unit) : Action (Mount O × Disk) Error Unit := do
  if let some store := (← get).1.store then
    .zoom (fun state => (store, state.2)) (fun reached state => (state.1.withStore reached.1, reached.2)) .overlay act

/-- Moves the store to a block of `total`, or to the end. -/
def seek (total block : Nat) : Action (Mount O × Disk) Error Unit := do
  if total < block then throw (.outOfRange block total)
  call (Overlay.seek block)

def make (blockSize total : Nat) : Action (Mount O × Disk) Error Unit := do
  let (mount, _) ← get
  if mount.store.isNone then
    let store ← .zoom Prod.snd (fun disk state => (state.1, disk)) .overlay
      (makeOverlay mount.setup mount.path blockSize total)
    modify fun state => (state.1.withStore store, state.2)

/-- Stores `count` blocks from `block` on, as far as there are blocks. -/
def storeBlocks (blockSize total : Nat) : (block count : Nat) → Bytes → Action (Mount O × Disk) Error Unit
  | _, 0, _ => pure ()
  | block, count + 1, data => do
    if total ≤ block then throw (.outOfRange block total)
    call (Overlay.seek block)
    call (Overlay.write (data.take blockSize))
    storeBlocks blockSize total (block + 1) count (data.drop blockSize)

/-- Stores `data` as whole blocks from `block` on, in a store that is made for them if there is none. -/
def put (mode : OpenMode) (blockSize total block : Nat) (data : Bytes) : Action (Mount O × Disk) Error Unit := do
  if mode = .readOnly then throw (.invalidState .writable)
  if data.length % blockSize ≠ 0 then throw (.bufferSize data.length blockSize)
  make blockSize total
  storeBlocks blockSize total block (data.length / blockSize) data

def sync (mode : OpenMode) : Action (Mount O × Disk) Error Unit := do
  let (mount, _) ← get
  if mode = .readOnly ∨ mount.store.isNone then throw (.invalidState .writeReady)
  call Overlay.sync

theorem perform_call_none (hnone : mount.store = none) (act : Action (O × Disk) OverlayError Unit) (disk : Disk) :
    perform (call act) (mount, disk) = (.ok (), mount, disk) := by
  rw [call, perform_bind_ok (Action.perform_get _), hnone]
  rfl

theorem perform_call_some {store : O} (hstore : mount.store = some store) (act : Action (O × Disk) OverlayError Unit)
    (disk : Disk) :
    perform (call act) (mount, disk)
      = ((perform act (store, disk)).1.mapError .overlay, mount.withStore (perform act (store, disk)).2.1,
          (perform act (store, disk)).2.2) := by
  rw [call, perform_bind_ok (Action.perform_get _), hstore]
  dsimp only
  rw [Action.perform_zoom]

theorem perform_seek (total block : Nat) (state : Mount O × Disk) :
    perform (seek total block) state
      = if total < block then (.error (.outOfRange block total), state)
        else perform (call (Overlay.seek block)) state := by
  rw [seek]
  split
  · rfl
  · rfl

theorem perform_make_some {store : O} (hstore : mount.store = some store) (blockSize total : Nat) (disk : Disk) :
    perform (make blockSize total) (mount, disk) = (.ok (), mount, disk) := by
  rw [make, perform_bind_ok (Action.perform_get _)]
  dsimp only
  rw [hstore]
  rfl

theorem perform_make_none (hnone : mount.store = none) (blockSize total : Nat) (disk : Disk) :
    perform (make blockSize total) (mount, disk)
      = match perform (makeOverlay mount.setup mount.path blockSize total) disk with
        | (.error cause, after) => (.error (.overlay cause), mount, after)
        | (.ok store, after) => (.ok (), mount.withStore store, after) := by
  rw [make, perform_bind_ok (Action.perform_get _)]
  dsimp only
  rw [hnone, Option.isNone_none, if_pos rfl, Action.perform_bind, Action.perform_zoom]
  dsimp only
  rcases perform (makeOverlay mount.setup mount.path blockSize total) disk with ⟨result, after⟩
  cases result with
  | error cause => rfl
  | ok store => rfl

theorem perform_storeBlocks_succ {store : O} (hstore : mount.store = some store) (blockSize total block count : Nat)
    (data : Bytes) (disk : Disk) :
    perform (storeBlocks blockSize total block (count + 1) data) (mount, disk)
      = if total ≤ block then (.error (.outOfRange block total), mount, disk)
        else
          match perform (Overlay.seek block) (store, disk) with
          | (.error cause, sought) => (.error (.overlay cause), mount.withStore sought.1, sought.2)
          | (.ok (), sought) =>
            match perform (Overlay.write (data.take blockSize)) sought with
            | (.error cause, written) => (.error (.overlay cause), mount.withStore written.1, written.2)
            | (.ok (), written) =>
              perform (storeBlocks blockSize total (block + 1) count (data.drop blockSize))
                (mount.withStore written.1, written.2) := by
  rw [storeBlocks]
  by_cases hend : total ≤ block
  · rw [if_pos hend, if_pos hend]
    rfl
  · rw [if_neg hend, if_neg hend]
    show perform (call (Overlay.seek block) >>= fun _ => call (Overlay.write (data.take blockSize)) >>= fun _ =>
      storeBlocks blockSize total (block + 1) count (data.drop blockSize)) (mount, disk) = _
    rw [Action.perform_bind, perform_call_some hstore]
    rcases perform (Overlay.seek block) (store, disk) with ⟨result, sought, after⟩
    cases result with
    | error cause => rfl
    | ok done =>
      dsimp only [Except.mapError]
      rw [Action.perform_bind, perform_call_some rfl]
      rcases perform (Overlay.write (data.take blockSize)) (sought, after) with ⟨result, written⟩
      cases result with
      | error cause => rfl
      | ok done => rfl

theorem perform_put (mode : OpenMode) (blockSize total block : Nat) (data : Bytes) (state : Mount O × Disk) :
    perform (put mode blockSize total block data) state
      = if mode = .readOnly then (.error (.invalidState .writable), state)
        else if data.length % blockSize ≠ 0 then (.error (.bufferSize data.length blockSize), state)
        else perform (make blockSize total >>= fun _ =>
          storeBlocks blockSize total block (data.length / blockSize) data) state := by
  rw [put]
  split
  · rfl
  split
  · rfl
  · rfl

theorem perform_sync_refused (hrefused : ¬ (mode != .readOnly && mount.store.isSome) = true) (disk : Disk) :
    perform (sync mode) (mount, disk) = (.error (.invalidState .writeReady), mount, disk) := by
  have hcases : mode = .readOnly ∨ mount.store.isNone = true := by
    cases hstore : mount.store with
    | none => exact .inr rfl
    | some store =>
      refine .inl (by_contra fun hmode => hrefused ?_)
      rw [hstore, bne_iff_ne.mpr hmode]
      rfl
  rw [sync, perform_bind_ok (Action.perform_get _)]
  dsimp only
  rw [if_pos hcases]
  rfl

theorem perform_sync_some {store : O} (hstore : mount.store = some store) (hmode : mode ≠ .readOnly) (disk : Disk) :
    perform (sync mode) (mount, disk) = perform (call Overlay.sync) (mount, disk) := by
  rw [sync, perform_bind_ok (Action.perform_get _)]
  dsimp only
  rw [hstore, Option.isNone_some, if_neg (not_or.mpr ⟨hmode, Bool.false_ne_true⟩)]

/-! ### What is used -/

/-- Nothing of a mount is different but its store, within the relation. -/
structure Uses (rel : O × Disk → O × Disk → Prop) (before after : Mount O × Disk) : Prop where
  path : after.1.path = before.1.path
  used : Overlay.Used rel (before.1.store, before.2) (after.1.store, after.2)

variable {rel : O × Disk → O × Disk → Prop} [IsPreorder (O × Disk) rel]

theorem Uses.refl (state : Mount O × Disk) : Uses rel state state := ⟨rfl, .refl _⟩

theorem Uses.trans {a b c : Mount O × Disk} (hab : Uses rel a b) (hbc : Uses rel b c) : Uses rel a c :=
  ⟨hbc.path.trans hab.path, hab.used.trans hbc.used⟩

instance : Std.Refl (Uses rel) := ⟨Uses.refl⟩

instance : Trans (Uses rel) (Uses rel) (Uses rel) := ⟨Uses.trans⟩

theorem call_uses {act : Action (O × Disk) OverlayError Unit} (hact : Respects rel act) :
    Respects (Uses rel) (call act) := by
  rintro ⟨mount, disk⟩
  cases hstore : mount.store with
  | none =>
    rw [perform_call_none hstore]
    exact .refl _
  | some store =>
    rw [perform_call_some hstore]
    refine ⟨rfl, ?_⟩
    dsimp only
    rw [hstore]
    exact .some (hact (store, disk))

theorem seek_uses (hrel : Overlay.Reads rel) (total block : Nat) : Respects (Uses rel) (seek (O := O) total block) := by
  intro state
  rw [perform_seek]
  split
  · exact .refl state
  · exact call_uses (hrel.seek block) state

theorem storeBlocks_uses (hrel : Overlay.Writes rel) (blockSize total block count : Nat) (data : Bytes) :
    Respects (Uses rel) (storeBlocks (O := O) blockSize total block count data) := by
  induction count generalizing block data with
  | zero => exact .pure _
  | succ count ih =>
    have hblock : Respects (Uses rel) (call (Overlay.seek block) >>= fun _ =>
        call (Overlay.write (data.take blockSize)) >>= fun _ =>
          storeBlocks blockSize total (block + 1) count (data.drop blockSize)) :=
      .bind (call_uses (hrel.seek block)) fun _ => .bind (call_uses (hrel.write _)) fun _ => ih _ _
    rw [storeBlocks]
    split
    · exact .bind (.throw _) fun _ => hblock
    · exact hblock

theorem isSome_of_make {made : Mount O × Disk} (hmake : perform (make blockSize total) (mount, disk) = (.ok (), made)) :
    made.1.store.isSome = true := by
  cases hstore : mount.store with
  | some store =>
    rw [perform_make_some hstore] at hmake
    cases hmake
    exact Option.isSome_of_eq_some hstore
  | none =>
    rw [perform_make_none hstore] at hmake
    split at hmake
    · cases hmake
    · cases hmake
      rfl

theorem isSome_of_put {state after : Mount O × Disk}
    (hput : perform (put mode blockSize total block data) state = (.ok (), after)) : after.1.store.isSome = true := by
  rw [perform_put] at hput
  split at hput
  · cases hput
  split at hput
  · cases hput
  obtain ⟨_, made, hmake, hstored⟩ := perform_bind_inv hput
  have hused := ((storeBlocks_uses writes_unbound blockSize total block _ data).of_perform hstored).used
  rw [show after.1.store.isSome = made.1.store.isSome from hused.isSome_eq]
  exact isSome_of_make hmake

/-! ### Programs that fail -/

/-- The store was opened for a device, if there is one. -/
def Suits (blockSize total : Nat) (mount : Mount O) : Prop :=
  ∀ store, mount.store = some store → MadeFor blockSize total store

theorem suits_withStore {store : O} (h : MadeFor blockSize total store) (mount : Mount O) :
    (mount.withStore store).Suits blockSize total := by
  rintro _ ⟨⟩
  exact h

theorem Suits.make (h : mount.Suits blockSize total) {made : Mount O × Disk}
    (hmake : perform (make blockSize total) (mount, disk) = (.ok (), made)) : made.1.Suits blockSize total := by
  cases hstore : mount.store with
  | some store =>
    rw [perform_make_some hstore] at hmake
    cases hmake
    exact h
  | none =>
    rw [perform_make_none hstore] at hmake
    split at hmake
    · cases hmake
    · next hopen =>
      cases hmake
      exact suits_withStore (madeFor_of_make hopen) mount

/-- A failure of the overlay, which has nothing to do with its size where overlays have that of their image. -/
def Faulty (O : Type) [Overlay O] (error : Error) : Prop :=
  ∃ cause, error = .overlay cause ∧ (Measured O → cause.isRange = false)

theorem error_of_call_seek (h : mount.Suits blockSize total) (hblock : block ≤ total)
    (herror : (perform (call (Overlay.seek block)) (mount, disk)).1 = .error error) : Faulty O error := by
  cases hstore : mount.store with
  | none =>
    rw [perform_call_none hstore] at herror
    cases herror
  | some store =>
    rw [perform_call_some hstore] at herror
    obtain ⟨cause, hseek, rfl⟩ := Action.mapError_eq_error_iff.mp herror
    exact ⟨cause, rfl, fun hmeasured => hmeasured.seek (h store hstore) hblock hseek⟩

theorem error_of_seek (h : mount.Suits blockSize total) (hblock : block ≤ total)
    (herror : (perform (seek total block) (mount, disk)).1 = .error error) : Faulty O error := by
  rw [perform_seek, if_neg (Nat.not_lt.mpr hblock)] at herror
  exact error_of_call_seek h hblock herror

theorem error_of_make (herror : (perform (make blockSize total) (mount, disk)).1 = .error error) : Faulty O error := by
  cases hstore : mount.store with
  | some store =>
    rw [perform_make_some hstore] at herror
    cases herror
  | none =>
    rw [perform_make_none hstore] at herror
    split at herror
    · next cause after hmake =>
      cases herror
      exact ⟨cause, rfl, fun hmeasured => hmeasured.make disk cause (congrArg Prod.fst hmake)⟩
    · cases herror

theorem error_of_sync (hmode : mode ≠ .readOnly) (hsome : mount.store.isSome = true)
    (herror : (perform (sync mode) (mount, disk)).1 = .error error) : Faulty O error := by
  obtain ⟨store, hstore⟩ := Option.isSome_iff_exists.mp hsome
  rw [perform_sync_some hstore hmode, perform_call_some hstore] at herror
  obtain ⟨cause, hsync, rfl⟩ := Action.mapError_eq_error_iff.mp herror
  exact ⟨cause, rfl, fun hmeasured => hmeasured.sync (store, disk) cause hsync⟩

/-- **Blocks within the device are in range of a store that was opened for it.** -/
theorem error_of_storeBlocks {store : O} (hstore : mount.store = some store) (h : MadeFor blockSize total store)
    (hcount : block + count ≤ total) (hdata : count * blockSize ≤ data.length)
    (herror : (perform (storeBlocks blockSize total block count data) (mount, disk)).1 = .error error) :
    Faulty O error := by
  induction count generalizing mount store disk block data with
  | zero => cases herror
  | succ count ih =>
    rw [Nat.succ_mul] at hdata
    rw [perform_storeBlocks_succ hstore, if_neg (by omega)] at herror
    split at herror
    · next cause sought hseek =>
      cases herror
      exact ⟨cause, rfl, fun hmeasured => hmeasured.seek h (Nat.le_of_add_right_le hcount) (congrArg Prod.fst hseek)⟩
    · next sought hseek =>
      have hsought : MadeFor blockSize total sought.1 := by
        have hcalled := MadeFor.called h (.seek block (store, disk))
        rw [hseek] at hcalled
        exact hcalled
      split at herror
      · next cause written hwrite =>
        cases herror
        exact ⟨cause, rfl, fun hmeasured => hmeasured.write h (by omega) hseek
          (List.length_take_of_le (Nat.le_of_add_left_le hdata)) (congrArg Prod.fst hwrite)⟩
      · next written hwrite =>
        have hwritten := MadeFor.called hsought (.write (data.take blockSize) sought)
        rw [hwrite] at hwritten
        refine ih rfl hwritten (by omega) ?_ herror
        rw [List.length_drop]
        omega

/-- So are those that are put in a store, whether it was there before or not. -/
theorem error_of_put (h : mount.Suits blockSize total) (hmode : mode ≠ .readOnly)
    (hwhole : data.length % blockSize = 0) (hcount : block + data.length / blockSize ≤ total)
    (herror : (perform (put mode blockSize total block data) (mount, disk)).1 = .error error) : Faulty O error := by
  rw [perform_put, if_neg hmode, if_neg (Decidable.not_not.mpr hwhole)] at herror
  rcases hmake : perform (make blockSize total) (mount, disk) with ⟨result, made, after⟩
  cases result with
  | error fault =>
    rw [perform_bind_error hmake] at herror
    cases herror
    exact error_of_make (congrArg Prod.fst hmake)
  | ok done =>
    obtain ⟨store, hstore⟩ := Option.isSome_iff_exists.mp (isSome_of_make hmake)
    rw [perform_bind_ok hmake] at herror
    exact error_of_storeBlocks hstore (h.make hmake store hstore) hcount (Nat.div_mul_le_self _ _) herror

end Mount

/-! ### Programs that succeed -/

section

variable {blocks : Nat → Option Bytes} {blockSize block count : Nat} {data : Bytes}

/-- The bytes are what `count` blocks of a table hold, from `block` on. -/
def Stored (blocks : Nat → Option Bytes) (blockSize block count : Nat) (data : Bytes) : Prop :=
  ∀ place, place < count → blocks (block + place) = some (data.slice (place * blockSize) blockSize)

theorem Stored.head (h : Stored blocks blockSize block (count + 1) data) :
    blocks block = some (data.take blockSize) := by
  have hfirst := h 0 (Nat.succ_pos count)
  rw [Nat.zero_mul] at hfirst
  exact hfirst

theorem Stored.tail (h : Stored blocks blockSize block (count + 1) data) :
    Stored blocks blockSize (block + 1) count (data.drop blockSize) := by
  intro place hplace
  have hnext := h (place + 1) (Nat.succ_lt_succ hplace)
  rw [Nat.succ_mul, Nat.add_comm (place * blockSize), Bytes.slice, ← List.drop_drop] at hnext
  rw [Nat.add_assoc, Nat.add_comm 1]
  exact hnext

/-- Blocks that take the place of others hold their part of the bytes. -/
theorem stored_replaced {start place : Nat} (hplace : start + place ≤ count) :
    Stored (Ground.replaced blocks blockSize block count data) blockSize (block + start) place
      (data.drop (start * blockSize)) := by
  intro asked hasked
  rw [Ground.replaced, if_pos (by omega), Nat.add_assoc, Nat.add_sub_cancel_left, Bytes.slice, Bytes.slice,
    List.drop_drop, ← Nat.add_mul]

end

namespace Dependable

variable {blockSize total : Nat} {backing : Backing} {origin : Disk} {blocks : Nat → Option Bytes}
  {state : Mount O × Disk}

/-- There is a store, and it has the blocks of a table.  Its cursor may be anywhere. -/
def Mounted (dependable : Dependable O blockSize total backing origin) (blocks : Nat → Option Bytes)
    (state : Mount O × Disk) : Prop :=
  ∃ store cursor, state.1.store = some store ∧ dependable.has ⟨blocks, cursor⟩ (store, state.2)

/-- There is a store that has the blocks of a table, or one can be made. -/
def Ready (dependable : Dependable O blockSize total backing origin) (blocks : Nat → Option Bytes)
    (state : Mount O × Disk) : Prop :=
  dependable.Mounted blocks state
    ∨ state.1.store = none ∧ ∃ store disk cursor,
      perform (makeOverlay state.1.setup state.1.path blockSize total) state.2 = (.ok store, disk)
        ∧ dependable.has ⟨blocks, cursor⟩ (store, disk)

variable {dependable : Dependable O blockSize total backing origin}

theorem Mounted.seek (h : dependable.Mounted blocks state) {block : Nat} (hblock : block ≤ total) :
    ∃ after, perform (Mount.seek total block) state = (.ok (), after) ∧ dependable.Mounted blocks after := by
  obtain ⟨mount, disk⟩ := state
  obtain ⟨store, cursor, hstore, hhas⟩ := h
  obtain ⟨sought, hseek, hsought⟩ := dependable.seek hhas hblock
  rw [Mount.perform_seek, if_neg (Nat.not_lt.mpr hblock), Mount.perform_call_some hstore, hseek]
  exact ⟨_, rfl, _, _, rfl, hsought⟩

theorem Ready.seek (h : dependable.Ready blocks state) {block : Nat} (hblock : block ≤ total) :
    ∃ after, perform (Mount.seek total block) state = (.ok (), after) ∧ dependable.Ready blocks after := by
  rcases h with hmounted | ⟨hnone, hmake⟩
  · obtain ⟨after, hseek, hafter⟩ := hmounted.seek hblock
    exact ⟨after, hseek, .inl hafter⟩
  · obtain ⟨mount, disk⟩ := state
    rw [Mount.perform_seek, if_neg (Nat.not_lt.mpr hblock), Mount.perform_call_none hnone]
    exact ⟨_, rfl, .inr ⟨hnone, hmake⟩⟩

theorem Ready.make (h : dependable.Ready blocks state) :
    ∃ after, perform (Mount.make blockSize total) state = (.ok (), after) ∧ dependable.Mounted blocks after := by
  obtain ⟨mount, disk⟩ := state
  rcases h with ⟨store, cursor, hstore, hhas⟩ | ⟨hnone, store, made, cursor, hmake, hhas⟩
  · rw [Mount.perform_make_some hstore]
    exact ⟨_, rfl, store, cursor, hstore, hhas⟩
  · rw [Mount.perform_make_none hnone, hmake]
    exact ⟨_, rfl, store, cursor, rfl, hhas⟩

/-- **Blocks that are stored are those of the table from then on.** -/
theorem Mounted.storeBlocks (h : dependable.Mounted blocks state) {block count : Nat} {data : Bytes}
    (hcount : block + count ≤ total) (hdata : count * blockSize ≤ data.length) :
    ∃ after, perform (Mount.storeBlocks blockSize total block count data) state = (.ok (), after)
      ∧ dependable.Mounted (Ground.replaced blocks blockSize block count data) after := by
  induction count generalizing blocks state block data with
  | zero =>
    rw [Ground.replaced_zero]
    exact ⟨state, rfl, h⟩
  | succ count ih =>
    obtain ⟨mount, disk⟩ := state
    obtain ⟨store, cursor, hstore, hhas⟩ := h
    rw [Nat.succ_mul] at hdata
    obtain ⟨sought, hseek, hsought⟩ := dependable.seek hhas (Nat.le_of_add_right_le hcount)
    obtain ⟨written, hwrite, hwritten⟩ := dependable.write hsought (show block < total by omega)
      (List.length_take_of_le (Nat.le_of_add_left_le hdata))
    have hstored : dependable.Mounted ((⟨blocks, block⟩ : BlockTable).store (data.take blockSize)).blocks
        (mount.withStore written.1, written.2) := ⟨_, _, rfl, hwritten⟩
    have hrest : count * blockSize ≤ (data.drop blockSize).length := by
      rw [List.length_drop]
      omega
    obtain ⟨after, hrun, hafter⟩ := ih hstored (show block + 1 + count ≤ total by omega) hrest
    rw [Mount.perform_storeBlocks_succ hstore, if_neg (by omega), hseek]
    dsimp only
    rw [hwrite]
    refine ⟨after, hrun, ?_⟩
    have hreplaced : Ground.replaced ((⟨blocks, block⟩ : BlockTable).store (data.take blockSize)).blocks blockSize
        (block + 1) count (data.drop blockSize) = Ground.replaced blocks blockSize block (count + 1) data := by
      funext asked
      exact Ground.replaced_succ rfl count
    rw [← hreplaced]
    exact hafter

/-- So are those that are put in a store that can be had. -/
theorem Ready.put (h : dependable.Ready blocks state) {mode : OpenMode} (hmode : mode ≠ .readOnly) {block : Nat}
    {data : Bytes} (hwhole : data.length % blockSize = 0) (hcount : block + data.length / blockSize ≤ total) :
    ∃ after, perform (Mount.put mode blockSize total block data) state = (.ok (), after)
      ∧ dependable.Mounted (Ground.replaced blocks blockSize block (data.length / blockSize) data) after := by
  obtain ⟨made, hmake, hmade⟩ := h.make
  obtain ⟨after, hstore, hafter⟩ := hmade.storeBlocks hcount (Nat.div_mul_le_self _ _)
  rw [Mount.perform_put, if_neg hmode, if_neg (Decidable.not_not.mpr hwhole)]
  exact ⟨after, (perform_bind_ok hmake).trans hstore, hafter⟩

theorem Mounted.read {mount : Mount O} {disk : Disk} (h : dependable.Mounted blocks (mount, disk)) {block : Nat}
    (hblock : block < total) {bytes : Bytes} (hbytes : blocks block = some bytes) :
    ∃ store sought after, mount.store = some store ∧ perform (Overlay.seek block) (store, disk) = (.ok (), sought)
      ∧ (Overlay.read blockSize).run sought = (⟨bytes, .ok .found⟩, after)
      ∧ dependable.Mounted blocks (mount.withStore after.1, after.2) := by
  obtain ⟨store, cursor, hstore, hhas⟩ := h
  obtain ⟨sought, hseek, hsought⟩ := dependable.seek hhas (Nat.le_of_lt hblock)
  obtain ⟨transfer, after, hread, hanswer, hafter⟩ := dependable.read hsought hblock
  rw [show BlockTable.blocks _ _ = some bytes from hbytes] at hanswer
  rw [show transfer = _ from hanswer] at hread
  exact ⟨store, sought, after, hstore, hseek, hread, _, _, rfl, hafter⟩

/-- **Blocks that are made to last are found again**, if the overlay keeps to that. -/
theorem Mounted.sync (h : dependable.Mounted blocks state) {mode : OpenMode} (hmode : mode ≠ .readOnly) :
    ∃ after, perform (Mount.sync mode) state = (.ok (), after) ∧ dependable.Mounted blocks after
      ∧ ∀ setup path, dependable.Lasting setup path → ∃ store disk,
        perform (Overlay.init setup path blockSize total) after.2 = (.ok store, disk)
          ∧ dependable.has ⟨blocks, 0⟩ (store, disk) := by
  obtain ⟨mount, disk⟩ := state
  obtain ⟨store, cursor, hstore, hhas⟩ := h
  obtain ⟨synced, hsync, hsynced⟩ := dependable.sync hhas
  rw [Mount.perform_sync_some hstore hmode, Mount.perform_call_some hstore, hsync]
  exact ⟨_, rfl, ⟨_, _, rfl, hsynced⟩, fun setup path hlasting => hlasting hhas hsync⟩

end Dependable

/-- What blocks a mount has: those that its store shows.  Without a store there are none. -/
def Mount.Shows (blockSize total : Nat) (stored : Nat → Option Bytes) (mount : Mount O) (disk : Disk) : Prop :=
  match mount.store with
  | none => ∀ block, block < total → stored block = none
  | some store => Overlay.Shows store disk blockSize total stored

end Overlay

end PartitionImage
