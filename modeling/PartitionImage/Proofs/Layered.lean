import PartitionImage.Proofs.Handles
import PartitionImage.Proofs.Mount
/-!
# Devices that keep their changes in an overlay

A call on a verified handle of either type is a program on its overlay, besides what is read of the image.  What holds
of these programs holds of the handles of both types.

* `Mount.Follows` says that a call does to the overlay what a program does.
* `BlockDevice.Layered` is what the verified handles of both types have in common.
* `BlockDevice.Layered.within` is about a device that is made part of another one.
-/

namespace PartitionImage

open PartitionImage.Action (perform)
open PartitionImage.Overlay (Dependable Mount writes_unbound)

variable {D O : Type} [BlockDevice D] [Overlay O] {source : D → Source} {mount : D → Mount O}

/-! ### Calls and programs -/

namespace Overlay.Mount

/-- A call does to the overlay of a handle what `plan` does, and nothing to its source.  If it succeeds the handle is
at `cursor`. -/
structure Follows (source : D → Source) (mount : D → Mount O) (plan : Action (Mount O × Disk) Error Unit)
    (act : Action (D × World) Error Unit) (cursor : Nat) (state : D × World) : Prop where
  plan_eq : perform plan (mount state.1, state.2.disk)
    = ((perform act state).1, mount (perform act state).2.1, (perform act state).2.2.disk)
  source_eq : source (perform act state).2.1 = source state.1
  tell_eq : (perform act state).1 = .ok () → BlockDevice.tell? (perform act state).2.1 = some cursor

variable {plan : Action (Mount O × Disk) Error Unit} {act : Action (D × World) Error Unit} {cursor : Nat}
  {state reached : D × World} {result : Except Error Unit}

theorem follows_of_perform (hact : perform act state = (result, reached))
    (hplan : perform plan (mount state.1, state.2.disk) = (result, mount reached.1, reached.2.disk))
    (hsource : source reached.1 = source state.1)
    (htell : result = .ok () → BlockDevice.tell? reached.1 = some cursor) :
    Follows source mount plan act cursor state := by
  refine ⟨?_, ?_, ?_⟩
  · rw [hact]
    exact hplan
  · rw [hact]
    exact hsource
  · rw [hact]
    exact htell

theorem follows_of_error {error : Error} (hact : perform act state = (.error error, reached))
    (hplan : perform plan (mount state.1, state.2.disk) = (.error error, mount reached.1, reached.2.disk))
    (hsource : source reached.1 = source state.1) : Follows source mount plan act cursor state :=
  follows_of_perform hact hplan hsource fun hok => by cases hok

theorem Follows.of_rest {next : D × World} {rest : Action (Mount O × Disk) Error Unit}
    {restAct : Action (D × World) Error Unit} (h : Follows source mount rest restAct cursor next)
    (hact : perform act state = perform restAct next)
    (hplan : perform plan (mount state.1, state.2.disk) = perform rest (mount next.1, next.2.disk))
    (hsource : source next.1 = source state.1) : Follows source mount plan act cursor state :=
  follows_of_perform hact (hplan.trans h.plan_eq) (h.source_eq.trans hsource) h.tell_eq

namespace Follows

variable (h : Follows source mount plan act cursor state)

include h

theorem inv (hact : perform act state = (result, reached)) :
    perform plan (mount state.1, state.2.disk) = (result, mount reached.1, reached.2.disk) := by
  have hplan := h.plan_eq
  rw [hact] at hplan
  exact hplan

theorem source_inv (hact : perform act state = (result, reached)) : source reached.1 = source state.1 := by
  have hsource := h.source_eq
  rw [hact] at hsource
  exact hsource

theorem tell_inv (hact : perform act state = (.ok (), reached)) : BlockDevice.tell? reached.1 = some cursor := by
  have htell := h.tell_eq
  rw [hact] at htell
  exact htell rfl

theorem ok {after : Mount O × Disk} (hplan : perform plan (mount state.1, state.2.disk) = (.ok (), after)) :
    ∃ reached, perform act state = (.ok (), reached) ∧ (mount reached.1, reached.2.disk) = after
      ∧ BlockDevice.tell? reached.1 = some cursor := by
  rcases hact : perform act state with ⟨result, reached⟩
  obtain ⟨rfl, rfl⟩ := Prod.mk.inj ((h.inv hact).symm.trans hplan)
  exact ⟨reached, rfl, rfl, h.tell_inv hact⟩

end Follows

end Overlay.Mount

/-! ### Devices -/

namespace BlockDevice

/-- To let go of a handle is to release its overlay, whether a failure is reported or not. -/
structure Releases (mount : D → Mount O) (state : D × World) : Prop where
  close : (perform (BlockDevice.close state.1) state.2).2.disk = Overlay.released (mount state.1).store state.2.disk
  drop : ((BlockDevice.drop state.1).run state.2).2.disk = Overlay.released (mount state.1).store state.2.disk

theorem Releases.ending {state : D × World} (h : Releases mount state) (post : Disk → Prop) (hkept : post state.2.disk)
    (hreleased : post (Overlay.released (mount state.1).store state.2.disk)) (ending : Ending) :
    post (ending.after state).disk := by
  refine ending_of_close (h.drop.trans h.close.symm) post hkept ?_ ending
  rw [h.close]
  exact hreleased

/-- Handles on a device of `total` blocks, verified and opened for a mode, whose calls are programs on the overlay. -/
structure Layered (source : D → Source) (mount : D → Mount O) (mode : OpenMode) (blockSize total : Nat)
    (handles : D × World → Prop) : Prop where
  blockSize_pos : 0 < blockSize
  blockSize_eq : ∀ {state}, handles state → blockSize? state.1 = some blockSize
  blockCount_eq : ∀ {state}, handles state → blockCount? state.1 = some total
  tell : ∀ {state}, handles state → ∃ cursor, tell? state.1 = some cursor
  suits : ∀ {state}, handles state → (mount state.1).Suits blockSize total
  readOnly : ∀ {state}, handles state → mode = .readOnly → (mount state.1).store = none
  after : ∀ {state}, handles state → ∀ operation : Operation, handles (operation.after state)
  seek : ∀ {state}, handles state → ∀ block,
    Mount.Follows source mount (Mount.seek total block) (BlockDevice.seek block) block state
  write : ∀ {state cursor}, handles state → tell? state.1 = some cursor → ∀ data,
    Mount.Follows source mount (Mount.put mode blockSize total cursor data) (BlockDevice.write data)
      (cursor + data.length / blockSize) state
  sync : ∀ {state cursor}, handles state → tell? state.1 = some cursor →
    Mount.Follows source mount (Mount.sync mode) BlockDevice.sync cursor state
  /-- Only a write attaches an overlay. -/
  uses : ∀ {rel : O × Disk → O × Disk → Prop} [IsPreorder (O × Disk) rel], Overlay.Writes rel →
    ∀ {state}, handles state → ∀ {operation : Operation}, (∀ data, operation ≠ .write data) →
      (source state.1).Later (source (operation.after state).1)
        ∧ Mount.Uses rel (mount state.1, state.2.disk)
          (mount (operation.after state).1, (operation.after state).2.disk)
  releases : ∀ {state}, handles state → Releases mount state
  /-- Blocks that the overlay has are read as they were stored. -/
  mounted : ∀ {backing : Backing} {origin : Disk} {dependable : Dependable O blockSize total backing origin}
    {blocks state block count data}, handles state → dependable.Mounted blocks (mount state.1, state.2.disk) →
      block + count ≤ total → tell? state.1 = some block → Overlay.Stored blocks blockSize block count data →
        ((read (count * blockSize)).run state).1 = .complete (data.take (count * blockSize))
  shown : ∀ {stored state block bytes}, handles state →
    (mount state.1).Shows blockSize total stored state.2.disk → block < total → stored block = some bytes →
      ((readAt block blockSize).run state).1 = .complete bytes
  /-- A block that the overlay does not have is read from the source. -/
  alike : ∀ {stored storedOther state other block}, handles state → handles other →
    (mount state.1).Shows blockSize total stored state.2.disk →
    (mount other.1).Shows blockSize total storedOther other.2.disk → block < total →
    stored block = none → storedOther block = none →
    (∀ offset n, ((source other.1).readExact other.2.disk offset n).1
      = ((source state.1).readExact state.2.disk offset n).1) →
      ((readAt block blockSize).run other).1 = ((readAt block blockSize).run state).1
  past : ∀ {stored state block}, handles state → (mount state.1).Shows blockSize total stored state.2.disk →
    total ≤ block → ((readAt block blockSize).run state).1 = .failed (.outOfRange block total)

theorem Releases.within {E : Type} [BlockDevice E] {embed : D → E} {whole : E → Mount O} {device : D} {world : World}
    (h : Releases mount (device, world)) (hembeds : BlockDevice.Embeds embed)
    (hmount : ∀ device, whole (embed device) = mount device) : Releases whole (embed device, world) := by
  constructor
  · dsimp only
    rw [hembeds.close, hmount]
    exact h.close
  · dsimp only
    rw [hembeds.drop, hmount]
    exact h.drop

namespace Layered

variable {mode : OpenMode} {blockSize total : Nat} {handles : D × World → Prop} {state reached : D × World}
  {result : Except Error Unit}

theorem sought (h : Layered source mount mode blockSize total handles) (hstate : handles state) {block : Nat}
    (hseek : perform (BlockDevice.seek block) state = (result, reached)) : handles reached := by
  have hafter := h.after hstate (.seek block)
  rw [Operation.after, hseek] at hafter
  exact hafter

theorem written (h : Layered source mount mode blockSize total handles) (hstate : handles state) {data : Bytes}
    (hwrite : perform (BlockDevice.write data) state = (result, reached)) : handles reached := by
  have hafter := h.after hstate (.write data)
  rw [Operation.after, hwrite] at hafter
  exact hafter

theorem synced (h : Layered source mount mode blockSize total handles) (hstate : handles state)
    (hsync : perform BlockDevice.sync state = (result, reached)) : handles reached := by
  have hafter := h.after hstate .sync
  rw [Operation.after, hsync] at hafter
  exact hafter

/-- No call is felt by the source but that it is read. -/
theorem later_after (h : Layered source mount mode blockSize total handles) (hstate : handles state)
    (operation : Operation) : (source state.1).Later (source (operation.after state).1) := by
  by_cases hother : ∀ data, operation ≠ .write data
  · exact (h.uses writes_unbound hstate hother).1
  · obtain ⟨data, rfl⟩ := not_forall_not.mp hother
    obtain ⟨cursor, htell⟩ := h.tell hstate
    have hsource : source ((Operation.write data).after state).1 = source state.1 :=
      (h.write hstate htell data).source_eq
    rw [hsource]
    exact .refl _

/-- **Whatever is called of a handle, it is one on the device**, and its source is only read. -/
theorem run (h : Layered source mount mode blockSize total handles) (hstate : handles state)
    (operations : List Operation) : handles (Operation.run operations state)
      ∧ (source state.1).Later (source (Operation.run operations state).1) :=
  @Operation.run_induction _ _ (fun reached => handles reached ∧ (source state.1).Later (source reached.1)) state
    ⟨hstate, .refl _⟩ (fun ⟨hreached, hlater⟩ operation =>
      ⟨h.after hreached operation, hlater.trans (h.later_after hreached operation)⟩) operations

/-! ### Devices that are made part of others -/

variable {E : Type} [BlockDevice E] {embed : D → E} {wholeSource : E → Source} {whole : E → Mount O}

/-- What a call on a device follows, the call on one that it is made part of does. -/
theorem follows_within (hembeds : BlockDevice.Embeds embed)
    (hsource : ∀ device, wholeSource (embed device) = source device)
    (hmount : ∀ device, whole (embed device) = mount device) {plan : Action (Mount O × Disk) Error Unit}
    {act : Action (D × World) Error Unit} {outer : Action (E × World) Error Unit} {cursor : Nat}
    (h : Mount.Follows source mount plan act cursor state)
    (houter : perform outer (Prod.map embed id state)
      = ((perform act state).1, Prod.map embed id (perform act state).2)) :
    Mount.Follows wholeSource whole plan outer cursor (Prod.map embed id state) := by
  refine Mount.follows_of_perform houter ?_ ?_ fun hok => (hembeds.tell? _).trans (h.tell_eq hok)
  · show perform plan (whole (embed state.1), state.2.disk) = (_, whole (embed _), _)
    rw [hmount, hmount]
    exact h.plan_eq
  · show wholeSource (embed _) = wholeSource (embed _)
    rw [hsource, hsource]
    exact h.source_eq

/-- **Handles of a device are handles of one that it is made part of.** -/
theorem within (h : Layered source mount mode blockSize total handles) (hembeds : BlockDevice.Embeds embed)
    (hsource : ∀ device, wholeSource (embed device) = source device)
    (hmount : ∀ device, whole (embed device) = mount device) :
    Layered wholeSource whole mode blockSize total (BlockDevice.Within embed handles) where
  blockSize_pos := h.blockSize_pos
  blockSize_eq := by
    rintro ⟨_, world⟩ ⟨device, hstate, rfl⟩
    exact (hembeds.blockSize? device).trans (h.blockSize_eq hstate)
  blockCount_eq := by
    rintro ⟨_, world⟩ ⟨device, hstate, rfl⟩
    exact (hembeds.blockCount? device).trans (h.blockCount_eq hstate)
  tell := by
    rintro ⟨_, world⟩ ⟨device, hstate, rfl⟩
    obtain ⟨cursor, htell⟩ := h.tell hstate
    exact ⟨cursor, (hembeds.tell? device).trans htell⟩
  suits := by
    rintro ⟨_, world⟩ ⟨device, hstate, rfl⟩
    dsimp only
    rw [hmount]
    exact h.suits hstate
  readOnly := by
    rintro ⟨_, world⟩ ⟨device, hstate, rfl⟩ hmode
    exact (congrArg Mount.store (hmount device)).trans (h.readOnly hstate hmode)
  after := by
    rintro ⟨_, world⟩ ⟨device, hstate, rfl⟩ operation
    rw [show (embed device, world) = Prod.map embed id (device, world) from rfl, hembeds.after]
    exact ⟨_, h.after hstate operation, rfl⟩
  seek := by
    rintro ⟨_, world⟩ ⟨device, hstate, rfl⟩ block
    exact follows_within hembeds hsource hmount (h.seek hstate block) (hembeds.seek block device world)
  write := by
    rintro ⟨_, world⟩ cursor ⟨device, hstate, rfl⟩ htell data
    exact follows_within hembeds hsource hmount (h.write hstate ((hembeds.tell? device).symm.trans htell) data)
      (hembeds.write data device world)
  sync := by
    rintro ⟨_, world⟩ cursor ⟨device, hstate, rfl⟩ htell
    exact follows_within hembeds hsource hmount (h.sync hstate ((hembeds.tell? device).symm.trans htell))
      (hembeds.sync device world)
  uses := by
    rintro rel _ hrel ⟨_, world⟩ ⟨device, hstate, rfl⟩ operation hother
    rw [show (embed device, world) = Prod.map embed id (device, world) from rfl, hembeds.after]
    have huses := h.uses hrel hstate hother
    dsimp only [Prod.map]
    rw [hsource, hsource, hmount, hmount]
    exact huses
  releases := by
    rintro ⟨_, world⟩ ⟨device, hstate, rfl⟩
    exact (h.releases hstate).within hembeds hmount
  mounted := by
    rintro backing origin dependable blocks ⟨_, world⟩ block count data ⟨device, hstate, rfl⟩ hmounted hcount htell
      hstored
    dsimp only at hmounted
    rw [hmount] at hmounted
    exact (congrArg Prod.fst (hembeds.read _ device world)).trans
      (h.mounted hstate hmounted hcount ((hembeds.tell? device).symm.trans htell) hstored)
  shown := by
    rintro stored ⟨_, world⟩ block bytes ⟨device, hstate, rfl⟩ hshows hblock hbytes
    dsimp only at hshows
    rw [hmount] at hshows
    exact (hembeds.run_readAt block blockSize (device, world)).trans (h.shown hstate hshows hblock hbytes)
  alike := by
    rintro stored storedOther ⟨_, world⟩ ⟨_, other⟩ block ⟨device, hstate, rfl⟩ ⟨device', hother, rfl⟩ hshows hshows'
      hblock hnone hnone' hread
    dsimp only at hshows hshows' hread
    rw [hmount] at hshows hshows'
    rw [hsource, hsource] at hread
    exact (hembeds.run_readAt block blockSize (device', other)).trans <|
      (h.alike hstate hother hshows hshows' hblock hnone hnone' hread).trans
        (hembeds.run_readAt block blockSize (device, world)).symm
  past := by
    rintro stored ⟨_, world⟩ block ⟨device, hstate, rfl⟩ hshows hend
    dsimp only at hshows
    rw [hmount] at hshows
    exact (hembeds.run_readAt block blockSize (device, world)).trans (h.past hstate hshows hend)

end Layered

end BlockDevice

end PartitionImage
