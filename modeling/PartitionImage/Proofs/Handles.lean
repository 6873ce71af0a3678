import PartitionImage.Patch
import PartitionImage.Proofs.Export
import PartitionImage.Proofs.Site
/-!
# Handles that keep changes

What patches and exports need of a handle on an image: that blocks which are written are among its changes, that it
lets go of them when it is closed, and that they are read before what is in the image.

* `perform_patch` is what a patch does, `patch_eq_ok_iff` one that succeeds.
* `BlockDevice.Exportable` is a handle that can be read while another file is written.
* `Site.Handles` says so of the handles of a device, `Site.Handles.within` of a device that they are made part of.
* `Site.Handles.patch` is a patch, `Site.Handles.exportDevice` an export.
-/

namespace PartitionImage

open PartitionImage.Action (perform perform_bind_ok)

/-- A patch is checked, and then its operations follow each other as far as they succeed. -/
theorem perform_patch {D : Type} [BlockDevice D] {state : D × World} {blockSize total : Nat}
    (hblockSize : BlockDevice.blockSize? state.1 = some blockSize)
    (hblockCount : BlockDevice.blockCount? state.1 = some total) (first : Nat) (data : Bytes) :
    perform (patch first data) state
      = if data.length % blockSize ≠ 0 then (.error (.partialBlock data.length blockSize), state)
        else if total < saturate64 (first + data.length / blockSize) then
          (.error (.outOfRange first (saturate64 (first + data.length / blockSize)) total), state)
        else
          match perform (BlockDevice.seek first) state with
          | (.error cause, sought) => (.error (.write cause), sought)
          | (.ok (), sought) =>
            match perform (BlockDevice.write data) sought with
            | (.error cause, written) => (.error (.write cause), written)
            | (.ok (), written) =>
              match perform BlockDevice.sync written with
              | (.error cause, synced) => (.error (.sync cause), synced)
              | (.ok (), synced) => (.ok (data.length / blockSize), synced) := by
  rw [patch, perform_bind_ok (Action.perform_get state)]
  dsimp only
  rw [hblockSize]
  dsimp only
  rw [hblockCount]
  dsimp only
  split
  · rfl
  split
  · rfl
  rw [Action.perform_bind, Action.perform_zoom]
  dsimp only [id]
  rcases perform (BlockDevice.seek first) state with ⟨result, sought⟩
  cases result with
  | error cause => rfl
  | ok done =>
    dsimp only [Except.mapError]
    rw [Action.perform_bind, Action.perform_zoom]
    dsimp only [id]
    rcases perform (BlockDevice.write data) sought with ⟨result, written⟩
    cases result with
    | error cause => rfl
    | ok done =>
      dsimp only [Except.mapError]
      rw [Action.perform_bind, Action.perform_zoom]
      dsimp only [id]
      rcases perform BlockDevice.sync written with ⟨result, synced⟩
      cases result with
      | error cause => rfl
      | ok done => rfl

/-- A patch succeeds if it is one of whole blocks within the image, and its operations do. -/
theorem patch_eq_ok_iff {D : Type} [BlockDevice D] {state reached : D × World} {blockSize total first count : Nat}
    {data : Bytes} (hblockSize : BlockDevice.blockSize? state.1 = some blockSize)
    (hblockCount : BlockDevice.blockCount? state.1 = some total) :
    perform (patch first data) state = (.ok count, reached)
      ↔ data.length % blockSize = 0 ∧ saturate64 (first + data.length / blockSize) ≤ total
        ∧ count = data.length / blockSize
        ∧ ∃ sought written, perform (BlockDevice.seek first) state = (.ok (), sought)
          ∧ perform (BlockDevice.write data) sought = (.ok (), written)
          ∧ perform BlockDevice.sync written = (.ok (), reached) := by
  rw [perform_patch hblockSize hblockCount]
  constructor
  · intro hpatch
    split at hpatch
    · cases hpatch
    · next hwhole =>
      split at hpatch
      · cases hpatch
      · next hstop =>
        split at hpatch
        · cases hpatch
        · next sought hseek =>
          split at hpatch
          · cases hpatch
          · next written hwrite =>
            split at hpatch
            · cases hpatch
            · next synced hsync =>
              cases hpatch
              exact ⟨Decidable.not_not.mp hwhole, Nat.not_lt.mp hstop, rfl, sought, written, hseek, hwrite, hsync⟩
  · rintro ⟨hwhole, hstop, rfl, sought, written, hseek, hwrite, hsync⟩
    rw [if_neg (Decidable.not_not.mpr hwhole), if_neg (Nat.not_lt.mpr hstop), hseek]
    dsimp only
    rw [hwrite]
    dsimp only
    rw [hsync]

theorem run_of_patch {D : Type} [BlockDevice D] {state reached : D × World} {blockSize total first count : Nat}
    {data : Bytes} (hblockSize : BlockDevice.blockSize? state.1 = some blockSize)
    (hblockCount : BlockDevice.blockCount? state.1 = some total)
    (hpatch : perform (patch first data) state = (.ok count, reached)) :
    Operation.run [.seek first, .write data, .sync] state = reached := by
  obtain ⟨-, -, -, sought, written, hseek, hwrite, hsync⟩ := (patch_eq_ok_iff hblockSize hblockCount).mp hpatch
  show (perform BlockDevice.sync (perform (BlockDevice.write data) (perform (BlockDevice.seek first) state).2).2).2
    = reached
  rw [hseek, hwrite, hsync]

theorem Export.shown_getD (blocks : Nat → Option Bytes) (filler : Bytes) (blockSize block : Nat) :
    Export.shown (fun block => (blocks block).isSome) (fun block => (blocks block).getD filler) blockSize block
      = (blocks block).getD (List.replicate blockSize 0) := by
  rw [Export.shown]
  cases blocks block with
  | none => rfl
  | some bytes => rfl

/-- The blocks of a handle can be read from the first on, whatever was written to the file `written` before. -/
def BlockDevice.Exportable {D : Type} [BlockDevice D] (written : FileId) (blockSize total : Nat)
    (blocks : Nat → Option Bytes) (state : D × World) : Prop :=
  ∃ ready, Export.Readable written blockSize total (fun block => (blocks block).isSome)
      (fun block => (blocks block).getD (List.replicate blockSize unusedBlockFill)) ready
    ∧ ∀ disk, Disk.Beside written state.2.disk disk →
      ∃ reached, perform (BlockDevice.seek 0) (state.1, state.2.withDisk disk) = (.ok (), reached)
        ∧ ready 0 reached ∧ reached.2.disk = disk

section

variable {D E : Type} [BlockDevice D] [BlockDevice E] {embed : D → E}

/-- The states of a device that are those of one that is made part of it. -/
def BlockDevice.Within (embed : D → E) (inner : D × World → Prop) (state : E × World) : Prop :=
  ∃ device, inner (device, state.2) ∧ state.1 = embed device

/-- What is read of a device is read of one that it is made part of. -/
theorem Export.Readable.within {file : FileId} {blockSize total : Nat} {used : Nat → Bool} {bytes : Nat → Bytes}
    {ready : Nat → D × World → Prop} (h : Export.Readable file blockSize total used bytes ready)
    (hembeds : BlockDevice.Embeds embed) :
    Export.Readable file blockSize total used bytes fun block => BlockDevice.Within embed (ready block) where
  isUsed := by
    rintro block ⟨_, world⟩ ⟨device, hready, rfl⟩ hblock
    obtain ⟨⟨reached, after⟩, hused, hreached, hdisk⟩ := h.isUsed hready hblock
    rw [hembeds.isUsed, hused]
    exact ⟨_, rfl, ⟨reached, hreached, rfl⟩, hdisk⟩
  read := by
    rintro block ⟨_, world⟩ ⟨device, hready, rfl⟩ hblock
    obtain ⟨⟨reached, after⟩, hread, hreached, hdisk⟩ := h.read hready hblock
    rw [hembeds.read, hread]
    exact ⟨_, rfl, ⟨reached, hreached, rfl⟩, hdisk⟩
  length_eq := h.length_eq
  apart := by
    rintro block _ world disk ⟨device, hready, rfl⟩ hchanges
    exact ⟨device, h.apart hready hchanges, rfl⟩

theorem BlockDevice.Exportable.within {written : FileId} {blockSize total : Nat} {blocks : Nat → Option Bytes}
    {device : D} {world : World} (h : Exportable written blockSize total blocks (device, world))
    (hembeds : BlockDevice.Embeds embed) : Exportable written blockSize total blocks (embed device, world) := by
  obtain ⟨ready, hreadable, hrewind⟩ := h
  refine ⟨_, hreadable.within hembeds, fun disk hbeside => ?_⟩
  obtain ⟨⟨reached, after⟩, hseek, hready, hdisk⟩ := hrewind disk hbeside
  rw [hembeds.seek, hseek]
  exact ⟨_, rfl, ⟨reached, hready, rfl⟩, hdisk⟩

end

namespace Site

variable {site : Site} {blockSize total : Nat} {payload : Nat → Option Bytes}

/-- The handles of a device on an image with some blocks that are used.  `holds` says which changes a handle has. -/
structure Handles {D : Type} [BlockDevice D] (site : Site) (blockSize total : Nat) (payload : Nat → Option Bytes)
    (holds : (Nat → Option Bytes) → D × World → Prop) : Prop where
  blockSize_eq : ∀ {blocks state}, holds blocks state → BlockDevice.blockSize? state.1 = some blockSize
  blockCount_eq : ∀ {blocks state}, holds blocks state → BlockDevice.blockCount? state.1 = some total
  on : ∀ {blocks state}, holds blocks state → site.On state.2.disk
  seek : ∀ {blocks state reached block}, holds blocks state →
    perform (BlockDevice.seek block) state = (.ok (), reached) →
      holds blocks reached ∧ BlockDevice.tell? reached.1 = some block
  write : ∀ {blocks state reached cursor data}, holds blocks state → BlockDevice.tell? state.1 = some cursor →
    perform (BlockDevice.write data) state = (.ok (), reached) →
      holds (Ground.replaced blocks blockSize cursor (data.length / blockSize) data) reached
  sync : ∀ {blocks state reached}, holds blocks state → perform BlockDevice.sync state = (.ok (), reached) →
    holds blocks reached
  close : ∀ {blocks state}, holds blocks state →
    site.Rests blockSize total blocks (perform (BlockDevice.close state.1) state.2).2.disk
  readable : ∀ {blocks state written}, holds blocks state → site.base ≠ written →
    state.2.disk.lookupFile site.overlay ≠ .ok written →
      BlockDevice.Exportable written blockSize total (fun block => (blocks block).or (payload block)) state

namespace Handles

variable {D : Type} [BlockDevice D] {holds : (Nat → Option Bytes) → D × World → Prop}
  {blocks : Nat → Option Bytes} {state reached : D × World}

/-- **A patch that succeeds is among the changes.** -/
theorem patch (h : site.Handles blockSize total payload holds) (hstate : holds blocks state) {first count : Nat}
    {data : Bytes} (hpatch : perform (patch first data) state = (.ok count, reached)) :
    holds (Ground.replaced blocks blockSize first (data.length / blockSize) data) reached := by
  obtain ⟨-, -, -, sought, written, hseek, hwrite, hsync⟩ :=
    (patch_eq_ok_iff (h.blockSize_eq hstate) (h.blockCount_eq hstate)).mp hpatch
  obtain ⟨hsought, hcursor⟩ := h.seek hstate hseek
  exact h.sync (h.write hsought hcursor hwrite) hsync

/-- **An export writes the changes over what is in the image**, and leaves zeros where there is neither. -/
theorem exportDevice (h : site.Handles blockSize total payload holds) (hstate : holds blocks state)
    (events : List Export.Event) {output : String} {written : FileId} {made : Disk}
    (hcreate : state.2.disk.create output = .ok (written, made)) (hbase : site.base ≠ written)
    (hoverlay : state.2.disk.lookupFile site.overlay ≠ .ok written) (hreach : total * blockSize ≤ Disk.maxOffset)
    (hlimit : total * blockSize ≤ state.2.disk.sizeLimit) :
    ∃ final, perform (PartitionImage.exportDevice output) ⟨state.1, state.2, events⟩
        = (.ok ⟨total, (List.range total).countP fun block => ((blocks block).or (payload block)).isSome⟩, final)
      ∧ (final.world.disk.content written).length = total * blockSize
      ∧ (∀ block, block < total → (final.world.disk.content written).slice (block * blockSize) blockSize
        = ((blocks block).or (payload block)).getD (List.replicate blockSize 0))
      ∧ final.world.disk.lookupFile output = .ok written ∧ Disk.Beside written state.2.disk final.world.disk := by
  obtain ⟨ready, hreadable, hrewind⟩ := h.readable hstate hbase hoverlay
  have hmade := Disk.beside_create hcreate
  obtain ⟨final, hrun, hcontent, hchanges, -⟩ := hreadable.exportDevice_ok events (h.blockSize_eq hstate)
    (h.blockCount_eq hstate) (h.on hstate).sound hcreate hreach hlimit
    fun sized hsized => hrewind sized (hmade.trans hsized.beside)
  have hlength := fun block (hblock : block < total) => hreadable.length_shown hblock
  refine ⟨final, hrun, hcontent ▸ Export.length_flatMap_range hlength, fun block hblock => ?_,
    hchanges.lookupFile_iff.mpr (Disk.lookupFile_create hcreate), hmade.trans hchanges.beside⟩
  rw [hcontent, Export.slice_flatMap_range hlength hblock]
  exact Export.shown_getD _ _ _ _

theorem within {E : Type} [BlockDevice E] {embed : D → E} (h : site.Handles blockSize total payload holds)
    (hembeds : BlockDevice.Embeds embed) :
    site.Handles blockSize total payload fun blocks => BlockDevice.Within embed (holds blocks) where
  blockSize_eq := by
    rintro blocks ⟨_, world⟩ ⟨device, hstate, rfl⟩
    exact (hembeds.blockSize? device).trans (h.blockSize_eq hstate)
  blockCount_eq := by
    rintro blocks ⟨_, world⟩ ⟨device, hstate, rfl⟩
    exact (hembeds.blockCount? device).trans (h.blockCount_eq hstate)
  on := by
    rintro blocks ⟨_, world⟩ ⟨device, hstate, rfl⟩
    exact h.on hstate
  seek := by
    rintro blocks ⟨_, world⟩ reached block ⟨device, hstate, rfl⟩ hseek
    rw [hembeds.seek] at hseek
    obtain ⟨hresult, rfl⟩ := Prod.mk.inj hseek
    obtain ⟨hreached, hcursor⟩ := h.seek hstate (Prod.ext hresult rfl)
    exact ⟨⟨_, hreached, rfl⟩, (hembeds.tell? _).trans hcursor⟩
  write := by
    rintro blocks ⟨_, world⟩ reached cursor data ⟨device, hstate, rfl⟩ hcursor hwrite
    rw [hembeds.write] at hwrite
    obtain ⟨hresult, rfl⟩ := Prod.mk.inj hwrite
    exact ⟨_, h.write hstate ((hembeds.tell? device).symm.trans hcursor) (Prod.ext hresult rfl), rfl⟩
  sync := by
    rintro blocks ⟨_, world⟩ reached ⟨device, hstate, rfl⟩ hsync
    rw [hembeds.sync] at hsync
    obtain ⟨hresult, rfl⟩ := Prod.mk.inj hsync
    exact ⟨_, h.sync hstate (Prod.ext hresult rfl), rfl⟩
  close := by
    rintro blocks ⟨_, world⟩ ⟨device, hstate, rfl⟩
    dsimp only
    rw [hembeds.close]
    exact h.close hstate
  readable := by
    rintro blocks ⟨_, world⟩ written ⟨device, hstate, rfl⟩ hbase hoverlay
    exact (h.readable hstate hbase hoverlay).within hembeds

end Handles

end Site

end PartitionImage
