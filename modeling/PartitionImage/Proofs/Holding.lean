import PartitionImage.Proofs.Guarded
/-!
# Handles with their changes

What is written to a handle on a `Site` is in the change file when the handle is closed, and is found there by the next
one.  None of this depends on the type of the image.

* `Site.Held.put` and `Site.Held.syncMount` are what is done to the overlay.
* `BlockDevice.Holding` is a handle whose changes are `blocks`, with one lemma for each call.
* `BlockDevice.Layered.siteHandles` makes `Site.Handles` of them, where blocks can be read.
-/

namespace PartitionImage

open PartitionImage.Action (perform perform_bind_ok perform_bind_inv)
open PartitionImage.Overlay (Mount)
open ChangeFile (Lasts Roomy reads_moved writes_lasts writes_step)

variable {site : Site} {blockSize total : Nat} {blocks : Nat → Option Bytes}

/-! ### The overlay -/

namespace Site

variable {mount : Mount ChangeFile} {disk : Disk} {after : Mount ChangeFile × Disk} {mode : OpenMode}

theorem attached_of_make (hpath : mount.path = site.overlay)
    (hmake : perform (Mount.make blockSize total) (mount, disk) = (.ok (), after)) :
    site.Attached blockSize total mount.store disk (after.1.store, after.2) := by
  cases hstore : mount.store with
  | some file =>
    rw [Mount.perform_make_some hstore] at hmake
    cases hmake
    rw [hstore]
    exact .kept rfl
  | none =>
    rw [Mount.perform_make_none hstore, hpath] at hmake
    split at hmake
    · cases hmake
    · next file reached hopen =>
      cases hmake
      exact .made rfl hopen

/-- **Blocks are put in a change file that lasts**, whether the handle has it or makes it. -/
theorem Held.put (h : site.Held blockSize total blocks mount.store disk) (hroomy : Roomy blockSize)
    (hpath : mount.path = site.overlay) {block : Nat} {data : Bytes}
    (hput : perform (Mount.put mode blockSize total block data) (mount, disk) = (.ok (), after)) :
    site.On after.2 ∧ ∃ file, after.1.store = some file ∧ Lasts site.overlay blockSize total (file, after.2) := by
  rw [Mount.perform_put] at hput
  split at hput
  · cases hput
  split at hput
  · cases hput
  obtain ⟨_, made, hmake, hstored⟩ := perform_bind_inv hput
  have hstep := (Mount.storeBlocks_uses writes_step _ _ _ _ _).of_perform hstored
  have hkept := (Mount.storeBlocks_uses (@writes_lasts site.overlay blockSize total) _ _ _ _ _).of_perform hstored
  exact h.written hroomy (attached_of_make hpath hmake) hstep.used hkept.used

theorem Held.syncMount (h : site.Held blockSize total blocks mount.store disk)
    (hsync : perform (Mount.sync mode) (mount, disk) = (.ok (), after)) :
    site.Held blockSize total blocks after.1.store after.2 := by
  by_cases hready : (mode != .readOnly && mount.store.isSome) = true
  · obtain ⟨hmode, hsome⟩ := Bool.and_eq_true_iff.mp hready
    obtain ⟨file, hfile⟩ := Option.isSome_iff_exists.mp hsome
    rw [hfile] at h
    obtain ⟨synced, hrun, hsynced⟩ := h.sync
    have hrun : perform Overlay.sync (file, disk) = (.ok (), file.clean, synced) := hrun
    rw [Mount.perform_sync_some hfile (bne_iff_ne.mp hmode), Mount.perform_call_some hfile, hrun] at hsync
    cases hsync
    exact hsynced
  · rw [Mount.perform_sync_refused hready] at hsync
    cases hsync

end Site

theorem ChangeFile.Carries.shows {path : String} {mount : Mount ChangeFile} {disk : Disk}
    (h : ChangeFile.Carries path blockSize total blocks mount.store disk) :
    mount.Shows blockSize total blocks disk := by
  unfold Mount.Shows
  cases hstore : mount.store with
  | none => exact h.none_eq hstore
  | some file => exact (h.refines file hstore).shows

/-! ### Handles -/

namespace BlockDevice

variable {D : Type} [BlockDevice D] {source : D → Source} {mount : D → Mount ChangeFile} {handles : D × World → Prop}
  {start : Disk} {state reached : D × World}

/-- A handle on a `site` whose changes are `blocks`. -/
structure Holding (site : Site) (source : D → Source) (mount : D → Mount ChangeFile) (handles : D × World → Prop)
    (start : Disk) (blockSize total : Nat) (blocks : Nat → Option Bytes) (state : D × World) : Prop
    extends Guarded source mount handles (site.ground start blockSize total) state where
  held : site.Held blockSize total blocks (mount state.1).store state.2.disk

namespace Holding

variable (hdevice : Layered source mount .readWrite blockSize total handles)
  (h : Holding site source mount handles start blockSize total blocks state)

include hdevice h

theorem seek {block : Nat} (hseek : perform (BlockDevice.seek block) state = (.ok (), reached)) :
    Holding site source mount handles start blockSize total blocks reached ∧ tell? reached.1 = some block := by
  have hfollows := hdevice.seek h.handle block
  have huses := (Mount.seek_uses reads_moved total block).of_perform (hfollows.inv hseek)
  have hguarded := h.toGuarded.after hdevice (.seek block)
  rw [Operation.after, hseek] at hguarded
  exact ⟨⟨hguarded, h.held.moved huses.used⟩, hfollows.tell_inv hseek⟩

/-- **What is written is among the changes.** -/
theorem write (hroomy : Roomy blockSize) {cursor : Nat} {data : Bytes} (htell : tell? state.1 = some cursor)
    (hwrite : perform (BlockDevice.write data) state = (.ok (), reached)) :
    Holding site source mount handles start blockSize total
      (Ground.replaced blocks blockSize cursor (data.length / blockSize) data) reached := by
  obtain ⟨hguarded, hend⟩ := h.toGuarded.write hdevice htell hwrite
  obtain ⟨hon, file, hfile, hlasts⟩ :=
    h.held.put hroomy h.path_eq ((hdevice.write h.handle htell data).inv hwrite)
  obtain ⟨-, hstores⟩ := hend rfl
  rw [hfile] at hstores
  refine ⟨hguarded, ?_⟩
  rw [hfile]
  exact h.held.stores hon hlasts hstores

theorem sync (hsync : perform BlockDevice.sync state = (.ok (), reached)) :
    Holding site source mount handles start blockSize total blocks reached := by
  obtain ⟨cursor, htell⟩ := hdevice.tell h.handle
  have hguarded := h.toGuarded.after hdevice .sync
  rw [Operation.after, hsync] at hguarded
  exact ⟨hguarded, h.held.syncMount ((hdevice.sync h.handle htell).inv hsync)⟩

/-- **A handle that is closed leaves the changes at rest.** -/
theorem close : site.Rests blockSize total blocks (perform (BlockDevice.close state.1) state.2).2.disk := by
  rw [(hdevice.releases h.handle).close]
  exact h.held.finish

end Holding

/-- **Handles on a `site` keep its changes**, whatever else is known of each of them. -/
theorem Layered.siteHandles {ι : Type} {handles : ι → D × World → Prop} {payload : Nat → Option Bytes}
    (hdevice : ∀ index, Layered source mount .readWrite blockSize total (handles index)) (hroomy : Roomy blockSize)
    (hreadable : ∀ {index start blocks state written},
      Holding site source mount (handles index) start blockSize total blocks state → site.base ≠ written →
        state.2.disk.lookupFile site.overlay ≠ .ok written →
          Exportable written blockSize total (fun block => (blocks block).or (payload block)) state) :
    site.Handles blockSize total payload fun blocks state =>
      ∃ index start, Holding site source mount (handles index) start blockSize total blocks state where
  blockSize_eq := by
    rintro blocks state ⟨index, start, h⟩
    exact (hdevice index).blockSize_eq h.handle
  blockCount_eq := by
    rintro blocks state ⟨index, start, h⟩
    exact (hdevice index).blockCount_eq h.handle
  on := by
    rintro blocks state ⟨index, start, h⟩
    exact h.held.toOn
  seek := by
    rintro blocks state reached block ⟨index, start, h⟩ hseek
    obtain ⟨hreached, hcursor⟩ := h.seek (hdevice index) hseek
    exact ⟨⟨index, start, hreached⟩, hcursor⟩
  write := by
    rintro blocks state reached cursor data ⟨index, start, h⟩ hcursor hwrite
    exact ⟨index, start, h.write (hdevice index) hroomy hcursor hwrite⟩
  sync := by
    rintro blocks state reached ⟨index, start, h⟩ hsync
    exact ⟨index, start, h.sync (hdevice index) hsync⟩
  close := by
    rintro blocks state ⟨index, start, h⟩
    exact h.close (hdevice index)
  readable := by
    rintro blocks state written ⟨index, start, h⟩ hbase hoverlay
    exact hreadable h hbase hoverlay

end BlockDevice

end PartitionImage
