import PartitionImage.Proofs.Image.Memory
/-!
# What was done before does not count

After a seek, what is read from a verified handle depends on the bytes of its image and on the blocks in
its overlay only.  Writes and failed reads may have put the count of records out of step before.

* `Image.exists_mirrors` says that verification finds the device of the image.
* `Image.read_eq_device` is the statement, for every state that is reached from a verified handle.
-/

namespace PartitionImage.Image

variable {O : Type} [Overlay O]

open PartitionImage.Action (perform)

/-- The block map of a verified handle is that of the image it was opened on, if that was the same when
its head and its bitmap were read. -/
theorem exists_mirrors [LawfulOverlay O] {start verified : Image O × World}
    (hverify : perform verify start = (.ok (), verified)) {bytes : Bytes}
    (hstart : start.1.source.backing.Agrees start.2.disk bytes)
    (hloaded : start.1.source.backing.Agrees verified.2.disk bytes)
    (stored : Nat → Option Bytes) :
    ∃ device descriptor map, Device.of? bytes stored = some device
      ∧ verified.1.stage = .verified descriptor map ∧ Mirrors device descriptor map
      ∧ device.bytes = bytes ∧ device.stored = stored := by
  obtain ⟨format, described, layout, map, loaded, hfrom⟩ := verifiedFrom_of_verify hverify
  have haccepted := hfrom.accepted hstart
  rw [hfrom.disk inferInstance] at hloaded
  have hlayout := Descriptor.layout_of_accepted? haccepted
  refine ⟨⟨bytes, format, layout, described.totalBlocks, stored⟩,
    described.repaired map.stats.used, map, ?_, hfrom.stage, ?_, rfl, rfl⟩
  · rw [Device.of?, haccepted]
    rfl
  · exact ⟨BlockMap.fits_of (hfrom.mapped hloaded), hlayout.repaired _, rfl⟩

/-- **A verified handle that is sought reads as the device of its image, whatever was done to it
before**: the history may hold any operations, those that failed included.  Only the bytes of the image
and the blocks that the overlay holds by now count. -/
theorem read_eq_device [LawfulOverlay O] {start verified : Image O × World}
    (hverify : perform verify start = (.ok (), verified)) {bytes : Bytes}
    (hstart : start.1.source.backing.Agrees start.2.disk bytes)
    (hloaded : start.1.source.backing.Agrees verified.2.disk bytes)
    (operations : List Operation) {reached : Image O × World}
    (hreached : Operation.run operations verified = reached)
    (hsource : reached.1.source.Delivers reached.2.disk bytes) (stored : Nat → Option Bytes) :
    ∃ device, Device.of? bytes stored = some device
      ∧ (Overlaid device.layout.blockSize device.total stored reached →
        ∀ block n, block + n ≤ device.total →
          (∀ other, block ≤ other → other < block + n →
            stored other = none → device.marked other = true →
              device.recordStart (device.rank other) < range64) →
          ∃ sought, perform (seek block) reached = (.ok (), sought)
            ∧ device.Reads block n ((read (n * device.layout.blockSize)).run sought).1
              ((read (n * device.layout.blockSize)).run sought).2.1.cursor) := by
  obtain ⟨device, descriptor, map, hdevice, hstage, hmirrors, rfl, rfl⟩ :=
    exists_mirrors hverify hstart hloaded stored
  obtain ⟨descriptor', map', hstage', -, hcounted⟩ := counted_run hverify operations
  obtain ⟨rfl, rfl⟩ := Stage.verified.inj (hstage.symm.trans hstage')
  rw [hreached] at hcounted
  refine ⟨device, hdevice, ?_⟩
  intro hoverlay block n hbound hoffset
  exact reads_of_seek hmirrors hcounted.stage hsource hoverlay hbound hoffset

/-- The first of two used blocks is written and the second is read, which leaves the count out of step.
After a seek both blocks are right. -/
theorem read_eq_device_of_written :
    ∃ verified written transfer after sought,
      perform verify (inMemory twoBlocks.bytes) = (.ok (), verified)
        ∧ perform (write [0x33, 0x33]) verified = (.ok (), written)
        ∧ (read 2).run written = (transfer, after)
        ∧ perform (seek 0) after = (.ok (), sought)
        ∧ ((read 4).run sought).1 = .complete [0x33, 0x33, 0x22, 0x22] := by
  have hholds := Backing.holds_ofBytes
  obtain ⟨verified, descriptor, map, hverify, hready⟩ :=
    exists_ready twoBlocks twoBlocks.records (by decide)
  obtain ⟨written, hwrite, hwritten⟩ := hready.write [0x33, 0x33] rfl (by decide)
  obtain ⟨transfer, after, hread, -, hmoves, hoverlaid, hdisk⟩ :=
    read_one hwritten.mirrors hwritten.stage hwritten.source hwritten.overlay
      (by rw [hwritten.cursor]; decide) (fun _ _ => by rw [hwritten.passed]; decide)
  have hread : (read 2).run written = (transfer, after) := hread
  have hreached : Operation.run [.write [0x33, 0x33], .read 2] verified = after := by
    show ((read 2).run (perform (write [0x33, 0x33]) verified).2).2 = after
    rw [hwrite, hread]
  have hsource : after.1.source.Delivers after.2.disk twoBlocks.bytes := by
    rw [hdisk]
    exact hwritten.source.later hmoves.source
  obtain ⟨device, hdevice, hreads⟩ := read_eq_device hverify
    (hholds _ twoBlocks.bytes).toAgrees (hholds _ twoBlocks.bytes).toAgrees
    [.write [0x33, 0x33], .read 2] hreached hsource fun block => [(0, [0x33, 0x33])].lookup block
  obtain rfl := Option.some.inj (hdevice.symm.trans (twoBlocks.of?_image twoBlocks.records _))
  obtain ⟨sought, hseek, hsought⟩ := hreads hoverlaid 0 2 (by decide) (by
    intro other _ hto _ hmarked
    exact Archive.recordStart_rank_lt length_twoBlocks hto hmarked)
  have hblock : twoBlocks.blocks[1]? = some (some (.twice 0x22)) := rfl
  obtain ⟨htransfer, -⟩ := hsought.eq_complete
    (fun block => if block = 0 then [0x33, 0x33] else [0x22, 0x22]) (by
      intro other _ hto
      have hcases : other = 0 ∨ other = 1 := by omega
      rcases hcases with rfl | rfl
      · rfl
      · exact Archive.block_of_used rfl hblock)
  exact ⟨verified, written, transfer, after, sought, hverify, hwrite, hread, hseek, htransfer⟩

end PartitionImage.Image
