import PartitionImage.Proofs.Image.Replay
import PartitionImage.Proofs.RawImage.Attachment
import PartitionImage.Proofs.RawImage.Replay
import PartitionImage.Recognition
/-!
# Exports of images

An image that was verified is exported as it is read, whatever was called of it since: an export does not depend on
where the cursor is, on a read that failed, or on changes that were not made to last.

* `AnyImage.exists_replays` says that both types repeat themselves, `AnyImage.exportDevice_exact` what an export makes
  of them.
* `AnyImage.exportDevice_empty` is an image without blocks that is not exported.
-/

namespace PartitionImage.AnyImage

open PartitionImage.Action (perform perform_bind_ok perform_bind_inv)
open Export (Exact Replays)

variable {O : Type} [Overlay O]

variable {type : ImageType} {source : Source} {path : String} {options : OpenOptions} {setup : Overlay.Setup O}
  {world opened : World} {image : AnyImage O} {verified : AnyImage O × World} {file : FileId}
  {blockSize total : Nat}

/-- **An image that was verified repeats itself**, block by block and whatever was called of it since. -/
theorem exists_replays (hopen : perform (ofSource type source path options setup) world = (.ok image, opened))
    (halike : source.manner.Alike) (hapart : source.backing ≠ .file file)
    (hverify : perform BlockDevice.verify (image, opened) = (.ok (), verified)) (operations : List Operation)
    (hblockSize : BlockDevice.blockSize? (Operation.run operations verified).1 = some blockSize)
    (hblockCount : BlockDevice.blockCount? (Operation.run operations verified).1 = some total)
    (hoverlay : ∀ store, (Operation.run operations verified).1.mount.store = some store →
      Overlay.Repeats file (Operation.run operations verified).2.disk blockSize store) :
    ∃ ready, Replays file blockSize total (Operation.run operations verified) ready := by
  cases type with
  | partition =>
    cases hopen
    obtain ⟨reached, hcheck, rfl⟩ := Image.embeds.verify_inv hverify
    rw [Image.embeds.run] at hblockSize hblockCount hoverlay ⊢
    obtain ⟨reply, alike, hreplies, hreplying⟩ := Overlay.exists_replies hoverlay
    have hunread : Image.Unread options (Image.ofSource source path options setup, world) := ⟨rfl, rfl, rfl, rfl⟩
    obtain ⟨descriptor, map, rfl, rfl, hrepeatable⟩ :=
      Image.exists_repeatable hunread hcheck operations halike hapart hblockSize hblockCount hreplies hreplying
    exact ⟨_, (Image.repeating hrepeatable).replays.within Image.embeds⟩
  | raw =>
    obtain ⟨raw, reached, hraw, hopen⟩ := perform_bind_inv hopen
    cases hopen
    have hsized := RawImage.sized_of_ofSource hraw
    obtain ⟨rfl, size, -, hraw⟩ := RawImage.opened_of_ofSource hraw
    obtain ⟨checked, hcheck, rfl⟩ := RawImage.embeds.verify_inv hverify
    rw [RawImage.embeds.run] at hblockSize hblockCount hoverlay ⊢
    obtain ⟨reply, alike, hreplies, hreplying⟩ := Overlay.exists_replies hoverlay
    obtain ⟨rfl, rfl, hrepeatable⟩ := RawImage.repeatable_of_verify hsized (hraw ▸ RawImage.blockSizeFor_pos size)
      hcheck operations (hraw ▸ halike) (hraw ▸ hapart) hblockSize hblockCount hreplies hreplying
    exact ⟨_, (RawImage.repeating hrepeatable).replays.within RawImage.embeds⟩

/-! ### Raw images in memory -/

/-- A handle on a raw image of some blocks in memory.  Its overlay is to be a store in memory in which some operations
fail. -/
def inMemory (bytes : Bytes) (failing : List MemoryStore.Operation) (total : Nat) : RawImage MemoryStore where
  source := .ofBytes bytes
  path := "a.img"
  mode := .create
  setup := failing
  verified := false
  blockSize := RawImage.smallBlockSize
  totalBlocks := total
  overlayPath := none
  overlay := none
  cursor := 0

def soughtInMemory (bytes : Bytes) (failing : List MemoryStore.Operation) (total cursor : Nat) :
    RawImage MemoryStore :=
  { inMemory bytes failing total with
    verified := true
    overlayPath := some (defaultOverlayPath "a.img")
    overlay := some ⟨failing, total, [], cursor⟩
    cursor := cursor }

theorem perform_ofSource_inMemory {bytes : Bytes} {total : Nat}
    (hsize : RawImage.blockSizeFor bytes.length = RawImage.smallBlockSize)
    (htotal : bytes.length / RawImage.smallBlockSize = total) (failing : List MemoryStore.Operation) :
    perform (ofSource .raw (.ofBytes bytes) "a.img" { mode := .create } failing) {}
      = (.ok (.raw (inMemory bytes failing total)), {}) := by
  have hbytes : (Source.ofBytes bytes).size ({} : Disk) = .ok bytes.length :=
    congrArg Except.ok (Backing.holds_ofBytes {} bytes).size_eq
  have hopened : perform (RawImage.ofSource (.ofBytes bytes) "a.img" { mode := .create } failing) {}
      = (.ok (inMemory bytes failing total), {}) := by
    rw [RawImage.ofSource, perform_bind_ok (Action.perform_get _)]
    dsimp only
    rw [hbytes, ← htotal, inMemory, ← hsize]
    rfl
  rw [ofSource, perform_bind_ok hopened]
  rfl

theorem create_out : ({} : Disk).create "out" = .ok (0, Disk.withNew {} ["out"]) := by cbv

/-! ### Exports -/

/-- **An export is exact, whatever state it starts from**: of an image that was verified, after any operations, whether
they succeeded or not.  The output is another file than those of the image and of its overlay, and small enough to be
written; the source and the overlay reply the same when they are asked again. -/
theorem exportDevice_exact (hopen : perform (ofSource type source path options setup) world = (.ok image, opened))
    (halike : source.manner.Alike) (hverify : perform BlockDevice.verify (image, opened) = (.ok (), verified))
    (operations : List Operation) {state : AnyImage O × World} (hstate : Operation.run operations verified = state)
    (hblockSize : BlockDevice.blockSize? state.1 = some blockSize)
    (hblockCount : BlockDevice.blockCount? state.1 = some total) (hsound : state.2.disk.Sound) {output : String}
    {made : Disk} (hcreate : state.2.disk.create output = .ok (file, made)) (hapart : source.backing ≠ .file file)
    (hoverlay : ∀ store, state.1.mount.store = some store → Overlay.Repeats file state.2.disk blockSize store)
    (hreach : total * blockSize ≤ Disk.maxOffset) (hlimit : total * blockSize ≤ state.2.disk.sizeLimit) :
    Exact output file blockSize total state := by
  subst hstate
  obtain ⟨ready, hreplays⟩ :=
    exists_replays hopen halike hapart hverify operations hblockSize hblockCount hoverlay
  exact hreplays.exact hblockSize hblockCount hsound hcreate hreach hlimit

/-- Two blocks in memory: with the cursor on the second, after a read of a part of a block and a seek past the end,
which fail, the export is exact. -/
theorem exportDevice_exact_sought :
    ∃ (bytes : Bytes) (image : AnyImage MemoryStore) (verified : AnyImage MemoryStore × World) (written : FileId),
      bytes = List.replicate 1024 0x61
        ∧ perform (ofSource .raw (.ofBytes bytes) "a.img" { mode := .create } []) {} = (.ok image, {})
        ∧ perform BlockDevice.verify (image, {}) = (.ok (), verified)
        ∧ BlockDevice.tell? (Operation.run [.seek 1, .read 3, .seek 3] verified).1 = some 1
        ∧ Exact "out" written 512 2 (Operation.run [.seek 1, .read 3, .seek 3] verified) := by
  -- the bytes stay a variable of known length, so that no step computes with them
  obtain ⟨bytes, hbytes, hlength⟩ : ∃ bytes : Bytes, bytes = List.replicate 1024 0x61 ∧ bytes.length = 1024 :=
    ⟨_, rfl, List.length_replicate⟩
  have hopen : perform (ofSource .raw (.ofBytes bytes) "a.img" { mode := .create } []) {}
      = (.ok (.raw (inMemory bytes [] 2)), {}) :=
    perform_ofSource_inMemory (by rw [hlength]; decide) (by rw [hlength]; decide) []
  have hverify : perform BlockDevice.verify (AnyImage.raw (inMemory bytes [] 2), ({} : World))
      = (.ok (), AnyImage.raw (soughtInMemory bytes [] 2 0), {}) := rfl
  have hsought : Operation.run [.seek 1, .read 3, .seek 3]
      (AnyImage.raw (soughtInMemory bytes [] 2 0), ({} : World))
        = (AnyImage.raw (soughtInMemory bytes [] 2 1), {}) := rfl
  have hstore : ∀ store : MemoryStore, (AnyImage.raw (soughtInMemory bytes [] 2 1)).mount.store = some store →
      Overlay.Repeats 0 {} 512 store := by
    rintro store ⟨rfl⟩
    refine MemoryStore.repeats _ ?_ 0 {}
    intro block found hlookup
    cases hlookup
  have hreach : 2 * 512 ≤ Disk.maxOffset := by decide
  have hlimit : 2 * 512 ≤ ({} : Disk).sizeLimit := by decide
  refine ⟨bytes, _, _, 0, hbytes, hopen, hverify, ?_, ?_⟩
  · rw [hsought]
    rfl
  · rw [hsought]
    exact exportDevice_exact hopen Manner.alike_prompt hverify [.seek 1, .read 3, .seek 3] hsought rfl rfl
      Disk.sound_empty create_out nofun hstore hreach hlimit

/-- **An image without blocks is not exported** if its overlay cannot be moved: an export begins with a seek to the
first block, which is then the block that it fails to read.  There is no block that cannot be read. -/
theorem exportDevice_empty :
    ∃ (image : AnyImage MemoryStore) (verified : AnyImage MemoryStore × World) (written : FileId) (made : Disk)
      (final : Export.State (AnyImage MemoryStore)),
      perform (ofSource .raw (.ofBytes []) "a.img" { mode := .create } [.seek]) {} = (.ok image, {})
        ∧ perform BlockDevice.verify (image, {}) = (.ok (), verified)
        ∧ BlockDevice.blockSize? verified.1 = some 512 ∧ BlockDevice.blockCount? verified.1 = some 0
        ∧ verified.2.disk.create "out" = .ok (written, made)
        ∧ (∀ block, block < 0 → (Export.transferAt 512 verified block).result = .ok ())
        ∧ perform (exportDevice "out") ⟨verified.1, verified.2, []⟩
          = (.error (.readBlock 0 (.overlay (.io (.injected "seek")))), final) := by
  have hverify : perform BlockDevice.verify (AnyImage.raw (inMemory [] [.seek] 0), ({} : World))
      = (.ok (), AnyImage.raw (soughtInMemory [] [.seek] 0 0), {}) := rfl
  obtain ⟨sized, hset, -⟩ := Export.Readable.exists_sized Disk.sound_empty create_out
    (by decide : 0 * 512 ≤ Disk.maxOffset) (by decide)
  have hseek : perform (BlockDevice.seek 0)
      (AnyImage.raw (soughtInMemory [] [.seek] 0 0), ({} : World).withDisk sized)
        = (.error (.overlay (.io (.injected "seek"))), AnyImage.raw (soughtInMemory [] [.seek] 0 0),
          ({} : World).withDisk sized) := rfl
  have hopen : perform (ofSource .raw (.ofBytes []) "a.img" { mode := .create } [.seek]) {}
      = (.ok (.raw (inMemory [] [.seek] 0)), {}) := perform_ofSource_inMemory rfl rfl [.seek]
  have hexport : perform (exportDevice "out") ⟨AnyImage.raw (soughtInMemory [] [.seek] 0 0), {}, []⟩
      = (.error (.readBlock 0 (.overlay (.io (.injected "seek")))),
        ⟨AnyImage.raw (soughtInMemory [] [.seek] 0 0), ({} : World).withDisk sized, [.start "out" 0 512]⟩) :=
    Export.perform_exportDevice rfl rfl create_out (by decide) hset hseek
  refine ⟨_, _, _, _, _, hopen, hverify, rfl, rfl, create_out, ?_, hexport⟩
  intro block hblock
  exact absurd hblock (Nat.not_lt_zero block)

end PartitionImage.AnyImage
