import PartitionImage.Proofs.Image.Statistics
import PartitionImage.Proofs.Image.Twins
/-!
# Descriptors taken strictly

A strict verification and a lenient one differ by one thing only: what they make of a descriptor that records another
number of used blocks than its bitmap has.

* `Overlay.Releasable` says that a store that was just opened can be let go of.
* `Image.recordedUsed?` is the number that is recorded, `Image.scannedUsed?` the one that the bitmap has.
* `Image.verify_strict_cases` is one verification beside the other, `Image.strict_iff_lenient` what that comes to.
-/

namespace PartitionImage

open PartitionImage.Action (perform perform_bind_ok perform_bind_error perform_bind_inv)

/-- A store that was just opened can be finished: there is nothing to be kept yet. -/
def Overlay.Releasable {O : Type} [Overlay O] (setup : Overlay.Setup O) : Prop :=
  ∀ {path : String} {blockSize totalBlocks : Nat} {disk after : Disk} {store : O},
    perform (Overlay.init setup path blockSize totalBlocks) disk = (.ok store, after)
        ∨ perform (Overlay.create setup path blockSize totalBlocks) disk = (.ok store, after) →
      (perform (Overlay.finish store) after).1 = .ok ()

/-- A store in memory that is not told to fail can be let go of. -/
theorem MemoryStore.releasable : Overlay.Releasable (O := MemoryStore) ([] : List MemoryStore.Operation) := by
  rintro path blockSize totalBlocks disk after store (h | h)
  · cases h
    rfl
  · cases h
    rfl

/-- A change file can be let go of. -/
theorem ChangeFile.releasable : Overlay.Releasable (O := ChangeFile) () := by
  intro path blockSize totalBlocks disk after file h
  have hclean : file.dirty = false := by
    rcases h with h | h
    · exact (init_inv h).2.clean
    · by_cases hsize : ∃ n, disk.size path = .ok (n + 1)
      · obtain ⟨n, hsize⟩ := hsize
        exact (init_inv ((perform_create_of_size hsize).symm.trans h)).2.clean
      · obtain ⟨id, -, -, rfl⟩ :=
          eq_fresh_of_createEmpty ((perform_create_of_vacant fun n hn => hsize ⟨n, hn⟩).symm.trans h)
        rfl
  show (perform (finish file) after).1 = .ok ()
  rw [finish, Action.perform_zoom, perform_sync_of_saved hclean]
  rfl

namespace Image

variable {O : Type} [Overlay O] {start surveyed : Image O × World} {sized : Descriptor} {layout : RecordLayout}
  {map : BlockMap}

/-! ### The two numbers -/

/-- The number of used blocks that the head of an image records, if the head is accepted. -/
def recordedUsed? (bytes : Bytes) : Option Nat :=
  (Descriptor.accepted? bytes).map fun accepted => accepted.2.1.usedBlocks

/-- The number of blocks that are marked in the bitmap of a verified handle. -/
def scannedUsed? (image : Image O) : Option Nat :=
  match image.stage with
  | .verified _ map => some (map.bitmap.count 0 map.bitmap.length)
  | _ => none

theorem used_of_survey {factor : Nat}
    (h : perform (survey factor) start = (.ok (sized, layout, map), surveyed)) :
    recordedUsed? (start.1.source.backing.contents start.2.disk) = some sized.usedBlocks
      ∧ map.stats.used = map.bitmap.count 0 map.bitmap.length := by
  obtain ⟨format, described, before, attached, rfl, haccepted, hmapped, -⟩ := survey_inv h
  refine ⟨?_, (BlockMap.fits_of (hmapped (start.1.source.backing.agrees_contents _))).used_eq⟩
  rw [recordedUsed?, haccepted (start.1.source.backing.agrees_contents _)]
  rfl

/-! ### What a verification has opened -/

def JustOpened (setup : Overlay.Setup O) (state : Image O × World) : Prop :=
  ∀ store, state.1.overlay = some store → ∃ path blockSize totalBlocks disk,
    perform (Overlay.init setup path blockSize totalBlocks) disk = (.ok store, state.2.disk)
      ∨ perform (Overlay.create setup path blockSize totalBlocks) disk = (.ok store, state.2.disk)

theorem justOpened_of_initOverlay {blockSize totalBlocks : Nat} {before attached : Image O × World}
    (hnone : before.1.overlay = none)
    (h : perform (initOverlay blockSize totalBlocks) before = (.ok (), attached)) :
    JustOpened before.1.setup attached := by
  intro store hstore
  cases initEnd_of_perform h with
  | unasked hmode => cases hnone.symm.trans hstore
  | opened hmode hinit =>
    cases hstore
    exact ⟨_, _, _, _, .inl hinit⟩
  | missing hmode hinit => cases hnone.symm.trans hstore
  | made hmode hcreate =>
    cases hstore
    exact ⟨_, _, _, _, .inr hcreate⟩

theorem justOpened_of_survey {factor : Nat} (hnone : start.1.overlay = none)
    (h : perform (survey factor) start = (.ok (sized, layout, map), surveyed)) :
    JustOpened start.1.setup surveyed := by
  obtain ⟨format, described, before, attached, -, -, -, hbefore, hinit, hloaded, -⟩ := survey_inv h
  have hopened := justOpened_of_initOverlay (hbefore.overlay.trans hnone) hinit
  rw [hbefore.setup] at hopened
  intro store hstore
  rw [hloaded.disk]
  exact hopened store (hloaded.overlay.symm.trans hstore)

/-- A handle whose overlay has just been opened can be closed. -/
theorem JustOpened.close {setup : Overlay.Setup O} (h : JustOpened setup start)
    (hreleasable : Overlay.Releasable setup) : (perform start.1.close start.2).1 = .ok () := by
  rw [Image.close]
  cases hstore : start.1.overlay with
  | none => rfl
  | some store =>
    obtain ⟨path, blockSize, totalBlocks, disk, hopened⟩ := h store hstore
    exact Action.mapError_eq_ok_iff.mpr (hreleasable hopened)

/-! ### One verification beside the other -/

/-- The handle as it were if it took descriptors strictly. -/
def strictly (state : Image O × World) : Image O × World :=
  ({ state.1 with options := { state.1.options with strict := true } }, state.2)

/-- One source, and descriptors that are taken strictly by the one handle only. -/
abbrev Taken : Image O × World → Image O × World → Prop :=
  Twin (fun one other => other = one) fun lenient strict => lenient = false ∧ strict = true

theorem taken_strictly (hlenient : start.1.options.strict = false) : Taken start (strictly start) :=
  .mk rfl ⟨hlenient, rfl⟩

theorem eq_strictly {other : Image O × World} (h : Taken start other) : other = strictly start := by
  obtain ⟨rfl, -, rfl⟩ := h
  rfl

/-- How descriptors are taken does not matter where the number of used blocks is right. -/
theorem settle_eq (h : sized.usedBlocks = map.stats.used) (strict : Bool) :
    settle (O := O) strict sized layout map = settle false sized layout map := by
  simp only [settle, repairUsedBlocks, if_pos h]

/-- **A strict verification does the same as a lenient one, or it fails since the number of used blocks is wrong.** -/
theorem verify_strict_cases (start : Image O × World) (hlenient : start.1.options.strict = false)
    (hnone : start.1.overlay = none) :
    (perform verify (strictly start) = ((perform verify start).1, strictly (perform verify start).2)
        ∧ ((perform verify start).1 = .ok () →
          recordedUsed? (start.1.source.backing.contents start.2.disk) = scannedUsed? (perform verify start).2.1))
      ∨ ∃ recorded scanned surveyed,
        perform verify (strictly start) = (.error (.usedBlockCount recorded scanned), surveyed)
          ∧ recorded ≠ scanned
          ∧ recordedUsed? (start.1.source.backing.contents start.2.disk) = some recorded
          ∧ ((perform verify start).1 = .ok () → scannedUsed? (perform verify start).2.1 = some scanned)
          ∧ (∃ descriptor layout, surveyed.1.stage = .initialized descriptor layout)
          ∧ JustOpened start.1.setup surveyed := by
  have hsurvey := parallel_survey Source.interchangeable_refl start.1.options.factor start (strictly start)
    (taken_strictly hlenient)
  have hverify := perform_verify_eq start
  have hstrict : perform verify (strictly start) = perform (survey start.1.options.factor >>=
      fun found => settle true found.1 found.2.1 found.2.2) (strictly start) := perform_verify_eq (strictly start)
  rw [hlenient] at hverify
  rw [hverify, hstrict]
  rcases hone : perform (survey start.1.options.factor) start with ⟨result, surveyed⟩
  rcases hother : perform (survey start.1.options.factor) (strictly start) with ⟨result', surveyed'⟩
  rw [show (survey start.1.options.factor).run.run start = _ from hone,
    show (survey start.1.options.factor).run.run (strictly start) = _ from hother] at hsurvey
  obtain ⟨hresult, htaken⟩ := hsurvey
  obtain rfl : result' = result := hresult
  obtain rfl : surveyed' = strictly surveyed := eq_strictly htaken
  cases result' with
  | error error =>
    rw [perform_bind_error hone, perform_bind_error hother]
    exact .inl ⟨rfl, fun hok => absurd hok (by simp)⟩
  | ok found =>
    obtain ⟨sized, layout, map⟩ := found
    obtain ⟨hrecorded, hscanned⟩ := used_of_survey hone
    rw [perform_bind_ok hone, perform_bind_ok hother, hrecorded]
    dsimp only
    have hscan : ∀ strict, (perform (settle strict sized layout map) surveyed).1 = .ok () →
        scannedUsed? (perform (settle strict sized layout map) surveyed).2.1 = some map.stats.used := by
      intro strict hok
      obtain ⟨-, hstage, -⟩ := settle_inv (Prod.ext hok rfl)
      rw [scannedUsed?, hstage, hscanned]
    by_cases hcount : sized.usedBlocks = map.stats.used
    · obtain ⟨hsame, htaken⟩ := parallel_settle false sized layout map surveyed (strictly surveyed) htaken
      rw [settle_eq hcount true]
      exact .inl ⟨Prod.ext hsame (eq_strictly htaken), fun hok => by rw [hcount, hscan false hok]⟩
    · have hrefuse : perform (repairUsedBlocks true sized map.stats.used) (strictly surveyed)
          = (.error (.usedBlockCount sized.usedBlocks map.stats.used), strictly surveyed) := by
        rw [repairUsedBlocks, if_neg hcount]
        rfl
      obtain ⟨-, -, -, -, -, -, -, -, -, -, hstage⟩ := survey_inv hone
      exact .inr ⟨_, _, _, perform_bind_error hrefuse, hcount, rfl, hscan false, ⟨_, _, hstage⟩,
        fun store hstore => justOpened_of_survey hnone hone store hstore⟩

/-- The descriptor of a verified handle is that of the image, with two numbers put right. -/
theorem repaired_of_verify {verified : Image O × World} (h : perform verify start = (.ok (), verified)) :
    ∃ format described layout map,
      Descriptor.accepted? (start.1.source.backing.contents start.2.disk) = some (format, described, layout)
        ∧ verified.1.stage = .verified { described with
            usedBlocks := map.bitmap.count 0 map.bitmap.length
            deviceSize := min (described.totalBlocks * described.blockSize) (2 ^ 64 - 1) } map := by
  obtain ⟨format, described, layout, map, loaded, hfrom⟩ := verifiedFrom_of_verify h
  obtain ⟨⟨bytes, hfits⟩, -⟩ := hfrom.exists_fits
  refine ⟨format, described, layout, map, hfrom.accepted (start.1.source.backing.agrees_contents _), ?_⟩
  rw [hfrom.stage, Descriptor.repaired, hfits.used_eq]
  rfl

/-- Past a verification that was lenient it does not matter whether the handle takes descriptors strictly. -/
theorem answer_strictly {source : Source} {path : String} {options : OpenOptions} {setup : Overlay.Setup O}
    {world : World} {lenient : Image O × World} (hreached : Reached source path options setup world lenient)
    (hflag : options.strict = false) (hpast : lenient.1.stage.isOpened = false) (operations : List Operation)
    (operation : Operation) :
    operation.answer (Operation.run operations (strictly lenient))
      = operation.answer (Operation.run operations lenient) := by
  have htaken : Taken lenient (strictly lenient) :=
    taken_strictly ((congrArg OpenOptions.strict hreached.known.options_eq).trans hflag)
  have hrun := Twin.run_past Source.interchangeable_refl hreached hpast htaken operations
  exact (hrun.call_past Source.interchangeable_refl (hreached.past_run hpast operations) operation).1

/-- **Strict and lenient verification differ in one check only**, whatever the source, the mode and the overlay.  A
strict verification succeeds just if a lenient one does and the descriptor records as many used blocks as the bitmap
has; the handles are then the same, and go on to answer the same.  Where the numbers differ, and nothing else is wrong,
it fails since they do: the handle is of no use, but can be closed if its overlay can be let go of.  In the descriptor
of a verified handle the number of used blocks is that of the bitmap, the size of the device is that of its blocks, as
far as 64 bits go, and everything else is what the image says. -/
theorem strict_iff_lenient {source : Source} {path : String} {options : OpenOptions} {setup : Overlay.Setup O}
    {world : World} {lenient strict : Image O × World} {result result' : Except Error Unit}
    (hlenient : perform verify (ofSource source path { options with strict := false } setup, world)
      = (result, lenient))
    (hstrict : perform verify (ofSource source path { options with strict := true } setup, world)
      = (result', strict)) :
    (result' = .ok () ↔ result = .ok ()
        ∧ recordedUsed? (source.backing.contents world.disk) = scannedUsed? lenient.1)
      ∧ (result' = .ok () → strict = strictly lenient ∧ ∀ (operations : List Operation) (operation : Operation),
        operation.answer (Operation.run operations strict) = operation.answer (Operation.run operations lenient))
      ∧ (∀ recorded scanned, result = .ok () →
        recordedUsed? (source.backing.contents world.disk) = some recorded → scannedUsed? lenient.1 = some scanned →
        recorded ≠ scanned →
          result' = .error (.usedBlockCount recorded scanned)
            ∧ (Error.usedBlockCount recorded scanned).kind = .integrity
            ∧ Unready strict ∧ perform verify strict = (.error (.invalidState .opened), strict)
            ∧ (Overlay.Releasable setup → (perform strict.1.close strict.2).1 = .ok ()))
      ∧ (result' = result ∧ strict = strictly lenient
        ∨ ∃ recorded scanned, result' = .error (.usedBlockCount recorded scanned) ∧ recorded ≠ scanned
          ∧ recordedUsed? (source.backing.contents world.disk) = some recorded)
      ∧ (result = .ok () → ∃ format described layout map,
        Descriptor.accepted? (source.backing.contents world.disk) = some (format, described, layout)
          ∧ lenient.1.stage = .verified { described with
              usedBlocks := map.bitmap.count 0 map.bitmap.length
              deviceSize := min (described.totalBlocks * described.blockSize) (2 ^ 64 - 1) } map
          ∧ (result' = .ok () → strict.1.stage = lenient.1.stage)) := by
  have hcases := verify_strict_cases (O := O) (ofSource source path { options with strict := false } setup, world)
    rfl rfl
  have hreached := (reached_ofSource (O := O) source path { options with strict := false } setup world).after .verify
  rw [show strictly (O := O) (ofSource source path { options with strict := false } setup, world)
    = (ofSource source path { options with strict := true } setup, world) from rfl, hlenient, hstrict] at hcases
  rw [show Operation.verify.after (ofSource (O := O) source path { options with strict := false } setup, world)
    = lenient from congrArg Prod.snd hlenient] at hreached
  rcases hcases with
    ⟨hsame, hcounts⟩ | ⟨recorded, scanned, surveyed, hrefused, hne, hrecorded, hscanned, hstage, hopened⟩
  · obtain ⟨rfl, rfl⟩ := Prod.mk.inj hsame
    refine ⟨⟨fun hok => ⟨hok, hcounts hok⟩, And.left⟩, ?_, ?_, .inl ⟨rfl, rfl⟩, ?_⟩
    · rintro rfl
      obtain ⟨format, described, layout, map, -, hverified⟩ := repaired_of_verify hlenient
      exact ⟨rfl, answer_strictly hreached rfl (by rw [hverified]; rfl)⟩
    · intro recorded scanned hok hrecorded hscanned hne
      exact absurd (Option.some.inj (hrecorded.symm.trans ((hcounts hok).trans hscanned))) hne
    · rintro rfl
      obtain ⟨format, described, layout, map, haccepted, hverified⟩ := repaired_of_verify hlenient
      exact ⟨format, described, layout, map, haccepted, hverified, fun _ => rfl⟩
  · obtain ⟨rfl, rfl⟩ := Prod.mk.inj hrefused
    refine ⟨⟨fun hok => (nomatch hok), ?_⟩, fun hok => (nomatch hok), ?_,
      .inr ⟨recorded, scanned, rfl, hne, hrecorded⟩, ?_⟩
    · rintro ⟨hok, hcount⟩
      exact absurd (Option.some.inj (hrecorded.symm.trans (hcount.trans (hscanned hok)))) hne
    · intro recorded' scanned' hok hrecorded' hscanned' _
      obtain rfl := Option.some.inj (hrecorded.symm.trans hrecorded')
      obtain rfl := Option.some.inj ((hscanned hok).symm.trans hscanned')
      obtain ⟨descriptor, layout, hstage⟩ := hstage
      exact ⟨rfl, rfl, unready_of_unverified (by rw [hstage]; rfl),
        perform_verify_of_not_opened (by rw [hstage]; rfl), hopened.close⟩
    · rintro rfl
      obtain ⟨format, described, layout, map, haccepted, hverified⟩ := repaired_of_verify hlenient
      exact ⟨format, described, layout, map, haccepted, hverified, fun hok => nomatch hok⟩

/-- The number that the bitmap of a verified handle has is that of the blocks that are marked in the image. -/
theorem scannedUsed?_eq [LawfulOverlay O] {verified : Image O × World}
    (hverify : perform verify start = (.ok (), verified)) {bytes : Bytes}
    (hstart : start.1.source.backing.Agrees start.2.disk bytes)
    (hloaded : start.1.source.backing.Agrees verified.2.disk bytes) :
    ∃ format, Format.of? bytes = some format
      ∧ scannedUsed? verified.1 = some ((List.range (format.totalBlocks bytes)).countP fun block =>
        BlockMap.marked bytes format.bitmapOffset block format) := by
  obtain ⟨format, described, layout, map, loaded, hfrom⟩ := verifiedFrom_of_verify hverify
  rw [hfrom.disk inferInstance] at hloaded
  obtain ⟨hformat, hlaidOut, -⟩ := BlockMap.laidOut_of_accepted? (hfrom.accepted hstart)
  have hfits := BlockMap.fits_of (hfrom.mapped hloaded)
  have htallies := BlockMap.tallies_of (hfrom.mapped hloaded)
  have hmarked := hfits.isSet_eq
  rw [hlaidOut.totalBlocks, hlaidOut.bitmapOffset] at hmarked
  rw [hlaidOut.totalBlocks] at htallies
  refine ⟨format, hformat, ?_⟩
  rw [scannedUsed?, hfrom.stage]
  show some (map.bitmap.count 0 map.bitmap.length) = _
  rw [← hfits.used_eq, htallies.used_eq]
  refine congrArg some (List.countP_congr fun block hblock => ?_)
  rw [hmarked block (List.mem_range.mp hblock)]

/-- A legacy image of three blocks of two bytes, the first of which is used.  Its descriptor says that two are. -/
@[irreducible] def staleCount : Bytes :=
  Descriptor.imageMagic ++ List.replicate 15 0 ++ Version.legacy.bytes ++ [0, 0]
    ++ Bytes.ofNat 4 2 ++ Bytes.ofNat 8 6 ++ Bytes.ofNat 8 3 ++ Bytes.ofNat 8 2
    ++ List.replicate 4096 0 ++ [1, 0, 0] ++ bitmapMagic ++ [0x11, 0x11, 0, 0, 0, 0]

/-- The number that is wrong is put right, or the image is refused and its handle closed. -/
theorem strict_iff_lenient_staleCount :
    ∃ lenient strict, perform verify (ofSource (O := MemoryStore) (.ofBytes staleCount) "a.img" {} [], {})
        = (.ok (), lenient)
      ∧ perform verify (ofSource (O := MemoryStore) (.ofBytes staleCount) "a.img" { strict := true } [], {})
        = (.error (.usedBlockCount 2 1), strict)
      ∧ Unready strict ∧ (perform strict.1.close strict.2).1 = .ok ()
      ∧ lenient.1.descriptor?.map Descriptor.usedBlocks = some 1 := by
  have hformat : Format.of? staleCount = some .legacy := by decide +kernel
  have htotal : Format.legacy.totalBlocks staleCount = 3 := by decide +kernel
  have hmemory : ∀ format, Format.of? staleCount = some format →
      format.magicOffset staleCount + 8 ≤ staleCount.length →
        bytesForBits (format.totalBlocks staleCount) < allocationLimit := by
    intro format hknown _
    rw [← Option.some.inj (hformat.symm.trans hknown), htotal]
    decide
  have hfresh : Fresh staleCount {} (ofSource (O := MemoryStore) (.ofBytes staleCount) "a.img" {} [], {}) :=
    ⟨Source.faultless_ofBytes _ _, rfl, rfl⟩
  obtain ⟨_, hdone⟩ := (screens_verify rfl hfresh rfl hmemory).isOk_iff.mpr (by decide +kernel)
  rcases hlenient : perform verify (ofSource (O := MemoryStore) (.ofBytes staleCount) "a.img" {} [], {})
    with ⟨result, lenient⟩
  rw [hlenient] at hdone
  obtain rfl : result = .ok () := hdone
  rcases hstrict : perform verify (ofSource (O := MemoryStore) (.ofBytes staleCount) "a.img" { strict := true } [], {})
    with ⟨result', strict⟩
  have hholds := Backing.holds_ofBytes
  have hcontents : (Source.ofBytes staleCount).backing.contents ({} : World).disk = staleCount := by
    have hsize : (Content.ofBytes staleCount).size = staleCount.length := by
      simp [Content.ofBytes, Content.ofPacked]
    show Content.slice (.ofBytes staleCount) 0 (Content.ofBytes staleCount).size = _
    rw [Content.slice_ofBytes, hsize, Bytes.slice, List.drop_zero, List.take_length]
  have hrecorded : recordedUsed? staleCount = some 2 := by decide +kernel
  have hscanned : scannedUsed? lenient.1 = some 1 := by
    obtain ⟨format, hknown, hscanned⟩ :=
      scannedUsed?_eq hlenient (hholds _ staleCount).toAgrees (hholds _ staleCount).toAgrees
    obtain rfl := Option.some.inj (hformat.symm.trans hknown)
    rw [hscanned]
    decide +kernel
  obtain ⟨-, -, hcounts, -, hrepaired⟩ :=
    @strict_iff_lenient MemoryStore _ (.ofBytes staleCount) "a.img" {} [] {} _ _ _ _ hlenient hstrict
  obtain ⟨hresult, -, hunready, -, hclose⟩ :=
    hcounts 2 1 rfl (hcontents.symm ▸ hrecorded) hscanned (by decide)
  obtain ⟨format, described, layout, map, -, hstage, -⟩ := hrepaired rfl
  refine ⟨lenient, strict, rfl, Prod.ext hresult rfl, hunready, hclose MemoryStore.releasable, ?_⟩
  rw [scannedUsed?, hstage] at hscanned
  rw [descriptor?, hstage]
  exact hscanned

end Image

end PartitionImage
