import PartitionImage.Inspection
import PartitionImage.Proofs.Image.Archive
import PartitionImage.Proofs.Offsets
import PartitionImage.Proofs.Recognition
/-!
# What an inspection reports

An inspection verifies a file twice if it has to, compares three numbers, and reads two blocks.  What it reports can
be told from the file alone.

* `Inspection.Tells` is what head and bitmap of a file say, `Inspection.tells_of_openPartition` that a file which
  verifies says something.
* `Inspection.Examines` is a handle on such a file: `Inspection.perform_openImage` is how an inspection gets one,
  `Inspection.run_probeBlocks` what it reads through it.
* `Inspection.Accurate` is what a report has to say, `inspect_accurate` that it does.
* `inspect_noBlocks` is an image of no blocks, of which a block is read all the same.
-/

namespace PartitionImage

open PartitionImage.Action (Respects perform perform_bind_inv perform_bind_ok)
open Overlay (Unbound writes_unbound)

/-- A block that can be read. -/
def Device.ReadsBack (device : Device) (block : Nat) : Prop := ∃ bytes, device.block block = .data bytes

theorem BlockAnswer.Gives.ok_iff {block : Nat} {answer : BlockAnswer} {transfer : Transfer Error Unit}
    (h : answer.Gives block transfer) : transfer.result = .ok () ↔ ∃ bytes, answer = .data bytes := by
  cases h with
  | data bytes => exact ⟨fun _ => ⟨bytes, rfl⟩, fun _ => rfl⟩
  | short cause arrived => exact ⟨nofun, nofun⟩
  | mismatch payload stored computed => exact ⟨nofun, nofun⟩

theorem BlockAnswer.Gives.panics_eq_false {block : Nat} {answer : BlockAnswer} {transfer : Transfer Error Unit}
    (h : answer.Gives block transfer) {cause : Error} (hcause : transfer.result = .error cause) :
    cause.panics = false := by
  cases h with
  | data bytes => cases hcause
  | short cause arrived =>
    cases hcause
    rfl
  | mismatch payload stored computed =>
    cases hcause
    rfl

namespace Inspection

variable {world : World} {path : String} {file : FileId} {bytes : Bytes} {format : Format} {described : Descriptor}
  {layout : RecordLayout} {map : BlockMap}

/-! ### What a file says -/

/-- What the head and the bitmap of a file say. -/
structure Tells (bytes : Bytes) (format : Format) (described : Descriptor) (layout : RecordLayout) (map : BlockMap) :
    Prop where
  accepted : Descriptor.accepted? bytes = some (format, described, layout)
  mapped : BlockMap.of? bytes format layout described.totalBlocks PrefixCount.defaultFactor = some map

/-- The device that a file stands for. -/
def deviceOf (bytes : Bytes) (format : Format) (described : Descriptor) (layout : RecordLayout) : Device where
  bytes := bytes
  format := format
  layout := layout
  total := described.totalBlocks
  stored := fun _ => none

namespace Tells

theorem mirrors (h : Tells bytes format described layout map) :
    Image.Mirrors (deviceOf bytes format described layout) (described.repaired map.stats.used) map :=
  ⟨BlockMap.fits_of h.mapped, (Descriptor.layout_of_accepted? h.accepted).repaired _, rfl⟩

theorem layout_eq (h : Tells bytes format described layout map) : map.layout = layout :=
  (BlockMap.fits_of h.mapped).layout_eq

theorem dataOffset_eq (h : Tells bytes format described layout map) (hlength : bytes.length ≤ Disk.maxOffset) :
    map.layout.dataOffset = layout.bitmapEnd := by
  have hend := Descriptor.bitmapEnd_le_of_accepted? h.accepted
  have hmax : Disk.maxOffset < range64 := by decide
  rw [h.layout_eq, RecordLayout.dataOffset, saturate64_of_lt (by omega)]

theorem lastUsed_lt (h : Tells bytes format described layout map) {last : Nat}
    (hlast : map.stats.lastUsed = some last) : last < described.totalBlocks ∧ map.bitmap.isSet last = true := by
  rw [(BlockMap.stats_of h.mapped).2] at hlast
  have hfound := (map.bitmap.last?_eq_some_iff _ _).mp hlast
  exact ⟨hfound.1, hfound.2.1⟩

/-- Where `recordsEnd?` is had, each record starts below `2^64`. -/
theorem recordStart_lt (h : Tells bytes format described layout map) (hlength : bytes.length ≤ Disk.maxOffset)
    (hrecords : map.layout.dataOffset + map.stats.used * map.layout.recordSize < range64) {block : Nat}
    (hblock : block < described.totalBlocks) :
    (deviceOf bytes format described layout).recordStart
      ((deviceOf bytes format described layout).rank block) < range64 := by
  have hfits := h.mirrors.fits
  have hused : map.stats.used = (deviceOf bytes format described layout).rank described.totalBlocks := by
    rw [hfits.used_eq, hfits.length_eq]
    exact h.mirrors.count_eq (Nat.le_refl _)
  have hrank : (deviceOf bytes format described layout).rank block ≤ map.stats.used := by
    rw [hused]
    exact (List.range_sublist.mpr (Nat.le_of_lt hblock)).countP_le
  rw [h.dataOffset_eq hlength, h.layout_eq] at hrecords
  have hmono := Nat.mul_le_mul_right layout.recordSize hrank
  show layout.bitmapEnd + _ * layout.recordSize < range64
  omega

end Tells

/-! ### The handle -/

/-- A verified handle on the image of a device, with no overlay. -/
structure Examines (device : Device) (descriptor : Descriptor) (map : BlockMap) (disk : Disk)
    (state : Image ChangeFile × World) : Prop where
  stage : state.1.stage = .verified descriptor map
  overlay : state.1.overlay = none
  source : state.1.source.Delivers state.2.disk device.bytes
  disk_eq : state.2.disk = disk

variable {device : Device} {descriptor : Descriptor} {disk : Disk} {state reached : Image ChangeFile × World}

theorem Examines.uses (h : Examines device descriptor map disk state) (huses : Image.Uses Unbound state reached) :
    Examines device descriptor map disk reached := by
  have hused := huses.used
  rw [h.overlay] at hused
  obtain ⟨hoverlay, hdisk⟩ := Prod.mk.inj hused.none_inv
  exact ⟨huses.stage.trans h.stage, hoverlay, hdisk.symm ▸ h.source.later huses.source, hdisk.trans h.disk_eq⟩

theorem readAt_uses (block length : Nat) (state : Image ChangeFile × World) :
    Image.Uses Unbound state ((BlockDevice.readAt block length).run state).2 := by
  have hsought := Image.seek_uses (O := ChangeFile) writes_unbound.toReads block state
  rcases hseek : perform (Image.seek block) state with ⟨result, sought⟩
  rw [hseek] at hsought
  cases result with
  | error error =>
    rw [BlockDevice.run_readAt_error hseek]
    exact hsought
  | ok done =>
    rw [BlockDevice.run_readAt hseek]
    exact hsought.trans (Image.read_uses writes_unbound.toReads length sought)

/-- **A read gives what the device says of the block**, whatever was read before. -/
theorem Examines.gives (h : Examines device descriptor map disk state) (hmirrors : Image.Mirrors device descriptor map)
    {block : Nat} (hblock : block < device.total) (hoffset : device.recordStart (device.rank block) < range64)
    (hstored : device.stored = fun _ => none) :
    (device.block block).Gives block ((BlockDevice.readAt block descriptor.blockSize).run state).1 := by
  have hoverlaid : Image.Overlaid device.layout.blockSize device.total device.stored state := by
    rw [hstored]
    exact Image.overlaid_of_none _ _ h.overlay
  have hgives := Image.readAt_gives hmirrors h.stage h.source hoverlaid hblock fun _ _ => hoffset
  rwa [hmirrors.layout.blockSize_eq] at hgives

/-! ### The blocks that are read -/

def found (block : Nat) (transfer : Transfer Error Unit) : List Problem :=
  match transfer.result with
  | .ok () => []
  | .error cause => [.readFailed block cause]

theorem run_probeBlock (h : Examines device descriptor map disk state) (block : Nat) :
    (probeBlock block).run state
      = (found block ((BlockDevice.readAt block descriptor.blockSize).run state).1,
        ((BlockDevice.readAt block descriptor.blockSize).run state).2) := by
  have hsize : state.1.blockSize? = some descriptor.blockSize := by
    rw [Image.blockSize?, Image.verifiedDescriptor?, Image.descriptor?, h.stage]
    rfl
  simp only [probeBlock, StateT.run_bind, StateT.run_get, pure_bind, hsize, Option.getD_some]
  show StateT.run _ (perform (Image.seek block) state).2 = _
  rcases hseek : perform (Image.seek block) state with ⟨result, sought⟩
  rw [show (Image.seek block).run.run state = (result, sought) from hseek]
  cases result with
  | error cause =>
    rw [BlockDevice.run_readAt_error hseek]
    rfl
  | ok done =>
    rw [BlockDevice.run_readAt hseek]
    dsimp only
    rw [StateT.run_bind]
    show _ = (found block ((Image.read descriptor.blockSize).run sought).1,
      ((Image.read descriptor.blockSize).run sought).2)
    rcases (Image.read descriptor.blockSize).run sought with ⟨⟨bytes, result⟩, ended⟩
    cases result with
    | error cause => rfl
    | ok done => rfl

theorem found_eq_nil_iff {block : Nat} {transfer : Transfer Error Unit} :
    found block transfer = [] ↔ transfer.result = .ok () := by
  unfold found
  split
  · next hok => exact ⟨fun _ => hok, fun _ => rfl⟩
  · next cause hfailed => exact ⟨nofun, fun hok => nomatch hfailed.symm.trans hok⟩

/-- A block cannot be read, and the read has not panicked. -/
def Unread (problem : Problem) : Prop :=
  ∃ block cause, problem = .readFailed block cause ∧ cause.panics = false

theorem unread_of_mem_found {answer : BlockAnswer} {block : Nat} {transfer : Transfer Error Unit} {problem : Problem}
    (hgives : answer.Gives block transfer) (h : problem ∈ found block transfer) : Unread problem := by
  unfold found at h
  split at h
  · cases h
  · next cause hcause =>
    exact ⟨block, cause, List.mem_singleton.mp h, hgives.panics_eq_false hcause⟩

/-- The blocks that an inspection reads: the first one, and the last used one if that is another. -/
theorem run_probeBlocks (h : Examines device descriptor map disk state) (lastUsed : Option Nat) :
    ∃ reached, (probeBlocks lastUsed).run state
        = (found 0 ((BlockDevice.readAt 0 descriptor.blockSize).run state).1
            ++ (match lastUsed with
              | some (block + 1) => found (block + 1) ((BlockDevice.readAt (block + 1) descriptor.blockSize).run
                  ((BlockDevice.readAt 0 descriptor.blockSize).run state).2).1
              | _ => []), reached) := by
  have hfirst := h.uses (readAt_uses 0 descriptor.blockSize state)
  rw [probeBlocks, StateT.run_bind, run_probeBlock h]
  match lastUsed with
  | none => exact ⟨_, by rw [List.append_nil]; rfl⟩
  | some 0 => exact ⟨_, by rw [List.append_nil]; rfl⟩
  | some (block + 1) =>
    refine ⟨((BlockDevice.readAt (block + 1) descriptor.blockSize).run
      ((BlockDevice.readAt 0 descriptor.blockSize).run state).2).2, ?_⟩
    show StateT.run (probeBlock (block + 1) >>= fun last =>
      pure (found 0 ((BlockDevice.readAt 0 descriptor.blockSize).run state).1 ++ last))
        ((BlockDevice.readAt 0 descriptor.blockSize).run state).2 = _
    rw [StateT.run_bind, run_probeBlock hfirst]
    rfl

/-- Of a device without blocks none can be read. -/
theorem readAt_of_empty (h : Examines device descriptor map disk state) (hsuits : map.Suits descriptor)
    (hempty : descriptor.totalBlocks = 0) :
    ((BlockDevice.readAt 0 descriptor.blockSize).run state).1 = .failed (.outOfRange 0 0) := by
  have hmove : perform (Image.seekOverlay 0) state = (.ok (), state) := by
    rw [Image.perform_seekOverlay, h.overlay]
  have hseek : perform (Image.seek 0) state = (.ok (), Image.soughtAt map.bitmap 0 state) := by
    rw [Image.perform_seek hsuits h.stage, if_neg (Nat.not_lt_zero _), hmove]
  have hstage : (Image.soughtAt map.bitmap 0 state).1.stage = .verified descriptor map := h.stage
  rw [BlockDevice.run_readAt hseek]
  show ((Image.read descriptor.blockSize).run (Image.soughtAt map.bitmap 0 state)).1 = _
  rw [Image.run_read hstage, Nat.mod_self, if_neg fun hne => hne rfl, Nat.div_self hsuits.blockSize_pos,
    Image.run_readBlocks_succ, hempty]
  rfl

/-- What cannot be read of the first block and the last used one is found. -/
theorem exists_unread (h : Tells bytes format described layout map)
    (hexamines : Examines (deviceOf bytes format described layout) (described.repaired map.stats.used) map disk state)
    (hlength : bytes.length ≤ Disk.maxOffset)
    (hrecords : map.layout.dataOffset + map.stats.used * map.layout.recordSize < range64) :
    ∃ unread reached, (probeBlocks map.stats.lastUsed).run state = (unread, reached)
      ∧ (∀ problem ∈ unread, Unread problem)
      ∧ (0 < described.totalBlocks → (unread = [] ↔ (deviceOf bytes format described layout).ReadsBack 0
          ∧ ∀ last, map.stats.lastUsed = some last → (deviceOf bytes format described layout).ReadsBack last))
      ∧ (described.totalBlocks = 0 → unread = [.readFailed 0 (.outOfRange 0 0)]) := by
  obtain ⟨reached, hrun⟩ := run_probeBlocks hexamines map.stats.lastUsed
  have hfirst := hexamines.uses (readAt_uses 0 (described.repaired map.stats.used).blockSize state)
  have hgives : ∀ {state : Image ChangeFile × World} {block : Nat},
      Examines (deviceOf bytes format described layout) (described.repaired map.stats.used) map disk state →
      block < described.totalBlocks →
        ((deviceOf bytes format described layout).block block).Gives block
          ((BlockDevice.readAt block (described.repaired map.stats.used).blockSize).run state).1 :=
    fun hstate hblock => hstate.gives h.mirrors hblock (h.recordStart_lt hlength hrecords hblock) rfl
  by_cases hblocks : 0 < described.totalBlocks
  · refine ⟨_, reached, hrun, ?_, fun _ => ?_, fun hempty => by omega⟩
    · intro problem hproblem
      rcases List.mem_append.mp hproblem with hmem | hmem
      · exact unread_of_mem_found (hgives hexamines hblocks) hmem
      · split at hmem
        · next last hlast => exact unread_of_mem_found (hgives hfirst (h.lastUsed_lt hlast).1) hmem
        · cases hmem
    · have hfine : ∀ {state : Image ChangeFile × World} {block : Nat},
          Examines (deviceOf bytes format described layout) (described.repaired map.stats.used) map disk state →
          block < described.totalBlocks →
            (found block ((BlockDevice.readAt block (described.repaired map.stats.used).blockSize).run state).1 = []
              ↔ (deviceOf bytes format described layout).ReadsBack block) :=
        fun hstate hblock => found_eq_nil_iff.trans (hgives hstate hblock).ok_iff
      rw [List.append_eq_nil_iff, hfine hexamines hblocks]
      refine and_congr_right fun hzero => ?_
      rcases hlast : map.stats.lastUsed with _ | (_ | last)
      · exact ⟨fun _ => nofun, fun _ => rfl⟩
      · exact ⟨fun _ last heq => Option.some.inj heq ▸ hzero, fun _ => rfl⟩
      · dsimp only
        rw [hfine hfirst (h.lastUsed_lt hlast).1]
        exact ⟨fun hreads _ heq => Option.some.inj heq ▸ hreads, fun hreads => hreads _ rfl⟩
  · have hempty : described.totalBlocks = 0 := by omega
    have hnone : map.stats.lastUsed = none := by
      rcases hlast : map.stats.lastUsed with _ | last
      · rfl
      · exact absurd (h.lastUsed_lt hlast).1 (by omega)
    have hmissed : found 0 ((BlockDevice.readAt 0 (described.repaired map.stats.used).blockSize).run state).1 ++ []
        = [.readFailed 0 (.outOfRange 0 0)] := by
      rw [readAt_of_empty hexamines h.mirrors.suits hempty]
      rfl
    rw [hnone] at hrun ⊢
    dsimp only at hrun
    rw [hmissed] at hrun
    refine ⟨_, reached, hrun, ?_, fun hpos => absurd hpos hblocks, fun _ => rfl⟩
    intro problem hproblem
    exact ⟨0, _, List.mem_singleton.mp hproblem, rfl⟩

/-! ### Opening -/

theorem run_drop_of_none {image : Image ChangeFile} (h : image.overlay = none) (world : World) :
    (image.drop).run world = ((), world) := by
  have hclose : perform image.close world = (.ok (), world) := by
    rw [Image.close, h]
    rfl
  have hrun : image.close.run.run world = pure (.ok (), world) := hclose
  rw [Image.drop, StateT.run_bind, hrun]
  rfl

theorem delivers_start (hlength : disk.length file ≤ Disk.maxOffset) (path : String) (options : OpenOptions) :
    (Image.ofSource (O := ChangeFile) (.ofFile file) path options ()).source.Delivers disk (disk.content file) :=
  (Source.faultless_ofFile hlength).toDelivers

/-- **A file that verifies, whatever the number of its used blocks, says something**, and the handle is on it. -/
theorem tells_of_openPartition (hfile : world.disk.lookupFile path = .ok file)
    (hlength : world.disk.length file ≤ Disk.maxOffset) {image : Image ChangeFile} {reached : World}
    (hopen : perform (openPartition path {}) world = (.ok image, reached)) :
    ∃ format described layout map, Tells (world.disk.content file) format described layout map
      ∧ Examines (deviceOf (world.disk.content file) format described layout) (described.repaired map.stats.used) map
        world.disk (image, reached) := by
  have hidle : Image.Idle world.disk
      (perform Image.verify (Image.ofSource (O := ChangeFile) (.ofFile file) path {} (), world)).2 :=
    Image.verify_idle _ ⟨rfl, rfl, rfl⟩
  rw [openPartition_eq hfile] at hopen
  rcases hverify : perform Image.verify (Image.ofSource (O := ChangeFile) (.ofFile file) path {} (), world)
    with ⟨result, verified, after⟩
  rw [hverify] at hidle
  cases result with
  | error error =>
    rw [perform_verified_error hverify] at hopen
    cases hopen
  | ok done =>
    rw [perform_verified hverify] at hopen
    cases hopen
    obtain ⟨format, described, layout, map, loaded, hfrom⟩ := Image.verifiedFrom_of_verify hverify
    have hdisk : loaded = world.disk := (hfrom.disk inferInstance).symm.trans hidle.disk
    have hagrees : (Source.ofFile file).backing.Agrees world.disk (world.disk.content file) :=
      (Backing.holds_file hlength).toAgrees
    refine ⟨format, described, layout, map, ⟨hfrom.accepted hagrees, hfrom.mapped (hdisk ▸ hagrees)⟩, hfrom.stage,
      hidle.overlay, ?_, hidle.disk⟩
    rw [hidle.disk]
    exact (delivers_start hlength path {}).later hfrom.steady.source

/-- A handle on such a file that opens no overlay is verified if the number of used blocks does not matter, or is the
right one. -/
theorem exists_verified (h : Tells (world.disk.content file) format described layout map)
    (hlength : world.disk.length file ≤ Disk.maxOffset) (path : String) (options : OpenOptions)
    (hmode : options.mode = .readOnly) (hfactor : options.factor = PrefixCount.defaultFactor)
    (hstrict : options.strict = true → described.usedBlocks = map.stats.used) :
    ∃ image after, perform (verified (Image.ofSource (O := ChangeFile) (.ofFile file) path options ())) world
        = (.ok image, after)
      ∧ Examines (deviceOf (world.disk.content file) format described layout) (described.repaired map.stats.used) map
        world.disk (image, after) := by
  have hdelivers := delivers_start hlength path options
  have hopened : (Image.ofSource (O := ChangeFile) (.ofFile file) path options (), world).1.stage = .opened := rfl
  obtain ⟨⟨image, after⟩, hverify, hplain, hstage⟩ :=
    Image.exists_verify hopened rfl (.inl hmode) hdelivers h.accepted (hfactor ▸ h.mapped) hstrict
  exact ⟨image, after, perform_verified hverify, hstage, hplain.overlay, hplain.delivers hdelivers, hplain.disk⟩

theorem exists_openPartition (hfile : world.disk.lookupFile path = .ok file)
    (h : Tells (world.disk.content file) format described layout map)
    (hlength : world.disk.length file ≤ Disk.maxOffset) :
    ∃ image opened, perform (openPartition path {}) world = (.ok image, opened)
      ∧ image.stage = .verified (described.repaired map.stats.used) map := by
  obtain ⟨image, opened, hverified, hexamines⟩ := exists_verified h hlength path {} rfl rfl nofun
  exact ⟨image, opened, (openPartition_eq hfile {}).trans hverified, hexamines.stage⟩

/-- **Such a file is opened for an inspection**, at the second try if the number of used blocks is wrong. -/
theorem perform_openImage (hfile : world.disk.lookupFile path = .ok file)
    (h : Tells (world.disk.content file) format described layout map)
    (hlength : world.disk.length file ≤ Disk.maxOffset) :
    ∃ image after, perform (openImage path) world
        = (.ok (image, if described.usedBlocks = map.stats.used then []
            else [.staleUsedCount described.usedBlocks map.stats.used]), after)
      ∧ Examines (deviceOf (world.disk.content file) format described layout) (described.repaired map.stats.used) map
        world.disk (image, after) := by
  have hopen : ∀ (reached : World) (options : OpenOptions), reached.disk.lookupFile path = .ok file →
      perform (.zoom id (fun world _ => world) (.openFailed path) (Image.open path options ()) :
        Action World InspectError (Image ChangeFile)) reached
        = (.ok (Image.ofSource (.ofFile file) path options ()), reached) := by
    intro reached options hfound
    rw [Action.perform_zoom, id, Image.perform_open (O := ChangeFile) hfound options ()]
    rfl
  rw [openImage, perform_bind_ok (hopen world _ hfile), perform_bind_ok (Action.perform_attempt _ world)]
  by_cases hused : described.usedBlocks = map.stats.used
  · obtain ⟨image, after, hverified, hexamines⟩ :=
      exists_verified h hlength path { strict := true } rfl rfl fun _ => hused
    rw [if_pos hused, hverified]
    exact ⟨image, after, rfl, hexamines⟩
  · have hdelivers := delivers_start hlength path { strict := true }
    have hopened : (Image.ofSource (O := ChangeFile) (.ofFile file) path { strict := true } (), world).1.stage
        = .opened := rfl
    obtain ⟨⟨refused, reached⟩, hverify, hplain⟩ :=
      Image.verify_refuses hopened (.inl rfl) hdelivers h.accepted h.mapped rfl hused
    have hdisk : reached.disk = world.disk := hplain.disk
    rw [if_neg hused, perform_verified_error hverify]
    show ∃ image after, perform (_ >>= _) ((refused.drop).run reached).2 = _ ∧ _
    rw [run_drop_of_none hplain.overlay, perform_bind_ok (hopen reached _ (hdisk ▸ hfile))]
    rw [← hdisk] at h hlength
    obtain ⟨image, after, hverified, hexamines⟩ := exists_verified h hlength path {} rfl rfl nofun
    refine ⟨image, after, ?_, hdisk ▸ hexamines⟩
    have hagain : perform (.zoom id (fun world _ => world) (.verifyFailed path)
        (verified (Image.ofSource (O := ChangeFile) (.ofFile file) path {} ())) :
          Action World InspectError (Image ChangeFile)) reached = (.ok image, after) := by
      rw [Action.perform_zoom, id, hverified]
      rfl
    rw [perform_bind_ok hagain]
    rfl

/-! ### The report -/

/-- The report on a file that says something, with what was found in it. -/
def reportOf (path : String) (fileSize : Nat) (described : Descriptor) (map : BlockMap) (unread : List Problem) :
    Report where
  path := path
  descriptor := described.repaired map.stats.used
  stats := map.stats
  fileSize := fileSize
  dataOffset := map.layout.dataOffset
  recordSize := map.layout.recordSize
  records := (fileSize - map.layout.dataOffset) / map.layout.recordSize
  remainder := if map.layout.recordSize = 0 then fileSize - map.layout.dataOffset
    else (fileSize - map.layout.dataOffset) % map.layout.recordSize
  problems := (if described.usedBlocks = map.stats.used then []
      else [.staleUsedCount described.usedBlocks map.stats.used])
    ++ (if 0 < map.stats.anomalous then [.anomalousBitmap map.stats.anomalous] else [])
    ++ sizeProblems (map.layout.dataOffset + map.stats.used * map.layout.recordSize) fileSize ++ unread

/-- **An inspection of a file that says something gives a report, or panics**: it panics just where the end of the
records is not below `2^64`.  A read of it never does, so that no panic is reported as a problem. -/
theorem perform_inspect (hfile : world.disk.lookupFile path = .ok file)
    (h : Tells (world.disk.content file) format described layout map)
    (hlength : world.disk.length file ≤ Disk.maxOffset) :
    (range64 ≤ map.layout.dataOffset + map.stats.used * map.layout.recordSize →
      (perform (inspect path) world).1 = .error .overflow)
    ∧ (map.layout.dataOffset + map.stats.used * map.layout.recordSize < range64 → ∃ unread after,
      perform (inspect path) world = (.ok (reportOf path (world.disk.length file) described map unread), after)
        ∧ (∀ problem ∈ unread, Unread problem)
        ∧ (0 < described.totalBlocks →
          (unread = [] ↔ (deviceOf (world.disk.content file) format described layout).ReadsBack 0
            ∧ ∀ last, map.stats.lastUsed = some last →
              (deviceOf (world.disk.content file) format described layout).ReadsBack last))
        ∧ (described.totalBlocks = 0 → unread = [.readFailed 0 (.outOfRange 0 0)])) := by
  obtain ⟨image, opened, hopen, hexamines⟩ := perform_openImage hfile h hlength
  have hdescriptor : image.descriptor? = some (described.repaired map.stats.used) := by
    rw [Image.descriptor?, hexamines.stage]
    rfl
  have hstats : image.stats? = some map.stats := by
    rw [Image.stats?, hexamines.stage]
  have hdataOffset : image.dataOffset? = some map.layout.dataOffset := by
    rw [Image.dataOffset?, hexamines.stage]
    rfl
  have hrecordSize : image.recordSize? = some map.layout.recordSize := by
    rw [Image.recordSize?, hexamines.stage]
    rfl
  have hsize : (opened.disk.size path).mapError (InspectError.sizeFailed path) = .ok (world.disk.length file) := by
    rw [show opened.disk = world.disk from hexamines.disk_eq, Disk.size_of_lookupFile hfile]
    rfl
  rw [inspect, perform_bind_ok hopen]
  dsimp only
  rw [hdescriptor, hstats, hdataOffset, hrecordSize]
  dsimp only
  rw [perform_bind_ok (Action.perform_get opened), hsize, perform_bind_ok (Action.perform_ofExcept _ opened),
    recordsEnd?]
  constructor
  · intro hfar
    rw [checked64?_of_le hfar]
    rfl
  · intro hrecords
    obtain ⟨unread, ⟨probed, settled⟩, hrun, hfound⟩ :=
      exists_unread h hexamines (world.disk.length_eq file ▸ hlength) hrecords
    refine ⟨unread, ((probed.drop).run settled).2, ?_, hfound⟩
    rw [checked64?_of_lt hrecords,
      show probeBlocks map.stats.lastUsed (image, opened) = (unread, probed, settled) from hrun]
    rfl

/-- What a report has to say of a file: `described` is its head, `map` its bitmap, and `fileSize` its length. -/
structure Accurate (fileSize : Nat) (described : Descriptor) (map : BlockMap) (readsBack : Nat → Prop)
    (report : Report) : Prop where
  fileSize_eq : report.fileSize = fileSize
  dataOffset_eq : report.dataOffset = map.layout.dataOffset
  recordSize_eq : report.recordSize = map.layout.recordSize
  stats_eq : report.stats = map.stats
  /-- Of an image with blocks nothing is found just when it is consistent. -/
  isOk_iff : 0 < described.totalBlocks → (report.isOk = true
    ↔ described.usedBlocks = map.stats.used ∧ map.stats.anomalous = 0
      ∧ fileSize = map.layout.dataOffset + map.stats.used * map.layout.recordSize
      ∧ readsBack 0 ∧ ∀ last, map.stats.lastUsed = some last → readsBack last)
  /-- Of an image without blocks the first one is missed. -/
  missed : described.totalBlocks = 0 → .readFailed 0 (.outOfRange 0 0) ∈ report.problems
  stale_iff : ∀ recorded scanned, .staleUsedCount recorded scanned ∈ report.problems
    ↔ recorded ≠ scanned ∧ recorded = described.usedBlocks ∧ scanned = map.stats.used
  truncated_iff : ∀ missing, .truncated missing ∈ report.problems
    ↔ 0 < missing ∧ fileSize + missing = map.layout.dataOffset + map.stats.used * map.layout.recordSize
  trailing_iff : ∀ more, .trailingData more ∈ report.problems
    ↔ 0 < more ∧ fileSize = map.layout.dataOffset + map.stats.used * map.layout.recordSize + more
  apart : ∀ missing more, .truncated missing ∈ report.problems → .trailingData more ∉ report.problems
  records_eq : report.records * report.recordSize + report.remainder = report.fileSize - report.dataOffset

theorem mem_sizeProblems {stop fileSize : Nat} {problem : Problem} :
    problem ∈ sizeProblems stop fileSize
      ↔ (∃ missing, problem = .truncated missing ∧ 0 < missing ∧ fileSize + missing = stop)
        ∨ ∃ more, problem = .trailingData more ∧ 0 < more ∧ fileSize = stop + more := by
  unfold sizeProblems
  constructor
  · intro hmem
    split at hmem
    · exact .inl ⟨_, List.mem_singleton.mp hmem, by omega, by omega⟩
    · split at hmem
      · exact .inr ⟨_, List.mem_singleton.mp hmem, by omega, by omega⟩
      · cases hmem
  · rintro (⟨missing, rfl, hmissing, hstop⟩ | ⟨more, rfl, hmore, hstop⟩)
    · rw [if_pos (by omega), List.mem_singleton, show stop - fileSize = missing by omega]
    · rw [if_neg (by omega), if_pos (by omega), List.mem_singleton, show fileSize - stop = more by omega]

theorem sizeProblems_eq_nil_iff {stop fileSize : Nat} : sizeProblems stop fileSize = [] ↔ fileSize = stop := by
  unfold sizeProblems
  split
  · exact ⟨nofun, fun heq => by omega⟩
  · split
    · exact ⟨nofun, fun heq => by omega⟩
    · exact ⟨fun _ => by omega, fun _ => rfl⟩

/-- What can be among the problems of a file. -/
theorem mem_problems (path : String) (fileSize : Nat) (described : Descriptor) (unread : List Problem)
    (problem : Problem) :
    problem ∈ (reportOf path fileSize described map unread).problems
      ↔ (described.usedBlocks ≠ map.stats.used ∧ problem = .staleUsedCount described.usedBlocks map.stats.used)
        ∨ (0 < map.stats.anomalous ∧ problem = .anomalousBitmap map.stats.anomalous)
        ∨ (∃ missing, problem = .truncated missing ∧ 0 < missing
          ∧ fileSize + missing = map.layout.dataOffset + map.stats.used * map.layout.recordSize)
        ∨ (∃ more, problem = .trailingData more ∧ 0 < more
          ∧ fileSize = map.layout.dataOffset + map.stats.used * map.layout.recordSize + more)
        ∨ problem ∈ unread := by
  have hstale : problem ∈ (if described.usedBlocks = map.stats.used then []
      else [.staleUsedCount described.usedBlocks map.stats.used])
        ↔ described.usedBlocks ≠ map.stats.used ∧ problem = .staleUsedCount described.usedBlocks map.stats.used := by
    split
    · next heq => exact ⟨(nomatch ·), fun h => absurd heq h.1⟩
    · next hne => exact List.mem_singleton.trans ⟨fun h => ⟨hne, h⟩, fun h => h.2⟩
  have hanomalous : problem ∈ (if 0 < map.stats.anomalous then [.anomalousBitmap map.stats.anomalous] else [])
        ↔ 0 < map.stats.anomalous ∧ problem = .anomalousBitmap map.stats.anomalous := by
    split
    · next hpos => exact List.mem_singleton.trans ⟨fun h => ⟨hpos, h⟩, fun h => h.2⟩
    · next hpos => exact ⟨(nomatch ·), fun h => absurd h.1 hpos⟩
  rw [reportOf, List.mem_append, List.mem_append, List.mem_append, hstale, hanomalous, mem_sizeProblems]
  simp only [or_assoc]

/-- Nothing is found in a file that is consistent. -/
theorem isOk_reportOf {fileSize : Nat} {unread : List Problem} :
    (reportOf path fileSize described map unread).isOk = true
      ↔ described.usedBlocks = map.stats.used ∧ map.stats.anomalous = 0
        ∧ fileSize = map.layout.dataOffset + map.stats.used * map.layout.recordSize ∧ unread = [] := by
  rw [Report.isOk, List.isEmpty_iff, reportOf]
  simp only [List.append_eq_nil_iff, sizeProblems_eq_nil_iff, ite_eq_left_iff, ite_eq_right_iff, List.cons_ne_nil,
    imp_false, Decidable.not_not, Nat.not_lt, Nat.le_zero, and_assoc]

section

variable {fileSize : Nat} {unread : List Problem} (hfailures : ∀ problem ∈ unread, Unread problem)

include hfailures

/-- A problem that is none of the reads is one of the numbers. -/
theorem mem_problems_of_ne {problem : Problem} (hne : ∀ block cause, problem ≠ .readFailed block cause) :
    problem ∈ (reportOf path fileSize described map unread).problems
      ↔ (described.usedBlocks ≠ map.stats.used ∧ problem = .staleUsedCount described.usedBlocks map.stats.used)
        ∨ (0 < map.stats.anomalous ∧ problem = .anomalousBitmap map.stats.anomalous)
        ∨ (∃ missing, problem = .truncated missing ∧ 0 < missing
          ∧ fileSize + missing = map.layout.dataOffset + map.stats.used * map.layout.recordSize)
        ∨ ∃ more, problem = .trailingData more ∧ 0 < more
          ∧ fileSize = map.layout.dataOffset + map.stats.used * map.layout.recordSize + more := by
  have hnotin : problem ∉ unread := by
    intro hmem
    obtain ⟨block, cause, heq, -⟩ := hfailures problem hmem
    exact hne block cause heq
  rw [mem_problems, or_iff_left hnotin]

theorem staleUsedCount_mem_iff (recorded scanned : Nat) :
    .staleUsedCount recorded scanned ∈ (reportOf path fileSize described map unread).problems
      ↔ recorded ≠ scanned ∧ recorded = described.usedBlocks ∧ scanned = map.stats.used := by
  rw [mem_problems_of_ne hfailures fun _ _ => by rintro ⟨⟩]
  constructor
  · rintro (⟨hne, ⟨⟩⟩ | ⟨-, ⟨⟩⟩ | ⟨missing, ⟨⟩, -⟩ | ⟨more, ⟨⟩, -⟩)
    exact ⟨hne, rfl, rfl⟩
  · rintro ⟨hne, rfl, rfl⟩
    exact .inl ⟨hne, rfl⟩

theorem truncated_mem_iff (missing : Nat) :
    .truncated missing ∈ (reportOf path fileSize described map unread).problems
      ↔ 0 < missing ∧ fileSize + missing = map.layout.dataOffset + map.stats.used * map.layout.recordSize := by
  rw [mem_problems_of_ne hfailures fun _ _ => by rintro ⟨⟩]
  constructor
  · rintro (⟨-, ⟨⟩⟩ | ⟨-, ⟨⟩⟩ | ⟨missing, ⟨⟩, hstop⟩ | ⟨more, ⟨⟩, -⟩)
    exact hstop
  · exact fun hstop => .inr (.inr (.inl ⟨missing, rfl, hstop⟩))

theorem trailingData_mem_iff (more : Nat) :
    .trailingData more ∈ (reportOf path fileSize described map unread).problems
      ↔ 0 < more ∧ fileSize = map.layout.dataOffset + map.stats.used * map.layout.recordSize + more := by
  rw [mem_problems_of_ne hfailures fun _ _ => by rintro ⟨⟩]
  constructor
  · rintro (⟨-, ⟨⟩⟩ | ⟨-, ⟨⟩⟩ | ⟨missing, ⟨⟩, -⟩ | ⟨more, ⟨⟩, hstop⟩)
    exact hstop
  · exact fun hstop => .inr (.inr (.inr ⟨more, rfl, hstop⟩))

end

theorem accurate_reportOf (hrecordSize : 0 < map.layout.recordSize) {fileSize : Nat} {unread : List Problem}
    {readsBack : Nat → Prop} (hfailures : ∀ problem ∈ unread, Unread problem)
    (hreads : 0 < described.totalBlocks →
      (unread = [] ↔ readsBack 0 ∧ ∀ last, map.stats.lastUsed = some last → readsBack last))
    (hempty : described.totalBlocks = 0 → unread = [.readFailed 0 (.outOfRange 0 0)]) :
    Accurate fileSize described map readsBack (reportOf path fileSize described map unread) := by
  refine ⟨rfl, rfl, rfl, rfl, ?_, ?_, staleUsedCount_mem_iff hfailures, truncated_mem_iff hfailures,
    trailingData_mem_iff hfailures, ?_, ?_⟩
  · intro hblocks
    rw [isOk_reportOf, hreads hblocks]
  · intro hnone
    rw [mem_problems, hempty hnone]
    exact .inr (.inr (.inr (.inr (List.mem_singleton_self _))))
  · intro missing more hmissing hmore
    have hshort := (truncated_mem_iff hfailures missing).mp hmissing
    have hlong := (trailingData_mem_iff hfailures more).mp hmore
    omega
  · show (fileSize - map.layout.dataOffset) / map.layout.recordSize * map.layout.recordSize
      + (if map.layout.recordSize = 0 then _ else (fileSize - map.layout.dataOffset) % map.layout.recordSize) = _
    rw [if_neg (Nat.pos_iff_ne_zero.mp hrecordSize), Nat.div_add_mod']
    rfl

/-! ### Images that were made -/

/-- An image that was made says what was put into it, and agrees with itself. -/
theorem tells_image (archive : Archive) (hmemory : bytesForBits archive.total < allocationLimit)
    (hlength : archive.bytes.length ≤ Disk.maxOffset) :
    ∃ described map, Tells archive.bytes archive.head.format described archive.layout map
      ∧ deviceOf archive.bytes archive.head.format described archive.layout = archive.device archive.records
      ∧ described.usedBlocks = map.stats.used ∧ map.stats.anomalous = 0
      ∧ archive.bytes.length = map.layout.dataOffset + map.stats.used * map.layout.recordSize := by
  obtain ⟨described, map, haccepted, hmapped, hmirrors, hused⟩ :=
    Image.exists_map archive archive.records PrefixCount.defaultFactor hmemory
  have htells : Tells archive.bytes archive.head.format described archive.layout map := ⟨haccepted, hmapped⟩
  have htotal : described.totalBlocks = archive.total := hmirrors.total_eq
  refine ⟨described, map, htells, ?_, hused, ?_, ?_⟩
  · rw [deviceOf, htotal]
    rfl
  · rw [(BlockMap.stats_of hmapped).1, htotal]
    exact archive.anomalies_image archive.records
  · rw [htells.dataOffset_eq hlength, htells.layout_eq, Image.used_eq hmirrors, ← Archive.length_records]
    exact archive.length_image archive.records

/-- **Nothing is found in an image that was made**, unless it has no blocks. -/
theorem perform_inspect_image (hfile : world.disk.lookupFile path = .ok file)
    (hlength : world.disk.length file ≤ Disk.maxOffset) {archive : Archive}
    (hcontent : world.disk.content file = archive.bytes) (hmemory : bytesForBits archive.total < allocationLimit) :
    ∃ report after, perform (inspect path) world = (.ok report, after)
      ∧ report.problems = if archive.total = 0 then [.readFailed 0 (.outOfRange 0 0)] else [] := by
  have hbytes : archive.bytes.length = world.disk.length file := by rw [← hcontent, ← Disk.length_eq]
  obtain ⟨described, map, htells, hdevice, hused, hanomalous, hsize⟩ :=
    tells_image archive hmemory (hbytes ▸ hlength)
  have hmax : Disk.maxOffset < range64 := by decide
  have hrecords : map.layout.dataOffset + map.stats.used * map.layout.recordSize < range64 := by omega
  have htotal : described.totalBlocks = archive.total := congrArg Device.total hdevice
  rw [← hcontent] at htells hdevice
  obtain ⟨unread, after, hinspect, -, hreads, hempty⟩ := (perform_inspect hfile htells hlength).2 hrecords
  refine ⟨_, after, hinspect, ?_⟩
  by_cases hnone : archive.total = 0
  · rw [if_pos hnone, reportOf, if_pos hused, hanomalous, sizeProblems_eq_nil_iff.mpr (hbytes.symm.trans hsize),
      hempty (htotal.trans hnone)]
    rfl
  · have hread : ∀ block, block < archive.total →
        (deviceOf (world.disk.content file) archive.head.format described archive.layout).ReadsBack block := by
      intro block hblock
      rw [hdevice]
      exact ⟨_, Archive.block_eq hblock⟩
    have hunread : unread = [] := (hreads (by omega)).mpr
      ⟨hread 0 (by omega), fun last hlast => hread last (htotal ▸ (htells.lastUsed_lt hlast).1)⟩
    rw [if_neg hnone, ← List.isEmpty_iff]
    exact isOk_reportOf.mpr ⟨hused, hanomalous, hbytes.symm.trans hsize, hunread⟩

end Inspection

variable {world : World} {path : String} {file : FileId}

open Inspection (Tells Accurate)

/-- **An inspection finds something just when the image is inconsistent.**  Every file that can be verified with
whatever number of used blocks can be inspected.  Where the records end within 64 bits, nothing is found in an image
with blocks just when the number of used blocks is right, all entries of the bitmap are 0 or 1, the file ends where the
last record does, and the first block and the last used one can be read.  The numbers that a problem gives are right.
Nothing is found in an image that was made, unless it has no blocks: a first block is missed there. -/
theorem inspect_accurate (hfile : world.disk.lookupFile path = .ok file)
    (hlength : world.disk.length file ≤ Disk.maxOffset) :
    (∀ image reached descriptor map, perform (openPartition path {}) world = (.ok image, reached) →
      image.stage = .verified descriptor map →
      map.layout.dataOffset + map.stats.used * map.layout.recordSize < range64 →
        ∃ format described layout report after, Tells (world.disk.content file) format described layout map
          ∧ descriptor = described.repaired map.stats.used
          ∧ perform (inspect path) world = (.ok report, after)
          ∧ Accurate (world.disk.length file) described map
            (fun block => ((BlockDevice.readAt block descriptor.blockSize).run (image, reached)).1.result = .ok ())
            report)
    ∧ ∀ archive : Archive, world.disk.content file = archive.bytes →
      bytesForBits archive.total < allocationLimit →
        ∃ report after, perform (inspect path) world = (.ok report, after)
          ∧ report.problems = if archive.total = 0 then [.readFailed 0 (.outOfRange 0 0)] else [] := by
  constructor
  · intro image reached descriptor map hopen hstage hrecords
    obtain ⟨format, described, layout, found, htells, hexamines⟩ :=
      Inspection.tells_of_openPartition hfile hlength hopen
    obtain ⟨rfl, rfl⟩ := Stage.verified.inj (hstage.symm.trans hexamines.stage)
    obtain ⟨unread, after, hinspect, hfailures, hreads, hempty⟩ :=
      (Inspection.perform_inspect hfile htells hlength).2 hrecords
    have hrecordSize : 0 < map.layout.recordSize := by
      have hpos := htells.mirrors.suits.blockSize_pos
      rw [← htells.mirrors.suits.blockSize_eq] at hpos
      exact Nat.lt_of_lt_of_le hpos (Nat.le_add_right _ _)
    refine ⟨format, described, layout, _, after, htells, rfl, hinspect,
      Inspection.accurate_reportOf hrecordSize hfailures ?_ hempty⟩
    intro hblocks
    have hback : ∀ block, block < described.totalBlocks → (_ ↔ _) := fun block hblock =>
      (hexamines.gives htells.mirrors hblock
        (htells.recordStart_lt (world.disk.length_eq file ▸ hlength) hrecords hblock) rfl).ok_iff
    rw [hreads hblocks]
    refine and_congr (hback 0 hblocks).symm (forall_congr' fun last => ?_)
    exact forall_congr' fun hlast => (hback last (htells.lastUsed_lt hlast).1).symm
  · intro archive hcontent hmemory
    exact Inspection.perform_inspect_image hfile hlength hcontent hmemory

/-- In an image of three blocks nothing is found. -/
theorem inspect_accurate_threeBlocks :
    (imageDisk Image.threeBlocks.bytes).lookupFile "a.img" = .ok 0
      ∧ (imageDisk Image.threeBlocks.bytes).length 0 ≤ Disk.maxOffset
      ∧ ∃ image reached descriptor map report after,
        perform (openPartition "a.img" {}) { disk := imageDisk Image.threeBlocks.bytes } = (.ok image, reached)
          ∧ image.stage = .verified descriptor map
          ∧ map.layout.dataOffset + map.stats.used * map.layout.recordSize < range64
          ∧ perform (inspect "a.img") { disk := imageDisk Image.threeBlocks.bytes } = (.ok report, after)
          ∧ report.isOk = true ∧ report.stats.used = map.stats.used := by
  have hbytes : Image.threeBlocks.bytes.length ≤ Disk.maxOffset := by
    rw [Archive.bytes, Archive.length_image, Archive.length_records]
    decide
  have hlength : (imageDisk Image.threeBlocks.bytes).length 0 ≤ Disk.maxOffset := by
    rw [length_imageDisk]
    exact hbytes
  have hfile : ({ disk := imageDisk Image.threeBlocks.bytes } : World).disk.lookupFile "a.img" = .ok 0 :=
    lookupFile_imageDisk _
  have hcontent : ({ disk := imageDisk Image.threeBlocks.bytes } : World).disk.content 0 = Image.threeBlocks.bytes :=
    content_imageDisk _
  obtain ⟨described, map, htells, -, -, -, hsize⟩ := Inspection.tells_image Image.threeBlocks (by decide) hbytes
  rw [← hcontent] at htells
  obtain ⟨image, reached, hopen, hstage⟩ := Inspection.exists_openPartition hfile htells hlength
  have hmax : Disk.maxOffset < range64 := by decide
  have hrecords : map.layout.dataOffset + map.stats.used * map.layout.recordSize < range64 := by omega
  obtain ⟨_, _, _, report, after, -, -, hinspect, haccurate⟩ :=
    (inspect_accurate hfile hlength).1 image reached _ map hopen hstage hrecords
  obtain ⟨again, settled, hagain, hproblems⟩ :=
    (inspect_accurate hfile hlength).2 Image.threeBlocks hcontent (by decide)
  obtain ⟨hreport, -⟩ := Prod.mk.inj (hinspect.symm.trans hagain)
  obtain rfl := Except.ok.inj hreport
  rw [if_neg (by decide)] at hproblems
  exact ⟨hfile, hlength, image, reached, _, map, report, after, hopen, hstage, hrecords, hinspect,
    List.isEmpty_iff.mpr hproblems, congrArg BitmapStats.used haccurate.stats_eq⟩

/-- An image of no blocks. -/
def Image.noBlocks : Archive := .plain [] (by decide)

/-- An image of no blocks can be verified, and agrees with itself, but its first block is missed. -/
theorem inspect_noBlocks :
    ∃ image opened described map report after,
      perform (openPartition "a.img" {}) { disk := imageDisk Image.noBlocks.bytes } = (.ok image, opened)
        ∧ image.stage = .verified (described.repaired map.stats.used) map
        ∧ Tells Image.noBlocks.bytes Image.noBlocks.head.format described Image.noBlocks.layout map
        ∧ described.totalBlocks = 0 ∧ described.usedBlocks = map.stats.used ∧ map.stats.anomalous = 0
        ∧ map.stats.lastUsed = none
        ∧ (imageDisk Image.noBlocks.bytes).length 0
          = map.layout.dataOffset + map.stats.used * map.layout.recordSize
        ∧ perform (inspect "a.img") { disk := imageDisk Image.noBlocks.bytes } = (.ok report, after)
        ∧ report.problems = [.readFailed 0 (.outOfRange 0 0)] ∧ report.isOk = false := by
  have hbytes : Image.noBlocks.bytes.length ≤ Disk.maxOffset := by
    rw [Archive.bytes, Archive.length_image, Archive.length_records]
    decide
  have hlength : (imageDisk Image.noBlocks.bytes).length 0 = Image.noBlocks.bytes.length := length_imageDisk _
  have hfile : ({ disk := imageDisk Image.noBlocks.bytes } : World).disk.lookupFile "a.img" = .ok 0 :=
    lookupFile_imageDisk _
  have hcontent : ({ disk := imageDisk Image.noBlocks.bytes } : World).disk.content 0 = Image.noBlocks.bytes :=
    content_imageDisk _
  obtain ⟨described, map, htells, hdevice, hused, hanomalous, hsize⟩ :=
    Inspection.tells_image Image.noBlocks (by decide) hbytes
  have hempty : described.totalBlocks = 0 := congrArg Device.total hdevice
  have hlast : map.stats.lastUsed = none := by
    refine Option.eq_none_iff_forall_ne_some.mpr fun last hlast => ?_
    exact absurd (htells.lastUsed_lt hlast).1 (by omega)
  obtain ⟨image, opened, hopen, hstage⟩ :=
    Inspection.exists_openPartition hfile (hcontent.symm ▸ htells) (hlength ▸ hbytes)
  obtain ⟨report, after, hinspect, hproblems⟩ :=
    Inspection.perform_inspect_image hfile (hlength ▸ hbytes) hcontent (by decide)
  rw [if_pos (by rfl)] at hproblems
  refine ⟨image, opened, described, map, report, after, hopen, hstage, htells, hempty, hused, hanomalous, hlast,
    hlength.trans hsize, hinspect, hproblems, ?_⟩
  rw [Report.isOk, hproblems]
  rfl

end PartitionImage
