import PartitionImage.Proofs.Image.Memory
/-!
# Reading on without a seek

Where the count of passed records is in step with the cursor, a seek to the cursor changes nothing that
a read can see: the overlay is sought again for every block.  Where it is not, the next record that is
read belongs to another block.

* `Image.read_after_seek` is the first half, for any overlay that keeps the laws.
* `Image.read_after_write` says after which writes the count is in step, `Image.retry_after_fault` after
  which failed reads.
-/

namespace PartitionImage.Image

variable {O : Type} [Overlay O] {descriptor : Descriptor} {map : BlockMap}

open PartitionImage.Action (Respects perform perform_bind_inv perform_bind_ok)

/-! ### Seeking twice -/

theorem seekOverlay_seekOverlay [LawfulOverlay O] {first : Nat} (second : Nat)
    {state reached : Image O × World}
    (h : perform (seekOverlay first) state = (.ok (), reached)) :
    (perform (seekOverlay second) reached).1 = (perform (seekOverlay second) state).1
      ∧ ((perform (seekOverlay second) state).1 = .ok () →
        (perform (seekOverlay second) reached).2 = (perform (seekOverlay second) state).2) := by
  rw [perform_seekOverlay] at h
  rw [perform_seekOverlay, perform_seekOverlay]
  cases hoverlay : state.1.overlay with
  | none =>
    rw [hoverlay] at h
    cases h
    rw [hoverlay]
    exact ⟨rfl, fun _ => rfl⟩
  | some store =>
    rw [hoverlay] at h
    obtain ⟨hok, rfl⟩ := Prod.mk.inj h
    have hfirst : perform (Overlay.seek first) (store, state.2.disk)
        = (.ok (), (perform (Overlay.seek first) (store, state.2.disk)).2) :=
      Prod.ext (Action.mapError_eq_ok_iff.mp hok) rfl
    obtain ⟨hresult, hstate⟩ := LawfulOverlay.seek_seek second hfirst
    refine ⟨congrArg (Except.mapError Error.overlay) hresult, ?_⟩
    intro hsecond
    have hsame := hstate (Action.mapError_eq_ok_iff.mp hsecond)
    exact congrArg (fun attached => withOverlay attached state) hsame

/-- A block that is read after a seek in the overlay is read as it would have been before, or the
overlay refuses both times. -/
theorem readBlock_sought [LawfulOverlay O] (hsuits : map.Suits descriptor) {first block : Nat}
    {state reached : Image O × World}
    (h : perform (seekOverlay first) state = (.ok (), reached)) {used : Bool}
    (hused : map.bitmap.get? block = some used) :
    (readBlock map block descriptor.blockSize).run reached = (readBlock map block descriptor.blockSize).run state
      ∨ ∃ error, ((readBlock map block descriptor.blockSize).run reached).1 = .failed error
        ∧ ((readBlock map block descriptor.blockSize).run state).1 = .failed error
        ∧ Still state ((readBlock map block descriptor.blockSize).run reached).2
        ∧ Still state ((readBlock map block descriptor.blockSize).run state).2 := by
  obtain ⟨hresult, hstate⟩ := seekOverlay_seekOverlay block h
  have hstill := (seekOverlay_still first).of_perform h
  cases hseek : (perform (seekOverlay block) state).1 with
  | ok done =>
    have hsame : perform (seekOverlay block) reached = perform (seekOverlay block) state :=
      Prod.ext hresult (hstate hseek)
    have hask : (readOverlay block descriptor.blockSize).run reached
        = (readOverlay block descriptor.blockSize).run state := by
      rw [run_readOverlay, run_readOverlay, hsame]
    rcases hasked : (readOverlay block descriptor.blockSize).run state with ⟨overlaid, asked⟩
    refine .inl ?_
    rw [run_readBlock hsuits hused (hask.trans hasked), run_readBlock hsuits hused hasked]
  | error error =>
    have hrefused : ∀ other : Image O × World,
        (perform (seekOverlay block) other).1 = .error error →
          (readBlock map block descriptor.blockSize).run other
            = (.failed error, (perform (seekOverlay block) other).2) := by
      intro other hother
      have hask : (readOverlay block descriptor.blockSize).run other
          = (.failed error, (perform (seekOverlay block) other).2) := by
        rw [run_readOverlay,
          show perform (seekOverlay block) other
            = (.error error, (perform (seekOverlay block) other).2) from Prod.ext hother rfl]
      rw [run_readBlock hsuits hused hask]
      rfl
    rw [hrefused reached (hresult.trans hseek), hrefused state hseek]
    exact .inr ⟨error, rfl, rfl, hstill.trans (seekOverlay_still block reached),
      seekOverlay_still block state⟩

theorem readBlocks_sought [LawfulOverlay O] (hsuits : map.Suits descriptor) {first : Nat}
    {state reached : Image O × World}
    (h : perform (seekOverlay first) state = (.ok (), reached)) (n : Nat) :
    ((readBlocks descriptor map n).run reached).1 = ((readBlocks descriptor map n).run state).1
      ∧ ((readBlocks descriptor map n).run reached).2.1.cursor
        = ((readBlocks descriptor map n).run state).2.1.cursor := by
  have hcursor : reached.1.cursor = state.1.cursor :=
    ((seekOverlay_still first).of_perform h).cursor
  cases n with
  | zero => exact ⟨rfl, hcursor⟩
  | succ n =>
    rw [run_readBlocks_succ, run_readBlocks_succ, hcursor]
    by_cases hend : descriptor.totalBlocks ≤ state.1.cursor
    · rw [if_pos hend, if_pos hend]
      exact ⟨rfl, hcursor⟩
    · rw [if_neg hend, if_neg hend]
      have hlt : state.1.cursor < map.bitmap.length := by
        rw [hsuits.length_eq]
        omega
      have hused := map.bitmap.get?_eq_some hlt
      rcases readBlock_sought hsuits h hused with hsame | ⟨error, hfirst, hsecond, hstill, hstill'⟩
      · rw [hsame]
        exact ⟨rfl, rfl⟩
      · dsimp only
        rw [hfirst, hsecond]
        exact ⟨hfirst.trans hsecond.symm, hstill.cursor.trans hstill'.cursor.symm⟩

/-- **Where the count is in step, a seek to the cursor changes nothing that a read can see.** -/
theorem read_after_seek [LawfulOverlay O] (hsuits : map.Suits descriptor)
    {state sought : Image O × World} (hstage : state.1.stage = .verified descriptor map)
    (hstep : state.1.passed = map.bitmap.count 0 state.1.cursor)
    (hseek : perform (seek state.1.cursor) state = (.ok (), sought)) (length : Nat) :
    ((read length).run sought).1 = ((read length).run state).1
      ∧ ((read length).run sought).2.1.cursor = ((read length).run state).2.1.cursor := by
  rw [perform_seek hsuits hstage] at hseek
  split at hseek
  · cases hseek
  · rcases hmove : perform (seekOverlay state.1.cursor) state with ⟨result, reached⟩
    rw [hmove] at hseek
    cases result with
    | error error => cases hseek
    | ok done =>
      have hstill := (seekOverlay_still state.1.cursor).of_perform hmove
      have hsought : sought = reached := by
        obtain ⟨-, rfl⟩ := Prod.mk.inj hseek
        have hpassed : map.bitmap.count 0 state.1.cursor = reached.1.passed := by
          rw [← hstep, hstill.passed, Nat.add_zero]
        have hcursor : state.1.cursor = reached.1.cursor := hstill.cursor.symm
        rw [soughtAt, hpassed, hcursor]
      subst hsought
      rw [run_read hstage, run_read (hstill.stage.trans hstage)]
      split
      · exact ⟨rfl, hstill.cursor⟩
      · exact readBlocks_sought hsuits hmove _

/-! ### After a write -/

/-- **A write leaves the count in step unless a used block was written since the last seek**, and then a
read goes on as after a seek to the cursor.  No read may have failed at its record before. -/
theorem read_after_write [LawfulOverlay O] {start verified : Image O × World}
    (hverify : perform verify start = (.ok (), verified))
    (hstage : verified.1.stage = .verified descriptor map) (operations : List Operation)
    (hfailed : (tally map.bitmap operations verified).failed = 0) (data : Bytes)
    {written : Image O × World}
    (hwrite : perform (write data) (Operation.run operations verified) = (.ok (), written)) :
    (written.1.passed = map.bitmap.count 0 written.1.cursor
        ↔ (tally map.bitmap (operations ++ [.write data]) verified).written = 0)
      ∧ ((tally map.bitmap (operations ++ [.write data]) verified).written = 0 →
        ∀ (length : Nat) (sought : Image O × World),
          perform (seek written.1.cursor) written = (.ok (), sought) →
            ((read length).run written).1 = ((read length).run sought).1
              ∧ ((read length).run written).2.1.cursor
                = ((read length).run sought).2.1.cursor) := by
  obtain ⟨descriptor', map', hstage', hsuits, hcounted⟩ :=
    counted_run hverify (operations ++ [.write data])
  obtain ⟨rfl, rfl⟩ := Stage.verified.inj (hstage.symm.trans hstage')
  have hreached : Operation.run (operations ++ [.write data]) verified = written := by
    rw [Operation.run_append]
    exact congrArg Prod.snd hwrite
  have hnone : (tally map.bitmap (operations ++ [.write data]) verified).failed = 0 := by
    rw [tally_append_singleton]
    exact hfailed
  rw [hreached] at hcounted
  have hbalance := hcounted.balance
  rw [hnone] at hbalance
  refine ⟨?_, ?_⟩
  · constructor
    · intro hstep
      omega
    · intro hzero
      omega
  · intro hzero length sought hseek
    have hstep : written.1.passed = map.bitmap.count 0 written.1.cursor := by omega
    obtain ⟨htransfer, hcursor⟩ := read_after_seek hsuits hcounted.stage hstep hseek length
    exact ⟨htransfer.symm, hcursor.symm⟩

/-- Two blocks, only the second of which is used. -/
def secondUsed : Archive := .plain [none, some (.twice 0x22)] (by decide)

/-- The first block is written, which is not used, and the second one is read. -/
theorem read_after_write_of_unused :
    ∃ verified written sought, perform verify (inMemory secondUsed.bytes) = (.ok (), verified)
      ∧ perform (write [0x33, 0x33]) verified = (.ok (), written)
      ∧ perform (seek written.1.cursor) written = (.ok (), sought)
      ∧ ((read 2).run written).1 = ((read 2).run sought).1 := by
  obtain ⟨verified, descriptor, map, hverify, hready⟩ :=
    exists_ready secondUsed secondUsed.records (by decide)
  obtain ⟨written, hwrite, hwritten⟩ := hready.write [0x33, 0x33] rfl (by decide)
  obtain ⟨hbalance, hresume⟩ := read_after_write hverify hready.stage [] rfl [0x33, 0x33] hwrite
  have hcount : written.1.passed = map.bitmap.count 0 written.1.cursor := by
    rw [hwritten.passed, hwritten.cursor, hready.mirrors.count_eq (by decide),
      Archive.rank_eq secondUsed.records (by decide)]
    rfl
  obtain ⟨reached, hmove, -, -⟩ := hwritten.overlay.seek (show 1 ≤ 2 by decide)
  have hseek := perform_seek hwritten.mirrors.suits hwritten.stage written.1.cursor
  rw [hwritten.cursor, if_neg (by rw [hwritten.mirrors.total_eq]; decide), hmove] at hseek
  rw [← hwritten.cursor] at hseek
  exact ⟨verified, written, _, hverify, hwrite, hseek,
    (hresume (hbalance.mp hcount) 2 _ hseek).1⟩

/-- The first of two used blocks is written.  A read of the second gives the data of the first, unless
there is a seek in between. -/
theorem read_after_write_of_used :
    ∃ verified written sought, perform verify (inMemory twoBlocks.bytes) = (.ok (), verified)
      ∧ perform (write [0x33, 0x33]) verified = (.ok (), written)
      ∧ perform (seek written.1.cursor) written = (.ok (), sought)
      ∧ ((read 2).run written).1 = .complete [0x11, 0x11]
      ∧ ((read 2).run sought).1 = .complete [0x22, 0x22] := by
  obtain ⟨verified, descriptor, map, hverify, hready⟩ :=
    exists_ready twoBlocks twoBlocks.records (by decide)
  obtain ⟨written, hwrite, hwritten⟩ := hready.write [0x33, 0x33] rfl (by decide)
  have hpayload : twoBlocks.payloads[0]? = some (.twice 0x11) := rfl
  have hblock : twoBlocks.blocks[1]? = some (some (.twice 0x22)) := rfl
  obtain ⟨transfer, after, hread, hgives, -, -, -⟩ :=
    read_one hwritten.mirrors hwritten.stage hwritten.source hwritten.overlay
      (by rw [hwritten.cursor]; decide) (fun _ _ => by rw [hwritten.passed]; decide)
  rw [hwritten.passed, hwritten.cursor, Archive.answer_eq rfl hblock hpayload] at hgives
  have hcursor := hwritten.cursor
  have hbound : written.1.cursor + 1 ≤ 2 := by omega
  obtain ⟨sought, hseek, hreads⟩ := reads_of_seek hwritten.mirrors hwritten.stage hwritten.source
    hwritten.overlay hbound (by
      intro other _ hto _ hmarked
      exact Archive.recordStart_rank_lt length_twoBlocks (Nat.lt_of_lt_of_le hto hbound) hmarked)
  have hblocks : ∀ other, written.1.cursor ≤ other → other < written.1.cursor + 1 →
      ((twoBlocks.device twoBlocks.records).changed fun block =>
        [(0, [0x33, 0x33])].lookup block).block other = .data [0x22, 0x22] := by
    intro other hfrom hto
    obtain rfl : other = 1 := by omega
    exact Archive.block_of_used rfl hblock
  obtain ⟨htransfer, -⟩ := hreads.eq_complete (fun _ => [0x22, 0x22]) hblocks
  refine ⟨verified, written, sought, hverify, hwrite, hseek, ?_, htransfer⟩
  rw [show (read 2).run written = (transfer, after) from hread]
  exact hgives.eq_complete

/-! ### After a read that failed -/

theorem cursor_of_fault (hsuits : map.Suits descriptor) {state failed : Image O × World}
    (hstage : state.1.stage = .verified descriptor map)
    (hbound : state.1.cursor ≤ map.bitmap.length) {length block : Nat} {bytes : Bytes}
    {error : Error} (hread : (read length).run state = (⟨bytes, .error error⟩, failed))
    (hfault : error.faultyBlock? = some block) :
    failed.1.cursor = block ∧ map.bitmap.isSet block = true := by
  rw [run_read hstage] at hread
  split at hread
  · cases hread
    cases hfault
  · have hend := readBlocks_end hsuits (length / descriptor.blockSize) hbound
    rw [hread] at hend
    cases hend with
    | refused blocks cause moves bound => cases hfault
    | ended blocks moves last => cases hfault
    | faulty blocks error fault used moves bound =>
      rcases fault with fault | rfl
      · obtain rfl := Option.some.inj (fault.symm.trans hfault)
        exact ⟨moves.cursor, used⟩
      · cases hfault

/-- **A read that fails at a record leaves the cursor on its block, and the count in step only where
as many used blocks were written as records have failed since the last seek**; then a second try goes as
after a seek to the block. -/
theorem retry_after_fault [LawfulOverlay O] {start verified : Image O × World}
    (hverify : perform verify start = (.ok (), verified))
    (hstage : verified.1.stage = .verified descriptor map) (operations : List Operation)
    {length block : Nat} {bytes : Bytes} {error : Error} {failed : Image O × World}
    (hread : (read length).run (Operation.run operations verified)
      = (⟨bytes, .error error⟩, failed))
    (hfault : error.faultyBlock? = some block) :
    failed.1.cursor = block ∧ map.bitmap.isSet block = true
      ∧ (failed.1.passed = map.bitmap.count 0 block
        ↔ (tally map.bitmap (operations ++ [.read length]) verified).written
          = (tally map.bitmap (operations ++ [.read length]) verified).failed)
      ∧ ((tally map.bitmap (operations ++ [.read length]) verified).written
          = (tally map.bitmap (operations ++ [.read length]) verified).failed →
        ∀ (again : Nat) (sought : Image O × World),
          perform (seek block) failed = (.ok (), sought) →
            ((read again).run failed).1 = ((read again).run sought).1
              ∧ ((read again).run failed).2.1.cursor = ((read again).run sought).2.1.cursor) := by
  obtain ⟨descriptor', map', hstage', hsuits, hbefore⟩ := counted_run hverify operations
  obtain ⟨rfl, rfl⟩ := Stage.verified.inj (hstage.symm.trans hstage')
  have hcounted := hbefore.after hsuits (.read length)
  have hreached : Operation.after (Operation.run operations verified) (.read length) = failed :=
    congrArg Prod.snd hread
  rw [← tally_append_singleton, hreached] at hcounted
  have hbalance := hcounted.balance
  obtain ⟨hcursor, hused⟩ := cursor_of_fault hsuits hbefore.stage hbefore.bound hread hfault
  subst hcursor
  refine ⟨rfl, hused, ?_, ?_⟩
  · constructor
    · intro hstep
      omega
    · intro heq
      omega
  · intro heq again sought hseek
    have hstep : failed.1.passed = map.bitmap.count 0 failed.1.cursor := by omega
    obtain ⟨htransfer, hcursor⟩ := read_after_seek hsuits hcounted.stage hstep hseek again
    exact ⟨htransfer.symm, hcursor.symm⟩

/-- The records of two blocks, with another byte at the start of the first. -/
def damaged : Bytes := 0xEE :: twoBlocks.records.tail

/-- The payloads in their records, each with its checksum. -/
theorem damaged_eq : ∃ first second : UInt32,
    first = Checksum.firstByte Checksum.seed [0x11, 0x11]
      ∧ second = Checksum.firstByte first [0x22, 0x22]
      ∧ damaged = [[0xEE, 0x11], Bytes.ofNat 4 first.toNat, [0x22, 0x22],
        Bytes.ofNat 4 second.toNat].flatten :=
  ⟨_, _, rfl, rfl, rfl⟩

theorem record_damaged :
    (∃ stored computed,
        (twoBlocks.device damaged).record 0 = .mismatch [0xEE, 0x11] stored computed)
      ∧ (twoBlocks.device damaged).record 1 = .data [0x22, 0x22] := by
  obtain ⟨first, second, hfirst, hsecond, hdamaged⟩ := damaged_eq
  have hlengths : [[0xEE, 0x11], Bytes.ofNat 4 first.toNat, [0x22, 0x22],
      Bytes.ofNat 4 second.toNat].map List.length = [2, 4, 2, 4] := by
    simp
  have hlength : damaged.length = 12 := by
    rw [hdamaged, Bytes.length_flatten hlengths]
    rfl
  have hpayload : damaged.slice 0 2 = [0xEE, 0x11] := by
    rw [hdamaged]
    exact Bytes.slice_flatten hlengths 0 rfl
  have hstored : damaged.field 2 4 = first.toNat := by
    rw [hdamaged]
    exact Bytes.field_flatten hlengths 1 rfl first.toNat_lt
  have hpayload' : damaged.slice 6 2 = [0x22, 0x22] := by
    rw [hdamaged]
    exact Bytes.slice_flatten hlengths 2 rfl
  have hstored' : damaged.field 8 4 = second.toNat := by
    rw [hdamaged]
    exact Bytes.field_flatten hlengths 3 rfl second.toNat_lt
  have hchecked : twoBlocks.layout.algorithm ≠ .none := by decide
  refine ⟨?_, ?_⟩
  · have hrecord := twoBlocks.record_tail damaged hchecked 0 (by rw [hlength]; decide)
    have hwrong : Checksum.firstByte Checksum.seed [0xEE, 0x11] ≠ first := by
      rw [hfirst]
      decide +kernel
    rw [Nat.zero_mul, Nat.zero_add, show twoBlocks.blockSize = 2 from rfl, hpayload, Checksum.size,
      hstored, UInt32.ofNat_toNat] at hrecord
    exact ⟨_, _, hrecord.trans (if_neg hwrong)⟩
  · have hrecord := twoBlocks.record_tail damaged hchecked 1 (by rw [hlength]; decide)
    have hseed : (twoBlocks.device damaged).seed 1 = first := by
      have hseed := twoBlocks.seed_tail damaged rfl Nat.one_pos (by decide)
      rw [show 1 * twoBlocks.layout.recordSize - Checksum.size = 2 from rfl, Checksum.size, hstored,
        UInt32.ofNat_toNat] at hseed
      exact hseed
    rw [hseed, show 1 * twoBlocks.layout.recordSize = 6 from rfl,
      show twoBlocks.blockSize = 2 from rfl, hpayload', Checksum.size,
      show damaged.field (6 + 2) 4 = second.toNat from hstored', UInt32.ofNat_toNat] at hrecord
    exact hrecord.trans (if_pos hsecond.symm)

theorem marked_damaged : (twoBlocks.device damaged).marked 0 = true :=
  Archive.marked_device damaged (by decide)

/-- A handle on the damaged image is verified, and fails to read the first block. -/
theorem read_damaged :
    ∃ verified descriptor map failed stored computed,
      perform verify (inMemory (twoBlocks.image damaged)) = (.ok (), verified)
        ∧ Ready (twoBlocks.device damaged) descriptor map verified
        ∧ (twoBlocks.device damaged).record 0 = .mismatch [0xEE, 0x11] stored computed
        ∧ (read 2).run verified
          = (⟨[0xEE, 0x11], .error (.blockChecksum 0 stored computed)⟩, failed)
        ∧ Moves 0 1 verified failed ∧ Overlaid 2 2 (fun _ => none) failed
        ∧ failed.2.disk = verified.2.disk := by
  obtain ⟨verified, descriptor, map, hverify, hready⟩ :=
    exists_ready twoBlocks damaged (by decide)
  obtain ⟨⟨stored, computed, hrecord⟩, -⟩ := record_damaged
  obtain ⟨transfer, failed, hread, hgives, hmoves, hoverlaid, hdisk⟩ :=
    read_one hready.mirrors hready.stage hready.source (overlaid_of_none 2 2 hready.overlay)
      (by rw [hready.cursor]; decide) (fun _ _ => by rw [hready.passed]; decide)
  rw [hready.passed, hready.cursor, Device.answer_of_marked rfl marked_damaged, hrecord] at hgives
  rw [hready.cursor, marked_damaged] at hmoves
  cases hgives
  exact ⟨verified, descriptor, map, failed, stored, computed, hverify, hready, hrecord, hread, hmoves,
    hoverlaid, hdisk⟩

/-- The damaged block is read: the cursor stays on it, and the count is ahead. -/
theorem retry_after_fault_damaged :
    ∃ verified failed stored computed,
      perform verify (inMemory (twoBlocks.image damaged)) = (.ok (), verified)
        ∧ (read 2).run verified
          = (⟨[0xEE, 0x11], .error (.blockChecksum 0 stored computed)⟩, failed)
        ∧ failed.1.cursor = 0 ∧ failed.1.passed ≠ 0 := by
  obtain ⟨verified, descriptor, map, failed, stored, computed, hverify, hready, -, hread, -, -, -⟩ :=
    read_damaged
  obtain ⟨hcursor, -, hbalance, -⟩ :=
    retry_after_fault hverify hready.stage [] hread rfl
  have htally : tally map.bitmap ([] ++ [.read 2]) verified = { failed := 1 } := by
    show tallyAfter map.bitmap {} verified (.read 2) = _
    rw [tallyAfter, hread]
    rfl
  rw [htally] at hbalance
  refine ⟨verified, failed, stored, computed, hverify, hread, hcursor, ?_⟩
  intro hzero
  cases hbalance.mp hzero

/-- The first of two used blocks is damaged.  A second try to read it gives the data of the other one,
unless there is a seek in between. -/
theorem retry_after_fault_gives_other :
    ∃ verified failed sought stored computed,
      perform verify (inMemory (twoBlocks.image damaged)) = (.ok (), verified)
        ∧ (read 2).run verified
          = (⟨[0xEE, 0x11], .error (.blockChecksum 0 stored computed)⟩, failed)
        ∧ failed.1.cursor = 0
        ∧ perform (seek 0) failed = (.ok (), sought)
        ∧ ((read 2).run failed).1 = .complete [0x22, 0x22]
        ∧ ((read 2).run sought).1
          = ⟨[0xEE, 0x11], .error (.blockChecksum 0 stored computed)⟩ := by
  obtain ⟨verified, descriptor, map, failed, stored, computed, hverify, hready, hrecord, hread,
    hmoves, hoverlaid, hdisk⟩ := read_damaged
  have hstage := hmoves.stage.trans hready.stage
  have hsource : failed.1.source.Delivers failed.2.disk (twoBlocks.image damaged) := by
    rw [hdisk]
    exact hready.source.later hmoves.source
  have hcursor : failed.1.cursor = 0 := by
    rw [hmoves.cursor, hready.cursor]
  have hpassed : failed.1.passed = 1 := by
    rw [hmoves.passed, hready.passed]
  obtain ⟨again, after, hagain, hother, -, -, -⟩ :=
    read_one hready.mirrors hstage hsource hoverlaid
      (by rw [hcursor]; decide) (fun _ _ => by rw [hpassed]; decide)
  rw [hpassed, hcursor, Device.answer_of_marked rfl marked_damaged, record_damaged.2] at hother
  have hblock : (twoBlocks.device damaged).block 0 = .mismatch [0xEE, 0x11] stored computed :=
    (Device.answer_of_marked rfl marked_damaged 0).trans hrecord
  obtain ⟨sought, hseek, hreads⟩ := reads_of_seek hready.mirrors hstage hsource hoverlaid
    (show 0 + 1 ≤ 2 by decide) (by
      intro other _ hto _ _
      obtain rfl : other = 0 := by omega
      decide)
  refine ⟨verified, failed, sought, stored, computed, hverify, hread, hcursor, hseek, ?_, ?_⟩
  · rw [show (read 2).run failed = (again, after) from hagain]
    exact hother.eq_complete
  · exact (hreads.eq_mismatch hblock).1

end PartitionImage.Image
