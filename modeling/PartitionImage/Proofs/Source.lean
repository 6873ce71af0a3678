import PartitionImage.Source
/-!
# What a source gives

However the calls of a source go, a read that is answered in full gives the bytes that stand at the
place, and a source without faults answers every read that lies within its bytes.

* `Backing.Holds` says which bytes are behind a source, `Source.Delivers` that its calls do not fail
  from now on, `Source.DeliversWithin` that those do not which stay within the bytes, `Source.Faultless`
  that calls also tell where the bytes end.
* `Source.readExact_eq_slice` is soundness, for every manner of the calls.
* `Source.readExact_within` is completeness, for short reads and interruptions in any order;
  `Source.readExact_end` says how a read past the end fails.
* `Source.readExact_later` says what a read leaves: the same source, with more calls made.
* `Source.readExact_unchanged` says what of the disk a read depends on, `Source.readExact_alike` when it gives
  the same at any time.
-/

namespace PartitionImage

namespace Bytes

theorem slice_length_slice (bytes : Bytes) (offset n : Nat) :
    bytes.slice offset (bytes.slice offset n).length = bytes.slice offset n := by
  simp only [slice, List.length_take, List.take_eq_take_iff, List.length_drop]
  omega

theorem slice_append_slice (bytes : Bytes) (offset a b : Nat) :
    bytes.slice offset a ++ bytes.slice (offset + a) b = bytes.slice offset (a + b) := by
  rw [slice, slice, slice, ← List.drop_drop, ← List.take_add]

theorem length_slice_of_le {bytes : Bytes} {offset n : Nat} (h : offset + n ≤ bytes.length) :
    (bytes.slice offset n).length = n := by
  rw [length_slice]
  omega

theorem slice_slice (bytes : Bytes) (offset n : Nat) {start m : Nat} (h : start + m ≤ n) :
    (bytes.slice offset n).slice start m = bytes.slice (offset + start) m := by
  rw [slice, slice, slice, List.drop_take, List.drop_drop, List.take_take,
    Nat.min_eq_left (by omega)]

theorem field_slice (bytes : Bytes) (offset n : Nat) {start width : Nat} (h : start + width ≤ n) :
    (bytes.slice offset n).field start width = bytes.field (offset + start) width := by
  rw [field, field, slice_slice bytes offset n h]

end Bytes

/-- Whatever comes from a source agrees with the bytes. -/
structure Backing.Agrees (backing : Backing) (disk : Disk) (bytes : Bytes) : Prop where
  size_eq : backing.size disk = bytes.length
  slice_eq : ∀ {offset n : Nat} {got : Bytes},
    backing.slice disk offset n = .ok got → got = bytes.slice offset n

/-- The bytes behind a source.  Where the range that is asked for leaves them, the answer may also be
a refusal. -/
structure Backing.Holds (backing : Backing) (disk : Disk) (bytes : Bytes) : Prop
    extends Backing.Agrees backing disk bytes where
  slice_ok : ∀ {offset n : Nat}, offset + n ≤ bytes.length →
    backing.slice disk offset n = .ok (bytes.slice offset n)

namespace Backing

def contents (disk : Disk) : Backing → Bytes
  | file id => disk.content id
  | directory => List.replicate Disk.directorySize 0
  | memory content => content.slice 0 content.size

theorem getD_slice_content (content : Content) (offset n i : Nat) :
    (content.slice offset n).getD i 0
      = if i < min n (content.size - offset) then
          (if offset + i < content.data.size then content.data.get (offset + i)
            else content.tail (offset + i))
        else 0 := by
  have hwritten : (content.data.slice offset (min n (content.size - offset))).toBytes.length
      = min (min n (content.size - offset)) (content.data.size - offset) := by
    rw [Packed.toBytes_slice, Bytes.length_slice, Packed.length_toBytes]
  unfold Content.slice
  dsimp only
  generalize min n (content.size - offset) = m at hwritten ⊢
  rw [List.getD_eq_getElem?_getD, List.getElem?_append, hwritten]
  by_cases hi : i < m
  · rw [if_pos hi]
    by_cases hdata : offset + i < content.data.size
    · rw [if_pos hdata, if_pos (by omega), ← List.getD_eq_getElem?_getD, Packed.toBytes_slice,
        Bytes.getD_slice, if_pos hi, Packed.get_eq]
    · have hpast : offset + min m (content.data.size - offset)
          + (i - min m (content.data.size - offset)) = offset + i := by omega
      rw [if_neg hdata, if_neg (by omega), List.getElem?_map, List.getElem?_range'
        (by omega), Nat.one_mul, hpast]
      rfl
  · rw [if_neg hi, if_neg (by omega), List.getElem?_eq_none (by simp; omega)]
    rfl

theorem length_slice_content (content : Content) (offset n : Nat) :
    (content.slice offset n).length = min n (content.size - offset) := by
  simp only [Content.slice, List.length_append, List.length_map, List.length_range',
    Packed.toBytes_slice, Bytes.length_slice, Packed.length_toBytes]
  omega

/-- There are bytes that agree with whatever comes from a source. -/
theorem agrees_contents (backing : Backing) (disk : Disk) :
    backing.Agrees disk (backing.contents disk) := by
  cases backing with
  | file id =>
    refine ⟨by simp [size, contents], ?_⟩
    intro offset n got hgot
    cases hread : disk.read id offset n with
    | error error => simp [slice, hread, Except.map] at hgot
    | ok packed =>
      simp only [slice, hread, Except.map, Except.ok.injEq] at hgot
      rw [← hgot]
      exact disk.read_eq id hread
  | directory =>
    refine ⟨by simp [size, contents], ?_⟩
    intro offset n got hgot
    cases hgot
  | memory content =>
    refine ⟨?_, ?_⟩
    · show content.size = (content.slice 0 content.size).length
      rw [length_slice_content]
      omega
    · intro offset n got hgot
      cases hgot
      show content.slice offset n = (content.slice 0 content.size).slice offset n
      refine Bytes.ext_getD ?_ fun i hi => ?_
      · rw [length_slice_content, Bytes.length_slice, length_slice_content]
        omega
      · rw [length_slice_content] at hi
        have hn : i < n := by omega
        have hsize : offset + i < min content.size (content.size - 0) := by omega
        rw [getD_slice_content, if_pos hi, Bytes.getD_slice, if_pos hn, getD_slice_content,
          if_pos hsize, Nat.zero_add]

/-- Plain bytes in memory are behind a source on every disk. -/
theorem holds_ofBytes (disk : Disk) (bytes : Bytes) :
    (Backing.memory (.ofBytes bytes)).Holds disk bytes where
  size_eq := by simp [size, Content.ofBytes, Content.ofPacked]
  slice_eq := by
    intro offset n got h
    simp only [slice, Content.slice_ofBytes] at h
    cases h
    rfl
  slice_ok := by
    intro offset n _
    simp only [slice, Content.slice_ofBytes]

/-- The bytes of a file are behind a source on the disk that has it, if they are not more than `Disk.maxOffset`. -/
theorem holds_file {disk : Disk} {id : FileId} (h : disk.length id ≤ Disk.maxOffset) :
    (Backing.file id).Holds disk (disk.content id) where
  toAgrees := agrees_contents (.file id) disk
  slice_ok := by
    intro offset n hfit
    rw [← disk.length_eq] at hfit
    have hread : disk.read id offset n = .ok ((disk.data id).read offset n) :=
      if_neg (by omega)
    simp only [slice, hread, Except.map, SparseBytes.toBytes_read, Disk.content]

end Backing

namespace Source

/-- The source after some more calls. -/
def Later (source after : Source) : Prop :=
  ∃ calls, source.calls ≤ calls ∧ after = { source with calls := calls }

/-- Bytes are behind a source, and from now on none of its calls fails: each is interrupted or gives
a byte at least. -/
structure Delivers (source : Source) (disk : Disk) (bytes : Bytes) : Prop where
  holds : source.backing.Holds disk bytes
  sized : source.sizeFault = none
  responds : ∀ call, source.calls ≤ call → ∀ offset want, 0 < want →
    source.manner.respond call offset want = .error .interrupted
      ∨ ∃ most, 0 < most ∧ source.manner.respond call offset want = .ok most

/-- Bytes are behind a source, and from now on none of its calls for them fails; of calls that reach past them
nothing is said. -/
structure DeliversWithin (source : Source) (disk : Disk) (bytes : Bytes) : Prop where
  holds : source.backing.Holds disk bytes
  sized : source.sizeFault = none
  responds : ∀ call, source.calls ≤ call → ∀ offset want, 0 < want → offset + want ≤ bytes.length →
    source.manner.respond call offset want = .error .interrupted
      ∨ ∃ most, 0 < most ∧ source.manner.respond call offset want = .ok most

/-- A source that delivers bytes and tells where they end: a call that goes on past the end gives what there is, up to
`Disk.maxOffset`. -/
structure Faultless (source : Source) (disk : Disk) (bytes : Bytes) : Prop
    extends Delivers source disk bytes where
  ends : ∀ {offset n : Nat}, offset + n ≤ Disk.maxOffset →
    source.backing.slice disk offset n = .ok (bytes.slice offset n)

theorem Later.refl (source : Source) : source.Later source := ⟨source.calls, Nat.le_refl _, rfl⟩

theorem Later.trans {a b c : Source} (hab : a.Later b) (hbc : b.Later c) : a.Later c := by
  obtain ⟨m, hm, rfl⟩ := hab
  obtain ⟨n, hn, rfl⟩ := hbc
  exact ⟨n, Nat.le_trans hm hn, rfl⟩

theorem Later.backing {a b : Source} (h : a.Later b) : b.backing = a.backing := by
  obtain ⟨calls, _, rfl⟩ := h
  rfl

theorem Later.manner {a b : Source} (h : a.Later b) : b.manner = a.manner := by
  obtain ⟨calls, _, rfl⟩ := h
  rfl

theorem Delivers.later {source after : Source} {disk : Disk} {bytes : Bytes}
    (h : source.Delivers disk bytes) (hlater : source.Later after) : after.Delivers disk bytes := by
  obtain ⟨calls, hcalls, rfl⟩ := hlater
  exact ⟨h.holds, h.sized, fun call hcall => h.responds call (Nat.le_trans hcalls hcall)⟩

theorem Delivers.within {source : Source} {disk : Disk} {bytes : Bytes} (h : source.Delivers disk bytes) :
    source.DeliversWithin disk bytes :=
  ⟨h.holds, h.sized, fun call hcall offset want hwant _ => h.responds call hcall offset want hwant⟩

theorem DeliversWithin.later {source after : Source} {disk : Disk} {bytes : Bytes}
    (h : source.DeliversWithin disk bytes) (hlater : source.Later after) : after.DeliversWithin disk bytes := by
  obtain ⟨calls, hcalls, rfl⟩ := hlater
  exact ⟨h.holds, h.sized, fun call hcall => h.responds call (Nat.le_trans hcalls hcall)⟩

theorem Faultless.later {source after : Source} {disk : Disk} {bytes : Bytes}
    (h : source.Faultless disk bytes) (hlater : source.Later after) :
    after.Faultless disk bytes where
  toDelivers := h.toDelivers.later hlater
  ends := by
    rw [hlater.backing]
    exact h.ends

/-- Bytes in memory that come when they are asked for are delivered. -/
theorem delivers_ofBytes (disk : Disk) (bytes : Bytes) : (ofBytes bytes).Delivers disk bytes :=
  ⟨Backing.holds_ofBytes disk bytes, rfl, fun _ _ _ want hwant => .inr ⟨want, hwant, rfl⟩⟩

/-- Bytes in memory that come when they are asked for have no faults. -/
theorem faultless_ofBytes (disk : Disk) (bytes : Bytes) : (ofBytes bytes).Faultless disk bytes where
  toDelivers := delivers_ofBytes disk bytes
  ends := by
    intro offset n _
    exact congrArg Except.ok (Content.slice_ofBytes bytes offset n)

def ofFile (id : FileId) : Source := { backing := .file id, manner := .prompt }

theorem openFile_eq {disk : Disk} {path : String} {id : FileId}
    (h : disk.lookupFile path = .ok id) : openFile disk path = .ok (ofFile id) := by
  unfold Disk.lookupFile at h
  unfold openFile
  cases hnode : disk.lookup path with
  | error error =>
    rw [hnode] at h
    cases h
  | ok node =>
    rw [hnode] at h
    cases node with
    | directory => cases h
    | file found =>
      cases h
      rfl

/-- A file has no faults, unless it is longer than `Disk.maxOffset`. -/
theorem faultless_ofFile {disk : Disk} {id : FileId} (h : disk.length id ≤ Disk.maxOffset) :
    (ofFile id).Faultless disk (disk.content id) where
  holds := Backing.holds_file h
  sized := rfl
  responds := fun _ _ _ want hwant => .inr ⟨want, hwant, rfl⟩
  ends := by
    intro offset n hplace
    have hread : disk.read id offset n = .ok ((disk.data id).read offset n) :=
      if_neg (Nat.not_lt.mpr hplace)
    show (disk.read id offset n).map Packed.toBytes = _
    rw [hread]
    exact congrArg Except.ok (SparseBytes.toBytes_read _ _ _)

/-! ### One call -/

/-- What a call gives are the bytes at the place, no more than were asked for. -/
theorem deliver_eq_slice {backing : Backing} {disk : Disk} {bytes : Bytes}
    (h : backing.Agrees disk bytes) {offset want : Nat} {response : Except IoError Nat}
    {got : Bytes} (hgot : deliver backing disk offset want response = .ok got) :
    got = bytes.slice offset got.length ∧ got.length ≤ want := by
  cases response with
  | ok most =>
    have heq := h.slice_eq hgot
    have hlen : got.length = (bytes.slice offset (min want most)).length := by rw [← heq]
    refine ⟨?_, ?_⟩
    · rw [hlen, Bytes.slice_length_slice]
      exact heq
    · rw [hlen, Bytes.length_slice]
      omega
  | error error =>
    have hnil : got = [] := by
      cases error
      case interrupted => cases hgot
      all_goals
        simp only [deliver] at hgot
        split at hgot
        · cases hgot
        · cases hgot
          rfl
    subst hnil
    exact ⟨rfl, Nat.zero_le _⟩

/-- A call that is allowed a byte gives one where there are any. -/
theorem deliver_ok {backing : Backing} {disk : Disk} {bytes : Bytes}
    (h : backing.Holds disk bytes) {offset want most : Nat} (hwant : 0 < want) (hmost : 0 < most)
    (hfit : offset + want ≤ bytes.length) :
    ∃ got, deliver backing disk offset want (.ok most) = .ok got ∧ got ≠ [] := by
  refine ⟨bytes.slice offset (min want most), h.slice_ok (by omega), ?_⟩
  intro hnil
  have hlen : (bytes.slice offset (min want most)).length = min want most :=
    Bytes.length_slice_of_le (by omega)
  rw [hnil, List.length_nil] at hlen
  omega

theorem readAt_later (source : Source) (disk : Disk) (offset want : Nat) :
    source.Later (source.readAt disk offset want).2 :=
  ⟨source.calls + 1, Nat.le_succ _, rfl⟩

/-! ### A call that is repeated -/

theorem readSettled_later (source : Source) (disk : Disk) (offset want patience : Nat) :
    source.Later (source.readSettled disk offset want patience).2 := by
  induction patience generalizing source with
  | zero => exact source.readAt_later disk offset want
  | succ patience ih =>
    rw [readSettled]
    split
    · next again heq =>
      have hstep := source.readAt_later disk offset want
      rw [heq] at hstep
      exact hstep.trans (ih again)
    · exact source.readAt_later disk offset want

theorem readSettled_eq_slice {source : Source} {disk : Disk} {bytes : Bytes}
    (h : source.backing.Agrees disk bytes) {offset want patience : Nat} {got : Bytes}
    (hgot : (source.readSettled disk offset want patience).1 = .ok got) :
    got = bytes.slice offset got.length ∧ got.length ≤ want := by
  induction patience generalizing source with
  | zero => exact deliver_eq_slice h hgot
  | succ patience ih =>
    rw [readSettled] at hgot
    split at hgot
    · next again heq =>
      have hstep := source.readAt_later disk offset want
      rw [heq] at hstep
      exact ih (hstep.backing ▸ h) hgot
    · exact deliver_eq_slice h hgot

theorem readSettled_gives {source : Source} {disk : Disk} {offset want patience : Nat}
    (hresponds : ∀ call, source.calls ≤ call → source.manner.respond call offset want = .error .interrupted
      ∨ ∃ most, 0 < most ∧ source.manner.respond call offset want = .ok most)
    {given : Bytes → Prop}
    (hdeliver : ∀ most, 0 < most →
      ∃ got, deliver source.backing disk offset want (.ok most) = .ok got ∧ given got)
    (hsettles : ∃ after, after ≤ patience ∧
      source.manner.respond (source.calls + after) offset want ≠ .error .interrupted) :
    ∃ got, (source.readSettled disk offset want patience).1 = .ok got ∧ given got := by
  obtain ⟨after, hafter, hne⟩ := hsettles
  induction patience generalizing source after with
  | zero =>
    have hzero : after = 0 := Nat.le_zero.mp hafter
    subst hzero
    rcases hresponds source.calls (Nat.le_refl _) with hint | ⟨most, hmost, hok⟩
    · exact absurd hint hne
    · simp only [readSettled, readAt, hok]
      exact hdeliver most hmost
  | succ patience ih =>
    rcases hresponds source.calls (Nat.le_refl _) with hint | ⟨most, hmost, hok⟩
    · -- the call is interrupted, so the one that is not comes later
      cases after with
      | zero => exact absurd hint hne
      | succ after =>
        have hagain : source.readSettled disk offset want (patience + 1)
            = (source.readAt disk offset want).2.readSettled disk offset want patience := by
          simp only [readSettled, readAt, hint, deliver]
        rw [hagain]
        refine ih (fun call hcall => hresponds call (Nat.le_of_succ_le hcall)) hdeliver after (by omega) ?_
        show source.manner.respond (source.calls + 1 + after) offset want ≠ _
        rwa [Nat.add_assoc, Nat.add_comm 1 after]
    · obtain ⟨got, hgot, hgiven⟩ := hdeliver most hmost
      refine ⟨got, ?_, hgiven⟩
      simp only [readSettled, readAt, hok, hgot]

theorem exists_settled (source : Source) (offset want : Nat) :
    ∃ after, after ≤ source.patience offset want ∧
      source.manner.respond (source.calls + after) offset want ≠ .error .interrupted :=
  source.manner.settles source.calls offset want

/-! ### Reading in full -/

theorem collect_later (source : Source) (disk : Disk) (offset want rounds : Nat) :
    source.Later (source.collect disk offset want rounds).2 := by
  induction rounds generalizing source offset want with
  | zero => exact .refl source
  | succ rounds ih =>
    rw [collect]
    have hstep := source.readSettled_later disk offset want (source.patience offset want)
    split
    · exact .refl source
    · split
      · next heq => rw [heq] at hstep; exact hstep
      · next heq => rw [heq] at hstep; exact hstep
      · next heq => rw [heq] at hstep; exact hstep.trans (ih _ _ _)

theorem collect_eq_slice {source : Source} {disk : Disk} {bytes : Bytes}
    (h : source.backing.Agrees disk bytes) {offset want rounds : Nat}
    (hok : (source.collect disk offset want rounds).1.result = .ok ()) :
    (source.collect disk offset want rounds).1.bytes = bytes.slice offset want
      ∧ (bytes.slice offset want).length = want := by
  induction rounds generalizing source offset want with
  | zero =>
    simp only [collect] at hok ⊢
    split at hok
    · next hzero => subst hzero; exact ⟨rfl, rfl⟩
    · cases hok
  | succ rounds ih =>
    rw [collect] at hok ⊢
    have hstep := source.readSettled_later disk offset want (source.patience offset want)
    split at hok
    · next hzero => rw [if_pos hzero]; subst hzero; exact ⟨rfl, rfl⟩
    · next hzero =>
      rw [if_neg hzero]
      split at hok
      · cases hok
      · cases hok
      · next got after hne heq =>
        rw [heq] at hstep
        have hgot := readSettled_eq_slice h (congrArg Prod.fst heq)
        obtain ⟨hrest, hlen⟩ := ih (hstep.backing ▸ h) hok
        have hsum : got.length + (want - got.length) = want := Nat.add_sub_cancel' hgot.2
        have hjoin := Bytes.slice_append_slice bytes offset got.length (want - got.length)
        rw [hsum] at hjoin
        refine ⟨?_, ?_⟩
        · show got ++ _ = _
          rw [hrest, ← hjoin, ← hgot.1]
        · rw [← hjoin, List.length_append, hlen, ← hgot.1, hsum]

/-- Calls that stop early have given the first of the bytes. -/
theorem collect_prefix {source : Source} {disk : Disk} {bytes : Bytes}
    (h : source.backing.Agrees disk bytes) (offset want rounds : Nat) :
    List.IsPrefix (source.collect disk offset want rounds).1.bytes (bytes.slice offset want) := by
  induction rounds generalizing source offset want with
  | zero => exact List.nil_prefix
  | succ rounds ih =>
    rw [collect]
    have hstep := source.readSettled_later disk offset want (source.patience offset want)
    split
    · exact List.nil_prefix
    · split
      · exact List.nil_prefix
      · exact List.nil_prefix
      · next got after _ heq =>
        rw [heq] at hstep
        obtain ⟨hgot, hle⟩ := readSettled_eq_slice h (congrArg Prod.fst heq)
        have hsum : got.length + (want - got.length) = want := Nat.add_sub_cancel' hle
        have hjoin := Bytes.slice_append_slice bytes offset got.length (want - got.length)
        rw [hsum, ← hgot] at hjoin
        rw [← hjoin]
        exact List.prefix_append_right_inj got |>.mpr (ih (hstep.backing ▸ h) _ _)

theorem collect_ok {source : Source} {disk : Disk} {bytes : Bytes}
    (h : source.DeliversWithin disk bytes) {offset want rounds : Nat} (hrounds : want ≤ rounds)
    (hfit : offset + want ≤ bytes.length) :
    (source.collect disk offset want rounds).1.result = .ok () := by
  induction rounds generalizing source offset want with
  | zero =>
    have hzero : want = 0 := Nat.le_zero.mp hrounds
    subst hzero
    rfl
  | succ rounds ih =>
    rw [collect]
    by_cases hzero : want = 0
    · rw [if_pos hzero]
    · rw [if_neg hzero]
      have hstep := source.readSettled_later disk offset want (source.patience offset want)
      have hwant : 0 < want := Nat.pos_of_ne_zero hzero
      obtain ⟨got, hgot, hnil⟩ := readSettled_gives
        (fun call hcall => h.responds call hcall offset want hwant hfit)
        (fun most hmost => deliver_ok h.holds hwant hmost hfit) (source.exists_settled offset want)
      have hlen := (readSettled_eq_slice h.holds.toAgrees hgot).2
      have hpos : 0 < got.length := List.length_pos_iff.mpr hnil
      rcases hread : source.readSettled disk offset want (source.patience offset want) with ⟨result, after⟩
      rw [hread] at hstep hgot
      subst hgot
      cases got with
      | nil => exact absurd rfl hnil
      | cons byte rest => exact ih (h.later hstep) (by omega) (by omega)

/-- Calls that go on past the end come to it. -/
theorem collect_end {source : Source} {disk : Disk} {bytes : Bytes}
    (h : source.Faultless disk bytes) {offset want rounds : Nat} (hrounds : want ≤ rounds)
    (hwant : 0 < want) (hshort : bytes.length < offset + want)
    (hplace : offset + want ≤ Disk.maxOffset) :
    (source.collect disk offset want rounds).1.result = .error .endOfImage := by
  induction rounds generalizing source offset want with
  | zero => omega
  | succ rounds ih =>
    rw [collect, if_neg (Nat.ne_of_gt hwant)]
    have hstep := source.readSettled_later disk offset want (source.patience offset want)
    obtain ⟨got, hgot, -⟩ : ∃ got,
        (source.readSettled disk offset want (source.patience offset want)).1 = .ok got ∧ True :=
      readSettled_gives (fun call hcall => h.responds call hcall offset want hwant)
        (fun most _ => ⟨_, h.ends (by omega), trivial⟩) (source.exists_settled offset want)
    obtain ⟨hslice, hle⟩ := readSettled_eq_slice h.holds.toAgrees hgot
    rcases hread : source.readSettled disk offset want (source.patience offset want) with ⟨result, after⟩
    rw [hread] at hstep hgot
    subst hgot
    cases got with
    | nil => rfl
    | cons byte rest =>
      -- what was given lies before the end, so that something is still wanted
      have hlength := congrArg List.length hslice
      rw [Bytes.length_slice, List.length_cons] at hlength
      rw [List.length_cons] at hle
      exact ih (h.later hstep) (by rw [List.length_cons]; omega) (by rw [List.length_cons]; omega)
        (by rw [List.length_cons]; omega) (by rw [List.length_cons]; omega)

theorem readExact_later (source : Source) (disk : Disk) (offset want : Nat) :
    source.Later (source.readExact disk offset want).2 :=
  source.collect_later disk offset want want

/-- **A read that succeeds gives the bytes that stand there**, however the calls went. -/
theorem readExact_eq_slice {source : Source} {disk : Disk} {bytes : Bytes}
    (h : source.backing.Agrees disk bytes) {offset want : Nat}
    (hok : (source.readExact disk offset want).1.result = .ok ()) :
    (source.readExact disk offset want).1.bytes = bytes.slice offset want
      ∧ (bytes.slice offset want).length = want :=
  collect_eq_slice h hok

/-- **A read within the bytes of a source that delivers them succeeds**, whatever a call past them would do. -/
theorem readExact_within {source : Source} {disk : Disk} {bytes : Bytes}
    (h : source.DeliversWithin disk bytes) {offset want : Nat} (hfit : offset + want ≤ bytes.length) :
    (source.readExact disk offset want).1 = .complete (bytes.slice offset want) := by
  have hok : (source.readExact disk offset want).1.result = .ok () :=
    collect_ok h (Nat.le_refl want) hfit
  have hbytes := (readExact_eq_slice h.holds.toAgrees hok).1
  rcases hread : (source.readExact disk offset want).1 with ⟨got, result⟩
  rw [hread] at hok hbytes
  subst hok hbytes
  rfl

theorem readExact_ok {source : Source} {disk : Disk} {bytes : Bytes}
    (h : source.Delivers disk bytes) {offset want : Nat} (hfit : offset + want ≤ bytes.length) :
    (source.readExact disk offset want).1 = .complete (bytes.slice offset want) :=
  readExact_within h.within hfit

/-- A read that leaves the bytes of a source without faults comes to their end. -/
theorem readExact_end {source : Source} {disk : Disk} {bytes : Bytes}
    (h : source.Faultless disk bytes) {offset want : Nat} (hwant : 0 < want)
    (hshort : bytes.length < offset + want) (hplace : offset + want ≤ Disk.maxOffset) :
    (source.readExact disk offset want).1.result = .error .endOfImage :=
  collect_end h (Nat.le_refl want) hwant hshort hplace

theorem readExact_prefix {source : Source} {disk : Disk} {bytes : Bytes}
    (h : source.backing.Agrees disk bytes) (offset want : Nat) :
    List.IsPrefix (source.readExact disk offset want).1.bytes (bytes.slice offset want) :=
  collect_prefix h offset want want

theorem readExact_short {source : Source} {disk : Disk} {bytes : Bytes}
    (h : source.backing.Agrees disk bytes) {offset want : Nat} (hwant : 0 < want)
    (hshort : bytes.length < offset + want) :
    ∃ error, (source.readExact disk offset want).1.result = .error error := by
  cases hres : (source.readExact disk offset want).1.result with
  | error error => exact ⟨error, rfl⟩
  | ok value =>
    have hlen := (readExact_eq_slice h hres).2
    rw [Bytes.length_slice] at hlen
    omega

/-! ### Calls that are alike -/

end Source

/-- But for interruptions, what a call does is settled by what it is asked for. -/
def Manner.Alike (manner : Manner) : Prop :=
  ∃ answer : Nat → Nat → Except IoError Nat, ∀ call offset want,
    manner.respond call offset want = .error .interrupted
      ∨ manner.respond call offset want = answer offset want

theorem Manner.alike_prompt : prompt.Alike := ⟨fun _ want => .ok want, fun _ _ _ => .inr rfl⟩

/-- Short reads, faults at a place and interruptions that come and go are alike. -/
theorem Manner.alike_faulty (chunk fault : Option Nat) (interrupts : Bool) :
    (faulty chunk fault interrupts).Alike := by
  refine ⟨limited chunk fault, fun call offset want => ?_⟩
  show (if interrupts && call % 2 == 0 then _ else _) = _ ∨ (if _ then _ else _) = _
  split
  · exact .inl rfl
  · exact .inr rfl

/-- The bytes behind a source are the same on another disk. -/
def Backing.Unchanged (backing : Backing) (disk other : Disk) : Prop :=
  ∀ id, backing = .file id → other.data id = disk.data id

namespace Source

theorem deliver_unchanged {backing : Backing} {disk other : Disk} (h : backing.Unchanged disk other)
    (offset want : Nat) (response : Except IoError Nat) :
    deliver backing other offset want response = deliver backing disk offset want response := by
  have hslice : ∀ n, backing.slice other offset n = backing.slice disk offset n := by
    intro n
    cases backing with
    | file id =>
      show (other.read id offset n).map _ = (disk.read id offset n).map _
      rw [Disk.read, Disk.read, h id rfl]
    | directory => rfl
    | memory content => rfl
  have hsize : backing.size other = backing.size disk := by
    cases backing with
    | file id =>
      show other.length id = disk.length id
      rw [Disk.length, Disk.length, h id rfl]
    | directory => rfl
    | memory content => rfl
  unfold deliver
  rw [hsize]
  simp only [hslice]

theorem readAt_unchanged {source : Source} {disk other : Disk} (h : source.backing.Unchanged disk other)
    (offset want : Nat) : source.readAt other offset want = source.readAt disk offset want := by
  rw [readAt, readAt, deliver_unchanged h]

theorem readSettled_unchanged {source : Source} {disk other : Disk} (h : source.backing.Unchanged disk other)
    (offset want patience : Nat) :
    source.readSettled other offset want patience = source.readSettled disk offset want patience := by
  induction patience generalizing source with
  | zero => exact readAt_unchanged h offset want
  | succ patience ih =>
    rw [readSettled, readSettled, readAt_unchanged h]
    split
    · next again heq =>
      have hlater := source.readAt_later disk offset want
      rw [heq] at hlater
      exact ih (hlater.backing ▸ h)
    · rfl

theorem collect_unchanged {source : Source} {disk other : Disk} (h : source.backing.Unchanged disk other)
    (offset want rounds : Nat) :
    source.collect other offset want rounds = source.collect disk offset want rounds := by
  induction rounds generalizing source offset want with
  | zero => rfl
  | succ rounds ih =>
    rw [collect, collect, readSettled_unchanged h]
    have hlater := source.readSettled_later disk offset want (source.patience offset want)
    split
    · rfl
    · generalize source.readSettled disk offset want (source.patience offset want) = given at hlater ⊢
      obtain ⟨result, next⟩ := given
      have hnext : next.backing.Unchanged disk other := by
        rw [hlater.backing]
        exact h
      cases result with
      | error error => rfl
      | ok bytes =>
        cases bytes with
        | nil => rfl
        | cons byte rest =>
          dsimp only
          rw [ih hnext]

/-- **A read does on one disk what it does on another** with the same bytes behind the source. -/
theorem readExact_unchanged {source : Source} {disk other : Disk} (h : source.backing.Unchanged disk other)
    (offset want : Nat) : source.readExact other offset want = source.readExact disk offset want :=
  collect_unchanged h offset want want

theorem deliver_interrupted {backing : Backing} {disk : Disk} {offset want : Nat}
    {response : Except IoError Nat}
    (h : deliver backing disk offset want response = .error .interrupted) :
    response = .error .interrupted := by
  cases response with
  | ok most =>
    cases backing with
    | file id =>
      simp only [deliver, Backing.slice, Disk.read] at h
      split at h <;> cases h
    | directory =>
      simp only [deliver, Backing.slice] at h
      split at h <;> cases h
    | memory content => cases h
  | error error =>
    cases error
    case interrupted => rfl
    all_goals
      simp only [deliver] at h
      split at h <;> cases h

/-- Where calls are alike, the first that is not interrupted gives what any of them gives. -/
theorem readSettled_eq {source : Source} {answer : Nat → Nat → Except IoError Nat}
    (hanswer : ∀ call offset want, source.manner.respond call offset want = .error .interrupted
      ∨ source.manner.respond call offset want = answer offset want)
    {disk : Disk} {offset want patience : Nat}
    (hsettles : ∃ after, after ≤ patience ∧
      source.manner.respond (source.calls + after) offset want ≠ .error .interrupted) :
    (source.readSettled disk offset want patience).1
      = deliver source.backing disk offset want (answer offset want) := by
  obtain ⟨after, hafter, hne⟩ := hsettles
  induction patience generalizing source after with
  | zero =>
    obtain rfl := Nat.le_zero.mp hafter
    have hnow := (hanswer source.calls offset want).resolve_left hne
    rw [readSettled, readAt, hnow]
  | succ patience ih =>
    rw [readSettled]
    split
    · next again heq =>
      have hint : source.manner.respond source.calls offset want = .error .interrupted :=
        deliver_interrupted (congrArg Prod.fst heq)
      obtain rfl : (source.readAt disk offset want).2 = again := congrArg Prod.snd heq
      cases after with
      | zero => exact absurd hint hne
      | succ after =>
        refine ih ?_ after (by omega) ?_
        · exact hanswer
        show source.manner.respond (source.calls + 1 + after) offset want ≠ _
        rwa [Nat.add_assoc, Nat.add_comm 1 after]
    · next hother =>
      have hnow : source.manner.respond source.calls offset want = answer offset want := by
        refine (hanswer source.calls offset want).resolve_left fun hint => ?_
        refine hother (source.readAt disk offset want).2 (Prod.ext ?_ rfl)
        rw [readAt, hint]
        rfl
      show deliver _ _ _ _ (source.manner.respond source.calls offset want) = _
      rw [hnow]

theorem collect_alike {source other : Source} (halike : source.manner.Alike)
    (hmanner : other.manner = source.manner) (hbacking : other.backing = source.backing)
    {disk after : Disk} (hsame : source.backing.Unchanged disk after) (offset want rounds : Nat) :
    (other.collect after offset want rounds).1 = (source.collect disk offset want rounds).1 := by
  induction rounds generalizing source other offset want with
  | zero => rfl
  | succ rounds ih =>
    obtain ⟨answer, hanswer⟩ := halike
    have hfirst : (other.readSettled after offset want (other.patience offset want)).1
        = (source.readSettled disk offset want (source.patience offset want)).1 := by
      rw [readSettled_eq hanswer (source.exists_settled offset want),
        readSettled_eq (by rw [hmanner]; exact hanswer) (other.exists_settled offset want),
        hbacking, deliver_unchanged hsame]
    have hlater := source.readSettled_later disk offset want (source.patience offset want)
    have hlater' := other.readSettled_later after offset want (other.patience offset want)
    rw [collect, collect]
    split
    · rfl
    · generalize source.readSettled disk offset want (source.patience offset want) = given
        at hfirst hlater ⊢
      generalize other.readSettled after offset want (other.patience offset want) = given'
        at hfirst hlater' ⊢
      rcases given with ⟨result, next⟩
      rcases given' with ⟨result', next'⟩
      obtain rfl : result' = result := hfirst
      have hmanner' : next'.manner = next.manner := by
        rw [hlater'.manner, hlater.manner, hmanner]
      have hbacking' : next'.backing = next.backing := by
        rw [hlater'.backing, hlater.backing, hbacking]
      cases result' with
      | error error => rfl
      | ok bytes =>
        cases bytes with
        | nil => rfl
        | cons byte rest =>
          have hrest : (next'.collect after (offset + (byte :: rest).length)
              (want - (byte :: rest).length) rounds).1
                = (next.collect disk (offset + (byte :: rest).length)
                  (want - (byte :: rest).length) rounds).1 :=
            ih ⟨answer, hlater.manner ▸ hanswer⟩ hmanner' hbacking' (hlater.backing ▸ hsame) _ _
          dsimp only
          rw [hrest]

/-- **A read whose calls are alike gives the same whenever it is made**, as long as the bytes behind the
source stay. -/
theorem readExact_alike {source later : Source} (halike : source.manner.Alike)
    (hlater : source.Later later) {disk after : Disk} (hsame : source.backing.Unchanged disk after)
    (offset want : Nat) :
    (later.readExact after offset want).1 = (source.readExact disk offset want).1 :=
  collect_alike halike hlater.manner hlater.backing hsame offset want want

end Source

end PartitionImage
