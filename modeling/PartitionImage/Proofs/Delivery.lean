import PartitionImage.Proofs.Source
/-!
# However a source delivers

A source may give its bytes in pieces of any size, and be interrupted in between as often as it likes.  A read of some
bytes does not show any of that: it gives what is there, up to the end or to a place that cannot be read.

* `Source.Run` is a read from call to call; `Source.run_readExact` says that every read comes to an end.
* `Source.Serves` is a source of some bytes, `Source.Reply` what one of its calls may give.
* `Source.outcome` is what there is to be had; `Source.Serves.readExact_eq` says that a read gives just that.
* `Source.serves_ofBytes`, `Source.serves_inPieces` and `Source.Faultless.serves` are sources of this kind.
* `Source.Delivered` is what a read into a buffer comes to, and `Source.Serves.delivered` says that it does.
-/

namespace PartitionImage

/-- Any `respond` is a manner if no interruption lasts for ever. -/
theorem Manner.exists_of_settles (respond : (call offset want : Nat) → Except IoError Nat)
    (hsettles : ∀ call offset want, ∃ after, respond (call + after) offset want ≠ .error .interrupted) :
    ∃ manner : Manner, manner.respond = respond :=
  ⟨{ respond := respond
     patience := fun call offset want => (hsettles call offset want).choose
     settles := fun call offset want => ⟨_, Nat.le_refl _, (hsettles call offset want).choose_spec⟩ }, rfl⟩

namespace Source

variable {disk : Disk} {bytes : Bytes} {fault : Nat → Option IoError} {offset want reach : Nat} {source : Source}

/-! ### From call to call -/

/-- A read of `want` bytes at `offset` that has got some of them.  It asks again after an interruption, and for what
is left after a call that gave something; it ends if nothing is left, if a call fails, and if one gives nothing. -/
inductive Run (disk : Disk) (offset want : Nat) : Source → Bytes → Transfer IoError Unit × Source → Prop
  | full {source : Source} {got : Bytes} : want ≤ got.length → Run disk offset want source got (⟨got, .ok ()⟩, source)
  | interrupted {source next : Source} {got : Bytes} {ended : Transfer IoError Unit × Source} :
    got.length < want →
      source.readAt disk (offset + got.length) (want - got.length) = (.error .interrupted, next) →
      Run disk offset want next got ended → Run disk offset want source got ended
  | failed {source next : Source} {got : Bytes} {error : IoError} :
    got.length < want → source.readAt disk (offset + got.length) (want - got.length) = (.error error, next) →
      error ≠ .interrupted → Run disk offset want source got (⟨got, .error error⟩, next)
  | ended {source next : Source} {got : Bytes} :
    got.length < want → source.readAt disk (offset + got.length) (want - got.length) = (.ok [], next) →
      Run disk offset want source got (⟨got, .error .endOfImage⟩, next)
  | given {source next : Source} {got bytes : Bytes} {ended : Transfer IoError Unit × Source} :
    got.length < want → source.readAt disk (offset + got.length) (want - got.length) = (.ok bytes, next) →
      bytes ≠ [] → Run disk offset want next (got ++ bytes) ended → Run disk offset want source got ended

theorem exists_last {patience : Nat} (got : Bytes) (hleft : got.length < want)
    (hsettles : ∃ after, after ≤ patience ∧ source.manner.respond (source.calls + after) (offset + got.length)
      (want - got.length) ≠ .error .interrupted) :
    ∃ last : Source, source.Later last
      ∧ (∀ ended, Run disk offset want last got ended → Run disk offset want source got ended)
      ∧ source.readSettled disk (offset + got.length) (want - got.length) patience
        = last.readAt disk (offset + got.length) (want - got.length)
      ∧ (last.readAt disk (offset + got.length) (want - got.length)).1 ≠ .error .interrupted := by
  obtain ⟨after, hafter, hne⟩ := hsettles
  induction patience generalizing source after with
  | zero =>
    obtain rfl := Nat.le_zero.mp hafter
    exact ⟨source, .refl source, fun _ => id, rfl, fun hint => hne (deliver_interrupted hint)⟩
  | succ patience ih =>
    rw [readSettled]
    split
    · next next hcall =>
      have hint : source.manner.respond source.calls (offset + got.length) (want - got.length)
          = .error .interrupted := deliver_interrupted (congrArg Prod.fst hcall)
      cases after with
      | zero => exact absurd hint hne
      | succ after =>
        obtain rfl : (source.readAt disk (offset + got.length) (want - got.length)).2 = next :=
          congrArg Prod.snd hcall
        have hnext : source.manner.respond (source.calls + 1 + after) (offset + got.length) (want - got.length)
            ≠ .error .interrupted := by
          rwa [Nat.add_assoc, Nat.add_comm 1 after]
        obtain ⟨last, hlater, hruns, hlast, hanswers⟩ :=
          @ih (source.readAt disk (offset + got.length) (want - got.length)).2 after (by omega) hnext
        exact ⟨last, (source.readAt_later disk _ _).trans hlater,
          fun ended hrun => .interrupted hleft hcall (hruns ended hrun), hlast, hanswers⟩
    · next hother =>
      exact ⟨source, .refl source, fun _ => id, rfl, fun hint => hother _ (Prod.ext hint rfl)⟩

/-- A read goes from call to call, whatever it has got so far. -/
theorem run_collect (source : Source) (disk : Disk) (offset : Nat) {want rounds : Nat} (got : Bytes)
    (hgot : got.length ≤ want) (hrounds : want - got.length ≤ rounds) :
    Run disk offset want source got
      (⟨got ++ (source.collect disk (offset + got.length) (want - got.length) rounds).1.bytes,
          (source.collect disk (offset + got.length) (want - got.length) rounds).1.result⟩,
        (source.collect disk (offset + got.length) (want - got.length) rounds).2) := by
  induction rounds generalizing source got with
  | zero =>
    rw [collect, if_pos (by omega), List.append_nil]
    exact .full (by omega)
  | succ rounds ih =>
    rw [collect]
    split
    · rw [List.append_nil]
      exact .full (by omega)
    · have hleft : got.length < want := by omega
      obtain ⟨last, -, hruns, hlast, hanswers⟩ := exists_last got hleft (source.exists_settled _ _)
      refine hruns _ ?_
      rw [hlast]
      rcases hcall : last.readAt disk (offset + got.length) (want - got.length) with ⟨result, next⟩
      rw [hcall] at hanswers
      cases result with
      | error error =>
        dsimp only
        rw [List.append_nil]
        exact .failed hleft hcall fun hint => hanswers (congrArg Except.error hint)
      | ok bytes =>
        cases bytes with
        | nil =>
          dsimp only
          rw [List.append_nil]
          exact .ended hleft hcall
        | cons byte bytes =>
          -- no call gives more than it was asked for, so that some rounds are left for what is left
          have hle := (deliver_eq_slice (last.backing.agrees_contents disk) (congrArg Prod.fst hcall)).2
          have hlength : (got ++ byte :: bytes).length = got.length + (byte :: bytes).length := List.length_append
          have hpos : 0 < (byte :: bytes).length := Nat.succ_pos _
          have hrest := ih next (got ++ byte :: bytes) (by omega) (by omega)
          rw [hlength, ← Nat.add_assoc, ← Nat.sub_sub, List.append_assoc] at hrest
          exact .given hleft hcall (List.cons_ne_nil _ _) hrest

/-- **Every read comes to an end**, however often it is interrupted and however little a call gives. -/
theorem run_readExact (source : Source) (disk : Disk) (offset want : Nat) :
    Run disk offset want source [] (source.readExact disk offset want) :=
  source.run_collect disk offset [] (Nat.zero_le want) (Nat.le_refl _)

theorem Run.unique {got : Bytes} {ended other : Transfer IoError Unit × Source}
    (h : Run disk offset want source got ended) (hother : Run disk offset want source got other) : ended = other := by
  induction h with
  | full hfull => cases hother <;> grind
  | interrupted hleft hcall _ ih => cases hother <;> grind
  | failed hleft hcall hne => cases hother <;> grind
  | ended hleft hcall => cases hother <;> grind
  | given hleft hcall hne _ ih => cases hother <;> grind

/-! ### What there is to be had -/

/-- What a call may give that asks for `want` bytes at `offset`: it is interrupted, it fails at a place that cannot be
read, it gives nothing at the end, or it gives some of the bytes before the end and before the next such place. -/
inductive Reply (bytes : Bytes) (fault : Nat → Option IoError) (offset want : Nat) : Except IoError Bytes → Prop
  | interrupted : Reply bytes fault offset want (.error .interrupted)
  | failed {error : IoError} : offset < bytes.length → fault offset = some error →
    Reply bytes fault offset want (.error error)
  | ended : bytes.length ≤ offset → Reply bytes fault offset want (.ok [])
  | given {n : Nat} : 0 < n → n ≤ want → offset + n ≤ bytes.length →
    (∀ place, offset ≤ place → place < offset + n → fault place = none) →
      Reply bytes fault offset want (.ok (bytes.slice offset n))

/-- A source of some bytes, some of which cannot be read: so it tells their number, and answers every call from now on
that reaches no further than `reach`. -/
structure Serves (source : Source) (disk : Disk) (bytes : Bytes) (fault : Nat → Option IoError) (reach : Nat) :
    Prop where
  size_eq : source.size disk = .ok bytes.length
  replies : ∀ call, source.calls ≤ call → ∀ offset want, 0 < want → offset + want ≤ reach →
    Reply bytes fault offset want
      (deliver source.backing disk offset want (source.manner.respond call offset want))

theorem Serves.later {after : Source} (h : source.Serves disk bytes fault reach) (hlater : source.Later after) :
    after.Serves disk bytes fault reach := by
  obtain ⟨calls, hcalls, rfl⟩ := hlater
  exact ⟨h.size_eq, fun call hcall => h.replies call (Nat.le_trans hcalls hcall)⟩

/-- What a read gives that takes one byte after the other, and is not interrupted. -/
def outcome (bytes : Bytes) (fault : Nat → Option IoError) (offset : Nat) : (want : Nat) → Transfer IoError Unit
  | 0 => .complete []
  | want + 1 =>
    if bytes.length ≤ offset then .failed .endOfImage
    else
      match fault offset with
      | some error => .failed error
      | none => Transfer.append (.complete (bytes.slice offset 1)) (outcome bytes fault (offset + 1) want)

theorem outcome_given {n : Nat} (hwant : n ≤ want) (hfit : offset + n ≤ bytes.length)
    (hclear : ∀ place, offset ≤ place → place < offset + n → fault place = none) :
    outcome bytes fault offset want
      = Transfer.append (.complete (bytes.slice offset n)) (outcome bytes fault (offset + n) (want - n)) := by
  induction n generalizing offset want with
  | zero =>
    show _ = Transfer.append (.complete (bytes.slice offset 0)) (outcome bytes fault offset want)
    rfl
  | succ n ih =>
    obtain ⟨want, rfl⟩ : ∃ less, want = less + 1 := ⟨want - 1, by omega⟩
    have hnow : fault offset = none := hclear offset (Nat.le_refl _) (by omega)
    have hrest := @ih (offset + 1) want (by omega) (by omega) fun place hle hlt => hclear place (by omega) (by omega)
    have hslice : bytes.slice offset (n + 1) = bytes.slice offset 1 ++ bytes.slice (offset + 1) n := by
      rw [Bytes.slice_append_slice, Nat.add_comm]
    rw [outcome, if_neg (by omega), hnow]
    dsimp only
    rw [hrest, hslice, Nat.add_assoc, Nat.add_comm 1 n, Nat.add_sub_add_right]
    simp only [Transfer.append, Transfer.complete, List.append_assoc]

/-- Everything is to be had that can be read. -/
theorem outcome_ok (hfit : want = 0 ∨ offset + want ≤ bytes.length)
    (hclear : ∀ place, offset ≤ place → place < offset + want → place < bytes.length → fault place = none) :
    outcome bytes fault offset want = .complete (bytes.slice offset want) := by
  rcases hfit with rfl | hfit
  · rfl
  · rw [outcome_given (Nat.le_refl want) hfit fun place hle hlt => hclear place hle hlt (by omega), Nat.sub_self]
    simp only [outcome, Transfer.append, Transfer.complete, List.append_nil]

theorem outcome_eq_slice (hok : (outcome bytes fault offset want).result = .ok ()) :
    (outcome bytes fault offset want).bytes = bytes.slice offset want ∧ (bytes.slice offset want).length = want := by
  induction want generalizing offset with
  | zero => exact ⟨rfl, rfl⟩
  | succ want ih =>
    rw [outcome] at hok ⊢
    split at hok
    · cases hok
    · next hend =>
      rw [if_neg hend]
      cases hfault : fault offset with
      | some error =>
        rw [hfault] at hok
        cases hok
      | none =>
        rw [hfault] at hok
        obtain ⟨hrest, hlength⟩ := ih hok
        have hone : (bytes.slice offset 1).length = 1 := Bytes.length_slice_of_le (by omega)
        have hjoin := Bytes.slice_append_slice bytes offset 1 want
        rw [Nat.add_comm 1 want] at hjoin
        refine ⟨?_, by rw [← hjoin, List.length_append, hone, hlength, Nat.add_comm]⟩
        show bytes.slice offset 1 ++ (outcome bytes fault (offset + 1) want).bytes = _
        rw [hrest, hjoin]

/-- Of what goes on past the end there is what comes before it. -/
theorem outcome_end (hwant : 0 < want) (hshort : bytes.length < offset + want)
    (hclear : ∀ place, offset ≤ place → place < offset + want → place < bytes.length → fault place = none) :
    outcome bytes fault offset want = ⟨bytes.slice offset want, .error .endOfImage⟩ := by
  have hslice : bytes.slice offset want = bytes.slice offset (bytes.length - offset) := by
    simp only [Bytes.slice, List.take_eq_take_iff, List.length_drop]
    omega
  have hpast : ∀ place left, bytes.length ≤ place → outcome bytes fault place (left + 1) = .failed .endOfImage :=
    fun place left hplace => if_pos hplace
  rw [hslice]
  by_cases hbefore : offset ≤ bytes.length
  · obtain ⟨left, hleft⟩ : ∃ left, want - (bytes.length - offset) = left + 1 :=
      ⟨want - (bytes.length - offset) - 1, by omega⟩
    rw [outcome_given (show bytes.length - offset ≤ want by omega) (by omega) fun place hle hlt =>
      hclear place hle (by omega) (by omega), hleft, hpast _ left (by omega)]
    simp only [Transfer.append, Transfer.complete, Transfer.failed, List.append_nil]
  · obtain ⟨left, rfl⟩ : ∃ left, want = left + 1 := ⟨want - 1, by omega⟩
    have hnone : bytes.length - offset = 0 := by omega
    rw [hpast offset left (by omega), hnone]
    rfl

/-- Of what goes on past a place that cannot be read there is what comes before it. -/
theorem outcome_fault {place : Nat} {error : IoError} (hle : offset ≤ place) (hlt : place < offset + want)
    (hbytes : place < bytes.length) (hfault : fault place = some error)
    (hfirst : ∀ before, offset ≤ before → before < place → fault before = none) :
    outcome bytes fault offset want = ⟨bytes.slice offset (place - offset), .error error⟩ := by
  obtain ⟨left, hleft⟩ : ∃ left, want - (place - offset) = left + 1 := ⟨want - (place - offset) - 1, by omega⟩
  have hstop : outcome bytes fault place (left + 1) = .failed error := by
    rw [outcome, if_neg (by omega), hfault]
  rw [outcome_given (show place - offset ≤ want by omega) (by omega) fun before hle hlt =>
    hfirst before hle (by omega), hleft, Nat.add_sub_cancel' hle, hstop]
  simp only [Transfer.append, Transfer.complete, Transfer.failed, List.append_nil]

/-! ### Reading -/

theorem Serves.readSettled (h : source.Serves disk bytes fault reach) (hwant : 0 < want)
    (hreach : offset + want ≤ reach) :
    Reply bytes fault offset want (source.readSettled disk offset want (source.patience offset want)).1
      ∧ (source.readSettled disk offset want (source.patience offset want)).1 ≠ .error .interrupted := by
  obtain ⟨last, hlater, -, hlast, hanswers⟩ :=
    exists_last [] hwant (source.exists_settled offset want)
  have hreply := (h.later hlater).replies last.calls (Nat.le_refl _) offset want hwant hreach
  exact ⟨hlast ▸ hreply, hlast ▸ hanswers⟩

theorem Serves.collect_eq {rounds : Nat} (h : source.Serves disk bytes fault reach) (hreach : offset + want ≤ reach)
    (hrounds : want ≤ rounds) : (source.collect disk offset want rounds).1 = outcome bytes fault offset want := by
  induction rounds generalizing source offset want with
  | zero =>
    obtain rfl := Nat.le_zero.mp hrounds
    rfl
  | succ rounds ih =>
    rw [collect]
    cases want with
    | zero => rfl
    | succ left =>
      rw [if_neg (Nat.succ_ne_zero left)]
      obtain ⟨hreply, hanswers⟩ := h.readSettled (Nat.succ_pos left) hreach
      have hlater := source.readSettled_later disk offset (left + 1) (source.patience offset (left + 1))
      generalize source.readSettled disk offset (left + 1) (source.patience offset (left + 1)) = read
        at hreply hanswers hlater ⊢
      obtain ⟨result, next⟩ := read
      dsimp only at hreply hanswers hlater
      cases hreply with
      | interrupted => exact absurd rfl hanswers
      | failed hlt hfault =>
        rw [outcome, if_neg (Nat.not_le.mpr hlt), hfault]
        rfl
      | ended hend =>
        rw [outcome, if_pos hend]
        rfl
      | @given n hpos hwant hfit hclear =>
        have hlength : (bytes.slice offset n).length = n := Bytes.length_slice_of_le hfit
        have hrest : (next.collect disk (offset + n) (left + 1 - n) rounds).1 = _ :=
          ih (h.later hlater) (by omega) (by omega)
        rw [outcome_given hwant hfit hclear, ← hrest]
        generalize bytes.slice offset n = given at hlength
        cases given with
        | nil =>
          rw [List.length_nil] at hlength
          omega
        | cons byte given =>
          dsimp only
          rw [hlength]
          rfl

/-- **A read gives what there is to be had**, however the source delivers it. -/
theorem Serves.readExact_eq (h : source.Serves disk bytes fault reach) (hreach : offset + want ≤ reach) :
    (source.readExact disk offset want).1 = outcome bytes fault offset want :=
  h.collect_eq hreach (Nat.le_refl want)

/-! ### Sources that serve -/

/-- A source of some bytes serves them if its calls are interrupted, fail where they may, or give a byte at least. -/
theorem serves_of_responds (hsize : source.size disk = .ok bytes.length)
    (hslice : ∀ offset n, offset + n ≤ reach → source.backing.slice disk offset n = .ok (bytes.slice offset n))
    (hresponds : ∀ call, source.calls ≤ call → ∀ offset want, 0 < want → offset + want ≤ reach →
      source.manner.respond call offset want = .error .interrupted
        ∨ (∃ error, source.manner.respond call offset want = .error error
          ∧ (offset < bytes.length → fault offset = some error))
        ∨ ∃ most, source.manner.respond call offset want = .ok most ∧ 0 < most
          ∧ ∀ place, offset ≤ place → place < offset + most → fault place = none) :
    source.Serves disk bytes fault reach := by
  have hbacking : source.backing.size disk = bytes.length := by
    rw [Source.size] at hsize
    split at hsize
    · cases hsize
    · exact Except.ok.inj hsize
  refine ⟨hsize, fun call hcall offset want hwant hreach => ?_⟩
  rcases hresponds call hcall offset want hwant hreach with hint | ⟨error, herror, hfault⟩ | ⟨most, hok, hpos, hclear⟩
  · rw [hint]
    exact .interrupted
  · rw [herror, deliver.eq_def]
    cases error with
    | interrupted => exact .interrupted
    | _ =>
      dsimp only
      rw [hbacking]
      split
      · next hlt => exact .failed hlt (hfault hlt)
      · next hlt => exact .ended (Nat.le_of_not_lt hlt)
  · rw [hok, show deliver source.backing disk offset want (.ok most)
        = source.backing.slice disk offset (min want most) from rfl, hslice offset _ (by omega)]
    by_cases hend : bytes.length ≤ offset
    · rw [Bytes.slice, List.drop_of_length_le hend, List.take_nil]
      exact .ended hend
    · have hcut : bytes.slice offset (min want most)
          = bytes.slice offset (min (min want most) (bytes.length - offset)) := by
        simp only [Bytes.slice, List.take_eq_take_iff, List.length_drop]
        omega
      rw [hcut]
      exact .given (by omega) (by omega) (by omega) fun place hle hlt => hclear place hle (by omega)

/-- A source without faults serves its bytes, up to `Disk.maxOffset`. -/
theorem Faultless.serves (h : source.Faultless disk bytes) :
    source.Serves disk bytes (fun _ => none) Disk.maxOffset := by
  have hsize : source.size disk = .ok bytes.length := by
    rw [Source.size, h.sized]
    exact congrArg Except.ok h.holds.size_eq
  refine serves_of_responds hsize (fun _ _ => h.ends) fun call hcall offset want hwant _ => ?_
  rcases h.responds call hcall offset want hwant with hint | ⟨most, hpos, hok⟩
  · exact .inl hint
  · exact .inr (.inr ⟨most, hok, hpos, fun _ _ _ => rfl⟩)

theorem serves_ofBytes (disk : Disk) (bytes : Bytes) (reach : Nat) :
    (ofBytes bytes).Serves disk bytes (fun _ => none) reach :=
  serves_of_responds (congrArg Except.ok (Backing.holds_ofBytes disk bytes).size_eq)
    (fun offset n _ => congrArg Except.ok (Content.slice_ofBytes bytes offset n))
    fun _ _ _ want hwant _ => .inr (.inr ⟨want, rfl, hwant, fun _ _ _ => rfl⟩)

/-- Bytes in memory that cannot be read at one place, if there is such a place, and come in pieces no longer than a
chunk. -/
def inPieces (bytes : Bytes) (chunk fault : Option Nat) (interrupts : Bool) : Source :=
  { backing := .memory (.ofBytes bytes), manner := .faulty chunk fault interrupts }

/-- A call that is not interrupted fails at the fault, or gives something before it. -/
theorem limited_cases {chunk : Option Nat} (hchunk : chunk ≠ some 0) (fault? : Option Nat) (offset : Nat)
    (hwant : 0 < want) :
    (fault? = some offset ∧ Manner.limited chunk fault? offset want = .error (.injected "read"))
      ∨ ∃ most, Manner.limited chunk fault? offset want = .ok most ∧ 0 < most
        ∧ ∀ place, offset ≤ place → place < offset + most → fault? ≠ some place := by
  -- a chunk is one more bound on what is asked for
  have hwhole : ∀ most, 0 < most →
      (fault? = some offset ∧ Manner.limited none fault? offset most = .error (.injected "read"))
        ∨ ∃ less, Manner.limited none fault? offset most = .ok less ∧ 0 < less
          ∧ ∀ place, offset ≤ place → place < offset + less → fault? ≠ some place := by
    intro most hpos
    unfold Manner.limited
    cases fault? with
    | none => exact .inr ⟨most, rfl, hpos, fun _ _ _ h => nomatch h⟩
    | some position =>
      dsimp only
      split
      · next hat => exact .inl ⟨congrArg some hat.symm, rfl⟩
      · next hne =>
        split
        · refine .inr ⟨_, rfl, by omega, fun place hle hlt hsame => ?_⟩
          obtain rfl := Option.some.inj hsame
          omega
        · refine .inr ⟨most, rfl, hpos, fun place hle hlt hsame => ?_⟩
          obtain rfl := Option.some.inj hsame
          omega
  cases chunk with
  | none => exact hwhole want hwant
  | some chunk =>
    have hpos : chunk ≠ 0 := fun hzero => hchunk (congrArg some hzero)
    exact hwhole (min want chunk) (by omega)

/-- **Short reads, interruptions and a fault** are all ways to serve. -/
theorem serves_inPieces (disk : Disk) (bytes : Bytes) {chunk : Option Nat} (hchunk : chunk ≠ some 0)
    (fault? : Option Nat) (interrupts : Bool) (reach : Nat) :
    (inPieces bytes chunk fault? interrupts).Serves disk bytes
      (fun place => if fault? = some place then some (.injected "read") else none) reach := by
  refine serves_of_responds (congrArg Except.ok (Backing.holds_ofBytes disk bytes).size_eq)
    (fun offset n _ => congrArg Except.ok (Content.slice_ofBytes bytes offset n))
    fun call _ offset want hwant _ => ?_
  by_cases hint : (interrupts && call % 2 == 0) = true
  · exact .inl (if_pos hint)
  · have hresponds : (inPieces bytes chunk fault? interrupts).manner.respond call offset want
        = Manner.limited chunk fault? offset want := if_neg hint
    rw [hresponds]
    right
    rcases limited_cases hchunk fault? offset hwant with ⟨hat, hfails⟩ | ⟨most, hgives, hpos, hclear⟩
    · exact .inl ⟨_, hfails, fun _ => if_pos hat⟩
    · exact .inr ⟨most, hgives, hpos, fun place hle hlt => if_neg (hclear place hle hlt)⟩

/-- What a read into a buffer comes to, however the source delivers.  It comes to an end.  Where every byte can be
read it succeeds just if all that is wanted is there, and the buffer then has it; otherwise it fails at the end of the
image, and the buffer has what is there and is as it was after that.  Where it comes to a place that cannot be read it
fails as the call there does, and the buffer has what comes before. -/
structure Delivered (source : Source) (disk : Disk) (bytes : Bytes) (fault : Nat → Option IoError) (offset : Nat)
    (buffer : Bytes) : Prop where
  ends : Run disk offset buffer.length source [] (source.readExact disk offset buffer.length)
  ok_iff : (∀ place, offset ≤ place → place < offset + buffer.length → place < bytes.length → fault place = none) →
    ((source.readExact disk offset buffer.length).1.result = .ok ()
      ↔ offset + buffer.length ≤ bytes.length ∨ buffer.length = 0)
  filled : (source.readExact disk offset buffer.length).1.result = .ok () →
    (source.readExact disk offset buffer.length).1.into buffer = bytes.slice offset buffer.length
  short : (∀ place, offset ≤ place → place < offset + buffer.length → place < bytes.length → fault place = none) →
    (source.readExact disk offset buffer.length).1.result ≠ .ok () →
      (source.readExact disk offset buffer.length).1.result = .error .endOfImage
        ∧ (source.readExact disk offset buffer.length).1.into buffer
          = bytes.drop offset ++ buffer.drop (bytes.length - offset)
  faulty : ∀ place error, offset ≤ place → place < offset + buffer.length → place < bytes.length →
    fault place = some error → (∀ before, offset ≤ before → before < place → fault before = none) →
      (source.readExact disk offset buffer.length).1.result = .error error
        ∧ (source.readExact disk offset buffer.length).1.into buffer
          = bytes.slice offset (place - offset) ++ buffer.drop (place - offset)

/-- **What a read gives is independent of how the source delivers**: of the size of the pieces, and of interruptions as
long as each comes to an end. -/
theorem Serves.delivered (h : source.Serves disk bytes fault reach) {offset : Nat} {buffer : Bytes}
    (hreach : offset + buffer.length ≤ reach) : source.Delivered disk bytes fault offset buffer := by
  have heq := h.readExact_eq hreach
  refine ⟨source.run_readExact disk offset buffer.length, fun hclear => ⟨fun hok => ?_, fun hfit => ?_⟩,
    fun hok => ?_, fun hclear hne => ?_, fun place error hle hlt hbytes hfault hfirst => ?_⟩
  · rw [heq] at hok
    have hlength := (outcome_eq_slice hok).2
    rw [Bytes.length_slice] at hlength
    omega
  · rw [heq, outcome_ok hfit.symm hclear]
    rfl
  · rw [heq] at hok ⊢
    obtain ⟨hbytes, hlength⟩ := outcome_eq_slice hok
    rw [Transfer.into, hbytes, hlength, List.drop_length, List.append_nil]
  · have hfit : ¬ (buffer.length = 0 ∨ offset + buffer.length ≤ bytes.length) := by
      intro hfit
      rw [heq, outcome_ok hfit hclear] at hne
      exact hne rfl
    have hslice : bytes.slice offset buffer.length = bytes.drop offset :=
      List.take_of_length_le (by rw [List.length_drop]; omega)
    rw [heq, outcome_end (by omega) (by omega) hclear, Transfer.into, hslice, List.length_drop]
    exact ⟨rfl, rfl⟩
  · rw [heq, outcome_fault hle hlt hbytes hfault hfirst, Transfer.into, Bytes.length_slice_of_le (by omega)]
    exact ⟨rfl, rfl⟩

end Source

end PartitionImage
