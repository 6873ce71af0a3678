import PartitionImage.BlockMap
import PartitionImage.Proofs.Action
import PartitionImage.Proofs.Source
/-!
# What is read out of an image

An action that only reads a source is a partial function of the bytes behind it: whatever it gives
is what the function says, however the calls of the source go, and where the function says something
a source without faults gives it.

* `Source.Onward` relates the two ends of a run that only reads.
* `Source.Extracts` ties an action to its function of the bytes.
* `Source.Extracts.bind` and its companions take an action apart; `Source.extracts_fetch` is where it
  touches the source.
-/

namespace PartitionImage

/-- The `n` bytes at `offset`, if all of them are there.  No bytes can be had from everywhere. -/
def Bytes.range? (bytes : Bytes) (offset n : Nat) : Option Bytes :=
  if n = 0 ∨ offset + n ≤ bytes.length then some (bytes.slice offset n) else none

namespace Bytes

theorem range?_of_le {bytes : Bytes} {offset n : Nat} (h : offset + n ≤ bytes.length) :
    bytes.range? offset n = some (bytes.slice offset n) :=
  if_pos (.inr h)

theorem range?_eq_some {bytes got : Bytes} {offset n : Nat}
    (h : bytes.range? offset n = some got) : got = bytes.slice offset n ∧ got.length = n := by
  unfold range? at h
  split at h
  · next hfit =>
    cases h
    rcases hfit with rfl | hfit
    · exact ⟨rfl, rfl⟩
    · exact ⟨rfl, length_slice_of_le hfit⟩
  · cases h

/-- Two adjoining ranges can be had if the range of both can. -/
theorem range?_add (bytes : Bytes) (offset a b : Nat) :
    bytes.range? offset (a + b)
      = (bytes.range? offset a).bind fun first =>
          (bytes.range? (offset + a) b).map fun second => first ++ second := by
  have hjoin := slice_append_slice bytes offset a b
  unfold range?
  by_cases ha : a = 0 ∨ offset + a ≤ bytes.length
  · rw [if_pos ha]
    by_cases hb : b = 0 ∨ offset + a + b ≤ bytes.length
    · rw [if_pos hb, if_pos (by omega), ← hjoin]
      rfl
    · rw [if_neg hb, if_neg (by omega)]
      rfl
  · rw [if_neg ha, if_neg (by omega)]
    rfl

end Bytes

namespace Source

variable {α β ε : Type} {bytes : Bytes}

open PartitionImage.Action (Respects perform)

/-- The state after a run that only reads: more calls have been made, and the disk is as before. -/
structure Onward (before after : Source × World) : Prop where
  later : before.1.Later after.1
  disk : after.2.disk = before.2.disk

theorem Onward.refl (state : Source × World) : Onward state state := ⟨.refl _, rfl⟩

theorem Onward.trans {a b c : Source × World} (hab : Onward a b) (hbc : Onward b c) :
    Onward a c :=
  ⟨hab.later.trans hbc.later, hbc.disk.trans hab.disk⟩

instance : Std.Refl Onward := ⟨Onward.refl⟩

instance : Trans Onward Onward Onward := ⟨Onward.trans⟩

theorem Onward.agrees {before after : Source × World} (h : Onward before after)
    (hbefore : before.1.backing.Agrees before.2.disk bytes) :
    after.1.backing.Agrees after.2.disk bytes := by
  rw [h.later.backing, h.disk]
  exact hbefore

theorem Onward.delivers {before after : Source × World} (h : Onward before after)
    (hbefore : before.1.Delivers before.2.disk bytes) : after.1.Delivers after.2.disk bytes := by
  rw [h.disk]
  exact hbefore.later h.later

/-- **An action that reads a function of the bytes.**  What it gives is `found?` whatever the calls of
the source do; and it gives that, if there is anything to find and no call fails. -/
structure Extracts (bytes : Bytes) (act : Action (Source × World) Error α)
    (found? : Option α) : Prop where
  onward : Respects Onward act
  sound : ∀ {state : Source × World} {value : α},
    state.1.backing.Agrees state.2.disk bytes → (perform act state).1 = .ok value →
      found? = some value
  complete : ∀ {state : Source × World} {value : α},
    state.1.Delivers state.2.disk bytes → found? = some value → (perform act state).1 = .ok value

namespace Extracts

theorem pure (value : α) : Extracts bytes (Pure.pure value) (some value) where
  onward := .pure value
  sound := by
    intro state got _ h
    cases h
    rfl
  complete := by
    intro state got _ h
    cases h
    rfl

theorem throw (error : Error) : Extracts bytes (MonadExcept.throw error) (none : Option α) where
  onward := .throw error
  sound := by
    intro state got _ h
    cases h
  complete := by
    intro state got _ h
    cases h

theorem ofExcept (result : Except Error α) :
    Extracts bytes (Action.ofExcept result) result.toOption where
  onward := .ofExcept result
  sound := by
    intro state got _ h
    have hresult : result = .ok got := h
    rw [hresult]
    rfl
  complete := by
    intro state got _ h
    cases result with
    | error error => cases h
    | ok value =>
      cases h
      rfl

theorem warn (warning : Warning) : Extracts bytes (Action.warn warning) (some ()) where
  onward := .change fun state => ⟨.refl _, rfl⟩
  sound := by
    intro state got _ _
    rfl
  complete := by
    intro state got _ _
    rfl

/-- What is found first decides what is looked for next. -/
theorem bind {act : Action (Source × World) Error α} {next : α → Action (Source × World) Error β}
    {found? : Option α} {then? : α → Option β} (hact : Extracts bytes act found?)
    (hnext : ∀ value, Extracts bytes (next value) (then? value)) :
    Extracts bytes (act >>= next) (found?.bind then?) where
  onward := .bind hact.onward fun value => (hnext value).onward
  sound := by
    intro state value hagrees h
    obtain ⟨first, reached, hfirst, hrest⟩ :=
      Action.perform_bind_inv (Prod.ext h rfl : perform (act >>= next) state = (.ok value, _))
    have honward := hact.onward.of_perform hfirst
    rw [hact.sound hagrees (congrArg Prod.fst hfirst), Option.bind_some]
    exact (hnext first).sound (honward.agrees hagrees) (congrArg Prod.fst hrest)
  complete := by
    intro state value hdelivers h
    obtain ⟨first, hfound, hthen⟩ := Option.bind_eq_some_iff.mp h
    have hfirst : perform act state = (.ok first, (perform act state).2) :=
      Prod.ext (hact.complete hdelivers hfound) rfl
    rw [Action.perform_bind_ok hfirst]
    exact (hnext first).complete ((hact.onward state).delivers hdelivers) hthen

theorem size {wrap : IoError → Error} {next : Nat → Action (Source × World) Error β}
    {then? : Nat → Option β} (hnext : ∀ n, Extracts bytes (next n) (then? n)) :
    Extracts bytes
      (get >>= fun state => Action.ofExcept ((state.1.size state.2.disk).mapError wrap) >>= next)
      (then? bytes.length) where
  onward := .bind .get fun _ => .bind (.ofExcept _) fun n => (hnext n).onward
  sound := by
    intro state value hagrees h
    rw [Action.perform_bind_ok (Action.perform_get state)] at h
    obtain ⟨n, reached, hn, hrest⟩ := Action.perform_bind_inv (Prod.ext h rfl)
    obtain ⟨hsize, rfl⟩ := Prod.mk.inj hn
    have hlength : n = bytes.length := by
      rw [Action.mapError_eq_ok_iff, Source.size] at hsize
      split at hsize
      · cases hsize
      · cases hsize
        exact hagrees.size_eq
    rw [← hlength]
    exact (hnext n).sound hagrees (congrArg Prod.fst hrest)
  complete := by
    intro state value hdelivers h
    have hsize : (state.1.size state.2.disk).mapError wrap = .ok bytes.length := by
      rw [Action.mapError_eq_ok_iff, Source.size, hdelivers.sized]
      exact congrArg _ hdelivers.holds.size_eq
    rw [Action.perform_bind_ok (Action.perform_get state), hsize]
    exact (hnext bytes.length).complete hdelivers h

end Extracts

/-- Bytes that are needed whole are a range of the bytes behind the source. -/
theorem extracts_fetch (offset n : Nat) (wrap : IoError → Error) :
    Extracts bytes (BlockMap.fetch offset n wrap) (bytes.range? offset n) where
  onward := fun state => ⟨state.1.readExact_later state.2.disk offset n, rfl⟩
  sound := by
    intro state value hagrees h
    have hread : ((state.1.readExact state.2.disk offset n).1.result.map fun _ =>
        (state.1.readExact state.2.disk offset n).1.bytes) = .ok value :=
      Action.mapError_eq_ok_iff.mp h
    cases hresult : (state.1.readExact state.2.disk offset n).1.result with
    | error error =>
      rw [hresult] at hread
      cases hread
    | ok done =>
      rw [hresult] at hread
      cases hread
      obtain ⟨hbytes, hlength⟩ := readExact_eq_slice hagrees hresult
      rw [hbytes, Bytes.range?]
      rw [Bytes.length_slice] at hlength
      exact if_pos (by omega)
  complete := by
    intro state value hdelivers h
    unfold Bytes.range? at h
    split at h
    · next hfit =>
      cases h
      have hread : (state.1.readExact state.2.disk offset n).1
          = .complete (bytes.slice offset n) := by
        rcases hfit with rfl | hfit
        · rfl
        · exact readExact_ok hdelivers hfit
      show ((state.1.readExact state.2.disk offset n).1.result.map fun _ =>
        (state.1.readExact state.2.disk offset n).1.bytes).mapError wrap = _
      rw [hread]
      rfl
    · cases h

end Source

end PartitionImage
