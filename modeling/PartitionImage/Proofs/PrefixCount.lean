import Mathlib.Algebra.Group.Nat.Defs
import PartitionImage.PrefixCount
/-!
# The sampled counts are exact

The index of a bitmap gives the number of set positions before every position of the map, whatever
the distance of the samples and whatever the bits that pad the last byte.

* `PrefixCount.Sampled` is the invariant of the pass over the bitmap; `PrefixCount.scan_sampled` says
  that the pass keeps it.
* `PrefixCount.sample?_build` gives each sample of a finished index.
* `PrefixCount.preceding?_build` is the use of it.
* `PrefixCount.build_exact` says all of it about the positions of the map one by one: the number of set
  positions, the samples and every look-up, which does not depend on the distance of the samples.
-/

namespace PartitionImage.PrefixCount

/-- Number of multiples of a step below a position. -/
def multiplesBelow (step pos : Nat) : Nat := (pos + step - 1) / step

theorem multiplesBelow_succ {step : Nat} (hstep : 0 < step) (pos : Nat) :
    multiplesBelow step (pos + 1)
      = if pos % step = 0 then multiplesBelow step pos + 1 else multiplesBelow step pos := by
  have hdecomp := Nat.div_add_mod pos step
  have hlt := Nat.mod_lt pos hstep
  generalize pos / step = q at hdecomp
  generalize pos % step = r at hdecomp hlt
  subst hdecomp
  unfold multiplesBelow
  have hnext : (step * q + r + 1 + step - 1) / step = q + 1 := by
    rw [show step * q + r + 1 + step - 1 = r + step * (q + 1) by rw [Nat.mul_succ]; omega,
      Nat.add_mul_div_left _ _ hstep, Nat.div_eq_of_lt hlt, Nat.zero_add]
  rw [hnext]
  by_cases hzero : r = 0
  · rw [if_pos hzero, hzero, show step * q + 0 + step - 1 = (step - 1) + step * q by omega,
      Nat.add_mul_div_left _ _ hstep, Nat.div_eq_of_lt (by omega), Nat.zero_add]
  · rw [if_neg hzero, show step * q + r + step - 1 = (r - 1) + step * (q + 1) by
        rw [Nat.mul_succ]; omega,
      Nat.add_mul_div_left _ _ hstep, Nat.div_eq_of_lt (by omega), Nat.zero_add]

/-- A `pos` that is a multiple of `step` comes right after the multiples below it. -/
theorem multiplesBelow_mul_of_mod_eq_zero {step : Nat} (hstep : 0 < step) {pos : Nat}
    (h : pos % step = 0) : multiplesBelow step pos * step = pos := by
  have hdecomp := Nat.div_add_mod pos step
  rw [h, Nat.add_zero] at hdecomp
  unfold multiplesBelow
  rw [← hdecomp, show step * (pos / step) + step - 1 = (step - 1) + step * (pos / step) by omega,
    Nat.add_mul_div_left _ _ hstep, Nat.div_eq_of_lt (by omega), Nat.zero_add, Nat.mul_comm]

/-- A multiple that is not below a position has at least the number of those that are. -/
theorem le_mul_multiplesBelow {step : Nat} (hstep : 0 < step) (pos : Nat) :
    pos ≤ multiplesBelow step pos * step := by
  have hdecomp := Nat.div_add_mod (pos + step - 1) step
  have hlt := Nat.mod_lt (pos + step - 1) hstep
  have hcomm := Nat.mul_comm step ((pos + step - 1) / step)
  unfold multiplesBelow
  omega

/-- The samples of the positions below `pos`: one for each multiple of the stride, with the number of
set positions before it. -/
structure Sampled (map : Bitmap) (factor pos : Nat) (samples : Array Nat) : Prop where
  size_eq : samples.size = multiplesBelow (stride factor) pos
  getElem?_eq : ∀ i, i < samples.size → samples[i]? = some (map.count 0 (i * stride factor))

/-- One position on, a sample is there for it if it is a multiple of the stride. -/
theorem Sampled.succ {map : Bitmap} {factor pos : Nat} {samples : Array Nat}
    (h : Sampled map factor pos samples) :
    Sampled map factor (pos + 1)
      (if pos % stride factor = 0 then samples.push (map.count 0 pos) else samples) := by
  have hstep := multiplesBelow_succ (stride_pos factor) pos
  by_cases hmul : pos % stride factor = 0
  · rw [if_pos hmul] at hstep ⊢
    refine ⟨by rw [Array.size_push, h.size_eq, hstep], ?_⟩
    intro i hi
    rw [Array.size_push] at hi
    rw [Array.getElem?_push]
    by_cases hlast : i = samples.size
    · have hpos := multiplesBelow_mul_of_mod_eq_zero (stride_pos factor) hmul
      rw [if_pos hlast, hlast, h.size_eq, hpos]
    · rw [if_neg hlast]
      exact h.getElem?_eq i (by omega)
  · rw [if_neg hmul] at hstep ⊢
    exact ⟨by rw [h.size_eq, hstep], h.getElem?_eq⟩

/-- The pass over a map keeps the samples right and counts the set positions. -/
theorem scan_sampled {map : Bitmap} {factor : Nat} (todo : Nat) {pos : Nat} {samples : Array Nat}
    (h : Sampled map factor pos samples) :
    Sampled map factor (pos + todo) (scan map factor todo pos (map.count 0 pos) samples).1
      ∧ (scan map factor todo pos (map.count 0 pos) samples).2 = map.count 0 (pos + todo) := by
  induction todo generalizing pos samples with
  | zero => exact ⟨h, rfl⟩
  | succ todo ih =>
    have hcount : (if map.isSet pos then map.count 0 pos + 1 else map.count 0 pos)
        = map.count 0 (pos + 1) := by
      rw [Bitmap.count_succ, Nat.zero_add]
      split <;> rfl
    rw [scan, hcount, ← Nat.add_assoc, Nat.add_right_comm]
    exact ih h.succ

theorem scan_length (map : Bitmap) (factor : Nat) :
    Sampled map factor map.length (scan map factor map.length 0 0 #[]).1
      ∧ (scan map factor map.length 0 0 #[]).2 = map.count 0 map.length := by
  have hempty : Sampled map factor 0 #[] := by
    refine ⟨?_, ?_⟩
    · have hpos := stride_pos factor
      rw [multiplesBelow, Nat.zero_add, Nat.div_eq_of_lt (by omega)]
      rfl
    · intro i hi
      exact absurd hi (Nat.not_lt_zero i)
  have hscan := scan_sampled map.length hempty
  rwa [Nat.zero_add, Bitmap.count_zero] at hscan

@[simp] theorem factor_build (map : Bitmap) (factor : Nat) : (build map factor).1.factor = factor :=
  rfl

theorem build_snd (map : Bitmap) (factor : Nat) :
    (build map factor).2 = map.count 0 map.length :=
  (scan_length map factor).2

@[simp] theorem size_build (map : Bitmap) (factor : Nat) :
    (build map factor).1.size = entries map.length factor := by
  have hsize := (scan_length map factor).1.size_eq
  have hentries : entries map.length factor = multiplesBelow (stride factor) map.length + 1 := rfl
  show ((scan map factor map.length 0 0 #[]).1
    ++ Array.replicate (entries map.length factor - (scan map factor map.length 0 0 #[]).1.size)
      (scan map factor map.length 0 0 #[]).2).size = _
  rw [Array.size_append, Array.size_replicate, hsize, hentries]
  omega

/-- **Each sample counts the set positions before its multiple of the stride**, the last one all set
positions of the map. -/
theorem sample?_build (map : Bitmap) (factor : Nat) {i : Nat} (h : i < entries map.length factor) :
    (build map factor).1.sample? i
      = some (map.count 0 (min (i * stride factor) map.length)) := by
  obtain ⟨hsampled, hcount⟩ := scan_length map factor
  have hentries : entries map.length factor = multiplesBelow (stride factor) map.length + 1 := rfl
  have hceil := le_mul_multiplesBelow (stride_pos factor) map.length
  rw [hentries] at h
  show ((scan map factor map.length 0 0 #[]).1
    ++ Array.replicate (entries map.length factor - (scan map factor map.length 0 0 #[]).1.size)
      (scan map factor map.length 0 0 #[]).2)[i]? = _
  rw [Array.getElem?_append, hsampled.size_eq, hcount]
  by_cases hi : i < multiplesBelow (stride factor) map.length
  · have hbelow : i * stride factor < map.length := by
      refine Decidable.byContradiction fun hge => ?_
      -- otherwise the multiples below the length would not reach `i`
      have hdiv : multiplesBelow (stride factor) map.length ≤ i := by
        unfold multiplesBelow
        refine Nat.le_of_lt_succ (Nat.div_lt_of_lt_mul ?_)
        rw [Nat.mul_comm, Nat.succ_mul]
        have := stride_pos factor
        omega
      omega
    rw [if_pos hi, hsampled.getElem?_eq i (by rw [hsampled.size_eq]; exact hi),
      Nat.min_eq_left (Nat.le_of_lt hbelow)]
  · have hlast : i = multiplesBelow (stride factor) map.length := by omega
    subst hlast
    rw [if_neg hi, Nat.sub_self, hentries, Nat.add_sub_cancel_left, Nat.min_eq_right hceil]
    rfl

/-- **The index gives the number of set positions before every position of the map**, the end
included. -/
theorem preceding?_build (map : Bitmap) (factor : Nat) {target : Nat} (h : target ≤ map.length) :
    (build map factor).1.preceding? map target = some (map.count 0 target) := by
  have hdecomp := Nat.div_add_mod target (stride factor)
  have hcomm := Nat.mul_comm (stride factor) (target / stride factor)
  have hceil := le_mul_multiplesBelow (stride_pos factor) map.length
  have hentry : target / stride factor < entries map.length factor := by
    refine Nat.lt_succ_of_le (Nat.div_le_div_right ?_)
    have := stride_pos factor
    omega
  have hstart : target - target % stride factor = target / stride factor * stride factor := by
    omega
  have hsum : target / stride factor * stride factor
      + (target - target / stride factor * stride factor) = target := by
    omega
  rw [preceding?, factor_build, sample?_build map factor hentry, hstart,
    Nat.min_eq_left (by omega), Bitmap.countRange?_eq_some map h]
  show some (map.count 0 (target / stride factor * stride factor)
    + map.count (target / stride factor * stride factor)
        (target - target / stride factor * stride factor)) = _
  rw [← Bitmap.count_zero_add, hsum]

/-- The number of entries with `2^factor` as the stride. -/
theorem entries_eq (length factor : Nat) :
    entries length factor = (length + 2 ^ factor - 1) / 2 ^ factor + 1 := by
  rw [entries, stride, Nat.one_shiftLeft]

theorem count_zero_eq (map : Bitmap) (target : Nat) :
    map.count 0 target = (List.range target).countP map.isSet := by
  rw [Bitmap.count_eq, List.range_eq_range']

/-- **The sampled index counts exactly**, whatever the length of the map, the bits that pad its last byte
and the distance of the samples: it comes with the number of set positions; it has a sample for every
stride begun and one for the end, each the number of set positions before its multiple of the stride, and
no other; and the look-up of every target up to the end of the map gives the number of set positions
before it, so that no distance of samples gives another answer. -/
theorem build_exact (map : Bitmap) (factor : Nat) :
    (build map factor).2 = (List.range map.length).countP map.isSet
      ∧ (build map factor).1.size = (map.length + 2 ^ factor - 1) / 2 ^ factor + 1
      ∧ (∀ i, (build map factor).1.sample? i
          = if i < (map.length + 2 ^ factor - 1) / 2 ^ factor + 1
            then some ((List.range (min (i * 2 ^ factor) map.length)).countP map.isSet)
            else none)
      ∧ (∀ target, target ≤ map.length →
          (build map factor).1.preceding? map target = some ((List.range target).countP map.isSet)
            ∧ ∀ other, (build map other).1.preceding? map target
                = (build map factor).1.preceding? map target) := by
  rw [← entries_eq]
  refine ⟨?total, ?size, ?sample, ?preceding⟩
  case total => rw [build_snd, count_zero_eq]
  case size => exact size_build map factor
  case sample =>
    intro i
    by_cases hi : i < entries map.length factor
    · rw [if_pos hi, sample?_build map factor hi, count_zero_eq, stride, Nat.one_shiftLeft]
    · rw [if_neg hi]
      apply Array.getElem?_eq_none
      have hsize : (build map factor).1.samples.size = entries map.length factor := size_build map factor
      omega
  case preceding =>
    intro target htarget
    refine ⟨?_, fun other => ?_⟩
    · rw [preceding?_build map factor htarget, count_zero_eq]
    · rw [preceding?_build map other htarget, preceding?_build map factor htarget]

/-- A map of eleven positions whose five padding bits are set: six positions are set up to its end, five
before the eighth, and samples four apart find as many as samples further apart than the map is long. -/
theorem build_exact_padded :
    (build ⟨.ofBytes [0xB5, 0xFA], 11, rfl⟩ 2).2 = 6
      ∧ (build ⟨.ofBytes [0xB5, 0xFA], 11, rfl⟩ 2).1.size = 4
      ∧ (build ⟨.ofBytes [0xB5, 0xFA], 11, rfl⟩ 2).1.sample? 3 = some 6
      ∧ (build ⟨.ofBytes [0xB5, 0xFA], 11, rfl⟩ 2).1.preceding? ⟨.ofBytes [0xB5, 0xFA], 11, rfl⟩ 8
          = some 5
      ∧ (build ⟨.ofBytes [0xB5, 0xFA], 11, rfl⟩ 32).1.preceding? ⟨.ofBytes [0xB5, 0xFA], 11, rfl⟩ 11
          = some 6 := by
  obtain ⟨htotal, hsize, hsample, hpreceding⟩ := build_exact ⟨.ofBytes [0xB5, 0xFA], 11, rfl⟩ 2
  have hend := hpreceding 11 (by decide)
  refine ⟨htotal.trans (by decide), hsize.trans (by decide), (hsample 3).trans (by decide),
    (hpreceding 8 (by decide)).1.trans (by decide), ?_⟩
  exact (hend.2 32).trans (hend.1.trans (by decide))

end PartitionImage.PrefixCount
