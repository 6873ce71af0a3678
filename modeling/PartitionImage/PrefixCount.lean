import PartitionImage.Bitmap
/-!
# Sampled prefix counts

How many blocks before a given one are used decides where its record lies.  `PrefixCount` keeps
that number for blocks at equal distances, so that the number for any block costs one look-up and a
scan of fewer positions than lie between two samples.

* `PrefixCount.build` makes the samples in one pass over a bitmap and also gives the number of set
  positions.
* `PrefixCount.preceding?` is the number of set positions before a block.
-/

namespace PartitionImage

/-- Counts of the set positions before positions at equal distances. -/
structure PrefixCount where
  /-- The distance is `2^factor`. -/
  factor : Nat
  /-- Entry `i` counts the set positions before `i * 2^factor`, or all if that is past the end. -/
  samples : Array Nat
  deriving DecidableEq, Repr

namespace PrefixCount

def defaultFactor : Nat := 10

/-- The sparsest sampling that can be asked for is once every `2^32` positions. -/
def maxFactor : Nat := 32

/-- The distance between two samples is `2^factor`. -/
def stride (factor : Nat) : Nat := 1 <<< factor

theorem stride_pos (factor : Nat) : 0 < stride factor := by
  rw [stride, Nat.one_shiftLeft]
  exact Nat.two_pow_pos factor

/-- Number of samples for a map of `length` positions: one for every stride begun, and one for the
end. -/
def entries (length factor : Nat) : Nat := (length + stride factor - 1) / stride factor + 1

/-- Scans `todo` positions from `pos`, of which `count` positions before are set, and takes a
sample at each multiple of the stride. -/
def scan (map : Bitmap) (factor : Nat) :
    (todo pos count : Nat) → Array Nat → Array Nat × Nat
  | 0, _, count, samples => (samples, count)
  | todo + 1, pos, count, samples =>
    scan map factor todo (pos + 1) (if map.isSet pos then count + 1 else count)
      (if pos % stride factor = 0 then samples.push count else samples)

/-- The samples of a map, and the number of its set positions. -/
def build (map : Bitmap) (factor : Nat) : PrefixCount × Nat :=
  let (samples, count) := scan map factor map.length 0 0 #[]
  let missing := entries map.length factor - samples.size
  (⟨factor, samples ++ Array.replicate missing count⟩, count)

def size (index : PrefixCount) : Nat := index.samples.size

def sample? (index : PrefixCount) (i : Nat) : Option Nat := index.samples[i]?

/-- Number of set positions before `target`, which may equal the length of the map; `none` where
no sample was taken or the map has no such positions. -/
def preceding? (index : PrefixCount) (map : Bitmap) (target : Nat) : Option Nat := do
  let base ← index.sample? (target / stride index.factor)
  let rest ← map.countRange? (target - target % stride index.factor) target
  return base + rest

end PrefixCount

end PartitionImage
