import CrossBench.Tag

/-!
# Summary statistics

`summarize` reduces durations in nanoseconds to five statistics in milliseconds. All arithmetic is
that of doubles, in a fixed order: the durations are converted one by one, the converted values are
sorted, and every sum runs over the sorted values from the least to the greatest. The result
therefore depends on which durations there are, not on their order.

Nothing is trimmed, and there is no summary without samples.
-/

namespace CrossBench

/-- The statistics of the measured runs of one file, in milliseconds. -/
structure Summary where
  /-- The runtime that the file was run with. -/
  tag : Tag
  min : Float
  max : Float
  mean : Float
  median : Float
  /-- The standard deviation with divisor `n - 1`; zero for a single sample. -/
  stdev : Float
  samples : Nat

namespace Summary

/-- A natural number below `2 ^ 64` as a double. -/
def ofCount (n : Nat) : Float := (UInt64.ofNat n).toFloat

/-- Nanoseconds as milliseconds. -/
def millis (ns : UInt64) : Float := ns.toFloat / ofCount 1000000

/-- The order of the bit patterns. For numbers that are not negative, and durations never are, this
is the order of the numbers. -/
def bitsLe (a b : Float) : Bool := a.toBits ≤ b.toBits

/-- The durations in milliseconds, from the least to the greatest. -/
def sortedMillis (samples : List UInt64) : List Float :=
  (samples.map millis).mergeSort bitsLe

/-- The sum from left to right. -/
def total (xs : List Float) : Float := xs.foldl (· + ·) 0

/-- The arithmetic mean. -/
def meanOf (xs : List Float) : Float := total xs / ofCount xs.length

/-- The value in the middle of a sorted list, or the mean of the two values in the middle. -/
def medianOf (xs : List Float) : Float :=
  let half := xs.length / 2
  if xs.length % 2 = 0 then (xs.getD (half - 1) 0 + xs.getD half 0) / ofCount 2
  else xs.getD half 0

/-- The square of the distance from `center`. -/
def squaredDistance (center x : Float) : Float := (x - center) * (x - center)

/-- The standard deviation about the given mean. -/
def stdevOf (center : Float) (xs : List Float) : Float :=
  if xs.length < 2 then 0
  else (total (xs.map (squaredDistance center)) / ofCount (xs.length - 1)).sqrt

end Summary

/-- The statistics of a list of durations in nanoseconds, if there are any. -/
def summarize (tag : Tag) (samples : List UInt64) : Option Summary :=
  match Summary.sortedMillis samples with
  | [] => none
  | first :: rest =>
    let sorted := first :: rest
    let mean := Summary.meanOf sorted
    some {
      tag
      min := first
      max := rest.getLastD first
      mean := mean
      median := Summary.medianOf sorted
      stdev := Summary.stdevOf mean sorted
      samples := sorted.length }

end CrossBench
