import LoadTest.Scalar
import LoadTest.SortedMap

/-!
Latencies counted in bins of three significant figures.

A bin holds the numbers that agree in their eleven leading bits.  Small numbers have a
bin each; from there on the width of a bin doubles with every power of two.  A bin is
known by its lowest number.
-/

namespace LoadTest

namespace Bin

def bitLength (number : Nat) : Nat := if number = 0 then 0 else number.log2 + 1

/-- How many low bits of a number its bin disregards. -/
def shift (number : Nat) : Nat := bitLength number - 11

def width (number : Nat) : Nat := 1 <<< shift number

/-- The lowest number of the bin of a number. -/
def low (number : Nat) : Nat := number / width number * width number

/-- The highest number of the bin of a number.  At the upper end of the counts it is one less than
the largest count, unless the number is that count. -/
def high (number : Nat) : Nat :=
  if number = maxCount then maxCount else min (low number + width number) maxCount - 1

/-- The middle of the bin of a number. -/
def middle (number : Nat) : Nat := low number + width number / 2

end Bin

structure Histogram where
  /-- How many samples every bin holds that holds any, by the lowest number of the bin. -/
  bins : SortedMap Nat Nat
  /-- The smallest sample, the largest count if there is none. -/
  smallest : Nat
  /-- The largest sample, zero if there is none. -/
  largest : Nat
  deriving DecidableEq

namespace Histogram

def empty : Histogram := ⟨∅, maxCount, 0⟩

def record (histogram : Histogram) (sample : Nat) : Histogram :=
  ⟨histogram.bins.alter (Bin.low sample) (·.getD 0 + 1), min histogram.smallest sample,
    max histogram.largest sample⟩

def total (histogram : Histogram) : Nat :=
  histogram.bins.toList.foldl (fun sum bin => sum + bin.2) 0

def isEmpty (histogram : Histogram) : Bool := histogram.bins.isEmpty

/-- The lowest number of the first bin; the largest count stands for itself. -/
def lowest (histogram : Histogram) : Nat :=
  if histogram.isEmpty then 0
  else if histogram.smallest = maxCount then maxCount
  else Bin.low histogram.smallest

/-- The highest number of the last bin. -/
def highest (histogram : Histogram) : Nat :=
  if histogram.largest = 0 then 0 else Bin.high histogram.largest

/-- The first bin up to which at least `target` samples lie. -/
def binAt (target : Nat) : Nat → List (Nat × Nat) → Nat
  | _, [] => 0
  | running, (number, count) :: rest =>
      if target ≤ running + count then number else binAt target (running + count) rest

variable {α : Type} [Scalar α]

/-- How many samples a share of all samples is, at least one. -/
def targetOf (quantile : α) (total : Nat) : Nat :=
  max 1 (Scalar.toCount (Scalar.ceil (quantile * Scalar.ofNat total)))

/-- The highest number of the bin that a share of all samples reaches to; for no share at all the
lowest number of the first bin. -/
def valueAt (histogram : Histogram) (quantile : α) : Nat :=
  let number := binAt (targetOf quantile histogram.total) 0 histogram.bins.toList
  if Scalar.same quantile (Scalar.ofNat 0) then number else Bin.high number

/-- The mean, with every sample taken to lie in the middle of its bin. -/
def mean (histogram : Histogram) : α :=
  let total : α := Scalar.ofNat histogram.total
  histogram.bins.toList.foldl
    (fun sum bin =>
      sum + Scalar.ofNat (Bin.middle bin.1) * Scalar.ofNat bin.2 / total)
    (Scalar.ofNat 0)

end Histogram

end LoadTest
