/-!
The arithmetic that rates, shares and mean latencies are computed with.

A run computes with doubles; the same definitions over exact fractions are what laws
about sums and orders are stated on.
-/

namespace LoadTest

/-- The largest whole number a count can hold; larger ones are cut down to it. -/
def maxCount : Nat := 0xFFFFFFFFFFFFFFFF

class Scalar (α : Type) extends Add α, Sub α, Mul α, Div α where
  /-- The number nearest to a count. -/
  ofNat : Nat → α
  floor : α → α
  ceil : α → α
  /-- Strict order; false for what is not a number. -/
  less : α → α → Bool
  /-- Order; false for what is not a number. -/
  atMost : α → α → Bool
  isFinite : α → Bool
  /-- The count a number stands for: its whole part, zero below zero, at most `maxCount`. -/
  toCount : α → Nat

namespace Scalar

variable {α : Type} [Scalar α]

def zero : α := ofNat 0

/-- Equality as numbers. -/
def same (first second : α) : Bool := atMost first second && atMost second first

/-- The number cut to at least `low` and at most `high`; what is not a number stays so. -/
def clamp (low high number : α) : α :=
  if less number low then low else if less high number then high else number

end Scalar

instance : Scalar Float where
  ofNat number := (UInt64.ofNat number).toFloat
  floor := Float.floor
  ceil := Float.ceil
  less first second := decide (first < second)
  atMost first second := decide (first ≤ second)
  isFinite := Float.isFinite
  toCount number := number.toUInt64.toNat

instance : Scalar Rat where
  ofNat number := (number : Rat)
  floor number := (number.floor : Rat)
  ceil number := (number.ceil : Rat)
  less first second := decide (first < second)
  atMost first second := decide (first ≤ second)
  isFinite _ := true
  toCount number := min number.floor.toNat maxCount

end LoadTest
