import LoadTest.Duration

/-!
How many users arrive during one tick of a rate.

The rate is taken between its two ends in proportion to the time that has passed.  What
a tick is due beyond whole users is carried into the next one.
-/

namespace LoadTest.Injection

/-- The most users that one tick can bring. -/
def maxArrivals : Nat := 0x100000

variable {Rate : Type} [Scalar Rate]

/-- How far into its course a rate is, from zero to one; one where the course has no length. -/
def progress (elapsed during : Duration) : Rate :=
  if during.isZero then Scalar.ofNat 1
  else
    let share : Rate := elapsed.toSeconds / during.toSeconds
    if Scalar.less share (Scalar.ofNat 1) then share else Scalar.ofNat 1

/-- The rate at `elapsed` into a course of length `during`. -/
def rateAt (elapsed during : Duration) (startRate endRate : Rate) : Rate :=
  startRate + (endRate - startRate) * progress elapsed during

/-- The count of users a whole number of arrivals stands for, at most `maxArrivals`.  What is less as
a number is so as a count too, for any sound arithmetic. -/
def arrivalCount (due : Rate) : Nat :=
  if Scalar.atMost (Scalar.ofNat maxArrivals) due then maxArrivals
  else if Scalar.less due (Scalar.ofNat 0) then 0
  else min (Scalar.toCount due) maxArrivals

/-- The users that arrive in the tick starting at `elapsed`, and what is carried on. -/
def arrivals (elapsed during : Duration) (startRate endRate carry : Rate) (tick : Duration) :
    Nat × Rate :=
  let expected := rateAt elapsed during startRate endRate * tick.toSeconds
  let due := Scalar.floor (expected + carry)
  (arrivalCount due, (expected + carry) - due)

end LoadTest.Injection
