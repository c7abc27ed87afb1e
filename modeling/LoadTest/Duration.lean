import LoadTest.Decimal.Binary
import LoadTest.Scalar

/-!
Spans of time in whole nanoseconds.

A duration holds less than `2 ^ 64` seconds.  Sums that would not fit have no value
(`add?`), and `Duration.ofFloatSeconds` says which numbers of seconds have one.
-/

namespace LoadTest

/-- Nanoseconds in a second. -/
def nanosPerSecond : Nat := 1000000000

/-- Nanoseconds in a millisecond. -/
def nanosPerMilli : Nat := 1000000

/-- Nanoseconds in a microsecond. -/
def nanosPerMicro : Nat := 1000

structure Duration where
  nanos : Nat
  fits : nanos < (maxCount + 1) * nanosPerSecond
  deriving DecidableEq

namespace Duration

theorem ext {first second : Duration} (same : first.nanos = second.nanos) : first = second := by
  cases first
  cases second
  cases same
  rfl

def zero : Duration := ⟨0, by decide⟩

instance : Inhabited Duration := ⟨zero⟩

instance : LT Duration := ⟨fun first second => first.nanos < second.nanos⟩

instance : LE Duration := ⟨fun first second => first.nanos ≤ second.nanos⟩

instance (first second : Duration) : Decidable (first < second) :=
  inferInstanceAs (Decidable (first.nanos < second.nanos))

instance (first second : Duration) : Decidable (first ≤ second) :=
  inferInstanceAs (Decidable (first.nanos ≤ second.nanos))

theorem lt_iff {first second : Duration} : first < second ↔ first.nanos < second.nanos := Iff.rfl

theorem le_iff {first second : Duration} : first ≤ second ↔ first.nanos ≤ second.nanos := Iff.rfl

def ofNanos? (nanos : Nat) : Option Duration :=
  if fits : nanos < (maxCount + 1) * nanosPerSecond then some ⟨nanos, fits⟩ else none

/-- A count of nanoseconds, cut to the largest count. -/
def ofCount (nanos : Nat) : Duration :=
  ⟨min nanos maxCount, Nat.lt_of_le_of_lt (Nat.min_le_right ..) (by decide)⟩

def ofMillis (millis : Nat) : Duration := ofCount (millis * nanosPerMilli)

def ofSeconds (seconds : Nat) : Duration := ofMillis (seconds * 1000)

def isZero (duration : Duration) : Bool := duration.nanos == 0

def add? (first second : Duration) : Option Duration := ofNanos? (first.nanos + second.nanos)

/-- The difference, zero where it would be negative. -/
def sub (first second : Duration) : Duration :=
  ⟨first.nanos - second.nanos, Nat.lt_of_le_of_lt (Nat.sub_le ..) first.fits⟩

def min (first second : Duration) : Duration := if first ≤ second then first else second

def seconds (duration : Duration) : Nat := duration.nanos / nanosPerSecond

def subsecondNanos (duration : Duration) : Nat := duration.nanos % nanosPerSecond

def micros (duration : Duration) : Nat := duration.nanos / nanosPerMicro

/-- The duration in seconds: whole seconds and their fraction are converted apart and added. -/
def toSeconds {α : Type} [Scalar α] (duration : Duration) : α :=
  Scalar.ofNat duration.seconds + Scalar.ofNat duration.subsecondNanos / Scalar.ofNat nanosPerSecond

@[simp] theorem nanos_zero : zero.nanos = 0 := rfl

theorem ofNanos?_eq_some_iff {nanos : Nat} {duration : Duration} :
    ofNanos? nanos = some duration ↔ duration.nanos = nanos := by
  unfold ofNanos?
  constructor
  · intro found
    split at found
    · cases found; rfl
    · cases found
  · intro same
    subst same
    rw [dif_pos duration.fits]

theorem add?_eq_some_iff {first second sum : Duration} :
    first.add? second = some sum ↔ sum.nanos = first.nanos + second.nanos :=
  ofNanos?_eq_some_iff

@[simp]
theorem nanos_sub (first second : Duration) :
    (first.sub second).nanos = first.nanos - second.nanos := rfl

theorem nanos_min (first second : Duration) :
    (first.min second).nanos = Nat.min first.nanos second.nanos := by
  unfold min
  split
  · next below => exact (Nat.min_eq_left below).symm
  · next above => exact (Nat.min_eq_right (Nat.le_of_not_le above)).symm

inductive ConversionError where
  | negative
  | outOfRange
  deriving DecidableEq

def ConversionError.message : ConversionError → String
  | .negative => "cannot convert float seconds to Duration: value is negative"
  | .outOfRange => "cannot convert float seconds to Duration: value is either too big or NaN"

/-- The duration nearest to a number of seconds, a tie to the even nanosecond. -/
def ofFloatSeconds (seconds : Float) : Except ConversionError Duration :=
  if seconds < 0 then .error .negative
  else
    match Decimal.Binary.ofFloat seconds with
    | .finite value =>
        let (numerator, denominator) := value.quotient
        match ofNanos? (Decimal.roundHalfEven (numerator * nanosPerSecond) denominator) with
        | some duration => .ok duration
        | none => .error .outOfRange
    | _ => .error .outOfRange

/-- A whole number and the digits after its point, zeros at the end left out. -/
def withFraction (whole fraction places : Nat) : String :=
  let digits := (toString fraction).toList
  let padded := List.replicate (places - digits.length) '0' ++ digits
  let kept := (padded.reverse.dropWhile (· == '0')).reverse
  toString whole ++ (if kept.isEmpty then "" else "." ++ String.ofList kept)

/-- The duration in the largest of the units s, ms, µs and ns that it fills. -/
def text (duration : Duration) : String :=
  let nanos := duration.nanos
  if nanosPerSecond ≤ nanos then
    withFraction (nanos / nanosPerSecond) (nanos % nanosPerSecond) 9 ++ "s"
  else if nanosPerMilli ≤ nanos then
    withFraction (nanos / nanosPerMilli) (nanos % nanosPerMilli) 6 ++ "ms"
  else if nanosPerMicro ≤ nanos then
    withFraction (nanos / nanosPerMicro) (nanos % nanosPerMicro) 3 ++ "µs"
  else toString nanos ++ "ns"

end Duration

end LoadTest
