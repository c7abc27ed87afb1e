import LoadTest.Decimal.Notation
import LoadTest.Injection.Arrivals

/-!
Injection profiles: when the users of a run start.

A profile is a list of directives on one time line.  Each starts where the one before it
ends, and `schedule` lists the offsets of all users, directive by directive.
-/

namespace LoadTest

namespace Injection

inductive Directive (Rate : Type) where
  /-- No user for some time. -/
  | nothingFor (during : Duration)
  /-- Some users at one moment. -/
  | atOnce (users : Nat)
  /-- Some users, evenly spread. -/
  | ramp (users : Nat) (during : Duration)
  /-- A constant number of users a second. -/
  | constantRate (rate : Rate) (during : Duration)
  /-- A number of users a second that changes evenly. -/
  | rampRate (startRate endRate : Rate) (during : Duration)

abbrev Profile (Rate : Type) := List (Directive Rate)

inductive InjectionError (Rate : Type) where
  | zeroTick
  | invalidRate (index : Nat) (rate : Rate)
  /-- A moment of the profile lies beyond the longest duration. -/
  | outOfRange
  deriving DecidableEq

def InjectionError.message : InjectionError Float → String
  | .zeroTick => "engine tick must be greater than zero"
  | .invalidRate index rate =>
      "injection step " ++ toString index ++ " has an invalid rate " ++ Decimal.plain rate ++
        " (must be finite and >= 0)"
  | .outOfRange => "injection profile is too long"

variable {Rate : Type}

namespace Directive

def during : Directive Rate → Duration
  | .nothingFor during => during
  | .atOnce _ => .zero
  | .ramp _ during => during
  | .constantRate _ during => during
  | .rampRate _ _ during => during

def rates : Directive Rate → List Rate
  | .constantRate rate _ => [rate]
  | .rampRate startRate endRate _ => [startRate, endRate]
  | _ => []

end Directive

/-- Durations laid end to end, from a moment on. -/
def endOf (baseline : Duration) (profile : Profile Rate) : Option Duration :=
  profile.foldlM (fun moment directive => moment.add? directive.during) baseline

/-- The moment at which the last directive ends. -/
def duration? (profile : Profile Rate) : Option Duration := endOf .zero profile

variable [Scalar Rate]

def isValidRate (rate : Rate) : Bool :=
  Scalar.isFinite rate && !Scalar.less rate (Scalar.ofNat 0)

/-- Finds the first rate that is negative or not finite. -/
def validateRates (index : Nat) : Profile Rate → Except (InjectionError Rate) Unit
  | [] => .ok ()
  | directive :: rest =>
      match directive.rates.find? (!isValidRate ·) with
      | some rate => .error (.invalidRate index rate)
      | none => validateRates (index + 1) rest

def validate (tick : Duration) (profile : Profile Rate) : Except (InjectionError Rate) Unit :=
  if tick.isZero then .error .zeroTick else validateRates 0 profile

omit [Scalar Rate] in
/-- The nanoseconds of a span times an index, in 128 bits. -/
def wideProduct (span : Duration) (index : Nat) : BitVec 128 :=
  BitVec.ofNat 128 span.nanos * BitVec.ofNat 128 index

omit [Scalar Rate] in
/-- The `index`-th of `count` equal parts of a span, rounded down to the nanosecond.  It is taken
from a product that loses what is beyond 128 bits. -/
def fraction (span : Duration) (index count : Nat) : Duration :=
  Duration.ofCount ((wideProduct span index).toNat / count)

omit [Scalar Rate] in
/-- Users evenly spread over a span from a moment on. -/
def spread (start span : Duration) (users : Nat) : Option (List Duration) :=
  (List.range users).mapM fun index => start.add? (fraction span index users)

/-- The offsets of the users that a rate brings, from the tick at `elapsed` to its end. -/
def rateOffsets (baseline during : Duration) (startRate endRate : Rate) (tick : Duration)
    (positive : 0 < tick.nanos) (elapsed : Duration) (carry : Rate) : Option (List Duration) :=
  if elapsed < during then do
    let (count, carried) := arrivals elapsed during startRate endRate carry tick
    let start ← baseline.add? elapsed
    let here ← spread start (tick.min (during.sub elapsed)) count
    match _next : elapsed.add? tick with
    | none => none
    | some next =>
        let later ← rateOffsets baseline during startRate endRate tick positive next carried
        return here ++ later
  else some []
termination_by during.nanos - elapsed.nanos
decreasing_by
  have := Duration.add?_eq_some_iff.1 _next
  rename_i running
  have := Duration.lt_iff.1 running
  omega

/-- The offsets of the users of one directive that starts at `baseline`. -/
def Directive.offsets (tick : Duration) (positive : 0 < tick.nanos) (baseline : Duration) :
    Directive Rate → Option (List Duration)
  | .nothingFor _ => some []
  | .atOnce users => some (List.replicate users baseline)
  | .ramp users during => spread baseline during users
  | .constantRate rate during =>
      rateOffsets baseline during rate rate tick positive .zero (Scalar.ofNat 0)
  | .rampRate startRate endRate during =>
      rateOffsets baseline during startRate endRate tick positive .zero (Scalar.ofNat 0)

/-- The offsets of the users of directives that follow each other from `baseline` on. -/
def offsetsFrom (tick : Duration) (positive : 0 < tick.nanos) (baseline : Duration) :
    Profile Rate → Option (List Duration)
  | [] => some []
  | directive :: rest => do
      let here ← directive.offsets tick positive baseline
      let next ← baseline.add? directive.during
      let later ← offsetsFrom tick positive next rest
      return here ++ later

/-- The offset of every user, by its number. -/
def schedule (tick : Duration) (profile : Profile Rate) :
    Except (InjectionError Rate) (List Duration) := do
  validate tick profile
  if positive : 0 < tick.nanos then
    match offsetsFrom tick positive .zero profile with
    | some offsets => return offsets
    | none => throw .outOfRange
  else throw .zeroTick

end Injection

end LoadTest
