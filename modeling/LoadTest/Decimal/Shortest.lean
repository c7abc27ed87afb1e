import LoadTest.Decimal.Binary

/-!
The shortest decimal that reads back as a given double.

Every double is the nearest one to all numbers of an interval around it.  On the
grids of 1, 2, … 17 decimal digits the two neighbours of the value are tried; the
first grid with a point in the interval wins, and on it the nearer neighbour.  A
tie between the two neighbours is left to the caller.
-/

namespace LoadTest.Decimal

/-- `digits · 10 ^ exponent`. -/
structure Scientific where
  digits : Nat
  exponent : Int
  deriving DecidableEq

inductive Tie where
  | up
  | toEven
  deriving DecidableEq

def digitCount (number : Nat) : Nat := (Nat.toDigits 10 number).length

/-- How often a quotient below one must be multiplied by ten to reach one. -/
def leadingZeros (numerator denominator : Nat) : Nat → Nat
  | 0 => 0
  | fuel + 1 =>
      if denominator ≤ numerator then 0
      else leadingZeros (numerator * 10) denominator fuel + 1

/-- The exponent of the first digit of a positive quotient, at least `-340`. -/
def magnitude (numerator denominator : Nat) : Int :=
  if denominator ≤ numerator then digitCount (numerator / denominator) - 1
  else -(leadingZeros numerator denominator 340 : Nat)

/-- `unit · 10 ^ (-exponent)` as a quotient, where `unit` is itself one. -/
def scaled (unit : Nat × Nat) (exponent : Int) : Nat × Nat :=
  match exponent with
  | .ofNat power => (unit.1, unit.2 * tenTo power)
  | .negSucc power => (unit.1 * tenTo (power + 1), unit.2)

/-- The better neighbour of `mantissa · unit` on the grid of multiples of `10 ^ exponent`, if one
lies in the interval whose ends are `below` and two quarters of a unit away. -/
def nearestOnGrid? (tie : Tie) (mantissa below : Nat) (unit : Nat × Nat) (exponent : Int) :
    Option Scientific :=
  let (numerator, denominator) := scaled unit exponent
  let low := (4 * mantissa - below) * numerator
  let high := (4 * mantissa + 2) * numerator
  let closed := mantissa % 2 == 0
  let inside (point : Nat) : Bool :=
    let scaledPoint := 4 * point * denominator
    if closed then decide (low ≤ scaledPoint) && decide (scaledPoint ≤ high)
    else decide (low < scaledPoint) && decide (scaledPoint < high)
  let floor := mantissa * numerator / denominator
  let twice := 2 * (mantissa * numerator % denominator)
  let floorWins :=
    if twice < denominator then true
    else if denominator < twice then false
    else
      match tie with
      | .up => false
      | .toEven => floor % 2 == 0
  let (better, other) := if floorWins then (floor, floor + 1) else (floor + 1, floor)
  if inside better then some ⟨better, exponent⟩
  else if inside other then some ⟨other, exponent⟩
  else none

/-- Moves zeros at the end of the digits into the exponent. -/
def stripZeros (digits : Nat) (exponent : Int) : Nat → Scientific
  | 0 => ⟨digits, exponent⟩
  | fuel + 1 =>
      if digits % 10 = 0 ∧ digits ≠ 0 then stripZeros (digits / 10) (exponent + 1) fuel
      else ⟨digits, exponent⟩

/-- The shortest decimal that reads back as `value`, and of those the nearest. -/
def shortest (tie : Tie) (value : Dyadic) : Scientific :=
  if value.mantissa = 0 then ⟨0, 0⟩
  else
    let unit := Dyadic.quotient { value with mantissa := 1 }
    let first := magnitude (value.mantissa * unit.1) unit.2
    let below := if value.mantissa = hiddenBit ∧ value.exponent ≠ -1074 then 1 else 2
    let found := (List.range 17).findSome? fun (count : Nat) =>
      nearestOnGrid? tie value.mantissa below unit (first - count)
    match found with
    | some decimal => stripZeros decimal.digits decimal.exponent 20
    | none => ⟨0, 0⟩

end LoadTest.Decimal
