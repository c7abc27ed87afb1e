/-!
The exact value of a double: a sign and a whole number times a power of two.
-/

namespace LoadTest.Decimal

/-- `± mantissa · 2 ^ exponent`. -/
structure Dyadic where
  negative : Bool
  mantissa : Nat
  exponent : Int
  deriving DecidableEq

inductive Binary where
  | nan
  | infinite (negative : Bool)
  | finite (value : Dyadic)
  deriving DecidableEq

/-- The bit that stands in front of the 52 bits of a fraction without being written. -/
def hiddenBit : Nat := 1 <<< 52

/-- The parts of a double's 64 bits: one of sign, eleven of exponent, 52 of fraction. -/
def Binary.ofFloat (number : Float) : Binary :=
  let bits := number.toBits.toNat
  let negative := bits.testBit 63
  let exponent := bits / hiddenBit % 2048
  let fraction := bits % hiddenBit
  if exponent = 2047 then
    if fraction = 0 then .infinite negative else .nan
  else if exponent = 0 then .finite ⟨negative, fraction, -1074⟩
  else .finite ⟨negative, fraction + hiddenBit, (exponent : Int) - 1075⟩

/-- The magnitude as a quotient of whole numbers. -/
def Dyadic.quotient (value : Dyadic) : Nat × Nat :=
  match value.exponent with
  | .ofNat power => (value.mantissa <<< power, 1)
  | .negSucc power => (value.mantissa, 1 <<< (power + 1))

/-- Ten to a power. -/
def tenTo (power : Nat) : Nat := Nat.pow 10 power

/-- A quotient rounded to the nearest whole number, a tie to the even one. -/
def roundHalfEven (numerator denominator : Nat) : Nat :=
  let floor := numerator / denominator
  let twice := 2 * (numerator % denominator)
  if twice < denominator then floor
  else if denominator < twice then floor + 1
  else floor + floor % 2

end LoadTest.Decimal
