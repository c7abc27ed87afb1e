import LoadTest.Decimal.Shortest

/-!
How a double is written.

`plain` never uses an exponent and drops a fraction of zero; `dataText` is the number
of a data format: positional between `1e-5` and `1e16`, always with a fraction, and
with an exponent elsewhere; `fixed` has a given number of places.
-/

namespace LoadTest.Decimal

def zeros (count : Nat) : String := String.ofList (List.replicate count '0')

def sign (negative : Bool) : String := if negative then "-" else ""

/-- The digits with a point `count` places from their left end, zeros filled in. -/
def positional (digits : String) (point : Int) : String × String :=
  let length : Int := digits.length
  if point ≤ 0 then ("0", zeros (-point).toNat ++ digits)
  else if length ≤ point then (digits ++ zeros (point - length).toNat, "")
  else
    let cut := point.toNat
    (String.ofList (digits.toList.take cut), String.ofList (digits.toList.drop cut))

/-- The shortest digits that read back, without an exponent; a tie goes up. -/
def plain (number : Float) : String :=
  match Binary.ofFloat number with
  | .nan => "NaN"
  | .infinite negative => sign negative ++ "inf"
  | .finite value =>
      if value.mantissa = 0 then sign value.negative ++ "0"
      else
        let decimal := shortest .up value
        let digits := toString decimal.digits
        let (whole, fraction) := positional digits (digits.length + decimal.exponent)
        sign value.negative ++ whole ++ (if fraction = "" then "" else "." ++ fraction)

/-- The number of a data format: the shortest digits that read back, a tie to the even one.
Values that are not finite have no number and are written `null`. -/
def dataText (number : Float) : String :=
  match Binary.ofFloat number with
  | .nan => "null"
  | .infinite _ => "null"
  | .finite value =>
      if value.mantissa = 0 then sign value.negative ++ "0.0"
      else
        let decimal := shortest .toEven value
        let digits := toString decimal.digits
        let point : Int := digits.length + decimal.exponent
        if -5 < point ∧ point ≤ 16 then
          let (whole, fraction) := positional digits point
          sign value.negative ++ whole ++ "." ++ (if fraction = "" then "0" else fraction)
        else
          let (lead, fraction) := positional digits 1
          let exponent := point - 1
          sign value.negative ++ lead ++ (if fraction = "" then "" else "." ++ fraction) ++
            (if exponent < 0 then "e-" else "e+") ++ toString exponent.natAbs

/-- Exactly `places` digits after the point; the exact value is rounded, a tie to the even digit. -/
def fixed (places : Nat) (number : Float) : String :=
  match Binary.ofFloat number with
  | .nan => "NaN"
  | .infinite negative => sign negative ++ "inf"
  | .finite value =>
      let (numerator, denominator) := value.quotient
      let rounded := roundHalfEven (numerator * tenTo places) denominator
      let whole := toString (rounded / tenTo places)
      let fraction := toString (rounded % tenTo places)
      sign value.negative ++ whole ++
        (if places = 0 then "" else "." ++ zeros (places - fraction.length) ++ fraction)

end LoadTest.Decimal
