import LoadTest.Scalar

/-!
Reading numbers from text.

A count is an optional plus sign and digits.  A double is an optional sign, then digits
with an optional point and an optional exponent, or one of the words for infinity and
not-a-number; the result is the double nearest to the number as written.
-/

namespace LoadTest.Decimal

inductive CountError where
  | empty
  | invalidDigit
  | tooLarge
  deriving DecidableEq

def CountError.message : CountError → String
  | .empty => "cannot parse integer from empty string"
  | .invalidDigit => "invalid digit found in string"
  | .tooLarge => "number too large to fit in target type"

def digitValue (character : Char) : Nat := character.toNat - '0'.toNat

/-- Appends digits to a count; the first character that is no digit or too much stops it. -/
def readDigits (value : Nat) : List Char → Except CountError Nat
  | [] => .ok value
  | character :: rest =>
      if !character.isDigit then .error .invalidDigit
      else if maxCount < value * 10 + digitValue character then .error .tooLarge
      else readDigits (value * 10 + digitValue character) rest

/-- The count written by a text. -/
def readCount : List Char → Except CountError Nat
  | [] => .error .empty
  | ['+'] => .error .invalidDigit
  | '+' :: digits => readDigits 0 digits
  | digits => readDigits 0 digits

inductive ReadError where
  | empty
  | invalid
  deriving DecidableEq

def ReadError.message : ReadError → String
  | .empty => "cannot parse float from empty string"
  | .invalid => "invalid float literal"

/-- The number whose decimal digits are given, most significant first. -/
def ofDigits (digits : List Char) : Nat :=
  digits.foldl (fun number digit => number * 10 + digitValue digit) 0

/-- The double nearest to `mantissa · 10 ^ exponent`.  Exponents so large or small that they settle
the result are not expanded. -/
def nearestFloat (mantissa : Nat) (exponent : Int) : Float :=
  if mantissa = 0 then 0
  else
    let top : Int := (Nat.toDigits 10 mantissa).length + exponent
    if 310 < top then 1 / 0
    else if top < -330 then 0
    else
      match exponent with
      | .ofNat power => Float.ofScientific mantissa false power
      | .negSucc power => Float.ofScientific mantissa true (power + 1)

/-- The exponent at the end of a number: nothing, or `e`, an optional sign and digits. -/
def readExponent? : List Char → Option Int
  | [] => some 0
  | marker :: rest =>
      if marker = 'e' ∨ marker = 'E' then
        let (negative, digits) :=
          match rest with
          | '-' :: digits => (true, digits)
          | '+' :: digits => (false, digits)
          | digits => (false, digits)
        if digits ≠ [] ∧ digits.all Char.isDigit then
          some (if negative then -(ofDigits digits : Int) else ofDigits digits)
        else none
      else none

/-- A number without sign: its digits as a whole number and the power of ten they are times. -/
def readUnsigned? (text : List Char) : Option (Nat × Int) :=
  let whole := text.takeWhile Char.isDigit
  let afterWhole := text.dropWhile Char.isDigit
  let (fraction, afterFraction) :=
    match afterWhole with
    | '.' :: rest => (rest.takeWhile Char.isDigit, rest.dropWhile Char.isDigit)
    | rest => ([], rest)
  if whole = [] ∧ fraction = [] then none
  else
    (readExponent? afterFraction).map fun exponent =>
      (ofDigits (whole ++ fraction), exponent - fraction.length)

def readWord? (text : List Char) : Option Float :=
  let word := String.ofList (text.map Char.toLower)
  if word = "inf" ∨ word = "infinity" then some (1 / 0)
  else if word = "nan" then some (0 / 0)
  else none

/-- The double written by a text. -/
def read (text : List Char) : Except ReadError Float :=
  if text = [] then .error .empty
  else
    let (negative, unsigned) :=
      match text with
      | '-' :: rest => (true, rest)
      | '+' :: rest => (false, rest)
      | rest => (false, rest)
    let magnitude? :=
      match readUnsigned? unsigned with
      | some (mantissa, exponent) => some (nearestFloat mantissa exponent)
      | none => readWord? unsigned
    match magnitude? with
    | some magnitude => .ok (if negative then -magnitude else magnitude)
    | none => .error .invalid

end LoadTest.Decimal
