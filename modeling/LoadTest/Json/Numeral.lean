import LoadTest.Json.Basic
import LoadTest.Json.Fault
import LoadTest.Scalar

/-!
Numbers in JSON text: their form, and the value of a form.

A numeral without point and exponent that fits 64 bits is a whole number.  The value
of any other is a double made from the digits that fit 64 bits and a power of ten, in
one multiplication or division; it is refused when the result is too large.
-/

namespace LoadTest.Json

/-- The parts of a number as written. -/
structure Numeral where
  negative : Bool
  whole : List Nat
  /-- Digits after the point, if there is a point. -/
  fraction : Option (List Nat)
  /-- Whether the exponent is negative, and its digits, if there is one. -/
  exponent : Option (Bool × List Nat)

def digit? (byte : UInt8) : Option Nat :=
  if 48 ≤ byte.toNat ∧ byte.toNat ≤ 57 then some (byte.toNat - 48) else none

/-- The digits at the start of a text, and what follows them. -/
def spanDigits : List UInt8 → List Nat × List UInt8
  | [] => ([], [])
  | byte :: rest =>
      match digit? byte with
      | none => ([], byte :: rest)
      | some digit =>
          let (digits, left) := spanDigits rest
          (digit :: digits, left)

theorem spanDigits_length (text : List UInt8) :
    (spanDigits text).1.length + (spanDigits text).2.length = text.length := by
  induction text with
  | nil => rfl
  | cons byte rest inductionHypothesis =>
      unfold spanDigits
      split
      · simp
      · simp only [List.length_cons]
        omega

namespace Numeral

/-- The digits before the point: one zero, or digits that do not start with zero. -/
def readWhole (text : List UInt8) : Except Fault (List Nat × List UInt8) :=
  match text with
  | [] => .error ⟨.endInValue, 0⟩
  | byte :: rest =>
      match digit? byte with
      | none => .error (.here .invalidNumber rest)
      | some 0 =>
          match (spanDigits rest).1 with
          | [] => .ok ([0], rest)
          | _ :: _ => .error (.next .invalidNumber rest)
      | some digit =>
          let (digits, left) := spanDigits rest
          .ok (digit :: digits, left)

/-- A point and at least one digit, if a point comes next. -/
def readFraction (text : List UInt8) : Except Fault (Option (List Nat) × List UInt8) :=
  match text with
  | 46 :: rest =>
      match spanDigits rest with
      | ([], []) => .error ⟨.endInValue, 0⟩
      | ([], left) => .error (.next .invalidNumber left)
      | (digits, left) => .ok (some digits, left)
  | other => .ok (none, other)

/-- The sign of an exponent and what follows it. -/
def exponentSign : List UInt8 → Bool × List UInt8
  | 45 :: rest => (true, rest)
  | 43 :: rest => (false, rest)
  | other => (false, other)

/-- A mark of exponent, an optional sign and at least one digit, if a mark comes next. -/
def readExponent (text : List UInt8) : Except Fault (Option (Bool × List Nat) × List UInt8) :=
  match text with
  | [] => .ok (none, [])
  | mark :: rest =>
      if mark = 101 ∨ mark = 69 then
        let (negative, unsigned) := exponentSign rest
        match unsigned with
        | [] => .error ⟨.endInValue, 0⟩
        | byte :: left =>
            match spanDigits (byte :: left) with
            | ([], _) => .error (.here .invalidNumber left)
            | (digits, behind) => .ok (some (negative, digits), behind)
      else .ok (none, mark :: rest)

/-- Reads a number behind its sign. -/
def read (negative : Bool) (text : List UInt8) : Except Fault (Numeral × List UInt8) := do
  let (whole, afterWhole) ← readWhole text
  let (fraction, afterFraction) ← readFraction afterWhole
  let (exponent, rest) ← readExponent afterFraction
  return (⟨negative, whole, fraction, exponent⟩, rest)

theorem readWhole_shorter {text rest : List UInt8} {digits : List Nat}
    (found : readWhole text = .ok (digits, rest)) : rest.length < text.length := by
  unfold readWhole at found
  split at found
  · cases found
  · next byte left =>
      have := spanDigits_length left
      split at found
      · cases found
      · split at found
        · cases found; simp
        · cases found
      · cases found
        simp only [List.length_cons]
        omega

theorem readFraction_le {text rest : List UInt8} {digits : Option (List Nat)}
    (found : readFraction text = .ok (digits, rest)) : rest.length ≤ text.length := by
  unfold readFraction at found
  split at found
  · next left =>
      have := spanDigits_length left
      split at found
      · cases found
      · cases found
      · next parts =>
          cases found
          rw [parts] at this
          simp only [List.length_cons] at this ⊢
          omega
  · cases found; exact Nat.le_refl _

theorem exponentSign_le (text : List UInt8) : (exponentSign text).2.length ≤ text.length := by
  unfold exponentSign
  split <;> simp

theorem readExponent_le {text rest : List UInt8} {parts : Option (Bool × List Nat)}
    (found : readExponent text = .ok (parts, rest)) : rest.length ≤ text.length := by
  unfold readExponent at found
  split at found
  · cases found; exact Nat.le_refl _
  · next mark behind =>
      have signLength := exponentSign_le behind
      split at found
      · simp only at found
        split at found
        · cases found
        · next byte left unsigned =>
            have := spanDigits_length (byte :: left)
            split at found
            · cases found
            · next spanned =>
                cases found
                rw [spanned] at this
                rw [unsigned] at signLength
                simp only [List.length_cons] at this signLength ⊢
                omega
      · cases found; exact Nat.le_refl _

theorem read_shorter {negative : Bool} {text rest : List UInt8} {numeral : Numeral}
    (found : read negative text = .ok (numeral, rest)) : rest.length < text.length := by
  obtain ⟨⟨wholeDigits, afterWhole⟩, whole, found⟩ := exists_of_bind_eq_ok found
  obtain ⟨⟨fractionDigits, afterFraction⟩, fraction, found⟩ := exists_of_bind_eq_ok found
  obtain ⟨⟨parts, left⟩, exponent, found⟩ := exists_of_bind_eq_ok found
  cases found
  have := readWhole_shorter whole
  have := readFraction_le fraction
  have := readExponent_le exponent
  omega

/-! ### Value -/

/-- Appends digits to a number for as long as it fits 64 bits; gives the digits left over. -/
def gather (number : Nat) : List Nat → Nat × List Nat
  | [] => (number, [])
  | digit :: digits =>
      if number * 10 + digit ≤ maxCount then gather (number * 10 + digit) digits
      else (number, digit :: digits)

def powerOfTen (exponent : Nat) : Float := Float.ofScientific 1 false exponent

/-- `number · 10 ^ exponent` in doubles; nothing when that is too large. -/
def scale? (number : Float) (exponent : Int) : Option Float :=
  if number == 0 then some number
  else if 0 ≤ exponent then
    if exponent ≤ 308 then
      let product := number * powerOfTen exponent.toNat
      if product.isInf then none else some product
    else none
  else if -308 ≤ exponent then some (number / powerOfTen exponent.natAbs)
  else if -616 ≤ exponent then
    some (number / powerOfTen 308 / powerOfTen (exponent + 308).natAbs)
  else some 0

/-- The largest exponent that is read to its end. -/
def exponentLimit : Nat := 0x7FFFFFFF

/-- The exponent, or how many of its digits lie behind the one with which it passes the limit. -/
def exponentValue : Nat → List Nat → Except Nat Nat
  | value, [] => .ok value
  | value, digit :: digits =>
      if exponentLimit < value * 10 + digit then .error digits.length
      else exponentValue (value * 10 + digit) digits

def signed (negative : Bool) (magnitude : Float) : Float :=
  if negative then -magnitude else magnitude

/-- The value of a numeral that `left` bytes of text follow. -/
def value (numeral : Numeral) (left : Nat) : Except Fault Number :=
  let (significand, overflowing) := gather 0 numeral.whole
  match numeral.fraction, numeral.exponent, overflowing with
  | none, none, [] =>
      if !numeral.negative then .ok (.integer significand)
      else if 0 < significand ∧ significand ≤ 0x8000000000000000 then .ok (.integer (-(significand : Int)))
      else .ok (.float (-(Scalar.ofNat significand)))
  | _, _, _ =>
      let fraction := numeral.fraction.getD []
      let (significand, dropped) := gather significand fraction
      let shift : Int := overflowing.length - (fraction.length - dropped.length : Nat)
      let (negativeExponent, digits) := numeral.exponent.getD (false, [])
      match exponentValue 0 digits with
      | .error behind =>
          if significand ≠ 0 ∧ !negativeExponent then
            .error ⟨.numberOutOfRange, left + behind⟩
          else .ok (.float (signed numeral.negative 0))
      | .ok exponent =>
          let exponent : Int := if negativeExponent then -exponent else exponent
          match scale? (Scalar.ofNat significand) (shift + exponent) with
          | some magnitude => .ok (.float (signed numeral.negative magnitude))
          | none => .error ⟨.numberOutOfRange, left⟩

end Numeral

end LoadTest.Json
