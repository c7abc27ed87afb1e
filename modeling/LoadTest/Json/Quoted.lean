import LoadTest.Json.Fault
import LoadTest.Text.Utf8

/-!
Strings in JSON text.

Some strings have the form of a string but no text: their bytes are not UTF-8, or an
escape names half of a surrogate pair.  A strict reading stops at such a flaw; a lenient
one goes on to the closing quote and gives the flaw as the string's value.
-/

namespace LoadTest.Json.Quoted

open LoadTest.Text

def hexValue? (byte : UInt8) : Option Nat :=
  let code := byte.toNat
  if 48 ≤ code ∧ code ≤ 57 then some (code - 48)
  else if 65 ≤ code ∧ code ≤ 70 then some (code - 55)
  else if 97 ≤ code ∧ code ≤ 102 then some (code - 87)
  else none

/-- The number written by the four hexadecimal digits that come next. -/
def readUnit : List UInt8 → Except Fault (Nat × List UInt8)
  | first :: second :: third :: fourth :: rest =>
      match hexValue? first, hexValue? second, hexValue? third, hexValue? fourth with
      | some first, some second, some third, some fourth =>
          .ok (first * 4096 + second * 256 + third * 16 + fourth, rest)
      | _, _, _, _ => .error (.here .invalidEscape rest)
  | _ => .error ⟨.endInString, 0⟩

def isHighSurrogate (unit : Nat) : Bool := 0xD800 ≤ unit && unit ≤ 0xDBFF

def isLowSurrogate (unit : Nat) : Bool := 0xDC00 ≤ unit && unit ≤ 0xDFFF

/-- Takes the byte that has to come next in a surrogate pair. -/
def expectByte (expected : UInt8) : List UInt8 → Except Fault (List UInt8)
  | [] => .error ⟨.endInString, 0⟩
  | byte :: rest =>
      if byte = expected then .ok rest else .error (.here .unpairedSurrogate rest)

/-- The character of an escape whose first unit is read: a high surrogate needs a second unit. -/
def completeUnit (unit : Nat) (text : List UInt8) : Except Fault (Nat × List UInt8) :=
  if isLowSurrogate unit then .error (.here .loneSurrogate text)
  else if isHighSurrogate unit then do
    let (low, rest) ← readUnit (← expectByte 117 (← expectByte 92 text))
    if isLowSurrogate low then
      return ((unit - 0xD800) * 1024 + (low - 0xDC00) + 0x10000, rest)
    else .error (.here .loneSurrogate rest)
  else .ok (unit, text)

/-- The byte that a one-letter escape stands for. -/
def plainEscape? (letter : UInt8) : Option UInt8 :=
  match letter.toNat with
  | 34 => some 34
  | 92 => some 92
  | 47 => some 47
  | 98 => some 8
  | 102 => some 12
  | 110 => some 10
  | 114 => some 13
  | 116 => some 9
  | _ => none

theorem readUnit_shorter {text rest : List UInt8} {unit : Nat}
    (found : readUnit text = .ok (unit, rest)) : rest.length < text.length := by
  unfold readUnit at found
  split at found
  · split at found
    · cases found
      simp only [List.length_cons]
      omega
    · cases found
  · cases found

theorem expectByte_shorter {expected : UInt8} {text rest : List UInt8}
    (found : expectByte expected text = .ok rest) : rest.length < text.length := by
  unfold expectByte at found
  split at found
  · cases found
  · split at found
    · cases found; simp
    · cases found

theorem completeUnit_le {unit code : Nat} {text rest : List UInt8}
    (found : completeUnit unit text = .ok (code, rest)) : rest.length ≤ text.length := by
  unfold completeUnit at found
  split at found
  · cases found
  · split at found
    · obtain ⟨afterSlash, slash, found⟩ := exists_of_bind_eq_ok found
      obtain ⟨afterLetter, letter, found⟩ := exists_of_bind_eq_ok found
      obtain ⟨⟨low, behind⟩, unit, found⟩ := exists_of_bind_eq_ok found
      have := expectByte_shorter slash
      have := expectByte_shorter letter
      have := readUnit_shorter unit
      simp only at found
      split at found
      · cases found; omega
      · cases found
    · cases found; exact Nat.le_refl _

/-- What has been read of a string. -/
structure Progress where
  /-- The text behind the opening quote. -/
  opened : List UInt8
  /-- The bytes of the string so far, last first. -/
  bytes : List UInt8
  /-- The first escape that names no character. -/
  flaw : Option Fault

namespace Progress

def push (progress : Progress) (byte : UInt8) : Progress :=
  { progress with bytes := byte :: progress.bytes }

def pushCode (progress : Progress) (code : Nat) : Progress :=
  { progress with bytes := (Utf8.encode (Char.ofNat code).toString).reverse ++ progress.bytes }

def mark (progress : Progress) (fault : Fault) : Progress :=
  { progress with flaw := progress.flaw.or (some fault) }

/-- The value of a string that ends here.  As escapes are well-formed bytes themselves, bytes that
are no characters are found in the text as it was written. -/
def finish (progress : Progress) : Except Fault String :=
  match progress.flaw with
  | some fault => .error fault
  | none =>
      match Utf8.decode? progress.bytes.reverse with
      | some text => .ok text
      | none => .error (.next .invalidText (Utf8.fromIllFormed progress.opened))

end Progress

/-- One step inside a string: either it ends, or some bytes of it are taken up. -/
inductive Move (text : List UInt8) where
  | ends (value : Except Fault String) (rest : List UInt8) (shorter : rest.length < text.length)
  | goes (progress : Progress) (rest : List UInt8) (shorter : rest.length < text.length)

def step (strict : Bool) (progress : Progress) (text : List UInt8) : Except Fault (Move text) :=
  match text with
  | [] => .error ⟨.endInString, 0⟩
  | 34 :: rest =>
      match progress.finish with
      | .ok value => .ok (.ends (.ok value) rest (Nat.lt_succ_self _))
      | .error fault =>
          if strict then .error fault
          else .ok (.ends (.error fault) rest (Nat.lt_succ_self _))
  | 92 :: [] => .error ⟨.endInString, 0⟩
  | 92 :: 117 :: rest =>
      match unitRead : readUnit rest with
      | .error fault => .error fault
      | .ok (unit, behind) =>
          have unitShorter := readUnit_shorter unitRead
          match completed : completeUnit unit behind with
          | .ok (code, left) =>
              have := completeUnit_le completed
              .ok (.goes (progress.pushCode code) left
                (by simp only [List.length_cons]; omega))
          | .error fault =>
              if strict then .error fault
              else
                .ok (.goes (progress.mark fault) behind
                  (by simp only [List.length_cons]; omega))
  | 92 :: letter :: rest =>
      match plainEscape? letter with
      | some byte =>
          .ok (.goes (progress.push byte) rest (by simp only [List.length_cons]; omega))
      | none => .error (.here .invalidEscape rest)
  | byte :: rest =>
      if byte.toNat < 32 then .error (.here .controlCharacter rest)
      else .ok (.goes (progress.push byte) rest (Nat.lt_succ_self _))

/-- A value read from the front of a text, and what is left of it. -/
structure Read (text : List UInt8) (Value : Type) where
  value : Value
  rest : List UInt8
  shorter : rest.length < text.length

/-- Reads a string behind its opening quote. -/
def readFrom (strict : Bool) (progress : Progress) (text : List UInt8) :
    Except Fault (Read text (Except Fault String)) :=
  match step strict progress text with
  | .error fault => .error fault
  | .ok (.ends value rest shorter) => .ok ⟨value, rest, shorter⟩
  | .ok (.goes progress rest shorter) =>
      match readFrom strict progress rest with
      | .error fault => .error fault
      | .ok found => .ok ⟨found.value, found.rest, Nat.lt_trans found.shorter shorter⟩
termination_by text.length

def read (strict : Bool) (text : List UInt8) : Except Fault (Read text (Except Fault String)) :=
  readFrom strict ⟨text, [], none⟩ text

end LoadTest.Json.Quoted
