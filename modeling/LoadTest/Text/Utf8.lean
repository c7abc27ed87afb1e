/-!
UTF-8: bytes to characters.

`decodeAll` cuts a byte string into well-formed characters and maximal ill-formed
pieces.  A strict reading refuses the pieces (`decode?`); a lossy one puts one
replacement character in the place of each (`decodeLossy`).
-/

namespace LoadTest.Text.Utf8

/-- What a leading byte promises: its own bits, how many bytes follow, and the range of the
first of them (which rules out overlong forms, surrogates and values past the last one). -/
structure Lead where
  bits : Nat
  following : Nat
  low : Nat
  high : Nat

def Lead.ofByte? (byte : Nat) : Option Lead :=
  if byte < 0x80 then some ⟨byte, 0, 0x80, 0xBF⟩
  else if byte < 0xC2 then none
  else if byte < 0xE0 then some ⟨byte - 0xC0, 1, 0x80, 0xBF⟩
  else if byte = 0xE0 then some ⟨0, 2, 0xA0, 0xBF⟩
  else if byte = 0xED then some ⟨0xD, 2, 0x80, 0x9F⟩
  else if byte < 0xF0 then some ⟨byte - 0xE0, 2, 0x80, 0xBF⟩
  else if byte = 0xF0 then some ⟨0, 3, 0x90, 0xBF⟩
  else if byte < 0xF4 then some ⟨byte - 0xF0, 3, 0x80, 0xBF⟩
  else if byte = 0xF4 then some ⟨4, 3, 0x80, 0x8F⟩
  else none

/-- Takes up the bytes that belong to a character; stops before the first that does not. -/
def follow (count low high bits : Nat) (bytes : List UInt8) : Option Nat × List UInt8 :=
  match count, bytes with
  | 0, rest => (some bits, rest)
  | _ + 1, [] => (none, [])
  | count + 1, byte :: rest =>
      if low ≤ byte.toNat ∧ byte.toNat ≤ high then
        follow count 0x80 0xBF (bits * 64 + byte.toNat % 64) rest
      else (none, byte :: rest)

theorem follow_length_le (count low high bits : Nat) (bytes : List UInt8) :
    (follow count low high bits bytes).2.length ≤ bytes.length := by
  induction bytes generalizing count low high bits with
  | nil => cases count <;> simp [follow]
  | cons byte rest inductionHypothesis =>
      cases count with
      | zero => simp [follow]
      | succ count =>
          unfold follow
          split
          · exact Nat.le_succ_of_le (inductionHypothesis ..)
          · exact Nat.le_refl _

/-- The piece that starts with `byte`, and what is left after it. -/
def decodePiece (byte : UInt8) (rest : List UInt8) : Option Char × List UInt8 :=
  match Lead.ofByte? byte.toNat with
  | none => (none, rest)
  | some lead =>
      let (code, left) := follow lead.following lead.low lead.high lead.bits rest
      (code.map Char.ofNat, left)

theorem decodePiece_length_le (byte : UInt8) (rest : List UInt8) :
    (decodePiece byte rest).2.length ≤ rest.length := by
  unfold decodePiece
  split
  · exact Nat.le_refl _
  · exact follow_length_le ..

/-- Well-formed characters, and `none` for each maximal ill-formed piece. -/
def decodeAll (bytes : List UInt8) : List (Option Char) :=
  match bytes with
  | [] => []
  | byte :: rest =>
      let piece := decodePiece byte rest
      piece.1 :: decodeAll piece.2
termination_by bytes.length
decreasing_by exact Nat.lt_succ_of_le (decodePiece_length_le byte rest)

/-- The bytes from the first ill-formed piece on. -/
def fromIllFormed (bytes : List UInt8) : List UInt8 :=
  match bytes with
  | [] => []
  | byte :: rest =>
      let piece := decodePiece byte rest
      if piece.1.isSome then fromIllFormed piece.2 else byte :: rest
termination_by bytes.length
decreasing_by exact Nat.lt_succ_of_le (decodePiece_length_le byte rest)

/-- The text, if every byte belongs to a well-formed character. -/
def decode? (bytes : List UInt8) : Option String :=
  ((decodeAll bytes).mapM id).map String.ofList

/-- The text with U+FFFD in the place of every ill-formed piece. -/
def decodeLossy (bytes : List UInt8) : String :=
  String.ofList ((decodeAll bytes).map (·.getD '\uFFFD'))

def encode (text : String) : List UInt8 := text.toUTF8.toList

end LoadTest.Text.Utf8
