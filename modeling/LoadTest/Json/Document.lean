import LoadTest.Json.Numeral
import LoadTest.Json.Quoted

/-!
Reading JSON text.

A document is the tree of a text in which every number and string is either its value
or the fault that keeps it from having one.  A strict reading stops at the first fault
of any kind and allows at most 127 levels of nesting; `Json.read` is the strict reading
followed by taking the values.  A lenient reading only insists on the form of the text.
-/

namespace LoadTest.Json

open Quoted (Read)

inductive Document where
  | null
  | bool (value : Bool)
  | number (value : Except Fault Number)
  | string (value : Except Fault String)
  | array (items : List Document)
  | object (fields : List (Except Fault String × Document))

namespace Document

instance : Inhabited Document := ⟨.null⟩

def isBlankByte (byte : UInt8) : Bool :=
  byte == 32 || byte == 10 || byte == 9 || byte == 13

def skipBlank (text : List UInt8) : List UInt8 := text.dropWhile isBlankByte

theorem skipBlank_le (text : List UInt8) : (skipBlank text).length ≤ text.length :=
  (List.dropWhile_suffix isBlankByte).length_le

/-- Reads the rest of one of the words `null`, `true` and `false`. -/
def readWord : List UInt8 → List UInt8 → Except Fault (List UInt8)
  | [], text => .ok text
  | _ :: _, [] => .error ⟨.endInValue, 0⟩
  | expected :: word, byte :: rest =>
      if byte = expected then readWord word rest else .error (.here .expectedWord rest)

theorem readWord_le {word text rest : List UInt8} (found : readWord word text = .ok rest) :
    rest.length ≤ text.length := by
  induction word generalizing text with
  | nil => cases found; exact Nat.le_refl _
  | cons expected word inductionHypothesis =>
      cases text with
      | nil => cases found
      | cons byte behind =>
          unfold readWord at found
          split at found
          · exact Nat.le_succ_of_le (inductionHypothesis found)
          · cases found

/-- What stands after an opening bracket or after a member: the end, or one more member. -/
inductive Next (text : List UInt8) where
  | done (rest : List UInt8) (shorter : rest.length < text.length)
  | more (rest : List UInt8) (shorter : rest.length ≤ text.length)

def nextItem (first : Bool) (text : List UInt8) : Except Fault (Next text) :=
  have skipped := skipBlank_le text
  match found : skipBlank text with
  | [] => .error ⟨.endInList, 0⟩
  | 93 :: rest => .ok (.done rest (by simp only [found, List.length_cons] at skipped; omega))
  | byte :: rest =>
      if first then .ok (.more (byte :: rest) (found ▸ skipped))
      else if byte = 44 then
        have skippedAgain := skipBlank_le rest
        match found' : skipBlank rest with
        | [] => .error ⟨.endInValue, 0⟩
        | 93 :: left => .error (.next .trailingComma (93 :: left))
        | left =>
            .ok (.more left (by
              simp only [found, List.length_cons] at skipped
              rw [found'] at skippedAgain
              omega))
      else .error (.next .expectedCommaOrListEnd (byte :: rest))

/-- Like `nextItem`, but what is left of one more field starts behind its opening quote. -/
def nextField (first : Bool) (text : List UInt8) : Except Fault (Next text) :=
  have skipped := skipBlank_le text
  match found : skipBlank text with
  | [] => .error ⟨.endInObject, 0⟩
  | 125 :: rest => .ok (.done rest (by simp only [found, List.length_cons] at skipped; omega))
  | byte :: rest =>
      if first then
        if byte = 34 then
          .ok (.more rest (by simp only [found, List.length_cons] at skipped; omega))
        else .error (.next .keyNotString (byte :: rest))
      else if byte = 44 then
        have skippedAgain := skipBlank_le rest
        match found' : skipBlank rest with
        | [] => .error ⟨.endInValue, 0⟩
        | 34 :: left =>
            .ok (.more left (by
              simp only [found, List.length_cons] at skipped
              simp only [found', List.length_cons] at skippedAgain
              omega))
        | 125 :: left => .error (.next .trailingComma (125 :: left))
        | left => .error (.next .keyNotString left)
      else .error (.next .expectedCommaOrObjectEnd (byte :: rest))

/-- Takes the colon between a key and its value. -/
def readColon (text : List UInt8) : Except Fault (List UInt8) :=
  match skipBlank text with
  | [] => .error ⟨.endInObject, 0⟩
  | byte :: rest => if byte = 58 then .ok rest else .error (.next .expectedColon (byte :: rest))

theorem readColon_shorter {text rest : List UInt8} (found : readColon text = .ok rest) :
    rest.length < text.length := by
  have skipped := skipBlank_le text
  unfold readColon at found
  split at found
  · cases found
  · next byte left split =>
      split at found
      · cases found
        simp only [split, List.length_cons] at skipped
        omega
      · cases found

/-- How a text is read: whether flaws and deep nesting are refused. -/
structure Mode where
  strict : Bool
  /-- Levels that may still be opened, plus one; no limit if absent. -/
  levels : Option Nat

namespace Mode

def strictly : Mode := ⟨true, some 128⟩

def leniently : Mode := ⟨false, none⟩

def inner? (mode : Mode) : Option Mode :=
  match mode.levels with
  | none => some mode
  | some levels => if levels ≤ 1 then none else some { mode with levels := some (levels - 1) }

end Mode

/-- A value that needs no look inside: a word, a number or a string. -/
def readLeaf (mode : Mode) (byte : UInt8) (rest : List UInt8) :
    Except Fault (Read (byte :: rest) Document) :=
  let word (expected : List UInt8) (value : Document) :
      Except Fault (Read (byte :: rest) Document) :=
    match found : readWord expected rest with
    | .error fault => .error fault
    | .ok left => .ok ⟨value, left, Nat.lt_succ_of_le (readWord_le found)⟩
  let leaf (left : List UInt8) (value : Except Fault Number)
      (shorter : left.length < (byte :: rest).length) :
      Except Fault (Read (byte :: rest) Document) :=
    match value, mode.strict with
    | .error fault, true => .error fault
    | value, _ => .ok ⟨.number value, left, shorter⟩
  match byte.toNat with
  | 110 => word [117, 108, 108] .null
  | 116 => word [114, 117, 101] (.bool true)
  | 102 => word [97, 108, 115, 101] (.bool false)
  | 45 =>
      match found : Numeral.read true rest with
      | .error fault => .error fault
      | .ok (numeral, left) =>
          leaf left (numeral.value left.length)
            (Nat.lt_succ_of_lt (Numeral.read_shorter found))
  | 34 =>
      match Quoted.read mode.strict rest with
      | .error fault => .error fault
      | .ok found =>
          .ok ⟨.string found.value, found.rest, Nat.lt_succ_of_lt found.shorter⟩
  | _ =>
      match digit? byte with
      | none => .error (.next .expectedValue (byte :: rest))
      | some _ =>
          match found : Numeral.read false (byte :: rest) with
          | .error fault => .error fault
          | .ok (numeral, left) =>
              leaf left (numeral.value left.length) (Numeral.read_shorter found)

mutual

def readValue (mode : Mode) (text : List UInt8) : Except Fault (Read text Document) :=
  have skipped := skipBlank_le text
  match found : skipBlank text with
  | [] => .error ⟨.endInValue, 0⟩
  | byte :: rest =>
      have restShorter : rest.length < text.length := by
        simp only [found, List.length_cons] at skipped
        omega
      if byte = 91 then
        match mode.inner? with
        | none => .error (.next .tooDeep (byte :: rest))
        | some inner =>
            match readItems inner true rest with
            | .error fault => .error fault
            | .ok items =>
                .ok ⟨.array items.value, items.rest, Nat.lt_trans items.shorter restShorter⟩
      else if byte = 123 then
        match mode.inner? with
        | none => .error (.next .tooDeep (byte :: rest))
        | some inner =>
            match readFields inner true rest with
            | .error fault => .error fault
            | .ok fields =>
                .ok ⟨.object fields.value, fields.rest,
                  Nat.lt_trans fields.shorter restShorter⟩
      else
        match readLeaf mode byte rest with
        | .error fault => .error fault
        | .ok leaf =>
            .ok ⟨leaf.value, leaf.rest, by
              have := leaf.shorter
              simp only [found, List.length_cons] at skipped this
              omega⟩
termination_by 2 * text.length

def readItems (mode : Mode) (first : Bool) (text : List UInt8) :
    Except Fault (Read text (List Document)) :=
  match nextItem first text with
  | .error fault => .error fault
  | .ok (.done rest shorter) => .ok ⟨[], rest, shorter⟩
  | .ok (.more rest shorter) =>
      match readValue mode rest with
      | .error fault => .error fault
      | .ok item =>
          have itemShorter : item.rest.length < text.length :=
            Nat.lt_of_lt_of_le item.shorter shorter
          match readItems mode false item.rest with
          | .error fault => .error fault
          | .ok items =>
              .ok ⟨item.value :: items.value, items.rest,
                Nat.lt_trans items.shorter itemShorter⟩
termination_by 2 * text.length + 1

def readFields (mode : Mode) (first : Bool) (text : List UInt8) :
    Except Fault (Read text (List (Except Fault String × Document))) :=
  match nextField first text with
  | .error fault => .error fault
  | .ok (.done rest shorter) => .ok ⟨[], rest, shorter⟩
  | .ok (.more rest shorter) =>
      match Quoted.read mode.strict rest with
      | .error fault => .error fault
      | .ok key =>
          match colon : readColon key.rest with
          | .error fault => .error fault
          | .ok afterColon =>
              have afterColonShorter : afterColon.length < text.length :=
                Nat.lt_trans (readColon_shorter colon) (Nat.lt_of_lt_of_le key.shorter shorter)
              match readValue mode afterColon with
              | .error fault => .error fault
              | .ok value =>
                  have valueShorter : value.rest.length < text.length :=
                    Nat.lt_trans value.shorter afterColonShorter
                  match readFields mode false value.rest with
                  | .error fault => .error fault
                  | .ok fields =>
                      .ok ⟨(key.value, value.value) :: fields.value, fields.rest,
                        Nat.lt_trans fields.shorter valueShorter⟩
termination_by 2 * text.length + 1

end

/-- The document that a whole text is. -/
def read (mode : Mode) (text : List UInt8) : Except Fault Document := do
  let found ← readValue mode text
  match skipBlank found.rest with
  | [] => return found.value
  | left => .error (.next .trailingCharacters left)

mutual

/-- The value of a document, or its first fault. -/
def json : Document → Except Fault Json
  | .null => .ok .null
  | .bool value => .ok (.bool value)
  | .number value => value.map .number
  | .string value => value.map .string
  | .array items => (itemValues items).map .array
  | .object fields => (fieldValues fields).map .ofFields

def itemValues : List Document → Except Fault (List Json)
  | [] => .ok []
  | item :: items => do return (← json item) :: (← itemValues items)

def fieldValues : List (Except Fault String × Document) → Except Fault (List (String × Json))
  | [] => .ok []
  | (key, value) :: fields => do
      return (← key, ← json value) :: (← fieldValues fields)

end

end Document

/-- The value of a JSON text. -/
def read (text : List UInt8) : Except Fault Json := do
  (← Document.read .strictly text).json

end LoadTest.Json
