import LoadTest.SortedMap
import LoadTest.Decimal.Notation

/-!
JSON values, their equality and their compact text.

The fields of an object are listed in ascending order of their keys, one field a key
(`Json.ofFields` builds them so).  Whole numbers and doubles are different values even
where they are equal as numbers.
-/

namespace LoadTest

inductive Number where
  /-- A whole number of 64 bits, with or without sign. -/
  | integer (value : Int)
  | float (value : Float)

namespace Number

instance : BEq Number where
  beq
    | .integer first, .integer second => first == second
    | .float first, .float second => first == second
    | _, _ => false

/-- The number as a double. -/
def toFloat : Number → Float
  | .integer value =>
      match value with
      | .ofNat count => (UInt64.ofNat count).toFloat
      | .negSucc count => -(UInt64.ofNat (count + 1)).toFloat
  | .float value => value

def text : Number → String
  | .integer value => toString value
  | .float value => Decimal.dataText value

end Number

inductive Json where
  | null
  | bool (value : Bool)
  | number (value : Number)
  | string (value : String)
  | array (items : List Json)
  | object (fields : List (String × Json))

namespace Json

instance : Inhabited Json := ⟨.null⟩

def ofNat (count : Nat) : Json := .number (.integer count)

/-- An object from fields in any order; a later field replaces an earlier one of the same key. -/
def ofFields (fields : List (String × Json)) : Json := .object (Ascending.ofList fields)

mutual

def beq : Json → Json → Bool
  | .null, .null => true
  | .bool first, .bool second => first == second
  | .number first, .number second => first == second
  | .string first, .string second => first == second
  | .array first, .array second => beqItems first second
  | .object first, .object second => beqFields first second
  | _, _ => false

def beqItems : List Json → List Json → Bool
  | [], [] => true
  | first :: firsts, second :: seconds => beq first second && beqItems firsts seconds
  | _, _ => false

def beqFields : List (String × Json) → List (String × Json) → Bool
  | [], [] => true
  | (key, first) :: firsts, (other, second) :: seconds =>
      key == other && beq first second && beqFields firsts seconds
  | _, _ => false

end

instance : BEq Json := ⟨beq⟩

def field? (key : String) : Json → Option Json
  | .object fields => Ascending.get? key fields
  | _ => none

def item? (index : Nat) : Json → Option Json
  | .array items => items[index]?
  | _ => none

def string? : Json → Option String
  | .string value => some value
  | _ => none

/-- A whole number that is not negative. -/
def count? : Json → Option Nat
  | .number (.integer value) => if 0 ≤ value then some value.toNat else none
  | _ => none

/-! ### Text -/

def hexDigit (value : Nat) : Char :=
  if value < 10 then Char.ofNat (48 + value) else Char.ofNat (87 + value)

/-- The characters a character of a string is written with: quotes, backslashes and controls are
escaped, all else stands for itself. -/
def escaped (character : Char) : List Char :=
  match character with
  | '"' => ['\\', '"']
  | '\\' => ['\\', '\\']
  | '\n' => ['\\', 'n']
  | '\r' => ['\\', 'r']
  | '\t' => ['\\', 't']
  | other =>
      if other.toNat = 8 then ['\\', 'b']
      else if other.toNat = 12 then ['\\', 'f']
      else if other.toNat < 0x20 then
        ['\\', 'u', '0', '0', hexDigit (other.toNat / 16), hexDigit (other.toNat % 16)]
      else [other]

def quoted (value : String) : String :=
  String.ofList ('"' :: value.toList.flatMap escaped ++ ['"'])

/-- An object with the given keys and texts of values, in the given order. -/
def objectText (fields : List (String × String)) : String :=
  "\x7b" ++ ",".intercalate (fields.map fun field => quoted field.1 ++ ":" ++ field.2) ++ "\x7d"

def arrayText (items : List String) : String := "[" ++ ",".intercalate items ++ "]"

mutual

/-- The compact text: no blanks, fields in order. -/
def text : Json → String
  | .null => "null"
  | .bool value => if value then "true" else "false"
  | .number value => value.text
  | .string value => quoted value
  | .array items => arrayText (itemTexts items)
  | .object fields => objectText (fieldTexts fields)

def itemTexts : List Json → List String
  | [] => []
  | item :: items => text item :: itemTexts items

def fieldTexts : List (String × Json) → List (String × String)
  | [] => []
  | (key, value) :: fields => (key, text value) :: fieldTexts fields

end

/-- A value as it appears inside other text: a string as it is, all else as compact text. -/
def inserted : Json → String
  | .string value => value
  | other => other.text

end Json

end LoadTest
