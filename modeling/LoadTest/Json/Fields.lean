import LoadTest.Json.Document

/-!
Typed data in JSON documents.

A record is an object with known keys, or an array of the fields in order.  In an object
a known key may stand once, and unknown keys are ignored, whatever their values hold.  A
choice with a payload is an object of one field; one without may also be a plain string.
-/

namespace LoadTest.Json

/-- The documents given for some of the known fields of a record. -/
structure Fields where
  given : List (String × Document)

namespace Fields

def find? (fields : Fields) (name : String) : Option Document := fields.given.lookup name

/-- A field that must be given. -/
def decode {Value : Type} (fields : Fields) (name : String)
    (read? : Document → Option Value) : Option Value :=
  (fields.find? name).bind read?

/-- A field that has a default. -/
def decodeOr {Value : Type} (fields : Fields) (name : String)
    (read? : Document → Option Value) (default : Value) : Option Value :=
  match fields.find? name with
  | none => some default
  | some document => read? document

end Fields

namespace Document

def ofText? (text : String) : Option Document :=
  (read .leniently (Text.Utf8.encode text)).toOption

/-- The known fields of an object; none if one of them stands twice or a key has no text. -/
def gatherFields (names : List String) :
    List (Except Fault String × Document) → List (String × Document) →
      Option (List (String × Document))
  | [], gathered => some gathered
  | (.error _, _) :: _, _ => none
  | (.ok key, value) :: rest, gathered =>
      if !names.contains key then gatherFields names rest gathered
      else if (gathered.lookup key).isSome then none
      else gatherFields names rest ((key, value) :: gathered)

def fields? (names : List String) : Document → Option Fields
  | .object fields => (gatherFields names fields []).map Fields.mk
  | .array items => if items.length ≤ names.length then some ⟨names.zip items⟩ else none
  | _ => none

def number? : Document → Option Number
  | .number value => value.toOption
  | _ => none

def string? : Document → Option String
  | .string value => value.toOption
  | _ => none

def count? (document : Document) : Option Nat :=
  match document.number? with
  | some (.integer value) => if 0 ≤ value then some value.toNat else none
  | _ => none

/-- A number of any kind, as a double. -/
def float? (document : Document) : Option Float := document.number?.map Number.toFloat

def items? : Document → Option (List Document)
  | .array items => some items
  | _ => none

/-- An object whose values are all read alike; the last of several values of a key counts. -/
def map? {Value : Type} (read? : Document → Option Value) :
    Document → Option (SortedMap String Value)
  | .object fields => do
      let pairs ← fields.mapM fun field => do return (← field.1.toOption, ← read? field.2)
      return SortedMap.ofList pairs
  | _ => none

/-- The name of a choice, and its payload if one is written. -/
def choice? : Document → Option (String × Option Document)
  | .string value => value.toOption.map fun name => (name, none)
  | .object [(key, payload)] => key.toOption.map fun name => (name, some payload)
  | _ => none

/-- Whether a payload is that of a choice without one. -/
def isNothing : Option Document → Bool
  | none => true
  | some .null => true
  | _ => false

end Document

end LoadTest.Json
