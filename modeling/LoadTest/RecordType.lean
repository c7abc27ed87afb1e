import LoadTest.Session
import LoadTest.Text.Case
import LoadTest.Text.Uppercase

/-!
Record types: under which keys the fields of a data type go into a record.

A type may ask for one case for all keys; a field may name its own key or stay out.  The
shape of the type is looked at first, then what the type asks for, then its fields.
-/

namespace LoadTest.RecordType

inductive Shape where
  | named
  | tuple
  | unit
  | enumeration
  deriving DecidableEq

/-- An attribute by name, with or without a text. -/
structure Attribute where
  name : String
  value : Option String
  deriving DecidableEq

structure Field where
  name : String
  attributes : List Attribute
  deriving DecidableEq

inductive LayoutError where
  | notNamed
  | notStruct
  | unknownCase
  | unsupported
  | missingValue
  | unexpectedValue
  deriving DecidableEq

def LayoutError.message : LayoutError → String
  | .notNamed => "Record can only be derived for structs with named fields"
  | .notStruct => "Record can only be derived for structs"
  | .unknownCase => "unknown rename_all case"
  | .unsupported => "unsupported record attribute"
  | .missingValue => "expected `=`"
  | .unexpectedValue => "expected `,`"

inductive Case where
  | lower
  | upper
  | pascal
  | camel
  | snake
  | screamingSnake
  | kebab
  deriving DecidableEq

namespace Case

def name : Case → String
  | .lower => "lowercase"
  | .upper => "UPPERCASE"
  | .pascal => "PascalCase"
  | .camel => "camelCase"
  | .snake => "snake_case"
  | .screamingSnake => "SCREAMING_SNAKE_CASE"
  | .kebab => "kebab-case"

def all : List Case := [.lower, .upper, .pascal, .camel, .snake, .screamingSnake, .kebab]

def ofName? (name : String) : Option Case := all.find? (·.name == name)

/-- The words of a name joined, every word with a capital; the first one only if `capital` holds. -/
def joinWords (capital : Bool) : List Char → List Char
  | [] => []
  | character :: rest =>
      if character = '_' then joinWords true rest
      else if capital then Text.capitals character ++ joinWords false rest
      else character :: joinWords false rest

/-- The key for a field named in small letters and underscores. -/
def apply (name : List Char) : Case → List Char
  | .lower | .snake => name
  | .upper | .screamingSnake => Text.upperAscii name
  | .kebab => name.map fun character => if character = '_' then '-' else character
  | .pascal => joinWords true name
  | .camel => joinWords false name

end Case

/-- The case that the attributes of a type ask for; the last one counts. -/
def readCase (asked : Option Case) : List Attribute → Except LayoutError (Option Case)
  | [] => .ok asked
  | item :: rest =>
      if item.name != "rename_all" then .error .unsupported
      else
        match item.value with
        | none => .error .missingValue
        | some value =>
            match Case.ofName? value with
            | none => .error .unknownCase
            | some case => readCase (some case) rest

/-- What the attributes of a field ask for. -/
structure FieldPlan where
  key : Option String
  skipped : Bool
  deriving DecidableEq

def readPlan (plan : FieldPlan) : List Attribute → Except LayoutError FieldPlan
  | [] => .ok plan
  | item :: rest =>
      if item.name == "rename" then
        match item.value with
        | none => .error .missingValue
        | some key => readPlan { plan with key := some key } rest
      else if item.name == "skip" then
        match item.value with
        | none => readPlan { plan with skipped := true } rest
        | some _ => .error .unexpectedValue
      else .error .unsupported

/-- A field name without the mark of a raw identifier. -/
def plainName (name : String) : List Char :=
  match name.toList with
  | 'r' :: '#' :: rest => rest
  | name => name

/-- The key of a field that does not name its own. -/
def defaultKey (case : Option Case) (name : String) : String :=
  String.ofList (match case with
    | some case => case.apply (plainName name)
    | none => plainName name)

/-- The key and the field of every entry, in order of the fields. -/
def entries (case : Option Case) : List Field → Except LayoutError (List (String × String))
  | [] => .ok []
  | field :: rest => do
      let plan ← readPlan ⟨none, false⟩ field.attributes
      let later ← entries case rest
      if plan.skipped then return later
      else return (plan.key.getD (defaultKey case field.name), field.name) :: later

def layout (shape : Shape) (attributes : List Attribute) (fields : List Field) :
    Except LayoutError (List (String × String)) :=
  match shape with
  | .tuple | .unit => .error .notNamed
  | .enumeration => .error .notStruct
  | .named => do entries (← readCase none attributes) fields

/-- The record of a value, whose fields hold what `held` says by name. -/
def record (entries : List (String × String)) (held : String → Json) : Record :=
  .ofList (entries.map fun entry => (entry.1, held entry.2))

end LoadTest.RecordType
