import LoadTest.Decimal.Reading
import LoadTest.Json.Basic
import LoadTest.Text.Blank

/-!
Paths to one member of a JSON value: `$.items[0]['odd key']`.

A path is a root sign followed by segments, each a field after a point, a quoted key in
brackets or an index in brackets.  A path that does not read as segments selects nothing.
-/

namespace LoadTest

namespace JsonPath

inductive Segment where
  | key (name : String)
  | index (position : Nat)
  deriving DecidableEq

inductive PathError where
  | noRoot
  | emptyField
  | unclosedBracket
  | invalidIndex (text : String)
  | unexpected (character : Char)
  deriving DecidableEq

def PathError.message : PathError → String
  | .noRoot => "path must start with '$'"
  | .emptyField => "empty field name"
  | .unclosedBracket => "unclosed '['"
  | .invalidIndex text => "invalid index '" ++ text ++ "'"
  | .unexpected character => "unexpected character '" ++ character.toString ++ "'"

def Segment.select (value : Json) : Segment → Option Json
  | .key name => value.field? name
  | .index position => value.item? position

/-- The text between two quotes of one kind. -/
def unquote? (quote : Char) : List Char → Option (List Char)
  | first :: rest =>
      if first = quote ∧ rest.getLast? = some quote then some rest.dropLast else none
  | [] => none

/-- The segment that the text between two brackets is. -/
def readBracket (text : List Char) : Except PathError Segment :=
  let inner := Text.trim text
  match (unquote? '\'' inner).or (unquote? '"' inner) with
  | some key => .ok (.key (String.ofList key))
  | none =>
      match Decimal.readCount inner with
      | .ok position => .ok (.index position)
      | .error _ => .error (.invalidIndex (String.ofList inner))

def endsField (character : Char) : Bool := character == '.' || character == '['

/-- The segments behind the root sign. -/
def readSegments (text : List Char) : Except PathError (List Segment) :=
  match text with
  | [] => .ok []
  | '.' :: rest =>
      let name := rest.takeWhile (!endsField ·)
      if name.isEmpty then .error .emptyField
      else do return .key (String.ofList name) :: (← readSegments (rest.dropWhile (!endsField ·)))
  | '[' :: rest =>
      match _behind : rest.dropWhile (· != ']') with
      | [] => .error .unclosedBracket
      | _ :: left => do
          let segment ← readBracket (rest.takeWhile (· != ']'))
          return segment :: (← readSegments left)
  | character :: _ => .error (.unexpected character)
termination_by text.length
decreasing_by
  · exact Nat.lt_succ_of_le (List.dropWhile_suffix _).length_le
  · have := (List.dropWhile_suffix (l := rest) (· != ']')).length_le
    rw [_behind] at this
    simp only [List.length_cons] at this ⊢
    omega

/-- The segments of a path with white space around it. -/
def read (source : List Char) : Except PathError (List Segment) :=
  match Text.trim source with
  | '$' :: rest => readSegments rest
  | _ => .error .noRoot

/-- Follows segments into a value. -/
def follow : List Segment → Json → Option Json
  | [], value => some value
  | segment :: segments, value => (segment.select value).bind (follow segments)

end JsonPath

structure JsonPath where
  source : String
  deriving DecidableEq

namespace JsonPath

def segments (path : JsonPath) : Except PathError (List Segment) := read path.source.toList

def error? (path : JsonPath) : Option PathError :=
  match path.segments with
  | .ok _ => none
  | .error error => some error

/-- The member of a value that the path leads to. -/
def select (path : JsonPath) (value : Json) : Option Json :=
  match path.segments with
  | .ok segments => follow segments value
  | .error _ => none

end JsonPath

end LoadTest
