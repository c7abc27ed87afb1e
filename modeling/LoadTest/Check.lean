import LoadTest.Http.Response
import LoadTest.Json.Document
import LoadTest.JsonPath
import LoadTest.StepError
import LoadTest.Decimal.Reading

/-!
Checks of a response: a value is extracted, judged and perhaps saved.

`Check.inspect` runs one check without touching the session.  `evaluateAll` runs checks
in order, all against the session as it is before the first; their saves are applied
together when every check has passed, and not at all otherwise.
-/

namespace LoadTest

inductive Extractor where
  | status
  | header (name : String)
  | member (path : JsonPath)
  | body
  deriving DecidableEq

namespace Extractor

/-- The value a check looks at, or the fault of a body that should be JSON. -/
def extract (response : Response) : Extractor → Except Json.Fault (Option Json)
  | .status => .ok (some (Json.ofNat response.status))
  | .header name => .ok ((response.header? name).map .string)
  | .member path => do return path.select (← Json.read response.body)
  | .body => .ok (some (.string response.bodyText))

def text : Extractor → String
  | .status => "status"
  | .header name => "header(" ++ name ++ ")"
  | .member path => "jsonPath(" ++ path.source ++ ")"
  | .body => "bodyString"

end Extractor

/-- What a value is compared with: a JSON value, or text that may name session variables. -/
inductive Expected where
  | exactly (value : Json)
  | filled (template : Template)

namespace Expected

def resolve (session : Session) : Expected → Except Unresolved Json
  | .exactly value => .ok value
  | .filled template => (template.render session).map .string

def text : Expected → String
  | .exactly value => value.text
  | .filled template => template.source

end Expected

/-- Two values match if they are equal, or if they are alike as inserted text. -/
def Json.matches (found expected : Json) : Bool :=
  found == expected || found.inserted == expected.inserted

/-- A number, or the number that a string with white space around it is. -/
def Json.toFloat? : Json → Option Float
  | .number value => some value.toFloat
  | .string value => (Decimal.read (Text.trim value.toList)).toOption
  | _ => none

inductive Predicate where
  | present
  | absent
  /-- Passes whatever was found. -/
  | optional
  | is (expected : Expected)
  /-- Passes if another value or nothing was found. -/
  | not (expected : Expected)
  | oneOf (choices : List Expected)
  /-- Passes for a number from `low` to `high`, both included. -/
  | between (low high : Float)

namespace Predicate

/-- Whether a found value matches one of the choices.  Choices are resolved only up to the first
match. -/
def matchesAny (session : Session) (found : Option Json) : List Expected → Except Unresolved Bool
  | [] => .ok false
  | choice :: choices => do
      let expected ← choice.resolve session
      if found.any (·.matches expected) then return true
      else matchesAny session found choices

def holds (session : Session) (found : Option Json) : Predicate → Except Unresolved Bool
  | .present => .ok found.isSome
  | .absent => .ok found.isNone
  | .optional => .ok true
  | .is expected => do
      let expected ← expected.resolve session
      return found.any (·.matches expected)
  | .not expected => do
      let expected ← expected.resolve session
      return !found.any (·.matches expected)
  | .oneOf choices => matchesAny session found choices
  | .between low high =>
      .ok ((found.bind Json.toFloat?).any fun number => low ≤ number && number ≤ high)

def text : Predicate → String
  | .present => "exists"
  | .absent => "notExists"
  | .optional => "optional"
  | .is expected => "is(" ++ expected.text ++ ")"
  | .not expected => "not(" ++ expected.text ++ ")"
  | .oneOf choices => "in(" ++ ", ".intercalate (choices.map Expected.text) ++ ")"
  | .between low high =>
      "between(" ++ Decimal.plain low ++ ", " ++ Decimal.plain high ++ ")"

end Predicate

structure Check where
  extractor : Extractor
  predicate : Predicate
  /-- The variable that takes the found value. -/
  saveAs : Option String

namespace Check

def text (check : Check) : String :=
  check.extractor.text ++ "." ++ check.predicate.text ++
    (match check.saveAs with
      | some key => ".saveAs(" ++ key ++ ")"
      | none => "")

def isStatusCheck (check : Check) : Bool := check.extractor == .status

/-- The statuses that count as success where a request says nothing else. -/
def successStatuses : List Nat := (List.range 10).map (200 + ·) ++ [304]

/-- The check of a request that declares no status check of its own. -/
def implicitStatus : Check :=
  ⟨.status, .oneOf (successStatuses.map fun status => .exactly (Json.ofNat status)), none⟩

def failure (check : Check) (expected : String) (found : Option Json) : CheckFailure :=
  ⟨check.text, expected, found.map Json.inserted⟩

/-- The value to be saved under which key, if the check passes. -/
def inspect (check : Check) (response : Response) (session : Session) :
    Except CheckFailure (Option (String × Json)) :=
  match check.extractor.extract response with
  | .error fault =>
      .error (check.failure ("body is not valid JSON: " ++ fault.message response.body) none)
  | .ok found =>
      match check.predicate.holds session found with
      | .error missing => .error (check.failure missing.message found)
      | .ok false => .error (check.failure check.predicate.text found)
      | .ok true =>
          match check.saveAs, found with
          | some key, some value => .ok (some (key, value))
          | _, _ => .ok none

end Check

/-- What the checks of one response came to. -/
structure Evaluation where
  session : Session
  failure : Option CheckFailure

def Evaluation.passed (evaluation : Evaluation) : Bool := evaluation.failure.isNone

/-- Runs checks in order up to the first failure. -/
def evaluateAll (checks : List Check) (response : Response) (session : Session) : Evaluation :=
  match checks.mapM (·.inspect response session) with
  | .error failure => ⟨session, some failure⟩
  | .ok saves => ⟨session.merge (saves.filterMap id), none⟩

end LoadTest
