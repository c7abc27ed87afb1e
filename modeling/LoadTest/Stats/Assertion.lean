import LoadTest.Decimal.Notation
import LoadTest.Json.Fields
import LoadTest.Stats.Basic

/-!
Criteria that the figures of a run have to meet.

An assertion names a scope, a figure and a bound.  Over a step that never ran it has no
figure to judge and does not pass.
-/

namespace LoadTest

inductive Scope where
  | global
  | step (name : String)
  deriving DecidableEq

inductive Target (α : Type) where
  | requestCount
  | failedCount
  | failedPercent
  | successfulPercent
  | maxResponseTime
  | meanResponseTime
  | percentile (percent : α)
  deriving DecidableEq

inductive Bound (α : Type) where
  | lt (limit : α)
  | lte (limit : α)
  | gt (limit : α)
  | gte (limit : α)
  | is (value : α)
  /-- Both ends included. -/
  | between (low high : α)
  deriving DecidableEq

structure Assertion (α : Type) where
  scope : Scope
  target : Target α
  bound : Bound α
  deriving DecidableEq

structure AssertionResult (α : Type) where
  assertion : Assertion α
  actual : Option α
  passed : Bool

section

variable {α : Type} [Scalar α]

def Target.measure (stats : StepStats) : Target α → α
  | .requestCount => Scalar.ofNat stats.total
  | .failedCount => Scalar.ofNat stats.ko
  | .failedPercent => stats.koPercent
  | .successfulPercent =>
      if stats.total = 0 then Scalar.ofNat 0 else Scalar.ofNat 100 - stats.koPercent
  | .maxResponseTime => stats.maximum
  | .meanResponseTime => stats.mean
  | .percentile percent => stats.percentile percent

def Bound.holds (number : α) : Bound α → Bool
  | .lt limit => Scalar.less number limit
  | .lte limit => Scalar.atMost number limit
  | .gt limit => Scalar.less limit number
  | .gte limit => Scalar.atMost limit number
  | .is value => Scalar.same number value
  | .between low high => Scalar.atMost low number && Scalar.atMost number high

def Scope.find? (stats : Stats) : Scope → Option StepStats
  | .global => some stats.global
  | .step name => stats.step? name

def Assertion.evaluate (assertion : Assertion α) (stats : Stats) : AssertionResult α :=
  let actual := (assertion.scope.find? stats).map assertion.target.measure
  ⟨assertion, actual, actual.any assertion.bound.holds⟩

end

namespace Scope

def text : Scope → String
  | .global => "Global: "
  | .step name => name ++ ": "

def jsonText : Scope → String
  | .global => Json.quoted "Global"
  | .step name => Json.objectText [("Step", Json.quoted name)]

def ofDocument? (document : Json.Document) : Option Scope := do
  let (name, payload) ← document.choice?
  match name with
  | "Global" => if Json.Document.isNothing payload then some .global else none
  | "Step" => return .step (← (← payload).string?)
  | _ => none

end Scope

namespace Target

def text : Target Float → String
  | .requestCount => "requests"
  | .failedCount => "failed requests"
  | .failedPercent => "failed requests %"
  | .successfulPercent => "successful requests %"
  | .maxResponseTime => "max response time (ms)"
  | .meanResponseTime => "mean response time (ms)"
  | .percentile percent => "p" ++ Decimal.plain percent ++ " response time (ms)"

/-- The targets that take no number, by name. -/
def named : List (String × Target Float) :=
  [("RequestCount", .requestCount), ("FailedCount", .failedCount),
   ("FailedPercent", .failedPercent), ("SuccessfulPercent", .successfulPercent),
   ("MaxResponseTime", .maxResponseTime), ("MeanResponseTime", .meanResponseTime)]

def jsonText : Target Float → String
  | .requestCount => Json.quoted "RequestCount"
  | .failedCount => Json.quoted "FailedCount"
  | .failedPercent => Json.quoted "FailedPercent"
  | .successfulPercent => Json.quoted "SuccessfulPercent"
  | .maxResponseTime => Json.quoted "MaxResponseTime"
  | .meanResponseTime => Json.quoted "MeanResponseTime"
  | .percentile percent => Json.objectText [("Percentile", Decimal.dataText percent)]

def ofDocument? (document : Json.Document) : Option (Target Float) := do
  let (name, payload) ← document.choice?
  if name = "Percentile" then return .percentile (← (← payload).float?)
  else if Json.Document.isNothing payload then named.lookup name
  else none

end Target

namespace Bound

def text : Bound Float → String
  | .lt limit => " < " ++ Decimal.plain limit
  | .lte limit => " <= " ++ Decimal.plain limit
  | .gt limit => " > " ++ Decimal.plain limit
  | .gte limit => " >= " ++ Decimal.plain limit
  | .is value => " == " ++ Decimal.plain value
  | .between low high => " in [" ++ Decimal.plain low ++ ", " ++ Decimal.plain high ++ "]"

def jsonText : Bound Float → String
  | .lt limit => Json.objectText [("Lt", Decimal.dataText limit)]
  | .lte limit => Json.objectText [("Lte", Decimal.dataText limit)]
  | .gt limit => Json.objectText [("Gt", Decimal.dataText limit)]
  | .gte limit => Json.objectText [("Gte", Decimal.dataText limit)]
  | .is value => Json.objectText [("Is", Decimal.dataText value)]
  | .between low high =>
      Json.objectText
        [("Between", Json.arrayText [Decimal.dataText low, Decimal.dataText high])]

def ofDocument? (document : Json.Document) : Option (Bound Float) := do
  let (name, payload) ← document.choice?
  let payload ← payload
  match name with
  | "Lt" => return .lt (← payload.float?)
  | "Lte" => return .lte (← payload.float?)
  | "Gt" => return .gt (← payload.float?)
  | "Gte" => return .gte (← payload.float?)
  | "Is" => return .is (← payload.float?)
  | "Between" =>
      match ← payload.items? with
      | [low, high] => return .between (← low.float?) (← high.float?)
      | _ => none
  | _ => none

end Bound

namespace Assertion

def text (assertion : Assertion Float) : String :=
  assertion.scope.text ++ assertion.target.text ++ assertion.bound.text

def jsonText (assertion : Assertion Float) : String :=
  Json.objectText
    [("scope", assertion.scope.jsonText), ("target", assertion.target.jsonText),
     ("bound", assertion.bound.jsonText)]

def ofDocument? (document : Json.Document) : Option (Assertion Float) := do
  let fields ← document.fields? ["scope", "target", "bound"]
  return ⟨← fields.decode "scope" Scope.ofDocument?, ← fields.decode "target" Target.ofDocument?,
    ← fields.decode "bound" Bound.ofDocument?⟩

def ofJsonText? (text : String) : Option (Assertion Float) :=
  (Json.Document.ofText? text).bind ofDocument?

end Assertion

def AssertionResult.text (result : AssertionResult Float) : String :=
  result.assertion.text ++ ": " ++ (if result.passed then "OK" else "KO") ++
    (match result.actual with
      | some actual => " (actual " ++ Decimal.plain actual ++ ")"
      | none => " (no data)")

end LoadTest
