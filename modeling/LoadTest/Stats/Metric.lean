import LoadTest.Duration

/-!
Single observations of a run.
-/

namespace LoadTest

inductive Outcome where
  | ok
  | ko (reason : String)
  deriving DecidableEq

def Outcome.isOk : Outcome → Bool
  | .ok => true
  | .ko _ => false

/-- How one step of one user came out. -/
structure Metric where
  /-- The name of the step behind the names of the groups around it. -/
  step : String
  outcome : Outcome
  latency : Duration
  deriving DecidableEq

end LoadTest
