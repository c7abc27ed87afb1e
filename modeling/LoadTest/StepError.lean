import LoadTest.Template

/-!
Why one step of one user fails.

None of these ends a run.  A missing variable only ends the step; what the others do
is the scenario's choice.
-/

namespace LoadTest

inductive TransportErrorKind where
  | timeout
  | connect
  | other
  deriving DecidableEq

def TransportErrorKind.text : TransportErrorKind → String
  | .timeout => "Timeout"
  | .connect => "Connect"
  | .other => "Other"

/-- A request that got no response at all. -/
structure TransportError where
  kind : TransportErrorKind
  detail : String
  deriving DecidableEq

def TransportError.message (error : TransportError) : String :=
  "transport error (" ++ error.kind.text ++ "): " ++ error.detail

/-- A check that did not pass: the check as written, what it expected and what it found. -/
structure CheckFailure where
  check : String
  expected : String
  found : Option String
  deriving DecidableEq

def CheckFailure.message (failure : CheckFailure) : String :=
  "check " ++ failure.check ++ " failed: expected " ++ failure.expected ++ ", found " ++
    failure.found.getD "nothing"

/-- A finite feeder without records left. -/
structure Exhausted where
  feeder : String
  deriving DecidableEq

def Exhausted.message (error : Exhausted) : String :=
  "feeder '" ++ error.feeder ++ "' is exhausted"

inductive StepError where
  | unresolved (missing : Unresolved)
  | exhausted (feeder : Exhausted)
  | check (failure : CheckFailure)
  | transport (error : TransportError)
  deriving DecidableEq

namespace StepError

def message : StepError → String
  | .unresolved missing => missing.message
  | .exhausted feeder => feeder.message
  | .check failure => failure.message
  | .transport error => error.message

/-- Whether a user goes on to the next step whatever the failure policy. -/
def abortsStepOnly : StepError → Bool
  | .unresolved _ => true
  | _ => false

end StepError

end LoadTest
