import LoadTest.Stats.Metric
import LoadTest.User.State
import LoadTest.User.Walk

/-!
What the steps that need the outside come to: requests and draws from feeders.

Every request records exactly one metric; a draw records one only if it fails.  After a
failed step the session is as it was before it.
-/

namespace LoadTest

/-- A name behind the names of the groups around it, which are given innermost first. -/
def statName (groups : List String) (name : String) : String :=
  " / ".intercalate (groups.reverse ++ [name])

/-- What a step did. -/
structure StepResult where
  session : Session
  metric : Option Metric
  error : Option StepError

/-- A request on its way: under which name it is counted, and what is sent. -/
structure Call where
  name : String
  request : Request
  prepared : PreparedRequest

/-- Prepares a request, or fails for a missing variable. -/
def Walk.call (walk : Walk) (protocol : Protocol) (request : Request) :
    Except StepResult Call :=
  let name := statName walk.groups (request.displayName walk.session)
  match request.prepare protocol walk.session with
  | .ok prepared => .ok ⟨name, request, prepared⟩
  | .error missing =>
      .error ⟨walk.session, some ⟨name, .ko missing.message, .zero⟩, some (.unresolved missing)⟩

/-- What a request comes to whose answer took `elapsed` to arrive. -/
def Call.conclude (call : Call) (session : Session) (elapsed : Duration) :
    Except TransportError Response → StepResult
  | .error error =>
      ⟨session, some ⟨call.name, .ko error.message, elapsed⟩, some (.transport error)⟩
  | .ok response =>
      let latency := if response.latency.isZero then elapsed else response.latency
      let evaluation := evaluateAll call.request.effectiveChecks response session
      match evaluation.failure with
      | none => ⟨evaluation.session, some ⟨call.name, .ok, latency⟩, none⟩
      | some failure =>
          ⟨evaluation.session, some ⟨call.name, .ko failure.message, latency⟩,
            some (.check failure)⟩

/-- What a draw comes to. -/
def Walk.fed (walk : Walk) (feeder : String) : Except StepError Record → StepResult
  | .ok record => ⟨walk.session.merge record.toList, none, none⟩
  | .error error =>
      ⟨walk.session,
        some ⟨statName walk.groups ("Feed " ++ feeder), .ko error.message, .zero⟩, some error⟩

/-- The error with which a step ends its user, if it does. -/
def FailurePolicy.fatal? (policy : FailurePolicy) : Option StepError → Option StepError
  | none => none
  | some error => if error.abortsStepOnly || policy == .continue then none else some error

end LoadTest
