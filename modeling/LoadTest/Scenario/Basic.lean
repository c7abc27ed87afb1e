import LoadTest.Http.Request
import LoadTest.Random

/-!
Scenarios: the tree of steps that every user of a run walks through.
-/

namespace LoadTest

inductive Pause where
  | fixed (duration : Duration)
  /-- Any duration from `low` to `high`, both included; `low` if there is none between. -/
  | uniform (low high : Duration)
  deriving DecidableEq

/-- How long a pause lasts. -/
def Pause.duration (random : Random) : Pause → Duration × Random
  | .fixed duration => (duration, random)
  | .uniform low high =>
      if high ≤ low then (low, random)
      else
        let lowest := min low.nanos maxCount
        let (offset, random) := random.below (min high.nanos maxCount - lowest + 1)
        (.ofCount (lowest + offset), random)

/-- A question about the session that a scenario asks.  It may crash its user. -/
structure Condition where
  holds? : Session → Option Bool

namespace Condition

/-- The session holds a variable. -/
def present (key : String) : Condition := ⟨fun session => some (session.contains key)⟩

/-- The session holds a variable with exactly a value. -/
def equals (key : String) (value : Json) : Condition :=
  ⟨fun session => some ((session.get? key).any (· == value))⟩

end Condition

/-- A function on the session that a scenario runs.  It may crash its user.  Runs note each call of
a hook under its label. -/
structure Hook where
  label : String
  apply : Session → Option Session

namespace Hook

/-- Looks at the session only. -/
def look (label : String) : Hook := ⟨label, some⟩

def crash : Hook := ⟨"crash", fun _ => none⟩

end Hook

inductive LoopKind where
  /-- A number of times. -/
  | times (count : UInt64)
  /-- Until the run is cancelled. -/
  | forever
  /-- As long as a condition holds before an iteration. -/
  | asLongAs (condition : Condition)

/-- Whether a loop goes into an iteration; nothing if its condition crashes the user. -/
def LoopKind.continues? (session : Session) (iteration : UInt64) : LoopKind → Option Bool
  | .times count => some (iteration < count)
  | .forever => some true
  | .asLongAs condition => condition.holds? session

inductive Step where
  | request (request : Request)
  | pause (pause : Pause)
  /-- The variable `counter` holds the number of the iteration, from zero and modulo `2 ^ 64`. -/
  | loop (kind : LoopKind) (counter : String) (steps : List Step)
  /-- Draws a record from the feeder of a name. -/
  | feed (feeder : String)
  /-- Puts a name in front of the names of its steps. -/
  | group (name : String) (steps : List Step)
  | branch (condition : Condition) (steps : List Step)
  | exec (hook : Hook)

namespace Step

instance : Inhabited Step := ⟨.exec (.look "")⟩

def defaultCounter : String := "counter"

/-- Sets the counter of a loop; other steps stay as they are. -/
def withCounter (step : Step) (key : String) : Step :=
  match step with
  | .loop kind _ steps => .loop kind key steps
  | other => other

/-- The steps inside a step. -/
def children : Step → List Step
  | .loop _ _ steps => steps
  | .group _ steps => steps
  | .branch _ steps => steps
  | _ => []

end Step

/-- What a user does after a step failed. -/
inductive FailurePolicy where
  | stopUser
  | continue
  deriving DecidableEq

structure Scenario where
  name : String
  steps : List Step
  onFailure : FailurePolicy := .stopUser

mutual

/-- How many requests a step holds, those in loops counted once. -/
def Step.requestCount : Step → Nat
  | .request _ => 1
  | .loop _ _ steps => requestCounts steps
  | .group _ steps => requestCounts steps
  | .branch _ steps => requestCounts steps
  | .pause _ => 0
  | .feed _ => 0
  | .exec _ => 0

def requestCounts : List Step → Nat
  | [] => 0
  | step :: steps => step.requestCount + requestCounts steps

end

def Scenario.requestCount (scenario : Scenario) : Nat := requestCounts scenario.steps

end LoadTest
