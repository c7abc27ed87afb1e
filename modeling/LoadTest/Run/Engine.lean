import LoadTest.Injection.Profile
import LoadTest.Run.Simulation
import LoadTest.Scenario.Validation

/-!
Starting runs and summing them up.

A run does not start if its scenario or its injection profile has a defect; the scenario
is looked at first.
-/

namespace LoadTest

inductive RunError where
  | scenario (error : ScenarioError)
  | injection (error : Injection.InjectionError Float)
  /-- The run would be cancelled at a moment beyond the end of time. -/
  | deadlineOutOfRange
  /-- Snapshots would be published without end at one moment. -/
  | zeroSnapshotInterval

def RunError.message : RunError → String
  | .scenario error => "invalid scenario: " ++ error.message
  | .injection error => "invalid injection profile: " ++ error.message
  | .deadlineOutOfRange => "the maximum duration is too long"
  | .zeroSnapshotInterval => "the snapshot interval must be greater than zero"

/-- What runs of any scenario are set up with. -/
structure Engine where
  injection : Injection.Profile Float
  protocol : Protocol
  maxDuration : Option Duration := none
  gracePeriod : Duration := .ofSeconds 5
  tick : Duration := .ofMillis 100
  snapshotInterval : Duration := .ofSeconds 1
  /-- The random numbers of each user. -/
  randoms : Nat → Random

structure Summary where
  scenario : String
  stats : Stats
  users : Tally
  /-- Milliseconds from the start to the end of the run. -/
  elapsed : Nat
  cancelled : Option CancelReason
  /-- In the order they were taken. -/
  snapshots : List Snapshot
  /-- In the order things happened. -/
  log : List LogEntry

namespace Engine

variable {State : Type}

/-- Looks for defects and lays out the run. -/
def plan (engine : Engine) (scenario : Scenario) (transport : Transport State)
    (actions : List (Duration × Action)) : Except RunError (Plan State) := do
  match scenario.validate with
  | .error error => throw (.scenario error)
  | .ok () => pure ()
  let offsets ←
    match Injection.schedule engine.tick engine.injection with
    | .error error => throw (.injection error)
    | .ok offsets => pure offsets
  if engine.maxDuration.any (endOfTime ≤ ·.seconds) then throw .deadlineOutOfRange
  if engine.snapshotInterval.isZero then throw .zeroSnapshotInterval
  return {
    scenario
    protocol := engine.protocol
    transport
    offsets
    maxDuration := engine.maxDuration
    gracePeriod := engine.gracePeriod
    snapshotInterval := engine.snapshotInterval
    randoms := engine.randoms
    actions }

end Engine

def Run.summary {State : Type} (plan : Plan State) (run : Run State) : Summary where
  scenario := plan.scenario.name
  stats := run.collector.stats
  users := run.dispatch.tally
  elapsed := run.clock.now
  cancelled := run.dispatch.reason?
  snapshots := run.snapshots.reverse
  log := run.log.reverse

namespace Engine

/-- Runs a scenario for at most `fuel` steps; nothing if it has not ended by then. -/
def exec? {State : Type} (fuel : Nat) (engine : Engine) (scenario : Scenario)
    (transport : Transport State) (state : State) (feeders : SortedMap String Feeder)
    (actions : List (Duration × Action)) : Except RunError (Option Summary) := do
  let plan ← engine.plan scenario transport actions
  let run := Run.iterate plan fuel (.start plan feeders state)
  return if run.finished then some (run.summary plan) else none

end Engine

end LoadTest
