import LoadTest.Feeder
import LoadTest.Run.Collector
import LoadTest.Run.Dispatch
import LoadTest.Run.User

/-!
Whole runs on a virtual clock.

Four kinds of tasks take turns: the caller that started the run, the collector of metrics,
the dispatcher of users, and the users.  `Run.step` is the smallest thing that happens:
one turn of a walk, one event of the dispatcher, one batch or snapshot of the collector,
one action of the caller, or the choice of the next task.  No time passes within a turn.
-/

namespace LoadTest

/-- What the caller of a run does besides waiting for its end. -/
inductive Action where
  | stop
  | snapshot
  deriving DecidableEq

/-- Everything a run is made from. -/
structure Plan (State : Type) where
  scenario : Scenario
  protocol : Protocol
  transport : Transport State
  offsets : List Duration
  maxDuration : Option Duration
  gracePeriod : Duration
  snapshotInterval : Duration
  /-- The random numbers of each user. -/
  randoms : Nat → Random
  /-- Actions of the caller, each done after waiting for its moment. -/
  actions : List (Duration × Action)

namespace Plan

variable {State : Type}

def setting (plan : Plan State) : Setting := ⟨plan.scenario.onFailure, plan.protocol⟩

/-- The transport and the feeders of a run as one of its users sees them. -/
def outside (plan : Plan State) (user : Nat) : Outside (State × SortedMap String Feeder) where
  send world request :=
    let (reply, transport) := plan.transport.send world.1 user request
    (reply, (transport, world.2))
  draw world name :=
    match world.2.get? name with
    | none => (some (.error (.exhausted ⟨name⟩)), world)
    | some feeder =>
        let (drawn, feeder) := feeder.next
        (drawn, (world.1, world.2.insert name feeder))

end Plan

/-- What is noted about the users of a run. -/
inductive Happening where
  | sent (request : PreparedRequest)
  | hook (label : String) (session : Session)

structure LogEntry where
  user : Nat
  /-- Milliseconds since the start. -/
  time : Nat
  happening : Happening

structure Snapshot where
  /-- Milliseconds since the start. -/
  time : Nat
  stats : Stats

structure Run (State : Type) where
  clock : Clock
  /-- The task whose turn it is. -/
  focus : Option Task
  cancel : Option CancelReason
  users : Array User
  /-- How many users have not ended. -/
  live : Nat
  /-- Endings that the dispatcher has not seen, in order. -/
  endings : List Ending
  feeders : SortedMap String Feeder
  transport : State
  /-- Metrics that the collector has not taken, last one first. -/
  inbox : List Metric
  dispatch : Dispatch
  collector : Collector
  /-- The moment of the next snapshot, in nanoseconds. -/
  nextSnapshot : Nat
  /-- Whether an alarm is set for the next snapshot. -/
  snapshotArmed : Bool
  collected : Bool
  actions : List (Duration × Action)
  /-- Last one first. -/
  snapshots : List Snapshot
  /-- Last one first. -/
  log : List LogEntry
  finished : Bool

namespace Run

variable {State : Type}

def start (plan : Plan State) (feeders : SortedMap String Feeder) (transport : State) :
    Run State where
  clock := .start [.collector, .dispatcher]
  focus := none
  cancel := none
  users := #[]
  live := 0
  endings := []
  feeders
  transport
  inbox := []
  dispatch := .start plan.offsets
  collector := .start
  nextSnapshot := 0
  snapshotArmed := false
  collected := false
  actions := plan.actions
  snapshots := []
  log := []
  finished := false

def wake (run : Run State) (task : Task) : Run State :=
  { run with clock := run.clock.wake task }

/-- The task whose turn it is has nothing more to do for now. -/
def release (run : Run State) : Run State := { run with focus := none }

/-- Puts a metric into the queue of the collector. -/
def record (run : Run State) (metric : Metric) : Run State :=
  { run with inbox := metric :: run.inbox }.wake .collector

def note (run : Run State) (user : Nat) (happening : Happening) : Run State :=
  { run with log := ⟨user, run.clock.now, happening⟩ :: run.log }

def setUser (run : Run State) (id : Nat) (user : User) : Run State :=
  { run with users := run.users.setIfInBounds id user }

/-- Whether metrics can still come. -/
def canRecord (run : Run State) : Bool := run.dispatch.isSpawning || 0 < run.live

/-! ### Cancellation -/

def pausingTasks (users : Array User) : List Task :=
  ((List.range users.size).zip users.toList).filterMap fun (id, user) =>
    if user.isPausing then some (.user id) else none

/-- Gives the run a reason to be cancelled, unless it has one, and wakes whoever waits for it. -/
def cancelFor (run : Run State) (reason : CancelReason) : Run State :=
  match run.cancel with
  | some _ => run
  | none =>
      let woken := (Task.dispatcher :: pausingTasks run.users).filter (run.focus != some ·)
      { run with cancel := some reason, clock := woken.foldl Clock.wake run.clock }

/-! ### Users -/

def observe (run : Run State) (id : Nat) : Deed → Run State
  | .sent request => run.note id (.sent request)
  | .called hook session => run.note id (.hook hook session)
  | .drew _ _ => run
  | .recorded metric => run.record metric

/-- Notes that the task of a user has ended. -/
def endUser (run : Run State) (ending : Ending) : Run State :=
  let run :=
    { run with
      live := run.live - 1
      endings := run.endings ++ [ending] }
  let run := run.wake .dispatcher
  let run := if run.canRecord then run else run.wake .collector
  run.release

/-- Takes up what a turn of a user came to. -/
def follow (run : Run State) (id : Nat) (advance : Advance) : Run State :=
  let run := (advance.deeds.foldl (observe · id) run).setUser id advance.user
  match advance.pace with
  | .onward => run
  | .yielding => { run with clock := run.clock.holdBack (.user id) }.release
  | .waiting wake => { run with clock := run.clock.setAlarm wake (.user id) }.release
  | .finished ending => run.endUser ending
  | .idle => run.release

def stepUser (plan : Plan State) (run : Run State) (id : Nat) : Run State :=
  match run.users[id]? with
  | none => run.release
  | some user =>
      let (advance, world) := user.turn plan.setting (plan.outside id) run.cancel run.clock.now
        (run.transport, run.feeders)
      let clock := if user.isPausing then run.clock.clearAlarms (.user id) else run.clock
      { run with clock, transport := world.1, feeders := world.2 }.follow id advance

/-! ### Dispatcher -/

def view (plan : Plan State) (run : Run State) : Dispatch.View where
  now := run.clock.now
  cancel := run.cancel
  deadline := plan.maxDuration.map fun duration => millisecondOf duration.nanos
  grace := millisecondOf plan.gracePeriod.nanos
  ended := run.endings.head?

/-- Adds users until there are as many as the dispatcher has spawned. -/
def addUsers (plan : Plan State) (run : Run State) : Run State :=
  let ids := (List.range (run.dispatch.nextId - run.users.size)).map (run.users.size + ·)
  let added := ids.map fun id => User.start id (plan.randoms id) plan.scenario.steps
  { run with
    users := run.users ++ added.toArray
    live := run.live + ids.length
    clock := ids.foldl (fun clock id => clock.wake (.user id)) run.clock }

/-- Tells every user that has not ended to stop. -/
def abortUsers (run : Run State) : Run State :=
  let tasks := ((List.range run.users.size).zip run.users.toList).filterMap fun (id, user) =>
    if user.hasEnded then none else some (Task.user id)
  { run with
    users := run.users.map User.abort
    clock := tasks.foldl (fun clock task => (clock.clearAlarms task).wake task) run.clock }

/-- Handles an event and does what it calls for. -/
def undertake (plan : Plan State) (run : Run State) (event : Dispatch.Event) : Run State :=
  let run := { run with dispatch := run.dispatch.handle event }
  match event with
  | .due _ => run.addUsers plan
  | .joined _ => { run with endings := run.endings.tail }
  | .cancelled reason _ =>
      let run := { run with clock := run.clock.clearAlarms .dispatcher }.cancelFor reason
      if run.canRecord then run else run.wake .collector
  | .graceOver => run.abortUsers
  | .finished =>
      (if run.collected || run.canRecord then run else run.wake .collector).wake .caller

def stepDispatcher (plan : Plan State) (run : Run State) : Run State :=
  let view := run.view plan
  match run.dispatch.next? view with
  | some event => run.undertake plan event
  | none =>
      if !run.dispatch.isSpawning && run.clock.hasAlarm .dispatcher then run.release
      else
        let clock := run.clock.clearAlarms .dispatcher
        let alarms := run.dispatch.alarms view
        { run with
          clock := alarms.foldl (fun clock time => clock.setAlarm time .dispatcher) clock }.release

/-! ### Collector -/

def stepCollector (plan : Plan State) (run : Run State) : Run State :=
  match run.inbox with
  | _ :: _ =>
      let (collector, left) :=
        run.collector.receive Collector.batchSize run.inbox.reverse
      { run with collector, inbox := left.reverse }
  | [] =>
      if !run.canRecord then
        { run with
          collector := run.collector.publish
          collected := true
          clock := run.clock.clearAlarms .collector }.wake .caller |>.release
      else if millisecondOf run.nextSnapshot ≤ run.clock.now then
        { run with
          collector := run.collector.publish
          nextSnapshot := run.nextSnapshot + plan.snapshotInterval.nanos
          snapshotArmed := false }
      else if run.snapshotArmed then run.release
      else
        { run with
          snapshotArmed := true
          clock := run.clock.setAlarm (millisecondOf run.nextSnapshot) .collector }.release

/-! ### Caller -/

def stepCaller (run : Run State) : Run State :=
  match run.actions with
  | (moment, action) :: rest =>
      let wake := millisecondOf moment.nanos
      if wake ≤ run.clock.now then
        let run := { run with actions := rest }
        match action with
        | .stop => run.cancelFor .shutdown
        | .snapshot =>
            { run with
              snapshots := ⟨run.clock.now, run.collector.published⟩ :: run.snapshots }
      else
        { run with
          clock := (run.clock.clearAlarms .caller).setAlarm wake .caller }.release
  | [] =>
      if run.dispatch.isOver && run.collected then { run with finished := true }.release
      else run.release

/-! ### The whole -/

def step (plan : Plan State) (run : Run State) : Run State :=
  match run.focus with
  | some .caller => run.stepCaller
  | some .collector => run.stepCollector plan
  | some .dispatcher => run.stepDispatcher plan
  | some (.user id) => run.stepUser plan id
  | none =>
      let (focus, clock) := run.clock.next?
      { run with focus, clock }

/-- Steps until the run is finished, at most `fuel` of them. -/
def iterate (plan : Plan State) : Nat → Run State → Run State
  | 0, run => run
  | fuel + 1, run => if run.finished then run else iterate plan fuel (run.step plan)

end Run

end LoadTest
