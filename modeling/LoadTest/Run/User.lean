import LoadTest.Run.Clock
import LoadTest.Run.Transport
import LoadTest.User.Action

/-!
A user of a run, turn by turn.

`User.turn` says what a user does when its turn comes: it ends if the run was cancelled or
if it was told to stop, takes up an answer it waited for, or takes one more turn of its
walk.  What it needs from the outside it gets from an `Outside`, and what others can see of
its turn is a list of deeds.  No time passes within a turn.
-/

namespace LoadTest

/-- What all users of a run have in common. -/
structure Setting where
  onFailure : FailurePolicy
  protocol : Protocol

/-- The transport and the feeders as one user sees them. -/
structure Outside (World : Type) where
  send : World → PreparedRequest → Reply × World
  /-- A draw that gives nothing at all crashes the user. -/
  draw : World → String → Option (Except StepError Record) × World

inductive Activity where
  /-- The user can take its next turn. -/
  | ready
  /-- Until a millisecond. -/
  | pausing (wake : Nat)
  /-- Waiting since a millisecond and until another for what a request came to. -/
  | awaiting (call : Call) (outcome : Except TransportError Response) (since wake : Nat)
  /-- Told from outside to stop. -/
  | aborting
  | ended

structure User where
  walk : Walk
  random : Random
  activity : Activity

/-- What a user does that others can see. -/
inductive Deed where
  | sent (request : PreparedRequest)
  | called (hook : String) (session : Session)
  | drew (feeder : String) (drawn : Option (Except StepError Record))
  | recorded (metric : Metric)

/-- How a user goes on after a turn. -/
inductive Pace where
  | onward
  /-- The others go first. -/
  | yielding
  /-- Not before a millisecond. -/
  | waiting (wake : Nat)
  | finished (ending : Ending)
  /-- It ended before. -/
  | idle

/-- What a turn of a user comes to. -/
structure Advance where
  user : User
  deeds : List Deed
  pace : Pace

namespace User

def start (id : Nat) (random : Random) (steps : List Step) : User :=
  ⟨.start id steps, random, .ready⟩

def isPausing (user : User) : Bool :=
  match user.activity with
  | .pausing _ => true
  | _ => false

def hasEnded (user : User) : Bool :=
  match user.activity with
  | .ended => true
  | _ => false

/-- Tells a user to stop unless it has ended. -/
def abort (user : User) : User :=
  if user.hasEnded then user else { user with activity := .aborting }

def finish (user : User) (deeds : List Deed) (ending : Ending) : Advance :=
  ⟨{ user with activity := .ended }, deeds, .finished ending⟩

/-- Takes up what a step came to: the user goes on or ends. -/
def settle (policy : FailurePolicy) (user : User) (walk : Walk) (deeds : List Deed)
    (result : StepResult) : Advance :=
  let user := { user with walk := { walk with session := result.session }, activity := .ready }
  let deeds := deeds ++ result.metric.toList.map .recorded
  match policy.fatal? result.error with
  | some error => user.finish deeds (.failed error)
  | none => ⟨user, deeds, .onward⟩

def pause (now : Nat) (user : User) (walk : Walk) (pause : Pause) : Advance :=
  let (duration, random) := pause.duration user.random
  let user := { user with walk, random }
  if endsInTime now duration then
    match wakeAfter? now duration with
    | none => ⟨user, [], .onward⟩
    | some wake => ⟨{ user with activity := .pausing wake }, [], .waiting wake⟩
  else user.finish [] .crashed

def exec (user : User) (walk : Walk) (hook : Hook) : Advance :=
  let deeds := [.called hook.label walk.session]
  match hook.apply walk.session with
  | some session => ⟨{ user with walk := { walk with session } }, deeds, .onward⟩
  | none => { user with walk }.finish deeds .crashed

variable {World : Type}

def send (setting : Setting) (outside : Outside World) (now : Nat) (world : World) (user : User)
    (walk : Walk) (request : Request) : Advance × World :=
  match walk.call setting.protocol request with
  | .error result => (user.settle setting.onFailure walk [] result, world)
  | .ok call =>
      let (reply, world) := outside.send world call.prepared
      let deeds := [.sent call.prepared]
      match wakeAfter? now reply.delay with
      | none =>
          (user.settle setting.onFailure walk deeds
            (call.conclude walk.session .zero reply.outcome), world)
      | some wake =>
          (⟨{ user with walk, activity := .awaiting call reply.outcome now wake }, deeds,
            .waiting wake⟩, world)

def feed (setting : Setting) (outside : Outside World) (world : World) (user : User) (walk : Walk)
    (feeder : String) : Advance × World :=
  match outside.draw world feeder with
  | (some drawn, world) =>
      (user.settle setting.onFailure walk [.drew feeder (some drawn)] (walk.fed feeder drawn),
        world)
  | (none, world) => ({ user with walk }.finish [.drew feeder none] .crashed, world)

/-- One turn of a user that neither waits for an answer nor was told to stop. -/
def advance (setting : Setting) (outside : Outside World) (cancel : Option CancelReason)
    (now : Nat) (world : World) (user : User) : Advance × World :=
  match cancel with
  | some reason => (user.finish [] (.cancelled reason), world)
  | none =>
      match user.walk.turn with
      | .finished => (user.finish [] .completed, world)
      | .moved walk => (⟨{ user with walk }, [], .onward⟩, world)
      | .repeated walk => (⟨{ user with walk }, [], .yielding⟩, world)
      | .request request walk => user.send setting outside now world walk request
      | .pause pause walk => (user.pause now walk pause, world)
      | .feed feeder walk => user.feed setting outside world walk feeder
      | .exec hook walk => (user.exec walk hook, world)
      | .crashed walk => ({ user with walk }.finish [] .crashed, world)

def turn (setting : Setting) (outside : Outside World) (cancel : Option CancelReason) (now : Nat)
    (world : World) (user : User) : Advance × World :=
  match user.activity with
  | .ready => user.advance setting outside cancel now world
  | .pausing _ => { user with activity := .ready }.advance setting outside cancel now world
  | .awaiting call outcome since _ =>
      let elapsed := Duration.ofMillis (now - since)
      (user.settle setting.onFailure user.walk []
        (call.conclude user.walk.session elapsed outcome), world)
  | .aborting => (user.finish [] .aborted, world)
  | .ended => (⟨user, [], .idle⟩, world)

end User

end LoadTest
