import LoadTest.Duration

/-!
A virtual clock and the order in which tasks get their turns.

Tasks that can go on stand in a queue.  A task that only lets the others go first is held
back until the queue is empty or a round of turns is over; those held back last return
first.  The clock stands still as long as any task can go on, and then jumps to the next
alarm.  Alarms ring at whole milliseconds, those of one millisecond in the order in which
they were set.
-/

namespace LoadTest

/-- The first whole millisecond that is not before a moment in nanoseconds. -/
def millisecondOf (nanos : Nat) : Nat := (nanosPerMilli - 1 + nanos) / nanosPerMilli

/-- The first second that lies beyond the end of time. -/
def endOfTime : Nat := 0x8000000000000000

/-- Whether the end of a duration from now can be told at all. -/
def endsInTime (now : Nat) (duration : Duration) : Bool :=
  nanosPerMilli * now + duration.nanos < endOfTime * nanosPerSecond

/-- The millisecond at which a duration from now is over, unless it is over at once. -/
def wakeAfter? (now : Nat) (duration : Duration) : Option Nat :=
  let wake := millisecondOf (nanosPerMilli * now + duration.nanos)
  if wake ≤ now then none else some wake

inductive Task where
  /-- Whoever started the run. -/
  | caller
  | collector
  | dispatcher
  | user (id : Nat)
  deriving DecidableEq

structure Clock where
  /-- Milliseconds since the start. -/
  now : Nat
  /-- Tasks that can go on, in order. -/
  queue : List Task
  /-- Tasks that let the others go first, last one first. -/
  heldBack : List Task
  /-- Alarms in the order they ring. -/
  alarms : List (Nat × Task)
  /-- Turns left in this round. -/
  turns : Nat
  /-- Whether the caller can go on.  It gets its turn before all others of a round. -/
  callerReady : Bool

namespace Clock

/-- How many turns a round has. -/
def roundLength : Nat := 61

def start (tasks : List Task) : Clock := ⟨0, tasks, [], [], roundLength, true⟩

def nowNanos (clock : Clock) : Nat := nanosPerMilli * clock.now

/-- Lets a task go on. -/
def wake (clock : Clock) (task : Task) : Clock :=
  match task with
  | .caller => { clock with callerReady := true }
  | task =>
      if clock.queue.contains task then clock else { clock with queue := clock.queue ++ [task] }

/-- Lets a task go on after the others had their turns. -/
def holdBack (clock : Clock) (task : Task) : Clock :=
  { clock with heldBack := task :: clock.heldBack }

def insertAlarm (time : Nat) (task : Task) : List (Nat × Task) → List (Nat × Task)
  | [] => [(time, task)]
  | alarm :: rest =>
      if alarm.1 ≤ time then alarm :: insertAlarm time task rest
      else (time, task) :: alarm :: rest

/-- Sets an alarm for a task. -/
def setAlarm (clock : Clock) (time : Nat) (task : Task) : Clock :=
  { clock with alarms := insertAlarm time task clock.alarms }

/-- Takes away all alarms of a task. -/
def clearAlarms (clock : Clock) (task : Task) : Clock :=
  { clock with alarms := clock.alarms.filter (·.2 != task) }

def hasAlarm (clock : Clock) (task : Task) : Bool := clock.alarms.any (·.2 == task)

/-- Rings every alarm whose time has come. -/
def ring (clock : Clock) : Clock :=
  let due := clock.alarms.takeWhile (·.1 ≤ clock.now)
  let later := clock.alarms.dropWhile (·.1 ≤ clock.now)
  due.foldl (fun clock alarm => clock.wake alarm.2) { clock with alarms := later }

/-- Whether any task can go on at this moment. -/
def isBusy (clock : Clock) : Bool :=
  clock.callerReady || !clock.queue.isEmpty || !clock.heldBack.isEmpty

/-- Moves the clock to the next alarm if nothing else can happen. -/
def advance (clock : Clock) : Clock :=
  if clock.isBusy then clock
  else
    match clock.alarms with
    | [] => clock
    | alarm :: _ => { clock with now := max clock.now alarm.1 }

/-- Ends a round: time passes if it can, alarms ring, and those held back return. -/
def endRound (clock : Clock) : Clock :=
  let clock := clock.advance.ring
  let returning := clock.heldBack
  returning.foldl wake { clock with heldBack := [], turns := roundLength }

/-- The task whose turn it is.  The caller goes first in a round. -/
def next? (clock : Clock) : Option Task × Clock :=
  if clock.callerReady && clock.turns == roundLength then
    (some .caller, { clock with callerReady := false })
  else
    match clock.turns, clock.queue with
    | turns + 1, task :: rest => (some task, { clock with queue := rest, turns })
    | _, _ => (none, clock.endRound)

end Clock

end LoadTest
