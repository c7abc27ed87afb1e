import LoadTest.Run.Clock
import LoadTest.User.State

/-!
The task that spawns the users of a run and waits for them to end.

It spawns as long as nothing cancels the run.  After a cancellation it gives the users
some time to end on their own, stops those that are left, and waits for all of them.
`Dispatch.handle` says what each event does; `Dispatch.next?` which of the events that are
due comes first.
-/

namespace LoadTest

inductive Stage where
  | spawning
  /-- Waiting for the users of a cancelled run, up to a millisecond. -/
  | grace (wake : Nat) (reason : CancelReason)
  /-- Waiting for users that were stopped. -/
  | draining (reason : CancelReason)
  | finished (reason : Option CancelReason)
  deriving DecidableEq

structure Dispatch where
  /-- Offsets of the users not yet spawned. -/
  pending : List Duration
  /-- The number of the next user. -/
  nextId : Nat
  /-- How many spawned users were not yet waited for. -/
  unjoined : Nat
  tally : Tally
  stage : Stage
  deriving DecidableEq

namespace Dispatch

inductive Event where
  /-- Nothing is left to be done. -/
  | finished
  /-- The run was cancelled, and its users have until a millisecond to end. -/
  | cancelled (reason : CancelReason) (wake : Nat)
  /-- The offsets up to a moment, in nanoseconds, are due. -/
  | due (now : Nat)
  | joined (ending : Ending)
  | graceOver
  deriving DecidableEq

def start (offsets : List Duration) : Dispatch := ⟨offsets, 0, 0, .zero, .spawning⟩

def dueCount (now : Nat) (pending : List Duration) : Nat :=
  (pending.takeWhile (·.nanos ≤ now)).length

def spawn (dispatch : Dispatch) (count : Nat) : Dispatch :=
  { dispatch with
    pending := dispatch.pending.drop count
    nextId := dispatch.nextId + count
    unjoined := dispatch.unjoined + count
    tally := { dispatch.tally with spawned := dispatch.nextId + count } }

/-- The reason a run was cancelled for, if it was. -/
def reason? (dispatch : Dispatch) : Option CancelReason :=
  match dispatch.stage with
  | .spawning => none
  | .grace _ reason => some reason
  | .draining reason => some reason
  | .finished reason => reason

def isOver (dispatch : Dispatch) : Bool :=
  match dispatch.stage with
  | .finished _ => true
  | _ => false

def isSpawning (dispatch : Dispatch) : Bool := dispatch.stage == .spawning

/-- Stops spawning; what was not spawned remains so. -/
def close (dispatch : Dispatch) (stage : Stage) : Dispatch :=
  { dispatch with
    pending := []
    tally := { dispatch.tally with unstarted := dispatch.pending.length }
    stage }

def join (dispatch : Dispatch) (ending : Ending) : Dispatch :=
  { dispatch with
    unjoined := dispatch.unjoined - 1
    tally := dispatch.tally.record ending }

def handle (dispatch : Dispatch) (event : Event) : Dispatch :=
  match event, dispatch.stage with
  | .joined ending, _ => dispatch.join ending
  | .due now, .spawning => dispatch.spawn (dueCount now dispatch.pending)
  | .cancelled reason wake, .spawning => dispatch.close (.grace wake reason)
  | .finished, .spawning => dispatch.close (.finished none)
  | .finished, .grace _ reason => { dispatch with stage := .finished (some reason) }
  | .finished, .draining reason => { dispatch with stage := .finished (some reason) }
  | .graceOver, .grace _ reason => { dispatch with stage := .draining reason }
  | _, _ => dispatch

/-- What the dispatcher can see when it is its turn. -/
structure View where
  /-- Milliseconds since the start. -/
  now : Nat
  cancel : Option CancelReason
  /-- The millisecond at which the run is cancelled on its own. -/
  deadline : Option Nat
  /-- How long users may take to end after a cancellation, in milliseconds. -/
  grace : Nat
  /-- The ending of a user not yet waited for. -/
  ended : Option Ending

/-- The millisecond at which a user is due. -/
def dueAt (offset : Duration) : Nat := millisecondOf offset.nanos

/-- The event to be handled next.  As long as users are spawned it is cancellation before the
deadline, the deadline before spawning, and spawning before endings of users.  After that no order
is settled, and endings come first here. -/
def next? (dispatch : Dispatch) (view : View) : Option Event :=
  match dispatch.stage with
  | .spawning =>
      if dispatch.pending.isEmpty && dispatch.unjoined == 0 then some .finished
      else
        match view.cancel with
        | some reason => some (.cancelled reason (view.now + view.grace))
        | none =>
            if view.deadline.any (· ≤ view.now) then
              some (.cancelled .timeout (view.now + view.grace))
            else if dispatch.pending.head?.any (dueAt · ≤ view.now) then
              some (.due (nanosPerMilli * view.now))
            else view.ended.map .joined
  | .grace wake _ =>
      match view.ended with
      | some ending => some (.joined ending)
      | none =>
          if dispatch.unjoined = 0 then some .finished
          else if wake ≤ view.now then some .graceOver
          else none
  | .draining _ =>
      match view.ended with
      | some ending => some (.joined ending)
      | none => if dispatch.unjoined = 0 then some .finished else none
  | .finished _ => none

/-- The milliseconds at which the dispatcher wants to be woken, in the order it asks for them. -/
def alarms (dispatch : Dispatch) (view : View) : List Nat :=
  match dispatch.stage with
  | .spawning => view.deadline.toList ++ (dispatch.pending.head?.map dueAt).toList
  | .grace wake _ => [wake]
  | _ => []

end Dispatch

end LoadTest
