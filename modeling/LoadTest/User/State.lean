import LoadTest.StepError

/-!
How far a user has come, and how it ended.
-/

namespace LoadTest

/-- Why a run, and every user still in it, was cancelled. -/
inductive CancelReason where
  | timeout
  | shutdown
  deriving DecidableEq

def CancelReason.message : CancelReason → String
  | .timeout => "cancelled by timeout"
  | .shutdown => "cancelled by shutdown"

inductive UserState where
  /-- At the step that the pointer leads to, one index for each level of nesting. -/
  | running (pointer : List Nat)
  /-- Until a moment, in nanoseconds since the start of the run. -/
  | suspended (wake : Nat)
  | completed
  | cancelled (reason : CancelReason)
  | failed (error : StepError)
  deriving DecidableEq

namespace UserState

def isTerminal : UserState → Bool
  | .running _ => false
  | .suspended _ => false
  | .completed => true
  | .cancelled _ => true
  | .failed _ => true

/-- What is said of a user that did not complete. -/
def reason? : UserState → Option String
  | .cancelled reason => some reason.message
  | .failed error => some error.message
  | _ => none

end UserState

/-- How the task of a user ended. -/
inductive Ending where
  | completed
  | cancelled (reason : CancelReason)
  | failed (error : StepError)
  /-- The user was brought down: by a hook, a condition or a feeder, or by a pause whose end cannot
  be told. -/
  | crashed
  /-- The user was stopped from outside while it was still at work. -/
  | aborted
  deriving DecidableEq

/-- How the users of a run ended. -/
structure Tally where
  spawned : Nat
  completed : Nat
  failed : Nat
  /-- Cancelled by themselves or from outside. -/
  cancelled : Nat
  /-- Due after the run was cancelled, so never spawned. -/
  unstarted : Nat
  deriving DecidableEq

namespace Tally

def zero : Tally := ⟨0, 0, 0, 0, 0⟩

def record (tally : Tally) : Ending → Tally
  | .completed => { tally with completed := tally.completed + 1 }
  | .failed _ => { tally with failed := tally.failed + 1 }
  | .crashed => { tally with failed := tally.failed + 1 }
  | .cancelled _ => { tally with cancelled := tally.cancelled + 1 }
  | .aborted => { tally with cancelled := tally.cancelled + 1 }

/-- How many endings were recorded. -/
def ended (tally : Tally) : Nat := tally.completed + tally.failed + tally.cancelled

@[simp] theorem spawned_record (tally : Tally) (ending : Ending) :
    (tally.record ending).spawned = tally.spawned := by
  cases ending <;> rfl

@[simp] theorem unstarted_record (tally : Tally) (ending : Ending) :
    (tally.record ending).unstarted = tally.unstarted := by
  cases ending <;> rfl

@[simp] theorem ended_record (tally : Tally) (ending : Ending) :
    (tally.record ending).ended = tally.ended + 1 := by
  cases ending <;> simp only [record, ended] <;> omega

end Tally

end LoadTest
