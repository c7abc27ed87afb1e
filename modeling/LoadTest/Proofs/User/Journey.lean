import LoadTest.Proofs.User.Turn
import Mathlib.Logic.Function.Iterate

/-!
One user from its start to its end.

`Surroundings` are all that is around one user: the outside it turns to, and what becomes
of the world while it waits or lets others go first.  Nothing is assumed about them: a
world may remember every request and every draw, and others may act on it meanwhile.

`Journey.step` is one turn of the user in its surroundings.  What a journey has come to is
the user as it is now, the world around it, all of its deeds, and its ending.
-/

namespace LoadTest

structure Surroundings (World : Type) extends Outside World where
  /-- Milliseconds since the start. -/
  now : World → Nat
  /-- The world when a user that waits for a millisecond gets its next turn. -/
  wait : World → Nat → World
  /-- The world when a user that let others go first gets its next turn. -/
  yield : World → World

namespace Surroundings

variable {World : Type}

/-- The world at the next turn of a user that goes on at a pace. -/
@[simp]
def pass (around : Surroundings World) (world : World) : Pace → World
  | .waiting wake => around.wait world wake
  | .yielding => around.yield world
  | _ => world

end Surroundings

/-- What a user carries from step to step. -/
structure Situation (World : Type) where
  session : Session
  random : Random
  world : World

structure Journey (World : Type) where
  user : User
  world : World
  /-- In the order they were done. -/
  deeds : List Deed
  ending : Option Ending

namespace Journey

variable {World : Type} (setting : Setting) (around : Surroundings World)

def start (user : User) (world : World) : Journey World := ⟨user, world, [], none⟩

/-- A user at the beginning of a list of steps, with any session. -/
def entering (steps : List Step) (before : Situation World) : Journey World :=
  start ⟨⟨[⟨steps, 0, .root⟩], [], before.session⟩, before.random, .ready⟩ before.world

/-- So begin the users of a run. -/
@[simp] theorem start_start (id : Nat) (random : Random) (steps : List Step)
    (world : World) :
    start (.start id random steps) world = entering steps ⟨.forUser id, random, world⟩ := rfl

/-- Goes on with what a turn came to. -/
def follow (journey : Journey World) (advance : Advance) (world : World) : Journey World where
  user := advance.user
  world := around.pass world advance.pace
  deeds := journey.deeds ++ advance.deeds
  ending := advance.pace.ending?.or journey.ending

/-- One turn, with the reason for which the run was cancelled, if it was. -/
def step (cancel : Option CancelReason) (journey : Journey World) : Journey World :=
  let (advance, world) := journey.user.turn setting around.toOutside cancel
    (around.now journey.world) journey.world
  journey.follow around advance world

def situation (journey : Journey World) : Situation World :=
  ⟨journey.user.walk.session, journey.user.random, journey.world⟩

/-- A user that pauses does at its next turn what it would do if it had not paused. -/
def awake (journey : Journey World) : Journey World :=
  if journey.user.isPausing then
    { journey with user := { journey.user with activity := .ready } }
  else journey

@[simp] theorem ending_awake (journey : Journey World) :
    journey.awake.ending = journey.ending := by
  unfold awake
  split <;> rfl

@[simp] theorem deeds_awake (journey : Journey World) :
    journey.awake.deeds = journey.deeds := by
  unfold awake
  split <;> rfl

@[simp] theorem situation_awake (journey : Journey World) :
    journey.awake.situation = journey.situation := by
  unfold awake
  split <;> rfl

theorem step_awake (cancel : Option CancelReason) (journey : Journey World) :
    journey.awake.step setting around cancel = journey.step setting around cancel := by
  obtain ⟨⟨walk, random, activity⟩, world, deeds, ending⟩ := journey
  cases activity <;> rfl

variable {setting around} in
/-- Nothing more happens to a user that has ended. -/
theorem step_of_ended {journey : Journey World} (ended : journey.user.activity = .ended)
    (cancel : Option CancelReason) : journey.step setting around cancel = journey := by
  simp [step, follow, User.turn_of_ended ended]

theorem deeds_prefix_step (cancel : Option CancelReason) (journey : Journey World) :
    journey.deeds <+: (journey.step setting around cancel).deeds :=
  List.prefix_append ..

/-- What is to be seen in a number of turns, where there is anything to be seen. -/
def observed {Sight : Type} (look : Journey World → Option Sight) (journey : Journey World)
    (turns : Nat) : List Sight :=
  (List.range turns).filterMap fun earlier => look ((step setting around none)^[earlier] journey)

theorem observed_succ {Sight : Type} (look : Journey World → Option Sight)
    (journey : Journey World) (turns : Nat) :
    journey.observed setting around look (turns + 1) =
      journey.observed setting around look turns ++
        (look ((step setting around none)^[turns] journey)).toList := by
  rw [observed, List.range_succ, List.filterMap_append]
  rfl

theorem observed_prefix {Sight : Type} (look : Journey World → Option Sight)
    (journey : Journey World) (earlier more : Nat) :
    journey.observed setting around look earlier <+:
      journey.observed setting around look (earlier + more) := by
  induction more with
  | zero => exact List.prefix_rfl
  | succ more inductionHypothesis =>
      rw [← Nat.add_assoc, observed_succ]
      exact inductionHypothesis.trans (List.prefix_append ..)

/-- After that many turns the user has ended, with all that was done until then. -/
structure EndsAfter (turns : Nat) (journey : Journey World) (deeds : List Deed)
    (situation : Situation World) (ending : Ending) : Prop where
  ending_eq : ((step setting around none)^[turns] journey).ending = some ending
  deeds_eq : ((step setting around none)^[turns] journey).deeds = deeds
  situation_eq : ((step setting around none)^[turns] journey).situation = situation

variable {setting around}
variable {turns : Nat} {journey : Journey World} {deeds : List Deed}
  {situation : Situation World} {ending : Ending}

theorem endsAfter_add_iff {later earlier : Nat} :
    EndsAfter setting around (later + earlier) journey deeds situation ending ↔
      EndsAfter setting around later ((step setting around none)^[earlier] journey) deeds situation
        ending := by
  constructor <;>
    rintro ⟨ended, done, there⟩ <;>
    exact ⟨by simpa [Function.iterate_add_apply] using ended,
      by simpa [Function.iterate_add_apply] using done,
      by simpa [Function.iterate_add_apply] using there⟩

theorem endsAfter_awake_iff :
    EndsAfter setting around turns journey.awake deeds situation ending ↔
      EndsAfter setting around turns journey deeds situation ending := by
  cases turns with
  | zero =>
      constructor
      · rintro ⟨ended, done, there⟩
        exact ⟨by simpa using ended, by simpa using done, by simpa using there⟩
      · rintro ⟨ended, done, there⟩
        exact ⟨by simpa using ended, by simpa using done, by simpa using there⟩
  | succ turns =>
      rw [endsAfter_add_iff, endsAfter_add_iff, Function.iterate_one, step_awake]

end Journey

end LoadTest
