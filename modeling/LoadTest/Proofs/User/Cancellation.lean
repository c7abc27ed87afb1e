import LoadTest.Proofs.User.Journey

/-!
A user whose run is cancelled.

Once the run is cancelled three things can befall a user, in any order: it gets a turn, the
pause it is in breaks off, and it is told to stop.  Whatever befalls it, its journey is that
of the same user without the cancellation, cut short (`CutShort`): it takes up the answer
to a request in flight and does nothing else.
-/

namespace LoadTest

def User.isAwaiting (user : User) : Bool :=
  match user.activity with
  | .awaiting .. => true
  | _ => false

namespace Journey

/-- What befalls a user of a cancelled run. -/
inductive Late (World : Type) where
  | turn
  /-- Its pause breaks off; then the world is not that of the end of the pause. -/
  | roused (world : World)
  /-- It is told to stop. -/
  | told

def Late.isTurn {World : Type} : Late World → Bool
  | .turn => true
  | _ => false

section

variable {World : Type} (setting : Setting) (around : Surroundings World) (reason : CancelReason)

def undergo (journey : Journey World) : Late World → Journey World
  | .turn => journey.step setting around (some reason)
  | .roused world => if journey.user.isPausing then { journey with world } else journey
  | .told => { journey with user := journey.user.abort }

/-- How a user can end that was somewhere on its way when the run was cancelled. -/
inductive EndsCut (there : Journey World) (events : List (Late World)) : Ending → Prop where
  | before {ending} : there.ending = some ending → EndsCut there events ending
  | in_flight {error} :
      there.ending = none → there.user.isAwaiting = true →
      (there.step setting around none).ending = some (.failed error) →
      EndsCut there events (.failed error)
  | told : there.ending = none → .told ∈ events → EndsCut there events .aborted
  | cancelled :
      there.ending = none →
      (there.user.isAwaiting = true → (there.step setting around none).ending = none) →
      EndsCut there events (.cancelled reason)

/-- What became of a journey that was cut short. -/
structure CutShort (there : Journey World) (events : List (Late World)) (later : Journey World) :
    Prop where
  /-- The user would have done the same without the cancellation, and maybe more. -/
  deeds_initial : ∀ turns, events.countP Late.isTurn ≤ turns →
    later.deeds <+: ((step setting around none)^[turns] there).deeds
  /-- It begins no step and no iteration, -/
  frames_eq : later.user.walk.frames = there.user.walk.frames
  /-- draws for no pause, -/
  random_eq : later.user.random = there.user.random
  /-- and does nothing but record what its request in flight came to. -/
  deeds_eq : ∃ metrics : List Metric, later.deeds = there.deeds ++ metrics.map .recorded ∧
    (there.user.isAwaiting = false → metrics = [])
  /-- It ends at its second turn at the latest. -/
  ends : 2 ≤ events.countP Late.isTurn → ∃ ending, later.ending = some ending
  ends_cut : ∀ ending, later.ending = some ending →
    EndsCut setting around reason there events ending

end

section

variable {World : Type} {setting : Setting} {around : Surroundings World} {reason : CancelReason}
  {journey : Journey World} {events : List (Late World)}

theorem deeds_prefix_iterate (journey : Journey World) (turns : Nat) :
    journey.deeds <+: ((step setting around none)^[turns] journey).deeds := by
  induction turns with
  | zero => exact List.prefix_rfl
  | succ turns inductionHypothesis =>
      rw [Function.iterate_succ_apply']
      exact inductionHypothesis.trans (deeds_prefix_step ..)

/-- Nothing befalls a user that has ended. -/
theorem undergo_of_ended (ended : journey.user.activity = .ended) (events : List (Late World)) :
    events.foldl (undergo setting around reason) journey = journey := by
  induction events with
  | nil => rfl
  | cons event events inductionHypothesis =>
      have stays : journey.undergo setting around reason event = journey := by
        cases event with
        | turn => exact step_of_ended ended _
        | roused world => simp [undergo, User.isPausing, ended]
        | told => simp [undergo, User.abort, User.hasEnded, ended]
      rw [List.foldl_cons, stays, inductionHypothesis]

/-- What became of a user that was neither waiting for an answer nor ended. -/
structure Stops (reason : CancelReason) (journey : Journey World) (events : List (Late World))
    (later : Journey World) : Prop where
  walk_eq : later.user.walk = journey.user.walk
  random_eq : later.user.random = journey.user.random
  deeds_eq : later.deeds = journey.deeds
  ends : 1 ≤ events.countP Late.isTurn → ∃ ending, later.ending = some ending
  ends_cut : ∀ ending, later.ending = some ending →
    ending = .cancelled reason ∧ journey.user.activity ≠ .aborting ∨
      ending = .aborted ∧ (journey.user.activity = .aborting ∨ .told ∈ events)

theorem Stops.cons {event : Late World} {later : Journey World} {activity : Activity}
    {world : World}
    (stops : Stops reason { journey with user := { journey.user with activity }, world } events later)
    (noTurn : event.isTurn = false)
    (kept : activity = journey.user.activity ∨ activity = .aborting ∧ event = .told) :
    Stops reason journey (event :: events) later where
  walk_eq := stops.walk_eq
  random_eq := stops.random_eq
  deeds_eq := stops.deeds_eq
  ends turns := stops.ends (by simpa [noTurn] using turns)
  ends_cut ending ended := by
    obtain rfl | ⟨rfl, rfl⟩ := kept
    · exact (stops.ends_cut ending ended).imp_right
        (.imp_right (.imp_right (List.mem_cons_of_mem _)))
    · obtain ⟨_, working⟩ | ⟨aborted, _⟩ := stops.ends_cut ending ended
      · exact absurd rfl working
      · exact .inr ⟨aborted, .inr (List.mem_cons_self ..)⟩

/-- A turn ends a user that is not waiting for an answer, and does nothing else. -/
theorem step_cancelled (working : journey.user.activity ≠ .ended)
    (idle : journey.user.isAwaiting = false) :
    ∃ ending,
      (ending = .cancelled reason ∧ journey.user.activity ≠ .aborting ∨
        ending = .aborted ∧ journey.user.activity = .aborting) ∧
      journey.step setting around (some reason) =
        { journey with
          user := { journey.user with activity := .ended }
          ending := some ending } := by
  obtain ⟨⟨walk, random, activity⟩, world, deeds, ending⟩ := journey
  cases activity with
  | ready =>
      exact ⟨_, .inl ⟨rfl, Activity.noConfusion⟩,
        by simp [step, User.turn, User.advance, User.finish, follow]⟩
  | pausing wake =>
      exact ⟨_, .inl ⟨rfl, Activity.noConfusion⟩,
        by simp [step, User.turn, User.advance, User.finish, follow]⟩
  | awaiting call outcome since wake => cases idle
  | aborting => exact ⟨_, .inr ⟨rfl, rfl⟩, by simp [step, User.turn, User.finish, follow]⟩
  | ended => exact absurd rfl working

/-- A user that is not waiting for an answer stops where it is. -/
theorem stops_undergo (underway : journey.ending = none) (working : journey.user.activity ≠ .ended)
    (idle : journey.user.isAwaiting = false) :
    Stops reason journey events (events.foldl (undergo setting around reason) journey) := by
  induction events generalizing journey with
  | nil =>
      refine ⟨rfl, rfl, rfl, by simp, fun ending ended => ?_⟩
      rw [List.foldl_nil, underway] at ended
      cases ended
  | cons event events inductionHypothesis =>
      rw [List.foldl_cons]
      cases event with
      | turn =>
          obtain ⟨fate, allowed, stepped⟩ := step_cancelled working idle
          rw [undergo, stepped, undergo_of_ended rfl]
          refine ⟨rfl, rfl, rfl, fun _ => ⟨fate, rfl⟩, fun ending ended => ?_⟩
          cases ended
          exact allowed.imp_right (.imp_right .inl)
      | roused world =>
          rw [undergo]
          split
          next pausing =>
            have stops : Stops reason { journey with world } events _ :=
              inductionHypothesis underway working idle
            exact stops.cons rfl (.inl rfl)
          next => exact (inductionHypothesis underway working idle).cons rfl (.inl rfl)
      | told =>
          rw [undergo, User.abort_of_working working]
          have stops : Stops reason
              { journey with user := { journey.user with activity := .aborting } } events _ :=
            inductionHypothesis underway nofun rfl
          exact stops.cons rfl (.inr ⟨rfl, rfl⟩)

/-- What a turn brings to a user that was waiting for an answer. -/
structure Answers (journey answered : Journey World) : Prop where
  frames_eq : answered.user.walk.frames = journey.user.walk.frames
  random_eq : answered.user.random = journey.user.random
  deeds_eq : ∃ metrics : List Metric, answered.deeds = journey.deeds ++ metrics.map .recorded
  fate : (∃ error, answered.ending = some (.failed error) ∧ answered.user.activity = .ended) ∨
    answered.ending = none ∧ answered.user.activity = .ready

/-- Taking up an answer does not depend on whether the run was cancelled. -/
theorem step_in_flight (inFlight : journey.user.isAwaiting = true)
    (cancel : Option CancelReason) :
    journey.step setting around cancel = journey.step setting around none := by
  obtain ⟨⟨walk, random, activity⟩, world, deeds, ending⟩ := journey
  cases activity <;> cases inFlight
  rfl

theorem answers_step (inFlight : journey.user.isAwaiting = true) (underway : journey.ending = none) :
    Answers journey (journey.step setting around none) := by
  obtain ⟨⟨walk, random, activity⟩, world, deeds, ending⟩ := journey
  cases activity <;> cases inFlight
  next call outcome since wake =>
    cases underway
    let result := call.conclude walk.session (.ofMillis (around.now world - since)) outcome
    refine ⟨?_, ?_, ⟨result.metric.toList, ?_⟩, ?_⟩
    · simp [step, User.turn, follow]
    · simp [step, User.turn, follow]
    · simp [step, User.turn, follow, result]
    · obtain ⟨error, failed, ended⟩ | ⟨onward, ready⟩ := User.settle_cases _
      · exact .inl ⟨error, by simp [step, User.turn, follow, failed], ended⟩
      · exact .inr ⟨by simp [step, User.turn, follow, onward], ready⟩

theorem CutShort.of_stops {later : Journey World} (underway : journey.ending = none)
    (stops : Stops reason journey events later)
    (calm : journey.user.isAwaiting = false) (fresh : journey.user.activity ≠ .aborting) :
    CutShort setting around reason journey events later where
  deeds_initial turns _ := stops.deeds_eq ▸ deeds_prefix_iterate ..
  frames_eq := congrArg Walk.frames stops.walk_eq
  random_eq := stops.random_eq
  deeds_eq := ⟨[], by simpa using stops.deeds_eq, fun _ => rfl⟩
  ends turns := stops.ends (Nat.le_of_succ_le turns)
  ends_cut ending ended := by
    obtain ⟨rfl, _⟩ | ⟨rfl, aborting | told⟩ := stops.ends_cut ending ended
    · exact .cancelled underway (by simp [calm])
    · exact absurd aborting fresh
    · exact .told underway told

theorem CutShort.of_ended {ending : Ending} (finished : journey.ending = some ending) :
    CutShort setting around reason journey events journey where
  deeds_initial turns _ := deeds_prefix_iterate ..
  frames_eq := rfl
  random_eq := rfl
  deeds_eq := ⟨[], by simp, fun _ => rfl⟩
  ends _ := ⟨ending, finished⟩
  ends_cut _ fate := .before fate

/-- The answer comes first, and then the user stops. -/
theorem CutShort.answered {later : Journey World} (inFlight : journey.user.isAwaiting = true)
    (underway : journey.ending = none)
    (onward : (journey.step setting around none).ending = none)
    (stops : Stops reason (journey.step setting around none) events later)
    (fresh : (journey.step setting around none).user.activity = .ready) :
    CutShort setting around reason journey (.turn :: events) later where
  deeds_initial turns enough := by
    obtain ⟨fewer, rfl⟩ : ∃ fewer, turns = fewer + 1 :=
      ⟨turns - 1, by rw [List.countP_cons_of_pos rfl] at enough; omega⟩
    rw [stops.deeds_eq, Function.iterate_succ_apply]
    exact deeds_prefix_iterate ..
  frames_eq := by rw [stops.walk_eq, (answers_step inFlight underway).frames_eq]
  random_eq := by rw [stops.random_eq, (answers_step inFlight underway).random_eq]
  deeds_eq := by
    obtain ⟨metrics, deeds_eq⟩ := (answers_step inFlight underway).deeds_eq
    exact ⟨metrics, by rw [stops.deeds_eq, deeds_eq], by simp [inFlight]⟩
  ends turns := stops.ends (by rw [List.countP_cons_of_pos rfl] at turns; omega)
  ends_cut ending ended := by
    obtain ⟨rfl, _⟩ | ⟨rfl, aborting | told⟩ := stops.ends_cut ending ended
    · exact .cancelled underway (fun _ => onward)
    · cases fresh.symm.trans aborting
    · exact .told underway (List.mem_cons_of_mem _ told)

/-- The answer ends the user. -/
theorem CutShort.failed {error : StepError} (inFlight : journey.user.isAwaiting = true)
    (underway : journey.ending = none)
    (failed : (journey.step setting around none).ending = some (.failed error)) :
    CutShort setting around reason journey (.turn :: events)
      (journey.step setting around none) where
  deeds_initial turns enough := by
    obtain ⟨fewer, rfl⟩ : ∃ fewer, turns = fewer + 1 :=
      ⟨turns - 1, by rw [List.countP_cons_of_pos rfl] at enough; omega⟩
    rw [Function.iterate_succ_apply]
    exact deeds_prefix_iterate ..
  frames_eq := (answers_step inFlight underway).frames_eq
  random_eq := (answers_step inFlight underway).random_eq
  deeds_eq := by
    obtain ⟨metrics, deeds_eq⟩ := (answers_step inFlight underway).deeds_eq
    exact ⟨metrics, deeds_eq, by simp [inFlight]⟩
  ends _ := ⟨_, failed⟩
  ends_cut ending ended := by
    cases failed.symm.trans ended
    exact .in_flight underway inFlight failed

/-- The user is told to stop while it waits for the answer. -/
theorem CutShort.told {later : Journey World} (underway : journey.ending = none)
    (stops : Stops reason { journey with user := { journey.user with activity := .aborting } } events
      later) :
    CutShort setting around reason journey (.told :: events) later where
  deeds_initial turns _ := stops.deeds_eq ▸ deeds_prefix_iterate journey turns
  frames_eq := congrArg Walk.frames stops.walk_eq
  random_eq := stops.random_eq
  deeds_eq := ⟨[], by simpa using stops.deeds_eq, fun _ => rfl⟩
  ends turns := stops.ends (Nat.le_of_succ_le turns)
  ends_cut ending ended := by
    obtain ⟨_, working⟩ | ⟨rfl, _⟩ := stops.ends_cut ending ended
    · exact absurd rfl working
    · exact .told underway (List.mem_cons_self ..)

theorem CutShort.cons_roused {later : Journey World} (world : World)
    (cut : CutShort setting around reason journey events later) :
    CutShort setting around reason journey (.roused world :: events) later where
  deeds_initial := cut.deeds_initial
  frames_eq := cut.frames_eq
  random_eq := cut.random_eq
  deeds_eq := cut.deeds_eq
  ends := cut.ends
  ends_cut ending ended := by
    cases cut.ends_cut ending ended with
    | before finished => exact .before finished
    | in_flight underway inFlight failed => exact .in_flight underway inFlight failed
    | told underway told => exact .told underway (List.mem_cons_of_mem _ told)
    | cancelled underway onward => exact .cancelled underway onward

theorem cutShort_in_flight (inFlight : journey.user.isAwaiting = true)
    (underway : journey.ending = none) (events : List (Late World)) :
    CutShort setting around reason journey events
      (events.foldl (undergo setting around reason) journey) := by
  induction events with
  | nil =>
      refine ⟨fun turns _ => deeds_prefix_iterate .., rfl, rfl, ⟨[], by simp, fun _ => rfl⟩,
        nofun, fun ending ended => ?_⟩
      rw [List.foldl_nil, underway] at ended
      cases ended
  | cons event events inductionHypothesis =>
      rw [List.foldl_cons]
      cases event with
      | turn =>
          rw [undergo, step_in_flight inFlight]
          obtain ⟨error, failed, ended⟩ | ⟨onward, ready⟩ := (answers_step inFlight underway).fate
          · rw [undergo_of_ended ended]
            exact .failed inFlight underway failed
          · refine .answered inFlight underway onward (stops_undergo onward ?_ ?_) ready
            · simp [ready]
            · simp [User.isAwaiting, ready]
      | roused world =>
          have waking : journey.user.isPausing = false := by
            revert inFlight
            unfold User.isAwaiting User.isPausing
            cases journey.user.activity <;> simp
          rw [undergo, if_neg (by simp [waking])]
          exact .cons_roused world inductionHypothesis
      | told =>
          have working : journey.user.activity ≠ .ended := fun ended => by
            simp [User.isAwaiting, ended] at inFlight
          rw [undergo, User.abort_of_working working]
          exact .told underway (stops_undergo underway nofun rfl)

/-- A user that nobody told to stop, and that has ended exactly if its journey has. -/
structure Undisturbed (journey : Journey World) : Prop where
  fresh : journey.user.activity ≠ .aborting
  ended_iff : journey.user.activity = .ended ↔ journey.ending ≠ none

theorem undisturbed_entering (steps : List Step) (before : Situation World) :
    Undisturbed (.entering steps before) := ⟨nofun, by simp [entering, start]⟩

theorem Undisturbed.step (undisturbed : Undisturbed journey) :
    Undisturbed (journey.step setting around none) := by
  by_cases ended : journey.user.activity = .ended
  · rw [step_of_ended ended]
    exact undisturbed
  · have underway : journey.ending = none := by
      by_contra finished
      exact ended (undisturbed.ended_iff.2 finished)
    have coherent : (journey.user.turn setting around.toOutside none (around.now journey.world)
        journey.world).1.Coherent := User.turn_coherent ended
    exact ⟨coherent.fresh, by simp [Journey.step, follow, underway, coherent.ended_iff]⟩

theorem undisturbed_iterate (undisturbed : Undisturbed journey) (turns : Nat) :
    Undisturbed ((Journey.step setting around none)^[turns] journey) := by
  induction turns with
  | zero => exact undisturbed
  | succ turns inductionHypothesis =>
      rw [Function.iterate_succ_apply']
      exact inductionHypothesis.step

theorem Undisturbed.cutShort (undisturbed : Undisturbed journey) (events : List (Late World)) :
    CutShort setting around reason journey events
      (events.foldl (undergo setting around reason) journey) := by
  cases finished : journey.ending with
  | some ending =>
      have ended : journey.user.activity = .ended := undisturbed.ended_iff.2 (by simp [finished])
      rw [undergo_of_ended ended]
      exact .of_ended finished
  | none =>
      cases inFlight : journey.user.isAwaiting with
      | true => exact cutShort_in_flight inFlight finished events
      | false =>
          have working : journey.user.activity ≠ .ended :=
            fun ended => undisturbed.ended_iff.1 ended finished
          exact .of_stops finished (stops_undergo finished working inFlight) inFlight
            undisturbed.fresh

end

/-- Cancelling a run only truncates what its users do, whenever it happens on their way. -/
theorem cutShort_undergo {World : Type} (setting : Setting) (around : Surroundings World)
    (steps : List Step) (before : Situation World) (moment : Nat) (reason : CancelReason)
    (events : List (Late World)) :
    let there := (step setting around none)^[moment] (.entering steps before)
    CutShort setting around reason there events
      (events.foldl (undergo setting around reason) there) :=
  (undisturbed_iterate (undisturbed_entering steps before) moment).cutShort events

end Journey

end LoadTest
