import LoadTest.Proofs.User.Accounting
import LoadTest.Proofs.User.Notes
import LoadTest.Proofs.User.Scoping

/-!
Where the steps of a user come from.

The frames of a walk hold steps of its scenario only (`Nested.steps_inside`), so whatever a user
begins, and the request it waits for, is somewhere in the scenario (`User.Belongs`).  Every turn
keeps it so, and so does being told to stop.
-/

namespace LoadTest

variable {root : List Step}

/-- The steps inside a step are inside all that the step is inside of. -/
theorem Step.Inside.child {inner outer : Step} {steps : List Step} (inside : outer.Inside steps)
    (among : inner ∈ outer.children) : inner.Inside steps := by
  induction inside with
  | here found => exact .deeper found (.here among)
  | deeper found _ inductionHypothesis => exact .deeper found inductionHypothesis

namespace Nested

variable {frames : List Frame} {groups : List String} {frame : Frame}

/-- The frames of a walk hold what is inside its scenario. -/
theorem steps_inside (nested : Nested root frames groups) (among : frame ∈ frames) :
    ∀ step ∈ frame.steps, step.Inside root := by
  induction nested generalizing frame with
  | left => cases among
  | root same =>
      obtain rfl := List.mem_singleton.1 among
      intro step found
      exact .here (same ▸ found)
  | inside _ _ there same _ inductionHypothesis =>
      obtain rfl | further := List.mem_cons.1 among
      · intro step found
        have around := inductionHypothesis (List.mem_cons_self ..) _ (List.mem_of_getElem? there)
        exact around.child (same ▸ found)
      · exact inductionHypothesis further

/-- A loop that a walk is in is inside its scenario. -/
theorem loop_inside (nested : Nested root frames groups) (among : frame ∈ frames)
    {kind : LoopKind} {counter : String} {iteration : UInt64} {shadowed : Option Json}
    (enclosed : frame.enclosure = .loop kind counter iteration shadowed) :
    (Step.loop kind counter frame.steps).Inside root := by
  induction nested generalizing frame with
  | left => cases among
  | root _ outermost =>
      obtain rfl := List.mem_singleton.1 among
      cases outermost.symm.trans enclosed
  | inside nested _ there same opens inductionHypothesis =>
      obtain rfl | further := List.mem_cons.1 among
      · rw [enclosed] at opens
        cases opens with
        | loop =>
            rw [same]
            exact nested.steps_inside (List.mem_cons_self ..) _ (List.mem_of_getElem? there)
      · exact inductionHypothesis further enclosed

end Nested

theorem Walk.Within.step_inside {walk : Walk} {step : Step} (within : walk.Within root)
    (begins : walk.step? = some step) : step.Inside root := by
  obtain ⟨frames, groups, session⟩ := walk
  cases frames with
  | nil => cases begins
  | cons frame outer =>
      exact Nested.steps_inside within (List.mem_cons_self ..) step (List.mem_of_getElem? begins)

/-- A user is within a scenario, and so is the request it waits for. -/
structure User.Belongs (root : List Step) (user : User) : Prop where
  within : user.Within root
  awaits : ∀ step, user.pending? = some step → step.Inside root

namespace User

variable {World : Type} {setting : Setting} {outside : Outside World} {now : Nat} {world : World}
  {cancel : Option CancelReason} {user : User} {step : Step}

/-- Nothing is begun from outside the scenario. -/
theorem Within.step_inside (within : user.Within root) (begins : user.step? = some step) :
    step.Inside root := by
  unfold User.step? at begins
  split at begins
  · exact within.walk.step_inside begins
  · exact within.walk.step_inside begins
  · cases begins

theorem pending?_advance (ready : user.activity = .ready)
    (waits : (user.advance setting outside cancel now world).1.user.pending? = some step) :
    user.walk.step? = some step := by
  cases cancel with
  | some reason => cases waits
  | none =>
      have reports : (user.advance setting outside none now world).1.Reports setting.onFailure now
          user.walk.step? (user.walk.attempt? setting outside now world) := reports_advance ready
      generalize (user.advance setting outside none now world).1 = advance at reports waits
      generalize user.walk.step? = begun at reports ⊢
      generalize user.walk.attempt? setting outside now world = attempt at reports
      cases reports with
      | aside _ _ calm => cases calm.symm.trans waits
      | broken => cases waits
      | asked => exact waits
      | settled =>
          rw [Journey.pending?_settle] at waits
          cases waits

theorem exists_pending? (waits : user.isAwaiting = true) :
    ∃ request, user.pending? = some (.request request) := by
  unfold isAwaiting at waits
  unfold pending?
  cases doing : user.activity with
  | awaiting call outcome since wake => exact ⟨call.request, rfl⟩
  | _ => simp [doing] at waits

/-- A user waits for the request that it has just begun. -/
theorem pending?_turn (working : user.activity ≠ .ended)
    (waits : (user.turn setting outside cancel now world).1.user.pending? = some step) :
    user.step? = some step := by
  unfold User.turn at waits
  unfold User.step?
  cases doing : user.activity with
  | ready =>
      simp only [doing] at waits
      exact pending?_advance doing waits
  | pausing wake =>
      simp only [doing] at waits
      have begun : ({ user with activity := .ready } : User).walk.step? = some step :=
        pending?_advance rfl waits
      exact begun
  | awaiting call outcome since wake =>
      simp only [doing] at waits
      rw [Journey.pending?_settle] at waits
      cases waits
  | aborting =>
      simp only [doing] at waits
      cases waits
  | ended => exact absurd doing working

namespace Belongs

theorem turn (belongs : user.Belongs root) :
    (user.turn setting outside cancel now world).1.user.Belongs root where
  within := belongs.within.turn.within
  awaits step waits := by
    by_cases ended : user.activity = .ended
    · rw [turn_of_ended ended] at waits
      exact belongs.awaits step waits
    · exact belongs.within.step_inside (pending?_turn ended waits)

theorem abort (belongs : user.Belongs root) : user.abort.Belongs root := by
  unfold User.abort
  split
  · exact belongs
  · exact ⟨.of_walk belongs.within.walk rfl, nofun⟩

end Belongs

theorem belongs_start (id : Nat) (random : Random) (steps : List Step) :
    (User.start id random steps).Belongs steps :=
  ⟨.of_walk (.root rfl rfl) rfl, nofun⟩

end User

theorem Journey.Reachable.belongs {World : Type} {setting : Setting}
    {around : Surroundings World} {beginning journey : Journey World}
    (reachable : Reachable setting around beginning journey)
    (belongs : beginning.user.Belongs root) : journey.user.Belongs root := by
  induction reachable with
  | refl => exact belongs
  | turn cancel _ inductionHypothesis => exact inductionHypothesis.turn
  | elsewhere world _ inductionHypothesis => exact inductionHypothesis
  | told _ inductionHypothesis => exact inductionHypothesis.abort

end LoadTest
