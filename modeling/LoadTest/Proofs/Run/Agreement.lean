import LoadTest.Proofs.Run.Tally

/-!
There is one reason for which a run was cancelled.

The caller and the deadline may both cancel a run, at any time.  Whoever comes first gives the
reason, and no move takes it back or puts another in its place (`Moves.cancel_eq`).  What the
dispatcher has seen of it and what a user has ended for (`Ended`) is this reason.
-/

namespace LoadTest

namespace Dispatch

variable {dispatch : Dispatch}

/-- The dispatcher learns of a reason by one event only. -/
theorem reason?_handle_cases {event : Event} {reason : CancelReason}
    (given : (dispatch.handle event).reason? = some reason) :
    dispatch.reason? = some reason ∨ ∃ wake, event = .cancelled reason wake := by
  cases stage : dispatch.stage with
  | spawning =>
      right
      cases event with
      | cancelled other wake =>
          simp only [handle, stage, Dispatch.close, reason?, Option.some.injEq] at given
          subst given
          exact ⟨wake, rfl⟩
      | joined ending => simp [handle, join, reason?, stage] at given
      | due moment => simp [handle, Dispatch.spawn, reason?, stage] at given
      | graceOver => simp [handle, reason?, stage] at given
      | finished => simp [handle, Dispatch.close, reason?, stage] at given
  | _ =>
      left
      cases event <;> simpa [handle, join, reason?, stage] using given

end Dispatch

namespace Run

section

variable {State : Type} (plan : Plan State)

/-- What a user comes to that takes its turn, if it ends then. -/
def endingAt? (run : Run State) (id : Nat) : Option Ending :=
  run.users[id]?.bind fun user => (run.turnOf plan id user).1.pace.ending?

/-- Up to here, the task of a user has come to an ending. -/
inductive Ended (may : Run State → Choice → Prop) (id : Nat) (ending : Ending) :
    Run State → Prop where
  | turn {run} :
      Reachable plan may run → may run (.user id) → run.endingAt? plan id = some ending →
      Ended may id ending (run.stepUser plan id)
  | later {run next} :
      Ended may id ending run → Moves plan may run next → Ended may id ending next

end

variable {State : Type} {plan : Plan State} {may : Run State → Choice → Prop}
  {run next : Run State} {id : Nat} {ending : Ending} {reason : CancelReason}

/-! ### The reason stays as it is -/

theorem stepCaller_cancel (given : run.cancel = some reason) :
    run.stepCaller.cancel = some reason := by
  unfold stepCaller
  split
  next moment action rest _ =>
    dsimp only
    split
    · cases action with
      | stop =>
          obtain ⟨_, same⟩ := cancelFor_eq { run with actions := rest } .shutdown
          dsimp only
          rw [same]
          simp [given]
      | snapshot => exact given
    · exact given
  next =>
    split
    · exact given
    · exact given

theorem undertake_cancel_of_some (given : run.cancel = some reason) (event : Dispatch.Event) :
    (run.undertake plan event).cancel = some reason := by
  cases event with
  | finished =>
      obtain ⟨_, same⟩ := undertake_finished plan run
      rw [same]
      exact given
  | cancelled other wake =>
      obtain ⟨_, same⟩ := undertake_cancelled plan run other wake
      rw [same]
      simp [given]
  | _ => exact given

/-- Nobody takes a reason back or gives another one. -/
theorem Moves.cancel_eq (moves : Moves plan may run next) (given : run.cancel = some reason) :
    next.cancel = some reason := by
  cases moves with
  | @user id =>
      cases there : run.users[id]? with
      | none => simpa [stepUser, there, release] using given
      | some user =>
          obtain ⟨_, _, _, same⟩ := stepUser_eq plan there
          rw [same]
          exact given
  | dispatcher => exact undertake_cancel_of_some given _
  | collector =>
      obtain ⟨_, _, _, _, _, _, _, same⟩ := stepCollector_eq plan run
      rw [same]
      exact given
  | caller => exact stepCaller_cancel given
  | stop =>
      obtain ⟨_, same⟩ := cancelFor_eq run .shutdown
      rw [same]
      simp [given]
  | pass => exact given
  | reorder => exact given

theorem cancel_eq_of_path {later : Run State} (given : run.cancel = some reason)
    (path : Relation.ReflTransGen (Moves plan may) run later) : later.cancel = some reason := by
  induction path with
  | refl => exact given
  | tail _ moves inductionHypothesis => exact moves.cancel_eq inductionHypothesis

/-! ### The dispatcher -/

/-- The dispatcher knows of no reason but that of the run. -/
def Told (run : Run State) : Prop :=
  ∀ reason, run.dispatch.reason? = some reason → run.cancel = some reason

theorem Told.moves (told : Told run) (moves : Moves plan may run next) : Told next := by
  intro reason known
  obtain same | ⟨event, _, possible, rfl⟩ := moves.undertakes
  · rw [same] at known
    exact moves.cancel_eq (told reason known)
  · rw [undertake_dispatch] at known
    obtain before | ⟨wake, rfl⟩ := Dispatch.reason?_handle_cases known
    · exact undertake_cancel_of_some (told reason before) event
    · cases possible with
      | cancelled _ given => exact undertake_cancel_of_some given _
      | deadline _ uncancelled =>
          obtain ⟨_, same⟩ := undertake_cancelled plan run .timeout wake
          rw [same]
          simp [uncancelled]

theorem Reachable.told (reachable : Reachable plan may run) : Told run := by
  refine reachable.invariant ?_ fun _ _ moves told => told.moves moves
  intro _ _ _ known
  cases known

/-! ### The users -/

theorem Ended.reachable (ended : Ended plan may id ending run) : Reachable plan may run := by
  induction ended with
  | turn reachable allowed _ => exact reachable.move (.user allowed)
  | later _ moves inductionHypothesis => exact inductionHypothesis.move moves

theorem Ended.iterate (ended : Ended plan (Chooses plan) id ending run) (fuel : Nat) :
    Ended plan (Chooses plan) id ending (iterate plan fuel run) := by
  induction fuel generalizing run with
  | zero => exact ended
  | succ fuel inductionHypothesis =>
      unfold Run.iterate
      split
      · exact ended
      · exact inductionHypothesis (ended.later moves_step)

theorem endings_of_turn (ends : run.endingAt? plan id = some ending) :
    (run.stepUser plan id).endings = run.endings ++ [ending] := by
  obtain ⟨user, there, finished⟩ := Option.bind_eq_some_iff.1 ends
  obtain ⟨_, _, _, same⟩ := stepUser_eq plan there
  rw [same, finished]
  rfl

/-- A user ends as cancelled only for the reason of its run. -/
theorem Ended.cancel_eq (ended : Ended plan may id (.cancelled reason) run) :
    run.cancel = some reason := by
  induction ended with
  | @turn run _ allowed ends =>
      obtain ⟨user, _, finished⟩ := Option.bind_eq_some_iff.1 ends
      have given : run.cancel = some reason :=
        User.turn_allows (Pace.ending?_eq_some_iff.1 finished)
      have moves : Moves plan may run (run.stepUser plan id) := .user allowed
      exact moves.cancel_eq given
  | later _ moves inductionHypothesis => exact moves.cancel_eq inductionHypothesis

theorem undertake_endings (run : Run State) {event : Dispatch.Event}
    (noEnding : ∀ ending, event ≠ .joined ending) :
    (run.undertake plan event).endings = run.endings := by
  cases event with
  | joined ending => exact absurd rfl (noEnding ending)
  | finished =>
      obtain ⟨_, same⟩ := undertake_finished plan run
      rw [same]
  | cancelled reason wake =>
      obtain ⟨_, same⟩ := undertake_cancelled plan run reason wake
      rw [same]
  | _ => rfl

/-- An ending that lies in the queue stays there until the dispatcher sees an ending. -/
theorem Moves.mem_endings (moves : Moves plan may run next) (queued : ending ∈ run.endings) :
    ending ∈ next.endings ∨
      ∃ other, may run (.event (.joined other)) ∧ next = run.undertake plan (.joined other) := by
  cases moves with
  | @user id =>
      left
      cases there : run.users[id]? with
      | none => simpa [stepUser, there, release] using queued
      | some user =>
          obtain ⟨_, _, _, same⟩ := stepUser_eq plan there
          rw [same]
          exact List.mem_append_left _ queued
  | @dispatcher event allowed =>
      cases event with
      | joined other => exact .inr ⟨other, allowed, rfl⟩
      | _ =>
          left
          rw [undertake_endings run (by simp)]
          exact queued
  | collector =>
      obtain ⟨_, _, _, _, _, _, _, same⟩ := stepCollector_eq plan run
      exact .inl (by rwa [same])
  | caller =>
      obtain ⟨_, _, _, _, _, _, _, same⟩ := stepCaller_eq run
      exact .inl (by rwa [same])
  | stop =>
      obtain ⟨_, same⟩ := cancelFor_eq run .shutdown
      exact .inl (by rwa [same])
  | pass => exact .inl queued
  | reorder perm => exact .inl (perm.mem_iff.1 queued)

/-- A dispatcher that sees a cancellation first has seen it before it sees a cancelled user. -/
theorem Ended.heard (biased : Biased may) (ended : Ended plan may id (.cancelled reason) run) :
    run.dispatch.reason? ≠ none ∨ .cancelled reason ∈ run.endings := by
  induction ended with
  | turn _ _ ends =>
      right
      rw [endings_of_turn ends]
      exact List.mem_append_right _ (List.mem_singleton_self _)
  | @later run next ended moves inductionHypothesis =>
      have kept (known : run.dispatch.reason? ≠ none) : next.dispatch.reason? ≠ none := by
        obtain same | ⟨event, _, _, handled⟩ := moves.dispatch_cases
        · rwa [same]
        · rw [handled]
          exact mt Dispatch.reason?_of_handle known
      obtain known | queued := inductionHypothesis
      · exact .inl (kept known)
      · obtain still | ⟨other, allowed, _⟩ := moves.mem_endings queued
        · exact .inr still
        · left
          apply kept
          cases stage : run.dispatch.stage with
          | spawning =>
              have uncancelled := biased run other allowed stage
              rw [ended.cancel_eq] at uncancelled
              cases uncancelled
          | finished seen =>
              have isOver : run.dispatch.isOver = true := by simp [Dispatch.isOver, stage]
              rw [endings_of_isOver ended.reachable.tallied.counted isOver] at queued
              cases queued
          | _ => simp [Dispatch.reason?, stage]

/-- All agree on one reason.  Whenever the run is stopped and whenever it times out, once it was
given a reason it keeps it.  The reason that the dispatcher reports is this one, and every user that
ends as cancelled ends for this one.  If the dispatcher reports none, and sees a cancellation before
it sees an ending, then no user has ended as cancelled. -/
theorem agree_on_reason {State : Type} {plan : Plan State} {may : Run State → Choice → Prop}
    {run : Run State} (reachable : Reachable plan may run) :
    (∀ reason, run.cancel = some reason → ∀ later,
      Relation.ReflTransGen (Moves plan may) run later → later.cancel = some reason) ∧
    (∀ reason, run.dispatch.reason? = some reason → run.cancel = some reason) ∧
    (∀ id reason, Ended plan may id (.cancelled reason) run → run.cancel = some reason) ∧
    (Biased may → run.dispatch.stage = .finished none →
      ∀ id reason, ¬ Ended plan may id (.cancelled reason) run) := by
  refine ⟨?_, reachable.told, ?_, ?_⟩
  · intro reason given later path
    exact cancel_eq_of_path given path
  · intro id reason ended
    exact ended.cancel_eq
  · intro biased finished id reason ended
    have isOver : run.dispatch.isOver = true := by simp [Dispatch.isOver, finished]
    obtain known | queued := ended.heard biased
    · exact known (by simp [Dispatch.reason?, finished])
    · rw [endings_of_isOver reachable.tallied.counted isOver] at queued
      cases queued

/-- A run that is stopped twice at the very moment at which it times out. -/
def stoppedPlan : Plan Unit :=
  { shortPlan with actions := [(.ofMillis 1000, .stop), (.ofMillis 1000, .stop)] }

theorem agree_on_reason_of_stoppedPlan :
    let before := iterate stoppedPlan 22 (.start stoppedPlan ∅ ())
    let run := iterate stoppedPlan 40 (before.stepUser stoppedPlan 0)
    Reachable stoppedPlan (Chooses stoppedPlan) run ∧
      run.dispatch.stage = .finished (some .shutdown) ∧
      Ended stoppedPlan (Chooses stoppedPlan) 0 (.cancelled .shutdown) run ∧
      (∀ later, Relation.ReflTransGen (Moves stoppedPlan (Chooses stoppedPlan)) run later →
        later.cancel = some .shutdown) ∧
      ∀ id, ¬ Ended stoppedPlan (Chooses stoppedPlan) id (.cancelled .timeout) run := by
  intro before run
  have reachable : Reachable stoppedPlan (Chooses stoppedPlan) before :=
    reachable_iterate 22 ⟨∅, (), .refl⟩
  have chosen : Chooses stoppedPlan before (.user 0) := by
    show before.focus = some (.user 0)
    decide +kernel
  have ended : Ended stoppedPlan (Chooses stoppedPlan) 0 (.cancelled .shutdown) run :=
    .iterate (.turn reachable chosen (by decide +kernel)) 40
  have finished : run.dispatch.stage = .finished (some .shutdown) := by decide +kernel
  obtain ⟨kept, told, users, _⟩ := agree_on_reason ended.reachable
  have given : run.cancel = some .shutdown := told .shutdown (by simp [Dispatch.reason?, finished])
  refine ⟨ended.reachable, finished, ended, kept .shutdown given, ?_⟩
  intro id timedOut
  cases given.symm.trans (users id .timeout timedOut)

end Run

end LoadTest
