import LoadTest.Proofs.Run.Tally

/-!
The end of a run.

The collector is done when no metric is left and none can come any more, and a run is finished
when the collector and the dispatcher are done.
-/

namespace LoadTest.Run

variable {State : Type} {plan : Plan State} {may : Run State → Choice → Prop}
  {run next : Run State}

/-- When a run is finished, nothing is left to be counted. -/
structure Closed (run : Run State) : Prop where
  collected : run.collected = true →
    run.inbox = [] ∧ run.live = 0 ∧ run.dispatch.stage ≠ .spawning
  finished : run.finished = true → run.dispatch.isOver = true ∧ run.collected = true

theorem Closed.congr (closed : Closed run) (inbox : next.inbox = run.inbox)
    (live : next.live = run.live) (dispatch : next.dispatch = run.dispatch)
    (collected : next.collected = run.collected) (finished : next.finished = run.finished) :
    Closed next where
  collected := by
    rw [collected, inbox, live, dispatch]
    exact closed.collected
  finished := by
    rw [finished, dispatch, collected]
    exact closed.finished

/-- What the dispatcher has left behind does not come back. -/
theorem stage_of_handle (dispatch : Dispatch) (event : Dispatch.Event) :
    (dispatch.stage ≠ .spawning → (dispatch.handle event).stage ≠ .spawning) ∧
      (dispatch.isOver = true → (dispatch.handle event).isOver = true) := by
  unfold Dispatch.handle
  split <;> simp_all [Dispatch.join, Dispatch.isOver, Dispatch.spawn, Dispatch.close]

theorem Closed.handle (closed : Closed run) {event : Dispatch.Event}
    (dispatch : next.dispatch = run.dispatch.handle event) (inbox : next.inbox = run.inbox)
    (live : next.live = run.live) (collected : next.collected = run.collected)
    (finished : next.finished = run.finished) : Closed next := by
  obtain ⟨past, stays⟩ := stage_of_handle run.dispatch event
  constructor
  · rw [collected, inbox, live, dispatch]
    intro done
    obtain ⟨empty, dead, closed⟩ := closed.collected done
    exact ⟨empty, dead, past closed⟩
  · rw [finished, dispatch, collected]
    intro done
    obtain ⟨ended, complete⟩ := closed.finished done
    exact ⟨stays ended, complete⟩

/-- With nobody at work every user has ended. -/
theorem hasEnded_of_live (counted : Counted plan run) (dead : run.live = 0) {user : User}
    (among : user ∈ run.users) : user.hasEnded = true := by
  have none_working : working run.users = 0 := counted.live_eq.symm.trans dead
  simpa using Array.countP_eq_zero.1 none_working user among

theorem Closed.stepUser (closed : Closed run) (counted : Counted plan run) (id : Nat) :
    Closed (run.stepUser plan id) := by
  cases there : run.users[id]? with
  | none =>
      have same : run.stepUser plan id = run.release := by simp only [Run.stepUser, there]
      rw [same]
      exact closed.congr rfl rfl rfl rfl rfl
  | some user =>
      obtain ⟨clock, focus, log, same⟩ := stepUser_eq plan there
      rw [same]
      refine ⟨?_, closed.finished⟩
      intro done
      obtain ⟨empty, dead, past⟩ := closed.collected done
      have ended := hasEnded_of_live counted dead (Array.mem_of_getElem? there)
      have idle : (run.turnOf plan id user).1 = ⟨user, [], .idle⟩ := by
        unfold turnOf
        rw [User.turn_of_ended (User.hasEnded_iff.1 ended)]
      simp [idle, empty, dead, past]

theorem Closed.stepCollector (closed : Closed run) : Closed (run.stepCollector plan) := by
  unfold Run.stepCollector
  split
  next metric rest inbox =>
    refine ⟨?_, closed.finished⟩
    intro done
    rw [(closed.collected done).1] at inbox
    cases inbox
  next inbox =>
    split
    next quiet =>
      simp only [canRecord, Dispatch.isSpawning, Bool.not_eq_true', Bool.or_eq_false_iff,
        beq_eq_false_iff_ne, decide_eq_false_iff_not, Nat.not_lt, Nat.le_zero] at quiet
      refine ⟨?_, ?_⟩
      · intro _
        exact ⟨inbox, quiet.2, quiet.1⟩
      · intro done
        exact ⟨(closed.finished done).1, rfl⟩
    · split
      · exact closed.congr rfl rfl rfl rfl rfl
      · split
        · exact closed.congr rfl rfl rfl rfl rfl
        · exact closed.congr rfl rfl rfl rfl rfl

theorem Closed.stepCaller (closed : Closed run) : Closed run.stepCaller := by
  unfold Run.stepCaller
  split
  next moment action rest _ =>
    dsimp only
    split
    · cases action with
      | stop =>
          obtain ⟨clock, same⟩ := cancelFor_eq { run with actions := rest } .shutdown
          dsimp only
          rw [same]
          exact closed.congr rfl rfl rfl rfl rfl
      | snapshot => exact closed.congr rfl rfl rfl rfl rfl
    · exact closed.congr rfl rfl rfl rfl rfl
  next =>
    split
    next done =>
      simp only [Bool.and_eq_true] at done
      refine ⟨closed.collected, ?_⟩
      intro _
      exact done
    · exact closed.congr rfl rfl rfl rfl rfl

theorem Closed.moves (closed : Closed run)
    (counted : Counted plan run) (moves : Moves plan may run next) : Closed next := by
  cases moves with
  | user => exact closed.stepUser counted _
  | dispatcher _ possible =>
      cases possible with
      | finished =>
          obtain ⟨_, same⟩ := undertake_finished plan run
          rw [same]
          exact closed.handle rfl rfl rfl rfl rfl
      | @cancelled reason wake =>
          obtain ⟨_, same⟩ := undertake_cancelled plan run reason wake
          rw [same]
          exact closed.handle rfl rfl rfl rfl rfl
      | @deadline wake =>
          obtain ⟨_, same⟩ := undertake_cancelled plan run .timeout wake
          rw [same]
          exact closed.handle rfl rfl rfl rfl rfl
      | @due moment spawning =>
          have uncollected : run.collected ≠ true := by
            intro done
            exact (closed.collected done).2.2 spawning
          obtain ⟨_, same⟩ := undertake_due plan run moment
          rw [same]
          constructor
          · intro done
            exact absurd done uncollected
          · intro done
            exact absurd (closed.finished done).2 uncollected
      | joined => exact closed.handle (undertake_dispatch ..) rfl rfl rfl rfl
      | graceOver =>
          obtain ⟨_, same⟩ := undertake_graceOver plan run
          rw [same]
          exact closed.handle rfl rfl rfl rfl rfl
  | collector => exact closed.stepCollector
  | caller => exact closed.stepCaller
  | stop =>
      obtain ⟨_, same⟩ := cancelFor_eq run .shutdown
      rw [same]
      exact closed.congr rfl rfl rfl rfl rfl
  | pass => exact closed.congr rfl rfl rfl rfl rfl
  | reorder => exact closed.congr rfl rfl rfl rfl rfl

theorem Reachable.closed (reachable : Reachable plan may run) :
    Closed run := by
  have kept (run next : Run State) (moves : Moves plan may run next)
      (holds : Reachable plan may run ∧ Closed run) : Reachable plan may next ∧ Closed next := by
    obtain ⟨reachable, closed⟩ := holds
    exact ⟨reachable.move moves, closed.moves reachable.tallied.counted moves⟩
  refine (reachable.invariant ?_ kept).2
  intro feeders transport
  refine ⟨⟨feeders, transport, .refl⟩, ?_, ?_⟩
  · intro done
    cases done
  · intro done
    cases done

end LoadTest.Run
