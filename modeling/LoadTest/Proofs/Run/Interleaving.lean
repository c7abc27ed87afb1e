import LoadTest.Proofs.User.Turn
import LoadTest.Run.Simulation
import Mathlib.Logic.Relation

/-!
Runs whose tasks take their turns in any order.

`Run.step` settles who comes next and what the dispatcher does first.  `Run.Moves` leaves
that open: any user may take a turn, any event that is possible may reach the dispatcher,
the run may be stopped, and the clock may be set, all at any time.  An order (`may`) can
narrow this down.  Every step is a move (`moves_step`).  The other lemmas say what the moves
do to a run but for its clock, its focus and its log.
-/

namespace LoadTest

namespace Run

/-- What an order decides about. -/
inductive Choice where
  | user (id : Nat)
  | event (event : Dispatch.Event)

section

variable {State : Type} (plan : Plan State)

/-- The events that can reach the dispatcher of a run. -/
inductive Possible (run : Run State) : Dispatch.Event → Prop where
  | finished :
      run.dispatch.unjoined = 0 →
      (run.dispatch.stage = .spawning → run.dispatch.pending = []) →
      Possible run .finished
  | cancelled {reason wake} :
      run.dispatch.stage = .spawning → run.cancel = some reason →
      Possible run (.cancelled reason wake)
  | deadline {wake} :
      run.dispatch.stage = .spawning → run.cancel = none → plan.maxDuration ≠ none →
      Possible run (.cancelled .timeout wake)
  | due {now} : run.dispatch.stage = .spawning → Possible run (.due now)
  | joined {ending} : run.endings.head? = some ending → Possible run (.joined ending)
  | graceOver {wake reason} : run.dispatch.stage = .grace wake reason → Possible run .graceOver

/-- The moves of a run in an order. -/
inductive Moves (may : Run State → Choice → Prop) : Run State → Run State → Prop where
  | user {run id} : may run (.user id) → Moves may run (run.stepUser plan id)
  | dispatcher {run event} :
      may run (.event event) → run.Possible plan event → Moves may run (run.undertake plan event)
  | collector {run} : Moves may run (run.stepCollector plan)
  | caller {run} : Moves may run run.stepCaller
  | stop {run} : Moves may run (run.cancelFor .shutdown)
  | pass {run clock focus} : Moves may run { run with clock, focus }
  /-- Those who ended may be waited for in another order. -/
  | reorder {run endings} : run.endings.Perm endings → Moves may run { run with endings }

/-- The runs that come of a plan. -/
def Reachable (may : Run State → Choice → Prop) (run : Run State) : Prop :=
  ∃ feeders transport, Relation.ReflTransGen (Moves plan may) (.start plan feeders transport) run

end

/-- As long as users are spawned, a cancellation is seen before an ending is. -/
def Biased {State : Type} (may : Run State → Choice → Prop) : Prop :=
  ∀ run ending, may run (.event (.joined ending)) → run.dispatch.stage = .spawning →
    run.cancel = none

variable {State : Type} {plan : Plan State} {may : Run State → Choice → Prop} {run next : Run State}

/-- What holds at the start and is kept by every move holds of every run. -/
theorem Reachable.invariant {holds : Run State → Prop} (reachable : Reachable plan may run)
    (start : ∀ feeders transport, holds (.start plan feeders transport))
    (kept : ∀ run next, Moves plan may run next → holds run → holds next) : holds run := by
  obtain ⟨feeders, transport, path⟩ := reachable
  induction path with
  | refl => exact start feeders transport
  | tail _ moves inductionHypothesis => exact kept _ _ moves inductionHypothesis

theorem Reachable.move (reachable : Reachable plan may run) (moves : Moves plan may run next) :
    Reachable plan may next := by
  obtain ⟨feeders, transport, path⟩ := reachable
  exact ⟨feeders, transport, path.tail moves⟩

/-! ### Steps are moves -/

theorem possible_of_next? {event : Dispatch.Event}
    (comes : run.dispatch.next? (run.view plan) = some event) : run.Possible plan event := by
  unfold Dispatch.next? at comes
  cases stage : run.dispatch.stage with
  | spawning =>
      simp only [stage] at comes
      split at comes
      next done =>
        cases comes
        simp only [Bool.and_eq_true, List.isEmpty_iff, beq_iff_eq] at done
        exact .finished done.2 fun _ => done.1
      next =>
        split at comes
        next reason cancelled =>
          cases comes
          exact .cancelled stage cancelled
        next uncancelled =>
          split at comes
          next passed =>
            cases comes
            refine .deadline stage uncancelled fun unlimited => ?_
            simp [view, unlimited] at passed
          next =>
            split at comes
            · cases comes
              exact .due stage
            · obtain ⟨ending, ended, rfl⟩ := Option.map_eq_some_iff.1 comes
              exact .joined ended
  | grace wake reason =>
      simp only [stage] at comes
      split at comes
      next ending ended =>
        cases comes
        exact .joined ended
      next =>
        split at comes
        next none =>
          cases comes
          exact .finished none (by simp [stage])
        next =>
          split at comes
          · cases comes
            exact .graceOver stage
          · cases comes
  | draining reason =>
      simp only [stage] at comes
      split at comes
      next ending ended =>
        cases comes
        exact .joined ended
      next =>
        split at comes
        next none =>
          cases comes
          exact .finished none (by simp [stage])
        next => cases comes
  | finished reason => simp [stage] at comes

/-- What is chosen by a step. -/
def Chooses (plan : Plan State) (run : Run State) : Choice → Prop
  | .user id => run.focus = some (.user id)
  | .event event => run.dispatch.next? (run.view plan) = some event

theorem biased_chooses : Biased (Chooses plan) := by
  intro run ending chosen spawning
  simp only [Chooses, Dispatch.next?, spawning] at chosen
  split at chosen
  · cases chosen
  next =>
    split at chosen
    · cases chosen
    next uncancelled => exact uncancelled

theorem moves_step : Moves plan (Chooses plan) run (run.step plan) := by
  unfold step
  split
  · exact .caller
  · exact .collector
  · unfold stepDispatcher
    dsimp only
    split
    next event comes => exact .dispatcher comes (possible_of_next? comes)
    next =>
      split
      · exact .pass
      · exact .pass
  next id focused => exact .user focused
  · exact .pass

theorem reachable_iterate (fuel : Nat) (reachable : Reachable plan (Chooses plan) run) :
    Reachable plan (Chooses plan) (iterate plan fuel run) := by
  induction fuel generalizing run with
  | zero => exact reachable
  | succ fuel inductionHypothesis =>
      unfold iterate
      split
      · exact reachable
      · exact inductionHypothesis (reachable.move moves_step)

/-! ### What a turn of a user does to a run -/

theorem foldl_observe (id : Nat) (deeds : List Deed) (run : Run State) :
    ∃ clock log, deeds.foldl (observe · id) run =
      { run with clock, log, inbox := (deeds.filterMap Deed.metric?).reverse ++ run.inbox } := by
  induction deeds generalizing run with
  | nil => exact ⟨run.clock, run.log, rfl⟩
  | cons deed deeds inductionHypothesis =>
      rw [List.foldl_cons]
      obtain ⟨clock, log, same⟩ := inductionHypothesis (observe run id deed)
      refine ⟨clock, log, ?_⟩
      rw [same]
      cases deed <;> simp [observe, note, record, wake, Deed.metric?, List.filterMap_cons]

theorem endUser_eq (run : Run State) (ending : Ending) :
    ∃ clock, run.endUser ending =
      { run with
        clock
        focus := none
        live := run.live - 1
        endings := run.endings ++ [ending] } := by
  unfold endUser
  dsimp only
  split
  · exact ⟨_, rfl⟩
  · exact ⟨_, rfl⟩

theorem follow_eq (run : Run State) (id : Nat) (advance : Advance) :
    ∃ clock focus log, run.follow id advance =
      { run with
        clock, focus, log
        users := run.users.setIfInBounds id advance.user
        live := run.live - advance.pace.ending?.toList.length
        endings := run.endings ++ advance.pace.ending?.toList
        inbox := (advance.deeds.filterMap Deed.metric?).reverse ++ run.inbox } := by
  obtain ⟨clock, log, same⟩ := foldl_observe id advance.deeds run
  unfold follow
  rw [same]
  cases pace : advance.pace with
  | onward => exact ⟨clock, run.focus, log, by simp [setUser]⟩
  | yielding => exact ⟨clock.holdBack (.user id), none, log, by simp [setUser, release]⟩
  | waiting wake => exact ⟨clock.setAlarm wake (.user id), none, log, by simp [setUser, release]⟩
  | finished ending =>
      obtain ⟨clock, same⟩ := endUser_eq (setUser
        { run with clock, log, inbox := (advance.deeds.filterMap Deed.metric?).reverse ++ run.inbox }
        id advance.user) ending
      exact ⟨clock, none, log, same⟩
  | idle => exact ⟨clock, none, log, by simp [setUser, release]⟩

/-- What a turn of a user of a run comes to. -/
def turnOf (plan : Plan State) (run : Run State) (id : Nat) (user : User) :
    Advance × State × SortedMap String Feeder :=
  user.turn plan.setting (plan.outside id) run.cancel run.clock.now (run.transport, run.feeders)

variable (plan) in
theorem stepUser_eq {id : Nat} {user : User} (there : run.users[id]? = some user) :
    ∃ clock focus log, run.stepUser plan id =
      { run with
        clock, focus, log
        users := run.users.setIfInBounds id (run.turnOf plan id user).1.user
        live := run.live - (run.turnOf plan id user).1.pace.ending?.toList.length
        endings := run.endings ++ (run.turnOf plan id user).1.pace.ending?.toList
        inbox :=
          ((run.turnOf plan id user).1.deeds.filterMap Deed.metric?).reverse ++ run.inbox
        transport := (run.turnOf plan id user).2.1
        feeders := (run.turnOf plan id user).2.2 } := by
  unfold stepUser
  rw [there]
  exact follow_eq _ id _

/-! ### What an event of the dispatcher does to a run -/

theorem cancelFor_eq (run : Run State) (reason : CancelReason) :
    ∃ clock, run.cancelFor reason = { run with clock, cancel := run.cancel.or (some reason) } := by
  unfold cancelFor
  split
  next given =>
    refine ⟨run.clock, ?_⟩
    rw [Option.or_of_isSome (by simp [given])]
  next given =>
    rw [given]
    exact ⟨_, rfl⟩

variable (plan) in
theorem undertake_due (run : Run State) (moment : Nat) :
    ∃ clock, run.undertake plan (.due moment) =
      let dispatch := run.dispatch.handle (.due moment)
      let ids := (List.range (dispatch.nextId - run.users.size)).map (run.users.size + ·)
      { run with
        clock, dispatch
        users := run.users ++
          (ids.map fun id => User.start id (plan.randoms id) plan.scenario.steps).toArray
        live := run.live + ids.length } := ⟨_, rfl⟩

/-- A user of a run in which users were spawned was there before or is new. -/
theorem user_of_due {moment id : Nat} {user : User}
    (there : (run.undertake plan (.due moment)).users[id]? = some user) :
    run.users[id]? = some user ∨
      run.users.size ≤ id ∧ user = .start id (plan.randoms id) plan.scenario.steps := by
  obtain ⟨clock, same⟩ := undertake_due plan run moment
  rw [same, Array.getElem?_append] at there
  split at there
  · exact .inl there
  next beyond =>
    right
    simp only [List.map_map, List.getElem?_toArray, List.getElem?_map] at there
    obtain ⟨index, among, rfl⟩ := Option.map_eq_some_iff.1 there
    obtain ⟨within, rfl⟩ := List.getElem?_eq_some_iff.1 among
    have last : run.users.size ≤ id := Nat.le_of_not_lt beyond
    refine ⟨last, ?_⟩
    simp only [Function.comp_apply, List.getElem_range, Nat.add_sub_cancel' last]

variable (plan) in
theorem undertake_cancelled (run : Run State) (reason : CancelReason) (wake : Nat) :
    ∃ clock, run.undertake plan (.cancelled reason wake) =
      { run with
        clock
        dispatch := run.dispatch.handle (.cancelled reason wake)
        cancel := run.cancel.or (some reason) } := by
  obtain ⟨clock, same⟩ := cancelFor_eq
    { run with
      dispatch := run.dispatch.handle (.cancelled reason wake)
      clock := run.clock.clearAlarms .dispatcher } reason
  unfold undertake
  dsimp only
  rw [same]
  split
  · exact ⟨_, rfl⟩
  · exact ⟨_, rfl⟩

variable (plan) in
theorem undertake_graceOver (run : Run State) :
    ∃ clock, run.undertake plan .graceOver =
      { run with
        clock
        dispatch := run.dispatch.handle .graceOver
        users := run.users.map User.abort } := ⟨_, rfl⟩

variable (plan) in
theorem undertake_finished (run : Run State) :
    ∃ clock, run.undertake plan .finished =
      { run with clock, dispatch := run.dispatch.handle .finished } := by
  unfold undertake
  dsimp only
  split
  · exact ⟨_, rfl⟩
  · exact ⟨_, rfl⟩

@[simp] theorem undertake_dispatch (run : Run State) (event : Dispatch.Event) :
    (run.undertake plan event).dispatch = run.dispatch.handle event := by
  cases event with
  | finished =>
      obtain ⟨_, same⟩ := undertake_finished plan run
      rw [same]
  | cancelled reason wake =>
      obtain ⟨_, same⟩ := undertake_cancelled plan run reason wake
      rw [same]
  | _ => rfl

theorem undertake_cancel (run : Run State) (event : Dispatch.Event)
    (uncancelled : (run.undertake plan event).cancel = none) : run.cancel = none := by
  cases event with
  | finished =>
      obtain ⟨_, same⟩ := undertake_finished plan run
      simpa [same] using uncancelled
  | cancelled reason wake =>
      obtain ⟨_, same⟩ := undertake_cancelled plan run reason wake
      simp [same] at uncancelled
  | _ => exact uncancelled

/-- The events that reach the dispatcher as long as the run is not cancelled. -/
theorem Possible.ordinary {event : Dispatch.Event} (possible : run.Possible plan event)
    (calm : run.dispatch.reason? = none)
    (uncancelled : (run.undertake plan event).cancel = none) :
    event = .finished ∨ (∃ moment, event = .due moment) ∨
      ∃ ending, event = .joined ending ∧ run.endings.head? = some ending := by
  cases possible with
  | finished => exact .inl rfl
  | @cancelled reason wake =>
      obtain ⟨_, same⟩ := undertake_cancelled plan run reason wake
      simp [same] at uncancelled
  | @deadline wake =>
      obtain ⟨_, same⟩ := undertake_cancelled plan run .timeout wake
      simp [same] at uncancelled
  | due => exact .inr (.inl ⟨_, rfl⟩)
  | joined ended => exact .inr (.inr ⟨_, rfl, ended⟩)
  | graceOver grace => simp [Dispatch.reason?, grace] at calm

/-! ### What the other tasks do to a run -/

variable (plan) in
theorem stepCollector_eq (run : Run State) :
    ∃ clock focus inbox collector nextSnapshot snapshotArmed collected,
      run.stepCollector plan =
        { run with
          clock, focus, inbox, collector, nextSnapshot, snapshotArmed, collected } := by
  unfold stepCollector
  split
  · exact ⟨_, _, _, _, _, _, _, rfl⟩
  · split
    · exact ⟨_, _, _, _, _, _, _, rfl⟩
    · split
      · exact ⟨_, _, _, _, _, _, _, rfl⟩
      · split
        · exact ⟨_, _, _, _, _, _, _, rfl⟩
        · exact ⟨_, _, _, _, _, _, _, rfl⟩

theorem stepCaller_eq (run : Run State) :
    ∃ clock focus cancel actions snapshots finished,
      (cancel = none → run.cancel = none) ∧
      run.stepCaller = { run with clock, focus, cancel, actions, snapshots, finished } := by
  unfold stepCaller
  split
  next moment action rest _ =>
    dsimp only
    split
    · cases action with
      | stop =>
          obtain ⟨clock, same⟩ := cancelFor_eq { run with actions := rest } .shutdown
          refine ⟨clock, run.focus, run.cancel.or (some .shutdown), rest, run.snapshots,
            run.finished, ?_, same⟩
          simp
      | snapshot => exact ⟨_, _, _, _, _, _, id, rfl⟩
    · exact ⟨_, _, _, _, _, _, id, rfl⟩
  next =>
    split
    · exact ⟨_, _, _, _, _, _, id, rfl⟩
    · exact ⟨_, _, _, _, _, _, id, rfl⟩

/-! ### What every move keeps -/

/-- The dispatcher changes only by the events that reach it. -/
theorem Moves.undertakes (moves : Moves plan may run next) :
    next.dispatch = run.dispatch ∨
      ∃ event, may run (.event event) ∧ run.Possible plan event ∧
        next = run.undertake plan event := by
  cases moves with
  | @user id =>
      left
      cases there : run.users[id]? with
      | none => simp [stepUser, there, release]
      | some user =>
          obtain ⟨_, _, _, same⟩ := stepUser_eq plan there
          rw [same]
  | dispatcher allowed possible => exact .inr ⟨_, allowed, possible, rfl⟩
  | collector =>
      obtain ⟨_, _, _, _, _, _, _, same⟩ := stepCollector_eq plan run
      exact .inl (by rw [same])
  | caller =>
      obtain ⟨_, _, _, _, _, _, _, same⟩ := stepCaller_eq run
      exact .inl (by rw [same])
  | stop =>
      obtain ⟨_, same⟩ := cancelFor_eq run .shutdown
      exact .inl (by rw [same])
  | pass => exact .inl rfl
  | reorder => exact .inl rfl

theorem Moves.dispatch_cases (moves : Moves plan may run next) :
    next.dispatch = run.dispatch ∨
      ∃ event, may run (.event event) ∧ run.Possible plan event ∧
        next.dispatch = run.dispatch.handle event := by
  obtain same | ⟨event, allowed, possible, same⟩ := moves.undertakes
  · exact .inl same
  · right
    refine ⟨event, allowed, possible, ?_⟩
    rw [same, undertake_dispatch]

/-- A run that was cancelled stays so. -/
theorem Moves.uncancelled (moves : Moves plan may run next) (uncancelled : next.cancel = none) :
    run.cancel = none := by
  cases moves with
  | @user id =>
      cases there : run.users[id]? with
      | none => simpa [stepUser, there, release] using uncancelled
      | some user =>
          obtain ⟨_, _, _, same⟩ := stepUser_eq plan there
          rwa [same] at uncancelled
  | dispatcher => exact undertake_cancel _ _ uncancelled
  | collector =>
      obtain ⟨_, _, _, _, _, _, _, same⟩ := stepCollector_eq plan run
      rwa [same] at uncancelled
  | caller =>
      obtain ⟨_, _, _, _, _, _, kept, same⟩ := stepCaller_eq run
      rw [same] at uncancelled
      exact kept uncancelled
  | stop =>
      obtain ⟨_, same⟩ := cancelFor_eq run .shutdown
      simp [same] at uncancelled
  | pass => exact uncancelled
  | reorder => exact uncancelled

/-! ### What holds of all users -/

section

variable {holds : User → Prop}

/-- The users after a move started in it, took their turn or were told to stop in it, or were
there before. -/
theorem Moves.forall_users (moves : Moves plan may run next)
    (starts : ∀ id, holds (.start id (plan.randoms id) plan.scenario.steps))
    (turns : ∀ run id user, holds user → holds (turnOf plan run id user).1.user)
    (stops : ∀ user, holds user → holds user.abort)
    (before : ∀ (id : Nat) (user : User), run.users[id]? = some user → holds user) :
    ∀ (id : Nat) (user : User), next.users[id]? = some user → holds user := by
  cases moves with
  | @user taken =>
      cases found : run.users[taken]? with
      | none => simpa [stepUser, found, release] using before
      | some taker =>
          obtain ⟨_, _, _, same⟩ := stepUser_eq plan found
          intro id user there
          rw [same, Array.getElem?_setIfInBounds] at there
          split at there
          · split at there
            · cases there
              exact turns run taken taker (before taken taker found)
            · cases there
          · exact before id user there
  | @dispatcher event =>
      intro id user there
      cases event with
      | finished =>
          obtain ⟨_, same⟩ := undertake_finished plan run
          rw [same] at there
          exact before id user there
      | cancelled reason wake =>
          obtain ⟨_, same⟩ := undertake_cancelled plan run reason wake
          rw [same] at there
          exact before id user there
      | due moment =>
          obtain earlier | ⟨_, rfl⟩ := user_of_due there
          · exact before id user earlier
          · exact starts id
      | joined ending => exact before id user there
      | graceOver =>
          obtain ⟨_, same⟩ := undertake_graceOver plan run
          rw [same, Array.getElem?_map] at there
          obtain ⟨earlier, found, rfl⟩ := Option.map_eq_some_iff.1 there
          exact stops earlier (before id earlier found)
  | collector =>
      obtain ⟨_, _, _, _, _, _, _, same⟩ := stepCollector_eq plan run
      rw [same]
      exact before
  | caller =>
      obtain ⟨_, _, _, _, _, _, _, same⟩ := stepCaller_eq run
      rw [same]
      exact before
  | stop =>
      obtain ⟨_, same⟩ := cancelFor_eq run .shutdown
      rw [same]
      exact before
  | pass => exact before
  | reorder => exact before

/-- What holds of users when they start and is kept by their turns, and by being told to stop,
holds of all users of a run. -/
theorem Reachable.forall_users (reachable : Reachable plan may run)
    (starts : ∀ id, holds (.start id (plan.randoms id) plan.scenario.steps))
    (turns : ∀ run id user, holds user → holds (turnOf plan run id user).1.user)
    (stops : ∀ user, holds user → holds user.abort) {id : Nat} {user : User}
    (there : run.users[id]? = some user) : holds user := by
  have all : ∀ (id : Nat) (user : User), run.users[id]? = some user → holds user := by
    apply reachable.invariant
    · intro feeders transport id user there
      cases there
    · intro run next moves before
      exact moves.forall_users starts turns stops before
  exact all id user there

end

end Run

end LoadTest
