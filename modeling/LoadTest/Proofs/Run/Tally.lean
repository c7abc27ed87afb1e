import LoadTest.Proofs.Run.Interleaving

/-!
Every user is counted exactly once.

`Dispatch.Counted` is what every event keeps about the dispatcher alone: a user that was
scheduled is pending, spawned or unstarted, and a user that was spawned is waited for or
in the tally.  `Run.Counted` ties this to the users of a run: those waited for are those
that have not ended and those whose ending lies in the queue.
-/

namespace LoadTest

/-- The user did not come to this ending on its own. -/
def Ending.isCancellation : Ending → Bool
  | .cancelled _ => true
  | .aborted => true
  | _ => false

theorem Tally.cancelled_record {ending : Ending} (own : ending.isCancellation = false)
    (tally : Tally) : (tally.record ending).cancelled = tally.cancelled := by
  cases ending <;> first | rfl | cases own

namespace Dispatch

structure Counted (total : Nat) (dispatch : Dispatch) : Prop where
  spawned_eq : dispatch.tally.spawned = dispatch.nextId
  ended_eq : dispatch.tally.ended + dispatch.unjoined = dispatch.nextId
  scheduled_eq : dispatch.nextId + dispatch.pending.length + dispatch.tally.unstarted = total
  pending_eq : dispatch.stage ≠ .spawning → dispatch.pending = []
  unstarted_eq : dispatch.reason? = none → dispatch.tally.unstarted = 0
  unjoined_eq : dispatch.isOver = true → dispatch.unjoined = 0

variable {total : Nat} {dispatch : Dispatch}

theorem counted_start (offsets : List Duration) : (start offsets).Counted offsets.length := by
  constructor <;> simp [start, Tally.zero, Tally.ended, isOver]

theorem dueCount_le (now : Nat) (pending : List Duration) :
    dueCount now pending ≤ pending.length :=
  (List.takeWhile_sublist _).length_le

theorem Counted.spawn (counted : dispatch.Counted total) (spawning : dispatch.stage = .spawning)
    {count : Nat} (enough : count ≤ dispatch.pending.length) :
    (dispatch.spawn count).Counted total := by
  obtain ⟨spawned, ended, scheduled, pending, unstarted, unjoined⟩ := counted
  constructor
  · rfl
  · simp only [Dispatch.spawn, Tally.ended] at ended ⊢
    omega
  · simp only [Dispatch.spawn, List.length_drop] at scheduled ⊢
    omega
  · exact fun closed => absurd spawning closed
  · exact unstarted
  · exact fun finished => by simp [Dispatch.spawn, isOver, spawning] at finished

theorem Counted.close (counted : dispatch.Counted total) (spawning : dispatch.stage = .spawning)
    {stage : Stage} (closed : stage ≠ .spawning)
    (done : ∀ reason, stage = .finished reason →
      dispatch.pending = [] ∧ dispatch.unjoined = 0) :
    (dispatch.close stage).Counted total := by
  obtain ⟨spawned, ended, scheduled, pending, unstarted, unjoined⟩ := counted
  have none_unstarted := unstarted (by simp [reason?, spawning])
  constructor
  · exact spawned
  · exact ended
  · simp only [Dispatch.close, List.length_nil]
    omega
  · exact fun _ => rfl
  · intro uncancelled
    cases stage with
    | spawning => exact absurd rfl closed
    | finished reason => simp [Dispatch.close, (done reason rfl).1]
    | _ => simp [Dispatch.close, reason?] at uncancelled
  · intro finished
    cases stage with
    | finished reason => exact (done reason rfl).2
    | _ => simp [Dispatch.close, isOver] at finished

theorem Counted.join (counted : dispatch.Counted total) (waited : 0 < dispatch.unjoined)
    (ending : Ending) : (dispatch.join ending).Counted total := by
  obtain ⟨spawned, ended, scheduled, pending, unstarted, unjoined⟩ := counted
  constructor
  · simpa [Dispatch.join] using spawned
  · simp only [Dispatch.join, Tally.ended_record]
    omega
  · simpa [Dispatch.join] using scheduled
  · exact pending
  · simpa [Dispatch.join, reason?] using unstarted
  · intro finished
    have none_unjoined := unjoined finished
    omega

/-- Ending the wait for users that were spawned. -/
theorem Counted.stage (counted : dispatch.Counted total) (closed : dispatch.pending = [])
    {stage : Stage} (cancelled : stage = .spawning ∨ stage = .finished none → False)
    (done : ∀ reason, stage = .finished reason → dispatch.unjoined = 0) :
    Counted total { dispatch with stage } := by
  obtain ⟨spawned, ended, scheduled, pending, unstarted, unjoined⟩ := counted
  refine ⟨spawned, ended, scheduled, fun _ => closed, fun uncancelled => ?_, fun finished => ?_⟩
  · cases stage with
    | spawning => exact (cancelled (.inl rfl)).elim
    | finished reason =>
        cases reason with
        | none => exact (cancelled (.inr rfl)).elim
        | some reason => simp [reason?] at uncancelled
    | _ => simp [reason?] at uncancelled
  · cases stage with
    | finished reason => exact done reason rfl
    | _ => simp [isOver] at finished

/-- What must be the case when an event reaches the dispatcher. -/
def Takes (dispatch : Dispatch) : Event → Prop
  | .finished => dispatch.unjoined = 0 ∧ (dispatch.stage = .spawning → dispatch.pending = [])
  | .joined _ => 0 < dispatch.unjoined
  | _ => True

theorem Counted.handle (counted : dispatch.Counted total) {event : Event}
    (takes : dispatch.Takes event) : (dispatch.handle event).Counted total := by
  cases event with
  | joined ending => simpa only [Dispatch.handle] using counted.join takes ending
  | due now =>
      cases stage : dispatch.stage with
      | spawning =>
          simp only [Dispatch.handle, stage]
          exact counted.spawn stage (dueCount_le ..)
      | _ => simpa only [Dispatch.handle, stage] using counted
  | cancelled reason wake =>
      cases stage : dispatch.stage with
      | spawning =>
          simp only [Dispatch.handle, stage]
          exact counted.close stage nofun nofun
      | _ => simpa only [Dispatch.handle, stage] using counted
  | finished =>
      obtain ⟨none_unjoined, none_pending⟩ := takes
      cases stage : dispatch.stage with
      | spawning =>
          simp only [Dispatch.handle, stage]
          exact counted.close stage nofun fun _ _ => ⟨none_pending stage, none_unjoined⟩
      | finished reason => simpa only [Dispatch.handle, stage] using counted
      | grace wake reason =>
          simp only [Dispatch.handle, stage]
          exact counted.stage (counted.pending_eq (by simp [stage])) (by simp)
            fun _ _ => none_unjoined
      | draining reason =>
          simp only [Dispatch.handle, stage]
          exact counted.stage (counted.pending_eq (by simp [stage])) (by simp)
            fun _ _ => none_unjoined
  | graceOver =>
      cases stage : dispatch.stage with
      | grace wake reason =>
          simp only [Dispatch.handle, stage]
          exact counted.stage (counted.pending_eq (by simp [stage])) (by simp) nofun
      | _ => simpa only [Dispatch.handle, stage] using counted

/-- The events that spawn nobody and wait for nobody. -/
def Event.isNotice : Event → Bool
  | .due _ => false
  | .joined _ => false
  | _ => true

theorem handle_notice (dispatch : Dispatch) {event : Event} (notice : event.isNotice = true) :
    (dispatch.handle event).nextId = dispatch.nextId ∧
      (dispatch.handle event).unjoined = dispatch.unjoined := by
  unfold handle
  split
  · cases notice
  · cases notice
  all_goals exact ⟨rfl, rfl⟩

/-- A reason for which a run was cancelled is never taken back. -/
theorem reason?_of_handle {event : Event} (uncancelled : (dispatch.handle event).reason? = none) :
    dispatch.reason? = none := by
  cases stage : dispatch.stage with
  | spawning => simp [reason?, stage]
  | finished reason => cases event <;> simpa [handle, join, reason?, stage] using uncancelled
  | _ => cases event <;> simp [handle, join, reason?, stage] at uncancelled

theorem reason?_finished (uncancelled : dispatch.reason? = none) :
    (dispatch.handle .finished).reason? = none := by
  cases stage : dispatch.stage with
  | finished reason => simpa [handle, reason?, stage] using uncancelled
  | _ => simp_all [handle, Dispatch.close, reason?]

theorem cancelled_handle {event : Event} (noEnding : ∀ ending, event ≠ .joined ending) :
    (dispatch.handle event).tally.cancelled = dispatch.tally.cancelled := by
  cases event with
  | joined ending => exact absurd rfl (noEnding ending)
  | _ => cases stage : dispatch.stage <;> simp [handle, stage, Dispatch.spawn, Dispatch.close]

end Dispatch

namespace Run

variable {State : Type} {plan : Plan State} {may : Run State → Choice → Prop}
  {run next : Run State}

def working (users : Array User) : Nat := users.countP fun user => !user.hasEnded

structure Counted (plan : Plan State) (run : Run State) : Prop where
  dispatch : run.dispatch.Counted plan.offsets.length
  size_eq : run.users.size = run.dispatch.nextId
  live_eq : run.live = working run.users
  unjoined_eq : run.dispatch.unjoined = run.live + run.endings.length

theorem working_set {users : Array User} {id : Nat} {user : User}
    (there : users[id]? = some user) (turned : User) :
    working (users.setIfInBounds id turned) + (!user.hasEnded).toNat =
      working users + (!turned.hasEnded).toNat := by
  obtain ⟨within, rfl⟩ := Array.getElem?_eq_some_iff.1 there
  have counts (ended : users[id].hasEnded = false) : 0 < working users :=
    Array.countP_pos_iff.2 ⟨users[id], Array.getElem_mem within, by simp [ended]⟩
  simp only [working] at counts ⊢
  rw [Array.setIfInBounds_def, dif_pos within, Array.countP_set within]
  cases before : users[id].hasEnded with
  | true => cases after : turned.hasEnded <;> simp
  | false =>
      have := counts before
      cases after : turned.hasEnded <;> simp <;> omega

theorem Counted.stepUser (counted : Counted plan run) (id : Nat) :
    Counted plan (run.stepUser plan id) := by
  cases there : run.users[id]? with
  | none =>
      simp only [Run.stepUser, there]
      exact ⟨counted.dispatch, counted.size_eq, counted.live_eq, counted.unjoined_eq⟩
  | some user =>
      obtain ⟨clock, focus, log, same⟩ := stepUser_eq plan there
      have ends : (!user.hasEnded).toNat =
          (run.turnOf plan id user).1.pace.ending?.toList.length +
            (!(run.turnOf plan id user).1.user.hasEnded).toNat := User.turn_ends
      have set := working_set there (run.turnOf plan id user).1.user
      have live := counted.live_eq
      have unjoined := counted.unjoined_eq
      rw [same]
      refine ⟨counted.dispatch, ?_, ?_, ?_⟩
      · simpa using counted.size_eq
      · show run.live - _ = working (run.users.setIfInBounds id (run.turnOf plan id user).1.user)
        omega
      · simp only [List.length_append]
        omega

/-- Only what the tally is about matters. -/
theorem Counted.congr (counted : Counted plan run) (users : next.users = run.users)
    (live : next.live = run.live) (dispatch : next.dispatch = run.dispatch)
    (endings : run.endings.Perm next.endings) : Counted plan next where
  dispatch := dispatch ▸ counted.dispatch
  size_eq := by rw [users, dispatch, counted.size_eq]
  live_eq := by rw [users, live, counted.live_eq]
  unjoined_eq := by rw [dispatch, live, ← endings.length_eq, counted.unjoined_eq]

/-- An event that is no more than a notice to the dispatcher. -/
theorem Counted.notice (counted : Counted plan run) (event : Dispatch.Event)
    (takes : run.dispatch.Takes event) (notice : event.isNotice = true)
    (dispatch : next.dispatch = run.dispatch.handle event) (size : next.users.size = run.users.size)
    (working_eq : working next.users = working run.users) (live : next.live = run.live)
    (endings : next.endings = run.endings) : Counted plan next := by
  obtain ⟨nextId, unjoined⟩ := Dispatch.handle_notice run.dispatch notice
  refine ⟨?_, ?_, ?_, ?_⟩
  · rw [dispatch]
    exact counted.dispatch.handle takes
  · rw [size, dispatch, nextId, counted.size_eq]
  · rw [live, working_eq, counted.live_eq]
  · rw [dispatch, unjoined, live, endings, counted.unjoined_eq]

theorem working_append (users : Array User) (ids : List Nat) (randoms : Nat → Random)
    (steps : List Step) :
    working (users ++ (ids.map fun id => User.start id (randoms id) steps).toArray) =
      working users + ids.length := by
  have fresh : (ids.map fun id => User.start id (randoms id) steps).countP (fun user => !user.hasEnded) =
      ids.length := by
    rw [List.countP_map]
    exact List.countP_eq_length.2 fun id _ => rfl
  simp [working, ← Array.countP_toList, fresh]

theorem Counted.due (counted : Counted plan run) (spawning : run.dispatch.stage = .spawning)
    (moment : Nat) : Counted plan (run.undertake plan (.due moment)) := by
  obtain ⟨clock, same⟩ := undertake_due plan run moment
  have size := counted.size_eq
  have live := counted.live_eq
  have unjoined := counted.unjoined_eq
  have handled : run.dispatch.handle (.due moment) =
      run.dispatch.spawn (Dispatch.dueCount moment run.dispatch.pending) := by
    simp only [Dispatch.handle, spawning]
  have kept := counted.dispatch.spawn spawning (Dispatch.dueCount_le moment _)
  rw [same, handled]
  generalize Dispatch.dueCount moment run.dispatch.pending = count at kept
  have added : (run.dispatch.spawn count).nextId - run.users.size = count := by
    simp only [Dispatch.spawn]
    omega
  simp only [added]
  refine ⟨kept, ?_, ?_, ?_⟩
  · simp [size, Dispatch.spawn]
  · rw [working_append, live]
  · simp only [Dispatch.spawn, List.length_map, List.length_range]
    omega

theorem Counted.joined (counted : Counted plan run) {ending : Ending}
    (ended : run.endings.head? = some ending) :
    Counted plan (run.undertake plan (.joined ending)) := by
  obtain ⟨rest, endings⟩ := List.head?_eq_some_iff.1 ended
  have unjoined := counted.unjoined_eq
  rw [endings, List.length_cons] at unjoined
  have takes : run.dispatch.Takes (.joined ending) := by
    simp only [Dispatch.Takes]
    omega
  refine ⟨counted.dispatch.handle takes, counted.size_eq, counted.live_eq, ?_⟩
  · simp only [undertake, Dispatch.handle, Dispatch.join, endings, List.tail_cons]
    omega

theorem Counted.undertake (counted : Counted plan run) {event : Dispatch.Event}
    (possible : run.Possible plan event) : Counted plan (run.undertake plan event) := by
  cases possible with
  | finished none_unjoined none_pending =>
      obtain ⟨clock, same⟩ := undertake_finished plan run
      rw [same]
      exact counted.notice .finished ⟨none_unjoined, none_pending⟩ rfl rfl rfl rfl rfl rfl
  | @cancelled reason wake =>
      obtain ⟨clock, same⟩ := undertake_cancelled plan run reason wake
      rw [same]
      exact counted.notice (.cancelled reason wake) trivial rfl rfl rfl rfl rfl rfl
  | @deadline wake =>
      obtain ⟨clock, same⟩ := undertake_cancelled plan run .timeout wake
      rw [same]
      exact counted.notice (.cancelled .timeout wake) trivial rfl rfl rfl rfl rfl rfl
  | due spawning => exact counted.due spawning _
  | joined ended => exact counted.joined ended
  | graceOver =>
      obtain ⟨clock, same⟩ := undertake_graceOver plan run
      rw [same]
      refine counted.notice .graceOver trivial rfl rfl (by simp) ?_ rfl rfl
      simp only [working, Array.countP_map]
      exact congrArg (Array.countP · run.users) (funext fun user => by
        simp [User.hasEnded_abort])

theorem Counted.moves (counted : Counted plan run) (moves : Moves plan may run next) :
    Counted plan next := by
  cases moves with
  | user => exact counted.stepUser _
  | dispatcher _ possible => exact counted.undertake possible
  | collector =>
      obtain ⟨_, _, _, _, _, _, _, same⟩ := stepCollector_eq plan run
      exact counted.congr (by rw [same]) (by rw [same]) (by rw [same]) (by rw [same])
  | caller =>
      obtain ⟨_, _, _, _, _, _, _, same⟩ := stepCaller_eq run
      exact counted.congr (by rw [same]) (by rw [same]) (by rw [same]) (by rw [same])
  | stop =>
      obtain ⟨_, same⟩ := cancelFor_eq run .shutdown
      exact counted.congr (by rw [same]) (by rw [same]) (by rw [same]) (by rw [same])
  | pass => exact counted.congr rfl rfl rfl .rfl
  | reorder perm => exact counted.congr rfl rfl rfl perm

/-- Nothing in a run shows that it was cancelled. -/
structure Calm (run : Run State) : Prop where
  reason : run.dispatch.reason? = none
  users : ∀ user ∈ run.users, user.activity ≠ .aborting
  endings : ∀ ending ∈ run.endings, ending.isCancellation = false
  tally : run.dispatch.tally.cancelled = 0

theorem Calm.congr (calm : Calm run) (dispatch : next.dispatch = run.dispatch)
    (users : next.users = run.users) (endings : run.endings.Perm next.endings) : Calm next where
  reason := dispatch ▸ calm.reason
  users := users ▸ calm.users
  endings ending queued := calm.endings ending (endings.mem_iff.2 queued)
  tally := dispatch ▸ calm.tally

theorem Calm.stepUser (calm : Calm run) (uncancelled : run.cancel = none) (id : Nat) :
    Calm (run.stepUser plan id) := by
  cases there : run.users[id]? with
  | none =>
      simp only [Run.stepUser, there]
      exact calm.congr rfl rfl .rfl
  | some user =>
      obtain ⟨clock, focus, log, same⟩ := stepUser_eq plan there
      have fresh : user.activity ≠ .aborting := calm.users user (Array.mem_of_getElem? there)
      rw [same]
      refine ⟨calm.reason, fun other among => ?_, fun ending queued => ?_, calm.tally⟩
      · obtain before | rfl := Array.mem_or_eq_of_mem_setIfInBounds among
        · exact calm.users other before
        · exact User.turn_fresh fresh
      · obtain before | finished := List.mem_append.1 queued
        · exact calm.endings ending before
        · have allows : user.activity.Allows run.cancel ending :=
            User.turn_allows (Pace.ending?_eq_some_iff.1 (Option.mem_toList.1 finished))
          cases ending with
          | cancelled reason => cases uncancelled.symm.trans allows
          | aborted => exact absurd allows fresh
          | _ => rfl

theorem Calm.joined (calm : Calm run) {ending : Ending}
    (ended : run.endings.head? = some ending) : Calm (run.undertake plan (.joined ending)) where
  reason := calm.reason
  users := calm.users
  endings other queued := calm.endings other (List.mem_of_mem_tail queued)
  tally := by
    have own := calm.endings ending (List.mem_of_head? ended)
    exact (Tally.cancelled_record own _).trans calm.tally

theorem Calm.undertake (calm : Calm run) {event : Dispatch.Event}
    (possible : run.Possible plan event)
    (uncancelled : (run.undertake plan event).cancel = none) : Calm (run.undertake plan event) := by
  cases possible with
  | finished none_unjoined none_pending =>
      obtain ⟨clock, same⟩ := undertake_finished plan run
      rw [same]
      refine ⟨?_, calm.users, calm.endings, ?_⟩
      · exact Dispatch.reason?_finished calm.reason
      · rw [Dispatch.cancelled_handle (by simp), calm.tally]
  | @cancelled reason wake =>
      obtain ⟨clock, same⟩ := undertake_cancelled plan run reason wake
      rw [same] at uncancelled
      simp at uncancelled
  | @deadline wake =>
      obtain ⟨clock, same⟩ := undertake_cancelled plan run .timeout wake
      rw [same] at uncancelled
      simp at uncancelled
  | @due moment spawning =>
      obtain ⟨clock, same⟩ := undertake_due plan run moment
      rw [same]
      refine ⟨?_, fun user among => ?_, calm.endings, ?_⟩
      · simp [Dispatch.handle, spawning, Dispatch.spawn, Dispatch.reason?]
      · obtain before | added := Array.mem_append.1 among
        · exact calm.users user before
        · obtain ⟨id, _, rfl⟩ := List.mem_map.1 (List.mem_toArray.1 added)
          intro aborting
          cases aborting
      · rw [Dispatch.cancelled_handle (by simp), calm.tally]
  | joined ended => exact calm.joined ended
  | graceOver grace =>
      have reason := calm.reason
      simp [Dispatch.reason?, grace] at reason

theorem Calm.moves (calm : Calm run) (moves : Moves plan may run next)
    (uncancelled : next.cancel = none) : Calm next := by
  have uncancelledBefore := moves.uncancelled uncancelled
  cases moves with
  | user => exact calm.stepUser uncancelledBefore _
  | dispatcher _ possible => exact calm.undertake possible uncancelled
  | collector =>
      obtain ⟨_, _, _, _, _, _, _, same⟩ := stepCollector_eq plan run
      exact calm.congr (by rw [same]) (by rw [same]) (by rw [same])
  | caller =>
      obtain ⟨_, _, _, _, _, _, _, same⟩ := stepCaller_eq run
      exact calm.congr (by rw [same]) (by rw [same]) (by rw [same])
  | stop =>
      obtain ⟨_, same⟩ := cancelFor_eq run .shutdown
      exact calm.congr (by rw [same]) (by rw [same]) (by rw [same])
  | pass => exact calm.congr rfl rfl .rfl
  | reorder perm => exact calm.congr rfl rfl perm

/-- What every move keeps, in whatever order. -/
structure Tallied (plan : Plan State) (may : Run State → Choice → Prop) (run : Run State) :
    Prop where
  counted : Counted plan run
  calm : run.cancel = none → Calm run
  clean : Biased may → run.dispatch.reason? = none → run.dispatch.tally.cancelled = 0

theorem tallied_start (feeders : SortedMap String Feeder) (transport : State) :
    Tallied plan may (.start plan feeders transport) where
  counted := ⟨Dispatch.counted_start _, rfl, rfl, rfl⟩
  calm _ := ⟨rfl, by simp [Run.start], by simp [Run.start], rfl⟩
  clean _ _ := rfl

/-- When the dispatcher is done, it has seen every ending. -/
theorem endings_of_isOver (counted : Counted plan run) (finished : run.dispatch.isOver = true) :
    run.endings = [] := by
  have none_unjoined := counted.dispatch.unjoined_eq finished
  have unjoined := counted.unjoined_eq
  apply List.eq_nil_of_length_eq_zero
  omega

theorem Tallied.clean_handle (tallied : Tallied plan may run) (biased : Biased may)
    {event : Dispatch.Event} (allowed : may run (.event event)) (possible : run.Possible plan event)
    (uncancelled : (run.dispatch.handle event).reason? = none) :
    (run.dispatch.handle event).tally.cancelled = 0 := by
  have before := Dispatch.reason?_of_handle uncancelled
  have clean := tallied.clean biased before
  cases possible with
  | @joined ending ended =>
      cases stage : run.dispatch.stage with
      | spawning =>
          have calm := tallied.calm (biased run ending allowed stage)
          have own := calm.endings ending (List.mem_of_head? ended)
          exact (Tally.cancelled_record own _).trans clean
      | finished reason =>
          have isOver : run.dispatch.isOver = true := by simp [Dispatch.isOver, stage]
          rw [endings_of_isOver tallied.counted isOver] at ended
          cases ended
      | _ => simp [Dispatch.reason?, stage] at before
  | _ => rw [Dispatch.cancelled_handle (by simp), clean]

theorem Tallied.moves (tallied : Tallied plan may run) (moves : Moves plan may run next) :
    Tallied plan may next where
  counted := tallied.counted.moves moves
  calm uncancelled := (tallied.calm (moves.uncancelled uncancelled)).moves moves uncancelled
  clean biased uncancelled := by
    obtain same | ⟨event, allowed, possible, handled⟩ := moves.dispatch_cases
    · rw [same] at uncancelled ⊢
      exact tallied.clean biased uncancelled
    · rw [handled] at uncancelled ⊢
      exact tallied.clean_handle biased allowed possible uncancelled

theorem Reachable.tallied (reachable : Reachable plan may run) : Tallied plan may run :=
  reachable.invariant tallied_start fun _ _ moves tallied => tallied.moves moves

/-- When the dispatcher is done, every scheduled user was spawned or is unstarted, and every
spawned user completed, failed or was cancelled, whatever happened in whatever order.  There are
neither unstarted nor cancelled users if the run was not cancelled: if it was given no reason, or,
as long as a cancellation is seen first, if it ended without one. -/
theorem tally_of_isOver {State : Type} {plan : Plan State} {may : Run State → Choice → Prop}
    {run : Run State} (reachable : Reachable plan may run) (finished : run.dispatch.isOver = true) :
    let tally := run.dispatch.tally
    tally.spawned + tally.unstarted = plan.offsets.length ∧
      tally.completed + tally.failed + tally.cancelled = tally.spawned ∧
      (run.cancel = none ∨ Biased may ∧ run.dispatch.reason? = none →
        tally.unstarted = 0 ∧ tally.cancelled = 0) := by
  have ⟨counted, calm, clean⟩ := reachable.tallied
  have unjoined := counted.dispatch.unjoined_eq finished
  have ended := counted.dispatch.ended_eq
  have spawned := counted.dispatch.spawned_eq
  have scheduled := counted.dispatch.scheduled_eq
  have pending : run.dispatch.pending = [] :=
    counted.dispatch.pending_eq fun spawning => by simp [Dispatch.isOver, spawning] at finished
  rw [pending, List.length_nil] at scheduled
  simp only [Tally.ended] at ended
  refine ⟨by omega, by omega, ?_⟩
  rintro (uncancelled | ⟨biased, uncancelled⟩)
  · exact ⟨counted.dispatch.unstarted_eq (calm uncancelled).reason, (calm uncancelled).tally⟩
  · exact ⟨counted.dispatch.unstarted_eq uncancelled, clean biased uncancelled⟩

/-- Two users, the second of whom is due after the run has timed out. -/
def shortPlan : Plan Unit where
  scenario := ⟨"pause", [.pause (.fixed (.ofMillis 5000))], .stopUser⟩
  protocol := ⟨"http://localhost", []⟩
  transport := ⟨fun _ _ _ => (⟨.zero, .ok ⟨200, [], [], .zero⟩⟩, ())⟩
  offsets := [.zero, .ofMillis 3000]
  maxDuration := some (.ofMillis 1000)
  gracePeriod := .ofMillis 100
  snapshotInterval := .ofMillis 1000
  randoms := .forUsers 0
  actions := []

theorem tally_of_shortPlan :
    let run := iterate shortPlan 60 (.start shortPlan ∅ ())
    let tally := run.dispatch.tally
    Reachable shortPlan (Chooses shortPlan) run ∧ run.dispatch.isOver = true ∧
      tally.spawned + tally.unstarted = 2 ∧
      tally.completed + tally.failed + tally.cancelled = tally.spawned ∧
      (run.cancel = none ∨ Biased (Chooses shortPlan) ∧ run.dispatch.reason? = none →
        tally.unstarted = 0 ∧ tally.cancelled = 0) := by
  have reachable : Reachable shortPlan (Chooses shortPlan)
      (iterate shortPlan 60 (.start shortPlan ∅ ())) :=
    reachable_iterate 60 ⟨∅, (), .refl⟩
  have finished : (iterate shortPlan 60 (.start shortPlan ∅ ())).dispatch.isOver = true := by
    decide +kernel
  exact ⟨reachable, finished, tally_of_isOver reachable finished⟩

end Run

end LoadTest
