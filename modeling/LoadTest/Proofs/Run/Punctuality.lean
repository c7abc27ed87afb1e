import LoadTest.Proofs.Run.Clock
import LoadTest.Proofs.Run.Tally
import LoadTest.Proofs.User.Alone
import Mathlib.Data.List.Nodup

/-!
Users take their turns on time.

As long as a run is not cancelled its clock keeps all of its users (`Run.Punctual`).  So a user
that waits takes its next turn at the very moment for which it waits, and the steps of a run are
moves in the order `Run.Timely`.
-/

namespace LoadTest

namespace User

/-- The moment for which a user waits. -/
def waitsUntil? (user : User) : Option Nat :=
  match user.activity with
  | .pausing wake => some wake
  | .awaiting _ _ _ wake => some wake
  | _ => none

variable {World : Type} {setting : Setting} {outside : Outside World} {cancel : Option CancelReason}
  {now : Nat} {world : World} {user : User}

theorem onTime_of_waitsUntil? (reached : ∀ wake, user.waitsUntil? = some wake → wake = now) :
    user.OnTime now := by
  obtain ⟨walk, random, activity⟩ := user
  cases activity with
  | pausing wake => exact Nat.le_of_eq (reached wake rfl)
  | awaiting call outcome since wake =>
      cases outcome with
      | ok response => exact Nat.le_of_eq (reached wake rfl)
      | error error => exact reached wake rfl
  | _ => trivial

theorem lt_of_wakeAfter? {duration : Duration} {wake : Nat}
    (waits : wakeAfter? now duration = some wake) : now < wake := by
  unfold wakeAfter? at waits
  dsimp only at waits
  split at waits
  · cases waits
  next later =>
    cases waits
    exact Nat.lt_of_not_le later

theorem not_waiting_settle {policy : FailurePolicy} {walk : Walk} {deeds : List Deed}
    {result : StepResult} {wake : Nat} :
    ¬(user.settle policy walk deeds result).pace = .waiting wake := by
  obtain ⟨_, finished, _⟩ | ⟨onward, _⟩ := @settle_cases walk policy deeds result user
  · simp [finished]
  · simp [onward]

theorem lt_of_send_waiting {walk : Walk} {request : Request} {wake : Nat}
    (waits : (user.send setting outside now world walk request).1.pace = .waiting wake) :
    now < wake := by
  unfold send at waits
  split at waits
  · exact (not_waiting_settle waits).elim
  · dsimp only at waits
    split at waits
    · exact (not_waiting_settle waits).elim
    next told =>
      cases waits
      exact lt_of_wakeAfter? told

theorem lt_of_pause_waiting {walk : Walk} {pause : Pause} {wake : Nat}
    (waits : (user.pause now walk pause).pace = .waiting wake) : now < wake := by
  unfold User.pause at waits
  dsimp only at waits
  split at waits
  · split at waits
    · cases waits
    next told =>
      cases waits
      exact lt_of_wakeAfter? told
  · cases waits

theorem not_waiting_exec {walk : Walk} {hook : Hook} {wake : Nat} :
    ¬(user.exec walk hook).pace = .waiting wake := by
  unfold exec
  split <;> simp [finish]

theorem not_waiting_feed {walk : Walk} {feeder : String} {wake : Nat} :
    ¬(user.feed setting outside world walk feeder).1.pace = .waiting wake := by
  rcases draws : outside.draw world feeder with ⟨_ | drawn, later⟩
  · simp [feed_of_crash draws, finish]
  · rw [feed_of_drawn draws]
    exact not_waiting_settle

theorem lt_of_advance_waiting {wake : Nat}
    (waits : (user.advance setting outside cancel now world).1.pace = .waiting wake) :
    now < wake := by
  unfold advance at waits
  split at waits
  · cases waits
  · split at waits
    · cases waits
    · cases waits
    · cases waits
    · exact lt_of_send_waiting waits
    · exact lt_of_pause_waiting waits
    · exact (not_waiting_feed waits).elim
    · exact (not_waiting_exec waits).elim
    · cases waits

theorem lt_of_turn_waiting {wake : Nat}
    (waits : (user.turn setting outside cancel now world).1.pace = .waiting wake) : now < wake := by
  unfold turn at waits
  split at waits
  · exact lt_of_advance_waiting waits
  · exact lt_of_advance_waiting waits
  · exact (not_waiting_settle waits).elim
  · cases waits
  · cases waits

end User

/-- The moment until which a turn makes a user wait. -/
def Pace.wake? : Pace → Option Nat
  | .waiting wake => some wake
  | _ => none

theorem Advance.Coherent.waitsUntil?_eq {advance : Advance} (coherent : advance.Coherent) :
    advance.user.waitsUntil? = advance.pace.wake? := by
  obtain ⟨user, deeds, pace⟩ := advance
  cases pace with
  | waiting wake =>
      obtain pausing | ⟨call, outcome, since, awaiting⟩ := coherent
      · simp only at pausing
        simp only [User.waitsUntil?, pausing, Pace.wake?]
      · simp only at awaiting
        simp only [User.waitsUntil?, awaiting, Pace.wake?]
  | idle => cases coherent
  | _ =>
      simp only [Coherent] at coherent
      simp only [User.waitsUntil?, coherent, Pace.wake?]

theorem User.turn_waitsUntil? {World : Type} {setting : Setting} {outside : Outside World}
    {cancel : Option CancelReason} {now : Nat} {world : World} (user : User) :
    (user.turn setting outside cancel now world).1.user.waitsUntil? =
      (user.turn setting outside cancel now world).1.pace.wake? := by
  by_cases ended : user.activity = .ended
  · rw [turn_of_ended ended]
    simp only [waitsUntil?, ended, Pace.wake?]
  · exact (turn_coherent ended).waitsUntil?_eq

namespace Run

variable {State : Type} {plan : Plan State} {run next : Run State} {id : Nat}

/-- The clock of a run keeps every user, and users that were not spawned are nowhere. -/
structure Punctual (run : Run State) : Prop where
  ordered : run.clock.Ordered
  absent : ∀ id, run.users.size ≤ id → run.clock.places (.user id) = 0
  keeps : ∀ id, run.clock.Keeps run.focus id (run.users[id]?.bind User.waitsUntil?)

theorem Punctual.turn (punctual : Punctual run) (focused : run.focus = some (.user id)) :
    run.clock.Keeps (some (.user id)) id (run.users[id]?.bind User.waitsUntil?) := by
  rw [← focused]
  exact punctual.keeps id

theorem Punctual.onTime (punctual : Punctual run) (focused : run.focus = some (.user id))
    {user : User} (there : run.users[id]? = some user) : user.OnTime run.clock.now := by
  apply User.onTime_of_waitsUntil?
  intro wake waits
  have keeps := punctual.turn focused
  rw [there] at keeps
  exact keeps.now_eq waits

/-- A user that has its turn stays nowhere else, whatever is done for others. -/
theorem Punctual.vacant (punctual : Punctual run) (focused : run.focus = some (.user id))
    {clock : Clock} (spares : run.clock.Spares id clock) : clock.places (.user id) = 0 := by
  have nowhere := (punctual.turn focused).vacant
  have fewer := spares.places_le
  omega

/-- Users were left where they are. -/
structure Spared (run next : Run State) : Prop where
  users_eq : next.users = run.users
  focus_iff : ∀ id, next.focus = some (.user id) ↔ run.focus = some (.user id)
  spares : ∀ id, run.clock.Spares id next.clock

/-- A run went on, is punctual, and its clock did not go back. -/
structure Proceeds (run next : Run State) : Prop where
  punctual : Punctual next
  later : run.clock.now ≤ next.clock.now

theorem Punctual.spared (punctual : Punctual run) (spared : Spared run next) :
    Proceeds run next where
  later := Nat.le_of_eq (spared.spares 0).now_eq.symm
  punctual.ordered := (spared.spares 0).ordered punctual.ordered
  punctual.absent id beyond := by
    rw [spared.users_eq] at beyond
    have nowhere := punctual.absent id beyond
    have fewer := (spared.spares id).places_le
    omega
  punctual.keeps id := by
    rw [spared.users_eq]
    exact (punctual.keeps id).spare (spared.spares id) (spared.focus_iff id)

/-! ### Turns of the other tasks -/

theorem focus_iff_of_none {task : Task} (apart : ∀ id, task ≠ .user id)
    (focused : run.focus = some task) (id : Nat) :
    none = some (Task.user id) ↔ run.focus = some (.user id) := by
  simp [focused, apart]

theorem spared_stepCaller (focused : run.focus = some .caller)
    (uncancelled : run.stepCaller.cancel = none) : Spared run run.stepCaller := by
  have released := focus_iff_of_none (by simp) focused
  unfold stepCaller at uncancelled ⊢
  split at uncancelled
  next moment action rest actions =>
    simp only [actions]
    dsimp only at uncancelled
    split at uncancelled
    next reached =>
      rw [if_pos reached]
      cases action with
      | stop =>
          obtain ⟨_, same⟩ := cancelFor_eq { run with actions := rest } .shutdown
          simp [same] at uncancelled
      | snapshot => exact ⟨rfl, fun _ => Iff.rfl, fun id => .refl id run.clock⟩
    next later =>
      rw [if_neg later]
      refine ⟨rfl, released, ?_⟩
      intro id
      exact (Clock.Spares.clearAlarms run.clock .caller (by simp)).trans
        (.setAlarm _ .caller (by simp) _)
  next actions =>
    simp only [actions]
    split
    · exact ⟨rfl, released, fun id => .refl id run.clock⟩
    · exact ⟨rfl, released, fun id => .refl id run.clock⟩

theorem spared_stepCollector (focused : run.focus = some .collector) :
    Spared run (run.stepCollector plan) := by
  have released := focus_iff_of_none (by simp) focused
  unfold stepCollector
  split
  · exact ⟨rfl, fun _ => Iff.rfl, fun id => .refl id run.clock⟩
  · split
    · refine ⟨rfl, released, ?_⟩
      intro id
      exact (Clock.Spares.clearAlarms run.clock .collector (by simp)).trans
        (.wake _ .caller (by simp))
    · split
      · exact ⟨rfl, fun _ => Iff.rfl, fun id => .refl id run.clock⟩
      · split
        · exact ⟨rfl, released, fun id => .refl id run.clock⟩
        · refine ⟨rfl, released, ?_⟩
          intro id
          exact .setAlarm run.clock .collector (by simp) _

theorem spares_foldl_setAlarm (id : Nat) (times : List Nat) (clock : Clock) :
    clock.Spares id (times.foldl (fun clock time => clock.setAlarm time .dispatcher) clock) := by
  induction times generalizing clock with
  | nil => exact .refl id clock
  | cons time times inductionHypothesis =>
      exact (Clock.Spares.setAlarm clock .dispatcher (by simp) time).trans (inductionHypothesis _)

theorem spared_undertake_finished : Spared run (run.undertake plan .finished) := by
  unfold undertake
  dsimp only
  split
  · exact ⟨rfl, fun _ => Iff.rfl, fun id => .wake run.clock .caller (by simp)⟩
  · refine ⟨rfl, fun _ => Iff.rfl, ?_⟩
    intro id
    exact (Clock.Spares.wake run.clock .collector (by simp)).trans (.wake _ .caller (by simp))

/-! ### New users -/

/-- The tasks of the users that are spawned at a moment. -/
def newTasks (run : Run State) (moment : Nat) : List Task :=
  (List.range ((run.dispatch.handle (.due moment)).nextId - run.users.size)).map
    fun index => .user (run.users.size + index)

theorem mem_newTasks {moment : Nat} :
    .user id ∈ run.newTasks moment ↔
      run.users.size ≤ id ∧ id < (run.dispatch.handle (.due moment)).nextId := by
  simp only [newTasks, List.mem_map, List.mem_range, Task.user.injEq]
  constructor
  · rintro ⟨index, within, rfl⟩
    omega
  · intro bounds
    exact ⟨id - run.users.size, by omega, by omega⟩

theorem count_newTasks_le (moment : Nat) : (run.newTasks moment).count (.user id) ≤ 1 := by
  apply List.nodup_iff_count_le_one.1
  apply List.nodup_range.map
  intro index other same
  simpa using same

theorem clock_of_due (moment : Nat) :
    (run.undertake plan (.due moment)).clock =
      (run.newTasks moment).foldl Clock.wake run.clock := by
  simp only [undertake, addUsers, newTasks, List.foldl_map]

theorem Punctual.due (punctual : Punctual run) (focused : run.focus = some .dispatcher)
    (moment : Nat) : Proceeds run (run.undertake plan (.due moment)) := by
  obtain ⟨clock, same⟩ := undertake_due plan run moment
  have now : (run.undertake plan (.due moment)).clock.now = run.clock.now := by
    rw [clock_of_due, Clock.now_foldl_wake]
  have focus : (run.undertake plan (.due moment)).focus = run.focus := by rw [same]
  have size : (run.undertake plan (.due moment)).users.size =
      run.users.size + ((run.dispatch.handle (.due moment)).nextId - run.users.size) := by
    simp [same]
  refine ⟨⟨?_, ?_, ?_⟩, Nat.le_of_eq now.symm⟩
  · rw [Clock.Ordered, clock_of_due, Clock.alarms_foldl_wake]
    exact punctual.ordered
  · intro id beyond
    rw [size] at beyond
    have apart : .user id ∉ run.newTasks moment := by
      rw [mem_newTasks]
      omega
    have nowhere := punctual.absent id (by omega)
    have fewer := (Clock.Spares.foldl_wake run.clock apart).places_le
    rw [clock_of_due]
    omega
  · intro id
    rw [clock_of_due, focus]
    by_cases known : id < run.users.size
    · have apart : .user id ∉ run.newTasks moment := by
        rw [mem_newTasks]
        omega
      have before : (run.undertake plan (.due moment)).users[id]? = run.users[id]? := by
        rw [same]
        exact Array.getElem?_append_left known
      rw [before]
      exact (punctual.keeps id).spare (.foldl_wake run.clock apart) Iff.rfl
    · have none_waiting :
          (run.undertake plan (.due moment)).users[id]?.bind User.waitsUntil? = none := by
        cases there : (run.undertake plan (.due moment)).users[id]? with
        | none => rfl
        | some user =>
            obtain before | ⟨_, rfl⟩ := user_of_due there
            · exact absurd (Array.getElem?_eq_some_iff.1 before).1 known
            · rfl
      rw [none_waiting]
      apply Clock.keeps_wake (punctual.absent id (Nat.le_of_not_lt known))
      · simp [focused]
      · exact count_newTasks_le moment

/-! ### Turns of users -/

theorem spares_foldl_observe (id other : Nat) (deeds : List Deed) (run : Run State) :
    run.clock.Spares other (deeds.foldl (observe · id) run).clock := by
  induction deeds generalizing run with
  | nil => exact .refl other run.clock
  | cons deed deeds inductionHypothesis =>
      have first : run.clock.Spares other (observe run id deed).clock := by
        cases deed with
        | recorded metric => exact .wake run.clock .collector (by simp)
        | _ => exact .refl other run.clock
      exact first.trans (inductionHypothesis _)

/-- One user was replaced, and the others were left where they are. -/
theorem Punctual.replace (punctual : Punctual run) (focused : run.focus = some (.user id))
    (known : id < run.users.size) {user : User}
    (users : next.users = run.users.setIfInBounds id user)
    (focus : next.focus = run.focus ∨ next.focus = none)
    (spares : ∀ other, other ≠ id → run.clock.Spares other next.clock)
    (keeps : next.clock.Keeps next.focus id user.waitsUntil?) : Proceeds run next where
  later := Nat.le_of_eq (spares (id + 1) (by omega)).now_eq.symm
  punctual.ordered := (spares (id + 1) (by omega)).ordered punctual.ordered
  punctual.absent other beyond := by
    rw [users, Array.size_setIfInBounds] at beyond
    have nowhere := punctual.absent other beyond
    have fewer := (spares other (by omega)).places_le
    omega
  punctual.keeps other := by
    rw [users, Array.getElem?_setIfInBounds]
    by_cases own : id = other
    · subst own
      rw [if_pos rfl, if_pos known]
      exact keeps
    · rw [if_neg own]
      apply (punctual.keeps other).spare (spares other (Ne.symm own))
      obtain focus | focus := focus
      · rw [focus]
      · simp [focus, focused, own]

theorem spares_endUser (other : Nat) (run : Run State) (ending : Ending) :
    run.clock.Spares other (run.endUser ending).clock := by
  unfold endUser
  dsimp only
  split
  · exact .wake run.clock .dispatcher (by simp)
  · exact (Clock.Spares.wake run.clock .dispatcher (by simp)).trans (.wake _ .collector (by simp))

theorem Punctual.follow (punctual : Punctual run) (focused : run.focus = some (.user id))
    (known : id < run.users.size) {advance : Advance}
    (waits : advance.user.waitsUntil? = advance.pace.wake?)
    (later : ∀ wake, advance.pace = .waiting wake → run.clock.now < wake) :
    Proceeds run (run.follow id advance) := by
  have spares (other : Nat) := spares_foldl_observe id other advance.deeds run
  obtain ⟨_, _, same⟩ := foldl_observe id advance.deeds run
  unfold Run.follow
  generalize advance.deeds.foldl (observe · id) run = observed at spares same
  have users : (observed.setUser id advance.user).users =
      run.users.setIfInBounds id advance.user := by rw [same]; rfl
  have focus : (observed.setUser id advance.user).focus = run.focus := by rw [same]; rfl
  have vacant := punctual.vacant focused (spares id)
  cases pace : advance.pace with
  | onward =>
      rw [pace] at waits
      refine punctual.replace focused known users (.inl focus) (fun other _ => spares other) ?_
      rw [waits]
      exact Clock.keeps_of_vacant vacant
  | yielding =>
      rw [pace] at waits
      refine punctual.replace focused known users (.inr rfl) ?_ ?_
      · intro other apart
        exact (spares other).trans (.holdBack _ (.user id) (by simpa using apart))
      · rw [waits]
        exact Clock.keeps_holdBack vacant
  | waiting wake =>
      rw [pace] at waits
      refine punctual.replace focused known users (.inr rfl) ?_ ?_
      · intro other apart
        exact (spares other).trans (.setAlarm _ (.user id) (by simpa using apart) wake)
      · rw [waits]
        apply Clock.keeps_setAlarm vacant
        have reached := later wake pace
        rw [← (spares id).now_eq] at reached
        exact reached
  | finished ending =>
      rw [pace] at waits
      have ends (other : Nat) :=
        (spares other).trans (spares_endUser other (observed.setUser id advance.user) ending)
      obtain ⟨_, ended⟩ := endUser_eq (observed.setUser id advance.user) ending
      dsimp only
      rw [ended] at ends ⊢
      refine punctual.replace focused known users (.inr rfl) (fun other _ => ends other) ?_
      rw [waits]
      exact Clock.keeps_of_vacant (punctual.vacant focused (ends id))
  | idle =>
      rw [pace] at waits
      refine punctual.replace focused known users (.inr rfl) (fun other _ => spares other) ?_
      rw [waits]
      exact Clock.keeps_of_vacant vacant

theorem Punctual.stepUser (punctual : Punctual run) (focused : run.focus = some (.user id)) :
    Proceeds run (run.stepUser plan id) := by
  have vacant := (punctual.turn focused).vacant
  unfold Run.stepUser
  cases there : run.users[id]? with
  | none =>
      refine ⟨⟨punctual.ordered, punctual.absent, ?_⟩, Nat.le_refl _⟩
      intro other
      by_cases own : other = id
      · subst own
        simp only [release, there]
        exact Clock.keeps_of_vacant vacant
      · apply (punctual.keeps other).spare (.refl other run.clock)
        simp [release, focused, Ne.symm own]
  | some user =>
      obtain ⟨known, _⟩ := Array.getElem?_eq_some_iff.1 there
      -- A user that pauses has no alarm any more when its turn comes.
      have unalarmed : run.clock.clearAlarms (.user id) = run.clock :=
        Clock.clearAlarms_of_vacant vacant
      let sent : Run State :=
        { run with
          transport := (run.turnOf plan id user).2.1
          feeders := (run.turnOf plan id user).2.2 }
      have same : Punctual sent := ⟨punctual.ordered, punctual.absent, punctual.keeps⟩
      have proceeds : Proceeds sent (sent.follow id (run.turnOf plan id user).1) := by
        apply same.follow focused known user.turn_waitsUntil?
        intro wake waiting
        exact User.lt_of_turn_waiting waiting
      simp only [unalarmed, ite_self]
      exact ⟨proceeds.punctual, proceeds.later⟩

/-! ### Steps -/

theorem Punctual.stepDispatcher (punctual : Punctual run) (focused : run.focus = some .dispatcher)
    (calm : run.dispatch.reason? = none) (uncancelled : (run.stepDispatcher plan).cancel = none) :
    Proceeds run (run.stepDispatcher plan) := by
  have released := focus_iff_of_none (by simp) focused
  unfold Run.stepDispatcher at uncancelled ⊢
  dsimp only at uncancelled ⊢
  cases comes : run.dispatch.next? (run.view plan) with
  | some event =>
      simp only [comes] at uncancelled ⊢
      obtain rfl | ⟨moment, rfl⟩ | ⟨ending, rfl, _⟩ :=
        (possible_of_next? comes).ordinary calm uncancelled
      · exact punctual.spared spared_undertake_finished
      · exact punctual.due focused moment
      · exact ⟨⟨punctual.ordered, punctual.absent, punctual.keeps⟩, Nat.le_refl _⟩
  | none =>
      dsimp only
      split
      · exact punctual.spared ⟨rfl, released, fun id => .refl id run.clock⟩
      · refine punctual.spared ⟨rfl, released, ?_⟩
        intro id
        exact (Clock.Spares.clearAlarms run.clock .dispatcher (by simp)).trans
          (spares_foldl_setAlarm id _ _)

theorem Punctual.step (punctual : Punctual run) (calm : run.dispatch.reason? = none)
    (uncancelled : (run.step plan).cancel = none) : Proceeds run (run.step plan) := by
  unfold Run.step at uncancelled ⊢
  cases focused : run.focus with
  | none =>
      refine ⟨⟨punctual.ordered.next, ?_, ?_⟩, run.clock.now_le_next⟩
      · intro id beyond
        have nowhere := punctual.absent id beyond
        have fewer := @Clock.places_next_le run.clock id
        dsimp only
        omega
      · intro id
        have keeps := punctual.keeps id
        rw [focused] at keeps
        exact keeps.next punctual.ordered
  | some task =>
      simp only [focused] at uncancelled
      cases task with
      | caller => exact punctual.spared (spared_stepCaller focused uncancelled)
      | collector => exact punctual.spared (spared_stepCollector focused)
      | dispatcher => exact punctual.stepDispatcher focused calm uncancelled
      | user id => exact punctual.stepUser focused

/-! ### Runs -/

/-- Users take their turns when their waits are over, and not too late for their pauses.  Whatever
else happens may happen at any time. -/
def Timely (run : Run State) : Choice → Prop
  | .user id => ∀ user, run.users[id]? = some user →
      user.OnTime run.clock.now ∧ user.PausesInTime run.clock.now
  | .event _ => True

def TimelyMoves (plan : Plan State) (run next : Run State) : Prop :=
  Moves plan Timely run next ∧ run.clock.now ≤ next.clock.now

/-- The user whose turn it is does not come too late for its pause. -/
def PausesInTime (run : Run State) : Prop :=
  match run.focus with
  | some (.user id) => ∀ user ∈ run.users[id]?, user.PausesInTime run.clock.now
  | _ => True

instance (run : Run State) : Decidable run.PausesInTime := by
  unfold PausesInTime
  split <;> infer_instance

theorem Moves.mono {may other : Run State → Choice → Prop} (moves : Moves plan may run next)
    (weaker : ∀ choice, may run choice → other run choice) : Moves plan other run next := by
  cases moves with
  | user allowed => exact .user (weaker _ allowed)
  | dispatcher allowed possible => exact .dispatcher (weaker _ allowed) possible
  | collector => exact .collector
  | caller => exact .caller
  | stop => exact .stop
  | pass => exact .pass
  | reorder perm => exact .reorder perm

theorem Punctual.timelyMoves (punctual : Punctual run) (calm : run.dispatch.reason? = none)
    (uncancelled : (run.step plan).cancel = none) (inTime : run.PausesInTime) :
    TimelyMoves plan run (run.step plan) := by
  refine ⟨moves_step.mono ?_, (punctual.step calm uncancelled).later⟩
  intro choice chosen
  cases choice with
  | event event => trivial
  | user id =>
      have focused : run.focus = some (.user id) := chosen
      intro user there
      refine ⟨punctual.onTime focused there, ?_⟩
      simp only [PausesInTime, focused] at inTime
      exact inTime user there

theorem iterate_succ (fuel : Nat) (run : Run State) :
    iterate plan (fuel + 1) run =
      if (iterate plan fuel run).finished then iterate plan fuel run
      else (iterate plan fuel run).step plan := by
  induction fuel generalizing run with
  | zero => rfl
  | succ fuel inductionHypothesis =>
      by_cases finished : run.finished = true
      · simp [iterate, finished]
      · have skip (fuel : Nat) :
            iterate plan (fuel + 1) run = iterate plan fuel (run.step plan) := by
          rw [iterate, if_neg finished]
        rw [skip, skip, inductionHypothesis]

theorem punctual_start (feeders : SortedMap String Feeder) (transport : State) :
    Punctual (.start plan feeders transport) := by
  have nowhere (id : Nat) : (Clock.start [.collector, .dispatcher]).places (.user id) = 0 := by
    simp [Clock.places, Clock.start]
  refine ⟨List.Pairwise.nil, fun id _ => nowhere id, ?_⟩
  intro id
  exact Clock.keeps_of_vacant (nowhere id)

/-- A run that was not cancelled came of timely moves if no user came too late for its pause. -/
theorem path_iterate {feeders : SortedMap String Feeder} {transport : State} {fuel : Nat}
    (inTime : ∀ turns < fuel, (iterate plan turns (.start plan feeders transport)).PausesInTime)
    (uncancelled : (iterate plan fuel (.start plan feeders transport)).cancel = none) :
    Relation.ReflTransGen (TimelyMoves plan) (.start plan feeders transport)
      (iterate plan fuel (.start plan feeders transport)) := by
  suffices kept : Punctual (iterate plan fuel (.start plan feeders transport)) ∧
      Relation.ReflTransGen (TimelyMoves plan) (.start plan feeders transport)
        (iterate plan fuel (.start plan feeders transport)) from kept.2
  induction fuel with
  | zero => exact ⟨punctual_start feeders transport, .refl⟩
  | succ fuel inductionHypothesis =>
      have earlier (turns : Nat) (before : turns < fuel) := inTime turns (by omega)
      rw [iterate_succ] at uncancelled ⊢
      by_cases finished : (iterate plan fuel (.start plan feeders transport)).finished = true
      · rw [if_pos finished] at uncancelled ⊢
        exact inductionHypothesis earlier uncancelled
      · rw [if_neg finished] at uncancelled ⊢
        have before := moves_step.uncancelled uncancelled
        obtain ⟨punctual, path⟩ := inductionHypothesis earlier before
        have reachable : Reachable plan (Chooses plan)
            (iterate plan fuel (.start plan feeders transport)) :=
          reachable_iterate fuel ⟨feeders, transport, .refl⟩
        have calm := (reachable.tallied.calm before).reason
        have moves := punctual.timelyMoves calm uncancelled (inTime fuel (Nat.lt_succ_self fuel))
        exact ⟨(punctual.step calm uncancelled).punctual, path.tail moves⟩

end Run

end LoadTest
