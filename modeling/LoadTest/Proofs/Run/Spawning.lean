import LoadTest.Proofs.Run.Tally

/-!
Users are spawned when they are due, in the order of the schedule.

The users not yet spawned are the rest of the schedule (`Dispatch.InLine`).  If the schedule is in
order, those due at a moment come first in it (`Dispatch.lt_dueCount_iff`).  When users turn due,
`Dispatch.next?` has seen neither a cancellation nor the deadline (`Dispatch.Prompts`).
-/

namespace LoadTest

theorem millisecondOf_le_iff {nanos now : Nat} :
    millisecondOf nanos ≤ now ↔ nanos ≤ nanosPerMilli * now := by
  unfold millisecondOf nanosPerMilli
  omega

namespace Dispatch

/-- What the dispatcher saw if it goes on to spawn the users that are due at a moment. -/
structure Prompts (dispatch : Dispatch) (view : View) (moment : Nat) : Prop where
  stage_eq : dispatch.stage = .spawning
  uncancelled : view.cancel = none
  in_time : ∀ deadline, view.deadline = some deadline → view.now < deadline
  due : dispatch.pending.head?.any (dueAt · ≤ view.now) = true
  moment_eq : moment = nanosPerMilli * view.now

theorem prompts_of_next? {dispatch : Dispatch} {view : View} {moment : Nat}
    (comes : dispatch.next? view = some (.due moment)) : dispatch.Prompts view moment := by
  unfold next? at comes
  split at comes
  next spawning =>
    split at comes
    · cases comes
    · split at comes
      · cases comes
      next uncancelled =>
        split at comes
        · cases comes
        next inTime =>
          split at comes
          next due =>
            cases comes
            refine ⟨spawning, uncancelled, ?_, due, rfl⟩
            intro deadline limited
            simpa [limited] using inTime
          next =>
            obtain ⟨ending, _, other⟩ := Option.map_eq_some_iff.1 comes
            cases other
  next =>
    split at comes
    · cases comes
    · split at comes
      · cases comes
      · split at comes <;> cases comes
  next =>
    split at comes
    · cases comes
    · split at comes <;> cases comes
  next => cases comes

theorem lt_dueCount_iff {now index : Nat} {pending : List Duration}
    (sorted : pending.Pairwise (· ≤ ·)) (known : index < pending.length) :
    index < dueCount now pending ↔ pending[index].nanos ≤ now := by
  induction pending generalizing index with
  | nil => exact absurd known (Nat.not_lt_zero _)
  | cons first rest inductionHypothesis =>
      obtain ⟨least, sortedRest⟩ := List.pairwise_cons.1 sorted
      by_cases due : first.nanos ≤ now
      · have counted : dueCount now (first :: rest) = dueCount now rest + 1 := by
          simp [dueCount, due]
        rw [counted]
        cases index with
        | zero => simpa using due
        | succ index =>
            rw [Nat.add_lt_add_iff_right, List.getElem_cons_succ]
            exact inductionHypothesis sortedRest (Nat.lt_of_succ_lt_succ known)
      · have counted : dueCount now (first :: rest) = 0 := by
          simp [dueCount, due]
        rw [counted]
        constructor
        · intro below
          exact absurd below (Nat.not_lt_zero _)
        · intro dueThere
          apply absurd (Nat.le_trans _ dueThere) due
          cases index with
          | zero => exact Nat.le_refl _
          | succ index =>
              exact Duration.le_iff.1 (least _ (List.getElem_mem (Nat.lt_of_succ_lt_succ known)))

theorem dueCount_eq_zero {now : Nat} {pending : List Duration}
    (none_due : ¬ pending.head?.any (dueAt · ≤ now) = true) :
    dueCount (nanosPerMilli * now) pending = 0 := by
  cases pending with
  | nil => rfl
  | cons first rest =>
      have later : ¬ first.nanos ≤ nanosPerMilli * now := by
        intro reached
        apply none_due
        simp [dueAt, millisecondOf_le_iff.2 reached]
      simp [dueCount, later]

/-- The users not yet spawned are the rest of the schedule. -/
def InLine (offsets : List Duration) (dispatch : Dispatch) : Prop :=
  dispatch.stage = .spawning → dispatch.pending = offsets.drop dispatch.nextId

theorem InLine.handle {offsets : List Duration} {dispatch : Dispatch}
    (inLine : dispatch.InLine offsets) (event : Event) :
    (dispatch.handle event).InLine offsets := by
  intro spawning
  cases stage : dispatch.stage with
  | spawning =>
      cases event with
      | joined ending => exact inLine stage
      | due moment =>
          simp only [Dispatch.handle, stage, Dispatch.spawn, inLine stage, List.drop_drop]
      | graceOver => simpa only [Dispatch.handle, stage] using inLine stage
      | _ => simp [Dispatch.handle, stage, Dispatch.close] at spawning
  | _ => cases event <;> simp [Dispatch.handle, stage, Dispatch.join] at spawning

end Dispatch

namespace Run

variable {State : Type} {plan : Plan State} {may : Run State → Choice → Prop}
  {run next : Run State}

/-- As long as users are spawned, events are handled in the order of the dispatcher.  After that an
ending and the end of the grace period may come in any order, as may the turns of the users at
all times. -/
def Orderly (plan : Plan State) (may : Run State → Choice → Prop) : Prop :=
  ∀ run event, run.dispatch.stage = .spawning → may run (.event event) →
    run.dispatch.next? (run.view plan) = some event

theorem orderly_chooses : Orderly plan (Chooses plan) := fun _ _ _ chosen => chosen

theorem Reachable.inLine (reachable : Reachable plan may run) :
    run.dispatch.InLine plan.offsets := by
  have kept (run next : Run State) (moves : Moves plan may run next)
      (inLine : run.dispatch.InLine plan.offsets) : next.dispatch.InLine plan.offsets := by
    obtain same | ⟨event, _, _, handled⟩ := moves.dispatch_cases
    · rw [same]
      exact inLine
    · rw [handled]
      exact inLine.handle event
  apply reachable.invariant _ kept
  intro _ _ _
  rfl

/-- What a move does that spawns the users who are due, if any. -/
structure Spawns (plan : Plan State) (run next : Run State) : Prop where
  uncancelled : run.cancel = none
  in_time : ∀ limit, plan.maxDuration = some limit → run.clock.nowNanos < limit.nanos
  users_eq : next.users = run.users ++
    ((List.range' run.dispatch.nextId (next.dispatch.nextId - run.dispatch.nextId)).map fun id =>
      User.start id (plan.randoms id) plan.scenario.steps).toArray
  /-- Of those not yet spawned it spawns all that are due. -/
  due_iff : ∀ id (known : id < plan.offsets.length), run.dispatch.nextId ≤ id →
    (id < next.dispatch.nextId ↔ plan.offsets[id].nanos ≤ run.clock.nowNanos)

theorem in_time_of_view
    (inTime : ∀ deadline, (run.view plan).deadline = some deadline → run.clock.now < deadline)
    (limit : Duration) (limited : plan.maxDuration = some limit) :
    run.clock.nowNanos < limit.nanos := by
  have before := inTime (millisecondOf limit.nanos) (by simp [view, limited])
  apply Nat.lt_of_not_le
  intro passed
  have reached : millisecondOf limit.nanos ≤ run.clock.now := millisecondOf_le_iff.2 passed
  omega

theorem lt_spawned_iff (sorted : plan.offsets.Pairwise (· ≤ ·))
    (inLine : run.dispatch.pending = plan.offsets.drop run.dispatch.nextId) (now id : Nat)
    (known : id < plan.offsets.length) (unspawned : run.dispatch.nextId ≤ id) :
    id < run.dispatch.nextId + Dispatch.dueCount now run.dispatch.pending ↔
      plan.offsets[id].nanos ≤ now := by
  obtain ⟨ahead, rfl⟩ := Nat.exists_eq_add_of_le unspawned
  have there : ahead < run.dispatch.pending.length := by
    rw [inLine, List.length_drop]
    omega
  have sortedPending : run.dispatch.pending.Pairwise (· ≤ ·) := by
    rw [inLine]
    exact sorted.sublist (List.drop_sublist ..)
  have same : run.dispatch.pending[ahead] = plan.offsets[run.dispatch.nextId + ahead] := by
    simp only [inLine, List.getElem_drop]
  rw [Nat.add_lt_add_iff_left, ← same]
  exact Dispatch.lt_dueCount_iff sortedPending there

theorem spawns_due (sorted : plan.offsets.Pairwise (· ≤ ·)) (counted : Counted plan run)
    (inLine : run.dispatch.InLine plan.offsets) {moment : Nat}
    (prompts : run.dispatch.Prompts (run.view plan) moment) :
    Spawns plan run (run.undertake plan (.due moment)) := by
  obtain ⟨clock, same⟩ := undertake_due plan run moment
  have now : moment = run.clock.nowNanos := prompts.moment_eq
  have handled : run.dispatch.handle (.due moment) =
      run.dispatch.spawn (Dispatch.dueCount moment run.dispatch.pending) := by
    simp only [Dispatch.handle, prompts.stage_eq]
  rw [same, handled, now]
  refine ⟨prompts.uncancelled, in_time_of_view prompts.in_time, ?_, ?_⟩
  · simp only [Dispatch.spawn, counted.size_eq, Nat.add_sub_cancel_left, List.range'_eq_map_range]
  · exact lt_spawned_iff sorted (inLine prompts.stage_eq) run.clock.nowNanos

theorem Moves.spawns (moves : Moves plan may run next) (reachable : Reachable plan may run)
    (sorted : plan.offsets.Pairwise (· ≤ ·)) (orderly : Orderly plan may) :
    next.dispatch.nextId = run.dispatch.nextId ∨ Spawns plan run next := by
  obtain same | ⟨event, allowed, possible, rfl⟩ := moves.undertakes
  · left
    rw [same]
  · cases event with
    | due moment =>
        right
        have spawning : run.dispatch.stage = .spawning := by
          cases possible
          assumption
        apply spawns_due sorted reachable.tallied.counted reachable.inLine
        exact Dispatch.prompts_of_next? (orderly run _ spawning allowed)
    | joined ending =>
        left
        rfl
    | _ =>
        left
        rw [undertake_dispatch]
        exact (Dispatch.handle_notice _ rfl).1

/-- Whoever is spawned is due before the deadline. -/
def InTime (plan : Plan State) (run : Run State) : Prop :=
  ∀ limit, plan.maxDuration = some limit → ∀ id (known : id < plan.offsets.length),
    id < run.dispatch.nextId → plan.offsets[id] < limit

theorem Spawns.inTime (spawns : Spawns plan run next) (inTime : InTime plan run) :
    InTime plan next := by
  intro limit limited id known spawned
  by_cases before : id < run.dispatch.nextId
  · exact inTime limit limited id known before
  · have due := (spawns.due_iff id known (Nat.le_of_not_lt before)).1 spawned
    exact Duration.lt_iff.2 (Nat.lt_of_le_of_lt due (spawns.in_time limit limited))

theorem Reachable.inTime (reachable : Reachable plan may run)
    (sorted : plan.offsets.Pairwise (· ≤ ·)) (orderly : Orderly plan may) : InTime plan run := by
  -- That a move spawns in time is known of reachable runs only.
  have kept (run next : Run State) (moves : Moves plan may run next)
      (holds : Reachable plan may run ∧ InTime plan run) :
      Reachable plan may next ∧ InTime plan next := by
    obtain ⟨reachable, inTime⟩ := holds
    refine ⟨reachable.move moves, ?_⟩
    obtain same | spawns := moves.spawns reachable sorted orderly
    · rw [InTime, same]
      exact inTime
    · exact spawns.inTime inTime
  refine (reachable.invariant ?_ kept).2
  intro feeders transport
  refine ⟨⟨feeders, transport, .refl⟩, ?_⟩
  intro _ _ id _ spawned
  exact absurd spawned (Nat.not_lt_zero id)

/-- After a cancellation nobody is spawned. -/
theorem Reachable.nextId_of_cancelled (reachable : Reachable plan may run)
    (sorted : plan.offsets.Pairwise (· ≤ ·)) (orderly : Orderly plan may)
    (cancelled : run.cancel ≠ none) {later : Run State}
    (path : Relation.ReflTransGen (Moves plan may) run later) :
    later.dispatch.nextId = run.dispatch.nextId := by
  suffices Reachable plan may later ∧ later.cancel ≠ none ∧
      later.dispatch.nextId = run.dispatch.nextId from this.2.2
  induction path with
  | refl => exact ⟨reachable, cancelled, rfl⟩
  | tail _ moves inductionHypothesis =>
      obtain ⟨reachable, cancelled, same⟩ := inductionHypothesis
      refine ⟨reachable.move moves, ?_, ?_⟩
      · intro uncancelled
        exact cancelled (moves.uncancelled uncancelled)
      · obtain unchanged | spawns := moves.spawns reachable sorted orderly
        · rw [unchanged, same]
        · exact absurd spawns.uncancelled cancelled

theorem not_passed (inTime : ∀ limit, plan.maxDuration = some limit →
    run.clock.nowNanos < limit.nanos) :
    (run.view plan).deadline.any (· ≤ (run.view plan).now) = false := by
  cases limited : plan.maxDuration with
  | none => simp [view, limited]
  | some limit =>
      have before := inTime limit limited
      have later : ¬ millisecondOf limit.nanos ≤ run.clock.now := by
        intro reached
        exact Nat.not_lt_of_le (millisecondOf_le_iff.1 reached) before
      simpa [view, limited] using later

/-- An event that lets nobody start. -/
theorem undertake_quiet {event : Dispatch.Event} (possible : run.Possible plan event)
    (spawning : run.dispatch.stage = .spawning) (quiet : ∀ moment, event ≠ .due moment) :
    (run.undertake plan event).dispatch.nextId = run.dispatch.nextId ∧
      (run.undertake plan event).users = run.users := by
  cases possible with
  | finished =>
      obtain ⟨clock, same⟩ := undertake_finished plan run
      rw [same]
      exact ⟨(Dispatch.handle_notice _ rfl).1, rfl⟩
  | @cancelled reason wake =>
      obtain ⟨clock, same⟩ := undertake_cancelled plan run reason wake
      rw [same]
      exact ⟨(Dispatch.handle_notice _ rfl).1, rfl⟩
  | @deadline wake =>
      obtain ⟨clock, same⟩ := undertake_cancelled plan run .timeout wake
      rw [same]
      exact ⟨(Dispatch.handle_notice _ rfl).1, rfl⟩
  | due => exact absurd rfl (quiet _)
  | joined => exact ⟨rfl, rfl⟩
  | graceOver grace => cases spawning.symm.trans grace

variable (plan) in
theorem stepDispatcher_quiet (spawning : run.dispatch.stage = .spawning)
    (none_due : ¬ run.dispatch.pending.head?.any (Dispatch.dueAt · ≤ run.clock.now) = true) :
    (run.stepDispatcher plan).dispatch.nextId = run.dispatch.nextId ∧
      (run.stepDispatcher plan).users = run.users := by
  unfold stepDispatcher
  dsimp only
  split
  next event comes =>
    apply undertake_quiet (possible_of_next? comes) spawning
    rintro moment rfl
    exact none_due (Dispatch.prompts_of_next? comes).due
  next =>
    split
    · exact ⟨rfl, rfl⟩
    · exact ⟨rfl, rfl⟩

/-- Whatever the other users are at, a turn of the dispatcher spawns all users that are due. -/
theorem spawns_stepDispatcher (reachable : Reachable plan may run)
    (sorted : plan.offsets.Pairwise (· ≤ ·)) (spawning : run.dispatch.stage = .spawning)
    (uncancelled : run.cancel = none)
    (inTime : ∀ limit, plan.maxDuration = some limit → run.clock.nowNanos < limit.nanos) :
    Spawns plan run (run.stepDispatcher plan) := by
  have inLine := reachable.inLine
  have notPassed := not_passed inTime
  by_cases due : run.dispatch.pending.head?.any (Dispatch.dueAt · ≤ run.clock.now) = true
  · have unfinished : run.dispatch.pending.isEmpty = false := by
      cases pending : run.dispatch.pending with
      | nil => simp [pending] at due
      | cons => rfl
    have comes : run.dispatch.next? (run.view plan) = some (.due run.clock.nowNanos) := by
      simp only [Dispatch.next?, spawning, unfinished, notPassed, Bool.false_and]
      simp only [view, uncancelled]
      exact if_pos due
    have steps : run.stepDispatcher plan = run.undertake plan (.due run.clock.nowNanos) := by
      simp only [stepDispatcher, comes]
    rw [steps]
    exact spawns_due sorted reachable.tallied.counted inLine (Dispatch.prompts_of_next? comes)
  · obtain ⟨same, users⟩ := stepDispatcher_quiet plan spawning due
    refine ⟨uncancelled, inTime, by simp [users, same], ?_⟩
    intro id known unspawned
    have reaches :=
      lt_spawned_iff sorted (inLine spawning) run.clock.nowNanos id known unspawned
    rwa [Clock.nowNanos, Dispatch.dueCount_eq_zero due, Nat.add_zero, ← same] at reaches

/-- What is the case about the users of a run at any moment. -/
structure SpawnsDue (plan : Plan State) (may : Run State → Choice → Prop) (run : Run State) :
    Prop where
  size_eq : run.users.size = run.dispatch.nextId
  spawned_eq : run.dispatch.tally.spawned = run.dispatch.nextId
  nextId_le : run.dispatch.nextId ≤ plan.offsets.length
  rest_eq : run.dispatch.InLine plan.offsets
  in_time : InTime plan run
  /-- Nobody is spawned but by a move that spawns all who are due, and only those. -/
  spawns : ∀ next, Moves plan may run next →
    next.dispatch.nextId = run.dispatch.nextId ∨ Spawns plan run next
  /-- The dispatcher does so at its turn. -/
  spawns_turn : run.dispatch.stage = .spawning → run.cancel = none →
    (∀ limit, plan.maxDuration = some limit → run.clock.nowNanos < limit.nanos) →
    Spawns plan run (run.stepDispatcher plan)
  closed : run.cancel ≠ none → ∀ later, Relation.ReflTransGen (Moves plan may) run later →
    later.dispatch.nextId = run.dispatch.nextId

/-- The users that were spawned come first in the schedule, in its order.  Nobody is spawned before
its offset, after a cancellation or past the deadline, and when anybody is spawned, all who are due
are. -/
theorem spawnsDue_of_reachable (reachable : Reachable plan may run)
    (sorted : plan.offsets.Pairwise (· ≤ ·)) (orderly : Orderly plan may) :
    SpawnsDue plan may run where
  size_eq := reachable.tallied.counted.size_eq
  spawned_eq := reachable.tallied.counted.dispatch.spawned_eq
  nextId_le := by
    have scheduled := reachable.tallied.counted.dispatch.scheduled_eq
    omega
  rest_eq := reachable.inLine
  in_time := reachable.inTime sorted orderly
  spawns _ moves := moves.spawns reachable sorted orderly
  spawns_turn := spawns_stepDispatcher reachable sorted
  closed cancelled _ path := reachable.nextId_of_cancelled sorted orderly cancelled path

/-- Four users; the last is due at the very moment at which the run times out. -/
def tightPlan : Plan Unit :=
  { shortPlan with
    offsets := [.zero, .ofMillis 1000, .ofMillis 1000, .ofMillis 3000]
    maxDuration := some (.ofMillis 3000) }

theorem spawnsDue_of_tightPlan :
    let run := iterate tightPlan 30 (.start tightPlan ∅ ())
    tightPlan.offsets.Pairwise (· ≤ ·) ∧ Orderly tightPlan (Chooses tightPlan) ∧
      Reachable tightPlan (Chooses tightPlan) run ∧ run.clock.now = 3000 ∧
      run.users.size = 3 ∧ SpawnsDue tightPlan (Chooses tightPlan) run := by
  have sorted : tightPlan.offsets.Pairwise (· ≤ ·) := by decide +kernel
  have reachable : Reachable tightPlan (Chooses tightPlan)
      (iterate tightPlan 30 (.start tightPlan ∅ ())) :=
    reachable_iterate 30 ⟨∅, (), .refl⟩
  refine ⟨sorted, orderly_chooses, reachable, by decide +kernel, by decide +kernel, ?_⟩
  exact spawnsDue_of_reachable reachable sorted orderly_chooses

end Run

end LoadTest
