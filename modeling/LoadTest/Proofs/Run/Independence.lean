import LoadTest.Proofs.Run.Completion
import LoadTest.Proofs.Run.Punctuality
import LoadTest.Proofs.Stats.Order

/-!
Users of a run do not interfere with each other.

`Plan.solo` is a user of a plan on its own.  Every turn that it takes among others is a turn that
it takes alone (`Follows`), and neither the order of metrics nor that of endings matters.  So
what a run comes to is what its users come to alone.
-/

namespace LoadTest

/-- One more turn of one user adds what it did to what all did. -/
theorem flatMap_update_perm {α : Type} (did : Nat → Nat → List α) {turns : Nat → Nat}
    {id size : Nat} {added : List α} (known : id < size)
    (more : did id (turns id + 1) = did id (turns id) ++ added) :
    ((List.range size).flatMap fun index =>
        did index (Function.update turns id (turns id + 1) index)).Perm
      (((List.range size).flatMap fun index => did index (turns index)) ++ added) := by
  have same (index : Nat) (other : index ≠ id) :
      did index (Function.update turns id (turns id + 1) index) = did index (turns index) := by
    rw [Function.update_of_ne other]
  induction size with
  | zero => exact absurd known (Nat.not_lt_zero id)
  | succ size inductionHypothesis =>
      simp only [List.range_succ, List.flatMap_append, List.flatMap_singleton]
      by_cases last : id = size
      · subst last
        have earlier : ((List.range id).flatMap fun index =>
            did index (Function.update turns id (turns id + 1) index)) =
              (List.range id).flatMap fun index => did index (turns index) := by
          apply List.flatMap_congr
          intro index before
          exact same index (Nat.ne_of_lt (List.mem_range.1 before))
        rw [earlier, Function.update_self, more, List.append_assoc]
      · have earlier : id < size := by omega
        rw [same size (Ne.symm last)]
        have perm := (inductionHypothesis earlier).append_right (did size (turns size))
        rw [List.append_assoc] at perm ⊢
        exact perm.trans (List.perm_append_comm.append_left _)

theorem flatMap_range_of_quiet {α : Type} {did : Nat → List α} {size later : Nat}
    (more : size ≤ later) (quiet : ∀ index, size ≤ index → did index = []) :
    (List.range later).flatMap did = (List.range size).flatMap did := by
  induction more with
  | refl => rfl
  | step more inductionHypothesis =>
      rw [List.range_succ, List.flatMap_append, inductionHypothesis, List.flatMap_singleton,
        quiet _ more, List.append_nil]

theorem Tally.completed_record (tally : Tally) (ending : Ending) :
    (tally.record ending).completed = tally.completed + [ending].count .completed := by
  cases ending <;> rfl

theorem Tally.failed_record (tally : Tally) (ending : Ending) :
    (tally.record ending).failed = tally.failed + [ending].countP Ending.isFailure := by
  cases ending <;> rfl

section

variable {State : Type} (plan : Plan State) (answer : PreparedRequest → Reply)

/-- A user of a plan on its own, after so many turns. -/
def Plan.solo (id turns : Nat) : Journey Nat :=
  (Journey.step plan.setting (.alone answer) none)^[turns]
    (.start (.start id (plan.randoms id) plan.scenario.steps) 0)

def Plan.metrics (id turns : Nat) : List Metric :=
  (plan.solo answer id turns).deeds.filterMap Deed.metric?

theorem Plan.solo_succ (id turns : Nat) :
    plan.solo answer id (turns + 1) =
      (plan.solo answer id turns).step plan.setting (.alone answer) none :=
  Function.iterate_succ_apply' ..

theorem Plan.undisturbed_solo (id turns : Nat) :
    Journey.Undisturbed (plan.solo answer id turns) := by
  unfold solo
  rw [Journey.start_start]
  exact Journey.undisturbed_iterate (Journey.undisturbed_entering ..) turns

/-- What a user of a plan comes to on its own. -/
def Plan.ComesTo (id : Nat) (metrics : List Metric) (ending : Ending) : Prop :=
  ∃ turns, (plan.solo answer id turns).ending = some ending ∧ plan.metrics answer id turns = metrics

variable {plan answer}

theorem Plan.solo_of_ended {id turns later : Nat} (before : turns ≤ later) {ending : Ending}
    (ended : (plan.solo answer id turns).ending = some ending) :
    plan.solo answer id later = plan.solo answer id turns := by
  induction before with
  | refl => rfl
  | step before inductionHypothesis =>
      have idle : (plan.solo answer id turns).user.activity = .ended :=
        (plan.undisturbed_solo answer id turns).ended_iff.2 (by simp [ended])
      rw [plan.solo_succ, inductionHypothesis, Journey.step_of_ended idle]

theorem Plan.ComesTo.unique {id : Nat} {metrics others : List Metric} {ending other : Ending}
    (comes : plan.ComesTo answer id metrics ending) (goes : plan.ComesTo answer id others other) :
    metrics = others ∧ ending = other := by
  obtain ⟨turns, ended, rfl⟩ := comes
  obtain ⟨later, stopped, rfl⟩ := goes
  have same : plan.solo answer id later = plan.solo answer id turns := by
    obtain before | after := Nat.le_total turns later
    · exact solo_of_ended before ended
    · exact (solo_of_ended after stopped).symm
  unfold Plan.metrics
  rw [same] at stopped ⊢
  exact ⟨rfl, Option.some.inj (ended.symm.trans stopped)⟩

end

namespace Run

variable {State : Type} {plan : Plan State} {answer : PreparedRequest → Reply}
  {run next : Run State} {turns : Nat → Nat} {seen : List Ending} {counted : List Metric}

/-- Every user of a run is where it would be alone after some turns. -/
structure Follows (plan : Plan State) (answer : PreparedRequest → Reply) (run : Run State)
    (turns : Nat → Nat) : Prop where
  fresh : ∀ id, run.users.size ≤ id → turns id = 0
  feedless : ∀ (id : Nat) (user : User), run.users[id]? = some user → user.walk.Feedless
  alike : ∀ (id : Nat) (user : User), run.users[id]? = some user →
    user.Alike run.clock.now (plan.solo answer id (turns id)).world
      (plan.solo answer id (turns id)).user

/-- What was counted in a run is what its users did alone. -/
structure Sums (plan : Plan State) (answer : PreparedRequest → Reply) (run : Run State)
    (turns : Nat → Nat) (seen : List Ending) (counted : List Metric) : Prop where
  stats_eq : run.collector.stats = .ofMetrics counted
  metrics_perm : (counted ++ run.inbox).Perm
    ((List.range run.users.size).flatMap fun id => plan.metrics answer id (turns id))
  endings_perm : (seen ++ run.endings).Perm
    ((List.range run.users.size).flatMap fun id =>
      (plan.solo answer id (turns id)).ending.toList)
  completed_eq : run.dispatch.tally.completed = seen.count .completed
  failed_eq : run.dispatch.tally.failed = seen.countP Ending.isFailure

/-- What a transport has to be for its users not to notice each other. -/
structure Answers (plan : Plan State) (answer : PreparedRequest → Reply) : Prop where
  feedless : anyFeeds plan.scenario.steps = false
  send_eq : ∀ state user request, (plan.transport.send state user request).1 = answer request
  latent : ∀ request, Latent (answer request).outcome

/-- The turn of a user among others and the turn that it takes alone. -/
theorem Follows.turn_alike (follows : Follows plan answer run turns) (answers : Answers plan answer)
    {id : Nat} (timely : Timely run (.user id)) (uncancelled : run.cancel = none) {user : User}
    (there : run.users[id]? = some user) :
    Advance.Alike answer run.clock.now (plan.solo answer id (turns id)).world
      (run.turnOf plan id user).1
      ((plan.solo answer id (turns id)).user.turn plan.setting
        (Surroundings.alone answer).toOutside none (plan.solo answer id (turns id)).world
        (plan.solo answer id (turns id)).world).1 := by
  obtain ⟨onTime, inTime⟩ := timely user there
  unfold turnOf
  rw [uncancelled]
  apply (follows.alike id user there).turn _ answers.latent (follows.feedless id user there) onTime
    inTime
  intro request
  exact answers.send_eq run.transport id request

theorem Follows.stepUser (follows : Follows plan answer run turns) (answers : Answers plan answer)
    {id : Nat} (timely : Timely run (.user id)) (uncancelled : run.cancel = none) {user : User}
    (there : run.users[id]? = some user)
    (later : run.clock.now ≤ (run.stepUser plan id).clock.now) :
    Follows plan answer (run.stepUser plan id) (Function.update turns id (turns id + 1)) := by
  obtain ⟨known, _⟩ := Array.getElem?_eq_some_iff.1 there
  have turned := follows.turn_alike answers timely uncancelled there
  have stepped := plan.solo_succ answer id (turns id)
  rw [Journey.step_alone] at stepped
  obtain ⟨clock, focus, log, same⟩ := stepUser_eq plan there
  rw [same] at later ⊢
  constructor
  · intro index beyond
    have beyondBefore : run.users.size ≤ index := by simpa using beyond
    have other : index ≠ id := by omega
    rw [Function.update_of_ne other]
    exact follows.fresh index beyondBefore
  · intro index other found
    simp only [Array.getElem?_setIfInBounds, known, if_true] at found
    by_cases here : id = index
    · rw [if_pos here] at found
      cases found
      exact User.feedless_turn (follows.feedless id user there) _
    · rw [if_neg here] at found
      exact follows.feedless index other found
  · intro index other found
    simp only [Array.getElem?_setIfInBounds, known, if_true] at found
    by_cases here : id = index
    · rw [if_pos here] at found
      cases found
      subst here
      rw [Function.update_self, stepped]
      exact turned.user.mono later
    · rw [if_neg here] at found
      rw [Function.update_of_ne (Ne.symm here)]
      exact (follows.alike index other found).mono later

/-- What a turn adds to what a user did alone. -/
theorem Follows.solo_succ (follows : Follows plan answer run turns) (answers : Answers plan answer)
    {id : Nat} (timely : Timely run (.user id)) (uncancelled : run.cancel = none) {user : User}
    (there : run.users[id]? = some user) :
    plan.metrics answer id (turns id + 1) =
        plan.metrics answer id (turns id) ++
          (run.turnOf plan id user).1.deeds.filterMap Deed.metric? ∧
      (plan.solo answer id (turns id + 1)).ending.toList =
        (plan.solo answer id (turns id)).ending.toList ++
          (run.turnOf plan id user).1.pace.ending?.toList := by
  have turned := follows.turn_alike answers timely uncancelled there
  rw [turned.deeds_eq, turned.ending_eq]
  unfold Plan.metrics
  rw [plan.solo_succ, Journey.step_alone]
  constructor
  · simp only [Journey.follow, List.filterMap_append]
  · cases before : (plan.solo answer id (turns id)).ending with
    | none =>
        simp only [Journey.follow, before, Option.or_none, Option.toList_none, List.nil_append]
    | some ending =>
        have ended : (plan.solo answer id (turns id)).user.activity = .ended :=
          (plan.undisturbed_solo answer id (turns id)).ended_iff.2 (by simp [before])
        rw [User.turn_of_ended ended]
        simp [Journey.follow, before]

theorem Sums.stepUser (sums : Sums plan answer run turns seen counted)
    (follows : Follows plan answer run turns) (answers : Answers plan answer) {id : Nat}
    (timely : Timely run (.user id)) (uncancelled : run.cancel = none) {user : User}
    (there : run.users[id]? = some user) :
    Sums plan answer (run.stepUser plan id) (Function.update turns id (turns id + 1)) seen
      counted := by
  obtain ⟨known, _⟩ := Array.getElem?_eq_some_iff.1 there
  obtain ⟨metrics, endings⟩ := follows.solo_succ answers timely uncancelled there
  obtain ⟨clock, focus, log, same⟩ := stepUser_eq plan there
  rw [same]
  refine ⟨sums.stats_eq, ?_, ?_, sums.completed_eq, sums.failed_eq⟩
  · simp only [Array.size_setIfInBounds]
    refine List.Perm.trans ?_ (flatMap_update_perm (plan.metrics answer) known metrics).symm
    refine List.Perm.trans ?_ (sums.metrics_perm.append_right _)
    rw [List.append_assoc]
    apply List.Perm.append_left
    exact List.perm_append_comm.trans ((List.reverse_perm _).append_left _)
  · simp only [Array.size_setIfInBounds]
    have perm := flatMap_update_perm
      (fun index turns => (plan.solo answer index turns).ending.toList) known endings
    refine List.Perm.trans ?_ perm.symm
    rw [← List.append_assoc]
    exact sums.endings_perm.append_right _

theorem Follows.congr (follows : Follows plan answer run turns) (users : next.users = run.users)
    (later : run.clock.now ≤ next.clock.now) : Follows plan answer next turns where
  fresh := by simpa only [users] using follows.fresh
  feedless := by simpa only [users] using follows.feedless
  alike := by
    rw [users]
    intro id user there
    exact (follows.alike id user there).mono later

/-- What happens to a run apart from its users. -/
theorem Sums.congr (sums : Sums plan answer run turns seen counted)
    (size : next.users.size = run.users.size) (stats : next.collector.stats = run.collector.stats)
    (inbox : next.inbox = run.inbox) (endings : run.endings.Perm next.endings)
    (completed : next.dispatch.tally.completed = run.dispatch.tally.completed)
    (failed : next.dispatch.tally.failed = run.dispatch.tally.failed) :
    Sums plan answer next turns seen counted where
  stats_eq := stats.trans sums.stats_eq
  metrics_perm := by
    rw [size, inbox]
    exact sums.metrics_perm
  endings_perm := by
    rw [size]
    exact (endings.symm.append_left seen).trans sums.endings_perm
  completed_eq := completed.trans sums.completed_eq
  failed_eq := failed.trans sums.failed_eq

theorem Follows.due (follows : Follows plan answer run turns) (answers : Answers plan answer)
    (moment : Nat) (later : run.clock.now ≤ (run.undertake plan (.due moment)).clock.now) :
    Follows plan answer (run.undertake plan (.due moment)) turns := by
  constructor
  · intro index beyond
    obtain ⟨clock, same⟩ := undertake_due plan run moment
    apply follows.fresh index
    rw [same, Array.size_append] at beyond
    omega
  · intro index user there
    obtain before | ⟨_, rfl⟩ := user_of_due there
    · exact follows.feedless index user before
    · exact Walk.feedless_start index answers.feedless
  · intro index user there
    obtain before | ⟨new, rfl⟩ := user_of_due there
    · exact (follows.alike index user before).mono later
    · rw [follows.fresh index new]
      exact User.alike_ready (Nat.zero_le _) rfl

/-- Only the endings that it sees change what the dispatcher has counted of them. -/
theorem tally_of_handle (dispatch : Dispatch) {event : Dispatch.Event}
    (noEnding : ∀ ending, event ≠ .joined ending) :
    (dispatch.handle event).tally.completed = dispatch.tally.completed ∧
      (dispatch.handle event).tally.failed = dispatch.tally.failed := by
  unfold Dispatch.handle
  split
  · exact absurd rfl (noEnding _)
  all_goals exact ⟨rfl, rfl⟩

theorem Sums.due (sums : Sums plan answer run turns seen counted)
    (follows : Follows plan answer run turns) (moment : Nat) :
    Sums plan answer (run.undertake plan (.due moment)) turns seen counted := by
  have noEnding (ending : Ending) : Dispatch.Event.due moment ≠ .joined ending := by simp
  obtain ⟨completed, failed⟩ := tally_of_handle run.dispatch noEnding
  obtain ⟨clock, same⟩ := undertake_due plan run moment
  rw [same]
  refine ⟨sums.stats_eq, ?_, ?_, completed.trans sums.completed_eq, failed.trans sums.failed_eq⟩
  · simp only [Array.size_append]
    rw [flatMap_range_of_quiet (Nat.le_add_right _ _)]
    · exact sums.metrics_perm
    · intro index new
      rw [follows.fresh index new]
      rfl
  · simp only [Array.size_append]
    rw [flatMap_range_of_quiet (Nat.le_add_right _ _)]
    · exact sums.endings_perm
    · intro index new
      rw [follows.fresh index new]
      rfl

theorem Sums.joined (sums : Sums plan answer run turns seen counted) {ending : Ending}
    (ended : run.endings.head? = some ending) :
    Sums plan answer (run.undertake plan (.joined ending)) turns (seen ++ [ending]) counted := by
  obtain ⟨rest, endings⟩ := List.head?_eq_some_iff.1 ended
  have perm := sums.endings_perm
  rw [endings] at perm
  refine ⟨sums.stats_eq, sums.metrics_perm, ?_, ?_, ?_⟩
  · simpa only [undertake, endings, List.tail_cons, List.append_assoc, List.singleton_append]
      using perm
  · rw [undertake_dispatch, List.count_append, ← sums.completed_eq]
    exact Tally.completed_record ..
  · rw [undertake_dispatch, List.countP_append, ← sums.failed_eq]
    exact Tally.failed_record ..

variable (plan) in
/-- The collector counts metrics from the end of its inbox. -/
theorem stepCollector_takes (run : Run State) :
    ∃ taken, run.inbox.reverse = taken ++ (run.stepCollector plan).inbox.reverse ∧
      (run.stepCollector plan).collector.stats = run.collector.stats.consumeAll taken := by
  cases inbox : run.inbox with
  | cons metric rest =>
      refine ⟨(metric :: rest).reverse.take (max 1 Collector.batchSize), ?_, ?_⟩
      · simp [stepCollector, inbox, Collector.receive]
      · simp [stepCollector, inbox, Collector.receive]
  | nil =>
      refine ⟨[], ?_⟩
      unfold stepCollector
      rw [inbox]
      dsimp only
      split
      · simp [wake, release, Collector.publish, Clock.wake]
      · split
        · simp [Collector.publish]
        · split <;> simp [release, inbox]

theorem Sums.collector (sums : Sums plan answer run turns seen counted) :
    ∃ counted, Sums plan answer (run.stepCollector plan) turns seen counted := by
  obtain ⟨taken, inbox, stats⟩ := stepCollector_takes plan run
  obtain ⟨_, _, left, collector, _, _, _, same⟩ := stepCollector_eq plan run
  rw [same] at inbox stats ⊢
  refine ⟨counted ++ taken, ?_, ?_, sums.endings_perm, sums.completed_eq, sums.failed_eq⟩
  · rw [Stats.ofMetrics, Stats.consumeAll_append]
    exact stats.trans (congrArg (·.consumeAll taken) sums.stats_eq)
  · have takes : run.inbox.Perm (taken ++ left) :=
      (List.reverse_perm _).symm.trans (inbox ▸ (List.reverse_perm left).append_left taken)
    rw [List.append_assoc]
    exact (takes.symm.append_left counted).trans sums.metrics_perm

/-- What every move keeps of a run that is not cancelled. -/
theorem exists_sums (answers : Answers plan answer) (tallied : Tallied plan Timely run)
    (follows : Follows plan answer run turns) (sums : Sums plan answer run turns seen counted)
    (moves : Moves plan Timely run next) (later : run.clock.now ≤ next.clock.now)
    (uncancelled : next.cancel = none) :
    ∃ turns seen counted,
      Follows plan answer next turns ∧ Sums plan answer next turns seen counted := by
  have uncancelledBefore := moves.uncancelled uncancelled
  cases moves with
  | @user id timely =>
      cases there : run.users[id]? with
      | none =>
          have same : run.stepUser plan id = run.release := by simp only [stepUser, there]
          rw [same] at later ⊢
          exact ⟨turns, seen, counted, follows.congr rfl later, sums.congr rfl rfl rfl .rfl rfl rfl⟩
      | some user =>
          exact ⟨_, seen, counted, follows.stepUser answers timely uncancelledBefore there later,
            sums.stepUser follows answers timely uncancelledBefore there⟩
  | dispatcher _ possible =>
      have calm := (tallied.calm uncancelledBefore).reason
      obtain rfl | ⟨moment, rfl⟩ | ⟨ending, rfl, ended⟩ := possible.ordinary calm uncancelled
      · have noEnding (ending : Ending) : Dispatch.Event.finished ≠ .joined ending := by simp
        obtain ⟨completed, failed⟩ := tally_of_handle run.dispatch noEnding
        obtain ⟨clock, same⟩ := undertake_finished plan run
        rw [same] at later ⊢
        exact ⟨turns, seen, counted, follows.congr rfl later,
          sums.congr rfl rfl rfl .rfl completed failed⟩
      · exact ⟨turns, seen, counted, follows.due answers moment later, sums.due follows moment⟩
      · exact ⟨turns, _, counted, follows.congr rfl later, sums.joined ended⟩
  | collector =>
      obtain ⟨counted, sums⟩ := sums.collector
      refine ⟨turns, seen, counted, ?_, sums⟩
      obtain ⟨_, _, _, _, _, _, _, same⟩ := stepCollector_eq plan run
      exact follows.congr (by rw [same]) later
  | caller =>
      obtain ⟨_, _, _, _, _, _, _, same⟩ := stepCaller_eq run
      rw [same] at later ⊢
      exact ⟨turns, seen, counted, follows.congr rfl later, sums.congr rfl rfl rfl .rfl rfl rfl⟩
  | stop =>
      obtain ⟨_, same⟩ := cancelFor_eq run .shutdown
      simp [same] at uncancelled
  | pass =>
      exact ⟨turns, seen, counted, follows.congr rfl later,
        sums.congr rfl rfl rfl .rfl rfl rfl⟩
  | reorder perm =>
      exact ⟨turns, seen, counted, follows.congr rfl later, sums.congr rfl rfl rfl perm rfl rfl⟩

theorem exists_sums_of_path (answers : Answers plan answer) {feeders : SortedMap String Feeder}
    {transport : State}
    (path : Relation.ReflTransGen (TimelyMoves plan) (.start plan feeders transport) run)
    (uncancelled : run.cancel = none) :
    Reachable plan Timely run ∧ ∃ turns seen counted,
      Follows plan answer run turns ∧ Sums plan answer run turns seen counted := by
  induction path with
  | refl =>
      refine ⟨⟨feeders, transport, .refl⟩, fun _ => 0, [], [], ⟨?_, ?_, ?_⟩, ?_⟩
      · intro _ _
        rfl
      · intro id user there
        simp [start] at there
      · intro id user there
        simp [start] at there
      · exact ⟨rfl, .refl _, .refl _, rfl, rfl⟩
  | tail _ moves inductionHypothesis =>
      obtain ⟨moves, later⟩ := moves
      obtain ⟨reachable, turns, seen, counted, follows, sums⟩ :=
        inductionHypothesis (moves.uncancelled uncancelled)
      exact ⟨reachable.move moves,
        exists_sums answers reachable.tallied follows sums moves later uncancelled⟩

/-- In a finished run that was not cancelled everybody has ended and nothing is left to be seen. -/
structure Over (plan : Plan State) (run : Run State) : Prop where
  size_eq : run.users.size = plan.offsets.length
  ended : ∀ user ∈ run.users, user.activity = .ended
  inbox_eq : run.inbox = []
  endings_eq : run.endings = []
  spawned_eq : run.dispatch.tally.spawned = plan.offsets.length
  cancelled_eq : run.dispatch.tally.cancelled = 0
  unstarted_eq : run.dispatch.tally.unstarted = 0

theorem over_of_finished (reachable : Reachable plan Timely run) (uncancelled : run.cancel = none)
    (finished : run.finished = true) : Over plan run := by
  have counted := reachable.tallied.counted
  have calm := reachable.tallied.calm uncancelled
  obtain ⟨ended, collected⟩ := reachable.closed.finished finished
  obtain ⟨inbox, dead, past⟩ := reachable.closed.collected collected
  have unjoined := counted.dispatch.unjoined_eq ended
  have waited := counted.unjoined_eq
  have scheduled := counted.dispatch.scheduled_eq
  have unstarted := counted.dispatch.unstarted_eq calm.reason
  rw [counted.dispatch.pending_eq past, List.length_nil] at scheduled
  have size := counted.size_eq
  have spawned := counted.dispatch.spawned_eq
  refine ⟨by omega, ?_, inbox, ?_, by omega, calm.tally, unstarted⟩
  · intro user among
    exact User.hasEnded_iff.1 (hasEnded_of_live counted dead among)
  · apply List.eq_nil_of_length_eq_zero
    omega

theorem Follows.exists_ending (follows : Follows plan answer run turns) {id : Nat} {user : User}
    (there : run.users[id]? = some user) (ended : user.activity = .ended) :
    ∃ ending, (plan.solo answer id (turns id)).ending = some ending := by
  have alike := (follows.alike id user there).activity
  rw [ended] at alike
  have idle : (plan.solo answer id (turns id)).user.activity = .ended := by
    generalize (plan.solo answer id (turns id)).user.activity = activity at alike
    cases alike
    rfl
  exact Option.ne_none_iff_exists'.1 ((plan.undisturbed_solo answer id (turns id)).ended_iff.1 idle)

/-- The users of a finished run came to what they come to alone. -/
theorem exists_fates (answers : Answers plan answer) {feeders : SortedMap String Feeder}
    {transport : State}
    (path : Relation.ReflTransGen (TimelyMoves plan) (.start plan feeders transport) run)
    (uncancelled : run.cancel = none) (finished : run.finished = true) :
    ∃ (metrics : Nat → List Metric) (ending : Nat → Ending),
      (∀ id < plan.offsets.length, plan.ComesTo answer id (metrics id) (ending id)) ∧
      run.collector.stats = .ofMetrics ((List.range plan.offsets.length).flatMap metrics) ∧
      run.dispatch.tally =
        let endings := (List.range plan.offsets.length).map ending
        ⟨plan.offsets.length, endings.count .completed, endings.countP Ending.isFailure, 0, 0⟩ := by
  obtain ⟨reachable, turns, seen, counted, follows, sums⟩ :=
    exists_sums_of_path answers path uncancelled
  have finish := over_of_finished reachable uncancelled finished
  let ending (id : Nat) : Ending := (plan.solo answer id (turns id)).ending.getD .completed
  have ends (id : Nat) (known : id < plan.offsets.length) :
      (plan.solo answer id (turns id)).ending = some (ending id) := by
    rw [← finish.size_eq] at known
    obtain ⟨fate, ended⟩ := follows.exists_ending (Array.getElem?_eq_getElem known)
      (finish.ended _ (Array.getElem_mem known))
    simp only [ending, ended, Option.getD_some]
  have metrics_perm := sums.metrics_perm
  have endings_perm := sums.endings_perm
  rw [finish.inbox_eq, List.append_nil, finish.size_eq] at metrics_perm
  rw [finish.endings_eq, List.append_nil, finish.size_eq] at endings_perm
  have all_ended : ((List.range plan.offsets.length).flatMap fun id =>
      (plan.solo answer id (turns id)).ending.toList) =
        (List.range plan.offsets.length).map ending := by
    rw [List.map_eq_flatMap]
    apply List.flatMap_congr
    intro id among
    rw [ends id (List.mem_range.1 among)]
    rfl
  rw [all_ended] at endings_perm
  refine ⟨fun id => plan.metrics answer id (turns id), ending, ?_, ?_, ?_⟩
  · intro id known
    exact ⟨turns id, ends id known, rfl⟩
  · exact sums.stats_eq.trans (Stats.ofMetrics_perm metrics_perm)
  · have completed := sums.completed_eq.trans (endings_perm.count_eq .completed)
    have failed := sums.failed_eq.trans (endings_perm.countP_eq Ending.isFailure)
    have spawned := finish.spawned_eq
    have cancelled := finish.cancelled_eq
    have unstarted := finish.unstarted_eq
    cases tally : run.dispatch.tally
    simp only [tally] at completed failed spawned cancelled unstarted
    simp only [completed, failed, spawned, cancelled, unstarted]

/-- Users do not interfere with each other.  Let no step draw from a feeder, and let answers depend
on requests only.  Then in whatever order the users took their turns, a run that was finished and
not cancelled has counted what its users record alone, and how they end alone; and it would have
counted the same if as many users had started at other times. -/
theorem stats_eq_of_solo {State : Type} {plan : Plan State} {answer : PreparedRequest → Reply}
    (answers : Answers plan answer) {feeders : SortedMap String Feeder} {transport : State}
    {run : Run State}
    (path : Relation.ReflTransGen (TimelyMoves plan) (.start plan feeders transport) run)
    (uncancelled : run.cancel = none) (finished : run.finished = true) :
    (∃ (metrics : Nat → List Metric) (ending : Nat → Ending),
      (∀ id < plan.offsets.length, plan.ComesTo answer id (metrics id) (ending id)) ∧
      run.collector.stats = .ofMetrics ((List.range plan.offsets.length).flatMap metrics) ∧
      run.dispatch.tally =
        let endings := (List.range plan.offsets.length).map ending
        ⟨plan.offsets.length, endings.count .completed, endings.countP Ending.isFailure, 0, 0⟩) ∧
    ∀ (offsets : List Duration) (others : SortedMap String Feeder) (state : State)
      (other : Run State), offsets.length = plan.offsets.length →
      Relation.ReflTransGen (TimelyMoves { plan with offsets })
        (.start { plan with offsets } others state) other →
      other.cancel = none → other.finished = true →
      other.collector.stats = run.collector.stats ∧
        other.dispatch.tally = run.dispatch.tally := by
  have fates := exists_fates answers path uncancelled finished
  refine ⟨fates, ?_⟩
  intro offsets others state other length otherPath otherUncancelled otherFinished
  have otherAnswers : Answers { plan with offsets } answer :=
    ⟨answers.feedless, answers.send_eq, answers.latent⟩
  obtain ⟨metrics, ending, comes, stats, tally⟩ := fates
  obtain ⟨otherMetrics, otherEnding, goes, otherStats, otherTally⟩ :=
    exists_fates otherAnswers otherPath otherUncancelled otherFinished
  simp only [length] at goes otherStats otherTally
  have same (id : Nat) (known : id < plan.offsets.length) :
      otherMetrics id = metrics id ∧ otherEnding id = ending id :=
    Plan.ComesTo.unique (goes id known) (comes id known)
  have sameMetrics : (List.range plan.offsets.length).flatMap otherMetrics =
      (List.range plan.offsets.length).flatMap metrics := by
    apply List.flatMap_congr
    intro id among
    exact (same id (List.mem_range.1 among)).1
  have sameEndings : (List.range plan.offsets.length).map otherEnding =
      (List.range plan.offsets.length).map ending := by
    apply List.map_congr_left
    intro id among
    exact (same id (List.mem_range.1 among)).2
  rw [sameMetrics] at otherStats
  rw [sameEndings] at otherTally
  exact ⟨otherStats.trans stats.symm, otherTally.trans tally.symm⟩

/-- Only GET requests get a response; the others time out. -/
def gatedAnswer (request : PreparedRequest) : Reply :=
  match request.method with
  | .get => ⟨.ofMillis 20, .ok ⟨200, [], [], .ofMillis 20⟩⟩
  | _ => ⟨.ofMillis 30, .error ⟨.timeout, "request timed out"⟩⟩

theorem latent_gatedAnswer (request : PreparedRequest) : Latent (gatedAnswer request).outcome := by
  intro response responds
  cases method : request.method with
  | get =>
      simp only [gatedAnswer, method] at responds
      cases responds
      rfl
  | _ =>
      simp only [gatedAnswer, method] at responds
      cases responds

/-- Two users that ask, pause, and tell. -/
def pairPlan : Plan Unit :=
  { shortPlan with
    scenario :=
      ⟨"pair",
        [.request { name := ⟨"ask"⟩, method := .get, path := ⟨"/ask"⟩, checks := [] },
          .pause (.fixed (.ofMillis 50)),
          .request { name := ⟨"tell"⟩, method := .post, path := ⟨"/tell"⟩, checks := [] }],
        .stopUser⟩
    transport := ⟨fun state _ request => (gatedAnswer request, state)⟩
    offsets := [.zero, .ofMillis 30]
    maxDuration := none }

theorem stats_eq_of_pairPlan :
    let run := iterate pairPlan 80 (.start pairPlan ∅ ())
    let later := { pairPlan with offsets := [.ofMillis 70, .ofMillis 70] }
    let other := iterate later 80 (.start later ∅ ())
    (∃ (metrics : Nat → List Metric) (ending : Nat → Ending),
      (∀ id < 2, pairPlan.ComesTo gatedAnswer id (metrics id) (ending id)) ∧
      run.collector.stats = .ofMetrics ((List.range 2).flatMap metrics) ∧
      run.dispatch.tally =
        let endings := (List.range 2).map ending
        ⟨2, endings.count .completed, endings.countP Ending.isFailure, 0, 0⟩) ∧
    other.collector.stats = run.collector.stats ∧ other.dispatch.tally = run.dispatch.tally := by
  intro run later other
  have answers : Answers pairPlan gatedAnswer :=
    ⟨by decide, fun _ _ _ => rfl, latent_gatedAnswer⟩
  have uncancelled : run.cancel = none := by decide +kernel
  have otherUncancelled : other.cancel = none := by decide +kernel
  have path : Relation.ReflTransGen (TimelyMoves pairPlan) (.start pairPlan ∅ ()) run :=
    path_iterate (by decide +kernel) uncancelled
  have otherPath : Relation.ReflTransGen (TimelyMoves later) (.start later ∅ ()) other :=
    path_iterate (by decide +kernel) otherUncancelled
  obtain ⟨fates, same⟩ := stats_eq_of_solo answers path uncancelled (by decide +kernel)
  exact ⟨fates, same later.offsets ∅ () other rfl otherPath otherUncancelled (by decide +kernel)⟩

/-- One user that starts after some sixty million seconds, and whose pause would then end beyond
the end of time. -/
def latePlan : Plan Unit :=
  { shortPlan with
    scenario :=
      ⟨"late", [.pause (.fixed ⟨9223372036824775808 * nanosPerSecond, by decide⟩)], .stopUser⟩
    transport := ⟨fun state _ request => (gatedAnswer request, state)⟩
    offsets := [.ofSeconds 60000000]
    maxDuration := none
    snapshotInterval := .ofSeconds 65000000 }

/-- The end of time is the same for all: who starts late may crash, and completes alone. -/
theorem crashes_of_latePlan :
    let run := iterate latePlan 40 (.start latePlan ∅ ())
    Reachable latePlan (Chooses latePlan) run ∧ run.cancel = none ∧ run.finished = true ∧
      Answers latePlan gatedAnswer ∧ latePlan.ComesTo gatedAnswer 0 [] .completed ∧
      run.dispatch.tally = ⟨1, 0, 1, 0, 0⟩ := by
  refine ⟨reachable_iterate 40 ⟨∅, (), .refl⟩, by decide +kernel, by decide +kernel, ?_, ?_, ?_⟩
  · exact ⟨by decide, fun _ _ _ => rfl, latent_gatedAnswer⟩
  · exact ⟨4, by decide +kernel, by decide +kernel⟩
  · decide +kernel

end Run

end LoadTest
