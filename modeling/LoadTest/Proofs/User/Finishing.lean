import LoadTest.Proofs.Scenario.Written
import LoadTest.Proofs.User.Accounting
import LoadTest.Proofs.User.Effort

/-!
Users whose loops all have a number of rounds.

A turn of such a user takes something off what is left of its scenario (`User.turnsLeft_turn_lt`),
so it ends after a number of turns that the scenario tells in advance.  The requests that it has
executed and those that are left always add up to those of the scenario, each counted as often as
the loops around it repeat it (`Journey.requests_iterate`).
-/

namespace LoadTest

/-- The most turns that a step takes: a request may have to wait for its answer. -/
def Tariff.turns : Tariff := ⟨2, 1, 1⟩

def Tariff.requests : Tariff := ⟨1, 0, 0⟩

@[simp] theorem Tariff.move_requests : Tariff.requests.move = 0 := rfl

mutual

/-- How many requests a step makes if it is gone through, each as often as loops repeat it. -/
def Step.requestRuns : Step → Nat
  | .request _ => 1
  | .loop kind _ steps => kind.rounds * requestRuns steps
  | .group _ steps => requestRuns steps
  | .branch _ steps => requestRuns steps
  | .pause _ => 0
  | .feed _ => 0
  | .exec _ => 0

def requestRuns : List Step → Nat
  | [] => 0
  | step :: steps => step.requestRuns + requestRuns steps

end

mutual

theorem Step.effort_requests : ∀ step : Step, step.effort .requests = step.requestRuns
  | .request _ => rfl
  | .pause _ => rfl
  | .feed _ => rfl
  | .exec _ => rfl
  | .loop _ _ steps => by simp [Step.effort, Step.requestRuns, efforts_requests steps]
  | .group _ steps => by simp [Step.effort, Step.requestRuns, efforts_requests steps]
  | .branch _ steps => by simp [Step.effort, Step.requestRuns, efforts_requests steps]

theorem efforts_requests : ∀ steps : List Step, efforts .requests steps = requestRuns steps
  | [] => rfl
  | step :: steps => by rw [efforts, requestRuns, step.effort_requests, efforts_requests steps]

end

theorem Tariff.price_requests (step : Step) :
    Tariff.requests.price step = if step.isRequest then 1 else 0 := by
  cases step <;> rfl

theorem Tariff.price_turns_pos (step : Step) : 0 < Tariff.turns.price step := by
  cases step <;> simp [Tariff.price, Tariff.turns]

theorem Walk.charge_requests (walk : Walk) :
    walk.charge .requests = walk.step?.toList.countP Step.isRequest := by
  unfold Walk.charge
  cases walk.step? with
  | none => rfl
  | some step => simp [Tariff.price_requests, List.countP_cons]

namespace User

variable {World : Type} {setting : Setting} {outside : Outside World} {now : Nat} {world : World}
  {user : User} {root : List Step}

/-- A bound on the turns that a user has before it. -/
def turnsLeft (user : User) : Nat :=
  if user.hasEnded then 0
  else effortWithin .turns user.walk.frames + 1 + user.isAwaiting.toNat

theorem turnsLeft_le (user : User) :
    user.turnsLeft ≤ effortWithin .turns user.walk.frames + 1 + user.isAwaiting.toNat := by
  unfold turnsLeft
  split
  · exact Nat.zero_le _
  · exact Nat.le_refl _

theorem turnsLeft_advance_le (ready : user.activity = .ready) (within : user.walk.Within root)
    (inRange : user.walk.InRange) (repeats : OnlyRepeats root) :
    (user.advance setting outside none now world).1.user.turnsLeft ≤
      effortWithin .turns user.walk.frames := by
  cases framed : user.walk.frames with
  | nil =>
      have finished : user.walk.turn = .finished := by simp [Walk.turn, framed]
      simp [advance, finished, finish, turnsLeft, hasEnded]
  | cons frame outer =>
      have spent := Walk.effort_next_le .turns within inRange repeats framed
      have left := (user.advance setting outside none now world).1.user.turnsLeft_le
      have charged : 1 + (user.advance setting outside none now world).1.user.isAwaiting.toNat ≤
          user.walk.charge .turns := by
        unfold Walk.charge
        cases waits : (user.advance setting outside none now world).1.user.isAwaiting with
        | false =>
            cases user.walk.step? with
            | none => exact Nat.le_refl _
            | some step => exact Tariff.price_turns_pos step
        | true =>
            obtain ⟨request, pending⟩ := exists_pending? waits
            rw [pending?_advance ready pending]
            exact Nat.le_refl _
      rw [frames_advance] at left
      rw [← framed]
      omega

theorem turnsLeft_of_working (working : user.activity ≠ .ended) :
    user.turnsLeft = effortWithin .turns user.walk.frames + 1 + user.isAwaiting.toNat := by
  have underway : user.hasEnded = false :=
    Bool.eq_false_iff.2 fun ended => working (hasEnded_iff.1 ended)
  rw [turnsLeft, underway]
  rfl

/-- Every turn leaves less to a user. -/
theorem turnsLeft_turn_lt (within : user.Within root) (inRange : user.walk.InRange)
    (repeats : OnlyRepeats root) (working : user.activity ≠ .ended)
    (fresh : user.activity ≠ .aborting) :
    (user.turn setting outside none now world).1.user.turnsLeft < user.turnsLeft := by
  have last : effortWithin .turns user.walk.frames <
      effortWithin .turns user.walk.frames + 1 + user.isAwaiting.toNat := by omega
  rw [turnsLeft_of_working working]
  unfold User.turn
  cases doing : user.activity with
  | ready =>
      have less : (user.advance setting outside none now world).1.user.turnsLeft ≤
          effortWithin .turns user.walk.frames :=
        turnsLeft_advance_le doing within.walk inRange repeats
      exact Nat.lt_of_le_of_lt less last
  | pausing wake =>
      let woken : User := { user with activity := .ready }
      have less : (woken.advance setting outside none now world).1.user.turnsLeft ≤
          effortWithin .turns woken.walk.frames := turnsLeft_advance_le rfl within.walk inRange
          repeats
      exact Nat.lt_of_le_of_lt less last
  | awaiting call outcome since wake =>
      have waits : user.isAwaiting = true := by simp only [isAwaiting, doing]
      have left := (user.settle setting.onFailure user.walk []
        (call.conclude user.walk.session (.ofMillis (now - since)) outcome)).user.turnsLeft_le
      rw [settle_walk, isAwaiting_settle] at left
      rw [waits]
      exact Nat.lt_succ_of_le left
  | aborting => exact absurd doing fresh
  | ended => exact absurd doing working

/-- The requests begun in a turn and those that are left add up to those that were left before. -/
theorem requests_turn (within : user.Within root) (inRange : user.walk.InRange)
    (repeats : OnlyRepeats root)
    (unbranched : ∀ condition inner, ¬ (Step.branch condition inner).Inside root) :
    user.step?.toList.countP Step.isRequest +
        effortWithin .requests (user.turn setting outside none now world).1.user.walk.frames =
      effortWithin .requests user.walk.frames := by
  obtain ⟨begins, moved⟩ | ⟨rests, stays⟩ := user.frames_turn_cases setting outside now world
  · rw [begins, moved]
    cases framed : user.walk.frames with
    | nil => simp [Walk.step?, Walk.turn, framed, Turn.next, effortWithin]
    | cons frame outer =>
        have passed : user.walk.passed .requests = 0 :=
          Walk.passed_eq_zero fun condition inner next =>
            unbranched condition inner (within.walk.step_inside next)
        rw [← framed, Walk.effort_turn within.walk inRange repeats framed, passed,
          Walk.charge_requests]
        rfl
  · rw [rests, stays]
    exact Nat.zero_add _

theorem inRange_turn (inRange : user.walk.InRange) :
    (user.turn setting outside none now world).1.user.walk.InRange := by
  unfold Walk.InRange
  obtain ⟨_, moved⟩ | ⟨_, stays⟩ := user.frames_turn_cases setting outside now world
  · rw [moved]
    exact inRange.turn
  · rw [stays]
    exact inRange

/-- A user that completes has left all frames. -/
theorem frames_of_completed (fresh : user.activity ≠ .aborting)
    (ends : (user.turn setting outside none now world).1.pace = .finished .completed) :
    (user.turn setting outside none now world).1.user.walk.frames = [] := by
  cases framed : user.walk.frames with
  | nil =>
      obtain ⟨_, moved⟩ | ⟨_, stays⟩ := user.frames_turn_cases setting outside now world
      · rw [moved]
        simp [Walk.turn, framed, Turn.next]
      · rw [stays, framed]
  | cons frame outer => cases isFailure_of_turn framed fresh ends

end User

namespace Journey

variable {World : Type} {setting : Setting} {around : Surroundings World} {journey : Journey World}
  {steps root : List Step}

/-- A user comes to its end before the turns that it has before it are over. -/
theorem exists_ended (undisturbed : Undisturbed journey) (within : journey.user.Within root)
    (inRange : journey.user.walk.InRange) (repeats : OnlyRepeats root) :
    ∃ turns ≤ journey.user.turnsLeft, ∃ ending,
      ((step setting around none)^[turns] journey).ending = some ending := by
  induction left : journey.user.turnsLeft using Nat.strongRecOn generalizing journey with
  | ind left inductionHypothesis =>
      by_cases ended : journey.user.activity = .ended
      · exact ⟨0, Nat.zero_le _, Option.ne_none_iff_exists'.1 (undisturbed.ended_iff.1 ended)⟩
      · have less : (journey.step setting around none).user.turnsLeft < journey.user.turnsLeft :=
          User.turnsLeft_turn_lt within inRange repeats ended undisturbed.fresh
        obtain ⟨turns, few, ends⟩ := inductionHypothesis _ (left ▸ less) undisturbed.step
          within.turn.within (User.inRange_turn inRange) rfl
        exact ⟨turns + 1, by omega, ends⟩

theorem turnsLeft_entering (steps : List Step) (before : Situation World) :
    (entering steps before).user.turnsLeft = efforts .turns steps + 2 := by
  simp [entering, start, User.turnsLeft, User.hasEnded, User.isAwaiting, effortWithin, Frame.effort,
    Enclosure.roundsAhead, Tariff.turns]

theorem inRange_entering (steps : List Step) (before : Situation World) :
    (entering steps before).user.walk.InRange := List.forall_mem_cons.2 ⟨trivial, nofun⟩

theorem inRange_iterate (inRange : journey.user.walk.InRange) (turns : Nat) :
    ((step setting around none)^[turns] journey).user.walk.InRange := by
  induction turns with
  | zero => exact inRange
  | succ turns inductionHypothesis =>
      rw [Function.iterate_succ_apply']
      exact User.inRange_turn inductionHypothesis

theorem requests_step (within : journey.user.Within root) (inRange : journey.user.walk.InRange)
    (repeats : OnlyRepeats root)
    (unbranched : ∀ condition inner, ¬ (Step.branch condition inner).Inside root) :
    journey.user.step?.toList.countP Step.isRequest +
        effortWithin .requests (journey.step setting around none).user.walk.frames =
      effortWithin .requests journey.user.walk.frames :=
  User.requests_turn within inRange repeats unbranched

variable (setting around) in
/-- The requests that a user has executed and those that are left always add up. -/
theorem requests_iterate (within : journey.user.Within root)
    (inRange : journey.user.walk.InRange) (repeats : OnlyRepeats root)
    (unbranched : ∀ condition inner, ¬ (Step.branch condition inner).Inside root) (turns : Nat) :
    (journey.executed setting around turns).countP Step.isRequest +
        effortWithin .requests ((step setting around none)^[turns] journey).user.walk.frames =
      effortWithin .requests journey.user.walk.frames := by
  induction turns with
  | zero => exact Nat.zero_add _
  | succ turns inductionHypothesis =>
      have there := within_iterate setting around within turns
      rw [executed, observed_succ, List.countP_append, Function.iterate_succ_apply',
        ← inductionHypothesis,
        ← requests_step there (inRange_iterate inRange turns) repeats unbranched, Nat.add_assoc]
      rfl

theorem frames_of_completed (undisturbed : Undisturbed journey) (underway : journey.ending = none)
    (turns : Nat)
    (completed : ((step setting around none)^[turns] journey).ending = some .completed) :
    ((step setting around none)^[turns] journey).user.walk.frames = [] := by
  induction turns with
  | zero => cases underway.symm.trans completed
  | succ turns inductionHypothesis =>
      have earlier : Undisturbed ((step setting around none)^[turns] journey) :=
        undisturbed_iterate undisturbed turns
      rw [Function.iterate_succ_apply'] at completed ⊢
      generalize (step setting around none)^[turns] journey = there at *
      by_cases ended : there.user.activity = .ended
      · rw [step_of_ended ended] at completed ⊢
        exact inductionHypothesis completed
      · have working : there.ending = none := by
          by_contra finished
          exact ended (earlier.ended_iff.2 finished)
        apply User.frames_of_completed earlier.fresh
        simpa [step, follow, working, Pace.ending?_eq_some_iff] using completed

/-- A user executes what is inside its scenario. -/
theorem inside_of_mem_executed (within : journey.user.Within root) {turns : Nat} {begun : Step}
    (among : begun ∈ journey.executed setting around turns) : begun.Inside root := by
  obtain ⟨earlier, _, begins⟩ := List.mem_filterMap.1 among
  exact (within_iterate setting around within earlier).step_inside begins

/-- Without draws none fails. -/
theorem Accounted.drawErrors_eq_nil {executed : List Step} {attempts : List Attempt}
    (accounted : Accounted setting around executed attempts journey)
    (undrawn : ∀ feeder, .feed feeder ∉ executed) :
    journey.deeds.filterMap Deed.drawError? = [] := by
  rw [accounted.draws_eq, List.filterMap_eq_nil_iff]
  intro attempt among
  have executedToo : attempt.step ∈ executed := by
    have begun : attempt.step ∈ executed.filter Step.isAttempt := by
      rw [accounted.attempts_eq]
      exact List.mem_append_left _ (List.mem_map_of_mem among)
    exact (List.mem_filter.1 begun).1
  cases accounted.sound attempt among with
  | passed => rfl
  | failed => rfl
  | drew => rfl
  | unfed => exact absurd executedToo (undrawn _)

/-- Loops with a number of rounds do not bring a user down. -/
theorem BroughtDown.last {executed : List Step} {deeds : List Deed} {situation : Situation World}
    (brought : BroughtDown around executed deeds situation)
    (repeats : ∀ kind counter inner, .loop kind counter inner ∈ executed →
      ∃ count, kind = .times count) :
    ∃ last, executed.getLast? = some last ∧
      last.Crashes (around.now situation.world) situation.session deeds := by
  obtain ⟨step, among, last | loop, crashes⟩ := brought
  · exact ⟨step, last, crashes⟩
  · cases step with
    | loop kind counter inner =>
        obtain ⟨count, rfl⟩ := repeats kind counter inner among
        obtain ⟨iteration, crashed⟩ := crashes
        cases crashed
    | _ => cases loop

/-- A user that is not disturbed completes or fails, or a step brings it down. -/
theorem Accounted.ending_cases {executed : List Step} {attempts : List Attempt} {ending : Ending}
    (accounted : Accounted setting around executed attempts journey)
    (ended : journey.ending = some ending) :
    ending = .completed ∨ (∃ error, ending = .failed error) ∨
      ending = .crashed ∧ BroughtDown around executed journey.deeds journey.situation := by
  have judged := accounted.judged
  rw [ended] at judged
  cases ending with
  | completed => exact .inl rfl
  | failed error => exact .inr (.inl ⟨error, rfl⟩)
  | crashed => exact .inr (.inr ⟨rfl, judged.2⟩)
  | cancelled reason => exact judged.elim
  | aborted => exact judged.elim

/-- A loop that a user is in is in one of its rounds. -/
theorem iteration_lt (within : journey.user.Within root) (repeats : OnlyRepeats root)
    (inRange : journey.user.walk.InRange) {frame : Frame} (among : frame ∈ journey.user.walk.frames)
    {kind : LoopKind} {counter : String} {iteration : UInt64} {shadowed : Option Json}
    (enclosed : frame.enclosure = .loop kind counter iteration shadowed) :
    ∃ count, kind = .times count ∧ iteration < count ∧
      (iteration + 1).toNat = iteration.toNat + 1 := by
  obtain ⟨count, rfl⟩ := repeats kind counter _ (Nested.loop_inside within.walk among enclosed)
  have round := inRange frame among
  rw [enclosed] at round
  exact ⟨count, rfl, round, toNat_next_of_lt round⟩

/-- A user that has completed has executed all requests of its scenario. -/
theorem requests_of_completed (before : Situation World) (repeats : OnlyRepeats steps)
    (unbranched : ∀ condition inner, ¬ (Step.branch condition inner).Inside steps) (turns : Nat)
    (completed : ((step setting around none)^[turns] (entering steps before)).ending =
      some .completed) :
    ((entering steps before).executed setting around turns).countP Step.isRequest =
      requestRuns steps := by
  have spent := requests_iterate setting around (within_entering steps before)
    (inRange_entering steps before) repeats unbranched turns
  rw [frames_of_completed (undisturbed_entering steps before) rfl turns completed] at spent
  simpa [effortWithin, entering, start, Frame.effort, Enclosure.roundsAhead, efforts_requests]
    using spent

/-- Where every loop has a number of rounds, a user comes to its end after a number of turns that
the scenario tells in advance.  It completes or fails, unless the last step that it began brought it
down, and no loop is ever in an iteration beyond its number of rounds.

If failures do not stop the user, and it comes to no draws and branches and is not brought down, it
has recorded a metric for each request, as often as the loops around the request repeat it. -/
theorem finishes {World : Type} (setting : Setting) (around : Surroundings World)
    {steps : List Step} (before : Situation World) (repeats : OnlyRepeats steps) :
    let user : Journey World := .entering steps before
    let later (turns : Nat) := (step setting around none)^[turns] user
    (∃ turns ≤ efforts .turns steps + 2, ∃ ending, (later turns).ending = some ending ∧
      (ending = .completed ∨ (∃ error, ending = .failed error) ∨
        ending = .crashed ∧ ∃ last, (user.executed setting around turns).getLast? = some last ∧
          last.Crashes (around.now (later turns).world) (later turns).user.walk.session
            (later turns).deeds)) ∧
    (∀ turns, ∀ frame ∈ (later turns).user.walk.frames, ∀ kind counter iteration shadowed,
      frame.enclosure = .loop kind counter iteration shadowed →
      ∃ count, kind = .times count ∧ iteration < count ∧
        (iteration + 1).toNat = iteration.toNat + 1) ∧
    (setting.onFailure = .continue →
      (∀ feeder, ¬ (Step.feed feeder).Inside steps) →
      (∀ condition inner, ¬ (Step.branch condition inner).Inside steps) →
      ∀ turns ending, (later turns).ending = some ending → ending ≠ .crashed →
        ending = .completed ∧
        ((later turns).deeds.filterMap Deed.metric?).length = requestRuns steps) := by
  intro user later
  have within (turns : Nat) : (later turns).user.Within steps :=
    within_iterate setting around (within_entering steps before) turns
  have accounted (turns : Nat) : Accounted setting around (user.executed setting around turns)
      (user.attempts setting around turns) (later turns) := accounted_iterate steps before turns
  refine ⟨?_, fun turns frame among kind counter iteration shadowed enclosed => ?_,
    fun goesOn undrawn unbranched turns ending ends survived => ?_⟩
  · obtain ⟨turns, few, ending, ends⟩ : ∃ turns ≤ user.user.turnsLeft, ∃ ending,
        (later turns).ending = some ending :=
      exists_ended (undisturbed_entering steps before) (within 0) (inRange_entering steps before)
        repeats
    rw [turnsLeft_entering] at few
    refine ⟨turns, few, ending, ends, ?_⟩
    obtain completed | failed | ⟨rfl, brought⟩ := (accounted turns).ending_cases ends
    · exact .inl completed
    · exact .inr (.inl failed)
    · refine .inr (.inr ⟨rfl, brought.last fun kind counter inner among => ?_⟩)
      exact repeats kind counter inner (inside_of_mem_executed (within 0) among)
  · have inRange : (later turns).user.walk.InRange :=
      inRange_iterate (inRange_entering steps before) turns
    exact iteration_lt (within turns) repeats inRange among enclosed
  · obtain rfl : ending = .completed := by
      obtain completed | ⟨crashed, _⟩ := (accounted turns).completed_of_continue ends goesOn
      · exact completed
      · exact absurd crashed survived
    have idle : (later turns).user.pending? = none := by
      have ended : (later turns).user.activity = .ended :=
        (undisturbed_iterate (undisturbed_entering steps before) turns).ended_iff.2
          (Option.ne_none_iff_exists'.2 ⟨_, ends⟩)
      simp only [User.pending?, ended]
    have fed : (later turns).deeds.filterMap Deed.drawError? = [] :=
      (accounted turns).drawErrors_eq_nil fun feeder among =>
        undrawn feeder (inside_of_mem_executed (within 0) among)
    refine ⟨rfl, ?_⟩
    rw [(accounted turns).length_metrics idle, fed, List.length_nil, Nat.add_zero]
    exact requests_of_completed before repeats unbranched turns ends

/-- Three logins in each of two visits. -/
def visits : List Step :=
  [.loop (.times 2) "visit" [.group "visit" [.loop (.times 3) "try" [.request login],
    .pause (.fixed (.ofMillis 5))]]]

theorem finishes_visits :
    let setting : Setting := ⟨.continue, ⟨"http://localhost", []⟩⟩
    let later (turns : Nat) : Journey Nat :=
      (step setting slowly none)^[turns] (.entering visits ⟨.forUser 7, .ofSeed 0, 0⟩)
    OnlyRepeats visits ∧ (∃ turns ≤ 31, ∃ ending, (later turns).ending = some ending) ∧
      (later 31).ending = some .completed ∧
      ((later 31).deeds.filterMap Deed.metric?).length = 6 := by
  intro setting later
  have repeats : OnlyRepeats visits := by
    intro kind counter inner inside
    have listed := mem_allWritten_iff.2 inside
    simp only [visits, allWritten, Step.written, List.cons_append, List.nil_append, List.append_nil,
      List.mem_cons, List.not_mem_nil, or_false, reduceCtorEq, false_or, Step.loop.injEq] at listed
    rcases listed with ⟨rfl, _⟩ | ⟨rfl, _⟩
    · exact ⟨2, rfl⟩
    · exact ⟨3, rfl⟩
  have completed : (later 31).ending = some .completed := by decide +kernel
  obtain ⟨⟨turns, few, ending, ends, _⟩, _, counted⟩ :=
    finishes setting slowly ⟨.forUser 7, .ofSeed 0, 0⟩ repeats
  refine ⟨repeats, ⟨turns, few, ending, ends⟩, completed, ?_⟩
  refine (counted rfl ?_ ?_ 31 .completed completed (by decide)).2
  · simp [← mem_allWritten_iff, visits, allWritten, Step.written]
  · simp [← mem_allWritten_iff, visits, allWritten, Step.written]

/-- A hook brings the user down before its request. -/
def crashing : List Step := [.exec .crash, .request login]

/-- A condition brings the user down before its request. -/
def undecided : List Step := [.branch ⟨fun _ => none⟩ [], .request login]

/-- The end of a pause cannot be told, which brings the user down before its request. -/
def endless : List Step :=
  [.pause (.fixed ⟨endOfTime * nanosPerSecond, by decide⟩), .request login]

/-- Users that are brought down neither complete nor fail, and record no metric for the request that
they do not come to. -/
theorem crashing_never_finishes :
    let setting : Setting := ⟨.continue, ⟨"http://localhost", []⟩⟩
    let later (steps : List Step) (turns : Nat) : Journey Nat :=
      (step setting slowly none)^[turns] (.entering steps ⟨.forUser 7, .ofSeed 0, 0⟩)
    ∀ steps ∈ [crashing, undecided, endless], OnlyRepeats steps ∧ requestRuns steps = 1 ∧ ∀ turns,
      (later steps turns).ending ≠ some .completed ∧
      (∀ error, (later steps turns).ending ≠ some (.failed error)) ∧
      ((later steps turns).deeds.filterMap Deed.metric?).length = 0 := by
  intro setting later steps among
  have listed : steps = crashing ∨ steps = undecided ∨ steps = endless := by simpa using among
  have repeats : OnlyRepeats steps := by
    intro kind counter inner inside
    rcases listed with rfl | rfl | rfl
    · simp [← mem_allWritten_iff, crashing, allWritten, Step.written] at inside
    · simp [← mem_allWritten_iff, undecided, allWritten, Step.written] at inside
    · simp [← mem_allWritten_iff, endless, allWritten, Step.written] at inside
  have crashed : requestRuns steps = 1 ∧ (later steps 1).user.activity = .ended ∧
      (later steps 1).ending = some .crashed ∧
      ((later steps 1).deeds.filterMap Deed.metric?).length = 0 := by
    rcases listed with rfl | rfl | rfl
    · exact ⟨rfl, rfl, rfl, rfl⟩
    · exact ⟨rfl, rfl, rfl, rfl⟩
    · exact ⟨rfl, rfl, rfl, rfl⟩
  obtain ⟨once, ended, ending_eq, silent⟩ := crashed
  have stays (turns : Nat) : later steps (turns + 1) = later steps 1 :=
    Function.iterate_fixed (step_of_ended ended none) turns
  refine ⟨repeats, once, fun turns => ?_⟩
  cases turns with
  | zero =>
      have underway : (later steps 0).ending = none := rfl
      rw [underway]
      exact ⟨by simp, by simp, rfl⟩
  | succ turns =>
      rw [stays, ending_eq]
      exact ⟨by simp, by simp, silent⟩

end Journey

end LoadTest
