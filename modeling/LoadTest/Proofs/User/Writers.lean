import LoadTest.Proofs.Scenario.Written
import LoadTest.Proofs.User.Frames
import LoadTest.Proofs.User.Origin

/-!
Who writes the variables of a user.

Where no hook is run, a variable is written by loops that count in it, by checks that save into it
and by draws, so any other holds what it held at the start.  The user's number is written by
nobody.  A request or a draw that fails writes nothing at all: its session is the one that it was
begun with (`Undertaken.session_eq`).
-/

namespace LoadTest

/-! ### The number of a user -/

namespace Walk

theorem userId_begin (walk : Walk) (step : Step) :
    ((walk.begin step).next walk).session.userId = walk.session.userId := by
  cases step with
  | branch condition steps =>
      simp only [begin]
      split
      · rfl
      · rfl
      · rfl
  | loop kind counter steps =>
      simp only [begin]
      split
      · rfl
      · rfl
      · rfl
  | _ => rfl

theorem userId_leave (walk : Walk) (frame : Frame) (outer : List Frame) :
    ((walk.leave frame outer).next walk).session.userId = walk.session.userId := by
  unfold leave
  split
  · rfl
  · rfl
  · rfl
  · split
    · rfl
    · exact Session.userId_restore ..
    · rfl

theorem userId_turn (walk : Walk) :
    (walk.turn.next walk).session.userId = walk.session.userId := by
  cases framed : walk.frames with
  | nil => simp only [turn, framed, Turn.next]
  | cons frame outer =>
      cases here : frame.steps[frame.position]? with
      | none =>
          rw [next_turn_of_leave framed here]
          exact userId_leave walk frame outer
      | some step =>
          rw [next_turn_of_begin framed here]
          exact userId_begin _ step

end Walk

theorem userId_evaluateAll (checks : List Check) (response : Response) (session : Session) :
    (evaluateAll checks response session).session.userId = session.userId := by
  unfold evaluateAll
  split
  · rfl
  · exact Session.userId_merge ..

theorem Call.userId_conclude (call : Call) (session : Session) (elapsed : Duration)
    (outcome : Except TransportError Response) :
    (call.conclude session elapsed outcome).session.userId = session.userId := by
  cases outcome with
  | error error => rfl
  | ok response =>
      simp only [conclude]
      split
      · exact userId_evaluateAll ..
      · exact userId_evaluateAll ..

theorem Walk.userId_fed (walk : Walk) (feeder : String) (drawn : Except StepError Record) :
    (walk.fed feeder drawn).session.userId = walk.session.userId := by
  cases drawn with
  | ok record => exact Session.userId_merge ..
  | error error => rfl

namespace User

variable {World : Type} {setting : Setting} {outside : Outside World} {now : Nat} {world : World}
  {cancel : Option CancelReason} {user : User} {walk : Walk}

theorem userId_send (request : Request) :
    (user.send setting outside now world walk request).1.user.walk.session.userId =
      walk.session.userId := by
  unfold send
  split
  next result called => rw [settle_walk, Walk.session_of_call called]
  next call called =>
    cases waits : wakeAfter? now (outside.send world call.prepared).1.delay with
    | none =>
        simp only [waits, settle_walk]
        exact Call.userId_conclude ..
    | some wake => simp only [waits]

theorem userId_feed (feeder : String) :
    (user.feed setting outside world walk feeder).1.user.walk.session.userId =
      walk.session.userId := by
  rcases draws : outside.draw world feeder with ⟨_ | drawn, later⟩
  · rw [feed_of_crash draws]
    rfl
  · rw [feed_of_drawn draws, settle_walk]
    exact Walk.userId_fed ..

theorem userId_pause (pause : Pause) :
    (user.pause now walk pause).user.walk.session.userId = walk.session.userId := by
  unfold User.pause
  rcases pause.duration user.random with ⟨duration, random⟩
  cases told : endsInTime now duration with
  | false => simp [told, finish]
  | true => cases waits : wakeAfter? now duration <;> simp [told, waits]

theorem userId_advance (unhooked : ∀ hook, user.walk.step? ≠ some (.exec hook)) :
    (user.advance setting outside cancel now world).1.user.walk.session.userId =
      user.walk.session.userId := by
  have kept := user.walk.userId_turn
  have begins := user.walk.begins_turn
  unfold advance
  cases cancel with
  | some reason => rfl
  | none =>
      cases turned : user.walk.turn with
      | exec hook next =>
          rw [turned] at begins
          exact absurd begins (unhooked hook)
      | request request next =>
          rw [turned] at kept
          exact (userId_send request).trans kept
      | pause pause next =>
          rw [turned] at kept
          exact (userId_pause pause).trans kept
      | feed feeder next =>
          rw [turned] at kept
          exact (userId_feed feeder).trans kept
      | _ =>
          rw [turned] at kept
          exact kept

/-- Without hooks the number of a user stays as it is. -/
theorem userId_turn (unhooked : ∀ hook, user.step? ≠ some (.exec hook)) :
    (user.turn setting outside cancel now world).1.user.walk.session.userId =
      user.walk.session.userId := by
  unfold User.turn
  unfold User.step? at unhooked
  cases doing : user.activity with
  | ready =>
      simp only [doing] at unhooked ⊢
      exact userId_advance unhooked
  | pausing wake =>
      simp only [doing] at unhooked ⊢
      exact userId_advance unhooked
  | awaiting call outcome since wake =>
      simp only [settle_walk]
      exact Call.userId_conclude ..
  | aborting => rfl
  | ended => rfl

end User

/-! ### Steps that fail -/

theorem Call.session_of_error {call : Call} {session : Session} {elapsed : Duration}
    {outcome : Except TransportError Response}
    (failed : (call.conclude session elapsed outcome).error ≠ none) :
    (call.conclude session elapsed outcome).session = session := by
  cases outcome with
  | error error => rfl
  | ok response =>
      by_cases pass : ∀ check ∈ call.request.effectiveChecks, check.Passes response session
      · simp [conclude, evaluateAll_of_passes pass] at failed
      · obtain ⟨failure, evaluated⟩ := evaluateAll_of_not_passes pass
        simp only [conclude, evaluated]

namespace Walk

variable {walk : Walk}

/-- A request or a draw is begun with the session that the walk has come to. -/
theorem session_of_isAttempt {step : Step} (begins : walk.step? = some step)
    (attempts : step.isAttempt = true) : (walk.turn.next walk).session = walk.session := by
  obtain ⟨frames, groups, session⟩ := walk
  cases frames with
  | nil => cases begins
  | cons frame outer =>
      have here : frame.steps[frame.position]? = some step := begins
      simp only [turn, here]
      cases step with
      | request request => rfl
      | feed feeder => rfl
      | _ => cases attempts

theorem turn_of_request {request : Request} (begins : walk.step? = some (.request request)) :
    walk.turn = .request request (walk.turn.next walk) := by
  obtain ⟨frames, groups, session⟩ := walk
  cases frames with
  | nil => cases begins
  | cons frame outer =>
      have here : frame.steps[frame.position]? = some (.request request) := begins
      simp only [turn, here]
      rfl

variable {World : Type} {setting : Setting} {outside : Outside World} {now : Nat} {world : World}

theorem session_of_promptly {request : Request} {result : StepResult}
    (prompt : walk.promptly setting outside now world request = some result)
    (failed : result.error ≠ none) : result.session = walk.session := by
  unfold promptly at prompt
  split at prompt
  next unprepared called =>
    cases prompt
    exact session_of_call called
  next call called =>
    cases waits : wakeAfter? now (outside.send world call.prepared).1.delay with
    | none =>
        simp only [waits, Option.some.injEq] at prompt
        subst prompt
        exact Call.session_of_error failed
    | some wake => simp [waits] at prompt

/-- An attempt that fails at once has the session that it was begun with. -/
theorem session_of_attempt? {attempt : Attempt}
    (tries : walk.attempt? setting outside now world = some attempt)
    (failed : attempt.result.error ≠ none) : attempt.result.session = walk.session := by
  have begins := walk.begins_turn
  unfold attempt? at tries
  cases turned : walk.turn with
  | request request next =>
      rw [turned] at begins
      have same := session_of_isAttempt begins rfl
      simp only [turned] at tries same
      obtain ⟨result, prompt, rfl⟩ := Option.map_eq_some_iff.1 tries
      exact (session_of_promptly prompt failed).trans same
  | feed feeder next =>
      rw [turned] at begins
      have same := session_of_isAttempt begins rfl
      simp only [turned] at tries same
      obtain ⟨drawn, -, rfl⟩ := Option.map_eq_some_iff.1 tries
      cases drawn with
      | ok record => simp [fed] at failed
      | error error => exact same
  | _ => simp [turned] at tries

end Walk

namespace User

variable {World : Type} {setting : Setting} {outside : Outside World} {now : Nat} {world : World}
  {user : User} {attempt : Attempt}

theorem session_of_advance (ready : user.activity = .ready)
    (tries : user.walk.attempt? setting outside now world = some attempt) :
    (user.advance setting outside none now world).1.user.walk.session = attempt.result.session := by
  have reports : (user.advance setting outside none now world).1.Reports setting.onFailure now
      user.walk.step? (user.walk.attempt? setting outside now world) := reports_advance ready
  rw [tries] at reports
  generalize (user.advance setting outside none now world).1 = advance at reports ⊢
  generalize user.walk.step? = step at reports
  cases reports with
  | settled => rw [settle_walk]

/-- The user goes on with the session of the attempt that has come to its result. -/
theorem session_of_attempt?
    (tries : user.attempt? setting outside now world = some attempt) :
    (user.turn setting outside none now world).1.user.walk.session = attempt.result.session := by
  unfold User.attempt? at tries
  unfold User.turn
  cases doing : user.activity with
  | ready =>
      simp only [doing] at tries
      exact session_of_advance doing tries
  | pausing wake =>
      let woken : User := { user with activity := .ready }
      have same : woken.walk.attempt? setting outside now world = some attempt := by
        simpa only [doing] using tries
      exact session_of_advance rfl same
  | awaiting call outcome since wake =>
      simp only [doing, Option.some.injEq] at tries
      subst tries
      simp only [settle_walk]
  | aborting => simp [doing] at tries
  | ended => simp [doing] at tries

/-- A user waits for an answer with the session that the request was begun with. -/
theorem session_of_send {walk : Walk} {request : Request}
    (waits : (user.send setting outside now world walk request).1.user.isAwaiting = true) :
    (user.send setting outside now world walk request).1.user.walk.session = walk.session := by
  unfold send at waits ⊢
  split at waits
  next result called => rw [settle_walk, Walk.session_of_call called]
  next call called =>
    cases late : wakeAfter? now (outside.send world call.prepared).1.delay with
    | none =>
        simp only [late, isAwaiting_settle] at waits
        cases waits
    | some wake => simp only [late]

/-- An attempt that fails has the session that the user had before. -/
theorem session_of_failed (tries : user.attempt? setting outside now world = some attempt)
    (failed : attempt.result.error ≠ none) : attempt.result.session = user.walk.session := by
  unfold User.attempt? at tries
  cases doing : user.activity with
  | ready =>
      simp only [doing] at tries
      exact Walk.session_of_attempt? tries failed
  | pausing wake =>
      simp only [doing] at tries
      exact Walk.session_of_attempt? tries failed
  | awaiting call outcome since wake =>
      simp only [doing, Option.some.injEq] at tries
      subst tries
      exact Call.session_of_error failed
  | aborting => simp [doing] at tries
  | ended => simp [doing] at tries

theorem isAwaiting_of_step? {step : Step} (begins : user.step? = some step) :
    user.isAwaiting = false := by
  unfold User.step? at begins
  unfold isAwaiting
  cases doing : user.activity with
  | awaiting call outcome since wake => simp [doing] at begins
  | _ => rfl

theorem session_of_advance_awaiting (ready : user.activity = .ready)
    (waits : (user.advance setting outside none now world).1.user.isAwaiting = true) :
    (user.advance setting outside none now world).1.user.walk.session = user.walk.session := by
  obtain ⟨request, pending⟩ := exists_pending? waits
  have begins := pending?_advance ready pending
  have asks := Walk.turn_of_request begins
  have same := Walk.session_of_isAttempt begins rfl
  unfold advance at waits ⊢
  rw [asks] at waits ⊢
  exact (session_of_send waits).trans same

theorem session_of_turn_awaiting (prompt : user.isAwaiting = false)
    (waits : (user.turn setting outside none now world).1.user.isAwaiting = true) :
    (user.turn setting outside none now world).1.user.walk.session = user.walk.session := by
  unfold User.turn at waits ⊢
  cases doing : user.activity with
  | ready =>
      simp only [doing] at waits
      exact session_of_advance_awaiting doing waits
  | pausing wake =>
      simp only [doing] at waits
      exact session_of_advance_awaiting rfl waits
  | awaiting call outcome since wake => simp [isAwaiting, doing] at prompt
  | aborting => rfl
  | ended => rfl

end User

namespace Journey

variable {World : Type} (setting : Setting) (around : Surroundings World)

/-- A step was begun in a turn, and what it came to was taken up in the same turn, or in a later one
if the answer had to be waited for.  Others may have changed the world and the run may have been
cancelled meanwhile. -/
inductive Undertaken (before : Journey World) (attempt : Attempt) : Journey World → Prop where
  | atOnce :
      before.user.step? = some attempt.step →
      before.attempt? setting around = some attempt →
      Undertaken before attempt (before.step setting around none)
  | awaited {asked : Journey World} {world : World} (cancel : Option CancelReason) :
      before.user.step? = some attempt.step →
      before.step setting around none = asked →
      asked.user.isAwaiting = true →
      { asked with world }.attempt? setting around = some attempt →
      Undertaken before attempt ({ asked with world }.step setting around cancel)

variable {setting around} {before after journey : Journey World} {attempt : Attempt}
  {steps : List Step}

/-- A step that fails leaves the session as it was. -/
theorem Undertaken.session_eq (undertaken : Undertaken setting around before attempt after)
    (failed : attempt.result.error ≠ none) :
    after.user.walk.session = before.user.walk.session := by
  cases undertaken with
  | atOnce begins tries =>
      exact (User.session_of_attempt? tries).trans (User.session_of_failed tries failed)
  | @awaited asked world cancel begins asks waits tries =>
      have waited : asked.user.walk.session = before.user.walk.session := by
        subst asks
        exact User.session_of_turn_awaiting (User.isAwaiting_of_step? begins) waits
      have inFlight : ({ asked with world } : Journey World).user.isAwaiting = true := waits
      rw [step_in_flight inFlight, ← waited]
      exact (User.session_of_attempt? tries).trans (User.session_of_failed tries failed)

/-! ### Variables that nobody writes -/

theorem Reachable.userId_eq {id : Nat} {random : Random} {world : World}
    (reachable : Reachable setting around (start (.start id random steps) world) journey)
    (hookless : ∀ hook, ¬ (Step.exec hook).Inside steps) :
    journey.user.walk.session.userId = id := by
  induction reachable with
  | refl => rfl
  | turn cancel earlier inductionHypothesis =>
      refine Eq.trans ?_ inductionHypothesis
      apply User.userId_turn
      intro hook begins
      have belongs := earlier.belongs (User.belongs_start id random steps)
      exact hookless hook (belongs.within.step_inside begins)
  | elsewhere world _ inductionHypothesis => exact inductionHypothesis
  | told _ inductionHypothesis =>
      refine Eq.trans ?_ inductionHypothesis
      unfold User.abort
      split
      · rfl
      · rfl

/-- A variable in which no loop of a scenario counts is counted in nowhere on a walk. -/
theorem innermost?_eq_none {key : String} {walk : Walk} (within : walk.Within steps)
    (uncounted : ∀ kind inner, ¬ (Step.loop kind key inner).Inside steps) :
    innermost? key walk.frames = none := by
  apply List.findSome?_eq_none_iff.2
  intro frame among
  cases enclosed : frame.enclosure with
  | loop kind counter iteration shadowed =>
      apply iteration?_of_ne
      rintro rfl
      exact uncounted kind frame.steps (Nested.loop_inside within among enclosed)
  | _ => rfl

theorem Reachable.get?_eq_none {id : Nat} {random : Random} {world : World} {key : String}
    (reachable : Reachable setting around (start (.start id random steps) world) journey)
    (uncounted : ∀ kind inner, ¬ (Step.loop kind key inner).Inside steps)
    (unwritten : Unwritten key steps) (unfed : Unfed key journey.deeds) :
    journey.user.walk.session.get? key = none := by
  have within := (reachable.belongs (User.belongs_start id random steps)).within.walk
  rw [start_start] at reachable
  have holds := (reachable.counts unwritten unfed).walk.holds
  rw [holds, held, innermost?_eq_none within uncounted]
  rfl

/-- Where a scenario runs no hook, a user keeps its number wherever it comes, and a variable has a
value only if a loop counts in it, a check saves into it or a record that was drawn holds it.  A
step that fails leaves the session as it was. -/
theorem variables_have_writers {World : Type} {setting : Setting} {around : Surroundings World}
    {id : Nat} {random : Random} {steps : List Step} {world : World} {journey : Journey World}
    (hookless : ∀ hook, ¬ (Step.exec hook).Inside steps)
    (reachable : Reachable setting around (start (.start id random steps) world) journey) :
    journey.user.walk.session.userId = id ∧
    (∀ key,
      (∀ kind inner, ¬ (Step.loop kind key inner).Inside steps) →
      (∀ request, (Step.request request).Inside steps → ∀ check ∈ request.checks,
        check.saveAs ≠ some key) →
      (∀ feeder record, .drew feeder (some (.ok record)) ∈ journey.deeds → key ∉ record.keys) →
      journey.user.walk.session.get? key = none) ∧
    ∀ attempt after, Undertaken setting around journey attempt after →
      attempt.result.error ≠ none →
      after.user.walk.session = journey.user.walk.session := by
  refine ⟨reachable.userId_eq hookless, fun key uncounted unsaved unfed => ?_,
    fun attempt after undertaken failed => undertaken.session_eq failed⟩
  refine reachable.get?_eq_none uncounted (fun step inside => ?_) unfed
  cases step with
  | request request => exact unsaved request inside
  | exec hook => exact absurd inside (hookless hook)
  | _ => trivial

/-- Laps with a draw that fails and a login. -/
def lapsWithLogins : List Step := [.loop (.times 2) "lap" [.feed "ids", .request login]]

theorem inside_lapsWithLogins {step : Step} (inside : step.Inside lapsWithLogins) :
    step = .loop (.times 2) "lap" [.feed "ids", .request login] ∨ step = .feed "ids" ∨
      step = .request login := by
  simpa [← mem_allWritten_iff, lapsWithLogins, allWritten, Step.written] using inside

theorem variables_have_writers_lapsWithLogins :
    let setting : Setting := ⟨.continue, ⟨"http://localhost", []⟩⟩
    let beginning : Journey Nat := start (.start 7 (.ofSeed 0) lapsWithLogins) 0
    let journey := beginning.step setting slowly none
    let after := journey.step setting slowly none
    Reachable setting slowly beginning journey ∧
      journey.user.walk.session.userId = 7 ∧
      journey.user.walk.session.get? "id" = none ∧
      ∃ attempt, Undertaken setting slowly journey attempt after ∧
        attempt.result.error = some (.exhausted ⟨"ids"⟩) ∧
        after.user.walk.session = journey.user.walk.session := by
  intro setting beginning journey after
  have hookless (hook : Hook) : ¬ (Step.exec hook).Inside lapsWithLogins := by
    intro inside
    rcases inside_lapsWithLogins inside with same | same | same <;> cases same
  have reachable : Reachable setting slowly beginning journey := .turn none .refl
  obtain ⟨numbered, unset, kept⟩ := variables_have_writers hookless reachable
  obtain ⟨attempt, tries, begins, error⟩ : ∃ attempt,
      journey.attempt? setting slowly = some attempt ∧
      journey.user.step? = some attempt.step ∧
      attempt.result.error = some (.exhausted ⟨"ids"⟩) := ⟨_, rfl, rfl, rfl⟩
  have undertaken : Undertaken setting slowly journey attempt after := .atOnce begins tries
  refine ⟨reachable, numbered, ?_, attempt, undertaken, error, ?_⟩
  · apply unset
    · intro kind inner inside
      rcases inside_lapsWithLogins inside with same | same | same
      · simp at same
      · cases same
      · cases same
    · intro request inside
      rcases inside_lapsWithLogins inside with same | same | same
      · cases same
      · cases same
      · cases same
        decide
    · rintro feeder record ⟨⟩
  · exact kept attempt after undertaken (by simp [error])

end Journey

end LoadTest
