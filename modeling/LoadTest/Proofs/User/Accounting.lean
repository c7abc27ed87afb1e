import LoadTest.Feeder
import LoadTest.Proofs.User.Attempts
import LoadTest.Proofs.User.Frames

/-!
What a user does and what it is accounted for.

The attempts of a user are the requests and the draws that it executed, its metrics are those of its
attempts, and how it ends goes with what they came to.  `Accounted` says so of a journey at any
turn, and every turn keeps it (`Accounted.step`).

A user can also be brought down.  The step that does it is the last one begun, or a loop whose
condition crashes after a round; the loops that a user is in are among the steps that it has begun
(`Walk.LoopsAmong`).
-/

namespace LoadTest

/-! ### The loops around -/

/-- All loops that a walk is in are among these steps. -/
def Walk.LoopsAmong (begun : List Step) (walk : Walk) : Prop :=
  ∀ frame ∈ walk.frames, ∀ kind counter iteration shadowed,
    frame.enclosure = .loop kind counter iteration shadowed →
    .loop kind counter frame.steps ∈ begun

namespace Walk.LoopsAmong

variable {begun : List Step} {walk : Walk} {frame : Frame} {outer : List Frame}

theorem append (among : walk.LoopsAmong begun) (more : List Step) :
    walk.LoopsAmong (begun ++ more) := by
  intro frame inside kind counter iteration shadowed enclosed
  exact List.mem_append_left _ (among frame inside kind counter iteration shadowed enclosed)

theorem congr {other : Walk} (among : walk.LoopsAmong begun) (same : other.frames = walk.frames) :
    other.LoopsAmong begun := by
  intro frame inside
  exact among frame (same ▸ inside)

theorem begin (among : walk.LoopsAmong begun) (step : Step) :
    ((walk.begin step).next walk).LoopsAmong (begun ++ [step]) := by
  have kept := among.append [step]
  cases step with
  | group name steps =>
      refine List.forall_mem_cons.2 ⟨?_, kept⟩
      rintro kind counter iteration shadowed ⟨⟩
  | branch condition steps =>
      simp only [Walk.begin]
      split
      · refine List.forall_mem_cons.2 ⟨?_, kept⟩
        rintro kind counter iteration shadowed ⟨⟩
      · exact kept
      · exact kept
  | loop kind counter steps =>
      simp only [Walk.begin]
      split
      · refine List.forall_mem_cons.2 ⟨?_, kept⟩
        rintro kind counter iteration shadowed ⟨⟩
        exact List.mem_append_right _ List.mem_cons_self
      · exact kept
      · exact kept
  | _ => exact kept

theorem leave (among : walk.LoopsAmong begun) (framed : walk.frames = frame :: outer) :
    ((walk.leave frame outer).next walk).LoopsAmong begun := by
  have parts : ∀ other ∈ frame :: outer, ∀ kind counter iteration shadowed,
      other.enclosure = .loop kind counter iteration shadowed →
      .loop kind counter other.steps ∈ begun := framed ▸ among
  obtain ⟨here, around⟩ := List.forall_mem_cons.1 parts
  unfold Walk.leave
  split
  · exact around
  · exact around
  · exact around
  next enclosed =>
    split
    · refine List.forall_mem_cons.2 ⟨?_, around⟩
      rintro kind counter iteration shadowed ⟨⟩
      exact here _ _ _ _ enclosed
    · exact around
    · exact among

theorem turn (among : walk.LoopsAmong begun) :
    (walk.turn.next walk).LoopsAmong (begun ++ walk.step?.toList) := by
  cases framed : walk.frames with
  | nil =>
      simp only [Walk.turn, framed, Turn.next]
      exact among.append _
  | cons frame outer =>
      cases here : frame.steps[frame.position]? with
      | none =>
          rw [next_turn_of_leave framed here]
          exact (among.leave framed).append _
      | some step =>
          have begins : walk.step? = some step := by simp only [step?, framed, here]
          have moved : Walk.LoopsAmong begun
              { walk with frames := { frame with position := frame.position + 1 } :: outer } := by
            unfold Walk.LoopsAmong at among
            rw [framed] at among
            obtain ⟨first, around⟩ := List.forall_mem_cons.1 among
            exact List.forall_mem_cons.2 ⟨first, around⟩
          rw [next_turn_of_begin framed here, begins]
          exact moved.begin step

end Walk.LoopsAmong

namespace User

/-- As long as a run is not cancelled, a turn of a user begins the next step of its walk, or leaves
its frames as they are. -/
theorem frames_turn_cases {World : Type} (setting : Setting) (outside : Outside World) (now : Nat)
    (world : World) (user : User) :
    user.step? = user.walk.step? ∧
        (user.turn setting outside none now world).1.user.walk.frames =
          (user.walk.turn.next user.walk).frames ∨
      user.step? = none ∧
        (user.turn setting outside none now world).1.user.walk.frames = user.walk.frames := by
  unfold User.turn User.step?
  cases doing : user.activity with
  | ready => exact .inl ⟨rfl, frames_advance⟩
  | pausing wake => exact .inl ⟨rfl, frames_advance⟩
  | awaiting call outcome since wake => exact .inr ⟨rfl, by rw [settle_walk]⟩
  | aborting => exact .inr ⟨rfl, rfl⟩
  | ended => exact .inr ⟨rfl, rfl⟩

theorem loopsAmong_turn {World : Type} (setting : Setting) (outside : Outside World) (now : Nat)
    (world : World) {user : User} {begun : List Step} (among : user.walk.LoopsAmong begun) :
    (user.turn setting outside none now world).1.user.walk.LoopsAmong
      (begun ++ user.step?.toList) := by
  obtain ⟨begins, moved⟩ | ⟨_, stays⟩ := user.frames_turn_cases setting outside now world
  · rw [begins]
    exact among.turn.congr moved
  · exact (among.append _).congr stays

end User

/-! ### Accounts -/

namespace Journey

variable {World : Type} (setting : Setting) (around : Surroundings World)

/-- The steps begun in a number of turns. -/
def executed (journey : Journey World) (turns : Nat) : List Step :=
  journey.observed setting around (·.user.step?) turns

/-- The attempt that comes to its result in the next turn. -/
def attempt? (journey : Journey World) : Option Attempt :=
  journey.user.attempt? setting around.toOutside (around.now journey.world) journey.world

/-- The attempts that came to their results in a number of turns. -/
def attempts (journey : Journey World) (turns : Nat) : List Attempt :=
  journey.observed setting around (attempt? setting around) turns

/-- No attempt was one that ends its user. -/
def Spared (attempts : List Attempt) : Prop :=
  ∀ attempt ∈ attempts, setting.onFailure.fatal? attempt.result.error = none

/-- A step brings a user down: the last one that it began, or a loop that it is in. -/
def BroughtDown (executed : List Step) (deeds : List Deed) (situation : Situation World) : Prop :=
  ∃ step ∈ executed, (executed.getLast? = some step ∨ step.isLoop = true) ∧
    step.Crashes (around.now situation.world) situation.session deeds

/-- How a user may end after its attempts.  If it fails, it does so with the last of them. -/
def Judged (executed : List Step) (attempts : List Attempt) (deeds : List Deed)
    (situation : Situation World) : Option Ending → Prop
  | none => Spared setting attempts
  | some .completed => Spared setting attempts
  | some (.failed error) =>
      ∃ earlier last, attempts = earlier ++ [last] ∧ Spared setting earlier ∧
        setting.onFailure.fatal? last.result.error = some error ∧
        executed.getLast? = some last.step
  | some .crashed => Spared setting attempts ∧ BroughtDown around executed deeds situation
  | some _ => False

/-- The steps and the attempts of a journey account for what it has come to. -/
structure Accounted (executed : List Step) (attempts : List Attempt) (journey : Journey World) :
    Prop where
  sound : ∀ attempt ∈ attempts, attempt.Sound
  metrics_eq :
    journey.deeds.filterMap Deed.metric? = attempts.filterMap (·.result.metric)
  draws_eq :
    journey.deeds.filterMap Deed.drawError? = attempts.filterMap Attempt.drawError?
  /-- A request without a result is one whose answer is awaited, and a draw without one has
  crashed. -/
  attempts_eq :
    executed.filter Step.isAttempt = attempts.map (·.step) ++
      (journey.deeds.filterMap Deed.broken? ++ journey.user.pending?.toList)
  unbroken : journey.ending ≠ some .crashed → journey.deeds.filterMap Deed.broken? = []
  pending : ∀ step, journey.user.pending? = some step → executed.getLast? = some step
  judged :
    Judged setting around executed attempts journey.deeds journey.situation journey.ending

variable {setting around} {executed : List Step} {attempts : List Attempt}
  {journey : Journey World}

theorem Spared.append {attempt : Attempt} (spared : Spared setting attempts)
    (mild : setting.onFailure.fatal? attempt.result.error = none) :
    Spared setting (attempts ++ [attempt]) := by
  intro other among
  rcases List.mem_append.1 among with earlier | last
  · exact spared other earlier
  · rw [List.mem_singleton.1 last]
    exact mild

/-- What brings down a user in a turn does so after all that it has done. -/
theorem BroughtDown.of_advance {advance : Advance} {step : Option Step} {world : World}
    (brought : advance.BroughtDown (around.now world) step)
    (other : ∀ begun, step = some begun → begun.isAttempt = false)
    (loops : advance.user.walk.LoopsAmong (executed ++ step.toList)) (earlier : List Deed) :
    BroughtDown around (executed ++ step.toList) (earlier ++ advance.deeds)
      ⟨advance.user.walk.session, advance.user.random, world⟩ := by
  obtain ⟨begun, rfl, crashes⟩ | ⟨frame, inside, crashes⟩ := brought
  · refine ⟨begun, by simp, .inl List.getLast?_concat, ?_⟩
    exact crashes.append (other begun rfl) earlier
  · obtain ⟨kind, counter, iteration, shadowed, enclosed, crashes⟩ := crashes
    exact ⟨_, loops frame inside _ _ _ _ enclosed, .inr rfl, _, crashes⟩

theorem pending?_settle (user : User) (policy : FailurePolicy) (walk : Walk) (deeds : List Deed)
    (result : StepResult) : (user.settle policy walk deeds result).user.pending? = none := by
  unfold User.settle
  cases policy.fatal? result.error <;> rfl

theorem drawError?_recorded (metric : Option Metric) :
    (metric.toList.map Deed.recorded).filterMap Deed.drawError? = [] := by
  cases metric <;> rfl

theorem broken?_recorded (metric : Option Metric) :
    (metric.toList.map Deed.recorded).filterMap Deed.broken? = [] := by
  cases metric <;> rfl

theorem filterMap_calls {Item : Type} {told : Deed → Option Item} {deeds : List Deed}
    (silent : ∀ hook session, told (.called hook session) = none)
    (calls : ∀ deed ∈ deeds, ∃ hook session, deed = .called hook session) :
    deeds.filterMap told = [] := by
  refine List.filterMap_eq_nil_iff.2 fun deed among => ?_
  obtain ⟨hook, session, rfl⟩ := calls deed among
  exact silent hook session

namespace Accounted

variable (accounted : Accounted setting around executed attempts journey)

include accounted

theorem spared (underway : journey.ending = none) : Spared setting attempts := by
  have judged := accounted.judged
  rw [underway] at judged
  exact judged

theorem whole (underway : journey.ending = none) :
    journey.deeds.filterMap Deed.broken? = [] :=
  accounted.unbroken (by simp [underway])

/-- An attempt comes to its result; it may be the one that ends the user. -/
theorem settled {user : User} {walk : Walk} {world : World} {deeds : List Deed}
    {attempt : Attempt} {begun : List Step} (underway : journey.ending = none)
    (sound : attempt.Sound) (silent : deeds.filterMap Deed.metric? = [])
    (whole : deeds.filterMap Deed.broken? = [])
    (draws : deeds.filterMap Deed.drawError? = attempt.drawError?.toList)
    (last : (executed ++ begun).getLast? = some attempt.step)
    (steps : (executed ++ begun).filter Step.isAttempt =
      attempts.map (·.step) ++ [attempt.step]) :
    Accounted setting around (executed ++ begun) (attempts ++ [attempt])
      (journey.follow around (user.settle setting.onFailure walk deeds attempt.result) world) := by
  have unbroken : (journey.follow around
      (user.settle setting.onFailure walk deeds attempt.result) world).deeds.filterMap
        Deed.broken? = [] := by
    simp only [follow, User.settle_deeds, List.filterMap_append, whole, broken?_recorded,
      accounted.whole underway, List.append_nil]
  constructor
  case sound =>
    intro other among
    rcases List.mem_append.1 among with earlier | now
    · exact accounted.sound other earlier
    · rw [List.mem_singleton.1 now]
      exact sound
  case metrics_eq =>
    simp only [follow, User.settle_deeds, List.filterMap_append, accounted.metrics_eq, silent,
      List.nil_append]
    cases recorded : attempt.result.metric <;> simp [recorded, Deed.metric?]
  case draws_eq =>
    simp only [follow, User.settle_deeds, List.filterMap_append, accounted.draws_eq, draws,
      drawError?_recorded, List.append_nil]
    cases failed : attempt.drawError? <;> simp [failed]
  case attempts_eq =>
    rw [unbroken]
    simp [steps, follow, pending?_settle]
  case unbroken => exact fun _ => unbroken
  case pending =>
    intro step waits
    simp only [follow, pending?_settle] at waits
    cases waits
  case judged =>
    have spared := accounted.spared underway
    simp only [follow, underway, Option.or_none]
    unfold User.settle
    cases fate : setting.onFailure.fatal? attempt.result.error with
    | some error => exact ⟨attempts, attempt, rfl, spared, fate, last⟩
    | none => exact spared.append fate

/-- A turn that has to do neither with requests nor with draws. -/
theorem aside {advance : Advance} {step : Option Step} {world : World}
    (underway : journey.ending = none) (idle : journey.user.pending? = none)
    (other : ∀ begun, step = some begun → begun.isAttempt = false)
    (calls : ∀ deed ∈ advance.deeds, ∃ hook session, deed = .called hook session)
    (calm : advance.user.pending? = none)
    (fate : ∀ ending, advance.pace.ending? = some ending →
      ending = .completed ∨ ending = .crashed ∧ advance.BroughtDown (around.now world) step)
    (loops : advance.user.walk.LoopsAmong (executed ++ step.toList)) :
    Accounted setting around (executed ++ step.toList) attempts
      (journey.follow around advance world) := by
  have silent : advance.deeds.filterMap Deed.metric? = [] :=
    filterMap_calls (fun _ _ => rfl) calls
  have undrawn : advance.deeds.filterMap Deed.drawError? = [] :=
    filterMap_calls (fun _ _ => rfl) calls
  have unhurt : advance.deeds.filterMap Deed.broken? = [] :=
    filterMap_calls (fun _ _ => rfl) calls
  have unbroken : (journey.follow around advance world).deeds.filterMap Deed.broken? = [] := by
    simp only [follow, List.filterMap_append, unhurt, accounted.whole underway, List.append_nil]
  constructor
  case sound => exact accounted.sound
  case metrics_eq => simp only [follow, List.filterMap_append, accounted.metrics_eq, silent,
    List.append_nil]
  case draws_eq => simp only [follow, List.filterMap_append, accounted.draws_eq, undrawn,
    List.append_nil]
  case attempts_eq =>
    have kept : step.toList.filter Step.isAttempt = [] := by
      cases step with
      | none => rfl
      | some begun => simp [other begun rfl]
    rw [unbroken, List.filter_append, accounted.attempts_eq, accounted.whole underway, kept, idle]
    simp only [follow, calm, List.append_nil]
  case unbroken => exact fun _ => unbroken
  case pending =>
    intro begun waits
    rw [follow, calm] at waits
    cases waits
  case judged =>
    have spared := accounted.spared underway
    simp only [follow, underway, Option.or_none]
    cases ends : advance.pace.ending? with
    | none => exact spared
    | some ending =>
        obtain rfl | ⟨rfl, brought⟩ := fate ending ends
        · exact spared
        · rw [Pace.ending?_eq_some_iff] at ends
          refine ⟨spared, ?_⟩
          simp only [situation, ends, Surroundings.pass]
          exact .of_advance brought other loops journey.deeds

/-- A draw crashes. -/
theorem broken {user : User} {feeder : String} {world : World} (underway : journey.ending = none)
    (idle : journey.user.pending? = none) :
    Accounted setting around (executed ++ [.feed feeder]) attempts
      (journey.follow around (user.finish [.drew feeder none] .crashed) world) := by
  have whole := accounted.whole underway
  constructor
  case sound => exact accounted.sound
  case metrics_eq => simp [follow, User.finish, accounted.metrics_eq, Deed.metric?]
  case draws_eq => simp [follow, User.finish, accounted.draws_eq, Deed.drawError?]
  case attempts_eq =>
    rw [List.filter_append, accounted.attempts_eq, idle]
    simp [whole, follow, User.finish, User.pending?, Deed.broken?, Step.isAttempt]
  case unbroken => exact fun survived => absurd rfl survived
  case pending => rintro step ⟨⟩
  case judged =>
    refine ⟨accounted.spared underway, .feed feeder, by simp, .inl List.getLast?_concat, ?_⟩
    exact List.getLast?_concat

/-- A turn in which a user does something on its own. -/
theorem reported {advance : Advance} {step : Option Step} {attempt : Option Attempt}
    {world : World} (underway : journey.ending = none) (idle : journey.user.pending? = none)
    (reports : advance.Reports setting.onFailure (around.now journey.world) step attempt)
    (stays : advance.pace.ending? = some .crashed → (∀ feeder, step ≠ some (.feed feeder)) →
      world = journey.world)
    (loops : advance.user.walk.LoopsAmong (executed ++ step.toList)) :
    Accounted setting around (executed ++ step.toList) (attempts ++ attempt.toList)
      (journey.follow around advance world) := by
  have whole := accounted.whole underway
  have open_eq := accounted.attempts_eq
  rw [whole, idle, Option.toList_none, List.append_nil, List.append_nil] at open_eq
  cases reports with
  | aside other calls calm fate =>
      rw [Option.toList_none, List.append_nil]
      refine accounted.aside underway idle other calls calm (fun ending ends => ?_) loops
      obtain completed | ⟨rfl, brought⟩ := fate ending ends
      · exact .inl completed
      · have undrawn : ∀ feeder, step ≠ some (.feed feeder) := by
          rintro feeder rfl
          cases other _ rfl
        rw [stays ends undrawn]
        exact .inr ⟨rfl, brought⟩
  | broken =>
      rw [Option.toList_none, List.append_nil]
      exact accounted.broken underway idle
  | settled sound silent whole draws =>
      refine accounted.settled underway sound silent whole draws List.getLast?_concat ?_
      simp [open_eq, sound.isAttempt]
  | asked =>
      refine ⟨?_, ?_, ?_, ?_, ?_, ?_, ?_⟩
      · simpa using accounted.sound
      · simp [follow, accounted.metrics_eq, Deed.metric?]
      · simp [follow, accounted.draws_eq, Deed.drawError?]
      · rw [List.filter_append, open_eq]
        simp only [follow, List.filterMap_append, whole, List.nil_append, Option.toList_none,
          List.append_nil]
        rfl
      · simp [follow, whole, Deed.broken?]
      · rintro begun ⟨⟩
        exact List.getLast?_concat
      · have spared := accounted.spared underway
        simpa [follow, underway, Judged] using spared

/-- The answer to a request comes. -/
theorem answered {call : Call} {outcome : Except TransportError Response} {since wake : Nat}
    {elapsed : Duration} (underway : journey.ending = none)
    (awaiting : journey.user.activity = .awaiting call outcome since wake) :
    let result := call.conclude journey.user.walk.session elapsed outcome
    Accounted setting around executed (attempts ++ [⟨.request call.request, result⟩])
      (journey.follow around
        (journey.user.settle setting.onFailure journey.user.walk [] result) journey.world) := by
  intro result
  have pends : journey.user.pending? = some (.request call.request) := by
    simp only [User.pending?, awaiting]
  have whole := accounted.whole underway
  have sound := call.sound_conclude journey.user.walk.session elapsed outcome
  have last : (executed ++ []).getLast? = some (.request call.request) := by
    rw [List.append_nil]
    exact accounted.pending _ pends
  have steps : (executed ++ []).filter Step.isAttempt =
      attempts.map (·.step) ++ [.request call.request] := by
    rw [List.append_nil, accounted.attempts_eq, whole, pends]
    rfl
  rw [← List.append_nil executed]
  exact accounted.settled underway sound rfl rfl rfl last steps

/-- Every turn keeps the accounts. -/
theorem step (undisturbed : Undisturbed journey)
    (loops : journey.user.walk.LoopsAmong executed) :
    Accounted setting around (executed ++ journey.user.step?.toList)
      (attempts ++ (journey.attempt? setting around).toList)
      (journey.step setting around none) := by
  have fresh := undisturbed.fresh
  have underway (working : journey.user.activity ≠ .ended) : journey.ending = none := by
    by_contra finished
    exact working (undisturbed.ended_iff.2 finished)
  have after := User.loopsAmong_turn setting around.toOutside (around.now journey.world)
    journey.world loops
  unfold Journey.attempt? User.step? User.attempt?
  cases doing : journey.user.activity with
  | ready =>
      have idle : journey.user.pending? = none := by simp only [User.pending?, doing]
      simp only [User.turn, User.step?, doing] at after
      simp only [Journey.step, User.turn, doing]
      exact accounted.reported (underway (by simp [doing])) idle (User.reports_advance doing)
        User.advance_world_of_crashed after
  | pausing wake =>
      have idle : journey.user.pending? = none := by simp only [User.pending?, doing]
      have woken : ({ journey.user with activity := .ready } : User).activity = .ready := rfl
      simp only [User.turn, User.step?, doing] at after
      simp only [Journey.step, User.turn, doing]
      exact accounted.reported (underway (by simp [doing])) idle (User.reports_advance woken)
        User.advance_world_of_crashed after
  | awaiting call outcome since wake =>
      simp only [Journey.step, User.turn, doing, Option.toList_none, List.append_nil]
      exact accounted.answered (underway (by simp [doing])) doing
  | aborting => exact absurd doing fresh
  | ended =>
      rw [step_of_ended doing]
      simpa using accounted

end Accounted

theorem accounted_entering (steps : List Step) (before : Situation World) :
    Accounted setting around [] [] (.entering steps before) :=
  ⟨nofun, rfl, rfl, rfl, fun _ => rfl, nofun, nofun⟩

theorem loopsAmong_iterate (steps : List Step) (before : Situation World) (turns : Nat) :
    let user : Journey World := .entering steps before
    ((Journey.step setting around none)^[turns] user).user.walk.LoopsAmong
      (user.executed setting around turns) := by
  intro user
  induction turns with
  | zero =>
      refine List.forall_mem_singleton.2 ?_
      rintro kind counter iteration shadowed ⟨⟩
  | succ turns inductionHypothesis =>
      rw [executed, observed_succ, Function.iterate_succ_apply']
      exact User.loopsAmong_turn setting _ _ _ inductionHypothesis

/-- The accounts of a user are right after any number of turns. -/
theorem accounted_iterate (steps : List Step) (before : Situation World) (turns : Nat) :
    let user : Journey World := .entering steps before
    Accounted setting around (user.executed setting around turns)
      (user.attempts setting around turns)
      ((Journey.step setting around none)^[turns] user) := by
  intro user
  induction turns with
  | zero => exact accounted_entering steps before
  | succ turns inductionHypothesis =>
      rw [executed, attempts, observed_succ, observed_succ, Function.iterate_succ_apply']
      exact inductionHypothesis.step
        (undisturbed_iterate (undisturbed_entering steps before) turns)
        (loopsAmong_iterate steps before turns)

/-- A failure ended its user: it came from the last step and was recorded last.  All that was
recorded as failed before had variables missing. -/
structure FailsWith (error : StepError) (executed : List Step) (earlier : List Attempt)
    (last : Attempt) (metrics : List Metric) : Prop where
  error_eq : last.result.error = some error
  last_eq : executed.getLast? = some last.step
  metrics_eq : ∃ metric, metric.outcome = .ko error.message ∧
    last.result.metric = some metric ∧ metrics = earlier.filterMap (·.result.metric) ++ [metric]
  unresolved : ∀ attempt ∈ earlier, ∀ metric, attempt.result.metric = some metric →
    metric.outcome ≠ .ok → ∃ missing, attempt.result.error = some (.unresolved missing) ∧
      metric.outcome = .ko missing.message

namespace Accounted

variable {ending : Ending}

/-- A user that stops at failures fails with the last thing it did, or not at all. -/
theorem failed_iff (accounted : Accounted setting around executed attempts journey)
    (ended : journey.ending = some ending) (stops : setting.onFailure = .stopUser)
    (error : StepError) :
    (ending = .failed error ↔
      ∃ attempt ∈ attempts, attempt.result.error = some error ∧ error.abortsStepOnly = false) ∧
    (ending = .failed error → ∃ earlier last, attempts = earlier ++ [last] ∧
      FailsWith error executed earlier last (journey.deeds.filterMap Deed.metric?)) := by
  have judged := accounted.judged
  rw [ended] at judged
  have spares (spared : Spared setting attempts) :
      ¬ ∃ attempt ∈ attempts, attempt.result.error = some error ∧ error.abortsStepOnly = false := by
    rintro ⟨attempt, among, fatal⟩
    have mild := spared attempt among
    rw [stops, FailurePolicy.fatal?_stopUser_eq_some_iff.2 fatal] at mild
    cases mild
  cases ending with
  | completed => exact ⟨iff_of_false nofun (spares judged), nofun⟩
  | crashed => exact ⟨iff_of_false nofun (spares judged.1), nofun⟩
  | cancelled reason => exact judged.elim
  | aborted => exact judged.elim
  | failed cause =>
      obtain ⟨earlier, last, same, spared, fatal, last_eq⟩ := judged
      rw [stops] at fatal
      obtain ⟨error_eq, severe⟩ := FailurePolicy.fatal?_stopUser_eq_some_iff.1 fatal
      constructor
      · constructor
        · rintro ⟨⟩
          exact ⟨last, by simp [same], error_eq, severe⟩
        · rintro ⟨attempt, among, found, fatal⟩
          rw [same, List.mem_append, List.mem_singleton] at among
          obtain before | rfl := among
          · have mild := spared attempt before
            rw [stops, FailurePolicy.fatal?_stopUser_eq_some_iff.2 ⟨found, fatal⟩] at mild
            cases mild
          · cases error_eq.symm.trans found
            rfl
      · rintro ⟨⟩
        refine ⟨earlier, last, same, error_eq, last_eq, ?_, ?_⟩
        · have sound := accounted.sound last (by simp [same])
          obtain ⟨metric, recorded, ko⟩ := sound.metric_of_error error_eq
          refine ⟨metric, ko, recorded, ?_⟩
          simp [accounted.metrics_eq, same, recorded]
        · intro attempt before metric recorded ko
          have sound := accounted.sound attempt (by simp [same, before])
          exact sound.unresolved_of_ko (stops ▸ spared attempt before) recorded ko

/-- A user that goes on after failures completes, unless it is brought down. -/
theorem completed_of_continue (accounted : Accounted setting around executed attempts journey)
    (ended : journey.ending = some ending) (goesOn : setting.onFailure = .continue) :
    ending = .completed ∨
      ending = .crashed ∧ BroughtDown around executed journey.deeds journey.situation := by
  have judged := accounted.judged
  rw [ended] at judged
  cases ending with
  | completed => exact .inl rfl
  | crashed => exact .inr ⟨rfl, judged.2⟩
  | cancelled reason => exact judged.elim
  | aborted => exact judged.elim
  | failed cause =>
      obtain ⟨earlier, last, _, _, fatal, _⟩ := judged
      rw [goesOn, FailurePolicy.fatal?_continue] at fatal
      cases fatal

theorem length_metrics (accounted : Accounted setting around executed attempts journey)
    (idle : journey.user.pending? = none) :
    (journey.deeds.filterMap Deed.metric?).length =
      executed.countP Step.isRequest + (journey.deeds.filterMap Deed.drawError?).length := by
  have steps := congrArg (List.countP Step.isRequest) accounted.attempts_eq
  have requests : (executed.filter Step.isAttempt).countP Step.isRequest =
      executed.countP Step.isRequest := by
    rw [List.countP_filter]
    congr 1
    funext step
    cases step <;> rfl
  have draws : (journey.deeds.filterMap Deed.broken?).countP Step.isRequest = 0 := by
    refine List.countP_eq_zero.2 fun step among => ?_
    obtain ⟨deed, -, broken⟩ := List.mem_filterMap.1 among
    unfold Deed.broken? at broken
    split at broken <;> cases broken
    exact Bool.false_ne_true
  rw [requests, idle, Option.toList_none, List.append_nil, List.countP_append, draws,
    Nat.add_zero] at steps
  rw [accounted.metrics_eq, length_metrics_of_sound accounted.sound, steps, accounted.draws_eq]

end Accounted

end Journey

/-! ### Draws that fail -/

/-- A draw that fails in a world does so because its feeder has no record left, which is how feeders
over records and generators fail (`Feeder.isExhausted_of_next`). -/
def Outside.FailsExhausted {World : Type} (outside : Outside World) (world : World) : Prop :=
  ∀ feeder error, (outside.draw world feeder).1 = some (.error error) → error.isExhausted = true

theorem Feeder.isExhausted_of_next {feeder : Feeder} {error : StepError}
    (own : ∀ another, feeder ≠ .other another) (failed : feeder.next.1 = some (.error error)) :
    error.isExhausted = true := by
  cases feeder with
  | ofRecords feeder =>
      cases drawn : feeder.next.1 with
      | ok record => simp [Feeder.next, drawn, Except.mapError] at failed
      | error exhausted =>
          simp only [Feeder.next, drawn, Except.mapError, Option.some.injEq,
            Except.error.injEq] at failed
          exact failed ▸ rfl
  | ofGenerator feeder => simp [Feeder.next] at failed
  | other another => exact absurd rfl (own another)

namespace Outside.FailsExhausted

variable {World : Type} {setting : Setting} {outside : Outside World} {world : World}
  {attempt : Attempt} {error : StepError} (drained : outside.FailsExhausted world)

include drained

theorem walk {walk : Walk} {now : Nat}
    (tries : walk.attempt? setting outside now world = some attempt)
    (failed : attempt.drawError? = some error) : error.isExhausted = true := by
  unfold Walk.attempt? at tries
  split at tries
  · obtain ⟨result, -, rfl⟩ := Option.map_eq_some_iff.1 tries
    cases failed
  next feeder next turned =>
    obtain ⟨drawn, draws, rfl⟩ := Option.map_eq_some_iff.1 tries
    cases drawn with
    | ok record => cases failed
    | error cause =>
        cases failed
        exact drained _ _ draws
  · cases tries

theorem user {user : User} {now : Nat}
    (tries : user.attempt? setting outside now world = some attempt)
    (failed : attempt.drawError? = some error) : error.isExhausted = true := by
  unfold User.attempt? at tries
  split at tries
  · exact drained.walk tries failed
  · exact drained.walk tries failed
  · cases tries
    cases failed
  · cases tries
  · cases tries

end Outside.FailsExhausted

namespace Journey

variable {World : Type} {setting : Setting} {around : Surroundings World} {journey : Journey World}

theorem exhausted_of_mem_attempts {turns : Nat} {attempt : Attempt}
    (drained : ∀ earlier < turns,
      around.FailsExhausted ((step setting around none)^[earlier] journey).world)
    (among : attempt ∈ journey.attempts setting around turns)
    {error : StepError} (failed : attempt.drawError? = some error) : error.isExhausted = true := by
  obtain ⟨earlier, below, tries⟩ := List.mem_filterMap.1 among
  exact (drained earlier (List.mem_range.1 below)).user tries failed

theorem countP_isExhausted (deeds : List Deed)
    (drained : ∀ error ∈ deeds.filterMap Deed.drawError?, error.isExhausted = true) :
    deeds.countP Deed.isExhausted = (deeds.filterMap Deed.drawError?).length := by
  have same : Deed.isExhausted =
      fun deed => (deed.drawError?.map StepError.isExhausted).getD false := by
    funext deed
    rw [Deed.isExhausted]
    cases deed.drawError? <;> rfl
  rw [← List.countP_eq_length.2 drained, List.countP_filterMap, same]

/-- Where draws fail only because there is no record left, those that fail have found that. -/
theorem Accounted.length_drawErrors {executed : List Step} {attempts : List Attempt}
    (accounted : Accounted setting around executed attempts journey)
    (drained : ∀ attempt ∈ attempts, ∀ error, attempt.drawError? = some error →
      error.isExhausted = true) :
    (journey.deeds.filterMap Deed.drawError?).length = journey.deeds.countP Deed.isExhausted := by
  refine (countP_isExhausted _ fun error among => ?_).symm
  rw [accounted.draws_eq] at among
  obtain ⟨attempt, tried, failed⟩ := List.mem_filterMap.1 among
  exact drained attempt tried error failed

theorem isRequest_of_unresolved {attempt : Attempt} {missing : Unresolved}
    (drained : ∀ error, attempt.drawError? = some error → error.isExhausted = true)
    (unresolved : attempt.result.error = some (.unresolved missing)) :
    attempt.step.isRequest = true := by
  by_contra draw
  have failed : attempt.drawError? = some (.unresolved missing) := by
    rw [Attempt.drawError?, if_neg draw, unresolved]
  cases drained _ failed

/-- A user that ends without being cancelled has a result for each request and each draw that it
executed, unless the draw crashed it, and a metric for each request and for each draw that failed.

If failures stop it, it fails exactly if one of the results is an error that does not only end its
step, and then with that error.  If not, it never fails: it completes, unless a step brings
it down.

Where draws fail only because there is no record left, the draws with a metric are those that found
their feeder exhausted, and only requests have variables missing. -/
theorem accounts {World : Type} {setting : Setting} {around : Surroundings World}
    {steps : List Step} {before after : Situation World} {turns : Nat} {deeds : List Deed}
    {ending : Ending}
    (ends : EndsAfter setting around turns (.entering steps before) deeds after ending) :
    let user : Journey World := .entering steps before
    let executed := user.executed setting around turns
    let attempts := user.attempts setting around turns
    let metrics := deeds.filterMap Deed.metric?
    (executed.filter Step.isAttempt = attempts.map (·.step) ++ deeds.filterMap Deed.broken? ∧
      (ending ≠ .crashed → deeds.filterMap Deed.broken? = []) ∧
      metrics = attempts.filterMap (·.result.metric) ∧
      metrics.length =
        executed.countP Step.isRequest + (deeds.filterMap Deed.drawError?).length) ∧
    (setting.onFailure = .stopUser → ∀ error,
      (ending = .failed error ↔
        ∃ attempt ∈ attempts, attempt.result.error = some error ∧ error.abortsStepOnly = false) ∧
      (ending = .failed error → ∃ earlier last, attempts = earlier ++ [last] ∧
        FailsWith error executed earlier last metrics)) ∧
    (setting.onFailure = .continue →
      (∀ error, ending ≠ .failed error) ∧
      (∀ state, ending.state? = some state → state = .completed) ∧
      (ending.state? = none → BroughtDown around executed deeds after)) ∧
    ((∀ earlier < turns,
        around.FailsExhausted ((step setting around none)^[earlier] user).world) →
      metrics.length = executed.countP Step.isRequest + deeds.countP Deed.isExhausted ∧
      ∀ attempt ∈ attempts, ∀ missing, attempt.result.error = some (.unresolved missing) →
        attempt.step.isRequest = true) := by
  intro user executed attempts metrics
  have accounted : Accounted setting around executed attempts _ :=
    accounted_iterate steps before turns
  have undisturbed : Undisturbed ((Journey.step setting around none)^[turns] user) :=
    undisturbed_iterate (undisturbed_entering steps before) turns
  obtain ⟨ended, rfl, rfl⟩ := ends
  have idle : ((Journey.step setting around none)^[turns] user).user.pending? = none := by
    have finished := undisturbed.ended_iff.2 (by simp [user, ended])
    simp only [User.pending?, finished]
  have counted := accounted.length_metrics idle
  refine ⟨⟨?_, ?_, accounted.metrics_eq, counted⟩, accounted.failed_iff ended,
    fun goesOn => ?_, fun drained => ?_⟩
  · have steps := accounted.attempts_eq
    rwa [idle, Option.toList_none, List.append_nil] at steps
  · intro survived
    apply accounted.unbroken
    rw [ended]
    exact fun crashed => survived (Option.some.inj crashed)
  · obtain rfl | ⟨rfl, brought⟩ := accounted.completed_of_continue ended goesOn
    · refine ⟨?_, ?_, ?_⟩
      · rintro error ⟨⟩
      · rintro state ⟨⟩
        rfl
      · rintro ⟨⟩
    · refine ⟨?_, ?_, fun _ => brought⟩
      · rintro error ⟨⟩
      · rintro state ⟨⟩
  · have exhausted : ∀ attempt ∈ attempts, ∀ error, attempt.drawError? = some error →
        error.isExhausted = true :=
      fun _ tried _ failed => exhausted_of_mem_attempts drained tried failed
    exact ⟨accounted.length_drawErrors exhausted ▸ counted,
      fun attempt tried _ unresolved => isRequest_of_unresolved (exhausted attempt tried) unresolved⟩

/-- A request with a variable in its path. -/
def profile : Request where
  name := ⟨"profile"⟩
  method := .get
  path := ⟨"/users/#\x7bid\x7d"⟩

/-- Two steps fail, and the second one ends the user. -/
theorem accounts_profile :
    let setting : Setting := ⟨.stopUser, ⟨"http://localhost", []⟩⟩
    let user : Journey Nat :=
      .entering [.request profile, .feed "ids", .request profile] ⟨.forUser 7, .ofSeed 0, 0⟩
    let ended := (step setting slowly none)^[2] user
    EndsAfter setting slowly 2 user ended.deeds ended.situation
        (.failed (.exhausted ⟨"ids"⟩)) ∧
      (∀ world, slowly.FailsExhausted world) ∧
      (ended.deeds.filterMap Deed.metric?).length = 2 ∧
      ∃ earlier last, user.attempts setting slowly 2 = earlier ++ [last] ∧
        FailsWith (.exhausted ⟨"ids"⟩) (user.executed setting slowly 2) earlier last
          (ended.deeds.filterMap Deed.metric?) := by
  intro setting user ended
  have ends : EndsAfter setting slowly 2 user ended.deeds ended.situation
      (.failed (.exhausted ⟨"ids"⟩)) := ⟨by decide +kernel, rfl, rfl⟩
  have drained (world : Nat) : slowly.FailsExhausted world := by
    rintro feeder error ⟨⟩
    rfl
  obtain ⟨_, stops, _, exhausts⟩ := accounts ends
  refine ⟨ends, drained, ?_, (stops rfl _).2 rfl⟩
  rw [(exhausts fun _ _ => drained _).1]
  decide +kernel

end Journey

end LoadTest
