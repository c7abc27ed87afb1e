import LoadTest.Proofs.User.Request

/-!
What a user tries, and what it comes to.

A request or a draw that has come to a result is an attempt.  A turn of a user begins a step, brings
an attempt to its result, both or neither, and what it does tells which (`Advance.Reports`): only an
attempt that failed is recorded as failed, and only such an attempt or a step that crashes ends
the user.  A draw may crash, and has no result then.
-/

namespace LoadTest

namespace FailurePolicy

variable {error? : Option StepError}

theorem fatal?_stopUser_eq_some_iff {error : StepError} :
    FailurePolicy.stopUser.fatal? error? = some error ↔
      error? = some error ∧ error.abortsStepOnly = false := by
  cases error? with
  | none => simp [fatal?]
  | some other =>
      constructor
      · intro fatal
        cases mild : other.abortsStepOnly <;> simp [fatal?, mild] at fatal
        exact ⟨congrArg some fatal, fatal ▸ mild⟩
      · rintro ⟨⟨⟩, severe⟩
        simp [fatal?, severe]

theorem fatal?_continue (error? : Option StepError) :
    FailurePolicy.continue.fatal? error? = none := by
  cases error? <;> simp [fatal?]

end FailurePolicy

namespace Step

def isRequest : Step → Bool
  | .request _ => true
  | _ => false

/-- Requests and draws come to results; other steps cannot fail. -/
def isAttempt : Step → Bool
  | .request _ => true
  | .feed _ => true
  | _ => false

def isLoop : Step → Bool
  | .loop .. => true
  | _ => false

/-- The step brings down its user: a hook, a condition or a feeder may, and so does a pause whose
end cannot be told. -/
def Crashes (now : Nat) (session : Session) (deeds : List Deed) : Step → Prop
  | .exec hook => hook.apply session = none
  | .pause rest => ∃ random, endsInTime now (rest.duration random).1 = false
  | .branch condition _ => condition.holds? session = none
  | .loop kind _ _ => ∃ iteration, kind.continues? session iteration = none
  | .feed feeder => deeds.getLast? = some (.drew feeder none)
  | _ => False

theorem Crashes.append {now : Nat} {session : Session} {deeds : List Deed} {step : Step}
    (crashes : step.Crashes now session deeds) (other : step.isAttempt = false)
    (earlier : List Deed) : step.Crashes now session (earlier ++ deeds) := by
  cases step with
  | feed feeder => cases other
  | _ => exact crashes

end Step

/-- A request or a draw, and what it came to. -/
structure Attempt where
  step : Step
  result : StepResult

/-- With what a draw failed. -/
def Attempt.drawError? (attempt : Attempt) : Option StepError :=
  if attempt.step.isRequest then none else attempt.result.error

/-- What attempts come to: a request always records a metric, a draw only if it fails, and a failure
is recorded with its message. -/
inductive Attempt.Sound : Attempt → Prop where
  | passed {request session metric} :
      metric.outcome = .ok → Sound ⟨.request request, session, some metric, none⟩
  | failed {request session metric error} :
      metric.outcome = .ko error.message →
      Sound ⟨.request request, session, some metric, some error⟩
  | drew {feeder session} : Sound ⟨.feed feeder, session, none, none⟩
  | unfed {feeder session metric error} :
      metric.outcome = .ko error.message →
      Sound ⟨.feed feeder, session, some metric, some error⟩

namespace Attempt.Sound

variable {attempt : Attempt} (sound : attempt.Sound)

include sound

theorem isAttempt : attempt.step.isAttempt = true := by
  cases sound <;> rfl

/-- A failure is recorded with its message. -/
theorem metric_of_error {error : StepError} (failed : attempt.result.error = some error) :
    ∃ metric, attempt.result.metric = some metric ∧ metric.outcome = .ko error.message := by
  cases sound with
  | passed => cases failed
  | drew => cases failed
  | failed ko =>
      cases failed
      exact ⟨_, rfl, ko⟩
  | unfed ko =>
      cases failed
      exact ⟨_, rfl, ko⟩

/-- What is recorded as failed although the user goes on had a variable missing. -/
theorem unresolved_of_ko (mild : FailurePolicy.stopUser.fatal? attempt.result.error = none)
    {metric : Metric} (recorded : attempt.result.metric = some metric) (ko : metric.outcome ≠ .ok) :
    ∃ missing, attempt.result.error = some (.unresolved missing) ∧
      metric.outcome = .ko missing.message := by
  have unresolved {error : StepError} (reason : metric.outcome = .ko error.message)
      (spared : FailurePolicy.stopUser.fatal? (some error) = none) :
      ∃ missing, some error = some (.unresolved missing) ∧ metric.outcome = .ko missing.message := by
    cases error with
    | unresolved missing => exact ⟨missing, rfl, reason⟩
    | _ => cases spared
  cases sound with
  | passed ok =>
      cases recorded
      exact absurd ok ko
  | failed reason =>
      cases recorded
      exact unresolved reason mild
  | drew => cases recorded
  | unfed reason =>
      cases recorded
      exact unresolved reason mild

/-- A request records one metric, and a draw one if it failed. -/
theorem length_metric :
    attempt.result.metric.toList.length =
      (if attempt.step.isRequest then 1 else 0) + attempt.drawError?.toList.length := by
  cases sound <;> rfl

end Attempt.Sound

/-- Each request records one metric, and of the draws each that failed. -/
theorem length_metrics_of_sound {attempts : List Attempt}
    (sound : ∀ attempt ∈ attempts, attempt.Sound) :
    (attempts.filterMap (·.result.metric)).length =
      (attempts.map (·.step)).countP Step.isRequest +
        (attempts.filterMap Attempt.drawError?).length := by
  induction attempts with
  | nil => rfl
  | cons attempt attempts inductionHypothesis =>
      obtain ⟨first, others⟩ := List.forall_mem_cons.1 sound
      have one : ((attempt :: attempts).filterMap (·.result.metric)).length =
          attempt.result.metric.toList.length +
            (attempts.filterMap (·.result.metric)).length := by
        cases metric : attempt.result.metric <;> simp [metric, Nat.add_comm]
      have draws : ((attempt :: attempts).filterMap Attempt.drawError?).length =
          attempt.drawError?.toList.length +
            (attempts.filterMap Attempt.drawError?).length := by
        cases error : attempt.drawError? <;> simp [error, Nat.add_comm]
      rw [one, draws, first.length_metric, inductionHypothesis others, List.map_cons,
        List.countP_cons]
      ac_rfl

theorem Call.sound_conclude (call : Call) (session : Session) (elapsed : Duration)
    (outcome : Except TransportError Response) :
    Attempt.Sound ⟨.request call.request, call.conclude session elapsed outcome⟩ := by
  cases outcome with
  | error error => exact .failed rfl
  | ok response =>
      simp only [conclude]
      split
      · exact .passed rfl
      · exact .failed rfl

namespace Walk

variable {walk : Walk} {protocol : Protocol} {request : Request}

theorem sound_fed (walk : Walk) (feeder : String) (drawn : Except StepError Record) :
    Attempt.Sound ⟨.feed feeder, walk.fed feeder drawn⟩ := by
  cases drawn with
  | ok record => exact .drew
  | error error => exact .unfed rfl

theorem sound_call {result : StepResult} (called : walk.call protocol request = .error result) :
    Attempt.Sound ⟨.request request, result⟩ := by
  unfold Walk.call at called
  split at called <;> cases called
  exact .failed rfl

/-! ### Steps that are begun -/

/-- The step that the next turn of a walk begins. -/
def step? (walk : Walk) : Option Step :=
  match walk.frames with
  | [] => none
  | frame :: _ => frame.steps[frame.position]?

end Walk

/-- The condition of a loop crashes at the end of a round. -/
def Frame.Crashes (session : Session) (frame : Frame) : Prop :=
  ∃ kind counter iteration shadowed, frame.enclosure = .loop kind counter iteration shadowed ∧
    kind.continues? session (iteration + 1) = none

/-- What a turn may come to, given the step that it begins. -/
def Turn.Begins (step : Option Step) : Turn → Prop
  | .finished => step = none
  | .moved _ => ∀ begun, step = some begun → begun.isAttempt = false
  | .repeated _ => step = none
  | .request asked _ => step = some (.request asked)
  | .pause rest _ => step = some (.pause rest)
  | .feed feeder _ => step = some (.feed feeder)
  | .exec hook _ => step = some (.exec hook)
  | .crashed next =>
      (∀ begun, step = some begun → begun.isAttempt = false) ∧
        ((∃ begun, step = some begun ∧ ∀ now deeds, begun.Crashes now next.session deeds) ∨
          ∃ frame ∈ next.frames, frame.Crashes next.session)

namespace Walk

theorem begins_begin (walk : Walk) (step : Step) : (walk.begin step).Begins (some step) := by
  have inward (other : step.isAttempt = false) :
      ∀ begun, some step = some begun → begun.isAttempt = false := by
    rintro begun ⟨⟩
    exact other
  cases step with
  | request request => rfl
  | pause pause => rfl
  | feed feeder => rfl
  | exec hook => rfl
  | group name steps => exact inward rfl
  | branch condition steps =>
      simp only [begin]
      split
      · exact inward rfl
      · exact inward rfl
      next crashed => exact ⟨inward rfl, .inl ⟨_, rfl, fun _ _ => crashed⟩⟩
  | loop kind counter steps =>
      simp only [begin]
      split
      · exact inward rfl
      · exact inward rfl
      next crashed => exact ⟨inward rfl, .inl ⟨_, rfl, fun _ _ => ⟨0, crashed⟩⟩⟩

theorem begins_turn (walk : Walk) : walk.turn.Begins walk.step? := by
  obtain ⟨frames, groups, session⟩ := walk
  cases frames with
  | nil => rfl
  | cons frame outer =>
      cases here : frame.steps[frame.position]? with
      | some step =>
          simp only [turn, step?, here]
          exact begins_begin _ step
      | none =>
          simp only [turn, step?, here, leave]
          split
          · exact nofun
          · exact nofun
          · exact nofun
          next enclosed =>
            split
            · rfl
            · exact nofun
            next crashed =>
              exact ⟨nofun, .inr ⟨frame, List.mem_cons_self, _, _, _, _, enclosed, crashed⟩⟩

section

variable {World : Type} (setting : Setting) (outside : Outside World) (now : Nat) (world : World)

/-- What a request comes to at once, unless its answer has to be waited for. -/
def promptly (walk : Walk) (request : Request) : Option StepResult :=
  match walk.call setting.protocol request with
  | .error result => some result
  | .ok call =>
      let reply := (outside.send world call.prepared).1
      match wakeAfter? now reply.delay with
      | none => some (call.conclude walk.session .zero reply.outcome)
      | some _ => none

/-- The attempt that the next turn of a walk begins and brings to its result. -/
def attempt? (walk : Walk) : Option Attempt :=
  match walk.turn with
  | .request request next =>
      (next.promptly setting outside now world request).map fun result => ⟨.request request, result⟩
  | .feed feeder next =>
      (outside.draw world feeder).1.map fun drawn => ⟨.feed feeder, next.fed feeder drawn⟩
  | _ => none

end

end Walk

namespace User

/-- The step that the next turn of a user begins. -/
def step? (user : User) : Option Step :=
  match user.activity with
  | .ready => user.walk.step?
  | .pausing _ => user.walk.step?
  | _ => none

/-- The request whose answer a user waits for. -/
def pending? (user : User) : Option Step :=
  match user.activity with
  | .awaiting call _ _ _ => some (.request call.request)
  | _ => none

/-- The attempt that comes to its result in the next turn of a user. -/
def attempt? {World : Type} (setting : Setting) (outside : Outside World) (now : Nat)
    (world : World) (user : User) : Option Attempt :=
  match user.activity with
  | .ready => user.walk.attempt? setting outside now world
  | .pausing _ => user.walk.attempt? setting outside now world
  | .awaiting call outcome since _ =>
      some ⟨.request call.request,
        call.conclude user.walk.session (.ofMillis (now - since)) outcome⟩
  | .aborting => none
  | .ended => none

end User

def StepError.isExhausted : StepError → Bool
  | .exhausted _ => true
  | _ => false

namespace Deed

/-- With what a draw failed. -/
def drawError? : Deed → Option StepError
  | .drew _ (some (.error error)) => some error
  | _ => none

/-- A draw that found its feeder exhausted. -/
def isExhausted (deed : Deed) : Bool := deed.drawError?.any StepError.isExhausted

/-- The step of a draw that crashed. -/
def broken? : Deed → Option Step
  | .drew feeder none => some (.feed feeder)
  | _ => none

end Deed

/-- The state that a user has come to.  One that was brought down has come to none. -/
def Ending.state? : Ending → Option UserState
  | .completed => some .completed
  | .cancelled reason => some (.cancelled reason)
  | .failed error => some (.failed error)
  | .crashed => none
  | .aborted => none

/-- A user was brought down, by the step that it has just begun or by a loop that it is in. -/
def Advance.BroughtDown (now : Nat) (step : Option Step) (advance : Advance) : Prop :=
  (∃ begun, step = some begun ∧ begun.Crashes now advance.user.walk.session advance.deeds) ∨
    ∃ frame ∈ advance.user.walk.frames, frame.Crashes advance.user.walk.session

/-- What a turn comes to that begins a step, with the attempt that it brings to a result. -/
inductive Advance.Reports (policy : FailurePolicy) (now : Nat) :
    Option Step → Option Attempt → Advance → Prop where
  /-- It has to do neither with requests nor with draws. -/
  | aside {step advance} :
      (∀ begun, step = some begun → begun.isAttempt = false) →
      (∀ deed ∈ advance.deeds, ∃ hook session, deed = .called hook session) →
      advance.user.pending? = none →
      (∀ ending, advance.pace.ending? = some ending →
        ending = .completed ∨ ending = .crashed ∧ advance.BroughtDown now step) →
      Reports policy now step none advance
  /-- The answer to a request has to be waited for. -/
  | asked {walk random call outcome since wake} :
      Reports policy now (some (.request call.request)) none
        ⟨⟨walk, random, .awaiting call outcome since wake⟩, [.sent call.prepared], .waiting wake⟩
  /-- A draw crashes. -/
  | broken {user feeder} :
      Reports policy now (some (.feed feeder)) none
        (User.finish user [.drew feeder none] .crashed)
  | settled {attempt user walk deeds} :
      Attempt.Sound attempt →
      deeds.filterMap Deed.metric? = [] →
      deeds.filterMap Deed.broken? = [] →
      deeds.filterMap Deed.drawError? = attempt.drawError?.toList →
      Reports policy now (some attempt.step) (some attempt)
        (User.settle policy user walk deeds attempt.result)

namespace User

variable {World : Type} {setting : Setting} {outside : Outside World} {now : Nat} {world : World}
  {user : User} {walk : Walk}

theorem reports_send (request : Request) :
    (user.send setting outside now world walk request).1.Reports setting.onFailure now
      (some (.request request))
      ((walk.promptly setting outside now world request).map (⟨.request request, ·⟩)) := by
  unfold send Walk.promptly
  cases called : walk.call setting.protocol request with
  | error result =>
      exact .settled (Walk.sound_call called) rfl rfl rfl
  | ok call =>
      obtain rfl := Walk.request_of_call called
      cases sends : outside.send world call.prepared with
      | mk reply world =>
          cases waits : wakeAfter? now reply.delay with
          | none =>
              have sound := call.sound_conclude walk.session .zero reply.outcome
              simp only [sends, waits]
              exact .settled sound rfl rfl rfl
          | some wake =>
              simp only [sends, waits]
              exact .asked

theorem reports_feed (feeder : String) :
    (user.feed setting outside world walk feeder).1.Reports setting.onFailure now
      (some (.feed feeder))
      ((outside.draw world feeder).1.map (⟨.feed feeder, walk.fed feeder ·⟩)) := by
  rcases draws : outside.draw world feeder with ⟨_ | drawn, later⟩
  · rw [feed_of_crash draws]
    exact .broken
  · rw [feed_of_drawn draws]
    refine .settled (walk.sound_fed feeder drawn) rfl rfl ?_
    cases drawn <;> rfl

theorem reports_pause (ready : user.activity = .ready) (policy : FailurePolicy) (pause : Pause) :
    (user.pause now walk pause).Reports policy now (some (.pause pause)) none := by
  have other : ∀ begun, some (Step.pause pause) = some begun → begun.isAttempt = false := by
    rintro begun ⟨⟩
    rfl
  unfold User.pause
  cases drawn : pause.duration user.random with
  | mk duration random =>
      cases told : endsInTime now duration with
      | false =>
          simp only [told, Bool.false_eq_true, if_false]
          refine .aside other nofun rfl ?_
          rintro ending ⟨⟩
          exact .inr ⟨rfl, .inl ⟨_, rfl, user.random, by rw [drawn, told]⟩⟩
      | true =>
          cases waits : wakeAfter? now duration with
          | none =>
              simp only [told, waits, if_true]
              exact .aside other nofun (by simp only [pending?, ready]) nofun
          | some wake =>
              simp only [told, waits, if_true]
              exact .aside other nofun rfl nofun

theorem reports_exec (ready : user.activity = .ready) (policy : FailurePolicy) (hook : Hook) :
    (user.exec walk hook).Reports policy now (some (.exec hook)) none := by
  have other : ∀ begun, some (Step.exec hook) = some begun → begun.isAttempt = false := by
    rintro begun ⟨⟩
    rfl
  have called : ∀ deed ∈ [Deed.called hook.label walk.session],
      ∃ hook session, deed = .called hook session := by
    rintro deed (_ | ⟨_, ⟨⟩⟩)
    exact ⟨_, _, rfl⟩
  unfold exec
  cases applied : hook.apply walk.session with
  | some session => exact .aside other called (by simp only [pending?, ready]) nofun
  | none =>
      refine .aside other called rfl ?_
      rintro ending ⟨⟩
      exact .inr ⟨rfl, .inl ⟨_, rfl, applied⟩⟩

theorem reports_advance (ready : user.activity = .ready) :
    (user.advance setting outside none now world).1.Reports setting.onFailure now user.walk.step?
      (user.walk.attempt? setting outside now world) := by
  have begins := user.walk.begins_turn
  unfold advance Walk.attempt?
  cases turned : user.walk.turn with
  | finished =>
      rw [turned] at begins
      rw [begins]
      refine .aside nofun nofun rfl ?_
      rintro ending ⟨⟩
      exact .inl rfl
  | moved next =>
      rw [turned] at begins
      exact .aside begins nofun (by simp only [pending?, ready]) nofun
  | repeated next =>
      rw [turned] at begins
      rw [begins]
      exact .aside nofun nofun (by simp only [pending?, ready]) nofun
  | request request next =>
      rw [turned] at begins
      rw [begins]
      exact reports_send request
  | pause pause next =>
      rw [turned] at begins
      rw [begins]
      exact reports_pause ready _ pause
  | feed feeder next =>
      rw [turned] at begins
      rw [begins]
      exact reports_feed feeder
  | exec hook next =>
      rw [turned] at begins
      rw [begins]
      exact reports_exec ready _ hook
  | crashed next =>
      rw [turned] at begins
      obtain ⟨other, crashes⟩ := begins
      refine .aside other nofun rfl ?_
      rintro ending ⟨⟩
      refine .inr ⟨rfl, ?_⟩
      obtain ⟨begun, same, crashes⟩ | inside := crashes
      · exact .inl ⟨begun, same, crashes _ _⟩
      · exact .inr inside

theorem settle_survives {policy : FailurePolicy} {deeds : List Deed} {result : StepResult} :
    (user.settle policy walk deeds result).pace.ending? ≠ some .crashed := by
  intro ends
  obtain ⟨error, failed, _⟩ | ⟨onward, _⟩ := user.settle_cases
  · rw [failed] at ends
    cases ends
  · rw [onward] at ends
    cases ends

/-- A turn that brings down its user does nothing outside, unless it draws from a feeder. -/
theorem advance_world_of_crashed
    (crashed : (user.advance setting outside none now world).1.pace.ending? = some .crashed)
    (undrawn : ∀ feeder, user.walk.step? ≠ some (.feed feeder)) :
    (user.advance setting outside none now world).2 = world := by
  have begins := user.walk.begins_turn
  unfold advance at crashed ⊢
  cases turned : user.walk.turn with
  | request request next =>
      simp only [turned, send] at crashed ⊢
      split at crashed
      · exact absurd crashed settle_survives
      · split at crashed
        · exact absurd crashed settle_survives
        · cases crashed
  | feed feeder next =>
      rw [turned] at begins
      exact absurd begins (undrawn feeder)
  | _ => rfl

end User

end LoadTest
