import LoadTest.Proofs.Check
import LoadTest.Proofs.User.Cancellation

/-!
What a request step does to the session.

A request that cannot be prepared comes to its end in one turn, and so does one whose answer is
there at once; any other takes a second turn (`Journey.stepRequest`).  Both ways the session
takes all that the checks save, or nothing (`Journey.stepRequest_allOrNothing`).
-/

namespace LoadTest

namespace Request

variable {request : Request} {response : Response} {session : Session}

/-- The pairs that the checks of a request save, in the order of the checks. -/
def saves (request : Request) (response : Response) : List (String × Json) :=
  request.checks.filterMap (·.save? response)

/-- A request succeeds with a response: it can be prepared, this is its answer, and the response is
as the request wants it. -/
structure Succeeds (request : Request) (protocol : Protocol) (session : Session)
    (answer : PreparedRequest → Except TransportError Response) (response : Response) : Prop where
  answered : ∃ prepared, request.prepare protocol session = .ok prepared ∧
    answer prepared = .ok response
  status : request.hasStatusCheck = false →
    200 ≤ response.status ∧ response.status ≤ 209 ∨ response.status = 304
  passes : ∀ check ∈ request.checks, check.Passes response session

theorem passes_effectiveChecks_iff :
    (∀ check ∈ request.effectiveChecks, check.Passes response session) ↔
      (request.hasStatusCheck = false →
        200 ≤ response.status ∧ response.status ≤ 209 ∨ response.status = 304) ∧
      ∀ check ∈ request.checks, check.Passes response session := by
  cases declared : request.hasStatusCheck with
  | true => simp [effectiveChecks, declared]
  | false => simp [effectiveChecks, declared, Check.passes_implicitStatus]

theorem filterMap_effectiveChecks :
    request.effectiveChecks.filterMap (·.save? response) = request.saves response := by
  have implicit : Check.implicitStatus.save? response = none := rfl
  cases declared : request.hasStatusCheck with
  | true => simp [effectiveChecks, declared, saves]
  | false => simp [effectiveChecks, declared, saves, implicit]

end Request

/-- A step result is all or nothing: a success and the session with what was saved, or a failure and
the session as it was. -/
structure StepResult.AllOrNothing (result : StepResult) (session : Session)
    (succeeds : Response → Prop) (saves : Response → List (String × Json)) : Prop where
  metric_eq : ∃ metric, result.metric = some metric ∧
    (metric.outcome = .ok ↔ ∃ response, succeeds response)
  failed : (¬ ∃ response, succeeds response) → result.session = session
  succeeded : ∀ response, succeeds response → result.session = session.merge (saves response)

theorem StepResult.AllOrNothing.of_failure {result : StepResult} {session : Session}
    {succeeds : Response → Prop} {saves : Response → List (String × Json)} {metric : Metric}
    {reason : String} (failed : ¬ ∃ response, succeeds response) (same : result.session = session)
    (recorded : result.metric = some metric) (ko : metric.outcome = .ko reason) :
    result.AllOrNothing session succeeds saves where
  metric_eq := ⟨metric, recorded, by simp [ko, failed]⟩
  failed _ := same
  succeeded response success := absurd ⟨response, success⟩ failed

namespace Walk

variable {protocol : Protocol} {walk : Walk} {request : Request}
  (answer : PreparedRequest → Except TransportError Response)

theorem allOrNothing_of_unprepared {result : StepResult}
    (called : walk.call protocol request = .error result) :
    result.AllOrNothing walk.session (request.Succeeds protocol walk.session answer)
      request.saves := by
  unfold Walk.call at called
  cases preparation : request.prepare protocol walk.session with
  | ok prepared => simp [preparation] at called
  | error missing =>
      simp only [preparation, Except.error.injEq] at called
      subst called
      apply StepResult.AllOrNothing.of_failure _ rfl rfl rfl
      rintro ⟨response, success⟩
      obtain ⟨prepared, ready, _⟩ := success.answered
      cases preparation.symm.trans ready

theorem allOrNothing_of_call {call : Call} (called : walk.call protocol request = .ok call)
    (elapsed : Duration) :
    (call.conclude walk.session elapsed (answer call.prepared)).AllOrNothing walk.session
      (request.Succeeds protocol walk.session answer) request.saves := by
  unfold Walk.call at called
  cases preparation : request.prepare protocol walk.session with
  | error missing => simp [preparation] at called
  | ok prepared =>
      simp only [preparation, Except.ok.injEq] at called
      subst called
      have only (response : Response)
          (success : request.Succeeds protocol walk.session answer response) :
          answer prepared = .ok response := by
        obtain ⟨other, ready, answered⟩ := success.answered
        cases preparation.symm.trans ready
        exact answered
      cases answered : answer prepared with
      | error error =>
          apply StepResult.AllOrNothing.of_failure _ rfl rfl rfl
          rintro ⟨response, success⟩
          cases answered.symm.trans (only response success)
      | ok response =>
          by_cases pass : ∀ check ∈ request.effectiveChecks, check.Passes response walk.session
          · obtain ⟨status, passes⟩ := Request.passes_effectiveChecks_iff.1 pass
            have evaluated := evaluateAll_of_passes pass
            rw [Request.filterMap_effectiveChecks] at evaluated
            have success : request.Succeeds protocol walk.session answer response :=
              ⟨⟨prepared, preparation, answered⟩, status, passes⟩
            simp only [Call.conclude, evaluated]
            refine ⟨⟨_, rfl, ?_⟩, ?_, ?_⟩
            · simp only [true_iff]
              exact ⟨response, success⟩
            · intro failed
              exact absurd ⟨response, success⟩ failed
            · intro other succeeds
              cases answered.symm.trans (only other succeeds)
              rfl
          · obtain ⟨failure, evaluated⟩ := evaluateAll_of_not_passes pass
            simp only [Call.conclude, evaluated]
            apply StepResult.AllOrNothing.of_failure _ rfl rfl rfl
            rintro ⟨other, success⟩
            cases answered.symm.trans (only other success)
            exact pass (Request.passes_effectiveChecks_iff.2 ⟨success.status, success.passes⟩)

theorem request_of_call {call : Call} (called : walk.call protocol request = .ok call) :
    call.request = request := by
  unfold Walk.call at called
  split at called <;> cases called
  rfl

theorem begin_request {step : Step} {next : Walk}
    (begins : walk.begin step = .request request next) : next = walk := by
  cases step with
  | request other =>
      simp only [begin, Turn.request.injEq] at begins
      exact begins.2.symm
  | branch condition steps =>
      simp only [begin] at begins
      split at begins <;> cases begins
  | loop kind counter steps =>
      simp only [begin] at begins
      split at begins <;> cases begins
  | _ => cases begins

theorem leave_ne_request (frame : Frame) (outer : List Frame) (next : Walk) :
    walk.leave frame outer ≠ .request request next := by
  intro leaves
  unfold leave at leaves
  split at leaves
  · cases leaves
  · cases leaves
  · cases leaves
  · split at leaves <;> cases leaves

/-- Coming to a request leaves the session alone. -/
theorem session_of_turn_request {next : Walk} (turned : walk.turn = .request request next) :
    next.session = walk.session := by
  unfold turn at turned
  split at turned
  · cases turned
  · split at turned
    · exact (leave_ne_request _ _ _ turned).elim
    · rw [begin_request turned]

end Walk

/-- What the transport answers. -/
def Surroundings.outcome {World : Type} (around : Surroundings World) (world : World)
    (request : PreparedRequest) : Except TransportError Response :=
  (around.send world request).1.outcome

theorem User.isAwaiting_settle (user : User) (policy : FailurePolicy) (walk : Walk)
    (deeds : List Deed) (result : StepResult) :
    (user.settle policy walk deeds result).user.isAwaiting = false := by
  unfold settle
  cases policy.fatal? result.error <;> rfl

namespace Journey

variable {World : Type} (setting : Setting) (around : Surroundings World)
  (cancel : Option CancelReason)

/-- The turns of a user in which one request comes to its end: a second one if the answer has to
be waited for.  The run may be cancelled meanwhile. -/
def stepRequest (journey : Journey World) : Journey World :=
  let asked := journey.step setting around none
  if asked.user.isAwaiting then asked.step setting around cancel else asked

/-- A request step has come to a result. -/
structure Shows (journey : Journey World) (result : StepResult) : Prop where
  session_eq : journey.user.walk.session = result.session
  metrics_eq : journey.deeds.filterMap Deed.metric? = result.metric.toList

variable {setting around cancel}
variable {journey : Journey World}

theorem shows_settle {walk : Walk} {world : World} {done : List Deed} {result : StepResult}
    (user : User) (silent : (journey.deeds ++ done).filterMap Deed.metric? = []) :
    (journey.follow around (user.settle setting.onFailure walk done result) world).Shows
      result := by
  constructor
  · simp [follow]
  · simp only [follow, User.settle_deeds, ← List.append_assoc]
    rw [List.filterMap_append, silent]
    cases result.metric <;> rfl

theorem calm_settle (user : User) (walk : Walk) (world : World) (done : List Deed)
    (result : StepResult) :
    (journey.follow around (user.settle setting.onFailure walk done result)
      world).user.isAwaiting = false :=
  user.isAwaiting_settle ..

theorem stepRequest_of_prompt {asked : Journey World}
    (steps : journey.step setting around none = asked) (prompt : asked.user.isAwaiting = false) :
    journey.stepRequest setting around cancel = asked := by
  simp only [stepRequest, steps, prompt]
  rfl

theorem stepRequest_of_awaiting {asked : Journey World}
    (steps : journey.step setting around none = asked) (waits : asked.user.isAwaiting = true) :
    journey.stepRequest setting around cancel = asked.step setting around cancel := by
  simp only [stepRequest, steps, waits]
  rfl

variable (setting around cancel) in
theorem exists_shows (user : User) (ready : user.activity = .ready) {request : Request}
    {walk : Walk} (asks : user.walk.turn = .request request walk) (world : World) :
    ∃ result, ((start user world).stepRequest setting around cancel).Shows result ∧
      result.AllOrNothing walk.session
        (request.Succeeds setting.protocol walk.session (around.outcome world))
        request.saves := by
  have asked : (start user world).step setting around none =
      let sent := user.send setting around.toOutside (around.now world) world walk request
      (start user world).follow around sent.1 sent.2 := by
    simp only [step, start, User.turn, ready, User.advance, asks]
  cases called : walk.call setting.protocol request with
  | error result =>
      have steps : (start user world).step setting around none =
          (start user world).follow around (user.settle setting.onFailure walk [] result)
            world := by
        rw [asked]
        simp only [User.send, called]
      refine ⟨result, ?_, Walk.allOrNothing_of_unprepared _ called⟩
      rw [stepRequest_of_prompt steps (calm_settle ..)]
      exact shows_settle user rfl
  | ok call =>
      cases sends : around.send world call.prepared with
      | mk reply next =>
          have settled (elapsed : Duration) :
              (call.conclude walk.session elapsed reply.outcome).AllOrNothing walk.session
                (request.Succeeds setting.protocol walk.session (around.outcome world))
                request.saves := by
            have outcome : around.outcome world call.prepared = reply.outcome := by
              simp only [Surroundings.outcome, sends]
            rw [← outcome]
            exact Walk.allOrNothing_of_call (around.outcome world) called elapsed
          cases waits : wakeAfter? (around.now world) reply.delay with
          | none =>
              have steps : (start user world).step setting around none =
                  (start user world).follow around
                    (user.settle setting.onFailure walk [.sent call.prepared]
                      (call.conclude walk.session .zero reply.outcome)) next := by
                rw [asked]
                simp only [User.send, called, sends, waits]
              refine ⟨_, ?_, settled .zero⟩
              rw [stepRequest_of_prompt steps (calm_settle ..)]
              exact shows_settle user rfl
          | some wake =>
              let since := around.now world
              let waiting : Journey World :=
                ⟨⟨walk, user.random, .awaiting call reply.outcome since wake⟩,
                  around.wait next wake, [.sent call.prepared], none⟩
              have steps : (start user world).step setting around none = waiting := by
                rw [asked]
                simp [User.send, called, sends, waits, follow, start, waiting, since]
              refine ⟨_, ?_, settled (.ofMillis (around.now waiting.world - since))⟩
              rw [stepRequest_of_awaiting steps rfl]
              exact shows_settle waiting.user rfl

/-- A user asks the same whether it has to wake up first or not. -/
theorem stepRequest_ready {user : User} (begins : user.activity = .ready ∨ user.isPausing = true)
    (world : World) :
    (start { user with activity := .ready } world).stepRequest setting around cancel =
      (start user world).stepRequest setting around cancel := by
  obtain ⟨walk, random, activity⟩ := user
  obtain rfl | pausing := begins
  · rfl
  · have awakes : (start ⟨walk, random, activity⟩ world).awake =
        start ⟨walk, random, .ready⟩ world := by
      simp only [start, awake, pausing, if_true]
    simp only [stepRequest, ← awakes, step_awake]

/-- A request step records one metric, which is a success if and only if the request could be
prepared and was answered as it wants to be.  If it is a failure, the session is what it was.  If it
is a success, the session takes what the checks save: of several values for one variable the last
one, and nothing else changes. -/
theorem stepRequest_allOrNothing {World : Type} (setting : Setting) (around : Surroundings World)
    (cancel : Option CancelReason) (world : World) {user : User} {request : Request} {walk : Walk}
    (begins : user.activity = .ready ∨ user.isPausing = true)
    (asks : user.walk.turn = .request request walk) :
    let before := user.walk.session
    let succeeds := request.Succeeds setting.protocol before (around.outcome world)
    let asked := (start user world).stepRequest setting around cancel
    let after := asked.user.walk.session
    ∃ metric, asked.deeds.filterMap Deed.metric? = [metric] ∧
      (metric.outcome = .ok ↔ ∃ response, succeeds response) ∧
      (metric.outcome ≠ .ok → after = before) ∧
      ∀ response, succeeds response →
        after = before.merge (request.saves response) ∧ after.userId = before.userId ∧
        ∀ key, after.get? key =
          ((request.saves response).reverse.lookup key).or (before.get? key) := by
  intro before succeeds asked after
  obtain ⟨result, ⟨session_eq, metrics_eq⟩, settled⟩ :=
    exists_shows setting around cancel { user with activity := .ready } rfl asks world
  rw [stepRequest_ready begins] at session_eq metrics_eq
  rw [Walk.session_of_turn_request asks] at settled
  obtain ⟨⟨metric, recorded, success_iff⟩, failed, succeeded⟩ := settled
  refine ⟨metric, ?_, success_iff, ?_, ?_⟩
  · rw [metrics_eq, recorded]
    rfl
  · intro ko
    exact session_eq.trans (failed (mt success_iff.2 ko))
  · intro response success
    have merged : after = before.merge (request.saves response) :=
      session_eq.trans (succeeded response success)
    refine ⟨merged, ?_, ?_⟩
    · rw [merged, Session.userId_merge]
    · intro key
      rw [merged, Session.get?_merge]

/-- A login with two checks that save under one name. -/
def login : Request where
  name := ⟨"login"⟩
  method := .get
  path := ⟨"/login"⟩
  checks := [⟨.header "X-Token", .present, some "token"⟩, ⟨.status, .present, some "token"⟩]

def granted : Response := ⟨204, [("x-token", "first")], [], .zero⟩

/-- Every request is granted after 20 milliseconds; the world is the time. -/
def slowly : Surroundings Nat where
  send now _ := (⟨.ofMillis 20, .ok granted⟩, now)
  draw now feeder := (some (.error (.exhausted ⟨feeder⟩)), now)
  now := id
  wait _ wake := wake
  yield := id

theorem stepRequest_login :
    let user := User.start 7 (.ofSeed 0) [.request login]
    let asked := (start user 0).stepRequest ⟨.stopUser, ⟨"http://localhost", []⟩⟩ slowly none
    user.activity = .ready ∧
      user.walk.turn = .request login ⟨[⟨[.request login], 1, .root⟩], [], .forUser 7⟩ ∧
      (∃ metric, asked.deeds.filterMap Deed.metric? = [metric] ∧ metric.outcome = .ok) ∧
      asked.user.walk.session.get? "token" = some (Json.ofNat 204) := by
  have asks : (User.start 7 (.ofSeed 0) [.request login]).walk.turn =
      .request login ⟨[⟨[.request login], 1, .root⟩], [], .forUser 7⟩ := rfl
  have preparable :
      (login.prepare ⟨"http://localhost", []⟩ (.forUser 7)).toOption.isSome = true := by
    decide +kernel
  have success :
      login.Succeeds ⟨"http://localhost", []⟩ (.forUser 7) (slowly.outcome 0) granted := by
    refine ⟨?_, by simp [Request.hasStatusCheck, login, Check.isStatusCheck], ?_⟩
    · cases prepares : login.prepare ⟨"http://localhost", []⟩ (.forUser 7) with
      | error missing => simp [prepares, Except.toOption] at preparable
      | ok prepared => exact ⟨prepared, rfl, rfl⟩
    · intro check among
      simp only [login, List.mem_cons, List.not_mem_nil, or_false] at among
      obtain rfl | rfl := among
      · exact ⟨some (.string "first"), rfl, rfl⟩
      · exact ⟨some (Json.ofNat 204), rfl, rfl⟩
  obtain ⟨metric, recorded, ok_iff, _, saved⟩ :=
    stepRequest_allOrNothing ⟨.stopUser, ⟨"http://localhost", []⟩⟩ slowly none 0 (.inl rfl) asks
  refine ⟨rfl, asks, ⟨metric, recorded, ok_iff.2 ⟨granted, success⟩⟩, ?_⟩
  exact (saved granted success).2.2 "token"

end Journey

end LoadTest
