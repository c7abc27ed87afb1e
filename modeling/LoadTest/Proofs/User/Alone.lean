import LoadTest.Proofs.User.Cancellation

/-!
A user among others and the same user alone.

Alone, a user begins at millisecond zero, and nothing but its own waiting makes time pass
(`alone`).  If it draws from no feeder and the answers depend on its requests only, it does
the same among others, only later (`User.Alike.turn`): the two are alike up to the time at which
they are.
-/

namespace LoadTest

/-! ### Scenarios without feeders -/

mutual

def Step.feeds : Step → Bool
  | .feed _ => true
  | .loop _ _ steps => anyFeeds steps
  | .group _ steps => anyFeeds steps
  | .branch _ steps => anyFeeds steps
  | .request _ => false
  | .pause _ => false
  | .exec _ => false

def anyFeeds : List Step → Bool
  | [] => false
  | step :: steps => step.feeds || anyFeeds steps

end

theorem feeds_of_mem {steps : List Step} (feedless : anyFeeds steps = false) {step : Step}
    (among : step ∈ steps) : step.feeds = false := by
  induction steps with
  | nil => cases among
  | cons first rest inductionHypothesis =>
      obtain ⟨here, there⟩ := Bool.or_eq_false_iff.1 feedless
      obtain rfl | later := List.mem_cons.1 among
      · exact here
      · exact inductionHypothesis there later

namespace Walk

variable {walk : Walk}

def Feedless (walk : Walk) : Prop := ∀ frame ∈ walk.frames, anyFeeds frame.steps = false

theorem feedless_start (id : Nat) {steps : List Step} (feedless : anyFeeds steps = false) :
    (start id steps).Feedless := by
  intro frame among
  obtain rfl := List.mem_singleton.1 among
  exact feedless

theorem Feedless.push (feedless : walk.Feedless) {steps : List Step}
    (inside : anyFeeds steps = false) (enclosure : Enclosure) :
    (walk.push steps enclosure).Feedless := by
  intro frame among
  obtain rfl | outer := List.mem_cons.1 among
  · exact inside
  · exact feedless frame outer

end Walk

/-- A turn that draws from no feeder, nor does any later one. -/
def Turn.Feedless : Turn → Prop
  | .finished => True
  | .moved next => next.Feedless
  | .repeated next => next.Feedless
  | .request _ next => next.Feedless
  | .pause _ next => next.Feedless
  | .exec _ next => next.Feedless
  | .crashed next => next.Feedless
  | .feed _ _ => False

namespace Walk.Feedless

variable {walk : Walk} (feedless : walk.Feedless)

include feedless

theorem begin {step : Step} (stepless : step.feeds = false) : (walk.begin step).Feedless := by
  cases step with
  | feed feeder => cases stepless
  | group name steps => exact feedless.push stepless .group
  | branch condition steps =>
      simp only [Walk.begin]
      split
      · exact feedless.push stepless .branch
      · exact feedless
      · exact feedless
  | loop kind counter steps =>
      simp only [Walk.begin]
      split
      · exact feedless.push stepless _
      · exact feedless
      · exact feedless
  | _ => exact feedless

theorem turn : walk.turn.Feedless := by
  unfold Walk.turn
  split
  · trivial
  next frame outer frames =>
    have here : anyFeeds frame.steps = false := feedless frame (by simp [frames])
    have around : ∀ other ∈ outer, anyFeeds other.steps = false := by
      intro other among
      exact feedless other (by simp [frames, among])
    split
    · unfold leave
      split
      · exact around
      · exact around
      · exact around
      · split
        · intro other among
          obtain rfl | inOuter := List.mem_cons.1 among
          · exact here
          · exact around other inOuter
        · exact around
        · exact feedless
    next step there =>
      apply begin _ (feeds_of_mem here (List.mem_of_getElem? there))
      intro other among
      obtain rfl | inOuter := List.mem_cons.1 among
      · exact here
      · exact around other inOuter

end Walk.Feedless

/-! ### Waiting -/

theorem millisecondOf_add (now nanos : Nat) :
    millisecondOf (nanosPerMilli * now + nanos) = now + millisecondOf nanos := by
  unfold millisecondOf nanosPerMilli
  omega

/-- How long a wait takes does not depend on when it begins. -/
theorem wakeAfter?_eq (now : Nat) (duration : Duration) :
    wakeAfter? now duration =
      if millisecondOf duration.nanos = 0 then none
      else some (now + millisecondOf duration.nanos) := by
  simp only [wakeAfter?, millisecondOf_add]
  by_cases atOnce : millisecondOf duration.nanos = 0
  · rw [if_pos (by omega), if_pos atOnce]
  · rw [if_neg (by omega), if_neg atOnce]

theorem endsInTime_of_le {now earlier : Nat} {duration : Duration} (before : earlier ≤ now)
    (inTime : endsInTime now duration = true) : endsInTime earlier duration = true := by
  have later := Nat.mul_le_mul_left nanosPerMilli before
  simp only [endsInTime, decide_eq_true_eq] at inTime ⊢
  omega

/-! ### Users that do the same at different times -/

/-- Nobody else is there; the world is the time. -/
def Surroundings.alone (answer : PreparedRequest → Reply) : Surroundings Nat where
  send time request := (answer request, time)
  draw time feeder := (some (.error (.exhausted ⟨feeder⟩)), time)
  now := id
  wait _ wake := wake
  yield := id

/-- Responses come with a latency of their own. -/
def Latent (outcome : Except TransportError Response) : Prop :=
  ∀ response, outcome = .ok response → response.latency.isZero = false

theorem Call.conclude_congr (call : Call) (session : Session) {elapsed other : Duration}
    {outcome : Except TransportError Response} (latent : Latent outcome)
    (same : ∀ error, outcome = .error error → elapsed = other) :
    call.conclude session elapsed outcome = call.conclude session other outcome := by
  cases outcome with
  | error error => rw [same error rfl]
  | ok response => simp [conclude, latent response rfl]

/-- What a user is at among others and what it is at alone, where it is not later. -/
inductive Activity.Alike (now time : Nat) : Activity → Activity → Prop where
  | ready : time ≤ now → Alike now time .ready .ready
  | pausing {wake} : time ≤ wake → Alike now time (.pausing wake) (.pausing time)
  | awaiting {call outcome since begun delay} :
      Latent outcome → begun ≤ since → time = begun + delay →
      Alike now time (.awaiting call outcome since (since + delay))
        (.awaiting call outcome begun time)
  | ended : Alike now time .ended .ended

theorem Activity.Alike.mono {now later time : Nat} {activity solo : Activity}
    (alike : Alike now time activity solo) (after : now ≤ later) :
    Alike later time activity solo := by
  cases alike with
  | ready before => exact .ready (Nat.le_trans before after)
  | pausing before => exact .pausing before
  | awaiting latent before same => exact .awaiting latent before same
  | ended => exact .ended

structure User.Alike (now time : Nat) (user solo : User) : Prop where
  walk_eq : user.walk = solo.walk
  random_eq : user.random = solo.random
  activity : Activity.Alike now time user.activity solo.activity

theorem User.Alike.mono {now later time : Nat} {user solo : User} (alike : Alike now time user solo)
    (after : now ≤ later) : Alike later time user solo :=
  ⟨alike.walk_eq, alike.random_eq, alike.activity.mono after⟩

/-- Turns that come to the same, the second of them alone. -/
structure Advance.Alike (answer : PreparedRequest → Reply) (now time : Nat)
    (advance solo : Advance) : Prop where
  deeds_eq : advance.deeds = solo.deeds
  ending_eq : advance.pace.ending? = solo.pace.ending?
  user : User.Alike now ((Surroundings.alone answer).pass time solo.pace) advance.user solo.user

/-- A user takes its turn when its wait is over.  If no response came it does so at once: how long
that took is what it records. -/
def User.OnTime (now : Nat) (user : User) : Prop :=
  match user.activity with
  | .pausing wake => wake ≤ now
  | .awaiting _ (.ok _) _ wake => wake ≤ now
  | .awaiting _ (.error _) _ wake => wake = now
  | _ => True

/-- It is not too late for a duration: its end can be told if it could be told at the start. -/
def InTimeFor (now : Nat) (duration : Duration) : Prop :=
  endsInTime 0 duration = true → endsInTime now duration = true

instance (now : Nat) (duration : Duration) : Decidable (InTimeFor now duration) :=
  inferInstanceAs (Decidable (_ → _))

/-- A user that pauses at its turn does not come too late for it. -/
def User.PausesInTime (now : Nat) (user : User) : Prop :=
  match user.activity, user.walk.turn with
  | .ready, .pause pause _ => InTimeFor now (pause.duration user.random).1
  | .pausing _, .pause pause _ => InTimeFor now (pause.duration user.random).1
  | _, _ => True

instance (now : Nat) (user : User) : Decidable (user.PausesInTime now) := by
  unfold User.PausesInTime
  split <;> infer_instance

namespace User

variable {World : Type} {setting : Setting} {outside : Outside World} {world : World}
  {answer : PreparedRequest → Reply} {now time : Nat}

theorem alike_ready (before : time ≤ now) {user : User} (ready : user.activity = .ready) :
    Alike now time user user := by
  refine ⟨rfl, rfl, ?_⟩
  rw [ready]
  exact .ready before

theorem alike_settle (before : time ≤ now) {user solo : User} (random : user.random = solo.random)
    (policy : FailurePolicy) (walk : Walk) (deeds : List Deed) (result : StepResult) :
    Advance.Alike answer now time (user.settle policy walk deeds result)
      (solo.settle policy walk deeds result) := by
  unfold settle
  cases policy.fatal? result.error with
  | some error => exact ⟨rfl, rfl, rfl, random, .ended⟩
  | none => exact ⟨rfl, rfl, rfl, random, .ready before⟩

theorem alike_send (before : time ≤ now) (user : User)
    (answers : ∀ request, (outside.send world request).1 = answer request)
    (latent : ∀ request, Latent (answer request).outcome) (walk : Walk) (request : Request) :
    Advance.Alike answer now time (user.send setting outside now world walk request).1
      (user.send setting (Surroundings.alone answer).toOutside time time walk request).1 := by
  unfold send
  cases walk.call setting.protocol request with
  | error result => exact alike_settle before rfl ..
  | ok call =>
      have reply := answers call.prepared
      simp only [Surroundings.alone, reply, wakeAfter?_eq]
      by_cases atOnce : millisecondOf (answer call.prepared).delay.nanos = 0
      · simp only [if_pos atOnce]
        exact alike_settle before rfl ..
      · simp only [if_neg atOnce]
        refine ⟨rfl, rfl, rfl, rfl, ?_⟩
        exact .awaiting (latent call.prepared) before rfl

theorem alike_pause (before : time ≤ now) {user : User} (ready : user.activity = .ready)
    (walk : Walk) (pause : Pause)
    (inTime : InTimeFor now (pause.duration user.random).1) :
    Advance.Alike answer now time (user.pause now walk pause) (user.pause time walk pause) := by
  unfold User.pause
  cases drawn : pause.duration user.random with
  | mk duration random =>
      rw [drawn] at inTime
      have same : endsInTime time duration = endsInTime now duration := by
        rw [Bool.eq_iff_iff]
        constructor
        · intro told
          exact inTime (endsInTime_of_le (Nat.zero_le time) told)
        · exact endsInTime_of_le before
      simp only [same, wakeAfter?_eq]
      split
      · by_cases atOnce : millisecondOf duration.nanos = 0
        · simp only [if_pos atOnce]
          exact ⟨rfl, rfl, alike_ready before ready⟩
        · simp only [if_neg atOnce]
          refine ⟨rfl, rfl, rfl, rfl, ?_⟩
          exact .pausing (Nat.add_le_add_right before _)
      · exact ⟨rfl, rfl, rfl, rfl, .ended⟩

theorem alike_exec (before : time ≤ now) {user : User} (ready : user.activity = .ready)
    (walk : Walk) (hook : Hook) :
    Advance.Alike answer now time (user.exec walk hook) (user.exec walk hook) := by
  unfold exec
  split
  · exact ⟨rfl, rfl, alike_ready before ready⟩
  · exact ⟨rfl, rfl, rfl, rfl, .ended⟩

theorem alike_advance (before : time ≤ now) {user : User} (ready : user.activity = .ready)
    (answers : ∀ request, (outside.send world request).1 = answer request)
    (latent : ∀ request, Latent (answer request).outcome) (feedless : user.walk.Feedless)
    (inTime : ∀ pause walk, user.walk.turn = .pause pause walk →
      InTimeFor now (pause.duration user.random).1) :
    Advance.Alike answer now time (user.advance setting outside none now world).1
      (user.advance setting (Surroundings.alone answer).toOutside none time time).1 := by
  have turnless := feedless.turn
  unfold advance
  cases turned : user.walk.turn with
  | finished => exact ⟨rfl, rfl, rfl, rfl, .ended⟩
  | moved walk =>
      exact ⟨rfl, rfl, alike_ready before ready⟩
  | repeated walk =>
      exact ⟨rfl, rfl, alike_ready before ready⟩
  | request request walk => exact alike_send before user answers latent walk request
  | pause pause walk => exact alike_pause before ready walk pause (inTime pause walk turned)
  | feed feeder walk =>
      rw [turned] at turnless
      exact turnless.elim
  | exec hook walk => exact alike_exec before ready walk hook
  | crashed walk => exact ⟨rfl, rfl, rfl, rfl, .ended⟩

theorem feedless_settle {user : User} {walk : Walk} (feedless : walk.Feedless)
    (policy : FailurePolicy) (deeds : List Deed) (result : StepResult) :
    (user.settle policy walk deeds result).user.walk.Feedless := by
  rw [settle_walk]
  exact feedless

theorem feedless_advance {user : User} (feedless : user.walk.Feedless)
    (cancel : Option CancelReason) :
    (user.advance setting outside cancel now world).1.user.walk.Feedless := by
  have turnless := feedless.turn
  cases cancel with
  | some reason => exact feedless
  | none =>
      unfold advance
      cases turned : user.walk.turn with
      | finished => exact feedless
      | feed feeder walk =>
          rw [turned] at turnless
          exact turnless.elim
      | request request walk =>
          rw [turned] at turnless
          simp only [send]
          split
          · exact feedless_settle turnless _ _ _
          · split
            · exact feedless_settle turnless _ _ _
            · exact turnless
      | pause pause walk =>
          rw [turned] at turnless
          simp only [User.pause]
          split
          · split
            · exact turnless
            · exact turnless
          · exact turnless
      | exec hook walk =>
          rw [turned] at turnless
          simp only [exec]
          split
          · exact turnless
          · exact turnless
      | crashed walk =>
          rw [turned] at turnless
          exact turnless
      | _ =>
          rw [turned] at turnless
          exact turnless

theorem feedless_turn {user : User} (feedless : user.walk.Feedless)
    (cancel : Option CancelReason) :
    (user.turn setting outside cancel now world).1.user.walk.Feedless := by
  obtain ⟨walk, random, activity⟩ := user
  cases activity with
  | ready => exact feedless_advance feedless cancel
  | pausing wake =>
      have ready : (⟨walk, random, .ready⟩ : User).walk.Feedless := feedless
      exact feedless_advance ready cancel
  | awaiting call outcome since wake => exact feedless_settle feedless _ _ _
  | _ => exact feedless

/-- Two users that are alike come to the same at their next turns. -/
theorem Alike.turn {user solo : User} (alike : Alike now time user solo)
    (answers : ∀ request, (outside.send world request).1 = answer request)
    (latent : ∀ request, Latent (answer request).outcome) (feedless : user.walk.Feedless)
    (onTime : user.OnTime now) (inTime : user.PausesInTime now) :
    Advance.Alike answer now time (user.turn setting outside none now world).1
      (solo.turn setting (Surroundings.alone answer).toOutside none time time).1 := by
  obtain ⟨walk, random, activity⟩ := user
  obtain ⟨soloWalk, soloRandom, soloActivity⟩ := solo
  obtain ⟨walk_eq, random_eq, activities⟩ := alike
  cases walk_eq
  cases random_eq
  cases activities with
  | ready before =>
      apply alike_advance before rfl answers latent feedless
      intro pause next turned
      simpa only [PausesInTime, turned] using inTime
  | @pausing wake before =>
      have reached : wake ≤ now := onTime
      have awake : (⟨walk, random, .ready⟩ : User).walk.Feedless := feedless
      apply alike_advance (Nat.le_trans before reached) rfl answers latent awake
      intro pause next turned
      simpa only [PausesInTime, turned] using inTime
  | @awaiting call outcome since begun delay responds before same =>
      have reached : since + delay ≤ now := by
        cases outcome with
        | ok response => exact onTime
        | error error => exact Nat.le_of_eq onTime
      have measured : ∀ error, outcome = .error error →
          Duration.ofMillis (now - since) = Duration.ofMillis (time - begun) := by
        rintro error rfl
        have atOnce : since + delay = now := onTime
        congr 1
        omega
      simp only [User.turn, call.conclude_congr walk.session responds measured]
      exact alike_settle (by omega) rfl ..
  | ended => exact ⟨rfl, rfl, rfl, rfl, .ended⟩

end User

namespace Journey

variable {setting : Setting} {answer : PreparedRequest → Reply}

variable (setting answer) in
/-- Within a turn no time passes. -/
theorem turn_alone_world (user : User) (cancel : Option CancelReason) (time : Nat) :
    (user.turn setting (Surroundings.alone answer).toOutside cancel time time).2 = time := by
  have advances (user : User) :
      (user.advance setting (Surroundings.alone answer).toOutside cancel time time).2 = time := by
    unfold User.advance
    split
    · rfl
    · split
      · rfl
      · rfl
      · rfl
      · simp only [User.send]
        split
        · rfl
        · split
          · rfl
          · rfl
      · rfl
      · rfl
      · rfl
      · rfl
  unfold User.turn
  split
  · exact advances user
  · exact advances _
  · rfl
  · rfl
  · rfl

theorem step_alone (journey : Journey Nat) :
    journey.step setting (.alone answer) none =
      journey.follow (.alone answer)
        (journey.user.turn setting (Surroundings.alone answer).toOutside none journey.world
          journey.world).1 journey.world := by
  have world := turn_alone_world setting answer journey.user none journey.world
  simp only [step]
  rw [show (Surroundings.alone answer).now journey.world = journey.world from rfl, world]

end Journey

end LoadTest
