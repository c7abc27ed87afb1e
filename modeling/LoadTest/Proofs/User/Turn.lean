import LoadTest.Run.User

/-!
What holds after every turn of a user.

What a user is at after a turn fits the pace at which it goes on (`Advance.Coherent`), and
only a user of a cancelled run ends as cancelled, only one that was told to stop as
aborted (`Activity.Allows`).
-/

namespace LoadTest

/-- The metric that a deed recorded. -/
def Deed.metric? : Deed → Option Metric
  | .recorded metric => some metric
  | _ => none

/-- The user's pace is that of what it is at.  It was still at work before. -/
def Advance.Coherent (advance : Advance) : Prop :=
  match advance.pace with
  | .onward => advance.user.activity = .ready
  | .yielding => advance.user.activity = .ready
  | .waiting wake =>
      advance.user.activity = .pausing wake ∨
        ∃ call outcome since, advance.user.activity = .awaiting call outcome since wake
  | .finished _ => advance.user.activity = .ended
  | .idle => False

namespace Pace

/-- The ending that a turn brought. -/
def ending? : Pace → Option Ending
  | .finished ending => some ending
  | _ => none

@[simp] theorem ending?_onward : ending? .onward = none := rfl

@[simp] theorem ending?_yielding : ending? .yielding = none := rfl

@[simp] theorem ending?_waiting (wake : Nat) : ending? (.waiting wake) = none := rfl

@[simp] theorem ending?_finished (ending : Ending) : ending? (.finished ending) = some ending := rfl

@[simp] theorem ending?_idle : ending? .idle = none := rfl

theorem ending?_eq_some_iff {pace : Pace} {ending : Ending} :
    pace.ending? = some ending ↔ pace = .finished ending := by
  cases pace <;> simp

end Pace

namespace Advance.Coherent

variable {advance : Advance} (coherent : advance.Coherent)

include coherent

theorem fresh : advance.user.activity ≠ .aborting := by
  obtain ⟨user, deeds, pace⟩ := advance
  cases pace with
  | waiting wake =>
      obtain pausing | ⟨call, outcome, since, awaiting⟩ := coherent
      · simp_all
      · simp_all
  | idle => cases coherent
  | _ => simp_all [Coherent]

theorem ended_iff : advance.user.activity = .ended ↔ advance.pace.ending? ≠ none := by
  obtain ⟨user, deeds, pace⟩ := advance
  cases pace with
  | waiting wake =>
      obtain pausing | ⟨call, outcome, since, awaiting⟩ := coherent
      · simp_all
      · simp_all
  | idle => cases coherent
  | _ => simp_all [Coherent]

end Advance.Coherent

/-- The user ended on its own before it was through. -/
def Ending.isFailure : Ending → Bool
  | .failed _ => true
  | .crashed => true
  | _ => false

/-- The endings that a turn can bring to a user, given what it was at. -/
def Activity.Allows (cancel : Option CancelReason) (activity : Activity) : Ending → Prop
  | .cancelled reason => cancel = some reason
  | .aborted => activity = .aborting
  | _ => True

/-- A user can fail at any time. -/
theorem Activity.allows_of_isFailure {cancel : Option CancelReason} {activity : Activity}
    {ending : Ending} (fails : ending.isFailure = true) : activity.Allows cancel ending := by
  cases ending with
  | cancelled reason => cases fails
  | aborted => cases fails
  | _ => trivial

namespace User

variable {World : Type} {setting : Setting} {outside : Outside World} {cancel : Option CancelReason}
  {now : Nat} {world later : World} {user : User} {walk : Walk} {policy : FailurePolicy}
  {deeds : List Deed} {result : StepResult} {feeder : String}

theorem feed_of_drawn {drawn : Except StepError Record}
    (draws : outside.draw world feeder = (some drawn, later)) :
    user.feed setting outside world walk feeder =
      (user.settle setting.onFailure walk [.drew feeder (some drawn)] (walk.fed feeder drawn),
        later) := by
  rw [feed, draws]

theorem feed_of_crash (draws : outside.draw world feeder = (none, later)) :
    user.feed setting outside world walk feeder =
      ({ user with walk }.finish [.drew feeder none] .crashed, later) := by
  rw [feed, draws]

@[simp] theorem settle_walk :
    (user.settle policy walk deeds result).user.walk = { walk with session := result.session } := by
  unfold settle
  cases policy.fatal? result.error <;> rfl

@[simp] theorem settle_random :
    (user.settle policy walk deeds result).user.random = user.random := by
  unfold settle
  cases policy.fatal? result.error <;> rfl

@[simp] theorem settle_deeds :
    (user.settle policy walk deeds result).deeds =
      deeds ++ result.metric.toList.map .recorded := by
  unfold settle
  cases policy.fatal? result.error <;> rfl

theorem settle_cases (user : User) :
    (∃ error, (user.settle policy walk deeds result).pace = .finished (.failed error) ∧
        (user.settle policy walk deeds result).user.activity = .ended) ∨
      (user.settle policy walk deeds result).pace = .onward ∧
        (user.settle policy walk deeds result).user.activity = .ready := by
  unfold settle
  cases policy.fatal? result.error with
  | some error => exact .inl ⟨error, rfl, rfl⟩
  | none => exact .inr ⟨rfl, rfl⟩

theorem finish_coherent (ending : Ending) : (user.finish deeds ending).Coherent := rfl

theorem settle_coherent : (user.settle policy walk deeds result).Coherent := by
  unfold settle
  cases policy.fatal? result.error <;> rfl

theorem pause_coherent (ready : user.activity = .ready) (pause : Pause) :
    (user.pause now walk pause).Coherent := by
  unfold User.pause
  rcases pause.duration user.random with ⟨duration, random⟩
  cases told : endsInTime now duration with
  | false => simp [told, finish_coherent]
  | true =>
      cases waits : wakeAfter? now duration with
      | none => simpa [told, waits, Advance.Coherent] using ready
      | some wake => simp [told, waits, Advance.Coherent]

theorem exec_coherent (ready : user.activity = .ready) (hook : Hook) :
    (user.exec walk hook).Coherent := by
  unfold exec
  split
  · exact ready
  · exact finish_coherent ..

theorem feed_coherent (feeder : String) :
    (user.feed setting outside world walk feeder).1.Coherent := by
  rcases draws : outside.draw world feeder with ⟨_ | drawn, later⟩
  · rw [feed_of_crash draws]
    exact finish_coherent ..
  · rw [feed_of_drawn draws]
    exact settle_coherent

theorem send_coherent (request : Request) :
    (user.send setting outside now world walk request).1.Coherent := by
  unfold send
  split
  · exact settle_coherent
  next call called =>
    cases waits : wakeAfter? now (outside.send world call.prepared).1.delay with
    | none => simpa [waits] using settle_coherent
    | some wake => simp [waits, Advance.Coherent]

theorem advance_coherent (ready : user.activity = .ready) :
    (user.advance setting outside cancel now world).1.Coherent := by
  unfold advance
  split
  · exact finish_coherent ..
  · split
    · exact finish_coherent ..
    · exact ready
    · exact ready
    · exact send_coherent ..
    · exact pause_coherent ready ..
    · exact feed_coherent ..
    · exact exec_coherent ready ..
    · exact finish_coherent ..

theorem hasEnded_iff : user.hasEnded = true ↔ user.activity = .ended := by
  unfold hasEnded
  split <;> simp_all

theorem hasEnded_abort : user.abort.hasEnded = user.hasEnded := by
  cases ended : user.hasEnded <;> simp [abort, ended]
  rfl

theorem abort_of_working (working : user.activity ≠ .ended) :
    user.abort = { user with activity := .aborting } := by
  simp [abort, hasEnded]

theorem turn_of_ended (ended : user.activity = .ended) :
    user.turn setting outside cancel now world = (⟨user, [], .idle⟩, world) := by
  simp [turn, ended]

theorem turn_coherent (working : user.activity ≠ .ended) :
    (user.turn setting outside cancel now world).1.Coherent := by
  unfold turn
  split
  next ready => exact advance_coherent ready
  · exact advance_coherent rfl
  · exact settle_coherent
  · exact finish_coherent ..
  next ended => exact absurd ended working

theorem turn_fresh (fresh : user.activity ≠ .aborting) :
    (user.turn setting outside cancel now world).1.user.activity ≠ .aborting := by
  by_cases ended : user.activity = .ended
  · rw [turn_of_ended ended]
    exact fresh
  · exact (turn_coherent ended).fresh

/-- A turn ends a user if and only if it brings an ending. -/
theorem turn_ends :
    (!user.hasEnded).toNat =
      (user.turn setting outside cancel now world).1.pace.ending?.toList.length +
        (!(user.turn setting outside cancel now world).1.user.hasEnded).toNat := by
  cases ended : user.hasEnded with
  | true =>
      rw [turn_of_ended (hasEnded_iff.1 ended)]
      simp [ended]
  | false =>
      have working : user.activity ≠ .ended :=
        fun finished => by simp [hasEnded_iff.2 finished] at ended
      have coherent : (user.turn setting outside cancel now world).1.Coherent :=
        turn_coherent working
      cases finished : (user.turn setting outside cancel now world).1.pace.ending? with
      | none =>
          have goesOn := mt coherent.ended_iff.1 (by simp [finished])
          simp [← hasEnded_iff] at goesOn
          simp [goesOn]
      | some ending =>
          have ended := hasEnded_iff.2 (coherent.ended_iff.2 (by simp [finished]))
          simp [ended]

variable {activity : Activity} {ending : Ending}

theorem isFailure_of_settle {policy : FailurePolicy} {deeds : List Deed} {result : StepResult}
    (finished : (user.settle policy walk deeds result).pace = .finished ending) :
    ending.isFailure = true := by
  obtain ⟨error, failed, _⟩ | ⟨onward, _⟩ := user.settle_cases
  · cases failed.symm.trans finished
    rfl
  · cases onward.symm.trans finished

theorem isFailure_of_send {request : Request}
    (finished : (user.send setting outside now world walk request).1.pace = .finished ending) :
    ending.isFailure = true := by
  unfold send at finished
  split at finished
  · exact isFailure_of_settle finished
  next call called =>
    cases waits : wakeAfter? now (outside.send world call.prepared).1.delay with
    | none =>
        simp only [waits] at finished
        exact isFailure_of_settle finished
    | some wake => simp [waits] at finished

theorem isFailure_of_pause {pause : Pause}
    (finished : (user.pause now walk pause).pace = .finished ending) : ending.isFailure = true := by
  unfold User.pause at finished
  cases told : endsInTime now (pause.duration user.random).1 with
  | false =>
      simp only [told, finish, Bool.false_eq_true, if_false] at finished
      cases finished
      rfl
  | true =>
      cases waits : wakeAfter? now (pause.duration user.random).1 <;> simp [told, waits] at finished

theorem isFailure_of_exec {hook : Hook} (finished : (user.exec walk hook).pace = .finished ending) :
    ending.isFailure = true := by
  unfold exec at finished
  split at finished <;> cases finished
  rfl

theorem isFailure_of_feed
    (finished : (user.feed setting outside world walk feeder).1.pace = .finished ending) :
    ending.isFailure = true := by
  rcases draws : outside.draw world feeder with ⟨_ | drawn, later⟩
  · rw [feed_of_crash draws] at finished
    cases finished
    rfl
  · rw [feed_of_drawn draws] at finished
    exact isFailure_of_settle finished

theorem advance_allows
    (finished : (user.advance setting outside cancel now world).1.pace = .finished ending) :
    activity.Allows cancel ending := by
  unfold advance at finished
  split at finished
  · cases finished
    rfl
  · split at finished
    · cases finished
      trivial
    · cases finished
    · cases finished
    · exact Activity.allows_of_isFailure (isFailure_of_send finished)
    · exact Activity.allows_of_isFailure (isFailure_of_pause finished)
    · exact Activity.allows_of_isFailure (isFailure_of_feed finished)
    · exact Activity.allows_of_isFailure (isFailure_of_exec finished)
    · cases finished
      trivial

theorem turn_allows
    (finished : (user.turn setting outside cancel now world).1.pace = .finished ending) :
    user.activity.Allows cancel ending := by
  unfold turn at finished
  split at finished
  · exact advance_allows finished
  · exact advance_allows finished
  · exact Activity.allows_of_isFailure (isFailure_of_settle finished)
  next aborting =>
    cases finished
    exact aborting
  · cases finished

end User

end LoadTest
