import LoadTest.Proofs.User.Turn

/-!
What a turn does to the frames that a user is in.

A turn touches the innermost frame only: it moves on in it and may open another one, or comes to its
end.  A user that is within frames goes on or fails.
-/

namespace LoadTest

/-- The walk after a turn, whatever its step needs from the outside. -/
def Turn.next (walk : Walk) : Turn → Walk
  | .finished => walk
  | .moved next => next
  | .repeated next => next
  | .request _ next => next
  | .pause _ next => next
  | .feed _ next => next
  | .exec _ next => next
  | .crashed next => next

/-- A turn that is not the end has the same outcome wherever it is looked at from. -/
theorem Turn.next_congr {turn : Turn} (going : turn ≠ .finished) (walk other : Walk) :
    turn.next walk = turn.next other := by
  cases turn with
  | finished => exact absurd rfl going
  | _ => rfl

namespace Walk

variable {walk : Walk} {frame : Frame} {outer : List Frame}

theorem begin_ne_finished (walk : Walk) (step : Step) : walk.begin step ≠ .finished := by
  intro begins
  cases step with
  | branch condition steps =>
      simp only [begin] at begins
      split at begins <;> cases begins
  | loop kind counter steps =>
      simp only [begin] at begins
      split at begins <;> cases begins
  | _ => cases begins

theorem leave_ne_finished (walk : Walk) (frame : Frame) (outer : List Frame) :
    walk.leave frame outer ≠ .finished := by
  intro leaves
  unfold leave at leaves
  split at leaves
  · cases leaves
  · cases leaves
  · cases leaves
  · split at leaves <;> cases leaves

/-- At a step, a turn first moves on in the innermost frame and then begins the step. -/
theorem next_turn_of_begin (framed : walk.frames = frame :: outer) {step : Step}
    (here : frame.steps[frame.position]? = some step) :
    let moved : Walk :=
      { walk with frames := { frame with position := frame.position + 1 } :: outer }
    walk.turn.next walk = (moved.begin step).next moved := by
  obtain ⟨frames, groups, session⟩ := walk
  cases framed
  simp only [turn, here]
  exact Turn.next_congr (begin_ne_finished _ _) _ _

/-- At the end of the innermost frame, a turn leaves it. -/
theorem next_turn_of_leave (framed : walk.frames = frame :: outer)
    (done : frame.steps[frame.position]? = none) :
    walk.turn.next walk = (walk.leave frame outer).next walk := by
  obtain ⟨frames, groups, session⟩ := walk
  cases framed
  simp only [turn, done]

/-- A step that is begun may open a frame of its own; the frame it belongs to moves on. -/
theorem frames_of_begin (framed : walk.frames = frame :: outer) {step : Step}
    (here : frame.steps[frame.position]? = some step) :
    ∃ opened, (walk.turn.next walk).frames =
      opened ++ { frame with position := frame.position + 1 } :: outer := by
  rw [next_turn_of_begin framed here]
  cases step with
  | request request => exact ⟨[], rfl⟩
  | pause pause => exact ⟨[], rfl⟩
  | feed feeder => exact ⟨[], rfl⟩
  | exec hook => exact ⟨[], rfl⟩
  | group name steps => exact ⟨[_], rfl⟩
  | branch condition steps =>
      simp only [begin]
      split
      · exact ⟨[_], rfl⟩
      · exact ⟨[], rfl⟩
      · exact ⟨[], rfl⟩
  | loop kind counter steps =>
      simp only [begin]
      split
      · exact ⟨[_], rfl⟩
      · exact ⟨[], rfl⟩
      · exact ⟨[], rfl⟩

/-- A walk comes to its end outside of all frames. -/
theorem turn_ne_finished (framed : walk.frames = frame :: outer) : walk.turn ≠ .finished := by
  obtain ⟨frames, groups, session⟩ := walk
  cases framed
  simp only [turn]
  split
  · exact leave_ne_finished _ _ _
  · exact begin_ne_finished _ _

/-- A turn changes nothing in the frames around the innermost one. -/
theorem frames_of_turn (framed : walk.frames = frame :: outer) :
    ∃ inner, (walk.turn.next walk).frames = inner ++ outer := by
  cases here : frame.steps[frame.position]? with
  | some step =>
      obtain ⟨opened, same⟩ := frames_of_begin framed here
      exact ⟨opened ++ [{ frame with position := frame.position + 1 }], by simp [same]⟩
  | none =>
      rw [next_turn_of_leave framed here]
      unfold leave
      split
      · exact ⟨[], rfl⟩
      · exact ⟨[], rfl⟩
      · exact ⟨[], rfl⟩
      · split
        · exact ⟨[_], rfl⟩
        · exact ⟨[], rfl⟩
        · exact ⟨[frame], framed⟩

end Walk

namespace User

variable {World : Type} {setting : Setting} {outside : Outside World} {now : Nat} {world : World}
  {user : User} {walk : Walk}

theorem frames_feed (feeder : String) :
    (user.feed setting outside world walk feeder).1.user.walk.frames = walk.frames := by
  rcases draws : outside.draw world feeder with ⟨_ | drawn, later⟩
  · rw [feed_of_crash draws]
    rfl
  · rw [feed_of_drawn draws, settle_walk]

theorem frames_send (request : Request) :
    (user.send setting outside now world walk request).1.user.walk.frames = walk.frames := by
  unfold send
  split
  · simp
  next call called =>
    cases waits : wakeAfter? now (outside.send world call.prepared).1.delay <;> simp [waits]

theorem frames_pause (pause : Pause) :
    (user.pause now walk pause).user.walk.frames = walk.frames := by
  unfold User.pause
  rcases pause.duration user.random with ⟨duration, random⟩
  cases told : endsInTime now duration with
  | false => simp [told, finish]
  | true => cases waits : wakeAfter? now duration <;> simp [told, waits]

theorem frames_advance :
    (user.advance setting outside none now world).1.user.walk.frames =
      (user.walk.turn.next user.walk).frames := by
  unfold advance
  cases turned : user.walk.turn with
  | finished => rfl
  | moved next => rfl
  | repeated next => rfl
  | request request next => exact frames_send request
  | pause pause next => exact frames_pause pause
  | feed feeder next => exact frames_feed feeder
  | exec hook next =>
      simp only [exec, Turn.next]
      split <;> rfl
  | crashed next => rfl

section

variable {ending : Ending}

/-- Within frames a user can only end by failing. -/
theorem isFailure_of_advance {frame : Frame} {outer : List Frame}
    (framed : user.walk.frames = frame :: outer)
    (ends : (user.advance setting outside none now world).1.pace = .finished ending) :
    ending.isFailure = true := by
  have going := Walk.turn_ne_finished framed
  unfold advance at ends
  cases turned : user.walk.turn with
  | finished => exact absurd turned going
  | moved next => simp [turned] at ends
  | repeated next => simp [turned] at ends
  | request request next =>
      simp only [turned] at ends
      exact isFailure_of_send ends
  | pause pause next =>
      simp only [turned] at ends
      exact isFailure_of_pause ends
  | feed feeder next =>
      simp only [turned] at ends
      exact isFailure_of_feed ends
  | exec hook next =>
      simp only [turned] at ends
      exact isFailure_of_exec ends
  | crashed next =>
      simp only [turned] at ends
      cases ends
      rfl

theorem isFailure_of_turn {frame : Frame} {outer : List Frame}
    (framed : user.walk.frames = frame :: outer) (fresh : user.activity ≠ .aborting)
    (ends : (user.turn setting outside none now world).1.pace = .finished ending) :
    ending.isFailure = true := by
  unfold turn at ends
  cases doing : user.activity with
  | ready =>
      simp only [doing] at ends
      exact isFailure_of_advance framed ends
  | pausing wake =>
      have woken : ({ user with activity := .ready } : User).walk.frames = frame :: outer := framed
      simp only [doing] at ends
      exact isFailure_of_advance woken ends
  | awaiting call outcome since wake =>
      simp only [doing] at ends
      exact isFailure_of_settle ends
  | aborting => exact absurd doing fresh
  | ended => simp [doing] at ends

end

end User

end LoadTest
