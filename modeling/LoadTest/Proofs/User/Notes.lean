import LoadTest.Proofs.User.Place
import LoadTest.Proofs.User.Request

/-!
Under which names the metrics of a user are recorded.

A note is a deed with the pointer to its step and the session that the turn began with.  The step
that a note points to is the one whose request or draw was recorded, and the names of the groups
around it are those in the recorded name (`Journey.named_of_mem_notes`): also of a request whose
answer came in a later turn.
-/

namespace LoadTest

structure Note where
  pointer : List Nat
  session : Session
  deed : Deed

/-- The name of what a step records, where no group is around it. -/
def Step.label? (session : Session) : Step → Option String
  | .request asked => some (asked.displayName session)
  | .feed feeder => some ("Feed " ++ feeder)
  | _ => none

/-- The note points to a step, and a recorded name is made of the names of the groups around that
step, outermost first, and its own. -/
def Note.Named (root : List Step) (note : Note) : Prop :=
  ∃ groups step, locate root note.pointer = some (groups, step) ∧
    ∀ metric, note.deed = .recorded metric →
      ∃ label, step.label? note.session = some label ∧
        metric.step = " / ".intercalate (groups ++ [label])

/-- A user is within a scenario; a request it waits for is the step it is at, and is counted under
the name of that step. -/
structure User.Within (root : List Step) (user : User) : Prop where
  walk : user.walk.Within root
  awaited : ∀ call outcome since wake, user.activity = .awaiting call outcome since wake →
    ∃ request, user.walk.At root (.request request) ∧
      call.name = statName user.walk.groups (request.displayName user.walk.session)

/-- The user is still within its scenario.  What it did belongs to the step it is at, and is counted
under the name of that step. -/
structure Advance.Named (root : List Step) (session : Session) (advance : Advance) : Prop where
  within : advance.user.Within root
  named : ∀ deed ∈ advance.deeds, ∃ step, advance.user.walk.At root step ∧
    ∀ metric, deed = .recorded metric →
      ∃ label, step.label? session = some label ∧
        metric.step = statName advance.user.walk.groups label

theorem Call.step_of_conclude {call : Call} {session : Session} {elapsed : Duration}
    {outcome : Except TransportError Response} {metric : Metric}
    (recorded : (call.conclude session elapsed outcome).metric = some metric) :
    metric.step = call.name := by
  cases outcome with
  | error error =>
      cases recorded
      rfl
  | ok response =>
      simp only [Call.conclude] at recorded
      split at recorded <;> cases recorded <;> rfl

namespace Walk

variable {walk : Walk} {protocol : Protocol} {request : Request}

theorem name_of_call {call : Call} (called : walk.call protocol request = .ok call) :
    call.name = statName walk.groups (request.displayName walk.session) := by
  unfold Walk.call at called
  split at called <;> cases called
  rfl

theorem step_of_call {result : StepResult} {metric : Metric}
    (called : walk.call protocol request = .error result)
    (recorded : result.metric = some metric) :
    metric.step = statName walk.groups (request.displayName walk.session) := by
  unfold Walk.call at called
  split at called <;> cases called
  cases recorded
  rfl

theorem step_of_fed {feeder : String} {drawn : Except StepError Record} {metric : Metric}
    (recorded : (walk.fed feeder drawn).metric = some metric) :
    metric.step = statName walk.groups ("Feed " ++ feeder) := by
  unfold Walk.fed at recorded
  split at recorded <;> cases recorded
  rfl

end Walk

namespace User

variable {World : Type} {setting : Setting} {outside : Outside World} {now : Nat} {world : World}
  {user : User} {walk : Walk} {root : List Step} {cancel : Option CancelReason}

/-- A user that does not wait for an answer is within a scenario if its walk is. -/
theorem Within.of_walk (within : user.walk.Within root) (prompt : user.isAwaiting = false) :
    user.Within root where
  walk := within
  awaited call outcome since wake awaits := by simp [isAwaiting, awaits] at prompt

/-- A step that comes to a result is noted under its name. -/
theorem named_settle {step : Step} {label : String} {deeds : List Deed} {result : StepResult}
    {session : Session} (policy : FailurePolicy) (within : walk.Within root)
    (reached : walk.At root step) (labelled : step.label? session = some label)
    (others : ∀ metric, .recorded metric ∉ deeds)
    (counts : ∀ metric, result.metric = some metric → metric.step = statName walk.groups label) :
    (user.settle policy walk deeds result).Named root session where
  within := .of_walk (by simpa [Walk.Within] using within) (isAwaiting_settle ..)
  named deed done := by
    rw [settle_walk]
    refine ⟨step, reached, ?_⟩
    rintro metric rfl
    rw [settle_deeds, List.mem_append] at done
    rcases done with other | recorded
    · exact absurd other (others metric)
    · refine ⟨label, labelled, counts metric ?_⟩
      simpa using recorded

theorem named_quiet {session : Session} {pace : Pace} (within : user.Within root) :
    (⟨user, [], pace⟩ : Advance).Named root session where
  within := within
  named deed done := by cases done

theorem named_send {request : Request} (within : walk.Within root)
    (reached : walk.At root (.request request)) :
    (user.send setting outside now world walk request).1.Named root walk.session := by
  unfold send
  split
  next result called =>
    exact named_settle _ within reached rfl (by simp) fun _ => Walk.step_of_call called
  next call called =>
    have name := Walk.name_of_call called
    cases waits : wakeAfter? now (outside.send world call.prepared).1.delay with
    | none =>
        simp only [waits]
        refine named_settle _ within reached rfl (by simp) fun metric recorded => ?_
        rw [Call.step_of_conclude recorded, name]
    | some wake =>
        simp only [waits]
        constructor
        · refine ⟨within, ?_⟩
          rintro _ _ _ _ ⟨⟩
          exact ⟨request, reached, name⟩
        · intro deed done
          refine ⟨.request request, reached, ?_⟩
          rintro metric rfl
          simp at done

theorem named_pause {pause : Pause} {session : Session} (ready : user.activity = .ready)
    (within : walk.Within root) : (user.pause now walk pause).Named root session := by
  unfold User.pause
  rcases pause.duration user.random with ⟨duration, random⟩
  cases told : endsInTime now duration with
  | false =>
      simp only [told, Bool.false_eq_true, if_false]
      exact named_quiet (.of_walk within rfl)
  | true =>
      cases waits : wakeAfter? now duration with
      | none =>
          simp only [told, waits, if_true]
          exact named_quiet (.of_walk within (by simp [isAwaiting, ready]))
      | some wake =>
          simp only [told, waits, if_true]
          exact named_quiet (.of_walk within rfl)

theorem named_feed {feeder : String} {session : Session} (within : walk.Within root)
    (reached : walk.At root (.feed feeder)) :
    (user.feed setting outside world walk feeder).1.Named root session := by
  rcases draws : outside.draw world feeder with ⟨_ | drawn, later⟩
  · have silent : ∀ deed ∈ [Deed.drew feeder none], ∀ metric, deed ≠ .recorded metric := by simp
    rw [feed_of_crash draws]
    exact ⟨.of_walk within rfl, fun deed done =>
      ⟨.feed feeder, reached, fun metric same => absurd same (silent deed done metric)⟩⟩
  · rw [feed_of_drawn draws]
    exact named_settle _ within reached rfl (by simp) fun _ => Walk.step_of_fed

theorem named_exec {hook : Hook} {session : Session} (ready : user.activity = .ready)
    (within : walk.Within root) (reached : walk.At root (.exec hook)) :
    (user.exec walk hook).Named root session := by
  have silent : ∀ deed ∈ [Deed.called hook.label walk.session], ∀ metric,
      deed ≠ .recorded metric := by simp
  unfold exec
  split
  · exact ⟨.of_walk within (by simp [isAwaiting, ready]), fun deed done =>
      ⟨.exec hook, reached, fun metric same => absurd same (silent deed done metric)⟩⟩
  · exact ⟨.of_walk within rfl, fun deed done =>
      ⟨.exec hook, reached, fun metric same => absurd same (silent deed done metric)⟩⟩

theorem named_advance (within : user.walk.Within root) (ready : user.activity = .ready) :
    (user.advance setting outside cancel now world).1.Named root user.walk.session := by
  have prompt : user.isAwaiting = false := by simp [isAwaiting, ready]
  have turned := within.turn
  unfold advance
  split
  · exact named_quiet (.of_walk within rfl)
  · split
    next => exact named_quiet (.of_walk within rfl)
    next next moves =>
      rw [moves] at turned
      exact named_quiet (.of_walk turned (by simp [isAwaiting, ready]))
    next next moves =>
      rw [moves] at turned
      exact named_quiet (.of_walk turned (by simp [isAwaiting, ready]))
    next request next asks =>
      rw [asks] at turned
      rw [← Walk.session_of_turn_request asks]
      exact named_send turned.1 turned.2
    next pause next pauses =>
      rw [pauses] at turned
      exact named_pause ready turned.1
    next feeder next feeds =>
      rw [feeds] at turned
      exact named_feed turned.1 turned.2
    next hook next calls =>
      rw [calls] at turned
      exact named_exec ready turned.1 turned.2
    next next crashes =>
      rw [crashes] at turned
      exact named_quiet (.of_walk turned rfl)

/-- A user within a scenario stays in it, and notes what it does under its names. -/
theorem Within.turn (within : user.Within root) :
    (user.turn setting outside cancel now world).1.Named root user.walk.session := by
  unfold User.turn
  split
  next ready => exact named_advance within.walk ready
  next =>
    have rested : ({ user with activity := .ready } : User).walk.Within root := within.walk
    exact named_advance rested rfl
  next call outcome since wake awaits =>
    obtain ⟨request, reached, name⟩ := within.awaited _ _ _ _ awaits
    refine named_settle _ within.walk reached rfl (by simp) fun metric recorded => ?_
    rw [Call.step_of_conclude recorded, name]
  next => exact named_quiet (.of_walk within.walk rfl)
  next => exact named_quiet within

end User

namespace Journey

variable {World : Type} (setting : Setting) (around : Surroundings World)

/-- What is noted in one turn. -/
def noted (journey : Journey World) : List Note :=
  let advance := (journey.user.turn setting around.toOutside none (around.now journey.world)
    journey.world).1
  advance.deeds.map fun deed =>
    ⟨advance.user.walk.pointer, journey.user.walk.session, deed⟩

/-- What is noted in a number of turns. -/
def notes (journey : Journey World) : Nat → List Note
  | 0 => []
  | turns + 1 =>
      notes journey turns ++ ((step setting around none)^[turns] journey).noted setting around

/-- Everything that a user does is noted. -/
theorem deeds_notes (journey : Journey World) (turns : Nat) :
    journey.deeds ++ (journey.notes setting around turns).map Note.deed =
      ((step setting around none)^[turns] journey).deeds := by
  induction turns with
  | zero => simp [notes]
  | succ turns inductionHypothesis =>
      rw [Function.iterate_succ_apply', notes, List.map_append, ← List.append_assoc,
        inductionHypothesis]
      simp [noted, step, follow, Function.comp_def]

theorem within_iterate {journey : Journey World} {root : List Step}
    (within : journey.user.Within root) (turns : Nat) :
    ((step setting around none)^[turns] journey).user.Within root := by
  induction turns with
  | zero => exact within
  | succ turns inductionHypothesis =>
      rw [Function.iterate_succ_apply']
      exact inductionHypothesis.turn.within

theorem within_entering (steps : List Step) (before : Situation World) :
    (entering steps before).user.Within steps :=
  .of_walk (.root rfl rfl) rfl

/-- Every name that is recorded is made of the names of all groups around its step, outermost first,
and of what the step records. -/
theorem named_of_mem_notes {steps : List Step} {before : Situation World} {turns : Nat}
    {note : Note} (noted : note ∈ (entering steps before).notes setting around turns) :
    note.Named steps := by
  induction turns with
  | zero => cases noted
  | succ turns inductionHypothesis =>
      rw [notes, List.mem_append] at noted
      rcases noted with earlier | now
      · exact inductionHypothesis earlier
      · obtain ⟨deed, done, rfl⟩ := List.mem_map.1 now
        obtain ⟨step, reached, named⟩ :=
          (within_iterate setting around (within_entering steps before) turns).turn.named deed done
        exact ⟨_, step, reached, named⟩

end Journey

end LoadTest
