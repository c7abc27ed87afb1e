import LoadTest.Proofs.User.Notes
import LoadTest.Proofs.User.Ungrouped
import Mathlib.Data.List.Forall2

/-!
Groups only name things.

A user that walks through a scenario and one that walks through it without its groups do the same
(`Journey.transparent_groups`): what the first one records under names of groups, the second one
records under the last part of the name alone.  Turn by turn the two stay side by side, but that
entering or leaving a group takes the first one a turn of its own (`User.Regrouped.turn`).
-/

namespace LoadTest

/-! ### Names put in front -/

/-- The same metric behind names of groups, outermost first. -/
def Metric.behind (groups : List String) (metric : Metric) : Metric :=
  { metric with step := " / ".intercalate (groups ++ [metric.step]) }

def Deed.behind (groups : List String) : Deed → Deed
  | .recorded metric => .recorded (metric.behind groups)
  | deed => deed

def StepResult.behind (groups : List String) (result : StepResult) : StepResult :=
  { result with metric := result.metric.map (Metric.behind groups) }

def Call.behind (groups : List String) (call : Call) : Call :=
  { call with name := " / ".intercalate (groups ++ [call.name]) }

/-- What a user waits for is counted behind names of groups. -/
def Activity.behind (groups : List String) : Activity → Activity
  | .awaiting call outcome since wake => .awaiting (call.behind groups) outcome since wake
  | activity => activity

/-- A user that pauses can take its turn when it comes. -/
def Activity.awake : Activity → Activity
  | .pausing _ => .ready
  | activity => activity

theorem Call.conclude_behind (call : Call) (groups : List String) (session : Session)
    (elapsed : Duration) (outcome : Except TransportError Response) :
    (call.behind groups).conclude session elapsed outcome =
      (call.conclude session elapsed outcome).behind groups := by
  cases outcome with
  | error error => rfl
  | ok response =>
      simp only [Call.conclude, Call.behind]
      split <;> rfl

namespace Regrouped

variable {walk flat : Walk} (regrouped : Regrouped walk flat)

include regrouped

theorem call_eq (protocol : Protocol) (request : Request) :
    walk.call protocol request =
      match flat.call protocol request with
      | .ok call => .ok (call.behind walk.groups.reverse)
      | .error result => .error (result.behind walk.groups.reverse) := by
  unfold Walk.call
  rw [regrouped.session_eq, regrouped.groups_eq]
  cases request.prepare protocol walk.session <;> rfl

theorem fed_eq (feeder : String) (drawn : Except StepError Record) :
    walk.fed feeder drawn = (flat.fed feeder drawn).behind walk.groups.reverse := by
  unfold Walk.fed
  rw [regrouped.session_eq, regrouped.groups_eq]
  cases drawn <;> rfl

theorem withSession (session : Session) :
    Regrouped { walk with session } { flat with session } :=
  ⟨regrouped.frames, regrouped.groups_eq, rfl⟩

end Regrouped

/-! ### Turns of a user -/

/-- A user and the same user without groups. -/
structure User.Regrouped (user flat : User) : Prop where
  walk : LoadTest.Regrouped user.walk flat.walk
  random_eq : flat.random = user.random
  activity_eq : user.activity.awake = flat.activity.awake.behind user.walk.groups.reverse

/-- Both turns come to the same, but for names. -/
structure Advance.Regrouped (advance flat : Advance) : Prop where
  user : advance.user.Regrouped flat.user
  deeds_eq : advance.deeds = flat.deeds.map (Deed.behind advance.user.walk.groups.reverse)
  pace_eq : flat.pace = advance.pace

namespace User

variable {World : Type} {setting : Setting} {outside : Outside World} {now : Nat} {world : World}
  {user flat : User} {walk flatWalk : Walk}

theorem turn_awake (cancel : Option CancelReason) (user : User) :
    { user with activity := user.activity.awake }.turn setting outside cancel now world =
      user.turn setting outside cancel now world := by
  obtain ⟨walk, random, activity⟩ := user
  cases activity <;> rfl

section

variable (walks : LoadTest.Regrouped walk flatWalk) (random_eq : flat.random = user.random)

include walks random_eq

theorem regrouped_settle (policy : FailurePolicy) {deeds flatDeeds : List Deed}
    {result flatResult : StepResult}
    (deeds_eq : deeds = flatDeeds.map (Deed.behind walk.groups.reverse))
    (result_eq : result = flatResult.behind walk.groups.reverse) :
    (user.settle policy walk deeds result).Regrouped
      (flat.settle policy flatWalk flatDeeds flatResult) := by
  have recorded : deeds ++ result.metric.toList.map .recorded =
      (flatDeeds ++ flatResult.metric.toList.map Deed.recorded).map
        (Deed.behind walk.groups.reverse) := by
    rw [deeds_eq, result_eq, List.map_append]
    cases metric : flatResult.metric <;> simp [StepResult.behind, metric, Deed.behind]
  subst result_eq
  unfold settle
  simp only [StepResult.behind] at recorded ⊢
  cases policy.fatal? flatResult.error with
  | some error => exact ⟨⟨walks.withSession _, random_eq, rfl⟩, recorded, rfl⟩
  | none => exact ⟨⟨walks.withSession _, random_eq, rfl⟩, recorded, rfl⟩

theorem regrouped_send (request : Request) :
    (user.send setting outside now world walk request).1.Regrouped
        (flat.send setting outside now world flatWalk request).1 ∧
      (flat.send setting outside now world flatWalk request).2 =
        (user.send setting outside now world walk request).2 := by
  unfold send
  rw [walks.call_eq]
  cases flatWalk.call setting.protocol request with
  | error result => exact ⟨regrouped_settle walks random_eq _ rfl rfl, rfl⟩
  | ok call =>
      simp only [Call.behind]
      cases waits : wakeAfter? now (outside.send world call.prepared).1.delay with
      | none =>
          refine ⟨regrouped_settle walks random_eq _ rfl ?_, rfl⟩
          rw [walks.session_eq]
          exact call.conclude_behind ..
      | some wake => exact ⟨⟨⟨walks, random_eq, rfl⟩, rfl, rfl⟩, rfl⟩

theorem regrouped_pause (ready : user.activity = .ready) (flatReady : flat.activity = .ready)
    (pause : Pause) :
    (user.pause now walk pause).Regrouped (flat.pause now flatWalk pause) := by
  unfold User.pause
  rw [random_eq]
  rcases pause.duration user.random with ⟨duration, random⟩
  cases told : endsInTime now duration with
  | false =>
      simp only [told, Bool.false_eq_true, if_false]
      exact ⟨⟨walks, rfl, rfl⟩, rfl, rfl⟩
  | true =>
      cases waits : wakeAfter? now duration with
      | none =>
          simp only [told, waits, if_true, ready, flatReady]
          exact ⟨⟨walks, rfl, rfl⟩, rfl, rfl⟩
      | some wake =>
          simp only [told, waits, if_true]
          exact ⟨⟨walks, rfl, rfl⟩, rfl, rfl⟩

theorem regrouped_feed (feeder : String) :
    (user.feed setting outside world walk feeder).1.Regrouped
        (flat.feed setting outside world flatWalk feeder).1 ∧
      (flat.feed setting outside world flatWalk feeder).2 =
        (user.feed setting outside world walk feeder).2 := by
  rcases draws : outside.draw world feeder with ⟨_ | drawn, later⟩
  · rw [feed_of_crash draws, feed_of_crash draws]
    exact ⟨⟨⟨walks, random_eq, rfl⟩, rfl, rfl⟩, rfl⟩
  · rw [feed_of_drawn draws, feed_of_drawn draws]
    exact ⟨regrouped_settle walks random_eq _ rfl (walks.fed_eq ..), rfl⟩

theorem regrouped_exec (ready : user.activity = .ready) (flatReady : flat.activity = .ready)
    (hook : Hook) : (user.exec walk hook).Regrouped (flat.exec flatWalk hook) := by
  unfold exec
  rw [walks.session_eq]
  cases hook.apply walk.session with
  | some session =>
      simp only [ready, flatReady]
      exact ⟨⟨walks.withSession session, random_eq, rfl⟩, rfl, rfl⟩
  | none => exact ⟨⟨walks, random_eq, rfl⟩, rfl, rfl⟩

end

variable (setting outside now world) in
/-- A user that can take its turn enters or leaves a group on its own, or does the same as without
groups. -/
theorem Regrouped.advance (regrouped : user.Regrouped flat) (ready : user.activity = .ready)
    (flatReady : flat.activity = .ready) :
    (∃ next, user.advance setting outside none now world = (⟨next, [], .onward⟩, world) ∧
        next.Regrouped flat ∧ turnsThrough next.walk.frames < turnsThrough user.walk.frames) ∨
      (user.advance setting outside none now world).1.Regrouped
          (flat.advance setting outside none now world).1 ∧
        (flat.advance setting outside none now world).2 =
          (user.advance setting outside none now world).2 := by
  obtain ⟨walks, random_eq, -⟩ := regrouped
  have bothReady (groups : List String) :
      user.activity.awake = flat.activity.awake.behind groups := by
    rw [ready, flatReady]
    rfl
  unfold User.advance
  rcases walks.turn with ⟨next, moves, walksOn, less⟩ | same
  · refine .inl ⟨{ user with walk := next }, ?_, ⟨walksOn, random_eq, bothReady _⟩, less⟩
    rw [moves]
  · right
    generalize user.walk.turn = turned at same ⊢
    generalize flat.walk.turn = flatTurned at same ⊢
    cases same with
    | finished => exact ⟨⟨⟨walks, random_eq, rfl⟩, rfl, rfl⟩, rfl⟩
    | moved walksOn => exact ⟨⟨⟨walksOn, random_eq, bothReady _⟩, rfl, rfl⟩, rfl⟩
    | repeated walksOn => exact ⟨⟨⟨walksOn, random_eq, bothReady _⟩, rfl, rfl⟩, rfl⟩
    | request walksOn => exact regrouped_send walksOn random_eq _
    | pause walksOn => exact ⟨regrouped_pause walksOn random_eq ready flatReady _, rfl⟩
    | feed walksOn => exact regrouped_feed walksOn random_eq _
    | exec walksOn => exact ⟨regrouped_exec walksOn random_eq ready flatReady _, rfl⟩
    | crashed walksOn => exact ⟨⟨⟨walksOn, random_eq, rfl⟩, rfl, rfl⟩, rfl⟩

variable (setting outside now world) in
/-- A turn enters or leaves a group, or is the same as without groups. -/
theorem Regrouped.turn (regrouped : user.Regrouped flat) :
    (∃ next, user.turn setting outside none now world = (⟨next, [], .onward⟩, world) ∧
        next.Regrouped flat ∧ turnsThrough next.walk.frames < turnsThrough user.walk.frames) ∨
      (user.turn setting outside none now world).1.Regrouped
          (flat.turn setting outside none now world).1 ∧
        (flat.turn setting outside none now world).2 =
          (user.turn setting outside none now world).2 := by
  obtain ⟨walks, random_eq, activity_eq⟩ := regrouped
  rw [← turn_awake none user, ← turn_awake none flat, activity_eq]
  cases awake : flat.activity.awake with
  | ready =>
      have ready : ({ user with activity := .ready } : User).Regrouped
          { flat with activity := .ready } := ⟨walks, random_eq, rfl⟩
      rcases ready.advance setting outside now world rfl rfl with
        ⟨next, moves, ⟨walksOn, sameRandom, activity⟩, less⟩ | same
      · exact .inl ⟨next, moves, ⟨walksOn, sameRandom, by rw [awake]; exact activity⟩, less⟩
      · exact .inr same
  | pausing wake => cases activity : flat.activity <;> simp [Activity.awake, activity] at awake
  | awaiting call outcome since wake =>
      refine .inr ⟨regrouped_settle walks random_eq _ rfl ?_, rfl⟩
      rw [walks.session_eq]
      exact call.conclude_behind ..
  | aborting => exact .inr ⟨⟨⟨walks, random_eq, rfl⟩, rfl, rfl⟩, rfl⟩
  | ended => exact .inr ⟨⟨⟨walks, random_eq, rfl⟩, rfl, rfl⟩, rfl⟩

end User

/-! ### Journeys side by side -/

/-- The deed of a note is one of a user without groups, behind the names of the groups around the
step that the note points to. -/
def Note.Shows (root : List Step) (note : Note) (deed : Deed) : Prop :=
  ∃ groups step, locate root note.pointer = some (groups, step) ∧ note.deed = deed.behind groups

namespace Journey

variable {World : Type} (setting : Setting) (around : Surroundings World)

/-- A journey and the same journey without groups. -/
structure Regrouped (journey flat : Journey World) : Prop where
  user : journey.user.Regrouped flat.user
  world_eq : flat.world = journey.world
  ending_eq : flat.ending = journey.ending

theorem Regrouped.situation_eq {journey flat : Journey World} (regrouped : journey.Regrouped flat) :
    flat.situation = journey.situation := by
  unfold situation
  rw [regrouped.world_eq, regrouped.user.random_eq, regrouped.user.walk.session_eq]

/-- A turn of the journey enters or leaves a group, or is one of the journey without groups as
well. -/
theorem Regrouped.step {journey flat : Journey World} {root : List Step}
    (regrouped : journey.Regrouped flat) (within : journey.user.Within root) :
    ((journey.step setting around none).Regrouped flat ∧ journey.noted setting around = [] ∧
        turnsThrough (journey.step setting around none).user.walk.frames <
          turnsThrough journey.user.walk.frames) ∨
      (journey.step setting around none).Regrouped (flat.step setting around none) ∧
        ∃ deeds, (flat.step setting around none).deeds = flat.deeds ++ deeds ∧
          (journey.noted setting around).Forall₂ (Note.Shows root) deeds := by
  obtain ⟨users, world_eq, ending_eq⟩ := regrouped
  have turned := users.turn setting around.toOutside (around.now journey.world) journey.world
  have named : (journey.user.turn setting around.toOutside none (around.now journey.world)
      journey.world).1.Named root journey.user.walk.session := within.turn
  unfold Journey.step Journey.noted
  rw [world_eq]
  generalize journey.user.turn setting around.toOutside none (around.now journey.world)
    journey.world = came at turned named ⊢
  generalize flat.user.turn setting around.toOutside none (around.now journey.world)
    journey.world = flatCame at turned ⊢
  obtain ⟨advance, world⟩ := came
  obtain ⟨flatAdvance, flatWorld⟩ := flatCame
  rcases turned with ⟨next, moves, on, less⟩ | ⟨on, sameWorld⟩
  · cases moves
    exact .inl ⟨⟨on, world_eq, ending_eq⟩, rfl, less⟩
  · obtain ⟨usersOn, deeds_eq, pace_eq⟩ := on
    simp only at usersOn deeds_eq pace_eq sameWorld named
    refine .inr ⟨⟨usersOn, ?_, ?_⟩, flatAdvance.deeds, rfl, ?_⟩
    · simp only [follow, pace_eq, sameWorld]
    · simp only [follow, pace_eq, ending_eq]
    · simp only [deeds_eq, List.map_map, List.forall₂_map_left_iff, List.forall₂_same]
      intro deed done
      obtain ⟨step, reached, _⟩ := named.named (deed.behind _)
        (by rw [deeds_eq]; exact List.mem_map_of_mem done)
      exact ⟨_, step, reached, rfl⟩

/-- Two journeys have come to the same: their users are in one situation and ended alike, and the
second one has done what is noted of the first, but for the names of groups. -/
structure Mirrored (root : List Step) (journey : Journey World) (notes : List Note)
    (flat : Journey World) : Prop where
  ending_eq : flat.ending = journey.ending
  situation_eq : flat.situation = journey.situation
  deeds : notes.Forall₂ (Note.Shows root) flat.deeds

/-- Some turns of a journey and others of the journey without groups. -/
structure Abreast (steps : List Step) (before : Situation World) (turns flatTurns : Nat) :
    Prop where
  journeys : ((Journey.step setting around none)^[turns] (entering steps before)).Regrouped
    ((Journey.step setting around none)^[flatTurns] (entering (ungrouped steps) before))
  deeds : ((entering steps before).notes setting around turns).Forall₂ (Note.Shows steps)
    ((Journey.step setting around none)^[flatTurns] (entering (ungrouped steps) before)).deeds

section

variable {setting : Setting} {around : Surroundings World} {steps : List Step}
  {before : Situation World} {turns flatTurns : Nat}

theorem abreast_start : Abreast setting around steps before 0 0 where
  journeys := ⟨⟨⟨.frame (by simp) rfl rfl rfl .left, rfl, rfl⟩, rfl, rfl⟩, rfl, rfl⟩
  deeds := .nil

theorem Abreast.mirrored (abreast : Abreast setting around steps before turns flatTurns) :
    Mirrored steps ((Journey.step setting around none)^[turns] (entering steps before))
      ((entering steps before).notes setting around turns)
      ((Journey.step setting around none)^[flatTurns] (entering (ungrouped steps) before)) :=
  ⟨abreast.journeys.ending_eq, abreast.journeys.situation_eq, abreast.deeds⟩

theorem Abreast.next (abreast : Abreast setting around steps before turns flatTurns) :
    (Abreast setting around steps before (turns + 1) flatTurns ∧
        turnsThrough ((Journey.step setting around none)^[turns + 1]
            (entering steps before)).user.walk.frames <
          turnsThrough ((Journey.step setting around none)^[turns]
            (entering steps before)).user.walk.frames) ∨
      Abreast setting around steps before (turns + 1) (flatTurns + 1) := by
  have within := within_iterate setting around (within_entering steps before) turns
  rcases abreast.journeys.step setting around within with
    ⟨journeys, silent, less⟩ | ⟨journeys, deeds, done, shown⟩
  · refine .inl ⟨⟨?_, ?_⟩, ?_⟩
    · rw [Function.iterate_succ_apply']
      exact journeys
    · rw [notes, silent, List.append_nil]
      exact abreast.deeds
    · rw [Function.iterate_succ_apply']
      exact less
  · refine .inr ⟨?_, ?_⟩
    · rw [Function.iterate_succ_apply', Function.iterate_succ_apply']
      exact journeys
    · rw [Function.iterate_succ_apply', notes, done]
      exact List.rel_append abreast.deeds shown

theorem exists_flatTurns (turns : Nat) :
    ∃ flatTurns, Abreast setting around steps before turns flatTurns := by
  induction turns with
  | zero => exact ⟨0, abreast_start⟩
  | succ turns inductionHypothesis =>
      obtain ⟨flatTurns, abreast⟩ := inductionHypothesis
      rcases abreast.next with ⟨entered, _⟩ | both
      · exact ⟨flatTurns, entered⟩
      · exact ⟨flatTurns + 1, both⟩

/-- Groups are entered and left only so often before the journey without them takes a turn too. -/
theorem Abreast.catchUp (abreast : Abreast setting around steps before turns flatTurns) :
    ∃ later, Abreast setting around steps before later (flatTurns + 1) := by
  induction left : turnsThrough ((Journey.step setting around none)^[turns]
      (entering steps before)).user.walk.frames using Nat.strongRecOn generalizing turns with
  | ind left inductionHypothesis =>
      rcases abreast.next with ⟨entered, less⟩ | both
      · exact inductionHypothesis _ (by omega) entered rfl
      · exact ⟨turns + 1, both⟩

theorem exists_turns (flatTurns : Nat) :
    ∃ turns, Abreast setting around steps before turns flatTurns := by
  induction flatTurns with
  | zero => exact ⟨0, abreast_start⟩
  | succ flatTurns inductionHypothesis =>
      obtain ⟨turns, abreast⟩ := inductionHypothesis
      exact abreast.catchUp

end

/-- Groups are transparent.  However far a user has come, the user without groups gets into the same
situation, ends alike, sends and draws the same, and records the same outcomes and latencies; and
the other way round.  Only names differ: with groups each one is recorded behind the names of all
groups around its step, outermost first, and ends with what the step itself is called. -/
theorem transparent_groups (steps : List Step) (before : Situation World) :
    let grouped turns := (Journey.step setting around none)^[turns] (entering steps before)
    let flat turns := (Journey.step setting around none)^[turns] (entering (ungrouped steps) before)
    let noted turns := (entering steps before).notes setting around turns
    (∀ turns, ∃ flatTurns, Mirrored steps (grouped turns) (noted turns) (flat flatTurns)) ∧
    (∀ flatTurns, ∃ turns, Mirrored steps (grouped turns) (noted turns) (flat flatTurns)) ∧
    ∀ turns, (noted turns).map Note.deed = (grouped turns).deeds ∧
      ∀ note ∈ noted turns, note.Named steps := by
  refine ⟨fun turns => ?_, fun flatTurns => ?_, fun turns => ⟨?_, ?_⟩⟩
  · obtain ⟨flatTurns, abreast⟩ := exists_flatTurns turns
    exact ⟨flatTurns, abreast.mirrored⟩
  · obtain ⟨turns, abreast⟩ := exists_turns flatTurns
    exact ⟨turns, abreast.mirrored⟩
  · exact deeds_notes setting around (entering steps before) turns
  · exact fun note among => named_of_mem_notes setting around among

end Journey

end LoadTest
