import LoadTest.Proofs.User.Journey

/-!
What a scenario means, without a stack.

`Evaluates` goes along the tree of steps: a list of steps is evaluated in order, a group
evaluates its steps behind one more name, a branch evaluates them if its condition holds,
and a loop evaluates them round by round and then gives its counter back the value from
before the loop.  A condition that crashes ends the user there.  The steps without steps inside
happen at once (`perform`).

Evaluating ends with an episode: what was done, the situation at its end, and how the user
ended if it did not get through.
-/

namespace LoadTest

structure Episode (World : Type) where
  deeds : List Deed
  situation : Situation World
  /-- How the user ended, if it ended there. -/
  ending : Option Ending

namespace Episode

variable {World : Type}

/-- The user passes on without having done anything. -/
def quiet (situation : Situation World) : Episode World := ⟨[], situation, none⟩

/-- The user is brought down without having done anything. -/
def crash (situation : Situation World) : Episode World := ⟨[], situation, some .crashed⟩

/-- An episode that comes after something was done. -/
def after (episode : Episode World) (deeds : List Deed) : Episode World :=
  { episode with deeds := deeds ++ episode.deeds }

/-- Gives a variable back its value, unless the user has ended. -/
def restoring (episode : Episode World) (key : String) (value : Option Json) : Episode World :=
  match episode.ending with
  | some _ => episode
  | none =>
      { episode with
        situation :=
          { episode.situation with session := episode.situation.session.restore key value } }

@[simp] theorem after_nil (episode : Episode World) : episode.after [] = episode := rfl

@[simp] theorem after_after (episode : Episode World) (first second : List Deed) :
    (episode.after second).after first = episode.after (first ++ second) := by
  simp [after]

@[simp] theorem restoring_after (episode : Episode World) (deeds : List Deed) (key : String)
    (value : Option Json) :
    (episode.after deeds).restoring key value = (episode.restoring key value).after deeds := by
  obtain ⟨done, situation, ending⟩ := episode
  cases ending <;> rfl

end Episode

namespace Surroundings

variable {World : Type}

/-- Sends a request and waits for the answer: the time it took, the answer, and the world then. -/
def answer (around : Surroundings World) (world : World) (request : PreparedRequest) :
    Duration × Except TransportError Response × World :=
  let now := around.now world
  let (reply, world) := around.send world request
  match wakeAfter? now reply.delay with
  | none => (.zero, reply.outcome, world)
  | some wake =>
      let world := around.wait world wake
      (.ofMillis (around.now world - now), reply.outcome, world)

/-- The world after a pause, unless the end of the pause cannot be told. -/
def rest (around : Surroundings World) (world : World) (pause : Duration) : Option World :=
  let now := around.now world
  if endsInTime now pause then
    match wakeAfter? now pause with
    | none => some world
    | some wake => some (around.wait world wake)
  else none

end Surroundings

/-- What comes of a step, once what it came to is known. -/
def StepResult.episode {World : Type} (result : StepResult) (policy : FailurePolicy)
    (random : Random) (world : World) (deeds : List Deed) : Episode World :=
  ⟨deeds ++ result.metric.toList.map .recorded, ⟨result.session, random, world⟩,
    (policy.fatal? result.error).map .failed⟩

section

variable {World : Type} (setting : Setting) (around : Surroundings World)

def performRequest (groups : List String) (before : Situation World) (request : Request) :
    Episode World :=
  let ⟨session, random, world⟩ := before
  let name := statName groups (request.displayName session)
  match request.prepare setting.protocol session with
  | .error missing =>
      StepResult.episode
        ⟨session, some ⟨name, .ko missing.message, .zero⟩, some (.unresolved missing)⟩
        setting.onFailure random world []
  | .ok prepared =>
      let (elapsed, outcome, world) := around.answer world prepared
      (Call.conclude ⟨name, request, prepared⟩ session elapsed outcome).episode setting.onFailure
        random world [.sent prepared]

def performPause (before : Situation World) (pause : Pause) : Episode World :=
  let ⟨session, random, world⟩ := before
  let (duration, random) := pause.duration random
  match around.rest world duration with
  | some world => .quiet ⟨session, random, world⟩
  | none => .crash ⟨session, random, world⟩

def performFeed (groups : List String) (before : Situation World) (feeder : String) :
    Episode World :=
  let ⟨session, random, world⟩ := before
  match around.draw world feeder with
  | (some (.ok record), world) =>
      ⟨[.drew feeder (some (.ok record))], ⟨session.merge record.toList, random, world⟩, none⟩
  | (some (.error error), world) =>
      StepResult.episode
        ⟨session, some ⟨statName groups ("Feed " ++ feeder), .ko error.message, .zero⟩, some error⟩
        setting.onFailure random world [.drew feeder (some (.error error))]
  | (none, world) => ⟨[.drew feeder none], ⟨session, random, world⟩, some .crashed⟩

def performExec (before : Situation World) (hook : Hook) : Episode World :=
  let deeds := [.called hook.label before.session]
  match hook.apply before.session with
  | some session => ⟨deeds, { before with session }, none⟩
  | none => ⟨deeds, before, some .crashed⟩

/-- What a step comes to that has no steps inside. -/
def perform (groups : List String) (before : Situation World) : Step → Option (Episode World)
  | .request request => some (performRequest setting around groups before request)
  | .pause pause => some (performPause around before pause)
  | .feed feeder => some (performFeed setting around groups before feeder)
  | .exec hook => some (performExec before hook)
  | .loop .. => none
  | .group .. => none
  | .branch .. => none

/-- What can be evaluated. -/
inductive Phrase where
  | step (step : Step)
  | steps (steps : List Step)
  /-- A loop from a round on, the counter being set. -/
  | rounds (kind : LoopKind) (counter : String) (round : UInt64) (steps : List Step)

/-- Evaluating behind the names of the groups around, innermost first. -/
inductive Evaluates : List String → Phrase → Situation World → Episode World → Prop where
  | simple {groups step before episode} :
      perform setting around groups before step = some episode →
      Evaluates groups (.step step) before episode
  | group {groups name steps before episode} :
      Evaluates (name :: groups) (.steps steps) before episode →
      Evaluates groups (.step (.group name steps)) before episode
  | branch {groups condition steps before episode} :
      condition.holds? before.session = some true →
      Evaluates groups (.steps steps) before episode →
      Evaluates groups (.step (.branch condition steps)) before episode
  | branch_not {groups condition steps before} :
      condition.holds? before.session = some false →
      Evaluates groups (.step (.branch condition steps)) before (.quiet before)
  | branch_crashed {groups condition steps before} :
      condition.holds? before.session = none →
      Evaluates groups (.step (.branch condition steps)) before (.crash before)
  | loop {groups kind counter steps before episode} :
      kind.continues? before.session 0 = some true →
      Evaluates groups (.rounds kind counter 0 steps)
        { before with session := before.session.set counter (Json.ofNat 0) } episode →
      Evaluates groups (.step (.loop kind counter steps)) before
        (episode.restoring counter (before.session.get? counter))
  | loop_not {groups kind counter steps before} :
      kind.continues? before.session 0 = some false →
      Evaluates groups (.step (.loop kind counter steps)) before (.quiet before)
  | loop_crashed {groups kind counter steps before} :
      kind.continues? before.session 0 = none →
      Evaluates groups (.step (.loop kind counter steps)) before (.crash before)
  | nil {groups before} : Evaluates groups (.steps []) before (.quiet before)
  | cons {groups step steps before deeds between episode} :
      Evaluates groups (.step step) before ⟨deeds, between, none⟩ →
      Evaluates groups (.steps steps) between episode →
      Evaluates groups (.steps (step :: steps)) before (episode.after deeds)
  | cons_ended {groups step steps before deeds situation ending} :
      Evaluates groups (.step step) before ⟨deeds, situation, some ending⟩ →
      Evaluates groups (.steps (step :: steps)) before ⟨deeds, situation, some ending⟩
  | round {groups kind counter round steps before deeds between episode} :
      Evaluates groups (.steps steps) before ⟨deeds, between, none⟩ →
      kind.continues? between.session (round + 1) = some true →
      Evaluates groups (.rounds kind counter (round + 1) steps)
        { between with
          session := between.session.set counter (Json.ofNat (round + 1).toNat)
          world := around.yield between.world } episode →
      Evaluates groups (.rounds kind counter round steps) before (episode.after deeds)
  | last_round {groups kind counter round steps before deeds situation} :
      Evaluates groups (.steps steps) before ⟨deeds, situation, none⟩ →
      kind.continues? situation.session (round + 1) = some false →
      Evaluates groups (.rounds kind counter round steps) before ⟨deeds, situation, none⟩
  | round_crashed {groups kind counter round steps before deeds situation} :
      Evaluates groups (.steps steps) before ⟨deeds, situation, none⟩ →
      kind.continues? situation.session (round + 1) = none →
      Evaluates groups (.rounds kind counter round steps) before ⟨deeds, situation, some .crashed⟩
  | round_ended {groups kind counter round steps before deeds situation ending} :
      Evaluates groups (.steps steps) before ⟨deeds, situation, some ending⟩ →
      Evaluates groups (.rounds kind counter round steps) before
        ⟨deeds, situation, some ending⟩

end

end LoadTest
