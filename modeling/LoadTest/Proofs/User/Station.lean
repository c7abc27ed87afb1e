import LoadTest.Proofs.User.Evaluation

/-!
A user from step to step.

A journey takes two turns for a request whose answer is not there at once, and notes whether
the user pauses.  A station is what is left when one does not look between steps, and
`Station.next` goes from one to the next.  `ends_iff` says that both come to the same end.
-/

namespace LoadTest

/-- A user between two steps. -/
structure Station (World : Type) where
  /-- Innermost first. -/
  frames : List Frame
  /-- Innermost first. -/
  groups : List String
  situation : Situation World

/-- What was done from one station to the next. -/
structure Passage (World : Type) where
  deeds : List Deed
  station : Station World
  ending : Option Ending

/-- An episode that leaves its user between frames and groups. -/
def Episode.passage {World : Type} (frames : List Frame) (groups : List String)
    (episode : Episode World) : Passage World :=
  ⟨episode.deeds, ⟨frames, groups, episode.situation⟩, episode.ending⟩

/-- What a passage comes to: its end, or what the station beyond it comes to. -/
inductive Passage.Leads {World : Type}
    (comes : Station World → List Deed → Situation World → Ending → Prop)
    (passage : Passage World) : List Deed → Situation World → Ending → Prop where
  | finished {ending} :
      passage.ending = some ending →
      Leads comes passage passage.deeds passage.station.situation ending
  | onward {deeds situation ending} :
      passage.ending = none →
      comes passage.station deeds situation ending →
      Leads comes passage (passage.deeds ++ deeds) situation ending

namespace Station

variable {World : Type}

def walk (station : Station World) : Walk :=
  ⟨station.frames, station.groups, station.situation.session⟩

/-- The station that a walk stands at. -/
def atWalk (walk : Walk) (random : Random) (world : World) : Station World :=
  ⟨walk.frames, walk.groups, ⟨walk.session, random, world⟩⟩

/-- The user at a station, in the middle of its journey. -/
def journey (station : Station World) (deeds : List Deed) : Journey World :=
  ⟨⟨station.walk, station.situation.random, .ready⟩, station.situation.world, deeds, none⟩

variable (setting : Setting) (around : Surroundings World)

def next (station : Station World) : Passage World :=
  let random := station.situation.random
  let world := station.situation.world
  match station.walk.turn with
  | .finished => ⟨[], station, some .completed⟩
  | .moved walk => ⟨[], atWalk walk random world, none⟩
  | .repeated walk => ⟨[], atWalk walk random (around.yield world), none⟩
  | .request request walk =>
      (performRequest setting around walk.groups ⟨walk.session, random, world⟩ request).passage
        walk.frames walk.groups
  | .pause pause walk =>
      (performPause around ⟨walk.session, random, world⟩ pause).passage walk.frames walk.groups
  | .feed feeder walk =>
      (performFeed setting around walk.groups ⟨walk.session, random, world⟩ feeder).passage
        walk.frames walk.groups
  | .exec hook walk =>
      (performExec ⟨walk.session, random, world⟩ hook).passage walk.frames walk.groups
  | .crashed walk =>
      (Episode.crash ⟨walk.session, random, world⟩).passage walk.frames walk.groups

/-- From a station the user gets to its end. -/
inductive Ends : Station World → List Deed → Situation World → Ending → Prop where
  | finished {station ending} :
      (station.next setting around).ending = some ending →
      Ends station (station.next setting around).deeds
        (station.next setting around).station.situation ending
  | onward {station deeds situation ending} :
      (station.next setting around).ending = none →
      Ends (station.next setting around).station deeds situation ending →
      Ends station ((station.next setting around).deeds ++ deeds) situation ending

end Station

namespace Journey

variable {World : Type} {setting : Setting} {around : Surroundings World}

/-- A journey has gone over to the other end of a passage. -/
structure Arrives (journey : Journey World) (deeds : List Deed) (passage : Passage World) :
    Prop where
  ending_eq : journey.ending = passage.ending
  deeds_eq : journey.deeds = deeds ++ passage.deeds
  situation_eq : journey.situation = passage.station.situation
  awake_eq : passage.ending = none →
    journey.awake = passage.station.journey (deeds ++ passage.deeds)
  ended : passage.ending ≠ none → journey.user.activity = .ended

section

variable {journey : Journey World} (underway : journey.ending = none)

include underway

variable (setting around) in
theorem arrives_settle (walk : Walk) (world : World) (done : List Deed) (result : StepResult) :
    Arrives
      (journey.follow around (journey.user.settle setting.onFailure walk done result) world)
      journey.deeds
      (Episode.passage walk.frames walk.groups
        (result.episode setting.onFailure journey.user.random world done)) := by
  cases fate : setting.onFailure.fatal? result.error with
  | none =>
      constructor <;>
        simp [User.settle, fate, follow, Episode.passage, StepResult.episode, underway,
          situation, awake, User.isPausing, Station.journey, Station.walk]
  | some error =>
      constructor <;>
        simp [User.settle, fate, follow, Episode.passage, StepResult.episode, situation, User.finish]

theorem arrives_pause (ready : journey.user.activity = .ready) (walk : Walk) (pause : Pause) :
    Arrives
      (journey.follow around (journey.user.pause (around.now journey.world) walk pause)
        journey.world)
      journey.deeds
      (Episode.passage walk.frames walk.groups
        (performPause around ⟨walk.session, journey.user.random, journey.world⟩ pause)) := by
  rcases drawn : pause.duration journey.user.random with ⟨duration, random⟩
  cases told : endsInTime (around.now journey.world) duration with
  | false =>
      constructor <;>
        simp [User.pause, performPause, Surroundings.rest, drawn, told, follow, Episode.passage,
          Episode.crash, situation, User.finish]
  | true =>
      cases waits : wakeAfter? (around.now journey.world) duration with
      | none =>
          constructor <;>
            simp [User.pause, performPause, Surroundings.rest, drawn, told, waits, follow,
              Episode.passage, Episode.quiet, underway, ready, situation, awake, User.isPausing,
              Station.journey, Station.walk]
      | some wake =>
          constructor <;>
            simp [User.pause, performPause, Surroundings.rest, drawn, told, waits, follow,
              Episode.passage, Episode.quiet, underway, situation, awake, User.isPausing,
              Station.journey, Station.walk]

theorem arrives_exec (ready : journey.user.activity = .ready) (walk : Walk) (hook : Hook) :
    Arrives (journey.follow around (journey.user.exec walk hook) journey.world) journey.deeds
      (Episode.passage walk.frames walk.groups
        (performExec ⟨walk.session, journey.user.random, journey.world⟩ hook)) := by
  unfold User.exec performExec
  split
  next session applied =>
    constructor <;>
      simp [applied, follow, Episode.passage, underway, ready, situation, awake, User.isPausing,
        Station.journey, Station.walk]
  next crashed =>
    constructor <;> simp [crashed, follow, Episode.passage, situation, User.finish]

theorem arrives_feed (walk : Walk) (feeder : String) :
    let (advance, world) :=
      journey.user.feed setting around.toOutside journey.world walk feeder
    Arrives (journey.follow around advance world) journey.deeds
      (Episode.passage walk.frames walk.groups
        (performFeed setting around walk.groups
          ⟨walk.session, journey.user.random, journey.world⟩ feeder)) := by
  rcases draw : around.draw journey.world feeder with ⟨_ | _ | record, world⟩
  · constructor <;>
      simp [performFeed, draw, follow, Episode.passage, situation, User.finish]
  next error =>
    have arrives := arrives_settle setting around underway walk world
      [.drew feeder (some (.error error))] (walk.fed feeder (.error error))
    simpa [User.feed, performFeed, draw, Walk.fed] using arrives
  · have arrives := arrives_settle setting around underway walk world
      [.drew feeder (some (.ok record))] (walk.fed feeder (.ok record))
    simpa [User.feed, performFeed, draw, StepResult.episode, Walk.fed, FailurePolicy.fatal?]
      using arrives

theorem arrives_unprepared (walk : Walk) (request : Request) {missing : Unresolved}
    (preparation : request.prepare setting.protocol walk.session = .error missing) :
    let (advance, world) :=
      journey.user.send setting around.toOutside (around.now journey.world) journey.world walk
        request
    Arrives (journey.follow around advance world) journey.deeds
      (Episode.passage walk.frames walk.groups
        (performRequest setting around walk.groups
          ⟨walk.session, journey.user.random, journey.world⟩ request)) := by
  have arrives := arrives_settle setting around underway walk journey.world []
    ⟨walk.session,
      some ⟨statName walk.groups (request.displayName walk.session), .ko missing.message, .zero⟩,
      some (.unresolved missing)⟩
  simpa [User.send, Walk.call, performRequest, preparation] using arrives

/-- A request whose answer is there at once takes one turn. -/
theorem arrives_prompt (walk : Walk) (request : Request) {prepared : PreparedRequest}
    (preparation : request.prepare setting.protocol walk.session = .ok prepared)
    (prompt : wakeAfter? (around.now journey.world)
      (around.send journey.world prepared).1.delay = none) :
    let (advance, world) :=
      journey.user.send setting around.toOutside (around.now journey.world) journey.world walk
        request
    Arrives (journey.follow around advance world) journey.deeds
      (Episode.passage walk.frames walk.groups
        (performRequest setting around walk.groups
          ⟨walk.session, journey.user.random, journey.world⟩ request)) := by
  rcases sends : around.send journey.world prepared with ⟨reply, world⟩
  rw [sends] at prompt
  have arrives := arrives_settle setting around underway walk world [.sent prepared]
    (Call.conclude ⟨statName walk.groups (request.displayName walk.session), request, prepared⟩
      walk.session .zero reply.outcome)
  simpa [User.send, Walk.call, performRequest, Surroundings.answer, preparation, sends, prompt]
    using arrives

end

theorem Arrives.of_earlier {journey : Journey World} {first second : List Deed}
    {passage : Passage World} (arrives : Arrives journey (first ++ second) passage) :
    Arrives journey first { passage with deeds := second ++ passage.deeds } where
  ending_eq := arrives.ending_eq
  deeds_eq := by simpa using arrives.deeds_eq
  situation_eq := arrives.situation_eq
  awake_eq := by simpa using arrives.awake_eq
  ended := arrives.ended

/-- A request whose answer has to be waited for takes two turns. -/
theorem arrives_awaited {journey : Journey World} (underway : journey.ending = none) (walk : Walk)
    (request : Request) {prepared : PreparedRequest}
    (preparation : request.prepare setting.protocol walk.session = .ok prepared) {wake : Nat}
    (later : wakeAfter? (around.now journey.world)
      (around.send journey.world prepared).1.delay = some wake) :
    let (advance, world) :=
      journey.user.send setting around.toOutside (around.now journey.world) journey.world walk
        request
    let waiting := journey.follow around advance world
    waiting.ending = none ∧
      Arrives (waiting.step setting around none) journey.deeds
        (Episode.passage walk.frames walk.groups
          (performRequest setting around walk.groups
            ⟨walk.session, journey.user.random, journey.world⟩ request)) := by
  rcases sends : around.send journey.world prepared with ⟨reply, world⟩
  rw [sends] at later
  let call : Call := ⟨statName walk.groups (request.displayName walk.session), request, prepared⟩
  let waiting : Journey World :=
    ⟨⟨walk, journey.user.random,
        .awaiting call reply.outcome (around.now journey.world) wake⟩,
      around.wait world wake, journey.deeds ++ [.sent prepared], none⟩
  have arrives : Arrives (waiting.step setting around none) waiting.deeds
      (Episode.passage walk.frames walk.groups
        ((call.conclude walk.session
            (.ofMillis (around.now waiting.world - around.now journey.world)) reply.outcome).episode
          setting.onFailure journey.user.random waiting.world [])) :=
    arrives_settle setting around rfl walk waiting.world [] _
  have waits :
      (let (advance, world) :=
        journey.user.send setting around.toOutside (around.now journey.world) journey.world walk
          request
      journey.follow around advance world) = waiting := by
    simp [User.send, Walk.call, preparation, sends, later, follow, underway, waiting, call]
  have performed :
      performRequest setting around walk.groups
          ⟨walk.session, journey.user.random, journey.world⟩ request =
        (call.conclude walk.session
            (.ofMillis (around.now waiting.world - around.now journey.world)) reply.outcome).episode
          setting.onFailure journey.user.random waiting.world [.sent prepared] := by
    simp [performRequest, preparation, Surroundings.answer, sends, later, waiting, call]
  rw [performed]
  dsimp only at waits ⊢
  rw [waits]
  exact ⟨rfl, arrives.of_earlier⟩

variable (setting around) in
/-- A journey from a station has not ended after so many turns.  One more takes it to the far end of
its passage. -/
def PassesAfter (turns : Nat) (station : Station World) (deeds : List Deed) : Prop :=
  (∀ fewer ≤ turns,
    ((step setting around none)^[fewer] (station.journey deeds)).ending = none) ∧
  Arrives ((step setting around none)^[turns + 1] (station.journey deeds)) deeds
    (station.next setting around)

theorem passesAfter_zero {station : Station World} {deeds : List Deed}
    (arrives : Arrives ((station.journey deeds).step setting around none) deeds
      (station.next setting around)) :
    PassesAfter setting around 0 station deeds :=
  ⟨fun fewer none => by rw [Nat.le_zero.1 none]; rfl, arrives⟩

theorem passesAfter_one {station : Station World} {deeds : List Deed}
    (waiting : ((station.journey deeds).step setting around none).ending = none)
    (arrives : Arrives (((station.journey deeds).step setting around none).step setting around none)
      deeds (station.next setting around)) :
    PassesAfter setting around 1 station deeds := by
  refine ⟨fun fewer atMost => ?_, arrives⟩
  obtain rfl | rfl : fewer = 0 ∨ fewer = 1 := by omega
  · rfl
  · exact waiting

variable (setting around) in
/-- A request takes two turns if its answer has to be waited for, and else one. -/
theorem exists_passesAfter_request {station : Station World} (deeds : List Deed) {request : Request}
    {walk : Walk} (turned : station.walk.turn = .request request walk) :
    ∃ turns, PassesAfter setting around turns station deeds := by
  have underway : (station.journey deeds).ending = none := rfl
  have stepped : (station.journey deeds).step setting around none =
      let (advance, world) :=
        (station.journey deeds).user.send setting around.toOutside
          (around.now station.situation.world) station.situation.world walk request
      (station.journey deeds).follow around advance world := by
    simp only [step, User.turn, User.advance, turned, Station.journey]
  cases preparation : request.prepare setting.protocol walk.session with
  | error missing =>
      refine ⟨0, passesAfter_zero ?_⟩
      rw [stepped]
      simp only [Station.next, turned]
      exact arrives_unprepared underway walk request preparation
  | ok prepared =>
      cases waits : wakeAfter? (around.now station.situation.world)
          (around.send station.situation.world prepared).1.delay with
      | none =>
          refine ⟨0, passesAfter_zero ?_⟩
          rw [stepped]
          simp only [Station.next, turned]
          exact arrives_prompt underway walk request preparation waits
      | some wake =>
          obtain ⟨waiting, arrives⟩ := arrives_awaited underway walk request preparation waits
          refine ⟨1, passesAfter_one ?_ ?_⟩
          · rw [stepped]
            exact waiting
          · rw [stepped]
            simp only [Station.next, turned]
            exact arrives

variable (setting around) in
/-- A passage takes one turn, or two if an answer has to be waited for. -/
theorem exists_passesAfter (station : Station World) (deeds : List Deed) :
    ∃ turns, PassesAfter setting around turns station deeds := by
  have underway : (station.journey deeds).ending = none := rfl
  have ready : (station.journey deeds).user.activity = .ready := rfl
  have walks : (station.journey deeds).user.walk.turn = station.walk.turn := rfl
  cases turned : station.walk.turn with
  | finished =>
      refine ⟨0, passesAfter_zero ?_⟩
      simp only [step, User.turn, ready, User.advance, walks, turned, Station.next]
      constructor <;> simp [follow, User.finish, situation, Station.journey, Station.walk]
  | moved walk =>
      refine ⟨0, passesAfter_zero ?_⟩
      simp only [step, User.turn, ready, User.advance, walks, turned, Station.next]
      constructor <;>
        simp [follow, situation, awake, User.isPausing, Station.journey, Station.walk,
          Station.atWalk]
  | repeated walk =>
      refine ⟨0, passesAfter_zero ?_⟩
      simp only [step, User.turn, ready, User.advance, walks, turned, Station.next]
      constructor <;>
        simp [follow, situation, awake, User.isPausing, Station.journey, Station.walk,
          Station.atWalk]
  | request request walk => exact exists_passesAfter_request setting around deeds turned
  | pause pause walk =>
      refine ⟨0, passesAfter_zero ?_⟩
      simp only [step, User.turn, ready, User.advance, walks, turned, Station.next]
      exact arrives_pause underway ready walk pause
  | feed feeder walk =>
      refine ⟨0, passesAfter_zero ?_⟩
      simp only [step, User.turn, ready, User.advance, walks, turned, Station.next]
      exact arrives_feed underway walk feeder
  | exec hook walk =>
      refine ⟨0, passesAfter_zero ?_⟩
      simp only [step, User.turn, ready, User.advance, walks, turned, Station.next]
      exact arrives_exec underway ready walk hook
  | crashed walk =>
      refine ⟨0, passesAfter_zero ?_⟩
      simp only [step, User.turn, ready, User.advance, walks, turned, Station.next]
      constructor <;> simp [follow, User.finish, situation, Episode.passage, Episode.crash,
        Station.journey]

/-- At the far end of a passage nothing more happens to a user that has ended. -/
theorem Arrives.eq_of_endsAfter {journey : Journey World} {turns : Nat} {done deeds : List Deed}
    {passage : Passage World} {situation : Situation World} {fate ending : Ending}
    (arrives : Arrives journey done passage) (finished : passage.ending = some fate)
    (ends : EndsAfter setting around turns journey deeds situation ending) :
    ending = fate ∧ deeds = done ++ passage.deeds ∧ situation = passage.station.situation := by
  have ended : journey.user.activity = .ended := arrives.ended (by simp [finished])
  have stays : (step setting around none)^[turns] journey = journey :=
    Function.iterate_fixed (step_of_ended ended none) turns
  obtain ⟨ended, done, there⟩ := ends
  rw [stays] at ended done there
  rw [arrives.ending_eq, finished] at ended
  exact ⟨(Option.some.inj ended).symm, by rw [← done, arrives.deeds_eq],
    by rw [← there, arrives.situation_eq]⟩

theorem Arrives.endsAfter_iff {journey : Journey World} {turns : Nat} {done deeds : List Deed}
    {passage : Passage World} {situation : Situation World} {ending : Ending}
    (arrives : Arrives journey done passage) (onward : passage.ending = none) :
    EndsAfter setting around turns (passage.station.journey (done ++ passage.deeds)) deeds situation
        ending ↔
      EndsAfter setting around turns journey deeds situation ending := by
  rw [← arrives.awake_eq onward, endsAfter_awake_iff]

end Journey

namespace Station

variable {World : Type} {setting : Setting} {around : Surroundings World}
  {situation : Situation World} {ending : Ending}

open Journey

theorem ends_of_endsAfter {deeds : List Deed} (turns : Nat) :
    ∀ (station : Station World) (done : List Deed),
      EndsAfter setting around turns (station.journey done) deeds situation ending →
      ∃ rest, deeds = done ++ rest ∧ station.Ends setting around rest situation ending := by
  induction turns using Nat.strongRecOn with
  | ind turns inductionHypothesis =>
      intro station done ends
      obtain ⟨extra, underway, arrives⟩ := exists_passesAfter setting around station done
      by_cases short : turns ≤ extra
      · have ended := ends.ending_eq
        simp [underway turns short] at ended
      · obtain ⟨later, rfl⟩ : ∃ later, turns = later + (extra + 1) :=
          ⟨turns - (extra + 1), by omega⟩
        have ends := endsAfter_add_iff.1 ends
        cases fate : (station.next setting around).ending with
        | some ending =>
            obtain ⟨rfl, rfl, rfl⟩ := arrives.eq_of_endsAfter fate ends
            exact ⟨_, rfl, .finished fate⟩
        | none =>
            obtain ⟨rest, rfl, onward⟩ :=
              inductionHypothesis later (by omega) _ _ ((arrives.endsAfter_iff fate).2 ends)
            exact ⟨_, List.append_assoc .., .onward fate onward⟩

theorem exists_endsAfter {station : Station World} {deeds : List Deed}
    (ends : station.Ends setting around deeds situation ending) (done : List Deed) :
    ∃ turns, EndsAfter setting around turns (station.journey done) (done ++ deeds) situation
      ending := by
  induction ends generalizing done with
  | @finished station ending finished =>
      obtain ⟨extra, -, arrives⟩ := exists_passesAfter setting around station done
      refine ⟨extra + 1, ?_, ?_, ?_⟩
      · rw [arrives.ending_eq, finished]
      · exact arrives.deeds_eq
      · exact arrives.situation_eq
  | @onward station deeds situation ending onward _ inductionHypothesis =>
      obtain ⟨extra, -, arrives⟩ := exists_passesAfter setting around station done
      obtain ⟨turns, ends⟩ := inductionHypothesis (done ++ (station.next setting around).deeds)
      refine ⟨turns + (extra + 1), ?_⟩
      rw [endsAfter_add_iff, ← arrives.endsAfter_iff onward, ← List.append_assoc]
      exact ends

/-- Turn by turn and step by step a user comes to the same end. -/
theorem ends_iff {station : Station World} {deeds : List Deed} :
    (∃ turns, EndsAfter setting around turns (station.journey []) deeds situation ending) ↔
      station.Ends setting around deeds situation ending := by
  constructor
  · rintro ⟨turns, ends⟩
    obtain ⟨rest, rfl, ends⟩ := ends_of_endsAfter turns station [] ends
    exact ends
  · intro ends
    simpa using exists_endsAfter ends []

end Station

end LoadTest
