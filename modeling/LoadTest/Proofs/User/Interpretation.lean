import LoadTest.Proofs.User.Station

/-!
The stack of frames means what the tree of steps means.

`Frame.Finishes` says what comes of the rest of a frame in terms of `Evaluates`, and
`Unwinds` what comes of a whole stack: its frames finish one after another, innermost
first.  From the end of a user backwards every passage keeps this (`unwinds_of_ends`).  The
other way round, an evaluation carries a user from the station before it to the station
after it, whatever comes then (`Station.Carries`).
-/

namespace LoadTest

section

variable {World : Type} (setting : Setting) (around : Surroundings World)

/-- What comes of a frame whose steps have come to an episode. -/
inductive Enclosure.Closes (groups : List String) (steps : List Step) :
    Enclosure → Episode World → Episode World → Prop where
  | root {episode} : Closes groups steps .root episode episode
  | group {episode} : Closes groups steps .group episode episode
  | branch {episode} : Closes groups steps .branch episode episode
  | loop_ended {kind counter iteration shadowed deeds situation ending} :
      Closes groups steps (.loop kind counter iteration shadowed) ⟨deeds, situation, some ending⟩
        ⟨deeds, situation, some ending⟩
  | loop_last {kind counter iteration shadowed deeds situation} :
      kind.continues? situation.session (iteration + 1) = some false →
      Closes groups steps (.loop kind counter iteration shadowed) ⟨deeds, situation, none⟩
        ⟨deeds, { situation with session := situation.session.restore counter shadowed }, none⟩
  | loop_crashed {kind counter iteration shadowed deeds situation} :
      kind.continues? situation.session (iteration + 1) = none →
      Closes groups steps (.loop kind counter iteration shadowed) ⟨deeds, situation, none⟩
        ⟨deeds, situation, some .crashed⟩
  | loop_again {kind counter iteration shadowed deeds situation episode} :
      kind.continues? situation.session (iteration + 1) = some true →
      Evaluates setting around groups (.rounds kind counter (iteration + 1) steps)
        { situation with
          session := situation.session.set counter (Json.ofNat (iteration + 1).toNat)
          world := around.yield situation.world } episode →
      Closes groups steps (.loop kind counter iteration shadowed) ⟨deeds, situation, none⟩
        ((episode.restoring counter shadowed).after deeds)

/-- What comes of the rest of a frame. -/
def Frame.Finishes (groups : List String) (frame : Frame) (before : Situation World)
    (episode : Episode World) : Prop :=
  ∃ rest : Episode World,
    Evaluates setting around groups (.steps (frame.steps.drop frame.position)) before rest ∧
      frame.enclosure.Closes setting around groups frame.steps rest episode

/-- The groups around a frame, given those around its steps. -/
def Enclosure.outside (groups : List String) : Enclosure → List String
  | .group => groups.tail
  | _ => groups

/-- A stack unwinds: its frames finish one after another, unless the user ends before. -/
inductive Station.Unwinds : Station World → List Deed → Situation World → Ending → Prop where
  | nil {groups situation} : Unwinds ⟨[], groups, situation⟩ [] situation .completed
  | ended {frame outer groups before deeds situation ending} :
      frame.Finishes setting around groups before ⟨deeds, situation, some ending⟩ →
      Unwinds ⟨frame :: outer, groups, before⟩ deeds situation ending
  | cons {frame outer groups before deeds between rest situation ending} :
      frame.Finishes setting around groups before ⟨deeds, between, none⟩ →
      Unwinds ⟨outer, frame.enclosure.outside groups, between⟩ rest situation ending →
      Unwinds ⟨frame :: outer, groups, before⟩ (deeds ++ rest) situation ending

/-- Whatever a passage comes to, a station comes to as well. -/
def Station.Carries (station : Station World) (passage : Passage World) : Prop :=
  ∀ deeds situation ending, passage.Leads (Ends setting around) deeds situation ending →
    station.Ends setting around deeds situation ending

/-- An episode of a phrase carries a user from where its evaluation begins to behind it. -/
def Phrase.Carries (groups : List String) (before : Situation World) (episode : Episode World) :
    Phrase → Prop
  | .step begun => ∀ (frame : Frame) (outer : List Frame),
      frame.steps[frame.position]? = some begun →
      Station.Carries setting around ⟨frame :: outer, groups, before⟩
        (episode.passage ({ frame with position := frame.position + 1 } :: outer) groups)
  | .steps rest => ∀ (frame : Frame) (outer : List Frame),
      frame.position ≤ frame.steps.length →
      frame.steps.drop frame.position = rest →
      Station.Carries setting around ⟨frame :: outer, groups, before⟩
        (episode.passage ({ frame with position := frame.steps.length } :: outer) groups)
  | .rounds kind counter round inside => ∀ (shadowed : Option Json) (outer : List Frame),
      Station.Carries setting around
        ⟨⟨inside, 0, .loop kind counter round shadowed⟩ :: outer, groups, before⟩
        ((episode.restoring counter shadowed).passage outer groups)

end

section

variable {World : Type} {setting : Setting} {around : Surroundings World} {groups : List String}

theorem Enclosure.Closes.after {enclosure : Enclosure} {steps : List Step}
    {rest episode : Episode World} (closes : enclosure.Closes setting around groups steps rest episode)
    (deeds : List Deed) :
    enclosure.Closes setting around groups steps (rest.after deeds) (episode.after deeds) := by
  cases closes with
  | root => exact .root
  | group => exact .group
  | branch => exact .branch
  | loop_ended => exact .loop_ended
  | loop_last finished => exact .loop_last finished
  | loop_crashed crashed => exact .loop_crashed crashed
  | loop_again continues evaluates =>
      rw [Episode.after_after]
      exact .loop_again continues evaluates

/-- A frame that ends with its user is closed whatever it is the inside of. -/
theorem Enclosure.closes_ended (enclosure : Enclosure) (steps : List Step) (deeds : List Deed)
    (situation : Situation World) (ending : Ending) :
    enclosure.Closes setting around groups steps ⟨deeds, situation, some ending⟩
      ⟨deeds, situation, some ending⟩ := by
  cases enclosure with
  | root => exact .root
  | group => exact .group
  | branch => exact .branch
  | loop kind counter iteration shadowed => exact .loop_ended

namespace Frame

variable {frame : Frame} {before : Situation World} {episode : Episode World}

theorem drop_position {step : Step} (here : frame.steps[frame.position]? = some step) :
    frame.steps.drop frame.position = step :: frame.steps.drop (frame.position + 1) := by
  obtain ⟨within, rfl⟩ := List.getElem?_eq_some_iff.1 here
  exact List.drop_eq_getElem_cons within

theorem begins_of_drop {step : Step} {rest : List Step}
    (there : frame.steps.drop frame.position = step :: rest) :
    frame.steps[frame.position]? = some step ∧ frame.position + 1 ≤ frame.steps.length ∧
      frame.steps.drop (frame.position + 1) = rest := by
  have within : frame.position < frame.steps.length := by
    by_contra beyond
    rw [List.drop_eq_nil_of_le (Nat.le_of_not_lt beyond)] at there
    cases there
  rw [List.drop_eq_getElem_cons within] at there
  injection there with here there
  exact ⟨List.getElem?_eq_some_iff.2 ⟨within, here⟩, within, there⟩

/-- At its end a frame closes without another step. -/
theorem finishes_of_end (atEnd : frame.steps[frame.position]? = none)
    (closes : frame.enclosure.Closes setting around groups frame.steps (.quiet before) episode) :
    frame.Finishes setting around groups before episode := by
  refine ⟨_, ?_, closes⟩
  rw [List.drop_eq_nil_of_le (List.getElem?_eq_none_iff.1 atEnd)]
  exact .nil

theorem Finishes.cons {step : Step} (here : frame.steps[frame.position]? = some step)
    {deeds : List Deed} {between : Situation World}
    (evaluates : Evaluates setting around groups (.step step) before ⟨deeds, between, none⟩)
    (finishes : { frame with position := frame.position + 1 }.Finishes setting around groups between
      episode) :
    frame.Finishes setting around groups before (episode.after deeds) := by
  obtain ⟨rest, evaluatesRest, closes⟩ := finishes
  refine ⟨rest.after deeds, ?_, closes.after deeds⟩
  rw [drop_position here]
  exact .cons evaluates evaluatesRest

theorem Finishes.cons_ended {step : Step} (here : frame.steps[frame.position]? = some step)
    {deeds : List Deed} {situation : Situation World} {ending : Ending}
    (evaluates :
      Evaluates setting around groups (.step step) before ⟨deeds, situation, some ending⟩) :
    frame.Finishes setting around groups before ⟨deeds, situation, some ending⟩ := by
  refine ⟨⟨deeds, situation, some ending⟩, ?_, frame.enclosure.closes_ended ..⟩
  rw [drop_position here]
  exact .cons_ended evaluates

/-- A loop that begins a round finishes as its rounds do. -/
theorem finishes_round {steps : List Step} {kind : LoopKind} {counter : String} {iteration : UInt64}
    {shadowed : Option Json}
    (finishes : Finishes setting around groups ⟨steps, 0, .loop kind counter iteration shadowed⟩
      before episode) :
    ∃ rounds, Evaluates setting around groups (.rounds kind counter iteration steps) before rounds ∧
      episode = rounds.restoring counter shadowed := by
  obtain ⟨rest, evaluates, closes⟩ := finishes
  cases closes with
  | loop_ended => exact ⟨_, .round_ended evaluates, rfl⟩
  | loop_last finished => exact ⟨_, .last_round evaluates finished, rfl⟩
  | loop_crashed crashed => exact ⟨_, .round_crashed evaluates crashed, rfl⟩
  | loop_again continues more =>
      exact ⟨_, .round evaluates continues more, (Episode.restoring_after ..).symm⟩

/-- A loop at the end of a round finishes as it does from the next round on. -/
theorem finishes_again {kind : LoopKind} {counter : String} {iteration : UInt64}
    {shadowed : Option Json} (atEnd : frame.steps[frame.position]? = none)
    (loops : frame.enclosure = .loop kind counter iteration shadowed)
    (continues : kind.continues? before.session (iteration + 1) = some true)
    (finishes : Finishes setting around groups
      ⟨frame.steps, 0, .loop kind counter (iteration + 1) shadowed⟩
      { before with
        session := before.session.set counter (Json.ofNat (iteration + 1).toNat)
        world := around.yield before.world } episode) :
    frame.Finishes setting around groups before episode := by
  obtain ⟨rounds, evaluates, rfl⟩ := finishes_round finishes
  refine finishes_of_end atEnd ?_
  rw [loops]
  exact .loop_again continues evaluates

end Frame

namespace Station

variable {station : Station World} {frame : Frame} {outer : List Frame}
  {before situation : Situation World} {deeds : List Deed} {ending : Ending}

namespace Unwinds

/-- A step that was passed comes before whatever else a stack comes to. -/
theorem step {step : Step} (here : frame.steps[frame.position]? = some step) {done : List Deed}
    {between : Situation World}
    (evaluates : Evaluates setting around groups (.step step) before ⟨done, between, none⟩)
    (unwinds : Unwinds setting around
      ⟨{ frame with position := frame.position + 1 } :: outer, groups, between⟩ deeds situation
      ending) :
    Unwinds setting around ⟨frame :: outer, groups, before⟩ (done ++ deeds) situation ending := by
  cases unwinds with
  | ended finishes => exact .ended (finishes.cons here evaluates)
  | cons finishes unwinds =>
      rw [← List.append_assoc]
      exact .cons (finishes.cons here evaluates) unwinds

/-- What is pushed for a step finishes as the step does. -/
theorem enter {step : Step} (here : frame.steps[frame.position]? = some step) {inner : Frame}
    {innerGroups : List String} {entered : Situation World}
    (meaning : ∀ episode, inner.Finishes setting around innerGroups entered episode →
      Evaluates setting around groups (.step step) before episode)
    (outside : inner.enclosure.outside innerGroups = groups)
    (unwinds : Unwinds setting around
      ⟨inner :: { frame with position := frame.position + 1 } :: outer, innerGroups, entered⟩ deeds
      situation ending) :
    Unwinds setting around ⟨frame :: outer, groups, before⟩ deeds situation ending := by
  cases unwinds with
  | ended finishes => exact .ended (.cons_ended here (meaning _ finishes))
  | cons finishes unwinds => exact .step here (meaning _ finishes) (outside ▸ unwinds)

/-- A frame at its end is taken away. -/
theorem leave (atEnd : frame.steps[frame.position]? = none) {between : Situation World}
    (closes : frame.enclosure.Closes setting around groups frame.steps (.quiet before)
      (.quiet between))
    (unwinds : Unwinds setting around ⟨outer, frame.enclosure.outside groups, between⟩ deeds
      situation ending) :
    Unwinds setting around ⟨frame :: outer, groups, before⟩ deeds situation ending :=
  .cons (Frame.finishes_of_end atEnd closes) unwinds

/-- A loop at the end of a round begins the next one. -/
theorem again {kind : LoopKind} {counter : String} {iteration : UInt64} {shadowed : Option Json}
    (atEnd : frame.steps[frame.position]? = none)
    (loops : frame.enclosure = .loop kind counter iteration shadowed)
    (continues : kind.continues? before.session (iteration + 1) = some true)
    (unwinds : Unwinds setting around
      ⟨⟨frame.steps, 0, .loop kind counter (iteration + 1) shadowed⟩ :: outer, groups,
        { before with
          session := before.session.set counter (Json.ofNat (iteration + 1).toNat)
          world := around.yield before.world }⟩ deeds situation ending) :
    Unwinds setting around ⟨frame :: outer, groups, before⟩ deeds situation ending := by
  cases unwinds with
  | ended finishes => exact .ended (Frame.finishes_again atEnd loops continues finishes)
  | cons finishes unwinds =>
      refine .cons (Frame.finishes_again atEnd loops continues finishes) ?_
      rw [loops]
      exact unwinds

/-- Without having done anything the user stands at another station. -/
theorem moved (leads : Passage.Leads (Unwinds setting around) ⟨[], station, none⟩ deeds situation
    ending) : Unwinds setting around station deeds situation ending := by
  cases leads with
  | finished ended => cases ended
  | onward _ unwinds => exact unwinds

/-- A frame that comes to a crash is the last one. -/
theorem crashed (finishes : frame.Finishes setting around groups before (.crash before))
    {frames : List Frame} {names : List String}
    (leads : Passage.Leads (Unwinds setting around) ((Episode.crash before).passage frames names)
      deeds situation ending) :
    Unwinds setting around ⟨frame :: outer, groups, before⟩ deeds situation ending := by
  cases leads with
  | finished ended =>
      cases ended
      exact .ended finishes
  | onward onward _ => cases onward

end Unwinds

theorem unwinds_leave (atEnd : frame.steps[frame.position]? = none)
    (leads : (next setting around ⟨frame :: outer, groups, before⟩).Leads (Unwinds setting around)
      deeds situation ending) :
    Unwinds setting around ⟨frame :: outer, groups, before⟩ deeds situation ending := by
  obtain ⟨steps, position, enclosure⟩ := frame
  cases enclosure with
  | root =>
      simp only [next, walk, Walk.turn, atEnd, Walk.leave] at leads
      exact .leave atEnd .root (.moved leads)
  | branch =>
      simp only [next, walk, Walk.turn, atEnd, Walk.leave] at leads
      exact .leave atEnd .branch (.moved leads)
  | group =>
      simp only [next, walk, Walk.turn, atEnd, Walk.leave] at leads
      exact .leave atEnd .group (.moved leads)
  | loop kind counter iteration shadowed =>
      rcases continues : kind.continues? before.session (iteration + 1) with _ | _ | _
      · simp only [next, walk, Walk.turn, atEnd, Walk.leave, continues] at leads
        exact .crashed (Frame.finishes_of_end atEnd (.loop_crashed continues)) leads
      · simp only [next, walk, Walk.turn, atEnd, Walk.leave, continues] at leads
        exact .leave atEnd (.loop_last continues) (.moved leads)
      · simp only [next, walk, Walk.turn, atEnd, Walk.leave, continues] at leads
        exact .again atEnd rfl continues (.moved leads)

theorem unwinds_perform {step : Step} (here : frame.steps[frame.position]? = some step)
    {episode : Episode World} (performs : perform setting around groups before step = some episode)
    (leads : (episode.passage ({ frame with position := frame.position + 1 } :: outer) groups).Leads
      (Unwinds setting around) deeds situation ending) :
    Unwinds setting around ⟨frame :: outer, groups, before⟩ deeds situation ending := by
  obtain ⟨done, between, stopped⟩ := episode
  cases leads with
  | finished ended =>
      cases ended
      exact .ended (.cons_ended here (.simple performs))
  | onward onward unwinds =>
      cases onward
      exact .step here (.simple performs) unwinds

theorem unwinds_begin {step : Step} (here : frame.steps[frame.position]? = some step)
    (leads : (next setting around ⟨frame :: outer, groups, before⟩).Leads (Unwinds setting around)
      deeds situation ending) :
    Unwinds setting around ⟨frame :: outer, groups, before⟩ deeds situation ending := by
  simp only [next, walk, Walk.turn, here] at leads
  cases step with
  | request request => exact unwinds_perform here rfl leads
  | pause pause => exact unwinds_perform here rfl leads
  | feed feeder => exact unwinds_perform here rfl leads
  | exec hook => exact unwinds_perform here rfl leads
  | group name steps =>
      refine .enter here (fun episode finishes => ?_) rfl (.moved leads)
      obtain ⟨rest, evaluates, closes⟩ := finishes
      cases closes
      exact .group evaluates
  | branch condition steps =>
      rcases holds : condition.holds? before.session with _ | _ | _
      · simp only [Walk.begin, holds] at leads
        exact .crashed (.cons_ended here (.branch_crashed holds)) leads
      · simp only [Walk.begin, holds] at leads
        exact .step here (.branch_not holds) (.moved leads)
      · simp only [Walk.begin, holds] at leads
        refine .enter here (fun episode finishes => ?_) rfl (.moved leads)
        obtain ⟨rest, evaluates, closes⟩ := finishes
        cases closes
        exact .branch holds evaluates
  | loop kind counter steps =>
      rcases continues : kind.continues? before.session 0 with _ | _ | _
      · simp only [Walk.begin, continues] at leads
        exact .crashed (.cons_ended here (.loop_crashed continues)) leads
      · simp only [Walk.begin, continues] at leads
        exact .step here (.loop_not continues) (.moved leads)
      · simp only [Walk.begin, continues] at leads
        refine .enter here (fun episode finishes => ?_) rfl (.moved leads)
        obtain ⟨rounds, evaluates, rfl⟩ := Frame.finishes_round finishes
        exact .loop continues evaluates

/-- What a stack comes to is kept from the far end of a passage to its near end. -/
theorem unwinds_of_next
    (leads : (station.next setting around).Leads (Unwinds setting around) deeds situation ending) :
    Unwinds setting around station deeds situation ending := by
  obtain ⟨frames, groups, before⟩ := station
  cases frames with
  | nil =>
      cases leads with
      | finished ended =>
          cases ended
          exact .nil
      | onward onward _ => cases onward
  | cons frame outer =>
      cases here : frame.steps[frame.position]? with
      | none => exact unwinds_leave here leads
      | some step => exact unwinds_begin here leads

theorem unwinds_of_ends (ends : station.Ends setting around deeds situation ending) :
    Unwinds setting around station deeds situation ending := by
  induction ends with
  | finished ended => exact unwinds_of_next (.finished ended)
  | onward onward _ inductionHypothesis => exact unwinds_of_next (.onward onward inductionHypothesis)

namespace Carries

theorem refl : station.Carries setting around ⟨[], station, none⟩ := by
  intro deeds situation ending leads
  cases leads with
  | finished ended => cases ended
  | onward _ ends => exact ends

theorem of_next {passage : Passage World} (passes : station.next setting around = passage) :
    station.Carries setting around passage := by
  rintro deeds situation ending leads
  subst passes
  cases leads with
  | finished ended => exact .finished ended
  | onward onward ends => exact .onward onward ends

theorem trans {done : List Deed} {middle : Station World} {passage : Passage World}
    (first : station.Carries setting around ⟨done, middle, none⟩)
    (second : middle.Carries setting around passage) :
    station.Carries setting around { passage with deeds := done ++ passage.deeds } := by
  intro deeds situation ending leads
  cases leads with
  | finished ended => exact first _ _ _ (.onward rfl (second _ _ _ (.finished ended)))
  | @onward rest _ _ onward ends =>
      rw [List.append_assoc]
      exact first _ _ _ (.onward rfl (second _ _ _ (.onward onward ends)))

/-- Where the user stands in its scenario does not matter once it has ended. -/
theorem ended {frames others : List Frame} {names otherNames : List String}
    (carries : station.Carries setting around ⟨deeds, ⟨frames, names, situation⟩, some ending⟩) :
    station.Carries setting around ⟨deeds, ⟨others, otherNames, situation⟩, some ending⟩ := by
  intro deeds situation other leads
  cases leads with
  | finished ended => exact carries _ _ _ (.finished ended)
  | onward onward _ => cases onward

/-- A frame at its end, unless it is a loop's, is taken away. -/
theorem leave {inner : Frame} {innerGroups : List String} {episode : Episode World}
    (carries : station.Carries setting around (episode.passage (inner :: outer) innerGroups))
    (atEnd : inner.steps[inner.position]? = none)
    (plain : inner.enclosure = .root ∨ inner.enclosure = .group ∨ inner.enclosure = .branch) :
    station.Carries setting around
      (episode.passage outer (inner.enclosure.outside innerGroups)) := by
  obtain ⟨deeds, situation, stopped⟩ := episode
  cases stopped with
  | some ending => exact carries.ended
  | none =>
      have leaves : next setting around ⟨inner :: outer, innerGroups, situation⟩ =
          ⟨[], ⟨outer, inner.enclosure.outside innerGroups, situation⟩, none⟩ := by
        obtain plain | plain | plain := plain <;>
          simp [next, walk, Walk.turn, atEnd, Walk.leave, plain, atWalk, Enclosure.outside]
      simpa [Episode.passage] using carries.trans (.of_next leaves)

end Carries

theorem next_of_perform {step : Step} (here : frame.steps[frame.position]? = some step)
    {episode : Episode World}
    (performs : perform setting around groups before step = some episode) :
    next setting around ⟨frame :: outer, groups, before⟩ =
      episode.passage ({ frame with position := frame.position + 1 } :: outer) groups := by
  cases step <;> cases performs <;> simp only [next, walk, Walk.turn, here, Walk.begin]

/-- A step that is entered or passed over changes no more than the walk. -/
theorem Carries.moved {step : Step} {onward : Walk} {passage : Passage World}
    (here : frame.steps[frame.position]? = some step)
    (moves : Walk.begin ⟨{ frame with position := frame.position + 1 } :: outer, groups,
      before.session⟩ step = .moved onward)
    (carries : (atWalk onward before.random before.world).Carries setting around passage) :
    Station.Carries setting around ⟨frame :: outer, groups, before⟩ passage := by
  have moved : next setting around ⟨frame :: outer, groups, before⟩ =
      ⟨[], atWalk onward before.random before.world, none⟩ := by
    simp only [next, walk, Walk.turn, here, moves]
  exact .trans (.of_next moved) carries

/-- A condition that crashes ends the user where it is. -/
theorem next_of_crash {step : Step} (here : frame.steps[frame.position]? = some step)
    (crashes : Walk.begin ⟨{ frame with position := frame.position + 1 } :: outer, groups,
      before.session⟩ step =
        .crashed ⟨{ frame with position := frame.position + 1 } :: outer, groups,
          before.session⟩) :
    next setting around ⟨frame :: outer, groups, before⟩ =
      (Episode.crash before).passage ({ frame with position := frame.position + 1 } :: outer)
        groups := by
  simp only [next, walk, Walk.turn, here, crashes]

theorem next_of_round {steps : List Step} {kind : LoopKind} {counter : String} {iteration : UInt64}
    {shadowed : Option Json}
    (continues : kind.continues? before.session (iteration + 1) = some true) :
    next setting around
        ⟨⟨steps, steps.length, .loop kind counter iteration shadowed⟩ :: outer, groups, before⟩ =
      ⟨[], ⟨⟨steps, 0, .loop kind counter (iteration + 1) shadowed⟩ :: outer, groups,
        { before with
          session := before.session.set counter (Json.ofNat (iteration + 1).toNat)
          world := around.yield before.world }⟩, none⟩ := by
  simp [next, walk, Walk.turn, Walk.leave, continues, atWalk]

theorem next_of_last_round {steps : List Step} {kind : LoopKind} {counter : String}
    {iteration : UInt64} {shadowed : Option Json}
    (finished : kind.continues? before.session (iteration + 1) = some false) :
    next setting around
        ⟨⟨steps, steps.length, .loop kind counter iteration shadowed⟩ :: outer, groups, before⟩ =
      ⟨[], ⟨outer, groups,
        { before with session := before.session.restore counter shadowed }⟩, none⟩ := by
  simp [next, walk, Walk.turn, Walk.leave, finished, atWalk]

theorem next_of_crashed_round {steps : List Step} {kind : LoopKind} {counter : String}
    {iteration : UInt64} {shadowed : Option Json}
    (crashed : kind.continues? before.session (iteration + 1) = none) :
    next setting around
        ⟨⟨steps, steps.length, .loop kind counter iteration shadowed⟩ :: outer, groups, before⟩ =
      (Episode.crash before).passage
        (⟨steps, steps.length, .loop kind counter iteration shadowed⟩ :: outer) groups := by
  simp [next, walk, Walk.turn, Walk.leave, crashed]

end Station

/-- Steps carry a user through a frame that holds just them. -/
theorem Phrase.Carries.inside {steps : List Step} {before : Situation World}
    {episode : Episode World}
    (carries : (Phrase.steps steps).Carries setting around groups before episode)
    (enclosure : Enclosure) (outer : List Frame) :
    Station.Carries setting around ⟨⟨steps, 0, enclosure⟩ :: outer, groups, before⟩
      (episode.passage (⟨steps, steps.length, enclosure⟩ :: outer) groups) :=
  carries ⟨steps, 0, enclosure⟩ outer (Nat.zero_le _) rfl

/-- They carry it out of the frame again, unless this is the inside of a loop. -/
theorem Phrase.Carries.through {steps : List Step} {before : Situation World}
    {episode : Episode World}
    (carries : (Phrase.steps steps).Carries setting around groups before episode)
    {enclosure : Enclosure} (outer : List Frame)
    (plain : enclosure = .root ∨ enclosure = .group ∨ enclosure = .branch) :
    Station.Carries setting around ⟨⟨steps, 0, enclosure⟩ :: outer, groups, before⟩
      (episode.passage outer (enclosure.outside groups)) := by
  have atEnd : steps[steps.length]? = none := List.getElem?_eq_none (Nat.le_refl _)
  exact (carries.inside enclosure outer).leave atEnd plain

theorem carries_of_evaluates {phrase : Phrase} {before : Situation World} {episode : Episode World}
    (evaluates : Evaluates setting around groups phrase before episode) :
    phrase.Carries setting around groups before episode := by
  induction evaluates with
  | simple performs =>
      intro frame outer here
      exact .of_next (Station.next_of_perform here performs)
  | group _ inside =>
      intro frame outer here
      exact .moved here rfl (inside.through _ (.inr (.inl rfl)))
  | branch holds _ inside =>
      intro frame outer here
      exact .moved here (Walk.begin_branch holds) (inside.through _ (.inr (.inr rfl)))
  | branch_not holds =>
      intro frame outer here
      exact .moved here (Walk.begin_branch_not holds) .refl
  | branch_crashed holds =>
      intro frame outer here
      exact .of_next (Station.next_of_crash here (Walk.begin_branch_crashed holds))
  | loop continues _ rounds =>
      intro frame outer here
      exact .moved here (Walk.begin_loop continues) (rounds _ _)
  | loop_not continues =>
      intro frame outer here
      exact .moved here (Walk.begin_loop_not continues) .refl
  | loop_crashed continues =>
      intro frame outer here
      exact .of_next (Station.next_of_crash here (Walk.begin_loop_crashed continues))
  | nil =>
      intro frame outer within atEnd
      obtain ⟨steps, position, enclosure⟩ := frame
      have there : position = steps.length :=
        Nat.le_antisymm within (List.drop_eq_nil_iff.1 atEnd)
      subst there
      exact .refl
  | cons _ _ first more =>
      intro frame outer within there
      obtain ⟨here, further, rest⟩ := Frame.begins_of_drop there
      exact .trans (first frame outer here) (more _ outer further rest)
  | cons_ended _ first =>
      intro frame outer within there
      exact (first frame outer (Frame.begins_of_drop there).1).ended
  | round _ continues _ body more =>
      intro shadowed outer
      have onward := Station.Carries.trans (.of_next (Station.next_of_round continues))
        (more shadowed outer)
      rw [Episode.restoring_after]
      exact .trans (body.inside _ outer) onward
  | @last_round _ kind counter round _ _ _ _ _ finished body =>
      intro shadowed outer
      have leaves := (body.inside (.loop kind counter round shadowed) outer).trans
        (.of_next (Station.next_of_last_round finished))
      simpa [Episode.passage, Episode.restoring] using leaves
  | @round_crashed _ kind counter round _ _ _ _ _ crashed body =>
      intro shadowed outer
      have ends := (body.inside (.loop kind counter round shadowed) outer).trans
        (.of_next (Station.next_of_crashed_round crashed))
      rw [Episode.passage, Episode.crash, List.append_nil] at ends
      exact ends.ended
  | round_ended _ body =>
      intro shadowed outer
      exact (body.inside _ outer).ended

theorem Station.ends_iff_evaluates {steps : List Step} {before after : Situation World}
    {deeds : List Deed} {ending : Ending} :
    Station.Ends setting around ⟨[⟨steps, 0, .root⟩], [], before⟩ deeds after ending ↔
      ∃ stopped, Evaluates setting around [] (.steps steps) before ⟨deeds, after, stopped⟩ ∧
        stopped.getD .completed = ending := by
  constructor
  · intro ends
    cases Station.unwinds_of_ends ends with
    | ended finishes =>
        obtain ⟨rest, evaluates, closes⟩ := finishes
        cases closes
        exact ⟨some ending, evaluates, rfl⟩
    | cons finishes unwinds =>
        obtain ⟨rest, evaluates, closes⟩ := finishes
        cases closes
        cases unwinds
        exact ⟨none, by simpa using evaluates, rfl⟩
  · rintro ⟨stopped, evaluates, rfl⟩
    have leaves := (carries_of_evaluates evaluates).through [] (.inl rfl)
    cases stopped with
    | some ending => exact leaves _ _ _ (.finished rfl)
    | none =>
        have finished : Station.Ends setting around ⟨[], [], after⟩ [] after .completed :=
          .finished rfl
        simpa [Episode.passage] using leaves _ _ _ (.onward rfl finished)

end

/-- A user that is not cancelled gets, turn by turn, to an end if and only if its steps can be
evaluated, and to no other end: the same deeds in the same order, the same session, random
numbers and world, and the same ending. -/
theorem endsAfter_iff_evaluates {World : Type} (setting : Setting) (around : Surroundings World)
    (steps : List Step) (before after : Situation World) (deeds : List Deed) (ending : Ending) :
    (∃ turns,
        Journey.EndsAfter setting around turns (.entering steps before) deeds after ending) ↔
      ∃ stopped, Evaluates setting around [] (.steps steps) before ⟨deeds, after, stopped⟩ ∧
        stopped.getD .completed = ending :=
  Station.ends_iff.trans Station.ends_iff_evaluates

end LoadTest
