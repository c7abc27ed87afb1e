import LoadTest.Proofs.User.Interpretation
import LoadTest.Proofs.User.Place

/-!
Scenarios without their groups.

`ungrouped` puts the steps of every group in the place of the group, at any depth.  A walk with
groups and one without them go side by side (`Regrouped`): their frames are the same but for those
of groups, and what is left of a group lies ahead in the frame around it (`Spliced`).  To enter or
leave a group takes the first walk a turn and the second one none; every other turn is the same for
both (`Regrouped.turn`).
-/

namespace LoadTest

mutual

/-- What stands in the place of a step: the step, or the steps of the group. -/
def Step.spliced : Step → List Step
  | .group _ steps => ungrouped steps
  | .loop kind counter steps => [.loop kind counter (ungrouped steps)]
  | .branch condition steps => [.branch condition (ungrouped steps)]
  | .request asked => [.request asked]
  | .pause rest => [.pause rest]
  | .feed feeder => [.feed feeder]
  | .exec hook => [.exec hook]

def ungrouped : List Step → List Step
  | [] => []
  | step :: steps => step.spliced ++ ungrouped steps

end

namespace Step

variable {step : Step}

theorem exists_spliced (plain : step.groupName? = none) :
    ∃ flatStep, step.spliced = [flatStep] := by
  cases step with
  | group name steps => cases plain
  | _ => exact ⟨_, rfl⟩

theorem exists_steps {name : String} (named : step.groupName? = some name) :
    ∃ steps, step = .group name steps := by
  cases step with
  | group other steps =>
      cases named
      exact ⟨steps, rfl⟩
  | _ => cases named

end Step

/-! ### Frames side by side -/

/-- The frames of a walk with groups and those of the walk without them, innermost first.  Frames of
groups are inside of the first ones, and `ahead` is what is left of their steps. -/
inductive Spliced : List Step → List Frame → List Frame → Prop where
  | left : Spliced [] [] []
  | group {ahead frame outer flat} :
      frame.enclosure = .group →
      Spliced (ahead ++ ungrouped (frame.steps.drop frame.position)) outer flat →
      Spliced ahead (frame :: outer) flat
  | frame {ahead frame outer flatFrame flatOuter} :
      frame.enclosure ≠ .group →
      flatFrame.enclosure = frame.enclosure →
      flatFrame.steps = ungrouped frame.steps →
      flatFrame.steps.drop flatFrame.position =
        ahead ++ ungrouped (frame.steps.drop frame.position) →
      Spliced [] outer flatOuter →
      Spliced ahead (frame :: outer) (flatFrame :: flatOuter)

namespace Spliced

variable {ahead : List Step} {step : Step} {frame : Frame} {outer frames flat : List Frame}

/-- A step that a frame begins lies ahead of its other steps. -/
theorem onward (spliced : Spliced [] (frame :: outer) flat)
    (here : frame.steps[frame.position]? = some step) :
    Spliced step.spliced ({ frame with position := frame.position + 1 } :: outer) flat := by
  have split : ungrouped (frame.steps.drop frame.position) =
      step.spliced ++ ungrouped (frame.steps.drop (frame.position + 1)) := by
    rw [Frame.drop_position here, ungrouped]
  cases spliced with
  | group enclosed around =>
      rw [List.nil_append, split] at around
      exact .group enclosed around
  | frame enclosed same steps there around =>
      rw [List.nil_append, split] at there
      exact .frame enclosed same steps there around

/-- A step that lies ahead is the next one of the walk without groups. -/
theorem next (spliced : Spliced (step :: ahead) frames flat) :
    ∃ frame outer, flat = frame :: outer ∧ frame.steps[frame.position]? = some step ∧
      Spliced ahead frames ({ frame with position := frame.position + 1 } :: outer) := by
  generalize reached : step :: ahead = steps at spliced
  induction spliced generalizing ahead with
  | left => cases reached
  | group enclosed _ inductionHypothesis =>
      obtain ⟨frame, outer, same, there, spliced⟩ :=
        inductionHypothesis (by rw [← reached, List.cons_append])
      exact ⟨frame, outer, same, there, .group enclosed spliced⟩
  | @frame _ _ _ flatFrame flatOuter enclosed same steps there around =>
      rw [← reached, List.cons_append] at there
      obtain ⟨here, _, rest⟩ := Frame.begins_of_drop there
      exact ⟨flatFrame, flatOuter, rfl, here, .frame enclosed same steps rest around⟩

theorem ungrouped_drop_of_end (atEnd : frame.steps[frame.position]? = none) :
    ungrouped (frame.steps.drop frame.position) = [] := by
  rw [List.drop_eq_nil_of_le (List.getElem?_eq_none_iff.1 atEnd), ungrouped]

/-- Without groups nothing shows that a group is left. -/
theorem leave_group (spliced : Spliced [] (frame :: outer) flat)
    (enclosed : frame.enclosure = .group) (atEnd : frame.steps[frame.position]? = none) :
    Spliced [] outer flat := by
  cases spliced with
  | group _ around =>
      rw [ungrouped_drop_of_end atEnd] at around
      exact around
  | frame other => exact absurd enclosed other

/-- Any other frame ends in both walks. -/
theorem leave_frame (spliced : Spliced [] (frame :: outer) flat)
    (enclosed : frame.enclosure ≠ .group) (atEnd : frame.steps[frame.position]? = none) :
    ∃ position flatOuter,
      flat = ⟨ungrouped frame.steps, position, frame.enclosure⟩ :: flatOuter ∧
        (ungrouped frame.steps)[position]? = none ∧ Spliced [] outer flatOuter := by
  cases spliced with
  | group other => exact absurd other enclosed
  | @frame _ _ _ flatFrame flatOuter _ same steps there around =>
      obtain ⟨flatSteps, position, enclosure⟩ := flatFrame
      cases same
      cases steps
      rw [ungrouped_drop_of_end atEnd, List.append_nil] at there
      exact ⟨position, flatOuter, rfl, by simpa using there, around⟩

/-- A step that is no group is opened in both walks. -/
theorem push (spliced : Spliced [] frames flat) {enclosure : Enclosure}
    (enclosed : enclosure ≠ .group) (steps : List Step) :
    Spliced [] (⟨steps, 0, enclosure⟩ :: frames) (⟨ungrouped steps, 0, enclosure⟩ :: flat) :=
  .frame enclosed rfl rfl rfl spliced

end Spliced

/-! ### Walks side by side -/

/-- A walk with groups, and the same walk without them. -/
structure Regrouped (walk flat : Walk) : Prop where
  frames : Spliced [] walk.frames flat.frames
  groups_eq : flat.groups = []
  session_eq : flat.session = walk.session

/-- Both walks come to the same. -/
inductive Turn.Regrouped : Turn → Turn → Prop where
  | finished : Regrouped .finished .finished
  | moved {next flat} : LoadTest.Regrouped next flat → Regrouped (.moved next) (.moved flat)
  | repeated {next flat} :
      LoadTest.Regrouped next flat → Regrouped (.repeated next) (.repeated flat)
  | request {asked next flat} :
      LoadTest.Regrouped next flat → Regrouped (.request asked next) (.request asked flat)
  | pause {rest next flat} :
      LoadTest.Regrouped next flat → Regrouped (.pause rest next) (.pause rest flat)
  | feed {feeder next flat} :
      LoadTest.Regrouped next flat → Regrouped (.feed feeder next) (.feed feeder flat)
  | exec {hook next flat} :
      LoadTest.Regrouped next flat → Regrouped (.exec hook next) (.exec hook flat)
  | crashed {next flat} : LoadTest.Regrouped next flat → Regrouped (.crashed next) (.crashed flat)

mutual

def Step.groupTurns : Step → Nat
  | .group _ steps => groupTurns steps + 2
  | _ => 0

/-- How many turns it takes to enter and leave the groups among some steps, and those in them. -/
def groupTurns : List Step → Nat
  | [] => 0
  | step :: steps => step.groupTurns + groupTurns steps

end

/-- How many turns it can take to get through frames by entering and leaving groups alone. -/
def turnsThrough : List Frame → Nat
  | [] => 0
  | frame :: outer => groupTurns (frame.steps.drop frame.position) + 1 + turnsThrough outer

namespace Regrouped

variable {walk flat : Walk}

/-- A step that is no group begins in both walks. -/
theorem begin {step flatStep : Step} (regrouped : Regrouped walk flat)
    (plain : step.groupName? = none) (same : step.spliced = [flatStep]) :
    Turn.Regrouped (walk.begin step) (flat.begin flatStep) := by
  obtain ⟨frames, groups, session⟩ := walk
  obtain ⟨flatFrames, flatGroups, flatSession⟩ := flat
  obtain ⟨spliced, rfl, rfl⟩ := regrouped
  cases step with
  | group name steps => cases plain
  | request asked =>
      cases same
      exact .request ⟨spliced, rfl, rfl⟩
  | pause rest =>
      cases same
      exact .pause ⟨spliced, rfl, rfl⟩
  | feed feeder =>
      cases same
      exact .feed ⟨spliced, rfl, rfl⟩
  | exec hook =>
      cases same
      exact .exec ⟨spliced, rfl, rfl⟩
  | branch condition steps =>
      cases same
      simp only [Walk.begin]
      split
      · exact .moved ⟨spliced.push (by simp) steps, rfl, rfl⟩
      · exact .moved ⟨spliced, rfl, rfl⟩
      · exact .crashed ⟨spliced, rfl, rfl⟩
  | loop kind counter steps =>
      cases same
      simp only [Walk.begin]
      split
      · exact .moved ⟨spliced.push (by simp) steps, rfl, rfl⟩
      · exact .moved ⟨spliced, rfl, rfl⟩
      · exact .crashed ⟨spliced, rfl, rfl⟩

/-- A frame that is not of a group ends in both walks. -/
theorem leave {frame : Frame} {outer flatOuter : List Frame} {groups : List String}
    {session : Session} {position : Nat}
    (whole : Spliced [] (frame :: outer)
      (⟨ungrouped frame.steps, position, frame.enclosure⟩ :: flatOuter))
    (spliced : Spliced [] outer flatOuter) (enclosed : frame.enclosure ≠ .group) :
    Turn.Regrouped (Walk.leave ⟨frame :: outer, groups, session⟩ frame outer)
      (Walk.leave ⟨⟨ungrouped frame.steps, position, frame.enclosure⟩ :: flatOuter, [], session⟩
        ⟨ungrouped frame.steps, position, frame.enclosure⟩ flatOuter) := by
  obtain ⟨steps, begun, enclosure⟩ := frame
  cases enclosure with
  | root => exact .moved ⟨spliced, rfl, rfl⟩
  | group => exact absurd rfl enclosed
  | branch => exact .moved ⟨spliced, rfl, rfl⟩
  | loop kind counter iteration shadowed =>
      simp only [Walk.leave]
      split
      · exact .repeated ⟨spliced.push (by simp) steps, rfl, rfl⟩
      · exact .moved ⟨spliced, rfl, rfl⟩
      · exact .crashed ⟨whole, rfl, rfl⟩

theorem turn (regrouped : Regrouped walk flat) :
    (∃ next, walk.turn = .moved next ∧ Regrouped next flat ∧
        turnsThrough next.frames < turnsThrough walk.frames) ∨
      Turn.Regrouped walk.turn flat.turn := by
  obtain ⟨frames, groups, session⟩ := walk
  obtain ⟨flatFrames, flatGroups, flatSession⟩ := flat
  obtain ⟨spliced, rfl, rfl⟩ := regrouped
  cases frames with
  | nil =>
      cases spliced
      exact .inr .finished
  | cons frame outer =>
      cases here : frame.steps[frame.position]? with
      | none =>
          by_cases enclosed : frame.enclosure = .group
          · refine .inl ⟨⟨outer, groups.tail, _⟩, ?_, ⟨?_, rfl, rfl⟩, ?_⟩
            · simp [Walk.turn, Walk.leave, here, enclosed]
            · exact spliced.leave_group enclosed here
            · simp only [turnsThrough]
              omega
          · obtain ⟨position, flatOuter, rfl, flatEnd, around⟩ := spliced.leave_frame enclosed here
            simp only [Walk.turn, here, flatEnd]
            exact .inr (leave spliced around enclosed)
      | some step =>
          have onward := spliced.onward here
          cases named : step.groupName? with
          | none =>
              obtain ⟨flatStep, same⟩ := Step.exists_spliced named
              rw [same] at onward
              obtain ⟨flatFrame, flatOuter, rfl, flatHere, spliced⟩ := onward.next
              simp only [Walk.turn, here, flatHere]
              exact .inr (begin ⟨spliced, rfl, rfl⟩ named same)
          | some name =>
              obtain ⟨steps, rfl⟩ := Step.exists_steps named
              refine .inl ⟨⟨⟨steps, 0, .group⟩ :: { frame with position := frame.position + 1 } ::
                outer, name :: groups, _⟩, ?_, ⟨.group rfl onward, rfl, rfl⟩, ?_⟩
              · simp [Walk.turn, Walk.begin, Walk.push, here]
              · simp only [turnsThrough, Frame.drop_position here, List.drop_zero, groupTurns,
                  Step.groupTurns]
                omega

end Regrouped

end LoadTest
