import LoadTest.Proofs.User.Origin

/-!
The frames of a user and the tree of its scenario.

Wherever a user comes, each of its frames holds the inside of the step that the frame around it
began last, and the groups among these steps are the ones whose names it keeps (`Walk.Stacked`).  So
there is an index for every frame when a step is begun, and the path of these indices leads from the
scenario to the step (`Walk.Within.onward`).
-/

namespace LoadTest

/-- The name of the group that a frame is the inside of, read in the frame around it. -/
def Frame.groupName? (frame around : Frame) : Option String :=
  match frame.enclosure with
  | .group => around.steps[around.position - 1]?.bind Step.groupName?
  | _ => none

/-- The names of the groups that frames are the inside of, outermost first. -/
def groupNames : List Frame → List String
  | frame :: around :: outer => groupNames (around :: outer) ++ (frame.groupName? around).toList
  | _ => []

namespace Walk

/-- The frames of a walk, innermost first, go down the tree of these steps. -/
structure Stacked (root : List Step) (walk : Walk) : Prop where
  outermost : ∀ frame, walk.frames.getLast? = some frame →
    frame.steps = root ∧ frame.enclosure = .root
  /-- Around the innermost frame, every frame has begun a step, and no more than it has. -/
  begun : ∀ level frame, walk.frames[level + 1]? = some frame →
    1 ≤ frame.position ∧ frame.position ≤ frame.steps.length
  inside : ∀ level frame around, walk.frames[level]? = some frame →
    walk.frames[level + 1]? = some around →
    ∃ step, around.steps[around.position - 1]? = some step ∧ frame.steps = step.children ∧
      step.Opens frame.enclosure
  groups_eq : walk.groups.reverse = groupNames walk.frames

/-- The path to the step begun last, if every frame has begun one. -/
def pointer? (walk : Walk) : Option (List Nat) :=
  walk.frames.reverse.mapM fun frame =>
    if frame.position = 0 then none else some (frame.position - 1)

/-- The walk when it has moved on to its next step and not yet begun it. -/
def onward (walk : Walk) : Walk :=
  match walk.frames with
  | [] => walk
  | frame :: outer => { walk with frames := { frame with position := frame.position + 1 } :: outer }

theorem turn_eq_begin {walk : Walk} {step : Step} (begins : walk.step? = some step) :
    walk.turn = walk.onward.begin step := by
  obtain ⟨frames, groups, session⟩ := walk
  cases frames with
  | nil => cases begins
  | cons frame outer =>
      have here : frame.steps[frame.position]? = some step := begins
      simp only [turn, onward, here]

theorem mapM_index {frames : List Frame} (begun : ∀ frame ∈ frames, 1 ≤ frame.position) :
    (frames.mapM fun frame => if frame.position = 0 then none else some (frame.position - 1)) =
      some (frames.map (·.position - 1)) := by
  induction frames with
  | nil => rfl
  | cons frame frames inductionHypothesis =>
      obtain ⟨first, later⟩ := List.forall_mem_cons.1 begun
      simp [List.mapM_cons, inductionHypothesis later, Nat.ne_of_gt first]

theorem pointer?_eq {walk : Walk} (begun : ∀ frame ∈ walk.frames, 1 ≤ frame.position) :
    walk.pointer? = some walk.pointer := by
  rw [pointer?, pointer, ← List.map_reverse]
  exact mapM_index fun frame among => begun frame (List.mem_reverse.1 among)

end Walk

namespace Nested

variable {root : List Step} {frames : List Frame} {groups : List String}

theorem steps_getLast (nested : Nested root frames groups) {frame : Frame}
    (last : frames.getLast? = some frame) : frame.steps = root ∧ frame.enclosure = .root := by
  induction nested with
  | left => cases last
  | root same enclosed =>
      cases last
      exact ⟨same, enclosed⟩
  | inside _ _ _ _ _ inductionHypothesis => exact inductionHypothesis (by simpa using last)

theorem inside_step (nested : Nested root frames groups) {level : Nat} {frame around : Frame}
    (here : frames[level]? = some frame) (there : frames[level + 1]? = some around) :
    1 ≤ around.position ∧ ∃ step, around.steps[around.position - 1]? = some step ∧
      frame.steps = step.children ∧ step.Opens frame.enclosure := by
  induction nested generalizing level with
  | left => cases here
  | root => simp at there
  | inside _ begun began same opens inductionHypothesis =>
      cases level with
      | zero =>
          cases here
          cases there
          exact ⟨begun, _, began, same, opens⟩
      | succ level => exact inductionHypothesis here there

theorem groupNames_eq (nested : Nested root frames groups) : groups.reverse = groupNames frames := by
  induction nested with
  | left => rfl
  | root => rfl
  | @inside frame around outer groups step _ _ began _ opens inductionHypothesis =>
      have named : frame.groupName? around = step.groupName? := by
        unfold Frame.groupName?
        generalize frame.enclosure = enclosure at opens
        cases opens with
        | group => simp only [began, Option.bind_some]
        | branch => rfl
        | loop => rfl
      rw [groupNames, named, ← inductionHypothesis, List.reverse_append]
      cases step.groupName? <;> rfl

/-- A frame around another one has begun the step that this one is the inside of. -/
theorem position_bounds (nested : Nested root frames groups) {level : Nat} {around : Frame}
    (there : frames[level + 1]? = some around) :
    1 ≤ around.position ∧ around.position ≤ around.steps.length := by
  obtain ⟨within, _⟩ := List.getElem?_eq_some_iff.1 there
  obtain ⟨begun, step, began, _⟩ :=
    nested.inside_step (List.getElem?_eq_getElem (Nat.lt_of_succ_lt within)) there
  obtain ⟨inside, _⟩ := List.getElem?_eq_some_iff.1 began
  exact ⟨begun, by omega⟩

end Nested

namespace Walk

variable {root : List Step} {walk : Walk}

theorem Within.stacked (within : walk.Within root) : walk.Stacked root where
  outermost _ last := Nested.steps_getLast within last
  begun _ _ there := Nested.position_bounds within there
  inside _ _ _ here there := (Nested.inside_step within here there).2
  groups_eq := Nested.groupNames_eq within

/-- Every frame of a walk that moves on to a step has begun one, and the path of all these steps
leads to the one that it moves on to. -/
theorem Within.onward (within : walk.Within root) {step : Step} (begins : walk.step? = some step) :
    walk.onward.pointer? = some walk.onward.pointer ∧
      locate root walk.onward.pointer = some (walk.groups.reverse, step) := by
  obtain ⟨frames, groups, session⟩ := walk
  cases frames with
  | nil => cases begins
  | cons frame outer =>
      have here : frame.steps[frame.position]? = some step := begins
      have moved : Nested root ({ frame with position := frame.position + 1 } :: outer) groups :=
        Nested.move within _
      refine ⟨pointer?_eq fun other among => ?_, moved.locate_pointer here⟩
      obtain rfl | further := List.mem_cons.1 among
      · exact Nat.succ_pos _
      · obtain ⟨level, there⟩ := List.getElem?_of_mem further
        have bounds := moved.position_bounds (show _[level + 1]? = some other from there)
        exact bounds.1

end Walk

namespace Journey

variable {World : Type} {setting : Setting} {around : Surroundings World}

/-- Wherever a user comes, its frames go down the tree of its scenario and the names that it keeps
are those of the groups among them.  When it begins a step, there is an index for each frame, and
these indices lead from the scenario to just that step. -/
theorem frames_follow_tree {id : Nat} {random : Random} {steps : List Step} {world : World}
    {journey : Journey World}
    (reachable : Reachable setting around (start (.start id random steps) world) journey) :
    journey.user.walk.Stacked steps ∧
    ∀ step, journey.user.walk.step? = some step →
      journey.user.walk.turn = journey.user.walk.onward.begin step ∧
      journey.user.walk.onward.pointer? = some journey.user.walk.onward.pointer ∧
      locate steps journey.user.walk.onward.pointer =
        some (journey.user.walk.groups.reverse, step) := by
  have within := (reachable.belongs (User.belongs_start id random steps)).within.walk
  exact ⟨within.stacked, fun step begins => ⟨Walk.turn_eq_begin begins, within.onward begins⟩⟩

/-- Two laps through a shop. -/
def tour : List Step := [.loop (.times 2) "lap" [.group "shop" [.exec (.look "till")]]]

theorem frames_follow_tree_tour :
    let setting : Setting := ⟨.stopUser, ⟨"http://localhost", []⟩⟩
    let beginning : Journey Nat := start (.start 7 (.ofSeed 0) tour) 0
    -- It is in the shop for the second time.
    let journey := (step setting slowly none)^[6] beginning
    Reachable setting slowly beginning journey ∧ journey.user.walk.frames.length = 3 ∧
      journey.user.walk.step? = some (.exec (.look "till")) ∧
      journey.user.walk.onward.pointer? = some [0, 0, 0] ∧
      locate tour [0, 0, 0] = some (["shop"], .exec (.look "till")) := by
  intro setting beginning journey
  have reachable : Reachable setting slowly beginning journey :=
    reachable_iterate setting slowly beginning 6
  have begins : journey.user.walk.step? = some (.exec (.look "till")) := rfl
  obtain ⟨_, leads⟩ := frames_follow_tree reachable
  obtain ⟨_, indices, located⟩ := leads _ begins
  exact ⟨reachable, rfl, begins, indices, located⟩

end Journey

end LoadTest
