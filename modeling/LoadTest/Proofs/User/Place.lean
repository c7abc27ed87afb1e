import LoadTest.Proofs.User.Journey

/-!
Where a user is in its scenario.

A pointer has an index for each level of steps, and `locate` follows it inwards.  The frames of a
walk are `Nested`: each holds the inside of the step that the frame around it began last.  So the
pointer of a walk leads to the step begun last, and the groups around that step are the ones whose
names the walk keeps (`Nested.locate_pointer`); every turn keeps it so (`Walk.Within.turn`).
-/

namespace LoadTest

namespace Step

/-- The name that a step puts in front of the names of its steps. -/
def groupName? : Step → Option String
  | .group name _ => some name
  | _ => none

/-- A frame of this kind holds the inside of a step. -/
inductive Opens : Step → Enclosure → Prop where
  | group {name steps} : Opens (.group name steps) .group
  | branch {condition steps} : Opens (.branch condition steps) .branch
  | loop {kind counter steps iteration shadowed} :
      Opens (.loop kind counter steps) (.loop kind counter iteration shadowed)

end Step

/-- The step at the end of a path, and the names of the groups around it, outermost first. -/
def locate : List Step → List Nat → Option (List String × Step)
  | _, [] => none
  | steps, index :: path =>
      steps[index]?.bind fun step =>
        if path.isEmpty then some ([], step)
        else
          (locate step.children path).map fun (groups, inner) =>
            (step.groupName?.toList ++ groups, inner)

theorem locate_concat {steps : List Step} {path : List Nat} {groups : List String} {step : Step}
    (found : locate steps path = some (groups, step)) (index : Nat) :
    locate steps (path ++ [index]) =
      step.children[index]?.map (groups ++ step.groupName?.toList, ·) := by
  induction path generalizing steps groups with
  | nil => cases found
  | cons first path inductionHypothesis =>
      obtain ⟨outer, there, found⟩ := Option.bind_eq_some_iff.1 found
      cases path with
      | nil =>
          cases found
          cases inside : step.children[index]? <;> simp [locate, there, inside]
      | cons second path =>
          obtain ⟨⟨names, inner⟩, foundInside, same⟩ := Option.map_eq_some_iff.1 found
          cases same
          have further := inductionHypothesis foundInside
          rw [List.cons_append, locate, there, Option.bind_some, further]
          simp [Function.comp_def]

/-- The names of the groups around a frame, given those around its steps. -/
def Enclosure.around (groups : List String) : Enclosure → List String
  | .group => groups.tail
  | _ => groups

/-- Frames in each other, innermost first, and the names of the groups among them. -/
inductive Nested (root : List Step) : List Frame → List String → Prop where
  /-- The scenario was left. -/
  | left : Nested root [] []
  | root {frame} : frame.steps = root → frame.enclosure = .root → Nested root [frame] []
  | inside {frame around outer groups step} :
      Nested root (around :: outer) groups →
      0 < around.position →
      around.steps[around.position - 1]? = some step →
      frame.steps = step.children →
      step.Opens frame.enclosure →
      Nested root (frame :: around :: outer) (step.groupName?.toList ++ groups)

namespace Nested

variable {root : List Step} {frame : Frame} {outer : List Frame} {groups : List String}

theorem move (nested : Nested root (frame :: outer) groups) (position : Nat) :
    Nested root ({ frame with position } :: outer) groups := by
  cases nested with
  | root same enclosed => exact .root same enclosed
  | inside nested begun there same opens => exact .inside nested begun there same opens

theorem again {kind : LoopKind} {counter : String} {iteration : UInt64} {shadowed : Option Json}
    (nested : Nested root (frame :: outer) groups)
    (enclosed : frame.enclosure = .loop kind counter iteration shadowed) (position : Nat)
    (next : UInt64) :
    Nested root (⟨frame.steps, position, .loop kind counter next shadowed⟩ :: outer) groups := by
  cases nested with
  | root _ root => cases root.symm.trans enclosed
  | inside nested begun there same opens =>
      rw [enclosed] at opens
      cases opens with
      | loop => exact .inside nested begun there same .loop

/-- What is around a frame is nested as well. -/
theorem outward (nested : Nested root (frame :: outer) groups) :
    Nested root outer (frame.enclosure.around groups) := by
  cases nested with
  | root _ enclosed =>
      rw [enclosed]
      exact .left
  | inside nested _ _ _ opens =>
      generalize frame.enclosure = enclosure at opens
      cases opens with
      | group => exact nested
      | branch => exact nested
      | loop => exact nested

theorem locate_pointer (nested : Nested root (frame :: outer) groups) {step : Step}
    (here : frame.steps[frame.position - 1]? = some step) :
    locate root ((frame :: outer).map (·.position - 1)).reverse = some (groups.reverse, step) := by
  generalize reached : frame :: outer = frames at nested
  induction nested generalizing frame outer step with
  | left => cases reached
  | root same =>
      cases reached
      simp [locate, ← same, here]
  | inside nested _ there same _ inductionHypothesis =>
      cases reached
      rw [List.map_cons, List.reverse_cons, locate_concat (inductionHypothesis there rfl),
        ← same, here, List.reverse_append]
      cases Step.groupName? _ <;> rfl

end Nested

/-! ### Turns of a walk -/

variable {root : List Step} {walk : Walk}

namespace Walk

/-- The walk goes through these steps. -/
def Within (root : List Step) (walk : Walk) : Prop := Nested root walk.frames walk.groups

/-- The step that the walk began last. -/
def At (root : List Step) (walk : Walk) (step : Step) : Prop :=
  locate root walk.pointer = some (walk.groups.reverse, step)

end Walk

/-- What comes of a turn goes through these steps, and what needs the outside is the step that the
walk began last. -/
def Turn.Within (root : List Step) : Turn → Prop
  | .finished => True
  | .moved next => next.Within root
  | .repeated next => next.Within root
  | .request asked next => next.Within root ∧ next.At root (.request asked)
  | .pause rest next => next.Within root ∧ next.At root (.pause rest)
  | .feed feeder next => next.Within root ∧ next.At root (.feed feeder)
  | .exec hook next => next.Within root ∧ next.At root (.exec hook)
  | .crashed next => next.Within root

namespace Walk

theorem Within.begin {frame : Frame} {outer : List Frame} {step : Step}
    (within : walk.Within root) (framed : walk.frames = frame :: outer)
    (begun : 0 < frame.position) (here : frame.steps[frame.position - 1]? = some step) :
    (walk.begin step).Within root := by
  obtain ⟨frames, groups, session⟩ := walk
  cases framed
  have reached : At root ⟨frame :: outer, groups, session⟩ step := within.locate_pointer here
  -- Whatever is opened is nested in the frame that has just moved on.
  have opened : ∀ enclosure position, step.Opens enclosure →
      Nested root (⟨step.children, position, enclosure⟩ :: frame :: outer)
        (step.groupName?.toList ++ groups) :=
    fun enclosure position opens => .inside within begun here rfl opens
  cases step with
  | request request => exact ⟨within, reached⟩
  | pause pause => exact ⟨within, reached⟩
  | feed feeder => exact ⟨within, reached⟩
  | exec hook => exact ⟨within, reached⟩
  | group name steps => exact opened .group 0 .group
  | branch condition steps =>
      simp only [Walk.begin]
      split
      · exact opened .branch 0 .branch
      · exact within
      · exact within
  | loop kind counter steps =>
      simp only [Walk.begin]
      split
      · exact opened _ 0 .loop
      · exact within
      · exact within

theorem Within.leave {frame : Frame} {outer : List Frame} (within : walk.Within root)
    (framed : walk.frames = frame :: outer) : (walk.leave frame outer).Within root := by
  obtain ⟨frames, groups, session⟩ := walk
  cases framed
  have around := Nested.outward within
  unfold Walk.leave
  split
  next enclosed =>
    rw [enclosed] at around
    exact around
  next enclosed =>
    rw [enclosed] at around
    exact around
  next enclosed =>
    rw [enclosed] at around
    exact around
  next kind counter iteration shadowed enclosed =>
    rw [enclosed] at around
    split
    · exact Nested.again within enclosed 0 _
    · exact around
    · exact within

/-- A walk through a scenario stays in it, and what it comes to is where its pointer leads. -/
theorem Within.turn (within : walk.Within root) : walk.turn.Within root := by
  obtain ⟨frames, groups, session⟩ := walk
  unfold Walk.turn
  cases frames with
  | nil => trivial
  | cons frame outer =>
      cases here : frame.steps[frame.position]? with
      | none => simpa [here] using within.leave rfl
      | some step =>
          have moved : Within root
              ⟨{ frame with position := frame.position + 1 } :: outer, groups, session⟩ :=
            Nested.move within _
          simpa [here] using moved.begin rfl (Nat.succ_pos _) here

end Walk

end LoadTest
