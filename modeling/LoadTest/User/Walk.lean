import LoadTest.Scenario.Basic

/-!
A user's walk through a scenario.

The walk keeps a stack of frames, one for each step it is inside of, and the names of the
groups among them.  `Walk.turn` is one turn of it: it enters and leaves steps on its own
and stops in front of whatever needs the outside.
-/

namespace LoadTest

/-- What the steps of a frame are the inside of. -/
inductive Enclosure where
  | root
  | group
  | branch
  /-- A loop remembers what its counter variable held before it. -/
  | loop (kind : LoopKind) (counter : String) (iteration : UInt64) (shadowed : Option Json)

structure Frame where
  steps : List Step
  /-- How many of the steps were begun. -/
  position : Nat
  enclosure : Enclosure

structure Walk where
  /-- Innermost first. -/
  frames : List Frame
  /-- Names of the groups around the next step, innermost first. -/
  groups : List String
  session : Session

/-- What the next turn of a walk comes to, and the walk as it goes on from there. -/
inductive Turn where
  | finished
  /-- A step was entered, passed over or left. -/
  | moved (next : Walk)
  /-- A loop went into one more iteration. -/
  | repeated (next : Walk)
  | request (request : Request) (next : Walk)
  | pause (pause : Pause) (next : Walk)
  | feed (feeder : String) (next : Walk)
  | exec (hook : Hook) (next : Walk)
  /-- A condition crashed the user. -/
  | crashed (next : Walk)

namespace Walk

def start (userId : Nat) (steps : List Step) : Walk :=
  ⟨[⟨steps, 0, .root⟩], [], .forUser userId⟩

/-- The path from the root to the step begun last: an index for each frame, outermost first. -/
def pointer (walk : Walk) : List Nat := (walk.frames.map (·.position - 1)).reverse

def push (walk : Walk) (steps : List Step) (enclosure : Enclosure) : Walk :=
  { walk with frames := ⟨steps, 0, enclosure⟩ :: walk.frames }

/-- Begins a step; the frame it belongs to has already moved on. -/
def begin (walk : Walk) : Step → Turn
  | .request request => .request request walk
  | .pause pause => .pause pause walk
  | .feed feeder => .feed feeder walk
  | .exec hook => .exec hook walk
  | .group name steps =>
      .moved { walk.push steps .group with groups := name :: walk.groups }
  | .branch condition steps =>
      match condition.holds? walk.session with
      | some true => .moved (walk.push steps .branch)
      | some false => .moved walk
      | none => .crashed walk
  | .loop kind counter steps =>
      match kind.continues? walk.session 0 with
      | some true =>
          .moved
            { walk.push steps (.loop kind counter 0 (walk.session.get? counter)) with
              session := walk.session.set counter (Json.ofNat 0) }
      | some false => .moved walk
      | none => .crashed walk

section

variable {walk : Walk} {condition : Condition} {kind : LoopKind} {counter : String}
  {steps : List Step}

theorem begin_branch (holds : condition.holds? walk.session = some true) :
    walk.begin (.branch condition steps) = .moved (walk.push steps .branch) := by
  simp only [begin, holds]

theorem begin_branch_not (fails : condition.holds? walk.session = some false) :
    walk.begin (.branch condition steps) = .moved walk := by
  simp only [begin, fails]

theorem begin_branch_crashed (crashes : condition.holds? walk.session = none) :
    walk.begin (.branch condition steps) = .crashed walk := by
  simp only [begin, crashes]

theorem begin_loop (continues : kind.continues? walk.session 0 = some true) :
    walk.begin (.loop kind counter steps) =
      .moved
        { walk.push steps (.loop kind counter 0 (walk.session.get? counter)) with
          session := walk.session.set counter (Json.ofNat 0) } := by
  simp only [begin, continues]

theorem begin_loop_not (stops : kind.continues? walk.session 0 = some false) :
    walk.begin (.loop kind counter steps) = .moved walk := by
  simp only [begin, stops]

theorem begin_loop_crashed (crashes : kind.continues? walk.session 0 = none) :
    walk.begin (.loop kind counter steps) = .crashed walk := by
  simp only [begin, crashes]

end

/-- Comes to the end of a frame that `outer` frames are around. -/
def leave (walk : Walk) (frame : Frame) (outer : List Frame) : Turn :=
  match frame.enclosure with
  | .root => .moved { walk with frames := outer }
  | .branch => .moved { walk with frames := outer }
  | .group => .moved { walk with frames := outer, groups := walk.groups.tail }
  | .loop kind counter iteration shadowed =>
      match kind.continues? walk.session (iteration + 1) with
      | some true =>
          .repeated
            { walk with
              frames := ⟨frame.steps, 0, .loop kind counter (iteration + 1) shadowed⟩ :: outer
              session := walk.session.set counter (Json.ofNat (iteration + 1).toNat) }
      | some false =>
          .moved { walk with frames := outer, session := walk.session.restore counter shadowed }
      | none => .crashed walk

def turn (walk : Walk) : Turn :=
  match walk.frames with
  | [] => .finished
  | frame :: outer =>
      match frame.steps[frame.position]? with
      | none => walk.leave frame outer
      | some step =>
          { walk with frames := { frame with position := frame.position + 1 } :: outer }.begin step

end Walk

end LoadTest
