import LoadTest.Proofs.User.Frames
import LoadTest.Proofs.User.Origin

/-!
What is left to be done on a walk.

Where every loop has a number of rounds, a tariff for turns puts a price on all of a scenario
(`efforts`) and on all that is left of it within the frames of a walk (`effortWithin`).  Each turn
takes its own price off, and what it passes over (`Walk.effort_turn`); so what was spent and what
is left always add up to the price of the scenario.
-/

namespace LoadTest

/-- All loops in these steps have a number of rounds. -/
def OnlyRepeats (steps : List Step) : Prop :=
  ∀ kind counter inner, (Step.loop kind counter inner).Inside steps → ∃ count, kind = .times count

/-- How many rounds a loop has, if it has a number of them. -/
def LoopKind.rounds : LoopKind → Nat
  | .times count => count.toNat
  | _ => 0

/-! ### Rounds -/

/-- A loop is in one of its rounds. -/
def Enclosure.InRange : Enclosure → Prop
  | .loop (.times count) _ iteration _ => iteration < count
  | _ => True

/-- All loops that a walk is in are in one of their rounds. -/
def Walk.InRange (walk : Walk) : Prop := ∀ frame ∈ walk.frames, frame.enclosure.InRange

theorem toNat_next_of_lt {iteration count : UInt64} (continues : iteration < count) :
    (iteration + 1).toNat = iteration.toNat + 1 := by
  have below := UInt64.lt_iff_toNat_lt.1 continues
  have fits := count.toNat_lt
  rw [UInt64.toNat_add]
  exact Nat.mod_eq_of_lt (by simp only [UInt64.toNat_one]; omega)

theorem LoopKind.inRange_of_continues {kind : LoopKind} {session : Session} {iteration : UInt64}
    (continues : kind.continues? session iteration = some true) (counter : String)
    (shadowed : Option Json) : (Enclosure.loop kind counter iteration shadowed).InRange := by
  cases kind with
  | times count =>
      have below : iteration < count := by simpa [LoopKind.continues?] using continues
      exact below
  | _ => trivial

namespace Walk.InRange

variable {walk : Walk} {frame : Frame} {outer : List Frame}

theorem begin (inRange : walk.InRange) (step : Step) :
    ((walk.begin step).next walk).InRange := by
  cases step with
  | group name steps => exact List.forall_mem_cons.2 ⟨trivial, inRange⟩
  | branch condition steps =>
      simp only [Walk.begin]
      split
      · exact List.forall_mem_cons.2 ⟨trivial, inRange⟩
      · exact inRange
      · exact inRange
  | loop kind counter steps =>
      simp only [Walk.begin]
      split
      next continues =>
        exact List.forall_mem_cons.2 ⟨LoopKind.inRange_of_continues continues counter _, inRange⟩
      · exact inRange
      · exact inRange
  | _ => exact inRange

theorem leave (inRange : walk.InRange) (framed : walk.frames = frame :: outer) :
    ((walk.leave frame outer).next walk).InRange := by
  have around : ∀ other ∈ outer, other.enclosure.InRange := by
    intro other among
    exact inRange other (framed ▸ List.mem_cons_of_mem _ among)
  unfold Walk.leave
  split
  · exact around
  · exact around
  · exact around
  · split
    next continues =>
      exact List.forall_mem_cons.2 ⟨LoopKind.inRange_of_continues continues _ _, around⟩
    · exact around
    · exact inRange

theorem turn (inRange : walk.InRange) : (walk.turn.next walk).InRange := by
  cases framed : walk.frames with
  | nil =>
      simp only [Walk.turn, framed, Turn.next]
      exact inRange
  | cons frame outer =>
      cases here : frame.steps[frame.position]? with
      | none =>
          rw [next_turn_of_leave framed here]
          exact inRange.leave framed
      | some step =>
          have among : ∀ other ∈ frame :: outer, other.enclosure.InRange := framed ▸ inRange
          have moved : Walk.InRange
              { walk with frames := { frame with position := frame.position + 1 } :: outer } :=
            List.forall_mem_cons.2 (List.forall_mem_cons.1 among)
          rw [next_turn_of_begin framed here]
          exact moved.begin step

end Walk.InRange

/-! ### Tariffs -/

/-- What a turn is charged for. -/
structure Tariff where
  request : Nat
  /-- For a pause, a draw or a hook. -/
  other : Nat
  /-- For coming to a step with steps inside, or to the end of these. -/
  move : Nat

variable {tariff : Tariff}

/-- What is charged for beginning a step. -/
def Tariff.price (tariff : Tariff) : Step → Nat
  | .request _ => tariff.request
  | .pause _ => tariff.other
  | .feed _ => tariff.other
  | .exec _ => tariff.other
  | .loop .. => tariff.move
  | .group .. => tariff.move
  | .branch .. => tariff.move

mutual

/-- What is charged for a step and all that is inside it. -/
def Step.effort (tariff : Tariff) : Step → Nat
  | .request _ => tariff.request
  | .pause _ => tariff.other
  | .feed _ => tariff.other
  | .exec _ => tariff.other
  | .group _ steps => tariff.move + (efforts tariff steps + tariff.move)
  | .branch _ steps => tariff.move + (efforts tariff steps + tariff.move)
  | .loop kind _ steps => tariff.move + kind.rounds * (efforts tariff steps + tariff.move)

def efforts (tariff : Tariff) : List Step → Nat
  | [] => 0
  | step :: steps => step.effort tariff + efforts tariff steps

end

/-- The rounds that come after the one that a loop is in. -/
def Enclosure.roundsAhead : Enclosure → Nat
  | .loop kind _ iteration _ => kind.rounds - (iteration.toNat + 1)
  | _ => 0

/-- What is charged for the rest of a frame. -/
def Frame.effort (tariff : Tariff) (frame : Frame) : Nat :=
  efforts tariff (frame.steps.drop frame.position) + tariff.move +
    frame.enclosure.roundsAhead * (efforts tariff frame.steps + tariff.move)

/-- What is charged for all that is left within frames. -/
def effortWithin (tariff : Tariff) : List Frame → Nat
  | [] => 0
  | frame :: outer => frame.effort tariff + effortWithin tariff outer

theorem efforts_drop {steps : List Step} {position : Nat} {step : Step}
    (here : steps[position]? = some step) :
    efforts tariff (steps.drop position) =
      step.effort tariff + efforts tariff (steps.drop (position + 1)) := by
  obtain ⟨within, rfl⟩ := List.getElem?_eq_some_iff.1 here
  rw [List.drop_eq_getElem_cons within, efforts]

theorem Frame.effort_eq {frame : Frame} {step : Step}
    (here : frame.steps[frame.position]? = some step) :
    frame.effort tariff = step.effort tariff +
      ({ frame with position := frame.position + 1 } : Frame).effort tariff := by
  simp only [Frame.effort, efforts_drop here]
  omega

/-- At the end of a frame only the move out of it and further rounds are left. -/
theorem Frame.effort_of_end {frame : Frame} (done : frame.steps[frame.position]? = none) :
    frame.effort tariff =
      tariff.move + frame.enclosure.roundsAhead * (efforts tariff frame.steps + tariff.move) := by
  have nothing : frame.steps.drop frame.position = [] :=
    List.drop_eq_nil_of_le (List.getElem?_eq_none_iff.1 done)
  rw [Frame.effort, nothing, efforts, Nat.zero_add]

/-- Steps that are gone through once. -/
theorem effort_of_block (tariff : Tariff) (steps : List Step) (enclosure : Enclosure)
    (once : enclosure.roundsAhead = 0) :
    (⟨steps, 0, enclosure⟩ : Frame).effort tariff = efforts tariff steps + tariff.move := by
  rw [Frame.effort, List.drop_zero, once, Nat.zero_mul, Nat.add_zero]

/-- Going into a round, a loop has that round and those after it ahead. -/
theorem effort_of_round (tariff : Tariff) (steps : List Step) {count iteration : UInt64}
    (counter : String) (shadowed : Option Json) (continues : iteration < count) :
    (⟨steps, 0, .loop (.times count) counter iteration shadowed⟩ : Frame).effort tariff =
      (count.toNat - iteration.toNat) * (efforts tariff steps + tariff.move) := by
  have below := UInt64.lt_iff_toNat_lt.1 continues
  have ahead : count.toNat - iteration.toNat = count.toNat - (iteration.toNat + 1) + 1 := by omega
  rw [ahead, Nat.succ_mul, Frame.effort, List.drop_zero]
  simp only [Enclosure.roundsAhead, LoopKind.rounds]
  omega

/-- What a turn passes over that begins a step: the inside of a branch whose condition does not
hold. -/
def Step.passed (tariff : Tariff) (session : Session) : Step → Nat
  | .branch condition steps =>
      if condition.holds? session = some true then 0 else efforts tariff steps + tariff.move
  | _ => 0

namespace Walk

/-- What is charged for the next turn of a walk within frames. -/
def charge (tariff : Tariff) (walk : Walk) : Nat :=
  match walk.step? with
  | some step => tariff.price step
  | none => tariff.move

/-- What the next turn of a walk passes over. -/
def passed (tariff : Tariff) (walk : Walk) : Nat :=
  match walk.step? with
  | some step => step.passed tariff walk.session
  | none => 0

variable {walk : Walk} {frame : Frame} {outer : List Frame} {root : List Step}

/-- A step is charged for when it is begun, but for what is then inside the frames. -/
theorem effort_begin (tariff : Tariff) (walk : Walk) {step : Step}
    (repeats : ∀ kind counter inner, step = .loop kind counter inner →
      ∃ count, kind = .times count) :
    step.effort tariff + effortWithin tariff walk.frames =
      tariff.price step + step.passed tariff walk.session +
        effortWithin tariff ((walk.begin step).next walk).frames := by
  cases step with
  | request request => rfl
  | pause pause => rfl
  | feed feeder => rfl
  | exec hook => rfl
  | group name steps =>
      have inside := effort_of_block tariff steps .group rfl
      simp only [begin, push, Turn.next, effortWithin, inside, Step.effort, Tariff.price,
        Step.passed, Nat.add_zero, Nat.add_assoc]
  | branch condition steps =>
      have inside := effort_of_block tariff steps .branch rfl
      simp only [begin]
      split
      next holds =>
        simp only [push, holds, if_true, Turn.next, effortWithin, inside, Step.effort,
          Tariff.price, Step.passed, Nat.add_zero, Nat.add_assoc]
      next holds =>
        simp only [holds, Turn.next, Step.effort, Tariff.price, Step.passed]
        rfl
      next holds =>
        simp only [holds, Turn.next, Step.effort, Tariff.price, Step.passed]
        rfl
  | loop kind counter steps =>
      obtain ⟨count, rfl⟩ := repeats kind counter steps rfl
      by_cases continues : 0 < count
      · have rounds :=
          effort_of_round tariff steps counter (walk.session.get? counter) continues
        simp only [begin, push, LoopKind.continues?, continues, decide_true, Turn.next,
          effortWithin, rounds, Step.effort, Tariff.price, Step.passed, LoopKind.rounds,
          UInt64.toNat_zero, Nat.sub_zero, Nat.add_zero, Nat.add_assoc]
      · have none : count.toNat = 0 := by
          rw [UInt64.lt_iff_toNat_lt, UInt64.toNat_zero] at continues
          omega
        simp only [begin, LoopKind.continues?, continues, decide_false, Turn.next, Step.effort,
          Tariff.price, Step.passed, LoopKind.rounds, none, Nat.zero_mul]

theorem effort_leave (framed : walk.frames = frame :: outer)
    (done : frame.steps[frame.position]? = none) (inRange : frame.enclosure.InRange)
    (repeats : ∀ kind counter iteration shadowed,
      frame.enclosure = .loop kind counter iteration shadowed → ∃ count, kind = .times count) :
    effortWithin tariff walk.frames =
      walk.charge tariff + walk.passed tariff +
        effortWithin tariff (walk.turn.next walk).frames := by
  obtain ⟨frames, groups, session⟩ := walk
  cases framed
  simp only [effortWithin, Frame.effort_of_end done, charge, passed, step?, turn, done, leave]
  cases enclosed : frame.enclosure with
  | root => simp [Enclosure.roundsAhead, Turn.next]
  | branch => simp [Enclosure.roundsAhead, Turn.next]
  | group => simp [Enclosure.roundsAhead, Turn.next]
  | loop kind counter iteration shadowed =>
      obtain ⟨count, rfl⟩ := repeats kind counter iteration shadowed enclosed
      rw [enclosed] at inRange
      have next := toNat_next_of_lt inRange
      by_cases continues : iteration + 1 < count
      · have round := effort_of_round tariff frame.steps counter shadowed continues
        simp [LoopKind.continues?, continues, Turn.next, effortWithin, round, next,
          Enclosure.roundsAhead, LoopKind.rounds, Nat.add_assoc]
      · have none : count.toNat - (iteration.toNat + 1) = 0 := by
          rw [UInt64.lt_iff_toNat_lt, next] at continues
          omega
        simp [LoopKind.continues?, continues, Turn.next, Enclosure.roundsAhead, LoopKind.rounds,
          none]

/-- Every turn takes off what it is charged for and what it passes over. -/
theorem effort_turn (within : walk.Within root) (inRange : walk.InRange)
    (repeats : OnlyRepeats root) (framed : walk.frames = frame :: outer) :
    effortWithin tariff walk.frames =
      walk.charge tariff + walk.passed tariff +
        effortWithin tariff (walk.turn.next walk).frames := by
  have among : frame ∈ walk.frames := by simp [framed]
  cases here : frame.steps[frame.position]? with
  | some step =>
      have counted : ∀ kind counter inner, step = .loop kind counter inner →
          ∃ count, kind = .times count := by
        rintro kind counter inner rfl
        have inside := Nested.steps_inside within among _ (List.mem_of_getElem? here)
        exact repeats kind counter inner inside
      have begun := effort_begin tariff
        { walk with frames := { frame with position := frame.position + 1 } :: outer } counted
      have begins : walk.step? = some step := by simp only [step?, framed, here]
      rw [next_turn_of_begin framed here, charge, passed, begins, framed, effortWithin,
        Frame.effort_eq here, Nat.add_assoc]
      exact begun
  | none =>
      refine effort_leave framed here (inRange frame among) ?_
      intro kind counter iteration shadowed enclosed
      exact repeats kind counter _ (Nested.loop_inside within among enclosed)

theorem effort_next_le (tariff : Tariff) (within : walk.Within root) (inRange : walk.InRange)
    (repeats : OnlyRepeats root) (framed : walk.frames = frame :: outer) :
    walk.charge tariff + effortWithin tariff (walk.turn.next walk).frames ≤
      effortWithin tariff walk.frames := by
  rw [effort_turn within inRange repeats framed]
  omega

/-- Without branches nothing is passed over. -/
theorem passed_eq_zero
    (unbranched : ∀ condition steps, walk.step? ≠ some (.branch condition steps)) :
    walk.passed tariff = 0 := by
  unfold passed
  cases begins : walk.step? with
  | none => rfl
  | some step =>
      cases step with
      | branch condition steps => exact absurd begins (unbranched condition steps)
      | _ => rfl

end Walk

end LoadTest
