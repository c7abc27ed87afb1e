import LoadTest.Proofs.User.Frames
import LoadTest.Proofs.User.Scoping
import Mathlib.Order.Lattice.Nat

/-!
How often a loop runs its steps, and what becomes of its counter.

A round of a loop begins where the walk stands in front of the first step inside it.  From the turn
that comes to a loop to the one that leaves it, rounds begin in order, each with its number in the
counter variable, whatever the steps inside do to it; and the loop gives the variable back what it
held before.  Rounds are numbered modulo `UInt64.size`, which a number of rounds stays below.  A
user is `Loop.Within` a loop or has `Loop.Left` it, and every turn keeps it so (`Loop.Within.step`).
-/

namespace LoadTest

/-- A loop as a user found it: what the counter variable held, and the frames around that of the
loop. -/
structure Loop where
  kind : LoopKind
  counter : String
  steps : List Step
  shadowed : Option Json
  outer : List Frame

namespace Loop

def frame (loop : Loop) (position : Nat) (iteration : UInt64) : Frame :=
  ⟨loop.steps, position, .loop loop.kind loop.counter iteration loop.shadowed⟩

/-- A loop that runs a number of times runs once more after so many rounds. -/
def Admits (loop : Loop) (count : Nat) : Prop :=
  ∀ times, loop.kind = .times times → count < times.toNat

end Loop

namespace Journey

variable {World : Type} (setting : Setting) (around : Surroundings World)

/-- How many frames a user is in. -/
def depth (journey : Journey World) : Nat := journey.user.walk.frames.length

/-- The number of the round that is about to begin in a loop at some depth, and what its counter
variable holds. -/
def round? (depth : Nat) (journey : Journey World) : Option (Nat × Option Json) :=
  match journey.user.walk.frames with
  | ⟨_, 0, .loop _ counter iteration _⟩ :: outer =>
      if outer.length = depth then
        some (iteration.toNat, journey.user.walk.session.get? counter)
      else none
  | _ => none

/-- The rounds that begin within a number of turns in a loop that the next turn comes to. -/
def rounds (journey : Journey World) (turns : Nat) : List (Nat × Option Json) :=
  journey.observed setting around (round? journey.depth) turns

/-- After that many turns, and not before, a user is no deeper than it was. -/
structure BackAfter (journey : Journey World) (turns : Nat) : Prop where
  turns_pos : 0 < turns
  depth_eq : ((step setting around none)^[turns] journey).depth = journey.depth
  deeper : ∀ earlier, 0 < earlier → earlier < turns →
    journey.depth < ((step setting around none)^[earlier] journey).depth

/-- A turn of the walk that needs nothing from the outside. -/
theorem user_step_of_moved {journey : Journey World} {next : Walk}
    (ready : journey.user.activity = .ready)
    (moves : journey.user.walk.turn = .moved next ∨ journey.user.walk.turn = .repeated next) :
    (journey.step setting around none).user = { journey.user with walk := next } := by
  obtain turned | turned := moves <;>
    simp [step, follow, User.turn, User.advance, ready, turned]

/-- A turn of the walk in which a condition crashes. -/
theorem user_step_of_crashed {journey : Journey World} {next : Walk}
    (ready : journey.user.activity = .ready) (crashes : journey.user.walk.turn = .crashed next) :
    (journey.step setting around none).user =
      { journey.user with walk := next, activity := .ended } := by
  simp [step, follow, User.turn, User.advance, User.finish, ready, crashes]

end Journey

theorem ofNat_next (count : Nat) : UInt64.ofNat (count + 1) = UInt64.ofNat count + 1 :=
  UInt64.ofNat_add count 1

/-- A round of a loop, with its number in the counter variable. -/
def numbered (round : Nat) : Nat × Option Json := (round, some (Json.ofNat round))

/-- The first rounds of a loop, with their numbers as far as these can be told. -/
def firstRounds (count : Nat) : List (Nat × Option Json) :=
  (List.range count).map fun round => numbered (UInt64.ofNat round).toNat

theorem firstRounds_succ (count : Nat) :
    firstRounds (count + 1) = firstRounds count ++ [numbered (UInt64.ofNat count).toNat] := by
  simp [firstRounds, List.range_succ]

theorem firstRounds_of_le {count : Nat} (few : count ≤ UInt64.size) :
    firstRounds count = (List.range count).map numbered := by
  refine List.map_congr_left fun round among => ?_
  have within : round < UInt64.size := Nat.lt_of_lt_of_le (List.mem_range.1 among) few
  rw [UInt64.toNat_ofNat_of_lt' within]

namespace Loop

variable {World : Type}

/-- A user is in a loop in which these rounds have begun: in front of the next round, or behind the
beginning of the last one; or the condition of the loop has brought it down. -/
inductive Within (loop : Loop) : List (Nat × Option Json) → Journey World → Prop where
  | starting {journey count} :
      journey.user.walk.frames = loop.frame 0 (.ofNat count) :: loop.outer →
      journey.user.walk.session.get? loop.counter =
        some (Json.ofNat (UInt64.ofNat count).toNat) →
      journey.user.activity = .ready →
      loop.Admits count →
      Within loop (firstRounds count) journey
  | underway {journey inner position count} :
      journey.user.walk.frames = inner ++ loop.frame (position + 1) (.ofNat count) :: loop.outer →
      loop.Admits count →
      Within loop (firstRounds (count + 1)) journey
  | broken {journey frame rounds} :
      journey.user.walk.frames = frame :: loop.outer →
      journey.user.activity = .ended →
      (∀ times, loop.kind ≠ .times times) →
      Within loop rounds journey

/-- A user has left a loop after these rounds. -/
structure Left (loop : Loop) (rounds : List (Nat × Option Json)) (journey : Journey World) :
    Prop where
  frames_eq : journey.user.walk.frames = loop.outer
  restored : journey.user.walk.session.get? loop.counter = loop.shadowed
  rounds_eq : ∃ count, rounds = firstRounds count ∧
    ∀ times, loop.kind = .times times → count = times.toNat

variable {setting : Setting} {around : Surroundings World} {loop : Loop} {journey : Journey World}
  {rounds : List (Nat × Option Json)}

/-- After a round that it admits, a loop admits one more exactly if it continues. -/
theorem admits_succ {count : Nat} (admits : loop.Admits count) {session : Session}
    (continues : loop.kind.continues? session (.ofNat count + 1) = some true) :
    loop.Admits (count + 1) := by
  intro times kind_eq
  have inside := admits times kind_eq
  have fits : count + 1 < UInt64.size := Nat.lt_of_le_of_lt inside times.toNat_lt
  rw [kind_eq, LoopKind.continues?, ← ofNat_next, Option.some.injEq, decide_eq_true_eq,
    UInt64.lt_iff_toNat_lt, UInt64.toNat_ofNat_of_lt' fits] at continues
  exact continues

theorem last_of_not_continues {count : Nat} (admits : loop.Admits count) {session : Session}
    (stops : loop.kind.continues? session (.ofNat count + 1) = some false) :
    ∀ times, loop.kind = .times times → count + 1 = times.toNat := by
  intro times kind_eq
  have inside := admits times kind_eq
  have fits : count + 1 < UInt64.size := Nat.lt_of_le_of_lt inside times.toNat_lt
  rw [kind_eq, LoopKind.continues?, ← ofNat_next, Option.some.injEq, decide_eq_false_iff_not,
    UInt64.lt_iff_toNat_lt, UInt64.toNat_ofNat_of_lt' fits] at stops
  omega

/-- Only a condition can crash. -/
theorem kind_ne_times {session : Session} {iteration : UInt64}
    (crashes : loop.kind.continues? session iteration = none) (times : UInt64) :
    loop.kind ≠ .times times := by
  intro kind_eq
  rw [kind_eq] at crashes
  cases crashes

/-- A user at the end of a round goes into the next one or leaves the loop. -/
theorem within_or_left_of_end {position count : Nat}
    (framed : journey.user.walk.frames = loop.frame position (.ofNat count) :: loop.outer)
    (atEnd : loop.steps[position]? = none) (ready : journey.user.activity = .ready)
    (admits : loop.Admits count) :
    loop.Within (firstRounds (count + 1)) (journey.step setting around none) ∨
      loop.Left (firstRounds (count + 1)) (journey.step setting around none) := by
  have leaves : journey.user.walk.turn =
      journey.user.walk.leave (loop.frame position (.ofNat count)) loop.outer := by
    simp [Walk.turn, framed, frame, atEnd]
  rcases continues : loop.kind.continues? journey.user.walk.session (.ofNat count + 1) with
    _ | _ | _
  · simp only [Walk.leave, frame, continues] at leaves
    have same := Journey.user_step_of_crashed setting around ready leaves
    exact .inl (.broken (by rw [same]; exact framed) (by rw [same]) (kind_ne_times continues))
  · simp only [Walk.leave, frame, continues] at leaves
    have same := Journey.user_step_of_moved setting around ready (.inl leaves)
    exact .inr ⟨by simp [same], by simp [same], count + 1, rfl,
      last_of_not_continues admits continues⟩
  · simp only [Walk.leave, frame, continues] at leaves
    rw [← ofNat_next] at leaves
    have same := Journey.user_step_of_moved setting around ready (.inr leaves)
    exact .inl (.starting (by simp [same, frame]) (by simp [same]) (by simp [same, ready])
      (admits_succ admits continues))

/-- A ready user in the middle of a loop. -/
theorem within_or_left_of_ready {inner : List Frame} {position count : Nat}
    (framed : journey.user.walk.frames =
      inner ++ loop.frame position (.ofNat count) :: loop.outer)
    (ready : journey.user.activity = .ready) (admits : loop.Admits count)
    (begun : inner ≠ [] → 0 < position) :
    loop.Within (firstRounds (count + 1)) (journey.step setting around none) ∨
      loop.Left (firstRounds (count + 1)) (journey.step setting around none) := by
  have frames_eq : (journey.step setting around none).user.walk.frames =
      (journey.user.walk.turn.next journey.user.walk).frames := by
    simp only [Journey.step, Journey.follow, User.turn, ready]
    exact User.frames_advance
  cases inner with
  | nil =>
      cases here : loop.steps[position]? with
      | none => exact within_or_left_of_end framed here ready admits
      | some step =>
          obtain ⟨opened, next_eq⟩ := Walk.frames_of_begin framed here
          exact .inl (.underway (frames_eq.trans next_eq) admits)
  | cons innermost inner =>
      obtain ⟨inside, next_eq⟩ := Walk.frames_of_turn framed
      obtain ⟨before, rfl⟩ : ∃ before, position = before + 1 := by
        have positive := begun (by simp)
        exact ⟨position - 1, by omega⟩
      have same : (journey.step setting around none).user.walk.frames =
          (inside ++ inner) ++ loop.frame (before + 1) (.ofNat count) :: loop.outer := by
        rw [frames_eq, next_eq, List.append_assoc]
        rfl
      exact .inl (.underway same admits)

theorem round?_starting {iteration : UInt64}
    (framed : journey.user.walk.frames = loop.frame 0 iteration :: loop.outer) :
    journey.round? loop.outer.length =
      some (iteration.toNat, journey.user.walk.session.get? loop.counter) := by
  simp [Journey.round?, framed, frame]

theorem round?_underway {inner : List Frame} {position : Nat} {iteration : UInt64}
    (framed : journey.user.walk.frames =
      inner ++ loop.frame (position + 1) iteration :: loop.outer) :
    journey.round? loop.outer.length = none := by
  unfold Journey.round?
  rw [framed]
  cases inner with
  | nil => rfl
  | cons innermost inner =>
      have deeper :
          (inner ++ loop.frame (position + 1) iteration :: loop.outer).length ≠
            loop.outer.length := by
        simp only [List.length_append, List.length_cons]
        omega
      rw [List.cons_append]
      split
      next same =>
        cases same
        rw [if_neg deeper]
      · rfl

/-- Every turn of a user in a loop leads on in its round, into the next one or out of the loop. -/
theorem Within.step (within : loop.Within rounds journey) :
    let seen := rounds ++ (journey.round? loop.outer.length).toList
    loop.Within seen (journey.step setting around none) ∨
      loop.Left seen (journey.step setting around none) := by
  intro seen
  cases within with
  | @starting _ count framed counted ready admits =>
      have seen_eq : seen = firstRounds (count + 1) := by
        simp only [seen, round?_starting framed, counted, firstRounds_succ]
        rfl
      have alone : journey.user.walk.frames =
          [] ++ loop.frame 0 (.ofNat count) :: loop.outer := framed
      rw [seen_eq]
      exact within_or_left_of_ready alone ready admits nofun
  | broken framed ended unnumbered =>
      rw [Journey.step_of_ended ended]
      exact .inl (.broken framed ended unnumbered)
  | @underway _ inner position count framed admits =>
      have seen_eq : seen = firstRounds (count + 1) := by
        simp only [seen, round?_underway framed, Option.toList_none, List.append_nil]
      rw [seen_eq]
      -- A user that does not take a turn of its walk stays where it is.
      have stays (same : (journey.step setting around none).user.walk.frames =
          journey.user.walk.frames) :
          loop.Within (firstRounds (count + 1)) (journey.step setting around none) :=
        .underway (same.trans framed) admits
      cases doing : journey.user.activity with
      | ready => exact within_or_left_of_ready framed doing admits fun _ => Nat.succ_pos _
      | pausing wake =>
          have awakes : journey.awake =
              { journey with user := { journey.user with activity := .ready } } := by
            simp [Journey.awake, User.isPausing, doing]
          have framedAwake : journey.awake.user.walk.frames =
              inner ++ loop.frame (position + 1) (.ofNat count) :: loop.outer := by
            rw [awakes]
            exact framed
          rw [← Journey.step_awake]
          exact within_or_left_of_ready framedAwake (by rw [awakes]) admits
            fun _ => Nat.succ_pos _
      | awaiting call outcome since wake =>
          exact .inl (stays (by simp [Journey.step, Journey.follow, User.turn, doing]))
      | aborting =>
          exact .inl (stays (by simp [Journey.step, Journey.follow, User.turn, User.finish, doing]))
      | ended => exact .inl (stays (by rw [Journey.step_of_ended doing]))

/-- A user comes to a loop: it goes into its first round or passes it over. -/
theorem within_or_left_of_begin {place : Frame} {outer : List Frame}
    (ready : journey.user.activity = .ready)
    (framed : journey.user.walk.frames = place :: outer)
    (here : place.steps[place.position]? = some (.loop loop.kind loop.counter loop.steps))
    (outer_eq : loop.outer = { place with position := place.position + 1 } :: outer)
    (shadowed_eq : loop.shadowed = journey.user.walk.session.get? loop.counter) :
    loop.Within [] (journey.step setting around none) ∨
      loop.Left [] (journey.step setting around none) := by
  have begins : journey.user.walk.turn =
      Walk.begin { journey.user.walk with frames := loop.outer }
        (.loop loop.kind loop.counter loop.steps) := by
    simp [Walk.turn, framed, here, outer_eq]
  rcases continues : loop.kind.continues? journey.user.walk.session 0 with _ | _ | _
  · simp only [Walk.begin, continues] at begins
    have same := Journey.user_step_of_crashed setting around ready begins
    exact .inr ⟨by simp [same], by simp [same, shadowed_eq], 0, rfl,
      fun times kind_eq => absurd kind_eq (kind_ne_times continues times)⟩
  · simp only [Walk.begin, continues] at begins
    have same := Journey.user_step_of_moved setting around ready (.inl begins)
    refine .inr ⟨by simp [same], by simp [same, shadowed_eq], 0, rfl, fun times kind_eq => ?_⟩
    rw [kind_eq, LoopKind.continues?, Option.some.injEq, decide_eq_false_iff_not,
      UInt64.lt_iff_toNat_lt, UInt64.toNat_zero] at continues
    omega
  · simp only [Walk.begin, Walk.push, continues] at begins
    have same := Journey.user_step_of_moved setting around ready (.inl begins)
    have admits : loop.Admits 0 := by
      intro times kind_eq
      rw [kind_eq, LoopKind.continues?, Option.some.injEq, decide_eq_true_eq,
        UInt64.lt_iff_toNat_lt, UInt64.toNat_zero] at continues
      exact continues
    exact .inl (.starting (by simp [same, frame, shadowed_eq]) (by simp [same])
      (by simp [same, ready]) admits)

theorem Within.deeper (within : loop.Within rounds journey) :
    loop.outer.length < journey.depth := by
  cases within with
  | starting framed => simp [Journey.depth, framed]
  | broken framed => simp [Journey.depth, framed]
  | underway framed =>
      simp only [Journey.depth, framed, List.length_append, List.length_cons]
      omega

theorem Left.depth_eq (left : loop.Left rounds journey) : journey.depth = loop.outer.length := by
  rw [Journey.depth, left.frames_eq]

theorem Within.length_le (within : loop.Within rounds journey) {times : UInt64}
    (kind_eq : loop.kind = .times times) : rounds.length ≤ times.toNat := by
  cases within with
  | broken _ _ unnumbered => exact absurd kind_eq (unnumbered times)
  | starting _ _ _ admits => simpa [firstRounds] using Nat.le_of_lt (admits times kind_eq)
  | underway _ admits => simpa [firstRounds] using Nat.succ_le_of_lt (admits times kind_eq)

end Loop

namespace Journey

variable {World : Type} (setting : Setting) (around : Surroundings World)

/-- The next turn of a user comes to a loop. -/
structure ComesTo (loop : Loop) (journey : Journey World) : Prop where
  begins : journey.user.activity = .ready ∨ journey.user.isPausing = true
  underway : journey.ending = none
  place : ∃ place outer, journey.user.walk.frames = place :: outer ∧
    place.steps[place.position]? = some (.loop loop.kind loop.counter loop.steps) ∧
    loop.outer = { place with position := place.position + 1 } :: outer
  shadowed_eq : loop.shadowed = journey.user.walk.session.get? loop.counter

variable {setting around} {loop : Loop} {journey : Journey World}

namespace ComesTo

variable (comes : ComesTo loop journey)

include comes

theorem depth_eq : journey.depth = loop.outer.length := by
  obtain ⟨place, outer, framed, _, outer_eq⟩ := comes.place
  simp [depth, framed, outer_eq]

theorem first :
    loop.Within (journey.rounds setting around 1) (journey.step setting around none) ∨
      loop.Left (journey.rounds setting around 1) (journey.step setting around none) := by
  obtain ⟨place, outer, framed, here, outer_eq⟩ := comes.place
  have unseen : journey.rounds setting around 1 = [] := by
    have outside : journey.round? journey.depth = none := by
      unfold round? depth
      rw [framed]
      split
      next same =>
        cases same
        simp
      · rfl
    simp [rounds, observed, outside]
  rw [unseen]
  obtain ready | pausing := comes.begins
  · exact Loop.within_or_left_of_begin ready framed here outer_eq comes.shadowed_eq
  · have awakes : journey.awake =
        { journey with user := { journey.user with activity := .ready } } := by
      simp [awake, pausing]
    rw [← step_awake, awakes]
    exact Loop.within_or_left_of_begin rfl framed here outer_eq comes.shadowed_eq

/-- As long as the user has been deeper than it was, it is in the loop or has just left it. -/
theorem within_or_left {turns : Nat}
    (deeper : ∀ earlier, 0 < earlier → earlier < turns + 1 →
      journey.depth < ((step setting around none)^[earlier] journey).depth) :
    loop.Within (journey.rounds setting around (turns + 1))
        ((step setting around none)^[turns + 1] journey) ∨
      loop.Left (journey.rounds setting around (turns + 1))
        ((step setting around none)^[turns + 1] journey) := by
  induction turns with
  | zero => exact comes.first
  | succ turns inductionHypothesis =>
      obtain within | left := inductionHypothesis fun earlier positive before =>
        deeper earlier positive (Nat.lt_succ_of_lt before)
      · have next_eq : (step setting around none)^[turns + 1 + 1] journey =
            step setting around none ((step setting around none)^[turns + 1] journey) :=
          Function.iterate_succ_apply' ..
        rw [next_eq, rounds, observed_succ, comes.depth_eq]
        rw [rounds, comes.depth_eq] at within
        exact within.step
      · have inside := deeper (turns + 1) (Nat.succ_pos _) (Nat.lt_succ_self _)
        rw [left.depth_eq, comes.depth_eq] at inside
        exact absurd inside (Nat.lt_irrefl _)

/-- A user that is back from a loop has left it. -/
theorem left_of_backAfter {turns : Nat} (back : BackAfter setting around journey turns) :
    loop.Left (journey.rounds setting around turns)
      ((step setting around none)^[turns] journey) := by
  obtain ⟨turns, rfl⟩ := Nat.exists_eq_add_one.2 back.turns_pos
  obtain within | left := comes.within_or_left back.deeper
  · have inside := within.deeper
    rw [back.depth_eq, comes.depth_eq] at inside
    exact absurd inside (Nat.lt_irrefl _)
  · exact left

/-- A user that never comes back stays in the loop. -/
theorem within_of_not_back (stays : ¬ ∃ turns, BackAfter setting around journey turns)
    (turns : Nat) :
    loop.Within (journey.rounds setting around (turns + 1))
      ((step setting around none)^[turns + 1] journey) := by
  induction turns using Nat.strong_induction_on with
  | _ turns inductionHypothesis =>
      have deeper : ∀ earlier, 0 < earlier → earlier < turns + 1 →
          journey.depth < ((step setting around none)^[earlier] journey).depth := by
        intro earlier positive before
        obtain ⟨earlier, rfl⟩ := Nat.exists_eq_add_one.2 positive
        rw [comes.depth_eq]
        exact (inductionHypothesis earlier (Nat.lt_of_succ_lt_succ before)).deeper
      obtain within | left := comes.within_or_left deeper
      · exact within
      · have depth_eq := left.depth_eq.trans comes.depth_eq.symm
        exact absurd ⟨turns + 1, Nat.succ_pos _, depth_eq, deeper⟩ stays

theorem undisturbed : Undisturbed journey := by
  have working : journey.user.activity ≠ .aborting ∧ journey.user.activity ≠ .ended := by
    obtain ready | pausing := comes.begins
    · simp [ready]
    · constructor <;> intro doing <;> simp [User.isPausing, doing] at pausing
  exact ⟨working.1, by simp [working.2, comes.underway]⟩

end ComesTo

/-- A user that was in frames all the time can only have ended by failing. -/
theorem isFailure_of_ending (undisturbed : Undisturbed journey) (underway : journey.ending = none)
    (deep : ∀ turns, 0 < ((step setting around none)^[turns] journey).depth) (turns : Nat)
    {ending : Ending} (ends : ((step setting around none)^[turns] journey).ending = some ending) :
    ending.isFailure = true := by
  induction turns with
  | zero => cases underway.symm.trans ends
  | succ turns inductionHypothesis =>
      rw [Function.iterate_succ_apply'] at ends
      simp only [step, follow] at ends
      obtain now | ⟨_, before⟩ := Option.or_eq_some_iff.1 ends
      · obtain ⟨frame, outer, framed⟩ := List.exists_cons_of_length_pos (deep turns)
        exact User.isFailure_of_turn framed (undisturbed_iterate undisturbed turns).fresh
          (Pace.ending?_eq_some_iff.1 now)
      · exact inductionHypothesis before

/-- Something that grows up to some bound stays as it is from some turn on. -/
theorem exists_last_of_bounded {count : Nat → Nat} {bound : Nat}
    (bounded : ∀ turns, count turns ≤ bound) : ∃ last, ∀ turns, count turns ≤ count last := by
  have above : BddAbove (Set.range count) := ⟨bound, by rintro _ ⟨turns, rfl⟩; exact bounded turns⟩
  obtain ⟨last, most⟩ := Nat.sSup_mem (Set.range_nonempty count) above
  exact ⟨last, fun turns => most ▸ le_csSup above ⟨turns, rfl⟩⟩

/-- A user that does not come back from a loop fails in it, or from some turn on no round begins any
more: the last one takes for ever. -/
theorem ComesTo.stays (comes : ComesTo loop journey) {times : UInt64}
    (kind_eq : loop.kind = .times times)
    (stays : ¬ ∃ turns, BackAfter setting around journey turns) :
    (∃ turns ending, ((step setting around none)^[turns] journey).ending = some ending ∧
      ending.isFailure = true) ∨
    ∃ start, ∀ turns, start ≤ turns →
      ((step setting around none)^[turns] journey).ending = none ∧
      journey.depth < ((step setting around none)^[turns] journey).depth ∧
      journey.rounds setting around turns = journey.rounds setting around start := by
  have within := comes.within_of_not_back stays
  have deeper (turns : Nat) :
      journey.depth < ((step setting around none)^[turns + 1] journey).depth := by
    rw [comes.depth_eq]
    exact (within turns).deeper
  have deep (turns : Nat) : 0 < ((step setting around none)^[turns] journey).depth := by
    cases turns with
    | zero =>
        obtain ⟨place, outer, framed, _⟩ := comes.place
        simp [depth, framed]
    | succ turns => exact Nat.zero_lt_of_lt (deeper turns)
  by_cases ended : ∃ turns ending, ((step setting around none)^[turns] journey).ending = some ending
  · obtain ⟨turns, ending, ends⟩ := ended
    exact .inl ⟨turns, ending, ends,
      isFailure_of_ending comes.undisturbed comes.underway deep turns ends⟩
  · obtain ⟨last, most⟩ := exists_last_of_bounded fun turns => (within turns).length_le kind_eq
    refine .inr ⟨last + 1, fun turns late => ?_⟩
    obtain ⟨more, rfl⟩ := Nat.exists_eq_add_of_le late
    have more_eq : last + 1 + more = last + more + 1 := by omega
    refine ⟨?_, more_eq ▸ deeper (last + more), ?_⟩
    · exact Option.eq_none_iff_forall_ne_some.2 fun ending ends => ended ⟨_, ending, ends⟩
    · have longer : journey.rounds setting around (last + 1) <+:
          journey.rounds setting around (last + 1 + more) := observed_prefix ..
      refine (longer.eq_of_length_le ?_).symm
      rw [more_eq]
      exact most (last + more)

/-- A variable that nothing else writes holds, wherever a user comes, the iteration of the innermost
loop that counts in it, or what it held at the start if there is none.

Whatever is written, the rounds of a loop begin in order, each with its number in the counter
variable, and a user that is back from the loop has given the variable what it held before.  A loop
that runs a number of times has then run so often; and a user does come back from it, unless it
fails or the steps inside take for ever.  Numbers are told modulo `UInt64.size`, which matters to no
loop that runs a number of times. -/
theorem counters_scoped {World : Type} (setting : Setting) (around : Surroundings World) :
    (∀ (key : String) (steps : List Step) (before : Situation World) (journey : Journey World),
      Unwritten key steps → Reachable setting around (.entering steps before) journey →
      Unfed key journey.deeds →
      journey.user.walk.session.get? key =
        held key (before.session.get? key) journey.user.walk.frames) ∧
    ∀ (loop : Loop) (journey : Journey World), ComesTo loop journey →
      let later (turns : Nat) := (step setting around none)^[turns] journey
      (∀ turns, BackAfter setting around journey turns →
        (later turns).user.walk.frames = loop.outer ∧
        (later turns).user.walk.session.get? loop.counter =
          journey.user.walk.session.get? loop.counter ∧
        (∃ count, journey.rounds setting around turns = firstRounds count) ∧
        ∀ times, loop.kind = .times times →
          journey.rounds setting around turns = (List.range times.toNat).map numbered) ∧
      ∀ times, loop.kind = .times times →
        (∃ turns, BackAfter setting around journey turns) ∨
        (∃ turns ending, (later turns).ending = some ending ∧ ending.isFailure = true) ∨
        ∃ start, ∀ turns, start ≤ turns →
          (later turns).ending = none ∧ journey.depth < (later turns).depth ∧
          journey.rounds setting around turns = journey.rounds setting around start := by
  refine ⟨fun key steps before journey unwritten reachable unfed => ?_,
    fun loop journey comes => ⟨fun turns back => ?_, fun times kind_eq => ?_⟩⟩
  · exact (reachable.counts unwritten unfed).walk.holds
  · have left := comes.left_of_backAfter back
    obtain ⟨count, rounds_eq, count_eq⟩ := left.rounds_eq
    refine ⟨left.frames_eq, left.restored.trans comes.shadowed_eq, ⟨count, rounds_eq⟩, ?_⟩
    intro times kind_eq
    rw [rounds_eq, count_eq times kind_eq, firstRounds_of_le (Nat.le_of_lt times.toNat_lt)]
  · by_cases back : ∃ turns, BackAfter setting around journey turns
    · exact .inl back
    · exact .inr (comes.stays kind_eq back)

/-- A lap within a lap. -/
def laps : List Step := [.loop (.times 2) "lap" [.loop (.times 3) "lap" [.exec (.look "lap")]]]

/-- Forgets which lap it is. -/
def forget : Hook := ⟨"forget", fun session => some (session.remove "lap")⟩

def forgetful : List Step := [.loop (.times 2) "lap" [.exec forget]]

theorem counters_scoped_laps :
    let setting : Setting := ⟨.stopUser, ⟨"http://localhost", []⟩⟩
    let before : Situation Nat := ⟨.forUser 7, .ofSeed 0, 0⟩
    let later (steps : List Step) (turns : Nat) : Journey Nat :=
      (step setting slowly none)^[turns] (.entering steps before)
    let lap : Loop := ⟨.times 2, "lap", [.exec forget], none, [⟨forgetful, 1, .root⟩]⟩
    Unwritten "lap" laps ∧ Reachable setting slowly (.entering laps before) (later laps 4) ∧
      Unfed "lap" (later laps 4).deeds ∧
      (later laps 4).user.walk.session.get? "lap" = some (Json.ofNat 1) ∧
      ComesTo lap (later forgetful 0) ∧ BackAfter setting slowly (later forgetful 0) 5 ∧
      (later forgetful 5).user.walk.session.get? "lap" = none ∧
      (later forgetful 0).rounds setting slowly 5 =
        [(0, some (Json.ofNat 0)), (1, some (Json.ofNat 1))] := by
  intro setting before later lap
  have unwritten : Unwritten "lap" laps := by
    have looks : (Step.exec (.look "lap")).Spares "lap" := by
      rintro session after ⟨⟩
      rfl
    exact .cons trivial (.cons trivial (.cons looks .nil .nil) .nil) .nil
  have reachable : Reachable setting slowly (.entering laps before) (later laps 4) :=
    .turn none (.turn none (.turn none (.turn none .refl)))
  have unfed : Unfed "lap" (later laps 4).deeds := by
    intro feeder record drawn
    cases List.mem_singleton.1 drawn
  have comes : ComesTo lap (later forgetful 0) := ⟨.inl rfl, rfl, ⟨_, _, rfl, rfl, rfl⟩, rfl⟩
  have back : BackAfter setting slowly (later forgetful 0) 5 := by
    refine ⟨by decide, rfl, fun earlier positive before => ?_⟩
    obtain rfl | rfl | rfl | rfl : earlier = 1 ∨ earlier = 2 ∨ earlier = 3 ∨ earlier = 4 := by
      omega
    all_goals exact Nat.lt_succ_self 1
  obtain ⟨holding, counted⟩ := counters_scoped setting slowly
  have holds := holding "lap" laps before (later laps 4) unwritten reachable unfed
  obtain ⟨_, restored, _, rounds_eq⟩ := (counted lap (later forgetful 0) comes).1 5 back
  exact ⟨unwritten, reachable, unfed, holds, comes, back, restored, rounds_eq 2 rfl⟩

end Journey

end LoadTest
