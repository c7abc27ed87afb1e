import LoadTest.Proofs.User.Request

/-!
What the counter of a loop holds.

A loop gives a variable the number of its iteration and gives back, at its end, what the variable
held before.  So if nothing else writes a variable, it holds the iteration of the innermost loop
that counts in it, and what it held at the start where there is no such loop
(`Journey.Reachable.counts`).  Every turn keeps it so, since each loop remembers what the loops
around it count (`Remembers`).
-/

namespace LoadTest

namespace Step

/-- The step is somewhere in these steps, at any depth. -/
inductive Inside (step : Step) : List Step → Prop where
  | here {steps} : step ∈ steps → Inside step steps
  | deeper {outer steps} : outer ∈ steps → Inside step outer.children → Inside step steps

/-- A variable is written neither by a hook nor by the checks of a request.  What a draw writes is
up to the feeder. -/
def Spares (key : String) : Step → Prop
  | .request asked => ∀ check ∈ asked.checks, check.saveAs ≠ some key
  | .exec hook =>
      ∀ session after, hook.apply session = some after → after.get? key = session.get? key
  | _ => True

end Step

/-- Nothing in these steps writes a variable, but for loops that count in it. -/
def Unwritten (key : String) (steps : List Step) : Prop :=
  ∀ step : Step, step.Inside steps → step.Spares key

theorem Unwritten.nil {key : String} : Unwritten key [] := by
  rintro step (among | among) <;> cases among

theorem Unwritten.cons {key : String} {step : Step} {steps : List Step} (spares : step.Spares key)
    (inside : Unwritten key step.children) (others : Unwritten key steps) :
    Unwritten key (step :: steps) := by
  rintro inner (among | ⟨among, within⟩)
  · obtain rfl | among := List.mem_cons.1 among
    · exact spares
    · exact others inner (.here among)
  · obtain rfl | among := List.mem_cons.1 among
    · exact inside inner within
    · exact others inner (.deeper among within)

theorem Unwritten.children {key : String} {steps : List Step} {step : Step}
    (unwritten : Unwritten key steps) (among : step ∈ steps) : Unwritten key step.children :=
  fun inner inside => unwritten inner (.deeper among inside)

/-! ### Loops that count in a variable -/

/-- The iteration that a loop is in, if it counts in a variable. -/
def Enclosure.iteration? (key : String) : Enclosure → Option UInt64
  | .loop _ counter iteration _ => if counter = key then some iteration else none
  | _ => none

/-- The iteration that the innermost loop is in that counts in a variable. -/
def innermost? (key : String) (frames : List Frame) : Option UInt64 :=
  frames.findSome? (·.enclosure.iteration? key)

/-- What a variable holds within these frames: the iteration of the innermost loop that counts in
it, or what it held before. -/
def held (key : String) (before : Option Json) (frames : List Frame) : Option Json :=
  ((innermost? key frames).map (Json.ofNat ·.toNat)).or before

/-- Each loop that counts in a variable remembers what the variable held around the loop. -/
def Remembers (key : String) (before : Option Json) : List Frame → Prop
  | [] => True
  | frame :: outer =>
      (∀ kind iteration shadowed, frame.enclosure = .loop kind key iteration shadowed →
        shadowed = held key before outer) ∧ Remembers key before outer

section

variable {key counter : String} {before : Option Json} {steps : List Step}
  {position : Nat} {iteration : UInt64} {enclosure : Enclosure} {kind : LoopKind}
  {shadowed : Option Json} {outer : List Frame}

theorem held_of_loop :
    held key before (⟨steps, position, .loop kind key iteration shadowed⟩ :: outer) =
      some (Json.ofNat iteration.toNat) := by
  simp [held, innermost?, Enclosure.iteration?]

theorem held_of_other (other : enclosure.iteration? key = none) :
    held key before (⟨steps, position, enclosure⟩ :: outer) = held key before outer := by
  simp [held, innermost?, other]

theorem iteration?_of_ne (other : key ≠ counter) :
    (Enclosure.loop kind counter iteration shadowed).iteration? key = none := by
  simp [Enclosure.iteration?, Ne.symm other]

theorem Remembers.other (remembers : Remembers key before outer)
    (other : enclosure.iteration? key = none) :
    Remembers key before (⟨steps, position, enclosure⟩ :: outer) := by
  refine ⟨?_, remembers⟩
  rintro kind iteration shadowed rfl
  simp [Enclosure.iteration?] at other

end

/-- A walk on which a variable holds what its loops count, and nothing else will write it. -/
structure Walk.Counts (key : String) (before : Option Json) (walk : Walk) : Prop where
  holds : walk.session.get? key = held key before walk.frames
  remembers : Remembers key before walk.frames
  unwritten : ∀ frame ∈ walk.frames, Unwritten key frame.steps

/-- What comes of a turn counts, and what needs the outside does not write the variable. -/
def Turn.Counts (key : String) (before : Option Json) : Turn → Prop
  | .finished => True
  | .moved next => next.Counts key before
  | .repeated next => next.Counts key before
  | .request asked next => next.Counts key before ∧ (Step.request asked).Spares key
  | .pause _ next => next.Counts key before
  | .feed _ next => next.Counts key before
  | .exec hook next => next.Counts key before ∧ (Step.exec hook).Spares key
  | .crashed next => next.Counts key before

namespace Walk

variable {key : String} {before : Option Json} {walk : Walk}

theorem Counts.withSession (counts : walk.Counts key before) {session : Session}
    (same : session.get? key = walk.session.get? key) :
    { walk with session }.Counts key before :=
  ⟨same.trans counts.holds, counts.remembers, counts.unwritten⟩

/-- A step of these steps is begun. -/
theorem Counts.begin {frame : Frame} {outer : List Frame} {step : Step}
    (counts : walk.Counts key before) (framed : walk.frames = frame :: outer)
    (among : step ∈ frame.steps) : (walk.begin step).Counts key before := by
  obtain ⟨frames, groups, session⟩ := walk
  cases framed
  have unwritten : Unwritten key frame.steps := counts.unwritten frame (List.mem_cons_self ..)
  have spared : step.Spares key := unwritten step (.here among)
  have inward (enclosure : Enclosure) : ∀ inner ∈ ⟨step.children, 0, enclosure⟩ :: frame :: outer,
      Unwritten key inner.steps :=
    List.forall_mem_cons.2 ⟨unwritten.children among, counts.unwritten⟩
  -- Whatever is opened lets the variable alone, unless it is a loop that counts in it.
  have opened (enclosure : Enclosure) (other : enclosure.iteration? key = none)
      (groups : List String) (session : Session)
      (same : session.get? key = held key before (frame :: outer)) :
      Counts key before
        ⟨⟨step.children, 0, enclosure⟩ :: frame :: outer, groups, session⟩ :=
    ⟨same.trans (held_of_other other).symm, counts.remembers.other other, inward _⟩
  cases step with
  | request request => exact ⟨counts, spared⟩
  | pause pause => exact counts
  | feed feeder => exact counts
  | exec hook => exact ⟨counts, spared⟩
  | group name steps => exact opened .group rfl _ _ counts.holds
  | branch condition steps =>
      simp only [Walk.begin]
      split
      · exact opened .branch rfl _ _ counts.holds
      · exact counts
      · exact counts
  | loop kind counter steps =>
      simp only [Walk.begin]
      split
      · by_cases same : key = counter
        · subst same
          refine ⟨?_, ⟨?_, counts.remembers⟩, inward _⟩
          · simp [push, held_of_loop]
          · rintro kind iteration shadowed ⟨⟩
            exact counts.holds
        · exact opened _ (iteration?_of_ne same) _ _ (by simp [same, counts.holds])
      · exact counts
      · exact counts

/-- The end of a frame is reached. -/
theorem Counts.leave {frame : Frame} {outer : List Frame} (counts : walk.Counts key before)
    (framed : walk.frames = frame :: outer) : (walk.leave frame outer).Counts key before := by
  have kept := counts
  obtain ⟨frames, groups, session⟩ := walk
  cases framed
  obtain ⟨holds, ⟨remembered, remembers⟩, unwritten⟩ := counts
  obtain ⟨steps, position, enclosure⟩ := frame
  obtain ⟨inside, outside⟩ := List.forall_mem_cons.1 unwritten
  have again (enclosure : Enclosure) : ∀ inner ∈ ⟨steps, 0, enclosure⟩ :: outer,
      Unwritten key inner.steps := List.forall_mem_cons.2 ⟨inside, outside⟩
  -- What is no loop counts nothing.
  have left (other : enclosure.iteration? key = none) (groups : List String) :
      Counts key before ⟨outer, groups, session⟩ :=
    ⟨holds.trans (held_of_other other), remembers, outside⟩
  cases enclosure with
  | root => exact left rfl _
  | branch => exact left rfl _
  | group => exact left rfl _
  | loop kind counter iteration shadowed =>
      simp only [Walk.leave]
      by_cases same : key = counter
      · subst same
        have shadowed_eq := remembered kind iteration shadowed rfl
        split
        · refine ⟨?_, ⟨?_, remembers⟩, again _⟩
          · simp [held_of_loop]
          · rintro kind iteration shadowed ⟨⟩
            exact shadowed_eq
        · exact ⟨by simp [shadowed_eq], remembers, outside⟩
        · exact kept
      · have around : session.get? key = held key before outer :=
          holds.trans (held_of_other (iteration?_of_ne same))
        split
        · refine ⟨?_, remembers.other (iteration?_of_ne same), again _⟩
          simp [same, around, held_of_other (iteration?_of_ne same)]
        · exact ⟨by simp [same, around], remembers, outside⟩
        · exact kept

theorem Counts.turn (counts : walk.Counts key before) : walk.turn.Counts key before := by
  obtain ⟨frames, groups, session⟩ := walk
  unfold Walk.turn
  cases frames with
  | nil => trivial
  | cons frame outer =>
      cases here : frame.steps[frame.position]? with
      | none => simpa [here] using counts.leave rfl
      | some step =>
          have moved : Counts key before
              ⟨{ frame with position := frame.position + 1 } :: outer, groups, session⟩ := by
            obtain ⟨holds, remembers, unwritten⟩ := counts
            exact ⟨holds, remembers, List.forall_mem_cons.2 (List.forall_mem_cons.1 unwritten)⟩
          simpa [here] using moved.begin rfl (List.mem_of_getElem? here)

end Walk

/-! ### Results of steps -/

section

variable {key : String}

theorem Check.saveAs_of_save? (check : Check) {response : Response} {pair : String × Json}
    (saved : check.save? response = some pair) : check.saveAs = some pair.1 := by
  unfold Check.save? at saved
  split at saved
  next key value named found =>
    cases saved
    exact named
  · cases saved

theorem Request.evaluateAll_spares {request : Request} (spares : (Step.request request).Spares key)
    (response : Response) (session : Session) :
    (evaluateAll request.effectiveChecks response session).session.get? key =
      session.get? key := by
  by_cases pass : ∀ check ∈ request.effectiveChecks, check.Passes response session
  · have unsaved : (request.saves response).reverse.lookup key = none := by
      rw [List.lookup_eq_none_iff]
      intro pair among
      obtain ⟨check, checked, saved⟩ := List.mem_filterMap.1 (List.mem_reverse.1 among)
      have other : pair.1 ≠ key := by
        rintro rfl
        exact spares check checked (check.saveAs_of_save? saved)
      simpa using Ne.symm other
    rw [evaluateAll_of_passes pass, filterMap_effectiveChecks, Session.get?_merge, unsaved,
      Option.none_or]
  · obtain ⟨failure, evaluated⟩ := evaluateAll_of_not_passes pass
    rw [evaluated]

theorem Call.conclude_spares {call : Call} (spares : (Step.request call.request).Spares key)
    (session : Session) (elapsed : Duration) (outcome : Except TransportError Response) :
    (call.conclude session elapsed outcome).session.get? key = session.get? key := by
  cases outcome with
  | error error => rfl
  | ok response =>
      have kept := Request.evaluateAll_spares spares response session
      simp only [conclude]
      split <;> exact kept

theorem Walk.session_of_call {walk : Walk} {protocol : Protocol} {request : Request}
    {result : StepResult} (called : walk.call protocol request = .error result) :
    result.session = walk.session := by
  unfold Walk.call at called
  split at called <;> cases called
  rfl

theorem Walk.fed_spares (walk : Walk) (feeder : String) {drawn : Except StepError Record}
    (free : ∀ record, drawn = .ok record → key ∉ record.keys) :
    (walk.fed feeder drawn).session.get? key = walk.session.get? key := by
  cases drawn with
  | error error => rfl
  | ok record =>
      have unheld : record.toList.reverse.lookup key = none := by
        rw [List.lookup_eq_none_iff]
        intro pair among
        have other : pair.1 ≠ key := by
          rintro rfl
          exact free record rfl (List.mem_map_of_mem (List.mem_reverse.1 among))
        simpa using Ne.symm other
      rw [fed, Session.get?_merge, unheld, Option.none_or]

end

/-! ### Turns of a user -/

/-- No record that was drawn holds a variable. -/
def Unfed (key : String) (deeds : List Deed) : Prop :=
  ∀ feeder record, .drew feeder (some (.ok record)) ∈ deeds → key ∉ record.keys

/-- A user on whose walk a variable holds what its loops count, and whose request on its way does
not write it. -/
structure User.Counts (key : String) (before : Option Json) (user : User) : Prop where
  walk : user.walk.Counts key before
  awaited : ∀ call outcome since wake, user.activity = .awaiting call outcome since wake →
    (Step.request call.request).Spares key

namespace User

variable {World : Type} {setting : Setting} {outside : Outside World} {now : Nat} {world : World}
  {cancel : Option CancelReason} {key : String} {before : Option Json} {user : User} {walk : Walk}

/-- A user that does not wait for an answer counts if its walk does. -/
theorem Counts.of_walk (counts : user.walk.Counts key before) (prompt : user.isAwaiting = false) :
    user.Counts key before where
  walk := counts
  awaited call outcome since wake awaits := by simp [isAwaiting, awaits] at prompt

theorem counts_settle {policy : FailurePolicy} {deeds : List Deed} {result : StepResult}
    (counts : walk.Counts key before)
    (same : result.session.get? key = walk.session.get? key) :
    (user.settle policy walk deeds result).user.Counts key before :=
  .of_walk (by simpa using counts.withSession same) (isAwaiting_settle ..)

theorem counts_send (counts : walk.Counts key before) {request : Request}
    (spares : (Step.request request).Spares key) :
    (user.send setting outside now world walk request).1.user.Counts key before := by
  unfold send
  split
  next result called => exact counts_settle counts (by rw [Walk.session_of_call called])
  next call called =>
    obtain rfl := Walk.request_of_call called
    cases waits : wakeAfter? now (outside.send world call.prepared).1.delay with
    | none =>
        simp only [waits]
        exact counts_settle counts (Call.conclude_spares spares ..)
    | some wake =>
        simp only [waits]
        refine ⟨counts, ?_⟩
        rintro call outcome since wake ⟨⟩
        exact spares

theorem counts_pause (ready : user.activity = .ready) (counts : walk.Counts key before)
    (pause : Pause) : (user.pause now walk pause).user.Counts key before := by
  unfold User.pause
  rcases pause.duration user.random with ⟨duration, random⟩
  cases told : endsInTime now duration with
  | false =>
      simp only [told, Bool.false_eq_true, if_false]
      exact .of_walk counts rfl
  | true =>
      cases waits : wakeAfter? now duration with
      | none =>
          simp only [told, waits, if_true]
          exact .of_walk counts (by simp [isAwaiting, ready])
      | some wake =>
          simp only [told, waits, if_true]
          exact .of_walk counts rfl

theorem counts_exec (ready : user.activity = .ready) (counts : walk.Counts key before) {hook : Hook}
    (spares : (Step.exec hook).Spares key) : (user.exec walk hook).user.Counts key before := by
  unfold exec
  cases applied : hook.apply walk.session with
  | some session =>
      exact .of_walk (counts.withSession (spares _ _ applied)) (by simp [isAwaiting, ready])
  | none => exact .of_walk counts rfl

theorem counts_feed (counts : walk.Counts key before) {feeder : String}
    (unfed : Unfed key (user.feed setting outside world walk feeder).1.deeds) :
    (user.feed setting outside world walk feeder).1.user.Counts key before := by
  rcases draws : outside.draw world feeder with ⟨_ | drawn, later⟩
  · rw [feed_of_crash draws]
    exact .of_walk counts rfl
  · rw [feed_of_drawn draws] at unfed ⊢
    refine counts_settle counts (walk.fed_spares feeder ?_)
    rintro record rfl
    exact unfed feeder record (by simp)

theorem counts_advance (ready : user.activity = .ready) (counts : user.walk.Counts key before)
    (unfed : Unfed key (user.advance setting outside cancel now world).1.deeds) :
    (user.advance setting outside cancel now world).1.user.Counts key before := by
  have onward := counts.turn
  unfold advance at unfed ⊢
  cases cancel with
  | some reason => exact .of_walk counts rfl
  | none =>
      cases turned : user.walk.turn with
      | finished => exact .of_walk counts rfl
      | moved next =>
          rw [turned] at onward
          exact .of_walk onward (by simp [isAwaiting, ready])
      | repeated next =>
          rw [turned] at onward
          exact .of_walk onward (by simp [isAwaiting, ready])
      | request request next =>
          rw [turned] at onward
          exact counts_send onward.1 onward.2
      | pause pause next =>
          rw [turned] at onward
          exact counts_pause ready onward pause
      | feed feeder next =>
          rw [turned] at onward
          simp only [turned] at unfed
          exact counts_feed onward unfed
      | exec hook next =>
          rw [turned] at onward
          exact counts_exec ready onward.1 onward.2
      | crashed next =>
          rw [turned] at onward
          exact .of_walk onward rfl

theorem Counts.turn (counts : user.Counts key before)
    (unfed : Unfed key (user.turn setting outside cancel now world).1.deeds) :
    (user.turn setting outside cancel now world).1.user.Counts key before := by
  unfold User.turn at unfed ⊢
  cases doing : user.activity with
  | ready =>
      simp only [doing] at unfed
      exact counts_advance doing counts.walk unfed
  | pausing wake =>
      simp only [doing] at unfed
      exact counts_advance rfl counts.walk unfed
  | awaiting call outcome since wake =>
      exact counts_settle counts.walk (Call.conclude_spares (counts.awaited _ _ _ _ doing) ..)
  | aborting => exact .of_walk counts.walk rfl
  | ended => exact counts

theorem Counts.abort (counts : user.Counts key before) : user.abort.Counts key before := by
  unfold User.abort
  split
  · exact counts
  · exact .of_walk counts.walk rfl

end User

/-! ### Wherever a user comes -/

namespace Journey

variable {World : Type} (setting : Setting) (around : Surroundings World)

/-- What can befall a user from some beginning on: it gets a turn, before its run is cancelled or
after, others change the world, or it is told to stop. -/
inductive Reachable (beginning : Journey World) : Journey World → Prop where
  | refl : Reachable beginning beginning
  | turn {journey} (cancel : Option CancelReason) :
      Reachable beginning journey → Reachable beginning (journey.step setting around cancel)
  | elsewhere {journey} (world : World) :
      Reachable beginning journey → Reachable beginning { journey with world }
  | told {journey} :
      Reachable beginning journey →
      Reachable beginning { journey with user := journey.user.abort }

/-- A user comes where its turns take it. -/
theorem reachable_iterate (beginning : Journey World) (turns : Nat) :
    Reachable setting around beginning ((step setting around none)^[turns] beginning) := by
  induction turns with
  | zero => exact .refl
  | succ turns inductionHypothesis =>
      rw [Function.iterate_succ_apply']
      exact .turn none inductionHypothesis

variable {setting around} {key : String} {steps : List Step} {before : Situation World}
  {journey : Journey World}

theorem counts_entering (unwritten : Unwritten key steps) :
    (entering steps before).user.Counts key (before.session.get? key) :=
  .of_walk
    ⟨rfl, ⟨nofun, trivial⟩, List.forall_mem_cons.2 ⟨unwritten, nofun⟩⟩ rfl

theorem Reachable.counts (reachable : Reachable setting around (entering steps before) journey)
    (unwritten : Unwritten key steps) (unfed : Unfed key journey.deeds) :
    journey.user.Counts key (before.session.get? key) := by
  induction reachable with
  | refl => exact counts_entering unwritten
  | turn cancel _ inductionHypothesis =>
      have earlier := inductionHypothesis fun feeder record drawn =>
        unfed feeder record (List.mem_append_left _ drawn)
      exact earlier.turn fun feeder record drawn =>
        unfed feeder record (List.mem_append_right _ drawn)
  | elsewhere world _ inductionHypothesis => exact inductionHypothesis unfed
  | told _ inductionHypothesis => exact (inductionHypothesis unfed).abort

end Journey

end LoadTest
