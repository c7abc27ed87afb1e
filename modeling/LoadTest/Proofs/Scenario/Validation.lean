import LoadTest.Proofs.Run.Interleaving
import LoadTest.Proofs.Scenario.Written
import LoadTest.Proofs.User.Origin
import LoadTest.Run.Engine

/-!
What validation finds, and what it keeps out of runs.

Validation looks for a defect of each step in the order in which the steps are written
(`firstDefect?_eq`), and so it finds the first one (`firstDefect?_eq_some_iff`) and misses none
(`firstDefect?_eq_none_iff`).  Since users begin only what is inside their scenario, no step with a
defect is executed in a run that was accepted.
-/

namespace LoadTest

/-! ### Defects -/

/-- If the check reads a path, the path is one. -/
def Check.IsSound (check : Check) : Prop :=
  ∀ path, check.extractor = .member path → path.error? = none

namespace Step

/-- The step itself has no defect; what is inside it may have one. -/
def IsSound : Step → Prop
  | .request asked => ∀ check ∈ asked.checks, check.IsSound
  | .pause (.uniform low high) => low ≤ high
  | _ => True

/-- The step itself has a defect.  That of a request is the one of its first check that has one. -/
inductive HasDefect : Step → ScenarioError → Prop where
  | path {asked : Request} {before : List Check} {check : Check} {after : List Check}
      {path : JsonPath} {error : JsonPath.PathError} :
      asked.checks = before ++ check :: after →
      (∀ earlier ∈ before, earlier.IsSound) →
      check.extractor = .member path →
      path.error? = some error →
      HasDefect (.request asked) (.invalidPath path.source error)
  | pause {low high : Duration} :
      high < low → HasDefect (.pause (.uniform low high)) (.invertedPause low high)

/-- The first defect of the step itself. -/
def ownDefect? : Step → Option ScenarioError
  | .request asked => asked.checks.findSome? Check.defect?
  | .pause rest => rest.defect?
  | _ => none

end Step

namespace Check

variable {check : Check} {defect : ScenarioError}

theorem defect?_eq_some_iff :
    check.defect? = some defect ↔ ∃ path error, check.extractor = .member path ∧
      path.error? = some error ∧ defect = .invalidPath path.source error := by
  obtain ⟨extractor, predicate, saveAs⟩ := check
  cases extractor with
  | member path =>
      constructor
      · intro found
        obtain ⟨error, malformed, rfl⟩ := Option.map_eq_some_iff.1 found
        exact ⟨path, error, rfl, malformed, rfl⟩
      · rintro ⟨other, error, ⟨⟩, malformed, rfl⟩
        exact Option.map_eq_some_iff.2 ⟨error, malformed, rfl⟩
  | _ => simp [defect?]

theorem defect?_eq_none_iff : check.defect? = none ↔ check.IsSound := by
  obtain ⟨extractor, predicate, saveAs⟩ := check
  cases extractor <;> simp [defect?, IsSound]

end Check

namespace Step

variable {step : Step} {defect : ScenarioError}

theorem ownDefect?_eq_none_iff : step.ownDefect? = none ↔ step.IsSound := by
  cases step with
  | request asked =>
      simp [ownDefect?, IsSound, List.findSome?_eq_none_iff, Check.defect?_eq_none_iff]
  | pause rest =>
      cases rest with
      | fixed duration => simp [ownDefect?, IsSound, Pause.defect?]
      | uniform low high =>
          simp only [ownDefect?, IsSound, Pause.defect?, Duration.lt_iff, Duration.le_iff]
          split <;> simp <;> omega
  | _ => simp [ownDefect?, IsSound]

theorem ownDefect?_eq_some_iff : step.ownDefect? = some defect ↔ step.HasDefect defect := by
  constructor
  · intro found
    cases step with
    | request asked =>
        obtain ⟨before, check, after, split, own, sound⟩ := List.findSome?_eq_some_iff.1 found
        obtain ⟨path, error, reads, malformed, rfl⟩ := Check.defect?_eq_some_iff.1 own
        exact .path split (fun earlier among => Check.defect?_eq_none_iff.1 (sound earlier among))
          reads malformed
    | pause rest =>
        cases rest with
        | fixed duration => cases found
        | uniform low high =>
            simp only [ownDefect?, Pause.defect?] at found
            split at found
            next inverted =>
              cases found
              exact .pause inverted
            next => cases found
    | _ => cases found
  · intro has
    cases has with
    | path split sound reads malformed =>
        refine List.findSome?_eq_some_iff.2 ⟨_, _, _, split, ?_, ?_⟩
        · exact Check.defect?_eq_some_iff.2 ⟨_, _, reads, malformed, rfl⟩
        · exact fun earlier among => Check.defect?_eq_none_iff.2 (sound earlier among)
    | pause inverted => simp [ownDefect?, Pause.defect?, inverted]

end Step

/-! ### What validation finds -/

mutual

theorem Step.defect?_eq : ∀ step : Step, step.defect? = step.written.findSome? Step.ownDefect?
  | .loop _ _ steps => firstDefect?_eq steps
  | .group _ steps => firstDefect?_eq steps
  | .branch _ steps => firstDefect?_eq steps
  | .request asked => by simp [Step.defect?, Step.written, Step.ownDefect?]
  | .pause rest => by simp [Step.defect?, Step.written, Step.ownDefect?]
  | .feed _ => rfl
  | .exec _ => rfl

theorem firstDefect?_eq : ∀ steps : List Step,
    firstDefect? steps = (allWritten steps).findSome? Step.ownDefect?
  | [] => rfl
  | step :: steps => by
      rw [firstDefect?, allWritten, List.findSome?_append, step.defect?_eq, firstDefect?_eq steps]

end

section

variable {steps : List Step} {defect : ScenarioError}

theorem firstDefect?_eq_none_iff :
    firstDefect? steps = none ↔ ∀ step : Step, step.Inside steps → step.IsSound := by
  rw [firstDefect?_eq, List.findSome?_eq_none_iff]
  simp only [mem_allWritten_iff, Step.ownDefect?_eq_none_iff]

theorem firstDefect?_eq_some_iff :
    firstDefect? steps = some defect ↔
      ∃ before step after, allWritten steps = before ++ step :: after ∧
        (∀ earlier ∈ before, earlier.IsSound) ∧ step.HasDefect defect := by
  rw [firstDefect?_eq, List.findSome?_eq_some_iff]
  simp only [Step.ownDefect?_eq_none_iff, Step.ownDefect?_eq_some_iff]
  exact ⟨fun ⟨before, step, after, split, has, sound⟩ => ⟨before, step, after, split, sound, has⟩,
    fun ⟨before, step, after, split, sound, has⟩ => ⟨before, step, after, split, has, sound⟩⟩

end

namespace Scenario

variable {scenario : Scenario}

/-- There is more to the name than white space. -/
def IsNamed (scenario : Scenario) : Prop :=
  ∃ character ∈ scenario.name.toList, Text.isBlank character = false

theorem hasBlankName_eq_false_iff : scenario.hasBlankName = false ↔ scenario.IsNamed := by
  simp [hasBlankName, Text.isAllBlank, IsNamed, List.all_eq_false]

theorem validate_of_not_named (unnamed : ¬ scenario.IsNamed) :
    scenario.validate = .error .emptyName := by
  have blank : scenario.hasBlankName = true := by
    rw [← hasBlankName_eq_false_iff, Bool.not_eq_false] at unnamed
    exact unnamed
  simp only [validate, blank, if_true]

theorem validate_of_named (named : scenario.IsNamed) :
    scenario.validate =
      match firstDefect? scenario.steps with
      | some defect => .error defect
      | none => .ok () := by
  rw [← hasBlankName_eq_false_iff] at named
  rw [validate, named]
  cases firstDefect? scenario.steps <;> rfl

theorem validate_eq_ok_iff :
    scenario.validate = .ok () ↔
      scenario.IsNamed ∧ ∀ step : Step, step.Inside scenario.steps → step.IsSound := by
  by_cases named : scenario.IsNamed
  · rw [validate_of_named named, ← firstDefect?_eq_none_iff]
    cases firstDefect? scenario.steps <;> simp [named]
  · rw [validate_of_not_named named]
    simp [named]

theorem validate_eq_error_iff {defect : ScenarioError} (named : scenario.IsNamed) :
    scenario.validate = .error defect ↔
      ∃ before step after, allWritten scenario.steps = before ++ step :: after ∧
        (∀ earlier ∈ before, earlier.IsSound) ∧ step.HasDefect defect := by
  rw [validate_of_named named, ← firstDefect?_eq_some_iff]
  cases firstDefect? scenario.steps <;> simp

end Scenario

/-! ### Accepted runs -/

theorem Request.isSound_effectiveChecks {request : Request}
    (sound : (Step.request request).IsSound) :
    ∀ check ∈ request.effectiveChecks, check.IsSound := by
  unfold Request.effectiveChecks
  split
  · exact sound
  · intro check among
    obtain rfl | declared := List.mem_cons.1 among
    · exact nofun
    · exact sound check declared

/-- The next turn of a user begins a step or takes up what the step came to. -/
def User.Executes (user : User) (step : Step) : Prop :=
  user.step? = some step ∨ user.pending? = some step

theorem User.Belongs.executes {root : List Step} {user : User} {step : Step}
    (belongs : user.Belongs root) (executes : user.Executes step) : step.Inside root := by
  rcases executes with begins | waits
  · exact belongs.within.step_inside begins
  · exact belongs.awaits step waits

section

variable {State : Type} {engine : Engine} {scenario : Scenario} {transport : Transport State}
  {actions : List (Duration × Action)} {plan : Plan State}

/-- A plan is laid out for a scenario only if validation has found no defect. -/
theorem Engine.scenario_of_plan (accepted : engine.plan scenario transport actions = .ok plan) :
    plan.scenario = scenario ∧ scenario.validate = .ok () := by
  unfold Engine.plan at accepted
  cases valid : scenario.validate with
  | error error =>
      rw [valid] at accepted
      cases accepted
  | ok =>
      simp only [valid, bind, Except.bind, pure, Except.pure] at accepted
      cases scheduled : Injection.schedule engine.tick engine.injection with
      | error error =>
          rw [scheduled] at accepted
          cases accepted
      | ok offsets =>
          simp only [scheduled] at accepted
          by_cases late : engine.maxDuration.any (endOfTime ≤ ·.seconds) = true
          · rw [if_pos late] at accepted
            cases accepted
          · by_cases unending : engine.snapshotInterval.isZero = true
            · rw [if_neg late, if_pos unending] at accepted
              cases accepted
            · rw [if_neg late, if_neg unending] at accepted
              cases accepted
              exact ⟨rfl, rfl⟩

theorem Run.Reachable.belongs {may : Run State → Run.Choice → Prop} {run : Run State}
    (reachable : Reachable plan may run) {id : Nat} {user : User}
    (there : run.users[id]? = some user) : user.Belongs plan.scenario.steps := by
  apply reachable.forall_users _ _ _ there
  · intro id
    exact User.belongs_start id (plan.randoms id) plan.scenario.steps
  · intro run id user belongs
    exact belongs.turn
  · intro user belongs
    exact belongs.abort

end

/-- Only requests and pauses can have defects. -/
theorem forall_isSound_iff {steps : List Step} :
    (∀ step : Step, step.Inside steps → step.IsSound) ↔
      (∀ request, (Step.request request).Inside steps → ∀ check ∈ request.checks, ∀ path,
        check.extractor = .member path → path.error? = none) ∧
      ∀ low high, (Step.pause (.uniform low high)).Inside steps → low ≤ high := by
  constructor
  · intro sound
    exact ⟨fun request inside => sound (.request request) inside,
      fun low high inside => sound (.pause (.uniform low high)) inside⟩
  · rintro ⟨requests, pauses⟩ step inside
    cases step with
    | request asked => exact requests asked inside
    | pause rest =>
        cases rest with
        | fixed duration => trivial
        | uniform low high => exact pauses low high inside
    | _ => trivial

/-- Validation accepts a scenario if and only if its name is not blank, every path that a check of a
request reads is one, and no pause is inverted, at any depth.  Otherwise it reports a blank name,
and else the first defect in the order in which the steps are written.  So the users of a run that
was accepted execute no check with a malformed path and no inverted pause. -/
theorem validation_complete (scenario : Scenario) :
    (scenario.validate = .ok () ↔
      scenario.IsNamed ∧
      (∀ request, (Step.request request).Inside scenario.steps → ∀ check ∈ request.checks,
        ∀ path, check.extractor = .member path → path.error? = none) ∧
      ∀ low high, (Step.pause (.uniform low high)).Inside scenario.steps → low ≤ high) ∧
    (∀ defect, scenario.validate = .error defect ↔
      ¬ scenario.IsNamed ∧ defect = .emptyName ∨
      scenario.IsNamed ∧ ∃ before step after,
        allWritten scenario.steps = before ++ step :: after ∧
        (∀ earlier ∈ before, earlier.IsSound) ∧ step.HasDefect defect) ∧
    ∀ (State : Type) (engine : Engine) (transport : Transport State)
      (actions : List (Duration × Action)) (plan : Plan State)
      (may : Run State → Run.Choice → Prop) (run : Run State) (id : Nat) (user : User),
      engine.plan scenario transport actions = .ok plan → Run.Reachable plan may run →
      run.users[id]? = some user →
      (∀ request, user.Executes (.request request) → ∀ check ∈ request.effectiveChecks,
        ∀ path, check.extractor = .member path → path.error? = none) ∧
      ∀ low high, user.Executes (.pause (.uniform low high)) → low ≤ high := by
  refine ⟨?_, ?_, ?_⟩
  · rw [Scenario.validate_eq_ok_iff, forall_isSound_iff]
  · intro defect
    by_cases named : scenario.IsNamed
    · rw [Scenario.validate_eq_error_iff named]
      simp [named]
    · rw [Scenario.validate_of_not_named named]
      simp [named, eq_comm]
  · intro State engine transport actions plan may run id user accepted reachable there
    obtain ⟨rfl, valid⟩ := Engine.scenario_of_plan accepted
    have sound := (Scenario.validate_eq_ok_iff.1 valid).2
    have belongs := reachable.belongs there
    exact ⟨fun request executes =>
        Request.isSound_effectiveChecks (sound (.request request) (belongs.executes executes)),
      fun low high executes => sound (.pause (.uniform low high)) (belongs.executes executes)⟩

/-- A request whose answer is looked through for an identifier. -/
def itemRequest : Request where
  name := ⟨"item"⟩
  method := .get
  path := ⟨"/items"⟩
  checks := [⟨.member ⟨"$.id"⟩, .present, none⟩]

/-- A pause and a request deep inside. -/
def browsing : Scenario where
  name := "browsing"
  steps := [.loop (.times 2) "round" [.group "shop" [.branch (.present "round")
    [.pause (.uniform (.ofMillis 5) (.ofMillis 5)), .request itemRequest]]]]

/-- One user, whose requests are answered after half a second. -/
def browsingPlan : Plan Unit where
  scenario := browsing
  protocol := ⟨"http://localhost", []⟩
  transport := ⟨fun _ _ _ => (⟨.ofMillis 500, .ok Script.emptyResponse⟩, ())⟩
  offsets := [.zero]
  maxDuration := none
  gracePeriod := .ofSeconds 5
  snapshotInterval := .ofSeconds 1
  randoms := .forUsers 0
  actions := []

theorem validation_complete_browsing :
    let engine : Engine :=
      { injection := [.atOnce 1], protocol := browsingPlan.protocol, randoms := .forUsers 0 }
    let run := Run.iterate browsingPlan 18 (.start browsingPlan ∅ ())
    engine.plan browsing browsingPlan.transport [] = .ok browsingPlan ∧
      Run.Reachable browsingPlan (Run.Chooses browsingPlan) run ∧
      ∃ user, run.users[0]? = some user ∧ user.Executes (.request itemRequest) ∧
        JsonPath.error? ⟨"$.id"⟩ = none := by
  intro engine run
  have named : browsing.IsNamed := ⟨'b', by decide, by decide⟩
  have unfaulty : firstDefect? browsing.steps = none := by decide +kernel
  have valid : browsing.validate = .ok () :=
    Scenario.validate_eq_ok_iff.2 ⟨named, firstDefect?_eq_none_iff.1 unfaulty⟩
  have accepted : engine.plan browsing browsingPlan.transport [] = .ok browsingPlan := by
    rw [Engine.plan, valid]
    rfl
  have reachable : Run.Reachable browsingPlan (Run.Chooses browsingPlan) run :=
    Run.reachable_iterate 18 ⟨∅, (), .refl⟩
  have asks : (run.users[0]?.any fun user => user.pending?.any Step.isRequest) = true := by
    decide +kernel
  obtain ⟨user, there, waits⟩ := (Option.any_eq_true _ _).1 asks
  obtain ⟨step, pending, isRequest⟩ := (Option.any_eq_true _ _).1 waits
  have inside : step.Inside browsing.steps := (reachable.belongs there).awaits step pending
  obtain rfl : step = .request itemRequest := by
    simp only [← mem_allWritten_iff, browsing, allWritten, Step.written, List.append_nil,
      List.mem_cons, List.cons_append, List.nil_append, List.not_mem_nil, or_false] at inside
    rcases inside with rfl | rfl | rfl | rfl | rfl
    · cases isRequest
    · cases isRequest
    · cases isRequest
    · cases isRequest
    · rfl
  refine ⟨accepted, reachable, user, there, .inr pending, ?_⟩
  have sound := (validation_complete browsing).2.2 Unit engine browsingPlan.transport []
    browsingPlan (Run.Chooses browsingPlan) run 0 user accepted reachable there
  exact sound.1 itemRequest (.inr pending) _ (List.mem_cons_of_mem _ (List.mem_cons_self ..)) _ rfl

end LoadTest
