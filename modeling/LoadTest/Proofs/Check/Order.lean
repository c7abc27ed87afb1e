import LoadTest.Proofs.Check
import Mathlib.Data.List.Forall2

/-!
Checks in any order.

All checks of a response look at one session, the one before the first of them.  So checks fail with
the first failure that one of them would have alone (`failure_evaluateAll`), whatever the others
save, and their order decides no more than which failure that is and which of several values of one
variable stays (`evaluateAll_perm`).
-/

namespace LoadTest

variable {response : Response} {session : Session}

theorem Session.set_comm {key other : String} (apart : key ≠ other) (value otherValue : Json) :
    (session.set key value).set other otherValue =
      (session.set other otherValue).set key value := by
  refine Session.ext rfl fun name => ?_
  simp only [get?_set]
  by_cases first : name = other
  · subst first
    simp [apart.symm]
  · simp [first]

/-- Pairs for variables that are pairwise different can be set in any order. -/
theorem Session.merge_perm {pairs others : List (String × Json)} (reordered : pairs.Perm others)
    (apart : (pairs.map Prod.fst).Nodup) : session.merge pairs = session.merge others := by
  induction reordered generalizing session with
  | nil => rfl
  | cons pair _ inductionHypothesis =>
      rw [merge_cons, merge_cons]
      exact inductionHypothesis (List.nodup_cons.1 apart).2
  | swap first second pairs =>
      have differ : second.1 ≠ first.1 := by
        intro same
        exact (List.nodup_cons.1 apart).1 (by simp [same])
      simp only [merge_cons]
      rw [set_comm differ]
  | trans earlier _ first second =>
      exact (first apart).trans (second ((earlier.map Prod.fst).nodup_iff.1 apart))

/-! ### The failure -/

theorem failure_cons (check : Check) (checks : List Check) :
    (evaluateAll (check :: checks) response session).failure =
      (evaluateAll [check] response session).failure.or
        (evaluateAll checks response session).failure := by
  simp only [evaluateAll, List.mapM_cons, List.mapM_nil]
  cases check.inspect response session with
  | error failure => rfl
  | ok saved => cases checks.mapM (·.inspect response session) <;> rfl

/-- Checks fail with the first failure that one of them has alone. -/
theorem failure_evaluateAll (checks : List Check) :
    (evaluateAll checks response session).failure =
      checks.findSome? fun check => (evaluateAll [check] response session).failure := by
  induction checks with
  | nil => rfl
  | cons check checks inductionHypothesis =>
      rw [failure_cons, inductionHypothesis, List.findSome?_cons]
      cases (evaluateAll [check] response session).failure <;> rfl

theorem passed_iff (checks : List Check) :
    (evaluateAll checks response session).passed = true ↔
      ∀ check ∈ checks, check.Passes response session := by
  by_cases pass : ∀ check ∈ checks, check.Passes response session
  · rw [evaluateAll_of_passes pass]
    exact iff_of_true rfl pass
  · obtain ⟨failure, failed⟩ := evaluateAll_of_not_passes pass
    rw [failed]
    exact iff_of_false Bool.false_ne_true pass

theorem session_of_not_passed {checks : List Check}
    (failed : (evaluateAll checks response session).passed = false) :
    (evaluateAll checks response session).session = session := by
  have fails : ¬ ∀ check ∈ checks, check.Passes response session := by
    intro pass
    rw [(passed_iff checks).2 pass] at failed
    cases failed
  obtain ⟨failure, same⟩ := evaluateAll_of_not_passes fails
  rw [same]

/-! ### What others save -/

/-- What was expected and what was found. -/
def CheckFailure.reason (failure : CheckFailure) : String × Option String :=
  (failure.expected, failure.found)

/-- Two checks that look for the same, whatever they save. -/
structure Check.LooksAlike (first second : Check) : Prop where
  extractor_eq : first.extractor = second.extractor
  predicate_eq : first.predicate = second.predicate

theorem Check.LooksAlike.reason_eq {first second : Check} (alike : first.LooksAlike second) :
    (evaluateAll [first] response session).failure.map CheckFailure.reason =
      (evaluateAll [second] response session).failure.map CheckFailure.reason := by
  obtain ⟨extractor, predicate, saveAs⟩ := first
  obtain ⟨_, _, otherSave⟩ := second
  obtain ⟨extracts, judges⟩ := alike
  cases extracts
  cases judges
  simp only [evaluateAll, List.mapM_cons, List.mapM_nil, inspect]
  cases extractor.extract response with
  | error fault => rfl
  | ok found =>
      cases held : predicate.holds session found with
      | error missing => simp only [held]; rfl
      | ok holds =>
          cases holds with
          | false => simp only [held]; rfl
          | true =>
              simp only [held]
              cases saveAs <;> cases otherSave <;> cases found <;> rfl

/-- Whatever checks save, they fail for the same reason. -/
theorem reason_evaluateAll {checks others : List Check}
    (alike : List.Forall₂ Check.LooksAlike checks others) :
    (evaluateAll checks response session).failure.map CheckFailure.reason =
      (evaluateAll others response session).failure.map CheckFailure.reason := by
  induction alike with
  | nil => rfl
  | @cons check other checks others alike _ inductionHypothesis =>
      rw [failure_cons, failure_cons other, Option.map_or, Option.map_or, alike.reason_eq,
        inductionHypothesis]

/-- Checks pass in one order if and only if they pass in another, and then with the same session if
no two of them save under one name.  If they fail, they leave the session as it was, and the failure
is the first that a check has alone; what the checks would save has no part in it. -/
theorem evaluateAll_perm {checks others : List Check} (response : Response) (session : Session)
    (reordered : checks.Perm others) :
    let first := evaluateAll checks response session
    let second := evaluateAll others response session
    first.passed = second.passed ∧
    (first.passed = true → ((checks.filterMap (·.save? response)).map Prod.fst).Nodup →
      first.session = second.session) ∧
    (first.passed = false → first.session = session ∧ second.session = session) ∧
    (first.failure = checks.findSome? fun check =>
      (evaluateAll [check] response session).failure) ∧
    (second.failure = others.findSome? fun check =>
      (evaluateAll [check] response session).failure) ∧
    ∀ alike, List.Forall₂ Check.LooksAlike checks alike →
      (evaluateAll alike response session).failure.map CheckFailure.reason =
        first.failure.map CheckFailure.reason := by
  intro first second
  have verdict : first.passed = second.passed := by
    apply Bool.eq_iff_iff.2
    rw [passed_iff, passed_iff]
    exact forall_congr' fun check => imp_congr_left reordered.mem_iff
  refine ⟨verdict, ?_, ?_, failure_evaluateAll checks, failure_evaluateAll others, ?_⟩
  · intro passed apart
    have pass := (passed_iff checks).1 passed
    have passOthers := (passed_iff others).1 (verdict ▸ passed)
    have savesOf := evaluateAll_of_passes pass
    have savesOfOthers := evaluateAll_of_passes passOthers
    simp only [first, second, savesOf, savesOfOthers]
    exact Session.merge_perm (reordered.filterMap _) apart
  · intro failed
    exact ⟨session_of_not_passed failed, session_of_not_passed (verdict ▸ failed)⟩
  · intro alike looks
    exact (reason_evaluateAll looks).symm

/-- A check that saves a new token, and one that looks for the old one. -/
def renewal : List Check :=
  [⟨.header "X-Token", .present, some "token"⟩,
    ⟨.header "X-Former", .is (.filled ⟨"#\x7btoken\x7d"⟩), some "former"⟩]

def renewed : Response := ⟨200, [("X-Token", "new"), ("X-Former", "old")], [], .zero⟩

theorem evaluateAll_perm_renewal :
    let before := (Session.forUser 3).set "token" (.string "old")
    let first := evaluateAll renewal renewed before
    let second := evaluateAll renewal.reverse renewed before
    renewal.Perm renewal.reverse ∧ second.passed = true ∧ first.session = second.session ∧
      first.session.getString? "token" = some "new" ∧
      first.session.getString? "former" = some "old" := by
  intro before first second
  have reordered : renewal.Perm renewal.reverse := (List.reverse_perm renewal).symm
  have passed : first.passed = true := by decide +kernel
  obtain ⟨verdict, sessions, _⟩ := evaluateAll_perm renewed before reordered
  exact ⟨reordered, verdict ▸ passed, sessions passed (by decide +kernel), by decide +kernel,
    by decide +kernel⟩

end LoadTest
