import LoadTest.Check
import LoadTest.Proofs.SortedMap

/-!
What the checks of a response come to.

A check passes or not against a session that it leaves alone (`Check.Passes`), and what it
saves depends on the response alone (`Check.save?`).  Running checks writes all of their saves
if all of them pass and nothing otherwise.
-/

namespace LoadTest

namespace Session

/-- Of several values for one variable the last one counts. -/
theorem get?_merge (session : Session) (pairs : List (String × Json)) (key : String) :
    (session.merge pairs).get? key = (pairs.reverse.lookup key).or (session.get? key) :=
  session.bindings.get?_insertMany pairs key

end Session

theorem Json.ofNat_matches {found expected : Nat} :
    (Json.ofNat found).matches (Json.ofNat expected) = true ↔ found = expected := by
  have text (count : Nat) : (Json.ofNat count).inserted = count.repr := rfl
  constructor
  · intro alike
    obtain equal | written := Bool.or_eq_true_iff.1 alike
    · have same : (found : Int) = expected := eq_of_beq equal
      exact Int.ofNat_inj.1 same
    · have same : found.repr = expected.repr := by
        simpa [text] using written
      rw [Nat.repr_eq_ofList_toDigits, Nat.repr_eq_ofList_toDigits, String.ofList_inj] at same
      have digits := congrArg (Nat.ofDigitChars 10 · 0) same
      simpa [Nat.ofDigitChars_toDigits] using digits
  · rintro rfl
    simp [Json.matches]

namespace Check

variable {check : Check} {response : Response} {session : Session}

def Passes (check : Check) (response : Response) (session : Session) : Prop :=
  ∃ found, check.extractor.extract response = .ok found ∧
    check.predicate.holds session found = .ok true

/-- The pair that a check saves if it passes. -/
def save? (check : Check) (response : Response) : Option (String × Json) :=
  match check.saveAs, check.extractor.extract response with
  | some key, .ok (some value) => some (key, value)
  | _, _ => none

theorem inspect_of_passes (passes : check.Passes response session) :
    check.inspect response session = .ok (check.save? response) := by
  obtain ⟨found, extracted, holds⟩ := passes
  simp only [inspect, save?, extracted, holds]
  cases check.saveAs with
  | none => cases found <;> rfl
  | some key => cases found <;> rfl

theorem inspect_of_not_passes (fails : ¬ check.Passes response session) :
    ∃ failure, check.inspect response session = .error failure := by
  cases extracted : check.extractor.extract response with
  | error fault => exact ⟨_, by simp only [inspect, extracted]; rfl⟩
  | ok found =>
      cases held : check.predicate.holds session found with
      | error missing => exact ⟨_, by simp only [inspect, extracted, held]; rfl⟩
      | ok holds =>
          cases holds with
          | false => exact ⟨_, by simp only [inspect, extracted, held]; rfl⟩
          | true => exact absurd ⟨found, extracted, held⟩ fails

theorem matchesAny_exactly (found value : Json) (choices : List Expected) :
    Predicate.matchesAny session (some found) (.exactly value :: choices) =
      if found.matches value then .ok true
      else Predicate.matchesAny session (some found) choices := rfl

/-- Whether a number is among plain numbers. -/
theorem matchesAny_ofNat (found : Nat) (choices : List Nat) :
    Predicate.matchesAny session (some (Json.ofNat found))
        (choices.map fun choice => .exactly (Json.ofNat choice)) =
      .ok (decide (found ∈ choices)) := by
  induction choices with
  | nil => rfl
  | cons choice choices inductionHypothesis =>
      rw [List.map_cons, matchesAny_exactly]
      by_cases same : found = choice
      · rw [if_pos (Json.ofNat_matches.2 same)]
        simp [same]
      · rw [if_neg (mt Json.ofNat_matches.1 same), inductionHypothesis]
        simp [same]

theorem mem_successStatuses {status : Nat} :
    status ∈ successStatuses ↔ 200 ≤ status ∧ status ≤ 209 ∨ status = 304 := by
  simp only [successStatuses, List.mem_append, List.mem_map, List.mem_range, List.mem_singleton]
  constructor
  · rintro (⟨above, small, rfl⟩ | other)
    · left
      omega
    · exact .inr other
  · rintro (⟨low, high⟩ | other)
    · left
      exact ⟨status - 200, by omega, by omega⟩
    · exact .inr other

theorem passes_implicitStatus :
    implicitStatus.Passes response session ↔
      200 ≤ response.status ∧ response.status ≤ 209 ∨ response.status = 304 := by
  have judged : implicitStatus.predicate.holds session (some (Json.ofNat response.status)) =
      .ok (decide (response.status ∈ successStatuses)) :=
    matchesAny_ofNat response.status successStatuses
  rw [← mem_successStatuses]
  constructor
  · rintro ⟨found, extracted, holds⟩
    cases extracted
    simpa using judged.symm.trans holds
  · intro among
    refine ⟨some (Json.ofNat response.status), rfl, ?_⟩
    rw [judged, decide_eq_true among]

end Check

variable {checks : List Check} {response : Response} {session : Session}

theorem mapM_inspect_of_passes (pass : ∀ check ∈ checks, check.Passes response session) :
    checks.mapM (·.inspect response session) = .ok (checks.map (·.save? response)) := by
  induction checks with
  | nil => rfl
  | cons check checks inductionHypothesis =>
      obtain ⟨passes, others⟩ := List.forall_mem_cons.1 pass
      rw [List.mapM_cons, Check.inspect_of_passes passes, inductionHypothesis others]
      rfl

theorem mapM_inspect_of_not_passes (fails : ¬ ∀ check ∈ checks, check.Passes response session) :
    ∃ failure, checks.mapM (·.inspect response session) = .error failure := by
  induction checks with
  | nil => exact absurd (by simp) fails
  | cons check checks inductionHypothesis =>
      rw [List.mapM_cons]
      by_cases passes : check.Passes response session
      · have others : ¬ ∀ check ∈ checks, check.Passes response session := by
          intro others
          exact fails (List.forall_mem_cons.2 ⟨passes, others⟩)
        obtain ⟨failure, failed⟩ := inductionHypothesis others
        exact ⟨failure, by rw [Check.inspect_of_passes passes, failed]; rfl⟩
      · obtain ⟨failure, failed⟩ := Check.inspect_of_not_passes passes
        exact ⟨failure, by rw [failed]; rfl⟩

theorem evaluateAll_of_passes (pass : ∀ check ∈ checks, check.Passes response session) :
    evaluateAll checks response session =
      ⟨session.merge (checks.filterMap (·.save? response)), none⟩ := by
  have inspected := mapM_inspect_of_passes pass
  simp only [evaluateAll, inspected, List.filterMap_map]
  rfl

theorem evaluateAll_of_not_passes
    (fails : ¬ ∀ check ∈ checks, check.Passes response session) :
    ∃ failure, evaluateAll checks response session = ⟨session, some failure⟩ := by
  obtain ⟨failure, failed⟩ := mapM_inspect_of_not_passes fails
  exact ⟨failure, by simp only [evaluateAll, failed]⟩

end LoadTest
