import LoadTest.Http.Request
import LoadTest.Proofs.Check.Order

/-!
Optional checks.

An optional check passes wherever its extractor can read the response: whether a value is found
makes no difference.  Only the extractor of a member can fail to read, namely a body that is not
JSON, and then the check fails although it is optional (`inspect_optional`,
`optional_fails_without_json`).
-/

namespace LoadTest

variable {response : Response} {session : Session}

/-- An extractor can read a response: a member is looked for in JSON only. -/
def Extractor.Reads (extractor : Extractor) (response : Response) : Prop :=
  ∀ path, extractor = .member path → ∃ document, Json.read response.body = .ok document

/-- Two lists woven into one that keeps the order of each. -/
inductive Woven {Item : Type} : List Item → List Item → List Item → Prop
  | nil : Woven [] [] []
  | left {item firsts seconds both} :
      Woven firsts seconds both → Woven (item :: firsts) seconds (item :: both)
  | right {item firsts seconds both} :
      Woven firsts seconds both → Woven firsts (item :: seconds) (item :: both)

theorem Woven.perm {Item : Type} {firsts seconds both : List Item}
    (woven : Woven firsts seconds both) : both.Perm (firsts ++ seconds) := by
  induction woven with
  | nil => exact .nil
  | left _ inductionHypothesis => exact inductionHypothesis.cons _
  | right _ inductionHypothesis =>
      exact (inductionHypothesis.cons _).trans List.perm_middle.symm

/-! ### One check -/

theorem Extractor.extract_member (path : JsonPath) :
    (Extractor.member path).extract response = (Json.read response.body).map path.select := by
  simp only [extract]
  cases Json.read response.body <;> rfl

theorem Extractor.exists_extract_iff {extractor : Extractor} :
    (∃ found, extractor.extract response = .ok found) ↔ extractor.Reads response := by
  cases extractor with
  | status => exact iff_of_true ⟨_, rfl⟩ nofun
  | header name => exact iff_of_true ⟨_, rfl⟩ nofun
  | body => exact iff_of_true ⟨_, rfl⟩ nofun
  | member path =>
      rw [extract_member]
      cases reading : Json.read response.body with
      | ok document => exact iff_of_true ⟨_, rfl⟩ fun _ _ => ⟨document, reading⟩
      | error fault =>
          apply iff_of_false
          · rintro ⟨found, extracted⟩
            cases extracted
          · intro reads
            obtain ⟨document, same⟩ := reads path rfl
            cases reading.symm.trans same

namespace Check

variable {check : Check}

theorem passes_of_optional (optional : check.predicate = .optional) :
    check.Passes response session ↔ check.extractor.Reads response := by
  rw [← Extractor.exists_extract_iff]
  constructor
  · rintro ⟨found, extracted, _⟩
    exact ⟨found, extracted⟩
  · rintro ⟨found, extracted⟩
    exact ⟨found, extracted, by rw [optional]; rfl⟩

theorem save?_eq_some_iff {key : String} {value : Json} :
    check.save? response = some (key, value) ↔
      check.saveAs = some key ∧ check.extractor.extract response = .ok (some value) := by
  unfold save?
  split
  next other found saves extracts => simp [saves, extracts]
  next others =>
    refine iff_of_false nofun ?_
    rintro ⟨saves, extracts⟩
    exact others key value saves extracts

theorem inspect_of_not_reads (unread : ¬ check.extractor.Reads response) :
    ∃ fault, Json.read response.body = .error fault ∧
      check.inspect response session = .error
        (check.failure ("body is not valid JSON: " ++ fault.message response.body) none) := by
  simp only [Extractor.Reads, not_forall] at unread
  obtain ⟨path, looks, unreadable⟩ := unread
  cases reading : Json.read response.body with
  | ok document => exact absurd ⟨document, reading⟩ unreadable
  | error fault =>
      refine ⟨fault, rfl, ?_⟩
      simp only [inspect, looks, Extractor.extract_member, reading]
      rfl

end Check

/-! ### Among other checks -/

/-- Optional checks change the verdict only where they cannot read the response. -/
theorem passed_of_woven {checks extra both : List Check} (woven : Woven checks extra both)
    (optional : ∀ check ∈ extra, check.predicate = .optional) :
    (evaluateAll both response session).passed = true ↔
      (evaluateAll checks response session).passed = true ∧
        ∀ check ∈ extra, check.extractor.Reads response := by
  have members (check : Check) : check ∈ both ↔ check ∈ checks ∨ check ∈ extra := by
    rw [woven.perm.mem_iff, List.mem_append]
  simp only [passed_iff, members]
  constructor
  · intro pass
    refine ⟨fun check member => pass check (.inl member), fun check member => ?_⟩
    exact (Check.passes_of_optional (optional check member)).1 (pass check (.inr member))
  · rintro ⟨pass, reads⟩ check (member | member)
    · exact pass check member
    · exact (Check.passes_of_optional (optional check member)).2 (reads check member)

/-- The implicit check stays in front of what is woven from checks that are no status checks. -/
theorem Request.effectiveChecks_woven {request : Request} {extra both : List Check}
    (woven : Woven request.checks extra both)
    (others : ∀ check ∈ extra, check.isStatusCheck = false) :
    Woven request.effectiveChecks extra { request with checks := both }.effectiveChecks := by
  have none : extra.any Check.isStatusCheck = false := by
    simpa using others
  have same : both.any Check.isStatusCheck = request.checks.any Check.isStatusCheck := by
    rw [woven.perm.any_eq, List.any_append, none, Bool.or_false]
  cases declared : request.checks.any Check.isStatusCheck with
  | true => simpa [effectiveChecks, hasStatusCheck, same, declared] using woven
  | false => simpa [effectiveChecks, hasStatusCheck, same, declared] using Woven.left woven

/-- An optional check passes if its extractor can read the response, and saves what was found if it
has a name for it.  It fails if it looks for a member of a body that is not JSON.  So optional
checks among others change the verdict only where they cannot read the response; if they are no
status checks, this is so for the checks of a request too. -/
theorem inspect_optional (response : Response) (session : Session) :
    (∀ check : Check, check.predicate = .optional →
      (check.extractor.Reads response → ∃ saved, check.inspect response session = .ok saved ∧
        ∀ key value, saved = some (key, value) ↔
          check.saveAs = some key ∧ check.extractor.extract response = .ok (some value)) ∧
      (¬ check.extractor.Reads response → ∃ fault, Json.read response.body = .error fault ∧
        check.inspect response session = .error
          (check.failure ("body is not valid JSON: " ++ fault.message response.body) none))) ∧
    (∀ checks extra both, Woven checks extra both →
      (∀ check ∈ extra, check.predicate = .optional) →
      ((evaluateAll both response session).passed = true ↔
        (evaluateAll checks response session).passed = true ∧
          ∀ check ∈ extra, check.extractor.Reads response)) ∧
    ∀ (request : Request) extra both, Woven request.checks extra both →
      (∀ check ∈ extra, check.predicate = .optional ∧ check.isStatusCheck = false) →
      ((evaluateAll { request with checks := both }.effectiveChecks response session).passed =
          true ↔
        (evaluateAll request.effectiveChecks response session).passed = true ∧
          ∀ check ∈ extra, check.extractor.Reads response) := by
  refine ⟨fun check optional => ⟨fun reads => ?_, Check.inspect_of_not_reads⟩, ?_, ?_⟩
  · have passes : check.Passes response session := (Check.passes_of_optional optional).2 reads
    exact ⟨_, Check.inspect_of_passes passes, fun _ _ => Check.save?_eq_some_iff⟩
  · intro checks extra both woven optional
    exact passed_of_woven woven optional
  · intro request extra both woven optional
    have others := Request.effectiveChecks_woven woven fun check member => (optional check member).2
    exact passed_of_woven others fun check member => (optional check member).1

/-- The body is the JSON text `[7]`. -/
def listing : Response := ⟨404, [], [0x5B, 0x37, 0x5D], .zero⟩

theorem inspect_optional_listing :
    let declared : Check := ⟨.status, .present, none⟩
    let first : Check := ⟨.member ⟨"$[0]"⟩, .optional, some "first"⟩
    let missing : Check := ⟨.header "X-Next", .optional, some "next"⟩
    Woven [declared] [first, missing] [first, declared, missing] ∧
      (∀ check ∈ [first, missing],
        check.predicate = .optional ∧ check.extractor.Reads listing) ∧
      (∃ saved, missing.inspect listing (.forUser 0) = .ok saved ∧ saved = none) ∧
      (evaluateAll [first, declared, missing] listing (.forUser 0)).passed = true := by
  intro declared first missing
  have woven : Woven [declared] [first, missing] [first, declared, missing] :=
    .right (.left (.right .nil))
  have readable : (Json.read listing.body).toOption.isSome = true := by
    decide +kernel
  have document : ∃ document, Json.read listing.body = .ok document := by
    cases reading : Json.read listing.body with
    | ok document => exact ⟨document, rfl⟩
    | error fault => simp [reading, Except.toOption] at readable
  have optional : ∀ check ∈ [first, missing],
      check.predicate = .optional ∧ check.extractor.Reads listing := by
    intro check member
    simp only [List.mem_cons, List.not_mem_nil, or_false] at member
    obtain rfl | rfl := member
    · exact ⟨rfl, fun _ _ => document⟩
    · exact ⟨rfl, fun _ _ => document⟩
  obtain ⟨alone, among, _⟩ := inspect_optional listing (.forUser 0)
  obtain ⟨saved, passes, saves⟩ := (alone missing rfl).1 (fun _ _ => document)
  refine ⟨woven, optional, ⟨saved, passes, ?_⟩, ?_⟩
  · cases saved with
    | none => rfl
    | some pair => cases ((saves pair.1 pair.2).1 rfl).2
  · exact (among _ _ _ woven fun check member => (optional check member).1).2
      ⟨rfl, fun check member => (optional check member).2⟩

/-- The body is the text `<html>`. -/
def page : Response := ⟨200, [], [0x3C, 0x68, 0x74, 0x6D, 0x6C, 0x3E], .zero⟩

/-- An optional check with a proper path fails on a page, and so does a list of checks that passes
without it. -/
theorem optional_fails_without_json :
    let check : Check := ⟨.member ⟨"$.token"⟩, .optional, some "token"⟩
    (⟨"$.token"⟩ : JsonPath).error? = none ∧ check.isStatusCheck = false ∧
      Woven [] [check] [check] ∧
      (evaluateAll [] page (.forUser 0)).passed = true ∧
      (evaluateAll [check] page (.forUser 0)).failure = some
        ⟨"jsonPath($.token).optional.saveAs(token)",
          "body is not valid JSON: expected value at line 1 column 1", none⟩ := by
  intro check
  exact ⟨by decide +kernel, rfl, .right .nil, rfl, by decide +kernel⟩

end LoadTest
