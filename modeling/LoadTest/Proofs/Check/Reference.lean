import LoadTest.Proofs.Check
import LoadTest.Proofs.Template

/-!
Checks that refer to a variable.

An expectation that is nothing but a placeholder stands for the text of the variable that it names
(`Expected.resolve_reference`).  A text equals no number, list or object, so only texts are compared
then: a found value matches the variable if both read alike (`Json.matches_string`), whatever they
are (`inspect_reference`).
-/

namespace LoadTest

/-- A value matches a text if it reads so. -/
theorem Json.matches_string {found : Json} {text : String} :
    found.matches (.string text) = true ↔ found.inserted = text := by
  have read : (found == .string text) = true → found.inserted = text := by
    cases found with
    | string value =>
        intro equal
        have same : (value == text) = true := equal
        exact eq_of_beq same
    | _ => nofun
  rw [Json.matches, Bool.or_eq_true]
  constructor
  · rintro (equal | alike)
    · exact read equal
    · exact eq_of_beq alike
  · intro same
    right
    rw [same]
    exact beq_self_eq_true _

/-! ### Placeholders that stand alone -/

/-- Nothing but a placeholder. -/
def Template.reference (key : String) : Template := ⟨"#\x7b" ++ key ++ "\x7d"⟩

/-- The expectation that a value reads like a variable. -/
def Expected.reference (key : String) : Expected := .filled (.reference key)

/-- The name of a variable that a placeholder can hold: no brace closes it too early, and no white
space is cut off. -/
structure Template.IsName (key : String) : Prop where
  unclosed : '\x7d' ∉ key.toList
  trimmed : Text.trim key.toList = key.toList

section

variable {session : Session} {key : String} {value : Json}

theorem Template.parts_reference (name : IsName key) :
    (reference key).parts = Reading.parts ⟨[([], key.toList)], []⟩ := by
  have proper : Reading.IsProper ⟨[([], key.toList)], []⟩ := by
    refine Reading.isProper_cons.2 ⟨name.unclosed, Part.not_opening_infix_nil, ?_⟩
    exact ⟨nofun, nofun, .inl Part.not_opening_infix_nil⟩
  have text : Reading.text ⟨[([], key.toList)], []⟩ = (reference key).source.toList := by
    simp [Reading.text, reference, Part.opening]
  obtain ⟨reading, isProper, same, parts⟩ := Reading.exists_isProper (reference key).source.toList
  rw [Template.parts, parts, isProper.eq_of_text_eq proper (same.trans text.symm)]

theorem Template.render_reference (name : IsName key) (bound : session.get? key = some value) :
    (reference key).render session = .ok value.inserted := by
  have named : String.ofList (Text.trim key.toList) = key := by
    rw [name.trimmed, String.ofList_toList]
  have held : ∀ other ∈ Reading.names ⟨[([], key.toList)], []⟩,
      session.get? other = some value := by
    intro other among
    have same : other = String.ofList (Text.trim key.toList) := List.mem_singleton.1 among
    rw [same, named]
    exact bound
  have rendered := Template.render_eq_of_parts (parts_reference name) held
  rw [rendered]
  simp [Reading.filled]

theorem Expected.resolve_reference (name : Template.IsName key)
    (bound : session.get? key = some value) :
    (reference key).resolve session = .ok (.string value.inserted) := by
  rw [reference, resolve, Template.render_reference name bound]
  rfl

end

/-! ### Verdicts -/

section

variable {session : Session} {found : Option Json} {expected : Expected} {value : Json}

theorem Predicate.holds_is (resolves : expected.resolve session = .ok value) :
    (is expected).holds session found = .ok (found.any (·.matches value)) := by
  rw [holds, resolves]
  rfl

theorem Predicate.holds_not (resolves : expected.resolve session = .ok value) :
    (not expected).holds session found = .ok (!found.any (·.matches value)) := by
  rw [holds, resolves]
  rfl

/-- Among choices that can all be resolved the found value has to match one. -/
theorem Predicate.holds_oneOf {choices : List Expected}
    (resolve : ∀ choice ∈ choices, ∃ value, choice.resolve session = .ok value) :
    (oneOf choices).holds session found = .ok true ↔
      ∃ choice ∈ choices, (is choice).holds session found = .ok true := by
  change matchesAny session found choices = .ok true ↔ _
  induction choices with
  | nil => simp [matchesAny]
  | cons choice choices inductionHypothesis =>
      obtain ⟨⟨value, resolves⟩, others⟩ := List.forall_mem_cons.1 resolve
      have first : matchesAny session found (choice :: choices) =
          if found.any (·.matches value) then .ok true
          else matchesAny session found choices := by
        rw [matchesAny, resolves]
        rfl
      rw [first, List.exists_mem_cons_iff, holds_is resolves, ← inductionHypothesis others]
      cases found.any (·.matches value) with
      | true => simp
      | false => simp

end

namespace Check

variable {check : Check} {response : Response} {session : Session}

theorem passes_iff :
    check.Passes response session ↔ ∃ saved, check.inspect response session = .ok saved := by
  constructor
  · intro passes
    exact ⟨_, inspect_of_passes passes⟩
  · rintro ⟨saved, inspected⟩
    by_contra fails
    obtain ⟨failure, failed⟩ := inspect_of_not_passes fails
    cases inspected.symm.trans failed

end Check

/-- A check that looks for the value of a variable passes if what it finds reads like that value: a
string as it is, all else as compact JSON.  So a value that was saved is found again; and the check
that looks for anything but that value passes exactly if this one does not.  Whatever is found, and
even if nothing is, a check with choices that can all be resolved passes exactly if it passes with
one of them. -/
theorem inspect_reference (extractor : Extractor) (saveAs : Option String) (response : Response)
    (session : Session) :
    let passes (predicate : Predicate) : Prop :=
      ∃ saved, (Check.mk extractor predicate saveAs).inspect response session = .ok saved
    (∀ key value found, '\x7d' ∉ key.toList → Text.trim key.toList = key.toList →
      session.get? key = some value → extractor.extract response = .ok (some found) →
      (passes (.is (.reference key)) ↔ found.inserted = value.inserted) ∧
      (found = value → passes (.is (.reference key))) ∧
      (passes (.not (.reference key)) ↔ ¬ passes (.is (.reference key)))) ∧
    ∀ choices : List Expected,
      (∀ choice ∈ choices, ∃ value, choice.resolve session = .ok value) →
      (passes (.oneOf choices) ↔ ∃ choice ∈ choices, passes (.is choice)) := by
  intro passes
  have judged (predicate : Predicate) : passes predicate ↔
      ∃ found, extractor.extract response = .ok found ∧
        predicate.holds session found = .ok true := Check.passes_iff.symm
  refine ⟨fun key value found unclosed trimmed bound extracts => ?_, fun choices resolve => ?_⟩
  · have resolves := Expected.resolve_reference ⟨unclosed, trimmed⟩ bound
    have decided (predicate : Predicate) :
        passes predicate ↔ predicate.holds session (some found) = .ok true := by
      rw [judged, extracts]
      simp
    have meets : passes (.is (.reference key)) ↔ found.inserted = value.inserted := by
      rw [decided, Predicate.holds_is resolves, ← Json.matches_string]
      simp
    refine ⟨meets, ?_, ?_⟩
    · rintro rfl
      exact meets.2 rfl
    · rw [meets, decided, Predicate.holds_not resolves, ← Json.matches_string]
      simp
  · simp only [judged]
    constructor
    · rintro ⟨found, extracts, holds⟩
      obtain ⟨choice, among, holds⟩ := (Predicate.holds_oneOf resolve).1 holds
      exact ⟨choice, among, found, extracts, holds⟩
    · rintro ⟨choice, among, found, extracts, holds⟩
      exact ⟨found, extracts, (Predicate.holds_oneOf resolve).2 ⟨choice, among, holds⟩⟩

/-- The response names its game by a text, the session by a number. -/
def game : Response := ⟨200, [("X-Game", "4"), ("X-Score", "4.0")], [], .zero⟩

theorem inspect_reference_game :
    let session := (Session.forUser 0).set "gameId" (Json.ofNat 4)
    let passes (header : String) (predicate : Predicate) : Prop :=
      ∃ saved, (Check.mk (.header header) predicate none).inspect game session = .ok saved
    session.get? "gameId" = some (Json.ofNat 4) ∧
      passes "x-game" (.is (.reference "gameId")) ∧
      ¬ passes "x-score" (.is (.reference "gameId")) ∧
      passes "x-score" (.not (.reference "gameId")) ∧
      passes "x-game" (.oneOf [.exactly .null, .reference "gameId"]) := by
  intro session passes
  have bound : session.get? "gameId" = some (Json.ofNat 4) := rfl
  obtain ⟨alone, among⟩ := inspect_reference (.header "x-game") none game session
  obtain ⟨otherAlone, _⟩ := inspect_reference (.header "x-score") none game session
  obtain ⟨meets, _, _⟩ :=
    alone "gameId" (Json.ofNat 4) (.string "4") (by decide) (by decide +kernel) bound rfl
  obtain ⟨fails, _, differs⟩ := otherAlone "gameId" (Json.ofNat 4) (.string "4.0") (by decide)
    (by decide +kernel) bound rfl
  have apart : ¬ passes "x-score" (.is (.reference "gameId")) := by
    intro other
    exact absurd (fails.1 other) (by decide +kernel)
  refine ⟨bound, meets.2 (by decide +kernel), apart, differs.2 apart, ?_⟩
  refine (among _ ?_).2 ⟨.reference "gameId", by simp, meets.2 (by decide +kernel)⟩
  intro choice member
  simp only [List.mem_cons, List.not_mem_nil, or_false] at member
  rcases member with rfl | rfl
  · exact ⟨_, rfl⟩
  · exact ⟨_, Expected.resolve_reference ⟨by decide, by decide +kernel⟩ bound⟩

end LoadTest
