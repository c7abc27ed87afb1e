import LoadTest.Template
import Mathlib.Data.List.Infix

/-!
How a template is read, and what it is filled with.

A text can be cut in one way only into literal pieces with a placeholder behind each of them and a
tail that no placeholder is left in (`Reading.IsProper`, `Reading.eq_of_text_eq`); the parts of a
template are the pieces of that reading.  Whatever looks variables up one after another
(`Session.Resolves`) stops at the first one that is missing, and a template looks up its names from
left to right.
-/

namespace LoadTest

/-! ### Looking up variables -/

namespace Session

variable {Result Item : Type} {session : Session}

/-- What comes of looking up variables in this order: the first that is missing, or a result if none
is. -/
def Resolves (session : Session) (names : List String) (result : Except Unresolved Result) : Prop :=
  ∀ missing, result = .error missing ↔
    names.find? (fun name => !session.contains name) = some missing.name

theorem find?_eq_none_iff {names : List String} :
    names.find? (fun name => !session.contains name) = none ↔
      ∀ name ∈ names, session.contains name = true := by
  simp [List.find?_eq_none]

theorem resolves_ok (result : Result) : session.Resolves [] (.ok result) := by
  intro missing
  simp

theorem Resolves.find?_eq_none {names : List String} {value : Result}
    (resolves : session.Resolves names (.ok value)) :
    names.find? (fun name => !session.contains name) = none := by
  apply Option.eq_none_iff_forall_ne_some.2
  intro name first
  cases (resolves ⟨name⟩).2 first

theorem Resolves.exists_ok_iff {names : List String} {result : Except Unresolved Result}
    (resolves : session.Resolves names result) :
    (∃ value, result = .ok value) ↔ ∀ name ∈ names, session.contains name = true := by
  rw [← find?_eq_none_iff]
  cases result with
  | ok value => simp [resolves.find?_eq_none]
  | error missing =>
      have first := (resolves missing).1 rfl
      simp [first]

theorem Resolves.bind {Other : Type} {first second : List String}
    {result : Except Unresolved Result} {next : Result → Except Unresolved Other}
    (resolves : session.Resolves first result)
    (onward : ∀ value, result = .ok value → session.Resolves second (next value)) :
    session.Resolves (first ++ second) (result >>= next) := by
  intro missing
  rw [List.find?_append]
  cases result with
  | error earlier =>
      have found := (resolves earlier).1 rfl
      have stops : (Except.error earlier >>= next) = .error earlier := rfl
      cases earlier
      cases missing
      rw [found, stops, Option.some_or]
      simp
  | ok value =>
      rw [resolves.find?_eq_none, Option.none_or]
      exact onward value rfl missing

theorem Resolves.map {Other : Type} {names : List String} {result : Except Unresolved Result}
    (resolves : session.Resolves names result) (change : Result → Other) :
    session.Resolves names (do return change (← result)) := by
  have both := resolves.bind fun value _ => resolves_ok (change value)
  rwa [List.append_nil] at both

theorem resolves_mapM {names : Item → List String} {look : Item → Except Unresolved Result}
    (resolves : ∀ item, session.Resolves (names item) (look item)) (items : List Item) :
    session.Resolves (items.flatMap names) (items.mapM look) := by
  induction items with
  | nil => exact resolves_ok []
  | cons item items inductionHypothesis =>
      rw [List.mapM_cons, List.flatMap_cons]
      apply (resolves item).bind
      intro value _
      exact inductionHypothesis.map (value :: ·)

end Session

/-! ### Marks in a text -/

namespace Part

/-- What a placeholder begins with. -/
def opening : List Char := ['#', '\x7b']

theorem not_opening_infix_nil : ¬ opening <:+: [] := by
  simp [opening]

theorem opening_infix_cons (first : Char) {text : List Char} :
    opening <:+: first :: text ↔ first = '#' ∧ text.head? = some '\x7b' ∨ opening <:+: text := by
  rw [List.infix_cons_iff]
  apply or_congr_left
  cases text with
  | nil => simp [opening]
  | cons second text => simp [opening, eq_comm]

theorem splitOpening_append {before : List Char} (behind : List Char)
    (unmarked : ¬ opening <:+: before) :
    splitOpening (before ++ opening ++ behind) = some (before, behind) := by
  induction before with
  | nil => simp [splitOpening, opening]
  | cons first before inductionHypothesis =>
      rw [opening_infix_cons, not_or] at unmarked
      obtain ⟨notHere, notLater⟩ := unmarked
      have later := inductionHypothesis notLater
      cases before with
      | nil => simp_all [splitOpening, opening]
      | cons second before =>
          simp only [List.cons_append] at later ⊢
          rw [splitOpening, if_neg (by simpa using notHere), later, Option.map_some]

theorem splitOpening_eq_none_iff {text : List Char} :
    splitOpening text = none ↔ ¬ opening <:+: text := by
  fun_induction splitOpening text with
  | case1 => simp [opening]
  | case2 only =>
      rw [opening_infix_cons]
      simp [opening]
  | case3 first second rest opens => simp [opening_infix_cons, opens]
  | case4 first second rest passes inductionHypothesis =>
      rw [Option.map_eq_none_iff, inductionHypothesis, opening_infix_cons first]
      simp [passes]

/-- The split is at the first opening. -/
theorem unmarked_of_splitOpening {text before behind : List Char}
    (found : splitOpening text = some (before, behind)) : ¬ opening <:+: before := by
  fun_induction splitOpening text generalizing before with
  | case1 => cases found
  | case2 => cases found
  | case3 first second rest opens =>
      cases found
      exact not_opening_infix_nil
  | case4 first second rest passes inductionHypothesis =>
      obtain ⟨⟨inner, left⟩, later, same⟩ := Option.map_eq_some_iff.1 found
      cases same
      rw [opening_infix_cons, not_or]
      refine ⟨?_, inductionHypothesis later⟩
      have text := splitOpening_eq_some later
      rintro ⟨hash, brace⟩
      cases inner with
      | nil => cases brace
      | cons character inner =>
          cases brace
          cases text
          exact passes ⟨hash, rfl⟩

theorem splitClosing_append {before : List Char} (behind : List Char)
    (unclosed : '\x7d' ∉ before) :
    splitClosing (before ++ '\x7d' :: behind) = some (before, behind) := by
  induction before with
  | nil => simp [splitClosing]
  | cons first before inductionHypothesis =>
      rw [List.mem_cons, not_or] at unclosed
      rw [List.cons_append, splitClosing, if_neg (Ne.symm unclosed.1),
        inductionHypothesis unclosed.2, Option.map_some]

theorem splitClosing_eq_none_iff {text : List Char} :
    splitClosing text = none ↔ '\x7d' ∉ text := by
  fun_induction splitClosing text with
  | case1 => simp
  | case2 rest => simp
  | case3 character rest passes inductionHypothesis =>
      simp [inductionHypothesis, Ne.symm passes]

theorem unclosed_of_splitClosing {text before behind : List Char}
    (found : splitClosing text = some (before, behind)) : '\x7d' ∉ before := by
  fun_induction splitClosing text generalizing before with
  | case1 => cases found
  | case2 rest =>
      cases found
      exact List.not_mem_nil
  | case3 character rest passes inductionHypothesis =>
      obtain ⟨⟨inner, left⟩, later, same⟩ := Option.map_eq_some_iff.1 found
      cases same
      rw [List.mem_cons, not_or]
      exact ⟨Ne.symm passes, inductionHypothesis later⟩

end Part

/-! ### Readings -/

/-- A text cut up: literal pieces, each with what its placeholder holds, and the tail behind the last
placeholder. -/
structure Reading where
  marked : List (List Char × List Char)
  tail : List Char

namespace Reading

open LoadTest.Part (opening)

/-- The text that was cut up. -/
def text (reading : Reading) : List Char :=
  reading.marked.flatMap (fun (literal, inner) => literal ++ opening ++ (inner ++ ['\x7d'])) ++
    reading.tail

/-- The names that the placeholders hold, from left to right. -/
def names (reading : Reading) : List String :=
  reading.marked.map fun (_, inner) => String.ofList (Text.trim inner)

/-- The text with something else in the place of every placeholder. -/
def filled (reading : Reading) (shown : String → String) : String :=
  String.ofList
    (reading.marked.flatMap (fun (literal, inner) =>
      literal ++ (shown (String.ofList (Text.trim inner))).toList) ++ reading.tail)

/-- A placeholder ends at the next closing brace, begins at the next opening and is not overlooked in
the tail. -/
structure IsProper (reading : Reading) : Prop where
  unclosed : ∀ piece ∈ reading.marked, '\x7d' ∉ piece.2
  unmarked : ∀ piece ∈ reading.marked, ¬ opening <:+: piece.1
  ends : ¬ opening <:+: reading.tail ∨
    ∃ before behind, reading.tail = before ++ opening ++ behind ∧ ¬ opening <:+: before ∧
      '\x7d' ∉ behind

/-- The parts of a template that is read so. -/
def parts (reading : Reading) : List Part :=
  reading.marked.flatMap (fun (literal, inner) =>
    Part.literals literal ++ [.placeholder (String.ofList (Text.trim inner))]) ++
    Part.literals reading.tail

variable {reading : Reading} {literal inner tail : List Char} {marked : List (List Char × List Char)}

theorem text_cons :
    text ⟨(literal, inner) :: marked, tail⟩ =
      literal ++ opening ++ (inner ++ '\x7d' :: text ⟨marked, tail⟩) := by
  simp [text]

theorem isProper_cons :
    IsProper ⟨(literal, inner) :: marked, tail⟩ ↔
      '\x7d' ∉ inner ∧ ¬ opening <:+: literal ∧ IsProper ⟨marked, tail⟩ := by
  constructor
  · intro proper
    obtain ⟨unclosed, others⟩ := List.forall_mem_cons.1 proper.unclosed
    obtain ⟨unmarked, rest⟩ := List.forall_mem_cons.1 proper.unmarked
    exact ⟨unclosed, unmarked, others, rest, proper.ends⟩
  · rintro ⟨unclosed, unmarked, proper⟩
    exact ⟨List.forall_mem_cons.2 ⟨unclosed, proper.unclosed⟩,
      List.forall_mem_cons.2 ⟨unmarked, proper.unmarked⟩, proper.ends⟩

/-- A proper tail holds no placeholder. -/
theorem IsProper.splitClosing_eq_none (proper : IsProper ⟨[], tail⟩) {before behind : List Char}
    (found : Part.splitOpening tail = some (before, behind)) :
    Part.splitClosing behind = none := by
  rw [Part.splitClosing_eq_none_iff]
  rcases proper.ends with unmarked | ⟨before', behind', cut, unmarked, unclosed⟩
  · rw [Part.splitOpening_eq_none_iff.2 unmarked] at found
    cases found
  · change tail = _ at cut
    rw [cut, Part.splitOpening_append behind' unmarked] at found
    cases found
    exact unclosed

/-- The first placeholder of a text is found where a proper reading has it. -/
theorem IsProper.split (proper : IsProper ⟨(literal, inner) :: marked, tail⟩) :
    ∃ behind, Part.splitOpening (text ⟨(literal, inner) :: marked, tail⟩) = some (literal, behind) ∧
      Part.splitClosing behind = some (inner, text ⟨marked, tail⟩) := by
  obtain ⟨unclosed, unmarked, -⟩ := isProper_cons.1 proper
  rw [text_cons]
  exact ⟨_, Part.splitOpening_append _ unmarked, Part.splitClosing_append _ unclosed⟩

/-- There is one proper reading of a text. -/
theorem IsProper.eq_of_text_eq {first second : Reading} (proper : first.IsProper)
    (otherProper : second.IsProper) (same : first.text = second.text) : first = second := by
  obtain ⟨marked, tail⟩ := first
  obtain ⟨others, otherTail⟩ := second
  induction marked generalizing others with
  | nil =>
      cases others with
      | nil => exact congrArg (Reading.mk []) same
      | cons piece others =>
          obtain ⟨behind, opened, closed⟩ := otherProper.split
          rw [← same] at opened
          rw [proper.splitClosing_eq_none opened] at closed
          cases closed
  | cons piece marked inductionHypothesis =>
      obtain ⟨behind, opened, closed⟩ := proper.split
      cases others with
      | nil =>
          rw [same] at opened
          rw [otherProper.splitClosing_eq_none opened] at closed
          cases closed
      | cons other others =>
          obtain ⟨otherBehind, otherOpened, otherClosed⟩ := otherProper.split
          rw [same, otherOpened, Option.some.injEq, Prod.mk.injEq] at opened
          obtain ⟨sameLiteral, rfl⟩ := opened
          rw [otherClosed, Option.some.injEq, Prod.mk.injEq] at closed
          obtain ⟨sameInner, sameRest⟩ := closed
          have rest := inductionHypothesis (isProper_cons.1 proper).2.2 others
            (isProper_cons.1 otherProper).2.2 sameRest.symm
          cases rest
          rw [Prod.ext sameLiteral sameInner]

/-- Every text has a proper reading, and its parts are those that the text is read as. -/
theorem exists_isProper (source : List Char) :
    ∃ reading : Reading, reading.IsProper ∧ reading.text = source ∧
      Part.ofSource source = reading.parts := by
  fun_induction Part.ofSource source with
  | case1 source unmarked =>
      refine ⟨⟨[], source⟩, ⟨by simp, by simp, .inl ?_⟩, rfl, rfl⟩
      exact Part.splitOpening_eq_none_iff.1 unmarked
  | case2 source before behind opened unclosed =>
      refine ⟨⟨[], source⟩, ⟨by simp, by simp, .inr ⟨before, behind, ?_, ?_, ?_⟩⟩, rfl, rfl⟩
      · simpa [opening] using Part.splitOpening_eq_some opened
      · exact Part.unmarked_of_splitOpening opened
      · exact Part.splitClosing_eq_none_iff.1 unclosed
  | case3 source before behind opened name rest closed inductionHypothesis =>
      obtain ⟨⟨marked, tail⟩, proper, same, parts⟩ := inductionHypothesis
      refine ⟨⟨(before, name) :: marked, tail⟩, isProper_cons.2 ⟨?_, ?_, proper⟩, ?_, ?_⟩
      · exact Part.unclosed_of_splitClosing closed
      · exact Part.unmarked_of_splitOpening opened
      · rw [text_cons, same, Part.splitOpening_eq_some opened, Part.splitClosing_eq_some closed]
        simp [opening]
      · rw [parts]
        simp [Reading.parts]

end Reading

/-! ### Filling -/

namespace Part

variable {session : Session}

/-- The text of a part whose placeholder is filled. -/
def filled (shown : String → String) : Part → String
  | .literal text => text
  | .placeholder name => shown name

theorem resolves_render (part : Part) :
    session.Resolves part.name?.toList (part.render session) := by
  cases part with
  | literal text => exact Session.resolves_ok text
  | placeholder name =>
      intro missing
      cases found : session.get? name with
      | none =>
          have absent : session.contains name = false := congrArg Option.isSome found
          cases missing
          simp [render, name?, found, absent]
      | some value =>
          have present : session.contains name = true := congrArg Option.isSome found
          simp [render, name?, found, present]

theorem mapM_render {values : String → Json} {parts : List Part}
    (held : ∀ name ∈ parts.filterMap name?, session.get? name = some (values name)) :
    parts.mapM (render session) = .ok (parts.map (filled fun name => (values name).inserted)) := by
  induction parts with
  | nil => rfl
  | cons part parts inductionHypothesis =>
      cases part with
      | literal text =>
          rw [List.mapM_cons, inductionHypothesis held]
          rfl
      | placeholder name =>
          obtain ⟨here, others⟩ := List.forall_mem_cons.1 held
          have shown : render session (.placeholder name) = .ok (values name).inserted := by
            simp only [render, here]
          rw [List.mapM_cons, shown, inductionHypothesis others]
          rfl

theorem mapM_render_congr {other : Session} {parts : List Part}
    (alike : ∀ name ∈ parts.filterMap name?, session.get? name = other.get? name) :
    parts.mapM (render session) = parts.mapM (render other) := by
  induction parts with
  | nil => rfl
  | cons part parts inductionHypothesis =>
      cases part with
      | literal text =>
          rw [List.mapM_cons, List.mapM_cons, inductionHypothesis alike]
          rfl
      | placeholder name =>
          obtain ⟨here, others⟩ := List.forall_mem_cons.1 alike
          have same : render session (.placeholder name) = render other (.placeholder name) := by
            simp only [render, here]
          rw [List.mapM_cons, List.mapM_cons, same, inductionHypothesis others]

theorem filterMap_name?_literals (text : List Char) : (literals text).filterMap name? = [] := by
  unfold literals
  split <;> rfl

theorem toList_join_literals (shown : String → String) (text : List Char) :
    (String.join ((literals text).map (filled shown))).toList = text := by
  unfold literals
  split
  next empty =>
    rw [List.isEmpty_iff.1 empty]
    rfl
  · simp [filled]

end Part

namespace Reading

theorem filterMap_name?_parts (reading : Reading) :
    reading.parts.filterMap Part.name? = reading.names := by
  obtain ⟨marked, tail⟩ := reading
  induction marked with
  | nil => exact Part.filterMap_name?_literals tail
  | cons piece marked inductionHypothesis =>
      simp only [parts, names, List.flatMap_cons, List.map_cons, List.append_assoc,
        List.filterMap_append] at inductionHypothesis ⊢
      rw [inductionHypothesis, Part.filterMap_name?_literals]
      rfl

theorem join_parts (reading : Reading) (shown : String → String) :
    String.join (reading.parts.map (Part.filled shown)) = reading.filled shown := by
  apply String.toList_inj.1
  obtain ⟨marked, tail⟩ := reading
  induction marked with
  | nil =>
      rw [filled, String.toList_ofList]
      exact Part.toList_join_literals shown tail
  | cons piece marked inductionHypothesis =>
      have literal := Part.toList_join_literals shown piece.1
      simp only [parts, filled, String.toList_join, String.toList_ofList, List.flatMap_cons,
        List.map_append, List.flatMap_append, List.append_assoc] at inductionHypothesis literal ⊢
      rw [inductionHypothesis, literal]
      simp [Part.filled]

end Reading

namespace Template

variable {template : Template} {session : Session}

theorem resolves_render (template : Template) (session : Session) :
    session.Resolves template.names (template.render session) := by
  rw [names, List.filterMap_eq_flatMap_toList]
  exact (Session.resolves_mapM Part.resolves_render template.parts).map String.join

theorem render_eq_of_parts {reading : Reading} (read : template.parts = reading.parts)
    {values : String → Json}
    (held : ∀ name ∈ reading.names, session.get? name = some (values name)) :
    template.render session = .ok (reading.filled fun name => (values name).inserted) := by
  rw [← reading.filterMap_name?_parts] at held
  rw [render, read, Part.mapM_render held, ← reading.join_parts]
  rfl

/-- Filling reads no variable but those that are named. -/
theorem render_congr {other : Session}
    (alike : ∀ name ∈ template.names, session.get? name = other.get? name) :
    template.render session = template.render other := by
  rw [render, render, Part.mapM_render_congr alike]

/-- A template is read in one way.  It is static if that reading has no placeholder; otherwise it is
filled from what the session holds under the names of the placeholders, and from nothing else, where
the leftmost name that the session does not hold stops it. -/
theorem exists_reading (template : Template) :
    ∃ reading : Reading, reading.IsProper ∧ reading.text = template.source.toList ∧
      (∀ other : Reading, other.IsProper → other.text = template.source.toList →
        other = reading) ∧
      template.names = reading.names ∧
      (template.isStatic = true ↔ reading.marked = []) ∧
      ∀ session : Session,
        ((∃ text, template.render session = .ok text) ↔
          ∀ name ∈ reading.names, session.contains name = true) ∧
        (∀ values : String → Json,
          (∀ name ∈ reading.names, session.get? name = some (values name)) →
            template.render session = .ok (reading.filled fun name => (values name).inserted)) ∧
        (∀ missing, template.render session = .error missing ↔
          reading.names.find? (fun name => !session.contains name) = some missing.name) ∧
        ∀ other : Session,
          (∀ name ∈ template.names, session.get? name = other.get? name) →
            template.render session = template.render other := by
  obtain ⟨reading, proper, same, read⟩ := Reading.exists_isProper template.source.toList
  have sameNames : template.names = reading.names := by
    rw [← reading.filterMap_name?_parts, ← read]
    rfl
  refine ⟨reading, proper, same, ?_, sameNames, ?_, ?_⟩
  · intro other otherProper otherText
    exact otherProper.eq_of_text_eq proper (otherText.trans same.symm)
  · rw [isStatic, sameNames, List.isEmpty_iff, Reading.names, List.map_eq_nil_iff]
  · intro session
    have resolves := template.resolves_render session
    refine ⟨?_, ?_, ?_, ?_⟩
    · rw [← sameNames]
      exact resolves.exists_ok_iff
    · intro values held
      exact render_eq_of_parts read held
    · rw [← sameNames]
      exact resolves
    · intro other alike
      exact render_congr alike

end Template

end LoadTest
