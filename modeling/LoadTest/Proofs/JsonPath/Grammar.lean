import LoadTest.Json.Fault
import LoadTest.Proofs.Counting
import LoadTest.Proofs.JsonPath.Slices
import Mathlib.Data.List.Forall2

/-!
Which texts are paths.

A path is a root sign and pieces behind it, each of them a field or something in brackets
(`Segment.Written`).  Reading takes one piece after another off the front of the text, and where one
piece ends the next one begins with a point or a bracket, so there is one way to cut a text into
pieces (`Written.eq_of_append`) and reading finds it (`readSegments_eq_ok_iff`).
-/

namespace LoadTest.JsonPath

/-- What may stand between two brackets for a segment, without the white space around it. -/
inductive Segment.Enclosed : Segment → List Char → Prop
  | quoted {quote : Char} {name : List Char} :
      quote = '\'' ∨ quote = '"' → Enclosed (.key (String.ofList name)) (quote :: name ++ [quote])
  | index {digits : List Char} {position : Nat} :
      Decimal.IsCount digits position → Enclosed (.index position) digits
  | signed {digits : List Char} {position : Nat} :
      Decimal.IsCount digits position → Enclosed (.index position) ('+' :: digits)

/-- How a segment may be written. -/
inductive Segment.Written : Segment → List Char → Prop
  | field {name : List Char} :
      name ≠ [] → '.' ∉ name → '[' ∉ name → Written (.key (String.ofList name)) ('.' :: name)
  | bracket {segment : Segment} {text : List Char} :
      ']' ∉ text → segment.Enclosed (Text.trim text) → Written segment ('[' :: (text ++ [']']))

/-- Segments written one after another. -/
structure Spells (segments : List Segment) (pieces : List (List Char)) (text : List Char) : Prop where
  written : List.Forall₂ Segment.Written segments pieces
  joined : pieces.flatten = text

variable {text name rest left : List Char} {segment : Segment} {segments : List Segment}

/-! ### Brackets -/

theorem unquote?_eq_some_iff {quote : Char} :
    unquote? quote text = some name ↔ text = quote :: name ++ [quote] := by
  cases text with
  | nil => simp [unquote?]
  | cons first rest =>
      rw [unquote?]
      split
      next quoted =>
        obtain ⟨same, last⟩ := quoted
        obtain ⟨inner, cut⟩ := List.getLast?_eq_some_iff.1 last
        simp [same, cut]
      next other =>
        constructor
        · intro none
          cases none
        · intro cut
          cases cut
          exact absurd ⟨rfl, by simp⟩ other

theorem unquote?_cons_of_ne {quote first : Char} (differs : first ≠ quote) :
    unquote? quote (first :: text) = none := by
  rw [unquote?, if_neg]
  exact fun both => differs both.1

/-- The text between quotes of either kind. -/
theorem unquote?_or_eq_some_iff :
    (unquote? '\'' text).or (unquote? '"' text) = some name ↔
      ∃ quote, (quote = '\'' ∨ quote = '"') ∧ text = quote :: name ++ [quote] := by
  rw [Option.or_eq_some_iff, unquote?_eq_some_iff, unquote?_eq_some_iff]
  constructor
  · rintro (single | ⟨-, double⟩)
    · exact ⟨'\'', .inl rfl, single⟩
    · exact ⟨'"', .inr rfl, double⟩
  · rintro ⟨quote, rfl | rfl, quoted⟩
    · exact .inl quoted
    · refine .inr ⟨?_, quoted⟩
      rw [quoted]
      exact unquote?_cons_of_ne (by decide)

theorem unquoted_of_readCount {position : Nat} (counted : Decimal.readCount text = .ok position) :
    (unquote? '\'' text).or (unquote? '"' text) = none := by
  apply Option.eq_none_iff_forall_ne_some.2
  intro name quoted
  obtain ⟨quote, kind, rfl⟩ := unquote?_or_eq_some_iff.1 quoted
  rcases kind with rfl | rfl <;> cases counted

theorem readBracket_of_quoted
    (quoted : (unquote? '\'' (Text.trim text)).or (unquote? '"' (Text.trim text)) = some name) :
    readBracket text = .ok (.key (String.ofList name)) := by
  simp only [readBracket, quoted]

theorem readBracket_of_count {position : Nat}
    (counted : Decimal.readCount (Text.trim text) = .ok position) :
    readBracket text = .ok (.index position) := by
  simp only [readBracket, unquoted_of_readCount counted, counted]

theorem readBracket_eq_ok_iff :
    readBracket text = .ok segment ↔ segment.Enclosed (Text.trim text) := by
  constructor
  · intro read
    unfold readBracket at read
    generalize Text.trim text = inner at read
    cases quoted : (unquote? '\'' inner).or (unquote? '"' inner) with
    | some name =>
        simp only [quoted] at read
        cases read
        obtain ⟨quote, kind, rfl⟩ := unquote?_or_eq_some_iff.1 quoted
        exact .quoted kind
    | none =>
        cases counted : Decimal.readCount inner with
        | error error => simp [quoted, counted] at read
        | ok position =>
            simp only [quoted, counted] at read
            cases read
            rcases Decimal.readCount_eq_ok_iff.1 counted with written | ⟨digits, rfl, written⟩
            · exact .index written
            · exact .signed written
  · intro enclosed
    generalize inside : Text.trim text = inner at enclosed
    cases enclosed with
    | quoted kind =>
        apply readBracket_of_quoted
        rw [inside]
        exact unquote?_or_eq_some_iff.2 ⟨_, kind, rfl⟩
    | index written =>
        apply readBracket_of_count
        rw [inside]
        exact Decimal.readCount_eq_ok_iff.2 (.inl written)
    | signed written =>
        apply readBracket_of_count
        rw [inside]
        exact Decimal.readCount_eq_ok_iff.2 (.inr ⟨_, rfl, written⟩)

/-! ### Pieces -/

/-- Where a piece may end. -/
def Separated (text : List Char) : Prop := ∀ character ∈ text.head?, endsField character = true

theorem endsField_iff {character : Char} :
    endsField character = true ↔ character = '.' ∨ character = '[' := by
  simp [endsField]

theorem span_of_stop {p : Char → Bool} (inside : ∀ character ∈ name, p character = true)
    (stop : ∀ character ∈ rest.head?, p character = false) :
    (name ++ rest).takeWhile p = name ∧ (name ++ rest).dropWhile p = rest := by
  have ends : rest.takeWhile p = [] ∧ rest.dropWhile p = rest := by
    cases rest with
    | nil => exact ⟨rfl, rfl⟩
    | cons character rest => simp [stop character rfl]
  rw [List.takeWhile_append_of_pos inside, List.dropWhile_append_of_pos inside, ends.1, ends.2,
    List.append_nil]
  exact ⟨rfl, rfl⟩

theorem eq_of_append_of_stop {p : Char → Bool} {other otherRest : List Char}
    (inside : ∀ character ∈ name, p character = true)
    (stop : ∀ character ∈ rest.head?, p character = false)
    (otherInside : ∀ character ∈ other, p character = true)
    (otherStop : ∀ character ∈ otherRest.head?, p character = false)
    (same : name ++ rest = other ++ otherRest) : name = other ∧ rest = otherRest := by
  have span := span_of_stop inside stop
  have otherSpan := span_of_stop otherInside otherStop
  rw [same] at span
  exact ⟨span.1.symm.trans otherSpan.1, span.2.symm.trans otherSpan.2⟩

theorem not_endsField (noPoint : '.' ∉ name) (noBracket : '[' ∉ name) :
    ∀ character ∈ name, (!endsField character) = true := by
  intro character member
  rw [Bool.not_eq_true', ← Bool.not_eq_true, endsField_iff]
  rintro (rfl | rfl)
  · exact noPoint member
  · exact noBracket member

theorem not_closing (unclosed : ']' ∉ text) : ∀ character ∈ text, (character != ']') = true := by
  intro character member
  rw [bne_iff_ne]
  rintro rfl
  exact unclosed member

theorem Separated.stop (separated : Separated rest) :
    ∀ character ∈ rest.head?, (!endsField character) = false := by
  intro character first
  rw [separated character first, Bool.not_true]

theorem readSegments_field (nonempty : name ≠ []) (noPoint : '.' ∉ name) (noBracket : '[' ∉ name)
    (separated : Separated rest) :
    readSegments ('.' :: (name ++ rest)) =
      (do return .key (String.ofList name) :: (← readSegments rest)) := by
  have span := span_of_stop (not_endsField noPoint noBracket) separated.stop
  have filled : name.isEmpty = false := by simpa using nonempty
  rw [readSegments, span.1, span.2, filled]
  rfl

theorem readSegments_bracket (unclosed : ']' ∉ text) :
    readSegments ('[' :: (text ++ ']' :: rest)) =
      (do
        let segment ← readBracket text
        return segment :: (← readSegments rest)) := by
  have stop : ∀ character ∈ (']' :: rest).head?, (character != ']') = false := by simp
  have span := span_of_stop (not_closing unclosed) stop
  rw [readSegments]
  split
  next none => simp [span.2] at none
  next character left found =>
    rw [span.2] at found
    cases found
    rw [span.1]

theorem Segment.Written.separated {piece : List Char} (written : segment.Written piece)
    (rest : List Char) : Separated (piece ++ rest) := by
  intro character first
  cases written with
  | field =>
      cases first
      rfl
  | bracket =>
      cases first
      rfl

theorem Spells.separated {pieces : List (List Char)} (spells : Spells segments pieces text) :
    Separated text := by
  obtain ⟨written, rfl⟩ := spells
  cases written with
  | nil =>
      intro character first
      cases first
  | cons first others =>
      rw [List.flatten_cons]
      exact first.separated _

/-- Reading takes the first piece off a text. -/
theorem Segment.Written.readSegments_append {piece : List Char} (written : segment.Written piece)
    (separated : Separated rest) :
    readSegments (piece ++ rest) = (do return segment :: (← readSegments rest)) := by
  cases written with
  | field nonempty noPoint noBracket =>
      exact readSegments_field nonempty noPoint noBracket separated
  | bracket unclosed enclosed =>
      rw [List.cons_append, List.append_assoc, List.singleton_append,
        readSegments_bracket unclosed, readBracket_eq_ok_iff.2 enclosed]
      rfl

/-- Where one piece ends is settled by the text. -/
theorem Segment.Written.eq_of_append {piece other otherRest : List Char} {otherSegment : Segment}
    (written : segment.Written piece) (otherWritten : otherSegment.Written other)
    (separated : Separated rest) (otherSeparated : Separated otherRest)
    (same : piece ++ rest = other ++ otherRest) : piece = other ∧ rest = otherRest := by
  cases written with
  | field _ noPoint noBracket =>
      cases otherWritten with
      | bracket => cases same
      | field _ otherNoPoint otherNoBracket =>
          have names := eq_of_append_of_stop (not_endsField noPoint noBracket) separated.stop
            (not_endsField otherNoPoint otherNoBracket) otherSeparated.stop (List.cons.inj same).2
          rw [names.1, names.2]
          exact ⟨rfl, rfl⟩
  | @bracket _ text unclosed =>
      cases otherWritten with
      | field => cases same
      | @bracket _ otherText otherUnclosed =>
          rw [List.cons_append, List.cons_append, List.append_assoc, List.append_assoc] at same
          have texts := eq_of_append_of_stop (not_closing unclosed) (by simp)
            (not_closing otherUnclosed) (by simp) (List.cons.inj same).2
          obtain ⟨rfl, behind⟩ := texts
          exact ⟨rfl, (List.cons.inj behind).2⟩

/-! ### Paths -/

theorem Spells.readSegments_eq {pieces : List (List Char)} (spells : Spells segments pieces text) :
    readSegments text = .ok segments := by
  obtain ⟨written, rfl⟩ := spells
  induction written with
  | nil =>
      rw [List.flatten_nil, readSegments]
  | @cons segment piece segments pieces first others inductionHypothesis =>
      have separated := Spells.separated ⟨others, rfl⟩
      rw [List.flatten_cons, first.readSegments_append separated, inductionHypothesis]
      rfl

/-- A text is cut into pieces in one way. -/
theorem Spells.unique {pieces otherPieces : List (List Char)} {others : List Segment}
    (spells : Spells segments pieces text) (otherSpells : Spells others otherPieces text) :
    others = segments ∧ otherPieces = pieces := by
  have same := otherSpells.readSegments_eq.symm.trans spells.readSegments_eq
  cases same
  -- The segments are the same; that they are cut at the same places is shown along the pieces.
  refine ⟨rfl, ?_⟩
  obtain ⟨written, joined⟩ := spells
  obtain ⟨otherWritten, otherJoined⟩ := otherSpells
  have flat : pieces.flatten = otherPieces.flatten := joined.trans otherJoined.symm
  clear joined otherJoined
  induction written generalizing otherPieces with
  | nil =>
      cases otherWritten
      rfl
  | cons first rest inductionHypothesis =>
      cases otherWritten with
      | cons otherFirst otherRest =>
          rw [List.flatten_cons, List.flatten_cons] at flat
          have parts := first.eq_of_append otherFirst (Spells.separated ⟨rest, rfl⟩)
            (Spells.separated ⟨otherRest, rfl⟩) flat
          rw [parts.1, inductionHypothesis otherRest parts.2]

theorem Spells.cons {piece : List Char} {pieces : List (List Char)}
    (spells : Spells segments pieces text) (first : segment.Written piece) :
    Spells (segment :: segments) (piece :: pieces) (piece ++ text) where
  written := .cons first spells.written
  joined := by rw [List.flatten_cons, spells.joined]

/-- What a field takes off a text is written so. -/
theorem Segment.written_takeWhile (nonempty : ¬(text.takeWhile (!endsField ·)).isEmpty = true) :
    Segment.Written (.key (String.ofList (text.takeWhile (!endsField ·))))
      ('.' :: text.takeWhile (!endsField ·)) := by
  have inside (character : Char) (member : character ∈ text.takeWhile (!endsField ·)) :
      endsField character = false := by
    simpa using List.mem_takeWhile_imp member
  refine .field (by simpa using nonempty) ?_ ?_
  · intro point
    cases inside '.' point
  · intro bracket
    cases inside '[' bracket

/-- What is read is written in the text. -/
theorem exists_spells (text : List Char) :
    ∀ {segments : List Segment}, readSegments text = .ok segments →
      ∃ pieces, Spells segments pieces text := by
  fun_induction readSegments text with
  | case1 =>
      intro segments read
      cases read
      exact ⟨[], .nil, rfl⟩
  | case2 =>
      intro segments read
      cases read
  | case3 rest name nonempty =>
      rename_i inductionHypothesis
      intro segments read
      obtain ⟨others, later, same⟩ := Json.exists_of_bind_eq_ok read
      cases same
      obtain ⟨pieces, spells⟩ := inductionHypothesis later
      have all := spells.cons (Segment.written_takeWhile nonempty)
      rw [List.cons_append, List.takeWhile_append_dropWhile] at all
      exact ⟨_, all⟩
  | case4 =>
      intro segments read
      cases read
  | case5 rest character left closed inductionHypothesis =>
      intro segments read
      obtain ⟨segment, inside, read⟩ := Json.exists_of_bind_eq_ok read
      obtain ⟨others, later, same⟩ := Json.exists_of_bind_eq_ok read
      cases same
      obtain ⟨pieces, spells⟩ := inductionHypothesis later
      have unclosed : ']' ∉ rest.takeWhile (· != ']') := by
        intro member
        cases List.mem_takeWhile_imp member
      have all := spells.cons (.bracket unclosed (readBracket_eq_ok_iff.1 inside))
      rw [List.cons_append, List.append_assoc, List.singleton_append,
        takeWhile_append_closing closed] at all
      exact ⟨_, all⟩
  | case6 =>
      intro segments read
      cases read

theorem readSegments_eq_ok_iff :
    readSegments text = .ok segments ↔ ∃ pieces, Spells segments pieces text := by
  constructor
  · exact exists_spells text
  · rintro ⟨pieces, spells⟩
    exact spells.readSegments_eq

/-- A path is a root sign and segments, with white space around them or not. -/
def Spelled (path : JsonPath) (segments : List Segment) (pieces : List (List Char)) : Prop :=
  ∃ text, Text.trim path.source.toList = '$' :: text ∧ Spells segments pieces text

variable {path : JsonPath} {pieces : List (List Char)}

theorem segments_of_trim (rooted : Text.trim path.source.toList = '$' :: text) :
    path.segments = readSegments text := by
  rw [JsonPath.segments, JsonPath.read, rooted]
  rfl

theorem segments_eq_ok_iff : path.segments = .ok segments ↔ ∃ pieces, path.Spelled segments pieces := by
  constructor
  · intro read
    unfold JsonPath.segments JsonPath.read at read
    split at read
    next text rooted =>
      obtain ⟨pieces, spells⟩ := exists_spells text read
      exact ⟨pieces, text, rooted, spells⟩
    · cases read
  · rintro ⟨pieces, text, rooted, spells⟩
    rw [segments_of_trim rooted, spells.readSegments_eq]

theorem Spelled.unique {others : List Segment} {otherPieces : List (List Char)}
    (spelled : path.Spelled segments pieces) (otherSpelled : path.Spelled others otherPieces) :
    others = segments ∧ otherPieces = pieces := by
  obtain ⟨text, rooted, spells⟩ := spelled
  obtain ⟨otherText, otherRooted, otherSpells⟩ := otherSpelled
  cases rooted.symm.trans otherRooted
  exact spells.unique otherSpells

theorem error?_eq_none_iff : path.error? = none ↔ ∃ segments, path.segments = .ok segments := by
  unfold error?
  split
  next segments read => simp [read]
  next error read => simp [read]

theorem select_of_segments (read : path.segments = .ok segments) (document : Json) :
    path.select document = follow segments document := by
  rw [select, read]

/-- Exactly the texts that are a root sign and segments are paths without an error.  They are cut into
segments in one way, which is the way that is followed; what is not cut so selects nothing.  Reading
by positions ends for every text, and never cuts a character or goes past the end. -/
theorem reads_grammar (path : JsonPath) :
    (path.error? = none ↔ ∃ segments pieces, path.Spelled segments pieces) ∧
      (∀ segments pieces, path.Spelled segments pieces →
        (∀ others otherPieces, path.Spelled others otherPieces →
          others = segments ∧ otherPieces = pieces) ∧
        ∀ document, path.select document = follow segments document) ∧
      (path.error? ≠ none → ∀ document, path.select document = none) ∧
      ∀ text, Text.trim path.source.toList = '$' :: text →
        ∀ outcome, Reads text outcome ↔ path.segments = outcome := by
  refine ⟨?_, ?_, ?_, ?_⟩
  · rw [error?_eq_none_iff]
    exact exists_congr fun segments => segments_eq_ok_iff
  · intro segments pieces spelled
    refine ⟨fun others otherPieces => spelled.unique, ?_⟩
    exact select_of_segments (segments_eq_ok_iff.2 ⟨pieces, spelled⟩)
  · intro faulty document
    unfold select
    split
    next segments read => exact absurd (error?_eq_none_iff.2 ⟨segments, read⟩) faulty
    · rfl
  · intro text rooted outcome
    rw [segments_of_trim rooted]
    exact reads_iff

theorem spelled_items :
    Spelled ⟨" $.items[ 1 ]['a.b'] "⟩ [.key "items", .index 1, .key "a.b"]
      [".items".toList, "[ 1 ]".toList, "['a.b']".toList] := by
  have items : Segment.Written (.key "items") ".items".toList :=
    .field (by decide) (by decide) (by decide)
  have second : Segment.Written (.index 1) ('[' :: (" 1 ".toList ++ [']'])) :=
    .bracket (by decide) (readBracket_eq_ok_iff.1 rfl)
  have member : Segment.Written (.key "a.b") ('[' :: ("'a.b'".toList ++ [']'])) :=
    .bracket (by decide) (readBracket_eq_ok_iff.1 rfl)
  refine ⟨".items[ 1 ]['a.b']".toList, by decide, ?_, by decide⟩
  exact .cons items (.cons second (.cons member .nil))

/-- White space, a field, an index and a quoted key. -/
theorem reads_grammar_items :
    let path : JsonPath := ⟨" $.items[ 1 ]['a.b'] "⟩
    path.error? = none ∧
      path.select (.object [("items", .array [.null, .object [("a.b", .bool true)]])]) =
        some (.bool true) := by
  intro path
  obtain ⟨accepted, followed, -, -⟩ := reads_grammar path
  refine ⟨accepted.2 ⟨_, _, spelled_items⟩, ?_⟩
  rw [(followed _ _ spelled_items).2]
  simp [follow, Segment.select, Json.field?, Json.item?, Ascending.get?]

end LoadTest.JsonPath
