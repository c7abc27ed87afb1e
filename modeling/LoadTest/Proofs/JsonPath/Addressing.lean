import LoadTest.Proofs.Json.Ordered
import LoadTest.Proofs.JsonPath.Grammar

/-!
Paths that are made for given keys and indices.

A list of segments is written with all of them in brackets and the keys in single quotes
(`ofSegments`).  Whatever stands between the quotes, points, quotes, brackets that open and white
space, is read as it is, but for a bracket that closes: the first one ends the segment, quoted or not.
So the segments that come back are the ones that were written exactly if no key has that bracket and
no index is too large (`segments_ofSegments_iff`), and then the path leads to what the keys and
indices lead to.
-/

namespace LoadTest.JsonPath

/-! ### Members of a value -/

/-- What a segment leads to: a field of an object or an item of an array. -/
inductive Segment.Leads : Segment → Json → Json → Prop
  | field {name : String} {fields : List (String × Json)} {value : Json} :
      (name, value) ∈ fields → Leads (.key name) (.object fields) value
  | item {position : Nat} {items : List Json} {value : Json} :
      items[position]? = some value → Leads (.index position) (.array items) value

/-- What segments lead to, one after another. -/
inductive Leads : List Segment → Json → Json → Prop
  | here (value : Json) : Leads [] value value
  | next {segment : Segment} {segments : List Segment} {value between member : Json} :
      segment.Leads value between → Leads segments between member →
      Leads (segment :: segments) value member

variable {segment : Segment} {segments : List Segment} {value member : Json}

theorem Segment.Leads.isOrdered (leads : segment.Leads value member) (ordered : value.IsOrdered) :
    member.IsOrdered := by
  cases leads with
  | field found =>
      cases ordered with
      | object _ inside => exact inside _ found
  | item found =>
      cases ordered with
      | array inside => exact inside _ (List.mem_of_getElem? found)

theorem Segment.select_eq_some_iff (ordered : value.IsOrdered) :
    segment.select value = some member ↔ segment.Leads value member := by
  constructor
  · intro selected
    cases segment with
    | key name =>
        cases ordered with
        | object ascending => exact .field ((Ascending.get?_eq_some_iff ascending).1 selected)
        | _ => cases selected
    | index position =>
        cases ordered with
        | array => exact .item selected
        | _ => cases selected
  · intro leads
    cases leads with
    | field found =>
        cases ordered with
        | object ascending => exact (Ascending.get?_eq_some_iff ascending).2 found
    | item found => exact found

theorem follow_eq_some_iff (ordered : value.IsOrdered) :
    follow segments value = some member ↔ Leads segments value member := by
  induction segments generalizing value with
  | nil =>
      constructor
      · intro same
        cases same
        exact .here _
      · intro leads
        cases leads
        rfl
  | cons segment segments inductionHypothesis =>
      rw [follow, Option.bind_eq_some_iff]
      constructor
      · rintro ⟨between, selected, followed⟩
        have leads := (Segment.select_eq_some_iff ordered).1 selected
        exact .next leads ((inductionHypothesis (leads.isOrdered ordered)).1 followed)
      · intro leads
        cases leads with
        | next leads others =>
            refine ⟨_, (Segment.select_eq_some_iff ordered).2 leads, ?_⟩
            exact (inductionHypothesis (leads.isOrdered ordered)).2 others

/-! ### Segments in brackets -/

/-- What is written between brackets: a key in single quotes or an index. -/
def Segment.inner : Segment → List Char
  | .key name => '\'' :: (name.toList ++ ['\''])
  | .index position => Nat.toDigits 10 position

def Segment.bracketed (segment : Segment) : List Char := '[' :: (segment.inner ++ [']'])

/-- The path that is made for segments. -/
def ofSegments (segments : List Segment) : JsonPath :=
  ⟨String.ofList ('$' :: segments.flatMap Segment.bracketed)⟩

/-- Whether a segment in brackets is read as itself. -/
def Segment.IsAddressable : Segment → Prop
  | .key name => ']' ∉ name.toList
  | .index position => position ≤ maxCount

theorem Segment.trim_inner (segment : Segment) : Text.trim segment.inner = segment.inner := by
  cases segment with
  | key name => exact Text.trim_between _ (by decide) (by decide)
  | index position =>
      have digits (digit : Char) (member : digit ∈ Nat.toDigits 10 position) :
          Text.isBlank digit = false :=
        Text.isBlank_of_isDigit (Nat.isDigit_of_mem_toDigits (by decide) (by decide) member)
      apply Text.trim_eq_self
      · intro digit first
        exact digits digit (List.mem_of_head? first)
      · intro digit last
        exact digits digit (List.mem_of_getLast? last)

theorem Segment.IsAddressable.not_mem_inner (addressable : segment.IsAddressable) :
    ']' ∉ segment.inner := by
  cases segment with
  | key name =>
      have outside : ']' ∉ name.toList := addressable
      simpa [inner] using outside
  | index position =>
      intro member
      cases Nat.isDigit_of_mem_toDigits (by decide) (by decide) member

theorem Segment.IsAddressable.enclosed (addressable : segment.IsAddressable) :
    segment.Enclosed segment.inner := by
  cases segment with
  | key name =>
      have enclosed : Enclosed (.key (String.ofList name.toList)) _ := .quoted (.inl rfl)
      rwa [String.ofList_toList] at enclosed
  | index position => exact .index (Decimal.isCount_toDigits addressable)

theorem Segment.IsAddressable.written (addressable : segment.IsAddressable) :
    segment.Written segment.bracketed := by
  refine .bracket addressable.not_mem_inner ?_
  rw [segment.trim_inner]
  exact addressable.enclosed

theorem spells_flatMap (addressable : ∀ segment ∈ segments, segment.IsAddressable) :
    Spells segments (segments.map Segment.bracketed) (segments.flatMap Segment.bracketed) := by
  induction segments with
  | nil => exact ⟨.nil, rfl⟩
  | cons segment segments inductionHypothesis =>
      rw [List.forall_mem_cons] at addressable
      exact (inductionHypothesis addressable.2).cons addressable.1.written

theorem separated_flatMap (segments : List Segment) :
    Separated (segments.flatMap Segment.bracketed) := by
  intro character first
  cases segments with
  | nil => cases first
  | cons segment segments =>
      cases first
      rfl

/-- A segment that starts a text in brackets and quotes, and is read there, holds no bracket that
closes: the reading would have ended at the first one, with too few characters for the key. -/
theorem Segment.Written.isAddressable {piece rest left : List Char}
    (written : segment.Written piece) (same : segment.bracketed ++ rest = piece ++ left) :
    segment.IsAddressable := by
  cases written with
  | field => cases same
  | @bracket _ text unclosed enclosed =>
      generalize inside : Text.trim text = trimmed at enclosed
      cases enclosed with
      | index counted => exact counted.small
      | signed counted => exact counted.small
      | @quoted _ name kind =>
          intro closing
          rw [String.toList_ofList] at closing
          obtain ⟨before, behind, split, unclosedBefore⟩ := List.eq_append_cons_of_mem closing
          have unclosedQuoted : ']' ∉ '\'' :: before := by simpa using unclosedBefore
          have texts : '\'' :: before ++ ']' :: (behind ++ ['\'', ']'] ++ rest) =
              text ++ ']' :: left := by
            simpa [bracketed, inner, split] using same
          -- The piece ends inside the key, so that it is too short to hold the key in quotes.
          have cut := (eq_of_append_of_stop (not_closing unclosedQuoted) (by simp)
            (not_closing unclosed) (by simp) texts).1
          have shorter := Text.length_trim_le text
          rw [inside, ← cut, split] at shorter
          simp only [List.length_cons, List.length_append] at shorter
          omega

theorem Spells.isAddressable {pieces : List (List Char)}
    (spells : Spells segments pieces (segments.flatMap Segment.bracketed)) :
    ∀ segment ∈ segments, segment.IsAddressable := by
  induction segments generalizing pieces with
  | nil => simp
  | cons segment segments inductionHypothesis =>
      obtain ⟨written, joined⟩ := spells
      cases written with
      | cons first others =>
          rw [List.flatMap_cons, List.flatten_cons] at joined
          have addressable := first.isAddressable joined.symm
          have parts := addressable.written.eq_of_append first (separated_flatMap _)
            (Spells.separated ⟨others, rfl⟩) joined.symm
          rw [List.forall_mem_cons]
          exact ⟨addressable, inductionHypothesis ⟨others, parts.2.symm⟩⟩

/-! ### Paths for segments -/

theorem trim_ofSegments (segments : List Segment) :
    Text.trim (ofSegments segments).source.toList = '$' :: segments.flatMap Segment.bracketed := by
  rw [ofSegments, String.toList_ofList]
  rcases List.eq_nil_or_concat' segments with rfl | ⟨init, last, rfl⟩
  · exact Text.trim_eq_self (by simp [Text.isBlank]) (by simp [Text.isBlank])
  · have ends : (init ++ [last]).flatMap Segment.bracketed =
        (init.flatMap Segment.bracketed ++ '[' :: last.inner) ++ [']'] := by
      simp [Segment.bracketed]
    rw [ends]
    exact Text.trim_between _ (by decide) (by decide)

/-- The segments that a path is made for come back from it exactly if all of them are addressable. -/
theorem segments_ofSegments_iff :
    (ofSegments segments).segments = .ok segments ↔
      ∀ segment ∈ segments, segment.IsAddressable := by
  rw [segments_of_trim (trim_ofSegments segments)]
  constructor
  · intro read
    obtain ⟨pieces, spells⟩ := exists_spells _ read
    exact spells.isAddressable
  · intro addressable
    exact (spells_flatMap addressable).readSegments_eq

/-- A path that is made for addressable segments has no error and is read as them.  In a document it
leads to what they lead to, and to nothing where a step is missing. -/
theorem ofSegments_addresses (segments : List Segment)
    (addressable : ∀ segment ∈ segments, segment.IsAddressable) :
    (ofSegments segments).error? = none ∧
      (ofSegments segments).segments = .ok segments ∧
      ∀ document : Json, document.IsOrdered →
        (∀ member, (ofSegments segments).select document = some member ↔
          Leads segments document member) ∧
        ((¬ ∃ member, Leads segments document member) →
          (ofSegments segments).select document = none) := by
  have read := segments_ofSegments_iff.2 addressable
  refine ⟨error?_eq_none_iff.2 ⟨segments, read⟩, read, ?_⟩
  intro document ordered
  rw [select_of_segments read]
  refine ⟨fun member => follow_eq_some_iff ordered, ?_⟩
  intro missing
  apply Option.eq_none_iff_forall_ne_some.2
  intro member followed
  exact missing ⟨member, (follow_eq_some_iff ordered).1 followed⟩

/-- Quotes, a point, a bracket that opens and white space in one key, no character in the next. -/
theorem ofSegments_addresses_oddKeys :
    let segments : List Segment := [.key " it's \"a.b[", .key "", .index 1]
    (ofSegments segments).source = "$[' it's \"a.b['][''][1]" ∧
      (ofSegments segments).select
          (.object [(" it's \"a.b[", .object [("", .array [.null, .bool true])])]) =
        some (.bool true) := by
  intro segments
  have addressable : ∀ segment ∈ segments, segment.IsAddressable := by
    simp only [segments, List.forall_mem_cons, Segment.IsAddressable]
    exact ⟨by decide, by decide, by decide, by simp⟩
  have items : (Json.array [.null, .bool true]).IsOrdered := by
    apply Json.IsOrdered.array
    rw [List.forall_mem_cons, List.forall_mem_singleton]
    exact ⟨.null, .bool true⟩
  refine ⟨by decide, ?_⟩
  obtain ⟨-, -, leads⟩ := ofSegments_addresses segments addressable
  apply ((leads _ items.single.single).1 _).2
  refine .next (.field List.mem_cons_self) (.next (.field List.mem_cons_self) ?_)
  exact .next (.item rfl) (.here _)

/-- There is no way to write a quote and a bracket so that they do not end a key: two keys one after
another are written like one key. -/
theorem ofSegments_two_keys (first second : String) :
    ofSegments [.key (first ++ "']['" ++ second)] = ofSegments [.key first, .key second] := by
  simp [ofSegments, Segment.bracketed, Segment.inner, String.toList_append]

/-- Keys with a bracket that closes are not found by the paths made for them. -/
theorem ofSegments_closing_bracket :
    (ofSegments [.key "a']['b"]).segments = .ok [.key "a", .key "b"] ∧
      (ofSegments [.key "a]b"]).segments = .error (.invalidIndex "'a") ∧
      ∀ name ∈ ["a']['b", "a]b"],
        let document : Json := .object [(name, .ofNat 1)]
        document.IsOrdered ∧ Leads [.key name] document (.ofNat 1) ∧
          (ofSegments [.key name]).select document = none := by
  have twoKeys : (ofSegments [.key "a']['b"]).segments = .ok [.key "a", .key "b"] := by
    rw [show "a']['b" = "a" ++ "']['" ++ "b" by decide, ofSegments_two_keys]
    apply segments_ofSegments_iff.2
    simp only [List.forall_mem_cons, Segment.IsAddressable]
    exact ⟨by decide, by decide, by simp⟩
  have noIndex : (ofSegments [.key "a]b"]).segments = .error (.invalidIndex "'a") := by
    rw [segments_of_trim (trim_ofSegments _)]
    show readSegments ('[' :: ("'a".toList ++ ']' :: "b']".toList)) = _
    rw [readSegments_bracket (by decide)]
    rfl
  have ordered (name : String) : (Json.object [(name, .ofNat 1)]).IsOrdered :=
    .single (.number _)
  have leads (name : String) : Leads [.key name] (.object [(name, .ofNat 1)]) (.ofNat 1) :=
    .next (.field List.mem_cons_self) (.here _)
  refine ⟨twoKeys, noIndex, ?_⟩
  rw [List.forall_mem_cons, List.forall_mem_singleton]
  refine ⟨⟨ordered _, leads _, ?_⟩, ordered _, leads _, ?_⟩
  · rw [select_of_segments twoKeys]
    rfl
  · rw [select, noIndex]

end LoadTest.JsonPath
