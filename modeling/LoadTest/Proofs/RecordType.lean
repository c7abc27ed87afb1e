import LoadTest.Proofs.SortedMap
import LoadTest.RecordType
import Mathlib

/-!
Which fields of a value its record keeps.

A record has one value a key, so it keeps every field exactly if their keys differ.  No case but
the cases in capitals and in joined words maps two names to one key.  Names in the usual form
differ in any case: `parted` reads them off their joined words (`parted_joinWords`).

The laws of `Char.toLower` and `Char.toUpper` are those of `Batteries.Data.Char`.  No part of
Mathlib imports that module; only Mathlib as a whole does.
-/

namespace LoadTest

namespace RecordType

/-! ### Names under one key -/

namespace Case

def capitalised : List Char → List Char
  | [] => []
  | first :: rest => Text.capitals first ++ rest

/-- Words put together, each with a capital; the first one only if `capital` holds. -/
def joined (capital : Bool) : List (List Char) → List Char
  | [] => []
  | first :: others =>
      (if capital then capitalised first else first) ++ others.flatMap capitalised

/-- What is joined are the words between underscores. -/
theorem joinWords_eq (capital : Bool) (name : List Char) :
    joinWords capital name = joined capital (name.splitOn '_') := by
  induction name generalizing capital with
  | nil => cases capital <;> rfl
  | cons character rest inductionHypothesis =>
      have continued := inductionHypothesis false
      have begun := inductionHypothesis true
      rw [joinWords, List.splitOn_cons_eq_if_modifyHead]
      cases words : rest.splitOn '_' with
      | nil => exact absurd words (List.splitOn_ne_nil '_' rest)
      | cons first others =>
          rw [words] at continued begun
          by_cases underscore : character = '_'
          · cases capital <;> simp [underscore, begun, joined, capitalised]
          · cases capital <;> simp [underscore, continued, joined, capitalised]

end Case

/-- Two names get one key. -/
def Alike (case : Option Case) (first second : List Char) : Prop :=
  match case with
  | none | some .lower | some .snake | some .kebab => first = second
  | some .upper | some .screamingSnake => first.map Char.toLower = second.map Char.toLower
  | some .pascal => Case.joined true (first.splitOn '_') = Case.joined true (second.splitOn '_')
  | some .camel => Case.joined false (first.splitOn '_') = Case.joined false (second.splitOn '_')

theorem upperAscii_eq_iff (first second : List Char) :
    Text.upperAscii first = Text.upperAscii second ↔
      first.map Char.toLower = second.map Char.toLower := by
  constructor
  · intro same
    have lowered := congrArg (List.map Char.toLower) same
    simpa only [Text.upperAscii, List.map_map, Function.comp_def, Char.toLower_toUpper_eq_toLower]
      using lowered
  · intro same
    have raised := congrArg (List.map Char.toUpper) same
    simpa only [Text.upperAscii, List.map_map, Function.comp_def, Char.toUpper_toLower_eq_toUpper]
      using raised

theorem map_apply_kebab {name : List Char} (free : '-' ∉ name) :
    (Case.kebab.apply name).map (fun character => if character = '-' then '_' else character) =
      name := by
  rw [Case.apply, List.map_map]
  refine (List.map_congr_left fun character member => ?_).trans (List.map_id name)
  have other : character ≠ '-' := fun hyphen => free (hyphen ▸ member)
  by_cases underscore : character = '_'
  · simp [underscore]
  · simp [underscore, other]

theorem kebab_injective {first second : List Char} (firstFree : '-' ∉ first)
    (secondFree : '-' ∉ second) (same : Case.kebab.apply first = Case.kebab.apply second) :
    first = second := by
  rw [← map_apply_kebab firstFree, same, map_apply_kebab secondFree]

theorem defaultKey_eq_iff (case : Option Case) {first second : String}
    (firstFree : '-' ∉ plainName first) (secondFree : '-' ∉ plainName second) :
    defaultKey case first = defaultKey case second ↔
      Alike case (plainName first) (plainName second) := by
  unfold defaultKey
  rw [String.ofList_inj]
  match case with
  | none | some .lower | some .snake => exact Iff.rfl
  | some .upper | some .screamingSnake => exact upperAscii_eq_iff ..
  | some .kebab => exact ⟨kebab_injective firstFree secondFree, congrArg _⟩
  | some .pascal | some .camel => simp only [Case.apply, Case.joinWords_eq, Alike]

/-! ### Names in the usual form -/

/-- Words without capitals, each of which starts with a letter from a to z, and one underscore
between two of them.  A word has to start where `start` holds. -/
def snakeCase (start : Bool) : List Char → Bool
  | [] => !start
  | character :: rest =>
      if start then character.isLower && snakeCase false rest
      else if character = '_' then snakeCase true rest
      else !character.isUpper && snakeCase false rest

/-- Joined words parted before their capitals. -/
def parted (key : List Char) : List Char :=
  key.flatMap fun character =>
    if character.isUpper then ['_', character.toLower] else [character]

theorem parted_cons_of_isUpper {character : Char} (capital : character.isUpper) (rest : List Char) :
    parted (character :: rest) = '_' :: character.toLower :: parted rest := by
  simp [parted, capital]

theorem parted_cons_of_not_isUpper {character : Char} (other : ¬ character.isUpper)
    (rest : List Char) : parted (character :: rest) = character :: parted rest := by
  simp [parted, other]

theorem capitals_of_isLower {character : Char} (small : character.isLower) :
    Text.capitals character = [character.toUpper] := by
  have ascii : character.toNat < 0x80 := by
    have bounds : character.val ≥ 'a'.val ∧ character.val ≤ 'z'.val := by
      simpa [Char.isLower] using small
    exact Nat.lt_of_le_of_lt bounds.2 (by decide)
  exact if_pos ascii

theorem ne_underscore_of_isLower {character : Char} (small : character.isLower) :
    character ≠ '_' := by
  rintro rfl
  cases small

theorem snakeCase_true_cons {character : Char} {rest : List Char} :
    snakeCase true (character :: rest) ↔ character.isLower ∧ snakeCase false rest := by
  simp [snakeCase]

theorem snakeCase_false_cons {character : Char} {rest : List Char} (letter : character ≠ '_') :
    snakeCase false (character :: rest) ↔ ¬ character.isUpper ∧ snakeCase false rest := by
  simp [snakeCase, letter]

theorem snakeCase_underscore {rest : List Char} :
    snakeCase false ('_' :: rest) ↔ snakeCase true rest := by
  simp [snakeCase]

theorem snakeCase_continued {name : List Char} (snake : snakeCase true name) :
    snakeCase false name := by
  cases name with
  | nil => cases snake
  | cons character rest =>
      obtain ⟨small, snake⟩ := snakeCase_true_cons.1 snake
      exact (snakeCase_false_cons (ne_underscore_of_isLower small)).2
        ⟨Char.not_isUpper_of_isLower small, snake⟩

/-- Names in the usual form have no capitals. -/
theorem map_toLower_of_snakeCase {start : Bool} {name : List Char} (snake : snakeCase start name) :
    name.map Char.toLower = name := by
  induction name generalizing start with
  | nil => rfl
  | cons character rest inductionHypothesis =>
      by_cases underscore : character = '_'
      · subst underscore
        cases start with
        | true => cases (snakeCase_true_cons.1 snake).1
        | false =>
            exact congrArg _ (inductionHypothesis (snakeCase_underscore.1 snake))
      · have form : snakeCase false (character :: rest) := by
          cases start with
          | true => exact snakeCase_continued snake
          | false => exact snake
        obtain ⟨other, rest⟩ := (snakeCase_false_cons underscore).1 form
        rw [List.map_cons, Char.toLower_eq_of_not_isUpper other, inductionHypothesis rest]

/-- What was joined is parted again.  A capital stands for an underscore and the letter after it,
and there is no other capital. -/
theorem parted_joinWords (start : Bool) (name : List Char) (snake : snakeCase start name) :
    parted (Case.joinWords start name) = if start then '_' :: name else name := by
  induction name generalizing start with
  | nil =>
      cases start with
      | true => cases snake
      | false => rfl
  | cons character rest inductionHypothesis =>
      cases start with
      | true =>
          obtain ⟨small, snake⟩ := snakeCase_true_cons.1 snake
          have capital : character.toUpper.isUpper := by
            rw [Char.isUpper_toUpper_eq_isAlpha, Char.isAlpha, small, Bool.or_true]
          have lowered : character.toUpper.toLower = character := by
            rw [Char.toLower_toUpper_eq_toLower]
            exact Char.toLower_eq_of_not_isUpper (Char.not_isUpper_of_isLower small)
          calc
            _ = parted (character.toUpper :: Case.joinWords false rest) := by
                simp [Case.joinWords, ne_underscore_of_isLower small, capitals_of_isLower small]
            _ = '_' :: character :: rest := by
                rw [parted_cons_of_isUpper capital, lowered, inductionHypothesis false snake]
                rfl
      | false =>
          by_cases underscore : character = '_'
          · subst underscore
            have begun := inductionHypothesis true (snakeCase_underscore.1 snake)
            simpa [Case.joinWords] using begun
          · obtain ⟨other, snake⟩ := (snakeCase_false_cons underscore).1 snake
            simpa [Case.joinWords, underscore, parted_cons_of_not_isUpper other]
              using inductionHypothesis false snake

/-- Names in the usual form are known from their joined words. -/
theorem eq_of_joined_eq {start : Bool} {first second : List Char}
    (firstSnake : snakeCase start first) (secondSnake : snakeCase start second)
    (same : Case.joined start (first.splitOn '_') = Case.joined start (second.splitOn '_')) :
    first = second := by
  rw [← Case.joinWords_eq, ← Case.joinWords_eq] at same
  have split := congrArg parted same
  rw [parted_joinWords start first firstSnake, parted_joinWords start second secondSnake] at split
  cases start <;> simpa using split

/-- Names in the usual form that get one key are one name. -/
theorem Alike.eq_of_snakeCase {case : Option Case} {first second : List Char}
    (firstSnake : snakeCase true first) (secondSnake : snakeCase true second)
    (alike : Alike case first second) : first = second := by
  match case with
  | none | some .lower | some .snake | some .kebab => exact alike
  | some .upper | some .screamingSnake =>
      rw [← map_toLower_of_snakeCase firstSnake, ← map_toLower_of_snakeCase secondSnake]
      exact alike
  | some .pascal => exact eq_of_joined_eq firstSnake secondSnake alike
  | some .camel =>
      exact eq_of_joined_eq (snakeCase_continued firstSnake) (snakeCase_continued secondSnake) alike

/-! ### Fields -/

/-- What a type says that wants its keys in a case. -/
def Case.renameAll (case : Case) : Attribute := ⟨"rename_all", some case.name⟩

/-- Fields of different names, some of which stay out, and none of which names its key. -/
structure Unrenamed (fields : List Field) : Prop where
  skips : ∀ field ∈ fields, ∀ item ∈ field.attributes, item = ⟨"skip", none⟩
  distinct : (fields.map fun field => plainName field.name).Nodup
  hyphenFree : ∀ field ∈ fields, '-' ∉ plainName field.name

/-- The fields that do not stay out. -/
def kept (fields : List Field) : List Field := fields.filter (·.attributes.isEmpty)

theorem Case.ofName?_name (case : Case) : ofName? case.name = some case := by
  cases case <;> decide

theorem readCase_renameAll (before : Option Case) (asked : List Case) :
    readCase before (asked.map Case.renameAll) = .ok (asked.getLast?.or before) := by
  induction asked generalizing before with
  | nil => rfl
  | cons case asked inductionHypothesis =>
      simp only [List.map_cons, readCase, Case.renameAll, Case.ofName?_name, List.getLast?_cons]
      refine (inductionHypothesis (some case)).trans ?_
      cases asked.getLast? <;> rfl

theorem readPlan_skips (plan : FieldPlan) {attributes : List Attribute}
    (skips : ∀ item ∈ attributes, item = ⟨"skip", none⟩) :
    readPlan plan attributes =
      .ok ⟨plan.key, plan.skipped || !attributes.isEmpty⟩ := by
  induction attributes generalizing plan with
  | nil => simp [readPlan]
  | cons item attributes inductionHypothesis =>
      obtain ⟨rfl, later⟩ := List.forall_mem_cons.1 skips
      have read := inductionHypothesis { plan with skipped := true } later
      simpa [readPlan] using read

theorem entries_eq (case : Option Case) {fields : List Field}
    (skips : ∀ field ∈ fields, ∀ item ∈ field.attributes, item = ⟨"skip", none⟩) :
    entries case fields =
      .ok ((kept fields).map fun field => (defaultKey case field.name, field.name)) := by
  induction fields with
  | nil => rfl
  | cons field fields inductionHypothesis =>
      obtain ⟨here, later⟩ := List.forall_mem_cons.1 skips
      rw [entries, readPlan_skips ⟨none, false⟩ here, inductionHypothesis later]
      cases empty : field.attributes.isEmpty with
      | true => simp [kept, empty, bind, Except.bind, pure, Except.pure]
      | false => simp [kept, empty, bind, Except.bind, pure, Except.pure]

/-- The keys of fields that do not name their own. -/
def keys (case : Option Case) (fields : List Field) : List String :=
  fields.map fun field => defaultKey case field.name

/-- What the record of a value keeps of its fields. -/
structure Filled (case : Option Case) (fields : List Field) (held : String → Json)
    (made : Record) : Prop where
  /-- Of the fields with one key, the last one counts. -/
  get?_eq : ∀ key, made.get? key =
    (fields.map fun field => (defaultKey case field.name, held field.name)).reverse.lookup key
  /-- Every field has an entry of its own exactly if all keys differ. -/
  size_eq_iff : made.size = fields.length ↔ (keys case fields).Nodup
  get?_field : (keys case fields).Nodup →
    ∀ field ∈ fields, made.get? (defaultKey case field.name) = some (held field.name)
  nodup_iff : (keys case fields).Nodup ↔
    fields.Pairwise fun first second => ¬ Alike case (plainName first.name) (plainName second.name)
  /-- These cases keep any two names apart. -/
  nodup_of_injective : case ∈ [none, some .lower, some .snake, some .kebab] →
    (keys case fields).Nodup
  nodup_of_snakeCase : (∀ field ∈ fields, snakeCase true (plainName field.name)) →
    (keys case fields).Nodup

theorem keys_nodup_iff (case : Option Case) {fields : List Field}
    (hyphenFree : ∀ field ∈ fields, '-' ∉ plainName field.name) :
    (keys case fields).Nodup ↔
      fields.Pairwise fun first second =>
        ¬ Alike case (plainName first.name) (plainName second.name) := by
  rw [keys, List.Nodup, List.pairwise_map]
  refine List.Pairwise.iff_of_mem fun {first second} firstListed secondListed => ?_
  exact not_congr
    (defaultKey_eq_iff case (hyphenFree first firstListed) (hyphenFree second secondListed))

/-- Keys of different names differ where the case makes no two of the names alike. -/
theorem keys_nodup {case : Option Case} {fields : List Field}
    (hyphenFree : ∀ field ∈ fields, '-' ∉ plainName field.name)
    (distinct : (fields.map fun field => plainName field.name).Nodup)
    (alike : ∀ first ∈ fields, ∀ second ∈ fields,
      Alike case (plainName first.name) (plainName second.name) →
        plainName first.name = plainName second.name) :
    (keys case fields).Nodup := by
  refine (keys_nodup_iff case hyphenFree).2 ?_
  refine (List.pairwise_map.1 distinct).imp_of_mem ?_
  intro first second firstListed secondListed apart same
  exact apart (alike first firstListed second secondListed same)

theorem filled_record (case : Option Case) {fields : List Field}
    (hyphenFree : ∀ field ∈ fields, '-' ∉ plainName field.name)
    (distinct : (fields.map fun field => plainName field.name).Nodup) (held : String → Json) :
    Filled case fields held
      (record (fields.map fun field => (defaultKey case field.name, field.name)) held) := by
  let pairs := fields.map fun field => (defaultKey case field.name, held field.name)
  have made : record (fields.map fun field => (defaultKey case field.name, field.name)) held =
      .ofList pairs := by
    rw [record, List.map_map]
    rfl
  have keys_eq : pairs.map (·.1) = keys case fields := List.map_map
  rw [made]
  refine ⟨SortedMap.get?_ofList pairs, ?_, fun apart field listed => ?_,
    keys_nodup_iff case hyphenFree, fun plain => ?_, fun snake => ?_⟩
  · rw [← keys_eq, ← SortedMap.size_ofList_iff, List.length_map]
  · rw [← keys_eq] at apart
    have member : (defaultKey case field.name, held field.name) ∈ pairs :=
      List.mem_map_of_mem listed
    exact SortedMap.get?_ofList_of_nodup apart member
  · refine keys_nodup hyphenFree distinct fun first _ second _ alike => ?_
    simp only [List.mem_cons, List.not_mem_nil, or_false] at plain
    obtain rfl | rfl | rfl | rfl := plain <;> exact alike
  · exact keys_nodup hyphenFree distinct fun first firstListed second secondListed alike =>
      alike.eq_of_snakeCase (snake first firstListed) (snake second secondListed)

/-- The record of a value has one value a key, that of the last field whose key it is.  It keeps
every field exactly if no two of them get one key, and that is so in any case for names in the
usual form. -/
theorem layout_filled (asked : List Case) {fields : List Field} (unrenamed : Unrenamed fields) :
    let case := asked.getLast?
    let entries := (kept fields).map fun field => (defaultKey case field.name, field.name)
    layout .named (asked.map Case.renameAll) fields = .ok entries ∧
      ∀ held, Filled case (kept fields) held (record entries held) := by
  intro case entries
  have ⟨skips, distinct, hyphenFree⟩ := unrenamed
  have listed : (kept fields).Sublist fields := List.filter_sublist
  constructor
  · rw [layout, readCase_renameAll, Option.or_none]
    exact entries_eq case skips
  · exact filled_record case (fun field member => hyphenFree field (listed.subset member))
      (distinct.sublist (listed.map _))

/-- A type with a field that stays out. -/
def game : List Field := [⟨"game_id", []⟩, ⟨"r#type", []⟩, ⟨"internal", [⟨"skip", none⟩]⟩]

theorem layout_filled_game :
    Unrenamed game ∧
      layout .named [Case.renameAll .camel] game = .ok [("gameId", "game_id"), ("type", "r#type")] ∧
      ∀ held, (record [("gameId", "game_id"), ("type", "r#type")] held).get? "gameId" =
        some (held "game_id") := by
  have unrenamed : Unrenamed game := ⟨by decide, by decide, by decide⟩
  obtain ⟨laid, filled⟩ := layout_filled [.camel] unrenamed
  refine ⟨unrenamed, laid, fun held => ?_⟩
  have distinct := (filled held).nodup_of_snakeCase (by decide)
  exact (filled held).get?_field distinct ⟨"game_id", []⟩ (by decide)

/-- Two names that differ in an underscore before a digit. -/
def twins : List Field := [⟨"item1", []⟩, ⟨"item_1", []⟩]

theorem layout_merges_twins :
    Unrenamed twins ∧
      layout .named [Case.renameAll .camel] twins = .ok [("item1", "item1"), ("item1", "item_1")] ∧
      ∀ held,
        let made := record [("item1", "item1"), ("item1", "item_1")] held
        made.size = 1 ∧ made.get? "item1" = some (held "item_1") := by
  refine ⟨⟨by decide, by decide, by decide⟩, rfl, fun held => ⟨?_, ?_⟩⟩
  · simp [record, SortedMap.ofList, SortedMap.insertMany, SortedMap.insert, SortedMap.size,
      SortedMap.empty, Ascending.insert]
  · rw [record, SortedMap.get?_ofList]
    rfl

end RecordType

end LoadTest
