import LoadTest.Json.Document

/-!
The objects of a JSON value list their fields in ascending order of the keys, one field a key.

What is read from a text is of that form (`isOrdered_of_read`), so that a look-up in it finds
whatever is there.
-/

namespace LoadTest.Json

/-- Every object in a value lists its fields in ascending order. -/
inductive IsOrdered : Json → Prop
  | null : IsOrdered .null
  | bool (value : Bool) : IsOrdered (.bool value)
  | number (value : Number) : IsOrdered (.number value)
  | string (value : String) : IsOrdered (.string value)
  | array {items : List Json} : (∀ item ∈ items, IsOrdered item) → IsOrdered (.array items)
  | object {fields : List (String × Json)} :
      Ascending.IsAscending fields → (∀ field ∈ fields, IsOrdered field.2) →
      IsOrdered (.object fields)

theorem IsOrdered.ofFields {pairs : List (String × Json)}
    (ordered : ∀ pair ∈ pairs, pair.2.IsOrdered) : (ofFields pairs).IsOrdered :=
  .object (.ofList pairs) fun _ member => ordered _ (Ascending.mem_ofList member)

theorem IsOrdered.single {name : String} {value : Json} (ordered : value.IsOrdered) :
    (Json.object [(name, value)]).IsOrdered := by
  refine .object (List.pairwise_singleton _ _) ?_
  simpa using ordered

namespace Document

mutual

theorem isOrdered_of_json :
    ∀ (document : Document) {value : Json}, document.json = .ok value → value.IsOrdered
  | .null, _, found => by
      cases found
      exact .null
  | .bool value, _, found => by
      cases found
      exact .bool value
  | .number value, _, found => by
      cases value with
      | error fault => cases found
      | ok number =>
          cases found
          exact .number number
  | .string value, _, found => by
      cases value with
      | error fault => cases found
      | ok string =>
          cases found
          exact .string string
  | .array items, _, found => by
      rw [json] at found
      cases values : itemValues items with
      | error fault =>
          rw [values] at found
          cases found
      | ok members =>
          rw [values] at found
          cases found
          exact .array (isOrdered_of_itemValues items values)
  | .object fields, _, found => by
      rw [json] at found
      cases values : fieldValues fields with
      | error fault =>
          rw [values] at found
          cases found
      | ok members =>
          rw [values] at found
          cases found
          exact .ofFields (isOrdered_of_fieldValues fields values)

theorem isOrdered_of_itemValues :
    ∀ (items : List Document) {values : List Json},
      itemValues items = .ok values → ∀ value ∈ values, value.IsOrdered
  | [], _, found => by
      cases found
      simp
  | item :: items, _, found => by
      obtain ⟨first, ofItem, found⟩ := exists_of_bind_eq_ok found
      obtain ⟨others, ofItems, same⟩ := exists_of_bind_eq_ok found
      cases same
      rw [List.forall_mem_cons]
      exact ⟨isOrdered_of_json item ofItem, isOrdered_of_itemValues items ofItems⟩

theorem isOrdered_of_fieldValues :
    ∀ (fields : List (Except Fault String × Document)) {values : List (String × Json)},
      fieldValues fields = .ok values → ∀ value ∈ values, value.2.IsOrdered
  | [], _, found => by
      cases found
      simp
  | (key, document) :: fields, _, found => by
      obtain ⟨name, -, found⟩ := exists_of_bind_eq_ok found
      obtain ⟨first, ofField, found⟩ := exists_of_bind_eq_ok found
      obtain ⟨others, ofFields, same⟩ := exists_of_bind_eq_ok found
      cases same
      rw [List.forall_mem_cons]
      exact ⟨isOrdered_of_json document ofField, isOrdered_of_fieldValues fields ofFields⟩

end

end Document

/-- The value of a text is ordered. -/
theorem isOrdered_of_read {text : List UInt8} {value : Json} (found : read text = .ok value) :
    value.IsOrdered := by
  obtain ⟨document, -, ofDocument⟩ := exists_of_bind_eq_ok found
  exact Document.isOrdered_of_json document ofDocument

end LoadTest.Json
