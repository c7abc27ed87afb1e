import LoadTest.SortedMap
import Mathlib.Data.List.Nodup
import Mathlib.Data.List.Perm.Subperm

/-!
Maps made of lists of pairs.

A list of pairs answers a look-up with the last pair of the key, and so does the map that is made
of it (`SortedMap.get?_insertMany`).  It makes as many entries as there are different keys.
-/

namespace LoadTest

variable {Key Value : Type} [Ord Key] [Std.TransOrd Key] [Std.LawfulEqOrd Key] [DecidableEq Key]

/-- A search through ascending entries finds what a look-up finds. -/
theorem Ascending.find?_eq {entries : List (Key × Value)} (ascending : IsAscending entries)
    (key : Key) : entries.find? (·.1 == key) = (get? key entries).map (key, ·) := by
  cases search : entries.find? (·.1 == key) with
  | none =>
      cases held : get? key entries with
      | none => rfl
      | some value =>
          have member := (get?_eq_some_iff ascending).1 held
          simpa using List.find?_eq_none.1 search _ member
  | some entry =>
      have named : entry.1 = key := by simpa using List.find?_some search
      subst named
      rw [(get?_eq_some_iff ascending).2 (List.mem_of_find?_eq_some search)]
      rfl

namespace SortedMap

/-- Of several pairs with one key the last one counts. -/
theorem get?_insertMany (map : SortedMap Key Value) (pairs : List (Key × Value)) (key : Key) :
    (map.insertMany pairs).get? key = (pairs.reverse.lookup key).or (map.get? key) := by
  induction pairs generalizing map with
  | nil => rfl
  | cons pair pairs inductionHypothesis =>
      have inserted := inductionHypothesis (map.insert pair.1 pair.2)
      refine inserted.trans ?_
      obtain ⟨name, value⟩ := pair
      rw [get?_insert, List.reverse_cons, List.lookup_append, Option.or_assoc]
      congr 1
      by_cases same : key = name
      · simp [same]
      · have other : (key == name) = false := by simpa using same
        simp [same, List.lookup_cons, other]

theorem get?_ofList (pairs : List (Key × Value)) (key : Key) :
    (ofList pairs).get? key = pairs.reverse.lookup key := by
  have inserted := (empty : SortedMap Key Value).get?_insertMany pairs key
  exact inserted.trans Option.or_none

/-- If all keys differ, no pair is replaced. -/
theorem get?_ofList_of_nodup {pairs : List (Key × Value)} (distinct : (pairs.map (·.1)).Nodup)
    {pair : Key × Value} (member : pair ∈ pairs) : (ofList pairs).get? pair.1 = some pair.2 := by
  rw [get?_ofList]
  cases found : pairs.reverse.lookup pair.1 with
  | none => simpa using List.lookup_eq_none_iff.1 found pair (List.mem_reverse.2 member)
  | some value =>
      obtain ⟨before, after, parts, _⟩ := List.lookup_eq_some_iff.1 found
      have listed : (pair.1, value) ∈ pairs := by
        rw [← List.mem_reverse, parts]
        exact List.mem_append_right _ List.mem_cons_self
      have one : (pair.1, value) = pair := List.inj_on_of_nodup_map distinct listed member rfl
      rw [← one]

/-! ### Keys -/

omit [Std.TransOrd Key] [DecidableEq Key] in
theorem keys_nodup (map : SortedMap Key Value) : map.keys.Nodup := by
  refine List.pairwise_map.2 (map.ascending.imp fun {first second} before same => ?_)
  have equal : compare second.1 second.1 = .eq := Std.ReflCmp.compare_self
  rw [same, equal] at before
  cases before

omit [DecidableEq Key] in
theorem mem_keys_iff (map : SortedMap Key Value) (key : Key) :
    key ∈ map.keys ↔ (map.get? key).isSome := by
  rw [Option.isSome_iff_exists]
  constructor
  · intro member
    obtain ⟨entry, held, rfl⟩ := List.mem_map.1 member
    exact ⟨entry.2, (Ascending.get?_eq_some_iff map.ascending).2 held⟩
  · rintro ⟨value, held⟩
    exact List.mem_map.2 ⟨_, (Ascending.get?_eq_some_iff map.ascending).1 held, rfl⟩

theorem mem_keys_ofList (pairs : List (Key × Value)) (key : Key) :
    key ∈ (ofList pairs).keys ↔ key ∈ pairs.map (·.1) := by
  rw [mem_keys_iff, get?_ofList, List.lookup_isSome_iff, List.mem_map]
  simp only [List.mem_reverse, beq_iff_eq, eq_comm (a := key)]

/-- Every pair has an entry of its own exactly if all keys differ. -/
theorem size_ofList_iff (pairs : List (Key × Value)) :
    (ofList pairs).size = pairs.length ↔ (pairs.map (·.1)).Nodup := by
  have size_eq : (ofList pairs).size = (ofList pairs).keys.length := (List.length_map _).symm
  have length_eq : pairs.length = (pairs.map (·.1)).length := (List.length_map _).symm
  rw [size_eq, length_eq]
  constructor
  · intro same
    have within : (ofList pairs).keys ⊆ pairs.map (·.1) :=
      fun key => (mem_keys_ofList pairs key).1
    have perm := (List.subperm_of_subset (keys_nodup _) within).perm_of_length_le
      (Nat.le_of_eq same.symm)
    exact perm.nodup_iff.1 (keys_nodup _)
  · intro distinct
    exact ((List.perm_ext_iff_of_nodup (keys_nodup _) distinct).2 (mem_keys_ofList pairs)).length_eq

end SortedMap

end LoadTest
