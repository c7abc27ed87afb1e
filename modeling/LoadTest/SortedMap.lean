/-!
Finite maps kept as lists in strictly ascending order of keys.

There is one list for every finite map, so two maps are equal exactly when they
answer every look-up alike (`SortedMap.ext`), and walking a map visits its keys
in order.  `get?_insert` and `get?_erase` say what the two updates do to
look-ups.
-/

namespace LoadTest

universe u v

namespace Ascending

variable {Key : Type u} {Value : Type v} [Ord Key]

/-- Entries in strictly ascending order of their keys. -/
def IsAscending (entries : List (Key × Value)) : Prop :=
  entries.Pairwise fun first second => compare first.1 second.1 = .lt

def insert (key : Key) (value : Value) : List (Key × Value) → List (Key × Value)
  | [] => [(key, value)]
  | (other, held) :: rest =>
      match compare key other with
      | .lt => (key, value) :: (other, held) :: rest
      | .eq => (key, value) :: rest
      | .gt => (other, held) :: insert key value rest

def erase (key : Key) : List (Key × Value) → List (Key × Value)
  | [] => []
  | (other, held) :: rest =>
      match compare key other with
      | .lt => (other, held) :: rest
      | .eq => rest
      | .gt => (other, held) :: erase key rest

def get? (key : Key) : List (Key × Value) → Option Value
  | [] => none
  | (other, held) :: rest =>
      match compare key other with
      | .lt => none
      | .eq => some held
      | .gt => get? key rest

/-- Entries in the order of the list; a later entry replaces an earlier one of the same key. -/
def ofList (pairs : List (Key × Value)) : List (Key × Value) :=
  pairs.foldl (fun entries pair => insert pair.1 pair.2 entries) []

variable {entries : List (Key × Value)} {key : Key} {value : Value}

theorem mem_insert {entry : Key × Value} (member : entry ∈ insert key value entries) :
    entry = (key, value) ∨ entry ∈ entries := by
  induction entries with
  | nil => simpa [insert] using member
  | cons head rest inductionHypothesis =>
      obtain ⟨other, held⟩ := head
      unfold insert at member
      split at member
      · simpa using member
      · rcases List.mem_cons.1 member with same | inRest
        · exact .inl same
        · exact .inr (List.mem_cons_of_mem _ inRest)
      · rcases List.mem_cons.1 member with same | inRest
        · exact .inr (same ▸ List.mem_cons_self)
        · exact (inductionHypothesis inRest).imp id (List.mem_cons_of_mem _)

theorem mem_foldl_insert {pairs : List (Key × Value)} {entry : Key × Value}
    (member : entry ∈ pairs.foldl (fun entries pair => insert pair.1 pair.2 entries) entries) :
    entry ∈ pairs ∨ entry ∈ entries := by
  induction pairs generalizing entries with
  | nil => exact .inr member
  | cons pair pairs inductionHypothesis =>
      rcases inductionHypothesis member with later | now
      · exact .inl (List.mem_cons_of_mem _ later)
      · rcases mem_insert now with rfl | before
        · exact .inl List.mem_cons_self
        · exact .inr before

theorem mem_ofList {pairs : List (Key × Value)} {entry : Key × Value}
    (member : entry ∈ ofList pairs) : entry ∈ pairs :=
  (mem_foldl_insert member).resolve_right List.not_mem_nil

theorem mem_erase {entry : Key × Value} (member : entry ∈ erase key entries) :
    entry ∈ entries := by
  induction entries with
  | nil => simp [erase] at member
  | cons head rest inductionHypothesis =>
      obtain ⟨other, held⟩ := head
      unfold erase at member
      split at member
      · exact member
      · exact List.mem_cons_of_mem _ member
      · rcases List.mem_cons.1 member with same | inRest
        · exact same ▸ List.mem_cons_self
        · exact List.mem_cons_of_mem _ (inductionHypothesis inRest)

variable [Std.TransOrd Key]

theorem IsAscending.insert (ascending : IsAscending entries) :
    IsAscending (insert key value entries) := by
  induction entries with
  | nil => simp [IsAscending, Ascending.insert]
  | cons head rest inductionHypothesis =>
      obtain ⟨other, held⟩ := head
      have ⟨headLow, restAscending⟩ := List.pairwise_cons.1 ascending
      unfold Ascending.insert
      split
      next below =>
        refine List.pairwise_cons.2 ⟨fun entry member => ?_, ascending⟩
        rcases List.mem_cons.1 member with same | inRest
        · exact same ▸ below
        · exact Std.TransCmp.lt_trans below (headLow entry inRest)
      next equal =>
        refine List.pairwise_cons.2 ⟨fun entry member => ?_, restAscending⟩
        exact Std.TransCmp.lt_of_eq_of_lt equal (headLow entry member)
      next above =>
        refine List.pairwise_cons.2
          ⟨fun entry member => ?_, inductionHypothesis restAscending⟩
        rcases mem_insert member with same | inRest
        · exact same ▸ Std.OrientedCmp.lt_of_gt above
        · exact headLow entry inRest

omit [Std.TransOrd Key] in
theorem IsAscending.erase (ascending : IsAscending entries) :
    IsAscending (erase key entries) := by
  induction entries with
  | nil => exact ascending
  | cons head rest inductionHypothesis =>
      obtain ⟨other, held⟩ := head
      have ⟨headLow, restAscending⟩ := List.pairwise_cons.1 ascending
      unfold Ascending.erase
      split
      · exact ascending
      · exact restAscending
      · exact List.pairwise_cons.2
          ⟨fun entry member => headLow entry (mem_erase member),
            inductionHypothesis restAscending⟩

theorem IsAscending.ofList (pairs : List (Key × Value)) : IsAscending (ofList pairs) := by
  suffices ∀ entries : List (Key × Value), IsAscending entries →
      IsAscending
        (pairs.foldl (fun entries pair => Ascending.insert pair.1 pair.2 entries) entries) from
    this [] List.Pairwise.nil
  induction pairs with
  | nil => exact fun _ ascending => ascending
  | cons pair rest inductionHypothesis =>
      exact fun _ ascending => inductionHypothesis _ ascending.insert

omit [Std.TransOrd Key] in
theorem get?_eq_none_of_below (below : ∀ entry ∈ entries, compare key entry.1 = .lt) :
    get? key entries = none := by
  cases entries with
  | nil => rfl
  | cons head rest =>
      obtain ⟨other, held⟩ := head
      simp [get?, below (other, held) List.mem_cons_self]

variable [Std.LawfulEqOrd Key] [DecidableEq Key]

theorem get?_insert (other : Key) (ascending : IsAscending entries) :
    get? other (insert key value entries) =
      if other = key then some value else get? other entries := by
  induction entries with
  | nil =>
      by_cases same : other = key
      · subst same; simp [insert, get?]
      · have : compare other key ≠ .eq := fun equal => same (Std.LawfulEqCmp.eq_of_compare equal)
        simp only [insert, get?, if_neg same]
        split <;> simp_all
  | cons head rest inductionHypothesis =>
      obtain ⟨first, held⟩ := head
      have ⟨headLow, restAscending⟩ := List.pairwise_cons.1 ascending
      have ih := inductionHypothesis restAscending
      by_cases same : other = key
      · subst same
        rw [if_pos rfl] at ih ⊢
        cases order : compare other first <;> simp [insert, get?, order, ih]
      · have differs : compare other key ≠ .eq := fun equal =>
          same (Std.LawfulEqCmp.eq_of_compare equal)
        rw [if_neg same] at ih ⊢
        cases order : compare key first with
        | lt =>
            simp only [insert, order]
            cases toKey : compare other key with
            | eq => exact absurd toKey differs
            | lt =>
                have : compare other first = .lt := Std.TransCmp.lt_trans toKey order
                simp [get?, toKey, this]
            | gt => simp [get?, toKey]
        | eq =>
            have equal : key = first := Std.LawfulEqCmp.eq_of_compare order
            subst equal
            simp only [insert, order]
            cases toKey : compare other key with
            | eq => exact absurd toKey differs
            | lt => simp [get?, toKey]
            | gt => simp [get?, toKey]
        | gt => simp [insert, order, get?, ih]

theorem get?_erase (other : Key) (ascending : IsAscending entries) :
    get? other (erase key entries) = if other = key then none else get? other entries := by
  induction entries with
  | nil => simp [erase, get?]
  | cons head rest inductionHypothesis =>
      obtain ⟨first, held⟩ := head
      have ⟨headLow, restAscending⟩ := List.pairwise_cons.1 ascending
      have ih := inductionHypothesis restAscending
      cases order : compare key first with
      | lt =>
          by_cases same : other = key
          · subst same; simp [erase, get?, order]
          · simp [erase, order, same]
      | eq =>
          have equal : key = first := Std.LawfulEqCmp.eq_of_compare order
          subst equal
          by_cases same : other = key
          · subst same
            simp only [erase, order, if_true]
            exact get?_eq_none_of_below headLow
          · simp only [erase, order, if_neg same, get?]
            cases toKey : compare other key with
            | eq => exact absurd (Std.LawfulEqCmp.eq_of_compare toKey) same
            | lt =>
                exact get?_eq_none_of_below fun entry member =>
                  Std.TransCmp.lt_trans toKey (headLow entry member)
            | gt => rfl
      | gt =>
          by_cases same : other = key
          · subst same; simpa [erase, order, get?] using ih
          · rw [if_neg same] at ih ⊢
            simp [erase, order, get?, ih]

omit [DecidableEq Key] in
theorem get?_eq_some_iff (ascending : IsAscending entries) :
    get? key entries = some value ↔ (key, value) ∈ entries := by
  induction entries with
  | nil => simp [get?]
  | cons head rest inductionHypothesis =>
      obtain ⟨first, held⟩ := head
      have ⟨headLow, restAscending⟩ := List.pairwise_cons.1 ascending
      have ih := inductionHypothesis restAscending
      cases order : compare key first with
      | lt =>
          simp only [get?, order, List.mem_cons, Prod.mk.injEq, reduceCtorEq, false_iff]
          rintro (⟨same, -⟩ | inRest)
          · subst same; simp at order
          · have := Std.TransCmp.lt_trans order (headLow _ inRest)
            simp at this
      | eq =>
          have equal : key = first := Std.LawfulEqCmp.eq_of_compare order
          subst equal
          simp only [get?, order, Option.some.injEq, List.mem_cons, Prod.mk.injEq, true_and]
          constructor
          · exact fun same => .inl same.symm
          · rintro (same | inRest)
            · exact same.symm
            · have := headLow _ inRest
              simp at this
      | gt =>
          simp only [get?, order, ih, List.mem_cons, Prod.mk.injEq]
          constructor
          · exact .inr
          · rintro (⟨same, -⟩ | inRest)
            · subst same; simp at order
            · exact inRest

omit [DecidableEq Key] in
/-- Ascending lists that answer every look-up alike are one list. -/
theorem IsAscending.eq_of_get? {others : List (Key × Value)} (ascending : IsAscending entries)
    (othersAscending : IsAscending others)
    (alike : ∀ key, get? key entries = get? key others) : entries = others := by
  have members : ∀ entry, entry ∈ entries ↔ entry ∈ others := fun entry => by
    rw [← get?_eq_some_iff ascending, ← get?_eq_some_iff othersAscending, alike]
  clear alike
  induction entries generalizing others with
  | nil =>
      cases others with
      | nil => rfl
      | cons head _ => simpa using members head
  | cons head rest inductionHypothesis =>
      have ⟨headLow, restAscending⟩ := List.pairwise_cons.1 ascending
      cases others with
      | nil => simpa using members head
      | cons other otherRest =>
          have ⟨otherLow, otherAscending⟩ := List.pairwise_cons.1 othersAscending
          have same : head = other := by
            rcases List.mem_cons.1 ((members head).1 List.mem_cons_self) with same | later
            · exact same
            · rcases List.mem_cons.1 ((members other).2 List.mem_cons_self) with same | earlier
              · exact same.symm
              · have := Std.TransCmp.lt_trans (otherLow _ later) (headLow _ earlier)
                simp at this
          subst same
          congr 1
          refine inductionHypothesis restAscending otherAscending fun entry => ?_
          have := members entry
          simp only [List.mem_cons] at this
          constructor
          · intro inRest
            rcases this.1 (.inr inRest) with same | found
            · have low := headLow _ inRest
              subst same; simp at low
            · exact found
          · intro inRest
            rcases this.2 (.inr inRest) with same | found
            · have low := otherLow _ inRest
              subst same; simp at low
            · exact found

end Ascending

/-- A finite map whose entries are listed in ascending order of keys. -/
structure SortedMap (Key : Type u) (Value : Type v) [Ord Key] where
  entries : List (Key × Value)
  ascending : Ascending.IsAscending entries

namespace SortedMap

variable {Key : Type u} {Value : Type v} [Ord Key]

def empty : SortedMap Key Value := ⟨[], List.Pairwise.nil⟩

instance : EmptyCollection (SortedMap Key Value) := ⟨empty⟩

instance : Inhabited (SortedMap Key Value) := ⟨empty⟩

instance [DecidableEq Key] [DecidableEq Value] : DecidableEq (SortedMap Key Value) :=
  fun first second =>
    decidable_of_iff (first.entries = second.entries)
      ⟨fun same => by cases first; cases second; cases same; rfl, fun same => same ▸ rfl⟩

def get? (map : SortedMap Key Value) (key : Key) : Option Value :=
  Ascending.get? key map.entries

def contains (map : SortedMap Key Value) (key : Key) : Bool := (map.get? key).isSome

def size (map : SortedMap Key Value) : Nat := map.entries.length

def isEmpty (map : SortedMap Key Value) : Bool := map.entries.isEmpty

def toList (map : SortedMap Key Value) : List (Key × Value) := map.entries

def keys (map : SortedMap Key Value) : List Key := map.entries.map (·.1)

variable [Std.TransOrd Key]

def insert (map : SortedMap Key Value) (key : Key) (value : Value) : SortedMap Key Value :=
  ⟨Ascending.insert key value map.entries, map.ascending.insert⟩

def erase (map : SortedMap Key Value) (key : Key) : SortedMap Key Value :=
  ⟨Ascending.erase key map.entries, map.ascending.erase⟩

/-- Inserts the pairs one after another, so a later pair wins over an earlier one of its key. -/
def insertMany (map : SortedMap Key Value) (pairs : List (Key × Value)) : SortedMap Key Value :=
  pairs.foldl (fun map pair => map.insert pair.1 pair.2) map

def ofList (pairs : List (Key × Value)) : SortedMap Key Value := empty.insertMany pairs

/-- Replaces what is held under `key`, where `none` stands for nothing held. -/
def alter (map : SortedMap Key Value) (key : Key) (change : Option Value → Value) :
    SortedMap Key Value :=
  map.insert key (change (map.get? key))

variable [Std.LawfulEqOrd Key]

omit [Std.LawfulEqOrd Key] [Std.TransOrd Key] in
@[simp] theorem get?_empty (key : Key) : (∅ : SortedMap Key Value).get? key = none := rfl

@[ext]
theorem ext {first second : SortedMap Key Value}
    (alike : ∀ key, first.get? key = second.get? key) : first = second := by
  obtain ⟨entries, ascending⟩ := first
  obtain ⟨others, othersAscending⟩ := second
  have : entries = others := ascending.eq_of_get? othersAscending alike
  subst this
  rfl

variable [DecidableEq Key]

@[simp]
theorem get?_insert (map : SortedMap Key Value) (key other : Key) (value : Value) :
    (map.insert key value).get? other = if other = key then some value else map.get? other :=
  Ascending.get?_insert other map.ascending

@[simp]
theorem get?_erase (map : SortedMap Key Value) (key other : Key) :
    (map.erase key).get? other = if other = key then none else map.get? other :=
  Ascending.get?_erase other map.ascending

@[simp]
theorem get?_alter (map : SortedMap Key Value) (key other : Key)
    (change : Option Value → Value) :
    (map.alter key change).get? other =
      if other = key then some (change (map.get? key)) else map.get? other :=
  get?_insert map key other _

end SortedMap

end LoadTest
