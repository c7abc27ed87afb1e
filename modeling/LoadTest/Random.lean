/-!
A supply of numbers for shuffles, random picks and random pauses.

A supply is given from outside: each of its numbers may depend on all that was asked for before it,
but lies below the bound that it is asked for, and a shuffle may put things in any order.
`Random.ofSeed` makes a repeatable supply to run with.  No law is about that one only.
-/

namespace LoadTest

structure Random where
  /-- The number below a bound, where these are the bounds asked for before, last one first. -/
  number : List Nat → Nat → Nat
  number_lt : ∀ (asked : List Nat) {bound : Nat}, 0 < bound → number asked bound < bound
  /-- The places of so many items, in the order that a shuffle puts them in. -/
  order : Nat → List Nat
  order_perm : ∀ count, (order count).Perm (List.range count)
  /-- The bounds asked for so far, last one first. -/
  asked : List Nat

namespace Random

/-- A number below `bound`, if there is one. -/
def below (bound : Nat) (random : Random) : Nat × Random :=
  (random.number random.asked bound, { random with asked := bound :: random.asked })

theorem below_lt {bound : Nat} (positive : 0 < bound) (random : Random) :
    (random.below bound).1 < bound := random.number_lt _ positive

/-- The items in the order of the supply. -/
def shuffle {Item : Type} (random : Random) (items : List Item) : List Item :=
  (random.order items.length).filterMap (items[·]?)

/-! ### Repeatable supplies -/

/-- The number at an index of a linear congruential generator modulo `2 ^ 64`, with its better half
moved to the low end. -/
def draft (seed : UInt64) (index : Nat) : Nat :=
  let state := Nat.repeat (· * 6364136223846793005 + 1442695040888963407) (index + 1) seed
  (state >>> 32 ||| state <<< 32).toNat

/-- Places each put somewhere among those before it. -/
def insertionOrder (place : Nat → Nat) : Nat → List Nat
  | 0 => []
  | count + 1 => (insertionOrder place count).insertIdx (place count % (count + 1)) count

theorem insertionOrder_perm (place : Nat → Nat) (count : Nat) :
    (insertionOrder place count).Perm (List.range count) := by
  induction count with
  | zero => exact .nil
  | succ count inductionHypothesis =>
      have length : (insertionOrder place count).length = count := by
        rw [inductionHypothesis.length_eq, List.length_range]
      have among : place count % (count + 1) ≤ (insertionOrder place count).length := by
        rw [length]
        exact Nat.le_of_lt_succ (Nat.mod_lt _ (Nat.succ_pos count))
      have later : (insertionOrder place (count + 1)).Perm (count :: List.range count) :=
        (List.perm_insertIdx count _ among).trans (.cons count inductionHypothesis)
      rw [List.range_succ]
      exact later.trans (List.perm_append_singleton count _).symm

def ofSeed (seed : Nat) : Random where
  number asked bound := draft (.ofNat seed) asked.length % bound
  number_lt _ _ positive := Nat.mod_lt _ positive
  order := insertionOrder (draft (.ofNat seed))
  order_perm := insertionOrder_perm _
  asked := []

/-- The supply of each user of a run, by its number. -/
def forUsers (seed : Nat) (id : Nat) : Random := .ofSeed (seed + id)

end Random

end LoadTest
