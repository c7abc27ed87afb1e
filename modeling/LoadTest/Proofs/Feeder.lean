import LoadTest.Feeder
import Mathlib.Logic.Function.Iterate

/-!
What a feeder hands out, draw by draw.

Draws are numbered from zero.  Users draw in any order, and what a draw gives depends on its number
only, not on who makes it (`serve_eq`).  A feeder over records knows that number up to the size of
its cursor (`after_eq`), so what it hands out in its first `UInt64.size` draws (`HandsOut`) it hands
out again in the next ones.
-/

namespace LoadTest

theorem filterMap_range {Item : Type} {items : List Item} {get : Nat → Option Item} {count : Nat}
    (gets : ∀ index < count, get index = items[index]?) :
    (List.range count).filterMap get = items.take count := by
  induction count with
  | zero => rfl
  | succ count inductionHypothesis =>
      have earlier : ∀ index < count, get index = items[index]? :=
        fun index below => gets index (Nat.lt_succ_of_lt below)
      have last := gets count (Nat.lt_succ_self count)
      rw [List.range_succ, List.filterMap_append, inductionHypothesis earlier, List.take_add_one,
        ← last]
      rfl

/-- A shuffle loses nothing and doubles nothing. -/
theorem Random.shuffle_perm {Item : Type} (random : Random) (items : List Item) :
    (random.shuffle items).Perm items := by
  have moved := (random.order_perm items.length).filterMap (items[·]?)
  rwa [filterMap_range fun _ _ => rfl, List.take_length] at moved

namespace RecordFeeder

/-- The feeder after a number of draws. -/
def after (feeder : RecordFeeder) (draws : Nat) : RecordFeeder :=
  (fun feeder => feeder.next.2)^[draws] feeder

/-- What a draw gives. -/
def drawn (feeder : RecordFeeder) (draw : Nat) : Except Exhausted Record :=
  (feeder.after draw).next.1

/-- Users draw one after another, each of them any number of times. -/
def serve : RecordFeeder → List Nat → List (Nat × Except Exhausted Record)
  | _, [] => []
  | feeder, user :: users => (user, feeder.next.1) :: feeder.next.2.serve users

/-- The feeder hands out each of the items once, in this order, and then no more. -/
structure HandsOut (feeder : RecordFeeder) (items : List Record) : Prop where
  drawn_eq : ∀ draw < UInt64.size,
    feeder.drawn draw =
      match items[draw]? with
      | some record => .ok record
      | none => .error ⟨feeder.name⟩
  /-- What all users together get is what there is. -/
  served_eq : ∀ users : List Nat, users.length ≤ UInt64.size →
    (feeder.serve users).filterMap (·.2.toOption) = items.take users.length

variable {feeder : RecordFeeder}

theorem after_succ (feeder : RecordFeeder) (draws : Nat) :
    feeder.after (draws + 1) = (feeder.after draws).next.2 := Function.iterate_succ_apply' ..

theorem after_add (feeder : RecordFeeder) (first second : Nat) :
    (feeder.after first).after second = feeder.after (first + second) := by
  rw [Nat.add_comm]
  exact (Function.iterate_add_apply ..).symm

theorem drawn_after (feeder : RecordFeeder) (draws draw : Nat) :
    (feeder.after draws).drawn draw = feeder.drawn (draws + draw) := by
  rw [drawn, after_add, drawn]

theorem serve_eq (feeder : RecordFeeder) (users : List Nat) :
    feeder.serve users = users.zip ((List.range users.length).map feeder.drawn) := by
  induction users generalizing feeder with
  | nil => rfl
  | cons user users inductionHypothesis =>
      rw [serve, inductionHypothesis, List.length_cons, List.range_succ_eq_map, List.map_cons,
        List.zip_cons_cons, List.map_map]
      have shifted : (feeder.next.2).drawn = feeder.drawn ∘ Nat.succ := by
        funext draw
        rw [Function.comp_apply, Nat.succ_eq_one_add]
        exact drawn_after feeder 1 draw
      rw [shifted]
      rfl

/-! ### Feeders with and without records -/

theorem next_of_empty (empty : feeder.records = []) :
    feeder.next = (.error ⟨feeder.name⟩, feeder) := by
  simp [next, empty]

theorem after_of_empty (empty : feeder.records = []) (draws : Nat) : feeder.after draws = feeder :=
  Function.iterate_fixed (by rw [next_of_empty empty]) draws

theorem drawn_of_empty (empty : feeder.records = []) (draw : Nat) :
    feeder.drawn draw = .error ⟨feeder.name⟩ := by
  rw [drawn, after_of_empty empty, next_of_empty empty]

theorem next_of_ne_nil (stocked : feeder.records ≠ []) :
    feeder.next =
      (match feeder.records[feeder.place]? with
        | some record => .ok record
        | none => .error ⟨feeder.name⟩, feeder.advance) := by
  rw [next, if_neg (by simpa using stocked)]
  cases feeder.records[feeder.place]? <;> rfl

theorem advance_of_cursor (counts : feeder.strategy ≠ .random) :
    feeder.advance = { feeder with cursor := feeder.cursor + 1 } := by
  unfold advance
  split
  next random => exact absurd random counts
  next => rfl

/-- Draws move the cursor, and nothing else. -/
theorem after_eq (stocked : feeder.records ≠ []) (counts : feeder.strategy ≠ .random)
    (draws : Nat) :
    feeder.after draws = { feeder with cursor := feeder.cursor + UInt64.ofNat draws } := by
  induction draws with
  | zero => simp [after]
  | succ draws inductionHypothesis =>
      let moved : RecordFeeder := { feeder with cursor := feeder.cursor + UInt64.ofNat draws }
      have advanced : moved.next.2 = { moved with cursor := moved.cursor + 1 } := by
        have stockedStill : moved.records ≠ [] := stocked
        have countsStill : moved.strategy ≠ .random := counts
        rw [next_of_ne_nil stockedStill, advance_of_cursor countsStill]
      rw [after_succ, inductionHypothesis, advanced, UInt64.ofNat_add, ← UInt64.add_assoc]
      rfl

theorem drawn_eq (stocked : feeder.records ≠ []) (counts : feeder.strategy ≠ .random)
    (draw : Nat) :
    feeder.drawn draw =
      match feeder.records[(feeder.after draw).place]? with
      | some record => .ok record
      | none => .error ⟨feeder.name⟩ := by
  have same := after_eq stocked counts draw
  rw [drawn, next_of_ne_nil (by rw [same]; exact stocked), same]

/-- After as many draws as the cursor can count everything begins anew. -/
theorem drawn_add_size (counts : feeder.strategy ≠ .random) (draw : Nat) :
    feeder.drawn (draw + UInt64.size) = feeder.drawn draw := by
  by_cases empty : feeder.records = []
  · rw [drawn_of_empty empty, drawn_of_empty empty]
  · have wrapped : UInt64.ofNat (draw + UInt64.size) = UInt64.ofNat draw := by
      rw [UInt64.ofNat_add]
      exact UInt64.add_zero _
    rw [drawn, drawn, after_eq empty counts, after_eq empty counts, wrapped]

/-- A random feeder keeps its records. -/
theorem after_random (stocked : feeder.records ≠ []) (random : feeder.strategy = .random)
    (draws : Nat) :
    ∃ supply, feeder.after draws = { feeder with supply } := by
  induction draws with
  | zero => exact ⟨feeder.supply, rfl⟩
  | succ draws inductionHypothesis =>
      obtain ⟨supply, same⟩ := inductionHypothesis
      have stockedStill : ({ feeder with supply } : RecordFeeder).records ≠ [] := stocked
      refine ⟨(supply.below feeder.records.length).2, ?_⟩
      rw [after_succ, same, next_of_ne_nil stockedStill]
      simp [advance, random]

theorem drawn_random (stocked : feeder.records ≠ []) (random : feeder.strategy = .random)
    (draw : Nat) : ∃ record ∈ feeder.records, feeder.drawn draw = .ok record := by
  obtain ⟨supply, same⟩ := after_random stocked random draw
  have within : (supply.below feeder.records.length).1 < feeder.records.length :=
    Random.below_lt (List.length_pos_iff.2 stocked) supply
  have stockedStill : ({ feeder with supply } : RecordFeeder).records ≠ [] := stocked
  refine ⟨_, List.getElem_mem within, ?_⟩
  rw [drawn, same, next_of_ne_nil stockedStill]
  simp [place, random, within]

/-! ### New feeders -/

variable {draw : Nat}

/-- The cursor of a new feeder counts its draws. -/
theorem after_of_fresh (stocked : feeder.records ≠ []) (counts : feeder.strategy ≠ .random)
    (fresh : feeder.cursor = 0) (draw : Nat) :
    feeder.after draw = { feeder with cursor := UInt64.ofNat draw } := by
  rw [after_eq stocked counts, fresh, UInt64.zero_add]

theorem drawn_once (once : feeder.strategy = .queue ∨ feeder.strategy = .shuffle)
    (fresh : feeder.cursor = 0) (early : draw < UInt64.size) :
    feeder.drawn draw =
      match feeder.records[draw]? with
      | some record => .ok record
      | none => .error ⟨feeder.name⟩ := by
  by_cases empty : feeder.records = []
  · rw [drawn_of_empty empty, empty]
    rfl
  · have counts : feeder.strategy ≠ .random := by
      rintro random
      simp [random] at once
    have counted : (UInt64.ofNat draw).toNat = draw := UInt64.toNat_ofNat_of_lt' early
    have place : (feeder.after draw).place = draw := by
      rw [after_of_fresh empty counts fresh]
      obtain queue | shuffle := once
      · simp only [place, queue, counted]
      · simp only [place, shuffle, counted]
    rw [drawn_eq empty counts, place]

theorem drawn_circular (stocked : feeder.records ≠ []) (circular : feeder.strategy = .circular)
    (fresh : feeder.cursor = 0) (early : draw < UInt64.size) :
    ∃ record, feeder.records[draw % feeder.records.length]? = some record ∧
      feeder.drawn draw = .ok record := by
  have counts : feeder.strategy ≠ .random := by simp [circular]
  have counted : (UInt64.ofNat draw).toNat = draw := UInt64.toNat_ofNat_of_lt' early
  have place : (feeder.after draw).place = draw % feeder.records.length := by
    rw [after_of_fresh stocked counts fresh]
    simp only [place, circular, counted]
  have within : draw % feeder.records.length < feeder.records.length :=
    Nat.mod_lt _ (List.length_pos_iff.2 stocked)
  refine ⟨_, List.getElem?_eq_getElem within, ?_⟩
  rw [drawn_eq stocked counts, place, List.getElem?_eq_getElem within]

theorem handsOut_of_fresh (once : feeder.strategy = .queue ∨ feeder.strategy = .shuffle)
    (fresh : feeder.cursor = 0) : feeder.HandsOut feeder.records where
  drawn_eq _ early := drawn_once once fresh early
  served_eq users few := by
    have pooled : (feeder.serve users).map Prod.snd =
        (List.range users.length).map feeder.drawn := by
      rw [serve_eq, List.map_snd_zip]
      simp
    have given : ∀ draw < users.length,
        (feeder.drawn draw).toOption = feeder.records[draw]? := by
      intro draw early
      rw [drawn_once once fresh (Nat.lt_of_lt_of_le early few)]
      cases feeder.records[draw]? <;> rfl
    calc (feeder.serve users).filterMap (·.2.toOption)
        = ((feeder.serve users).map Prod.snd).filterMap (·.toOption) := by
          rw [List.filterMap_map]
          rfl
      _ = (List.range users.length).filterMap fun draw => (feeder.drawn draw).toOption := by
          rw [pooled, List.filterMap_map]
          rfl
      _ = feeder.records.take users.length := filterMap_range given

/-- A draw that fails fails for good. -/
theorem drawn_of_failed (fresh : feeder.cursor = 0) {later : Nat} {error : Exhausted}
    (failed : feeder.drawn draw = .error error) (before : draw ≤ later)
    (early : later < UInt64.size) : feeder.drawn later = .error error := by
  by_cases empty : feeder.records = []
  · rw [drawn_of_empty empty] at failed ⊢
    exact failed
  · cases strategy : feeder.strategy with
    | random =>
        obtain ⟨record, -, given⟩ := drawn_random empty strategy draw
        cases given.symm.trans failed
    | circular =>
        obtain ⟨record, -, given⟩ :=
          drawn_circular empty strategy fresh (Nat.lt_of_le_of_lt before early)
        cases given.symm.trans failed
    | _ =>
        rw [drawn_once (by simp [strategy]) fresh (Nat.lt_of_le_of_lt before early)] at failed
        rw [drawn_once (by simp [strategy]) fresh early]
        split at failed
        · cases failed
        next exhausted =>
          have gone : feeder.records[later]? = none :=
            List.getElem?_eq_none (Nat.le_trans (List.getElem?_eq_none_iff.1 exhausted) before)
          rw [gone, failed]

@[simp] theorem name_new (name : String) (records : List Record) (strategy : Strategy)
    (supply : Random) : (new name records strategy supply).name = name := by
  cases strategy <;> rfl

@[simp] theorem cursor_new (name : String) (records : List Record) (strategy : Strategy)
    (supply : Random) : (new name records strategy supply).cursor = 0 := by
  cases strategy <;> rfl

@[simp] theorem strategy_new (name : String) (records : List Record) (strategy : Strategy)
    (supply : Random) : (new name records strategy supply).strategy = strategy := by
  cases strategy <;> rfl

theorem records_new_nil (name : String) (strategy : Strategy) (supply : Random) :
    (new name [] strategy supply).records = [] := by
  cases strategy with
  | shuffle => exact List.Perm.eq_nil (Random.shuffle_perm supply [])
  | _ => rfl

/-- For the first `UInt64.size` draws, whoever makes them and whatever the supply gives: a queue
hands out its records in order, a shuffle does so in an order of its own, a circular feeder goes
through them over and over, and what failed once fails from then on as if it had not been tried.  A
random feeder always gives one of its records, and a feeder without records never gives one.  All
but the random ones begin anew after that many draws. -/
theorem hands_out (name : String) (records : List Record) (supply : Random) :
    (new name records .queue supply).HandsOut records ∧
      (∃ shuffled : List Record, shuffled.Perm records ∧
        (new name records .shuffle supply).HandsOut shuffled) ∧
      (records ≠ [] → ∀ draw < UInt64.size, ∃ record,
        records[draw % records.length]? = some record ∧
          (new name records .circular supply).drawn draw = .ok record) ∧
      (records ≠ [] → ∀ draw, ∃ record ∈ records,
        (new name records .random supply).drawn draw = .ok record) ∧
      (∀ strategy draw, (new name [] strategy supply).drawn draw = .error ⟨name⟩) ∧
      ∀ strategy, let feeder := new name records strategy supply
        (∀ users, feeder.serve users = users.zip ((List.range users.length).map feeder.drawn)) ∧
        (∀ draw error, feeder.drawn draw = .error error →
          ∀ later, draw + later + 1 < UInt64.size →
            (feeder.after (draw + 1)).drawn later = (feeder.after draw).drawn later) ∧
        (strategy ≠ .random → ∀ draw, feeder.drawn (draw + UInt64.size) = feeder.drawn draw) := by
  refine ⟨?_, ?_, ?_, ?_, ?_, ?_⟩
  · exact handsOut_of_fresh (.inl rfl) rfl
  · exact ⟨_, Random.shuffle_perm _ records, handsOut_of_fresh (.inr rfl) rfl⟩
  · intro stocked draw early
    have circular : (new name records .circular supply).records ≠ [] := stocked
    exact drawn_circular circular rfl rfl early
  · intro stocked draw
    have random : (new name records .random supply).records ≠ [] := stocked
    exact drawn_random random rfl draw
  · intro strategy draw
    rw [drawn_of_empty (records_new_nil ..), name_new]
  · intro strategy
    refine ⟨serve_eq _, ?_, ?_⟩
    · intro draw error failed later early
      rw [drawn_after, drawn_after,
        drawn_of_failed (cursor_new ..) failed (by omega) (by omega),
        drawn_of_failed (cursor_new ..) failed (by omega) (by omega)]
    · intro counts draw
      exact drawn_add_size (by simpa using counts) draw

def ids : List Record := [0, 1, 2].map fun id => (∅ : Record).insert "id" (Json.ofNat id)

/-- Two users share three records, whoever comes first. -/
theorem hands_out_ids :
    let queue := new "ids" ids .queue (.ofSeed 7)
    let circular := new "ids" ids .circular (.ofSeed 7)
    ids ≠ [] ∧ [1, 0, 0, 1, 0].length ≤ UInt64.size ∧
      (queue.serve [1, 0, 0, 1, 0]).filterMap (·.2.toOption) = ids ∧
      circular.drawn 4 = circular.drawn 1 := by
  obtain ⟨queue, -, circular, -⟩ := hands_out "ids" ids (.ofSeed 7)
  have stocked : ids ≠ [] := by simp [ids]
  have few : [1, 0, 0, 1, 0].length ≤ UInt64.size := by decide
  refine ⟨stocked, few, queue.served_eq _ few, ?_⟩
  obtain ⟨fourth, there, given⟩ := circular stocked 4 (by decide)
  obtain ⟨first, here, givenFirst⟩ := circular stocked 1 (by decide)
  rw [given, givenFirst, Option.some.inj (there.symm.trans here)]

/-- Once the cursor has come round, a queue hands out its records again, and a circular feeder of
three records begins with the first one where it should go on with the second. -/
theorem hands_out_again :
    (¬ ∀ draw, ids.length ≤ draw →
      (new "ids" ids .queue (.ofSeed 7)).drawn draw = .error ⟨"ids"⟩) ∧
      ¬ ∀ draw, ∃ record, ids[draw % ids.length]? = some record ∧
        (new "ids" ids .circular (.ofSeed 7)).drawn draw = .ok record := by
  constructor
  · intro exhausted
    have again : (new "ids" ids .queue (.ofSeed 7)).drawn (0 + UInt64.size) =
        (new "ids" ids .queue (.ofSeed 7)).drawn 0 := drawn_add_size (by simp) 0
    cases (exhausted (0 + UInt64.size) (by decide)).symm.trans again
  · intro onward
    obtain ⟨second, there, given⟩ := onward (0 + UInt64.size)
    have again : (new "ids" ids .circular (.ofSeed 7)).drawn (0 + UInt64.size) =
        (new "ids" ids .circular (.ofSeed 7)).drawn 0 := drawn_add_size (by simp) 0
    have first : (new "ids" ids .circular (.ofSeed 7)).drawn 0 =
        .ok ((∅ : Record).insert "id" (Json.ofNat 0)) := rfl
    have same : (∅ : Record).insert "id" (Json.ofNat 0) = second :=
      Except.ok.inj (first.symm.trans (again.symm.trans given))
    have place : (0 + UInt64.size) % ids.length = 1 := by decide
    rw [place, ← same] at there
    have held := congrArg (Option.bind · (·.get? "id")) there
    simp [ids, Json.ofNat] at held

end RecordFeeder

end LoadTest
