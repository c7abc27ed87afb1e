import LoadTest.Proofs.Injection.Ticks
import Mathlib.Data.List.Basic

/-!
When schedules are in order, and that users start within their directives.

`Placed` is what makes lists of offsets follow each other: they lie between two moments and, if the
parts of their spans are exact, they are in order.  A spread, the ticks of a rate, a directive and a
whole profile are placed between their starts and their ends.

The parts of a span are taken from products in 128 bits (`Exact`).  The ticks of a rate bring so few
users that they always fit (`exact_of_few`), but those of a long ramp with very many users do not: a
later user starts before an earlier one then (`crowded_out_of_order`).
-/

namespace LoadTest.Injection

/-! ### Parts of a span -/

/-- The numbers of 128 bits are less than this one. -/
def wideSize : Nat := 0x100000000000000000000000000000000

/-- No product that a part of a span is taken from loses anything. -/
def Exact (span : Duration) (users : Nat) : Prop :=
  ∀ index < users, (wideProduct span index).toNat = span.nanos * index

theorem toNat_wideProduct_eq (span : Duration) (index : Nat) :
    (wideProduct span index).toNat = span.nanos * index % wideSize := by
  rw [wideProduct, BitVec.toNat_mul, BitVec.toNat_ofNat, BitVec.toNat_ofNat]
  exact (Nat.mul_mod ..).symm

theorem toNat_wideProduct_le (span : Duration) (index : Nat) :
    (wideProduct span index).toNat ≤ span.nanos * index := by
  rw [toNat_wideProduct_eq]
  exact Nat.mod_le ..

theorem exact_of_few {span : Duration} {users : Nat} (few : users ≤ maxArrivals) :
    Exact span users := by
  intro index within
  have small : index < maxArrivals := Nat.lt_of_lt_of_le within few
  have product : span.nanos * index < wideSize :=
    calc span.nanos * index
      _ < (maxCount + 1) * nanosPerSecond * maxArrivals := Nat.mul_lt_mul'' span.fits small
      _ < wideSize := by decide
  rw [toNat_wideProduct_eq, Nat.mod_eq_of_lt product]

theorem nanos_fraction_le_of_le {span : Duration} {first second users : Nat}
    (exact : Exact span users) (before : first ≤ second) (within : second < users) :
    (fraction span first users).nanos ≤ (fraction span second users).nanos := by
  have grows : span.nanos * first / users ≤ span.nanos * second / users :=
    Nat.div_le_div_right (Nat.mul_le_mul_left _ before)
  simp only [fraction, Duration.ofCount, exact first (Nat.lt_of_le_of_lt before within),
    exact second within]
  omega

theorem part_le {span : Duration} {index users : Nat} (within : index < users) :
    (wideProduct span index).toNat / users ≤ span.nanos := by
  apply Nat.div_le_of_le_mul
  calc (wideProduct span index).toNat
    _ ≤ span.nanos * index := toNat_wideProduct_le span index
    _ ≤ users * span.nanos := by
      rw [Nat.mul_comm users]
      exact Nat.mul_le_mul_left _ (Nat.le_of_lt within)

theorem nanos_fraction_le {span : Duration} {index users : Nat} (within : index < users) :
    (fraction span index users).nanos ≤ span.nanos :=
  Nat.le_trans (Nat.min_le_left ..) (part_le within)

theorem nanos_fraction_lt {span : Duration} {index users : Nat} (within : index < users)
    (long : 0 < span.nanos) : (fraction span index users).nanos < span.nanos := by
  have short : (wideProduct span index).toNat / users < span.nanos := by
    apply Nat.div_lt_of_lt_mul
    calc (wideProduct span index).toNat
      _ ≤ span.nanos * index := toNat_wideProduct_le span index
      _ < users * span.nanos := by
        rw [Nat.mul_comm users]
        exact Nat.mul_lt_mul_of_pos_left within long
  simp only [fraction, Duration.ofCount]
  omega

/-! ### Offsets between two moments -/

/-- Offsets none of which is before one moment and all of which are before another, and which are in
order if something holds. -/
structure Placed (orderly : Prop) (low high : Nat) (offsets : List Duration) : Prop where
  sorted : orderly → offsets.Pairwise (· ≤ ·)
  low_le : ∀ offset ∈ offsets, low ≤ offset.nanos
  lt_high : ∀ offset ∈ offsets, offset.nanos < high

namespace Placed

variable {orderly : Prop} {low high : Nat} {offsets : List Duration}

theorem nil : Placed orderly low high [] := by
  constructor <;> simp

theorem mono {higher : Nat} (placed : Placed orderly low high offsets) (le : high ≤ higher) :
    Placed orderly low higher offsets where
  sorted := placed.sorted
  low_le := placed.low_le
  lt_high offset member := Nat.lt_of_lt_of_le (placed.lt_high offset member) le

theorem imp {stronger : Prop} (placed : Placed orderly low high offsets)
    (implies : stronger → orderly) : Placed stronger low high offsets where
  sorted holds := placed.sorted (implies holds)
  low_le := placed.low_le
  lt_high := placed.lt_high

theorem append {middle next : Nat} {behind : List Duration}
    (first : Placed orderly low middle offsets) (second : Placed orderly next high behind)
    (meet : middle ≤ next + 1) (starts : low ≤ next) (ends : middle ≤ high) :
    Placed orderly low high (offsets ++ behind) := by
  constructor
  · intro holds
    apply List.pairwise_append.2
    refine ⟨first.sorted holds, second.sorted holds, fun offset member later memberBehind => ?_⟩
    have before := first.lt_high offset member
    have after := second.low_le later memberBehind
    exact Duration.le_iff.2 (by omega)
  · intro offset member
    rcases List.mem_append.1 member with member | member
    · exact first.low_le offset member
    · exact Nat.le_trans starts (second.low_le offset member)
  · intro offset member
    rcases List.mem_append.1 member with member | member
    · exact Nat.lt_of_lt_of_le (first.lt_high offset member) ends
    · exact second.lt_high offset member

end Placed

section

variable {start span : Duration} {users : Nat} {offsets : List Duration}

theorem Duration.exists_sum {first second : Duration}
    (fits : first.nanos + second.nanos < (maxCount + 1) * nanosPerSecond) :
    ∃ sum, first.add? second = some sum :=
  ⟨⟨_, fits⟩, Duration.add?_eq_some_iff.2 rfl⟩

theorem exists_spread (fits : start.nanos + span.nanos < (maxCount + 1) * nanosPerSecond) :
    ∃ offsets, spread start span users = some offsets := by
  have each : ∀ index ∈ List.range users,
      ∃ offset, start.add? (fraction span index users) = some offset := by
    intro index member
    have short : (fraction span index users).nanos ≤ span.nanos :=
      nanos_fraction_le (List.mem_range.1 member)
    exact Duration.exists_sum (by omega)
  unfold spread
  generalize List.range users = indices at each ⊢
  induction indices with
  | nil => exact ⟨[], rfl⟩
  | cons index indices inductionHypothesis =>
      obtain ⟨offset, reached⟩ := each index List.mem_cons_self
      obtain ⟨offsets, spreads⟩ :=
        inductionHypothesis fun other member => each other (List.mem_cons_of_mem _ member)
      exact ⟨offset :: offsets, by simp [List.mapM_cons, reached, spreads]⟩

theorem length_spread (spreads : spread start span users = some offsets) :
    offsets.length = users := by
  have lengths := congrArg List.length (mapM_eq_some_iff.1 spreads)
  simpa using lengths.symm

theorem getElem_spread {index : Nat} (spreads : spread start span users = some offsets)
    (within : index < offsets.length) :
    offsets[index].nanos = start.nanos + (fraction span index users).nanos := by
  have listed := congrArg (·[index]?) (mapM_eq_some_iff.1 spreads)
  have below : index < users := length_spread spreads ▸ within
  simp only [List.getElem?_map, List.getElem?_range below, List.getElem?_eq_getElem within,
    Option.map_some, Option.some.injEq] at listed
  exact Duration.add?_eq_some_iff.1 listed

theorem mem_spread (spreads : spread start span users = some offsets) {offset : Duration}
    (member : offset ∈ offsets) :
    ∃ index < users, offset.nanos = start.nanos + (fraction span index users).nanos := by
  obtain ⟨index, within, rfl⟩ := List.getElem_of_mem member
  exact ⟨index, length_spread spreads ▸ within, getElem_spread spreads within⟩

theorem sorted_spread (spreads : spread start span users = some offsets)
    (exact : Exact span users) : offsets.Pairwise (· ≤ ·) := by
  refine List.pairwise_iff_getElem.2 fun first second within also before => ?_
  have last : second < users := length_spread spreads ▸ also
  have grows := nanos_fraction_le_of_le exact (Nat.le_of_lt before) last
  rw [Duration.le_iff, getElem_spread spreads within, getElem_spread spreads also]
  exact Nat.add_le_add_left grows _

theorem placed_spread (spreads : spread start span users = some offsets) :
    Placed (Exact span users) start.nanos (start.nanos + span.nanos + 1) offsets where
  sorted := sorted_spread spreads
  low_le offset member := by
    obtain ⟨index, _, reached⟩ := mem_spread spreads member
    omega
  lt_high offset member := by
    obtain ⟨index, within, reached⟩ := mem_spread spreads member
    have short : (fraction span index users).nanos ≤ span.nanos := nanos_fraction_le within
    omega

theorem placed_spread_of_pos (spreads : spread start span users = some offsets)
    (long : 0 < span.nanos) :
    Placed (Exact span users) start.nanos (start.nanos + span.nanos) offsets where
  sorted := sorted_spread spreads
  low_le := (placed_spread spreads).low_le
  lt_high offset member := by
    obtain ⟨index, within, reached⟩ := mem_spread spreads member
    have short : (fraction span index users).nanos < span.nanos := nanos_fraction_lt within long
    omega

end

variable {Rate : Type} [Scalar Rate] {tick : Duration} {offsets : List Duration}

theorem arrivals_le (elapsed during : Duration) (startRate endRate carry : Rate)
    (tick : Duration) : (arrivals elapsed during startRate endRate carry tick).1 ≤ maxArrivals := by
  simp only [arrivals, arrivalCount]
  split
  · exact Nat.le_refl _
  · split
    · exact Nat.zero_le _
    · exact Nat.min_le_right ..

/-- The last tick is cut short by the end of the rate. -/
theorem Ticks.placed {baseline during elapsed : Duration} {startRate endRate carry : Rate}
    (positive : 0 < tick.nanos)
    (ticks : Ticks baseline during startRate endRate tick elapsed carry offsets) :
    Placed True (baseline.nanos + elapsed.nanos) (baseline.nanos + during.nanos) offsets := by
  induction ticks with
  | done => exact .nil
  | @tick elapsed carry start here next later running starts spreads reached _
      inductionHypothesis =>
      have runs := Duration.lt_iff.1 running
      have startsAt := Duration.add?_eq_some_iff.1 starts
      have reachedAt := Duration.add?_eq_some_iff.1 reached
      have spanOf : (tick.min (during.sub elapsed)).nanos =
          min tick.nanos (during.nanos - elapsed.nanos) := Duration.nanos_min ..
      have long : 0 < (tick.min (during.sub elapsed)).nanos := by omega
      have placedHere := (placed_spread_of_pos spreads long).imp
        fun _ : True => exact_of_few (arrivals_le ..)
      rw [startsAt] at placedHere
      exact placedHere.append inductionHypothesis (by omega) (by omega) (by omega)

theorem placed_rateOffsets {start during : Duration} {startRate endRate carry : Rate}
    {positive : 0 < tick.nanos}
    (brings : rateOffsets start during startRate endRate tick positive .zero carry =
      some offsets) :
    Placed True start.nanos (start.nanos + during.nanos) offsets :=
  (rateOffsets_eq_some_iff.1 brings).placed positive

/-- A ramp whose parts are exact, or any directive of another kind. -/
def Directive.IsExact : Directive Rate → Prop
  | .ramp users during => Exact during users
  | _ => True

theorem placed_offsets {positive : 0 < tick.nanos} {directive : Directive Rate}
    {start : Duration} (brings : directive.offsets tick positive start = some offsets) :
    Placed directive.IsExact start.nanos (start.nanos + directive.during.nanos + 1) offsets ∧
      (0 < directive.during.nanos →
        Placed directive.IsExact start.nanos (start.nanos + directive.during.nanos) offsets) := by
  cases directive with
  | nothingFor during =>
      cases brings
      exact ⟨.nil, fun _ => .nil⟩
  | atOnce users =>
      cases brings
      refine ⟨⟨?_, ?_, ?_⟩, fun long => absurd long (Nat.lt_irrefl 0)⟩
      · exact fun _ => List.pairwise_replicate.2 (.inr (Duration.le_iff.2 (Nat.le_refl _)))
      · simp +contextual
      · simp +contextual [Directive.during]
  | ramp users during => exact ⟨placed_spread brings, placed_spread_of_pos brings⟩
  | constantRate rate during =>
      have placed := placed_rateOffsets brings
      exact ⟨placed.mono (Nat.le_succ _), fun _ => placed⟩
  | rampRate startRate endRate during =>
      have placed := placed_rateOffsets brings
      exact ⟨placed.mono (Nat.le_succ _), fun _ => placed⟩

theorem placed_offsetsFrom {positive : 0 < tick.nanos} {profile : Profile Rate}
    {baseline : Duration} (brings : offsetsFrom tick positive baseline profile = some offsets) :
    ∃ finish, endOf baseline profile = some finish ∧ baseline ≤ finish ∧
      Placed (∀ directive ∈ profile, directive.IsExact) baseline.nanos (finish.nanos + 1)
        offsets := by
  induction profile generalizing baseline offsets with
  | nil =>
      cases brings
      exact ⟨baseline, rfl, Duration.le_iff.2 (Nat.le_refl _), .nil⟩
  | cons directive rest inductionHypothesis =>
      simp only [offsetsFrom, Option.bind_eq_bind, Option.bind_eq_some_iff] at brings
      obtain ⟨here, bringsHere, next, ends, later, bringsLater, same⟩ := brings
      cases same
      obtain ⟨finish, endsRest, after, placedLater⟩ := inductionHypothesis bringsLater
      have endsAt := Duration.add?_eq_some_iff.1 ends
      have afterNext := Duration.le_iff.1 after
      refine ⟨finish, by rw [endOf_cons, ends]; exact endsRest,
        Duration.le_iff.2 (by omega), ?_⟩
      have placedHere := (placed_offsets bringsHere).1.imp
        fun exact : ∀ other ∈ directive :: rest, other.IsExact => exact _ List.mem_cons_self
      have placedRest := placedLater.imp
        fun exact : ∀ other ∈ directive :: rest, other.IsExact =>
          fun other member => exact other (List.mem_cons_of_mem _ member)
      exact placedHere.append placedRest (by omega) (by omega) (by omega)

/-- The directive of a schedule that comes behind some others. -/
theorem exists_here {before after : Profile Rate} {directive : Directive Rate}
    (scheduled : schedule tick (before ++ directive :: after) = .ok offsets) :
    ∃ start finish earlier here later,
      duration? before = some start ∧ start.add? directive.during = some finish ∧
      schedule tick before = .ok earlier ∧
      schedule tick (before ++ [directive]) = .ok (earlier ++ here) ∧
      offsets = earlier ++ here ++ later ∧
      ∃ positive, directive.offsets tick positive start = some here := by
  obtain ⟨valid, positive, brings⟩ := schedule_eq_ok_iff.1 scheduled
  rw [offsetsFrom_append] at brings
  simp only [offsetsFrom, Option.bind_eq_bind, Option.bind_eq_some_iff] at brings
  obtain ⟨earlier, bringsEarlier, start, starts, _,
    ⟨here, bringsHere, finish, ends, later, _, sameBehind⟩, same⟩ := brings
  cases sameBehind
  cases same
  refine ⟨start, finish, earlier, here, later, starts, ends, ?_, ?_, by simp, positive, bringsHere⟩
  · exact schedule_eq_ok_iff.2 ⟨valid_of_append valid, positive, bringsEarlier⟩
  · apply schedule_eq_ok_iff.2
    refine ⟨?_, positive, ?_⟩
    · rw [List.append_cons] at valid
      exact valid_of_append valid
    · simp [offsetsFrom_append, offsetsFrom, bringsEarlier, starts, bringsHere, ends]

/-- A directive without rates can follow whatever has a schedule. -/
theorem schedule_concat {before : Profile Rate} {directive : Directive Rate}
    {baseline finish : Duration} {earlier here : List Duration}
    (scheduled : schedule tick before = .ok earlier) (starts : duration? before = some baseline)
    (harmless : directive.rates = [])
    (brings : ∀ positive, directive.offsets tick positive baseline = some here)
    (ends : baseline.add? directive.during = some finish) :
    schedule tick (before ++ [directive]) = .ok (earlier ++ here) := by
  obtain ⟨valid, positive, bringsEarlier⟩ := schedule_eq_ok_iff.1 scheduled
  refine schedule_eq_ok_iff.2 ⟨?_, positive, ?_⟩
  · rw [validate_of_pos positive] at valid ⊢
    rw [validateRates_append, valid]
    simp [validateRates, harmless, bind, Except.bind]
  · have starts : endOf .zero before = some baseline := starts
    simp [offsetsFrom_append, offsetsFrom, bringsEarlier, starts, brings, ends]

/-- A schedule is in order if the parts of its ramps are exact.  In any case the users of a
directive start neither before nor after it, and before its end if it has any length; so no user
starts after the end of the profile. -/
theorem schedule_in_order {profile : Profile Rate}
    (scheduled : schedule tick profile = .ok offsets) :
    ((∀ directive ∈ profile, directive.IsExact) → offsets.Pairwise (· ≤ ·)) ∧
    (∀ before directive after, profile = before ++ directive :: after →
      ∃ start finish earlier here later,
        duration? before = some start ∧ start.add? directive.during = some finish ∧
        schedule tick before = .ok earlier ∧
        schedule tick (before ++ [directive]) = .ok (earlier ++ here) ∧
        offsets = earlier ++ here ++ later ∧
        ∀ offset ∈ here, start ≤ offset ∧ offset ≤ finish ∧ (start < finish → offset < finish)) ∧
    ∃ finish, duration? profile = some finish ∧ ∀ offset ∈ offsets, offset ≤ finish := by
  obtain ⟨_, positive, brings⟩ := schedule_eq_ok_iff.1 scheduled
  obtain ⟨finish, ends, _, placed⟩ := placed_offsetsFrom brings
  refine ⟨placed.sorted, ?_, finish, ends, fun offset member => ?_⟩
  · intro before directive after same
    subst same
    obtain ⟨start, finish, earlier, here, later, starts, ends, scheduledBefore, scheduledHere,
      split, _, bringsHere⟩ := exists_here scheduled
    refine ⟨start, finish, earlier, here, later, starts, ends, scheduledBefore, scheduledHere,
      split, ?_⟩
    intro offset member
    obtain ⟨placedHere, placedBefore⟩ := placed_offsets bringsHere
    have endsAt := Duration.add?_eq_some_iff.1 ends
    refine ⟨placedHere.low_le offset member, ?_, fun long => ?_⟩
    · have below := placedHere.lt_high offset member
      exact Duration.le_iff.2 (by omega)
    · have longAt := Duration.lt_iff.1 long
      have below := (placedBefore (by omega)).lt_high offset member
      exact Duration.lt_iff.2 (by omega)
  · exact Nat.le_of_lt_succ (placed.lt_high offset member)

/-- One directive of each kind; the last tick of the constant rate is cut short. -/
def mixed : Profile Rat :=
  [.nothingFor (.ofMillis 500), .atOnce 1, .ramp 3 (.ofMillis 1000),
    .constantRate (3 / 2) (.ofMillis 1500), .rampRate 1 2 (.ofMillis 1000)]

theorem mixed_in_order :
    let offsets := [.ofMillis 500, .ofMillis 500, .ofCount 833333333, .ofCount 1166666666,
      .ofMillis 1500, .ofMillis 2500, .ofMillis 2750, .ofMillis 3000]
    schedule (.ofMillis 1000) mixed = .ok offsets ∧ offsets.Pairwise (· ≤ ·) ∧
      ∃ finish, duration? mixed = some finish ∧ ∀ offset ∈ offsets, offset ≤ finish := by
  have scheduled : schedule (.ofMillis 1000) mixed =
      .ok [.ofMillis 500, .ofMillis 500, .ofCount 833333333, .ofCount 1166666666,
        .ofMillis 1500, .ofMillis 2500, .ofMillis 2750, .ofMillis 3000] := by
    decide +kernel
  have exact : ∀ directive ∈ mixed, directive.IsExact := by
    simp only [mixed, List.forall_mem_cons, Directive.IsExact, true_and]
    exact ⟨exact_of_few (by decide), by simp⟩
  obtain ⟨ordered, _, ends⟩ := schedule_in_order scheduled
  exact ⟨scheduled, ordered exact, ends⟩

/-- Half of the seconds that a duration can hold. -/
def halfOfAll : Duration := ⟨0x8000000000000000 * nanosPerSecond, by decide⟩

/-- More than sixty thousand million users over such a span. -/
def crowded : Profile Rat := [.ramp 0x1000000000 halfOfAll]

/-- The first product that does not fit into 128 bits is that of user 36893488148, who is taken back
almost to the start of the ramp. -/
theorem crowded_out_of_order :
    ∃ offsets, schedule (.ofMillis 100) crowded = .ok offsets ∧ ¬ offsets.Pairwise (· ≤ ·) := by
  obtain ⟨offsets, spreads⟩ : ∃ offsets, spread .zero halfOfAll 0x1000000000 = some offsets :=
    exists_spread (by decide)
  have nothing : schedule (.ofMillis 100) ([] : Profile Rat) = .ok [] := by decide +kernel
  have ends : Duration.zero.add? halfOfAll = some halfOfAll :=
    Duration.add?_eq_some_iff.2 (Nat.zero_add _).symm
  have scheduled : schedule (.ofMillis 100) ([] ++ crowded) = .ok ([] ++ offsets) :=
    schedule_concat nothing rfl rfl (fun _ => spreads) ends
  refine ⟨offsets, scheduled, fun sorted => ?_⟩
  have length := length_spread spreads
  have ordered := List.pairwise_iff_getElem.1 sorted 36893488147 36893488148 (by omega) (by omega)
    (by decide)
  rw [Duration.le_iff, getElem_spread spreads, getElem_spread spreads] at ordered
  have before : (fraction halfOfAll 36893488148 0x1000000000).nanos <
      (fraction halfOfAll 36893488147 0x1000000000).nanos := by
    decide +kernel
  omega

end LoadTest.Injection
