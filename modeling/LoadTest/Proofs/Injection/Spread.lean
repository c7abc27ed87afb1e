import LoadTest.Proofs.Injection.Carry

/-!
Users that start evenly.

Where the nanoseconds of a span fit into 64 bits, users are spread over it exactly: each starts
after its part of the span, rounded down to the nanosecond, and no product on the way leaves 128
bits (`evenlySpread`).  So start the users of a ramp, and the users of each tick of a rate
(`schedule_spreads_evenly`); there are as many of them as the ticks of the rate are due
(`length_rateOffsets`).
-/

namespace LoadTest

namespace Injection

/-- Users start evenly over a span: the parts of it are exact to the nanosecond, and so the gaps
between users are equal but for one nanosecond. -/
structure EvenlySpread (start span : Duration) (offsets : List Duration) : Prop where
  nanos_eq : ∀ index (within : index < offsets.length),
    offsets[index].nanos = start.nanos + index * span.nanos / offsets.length
  toNat_wideProduct : ∀ index < offsets.length,
    (wideProduct span index).toNat = index * span.nanos
  gap_near : ∀ first second (within : first + 1 < offsets.length)
    (also : second + 1 < offsets.length),
    |(offsets[first + 1].nanos - offsets[first].nanos : Int) -
      (offsets[second + 1].nanos - offsets[second].nanos)| ≤ 1

/-! ### One span -/

section

variable {start span : Duration} {users index : Nat} {offsets : List Duration}

theorem toNat_wideProduct (small : index ≤ maxCount) (short : span.nanos ≤ maxCount) :
    (wideProduct span index).toNat = index * span.nanos := by
  have product : span.nanos * index < wideSize :=
    calc span.nanos * index ≤ maxCount * maxCount := Nat.mul_le_mul short small
      _ < wideSize := by decide
  rw [toNat_wideProduct_eq, Nat.mod_eq_of_lt product, Nat.mul_comm]

theorem nanos_fraction (within : index < users) (few : users ≤ maxCount)
    (short : span.nanos ≤ maxCount) :
    (fraction span index users).nanos = index * span.nanos / users := by
  have part : (wideProduct span index).toNat / users ≤ maxCount :=
    Nat.le_trans (part_le within) short
  rw [← toNat_wideProduct (Nat.le_of_lt (Nat.lt_of_lt_of_le within few)) short]
  exact Nat.min_eq_left part

/-- From one part of a span to the next there are as many nanoseconds as an equal part holds whole,
or one more. -/
theorem part_gap (length index : Nat) (positive : 0 < users) :
    index * length / users + length / users ≤ (index + 1) * length / users ∧
      (index + 1) * length / users ≤ index * length / users + length / users + 1 := by
  rw [Nat.succ_mul, Nat.add_div positive]
  split <;> omega

theorem evenlySpread (spreads : spread start span users = some offsets) (few : users ≤ maxCount)
    (short : span.nanos ≤ maxCount) : EvenlySpread start span offsets := by
  have length := length_spread spreads
  have exact (index : Nat) (within : index < offsets.length) :
      offsets[index].nanos = start.nanos + index * span.nanos / users := by
    rw [getElem_spread spreads within, nanos_fraction (length ▸ within) few short]
  constructor
  · intro index within
    rw [exact index within, length]
  · intro index within
    exact toNat_wideProduct (by omega) short
  · intro first second within also
    have positive : 0 < users := by omega
    obtain ⟨firstLow, firstHigh⟩ := part_gap span.nanos first positive
    obtain ⟨secondLow, secondHigh⟩ := part_gap span.nanos second positive
    rw [exact (first + 1) within, exact first (by omega), exact (second + 1) also,
      exact second (by omega), abs_le]
    omega

end

/-! ### The ticks of a rate -/

variable {Rate : Type} [Scalar Rate]

/-- The tick of a rate that so many others come before. -/
def tickAt? (during : Duration) (startRate endRate : Rate) (length : Duration) (index : Nat) :
    Option (Tick Rate) :=
  (Duration.ofNanos? (index * length.nanos)).map (⟨·, during, startRate, endRate, length⟩)

/-- The ticks of a rate, from its start to its end. -/
def ticksOf (during : Duration) (startRate endRate : Rate) (length : Duration) :
    List (Tick Rate) :=
  (List.range (during.nanos ⌈/⌉ length.nanos)).filterMap
    (tickAt? during startRate endRate length)

/-- The part of a tick that lies within the course of its rate. -/
def Tick.span (tick : Tick Rate) : Duration := tick.length.min (tick.during.sub tick.elapsed)

/-- The users of a tick start evenly over it. -/
def Tick.Brings (baseline : Duration) (tick : Tick Rate) (offsets : List Duration) : Prop :=
  ∃ start, baseline.add? tick.elapsed = some start ∧
    (tick.span.nanos ≤ maxCount → EvenlySpread start tick.span offsets)

/-- A rate from the tick at `index` on brings one list of users for each of its ticks. -/
theorem Ticks.exists_chunks {baseline during tick elapsed : Duration}
    {startRate endRate carry : Rate} {offsets : List Duration} (positive : 0 < tick.nanos)
    (ticks : Ticks baseline during startRate endRate tick elapsed carry offsets) (index : Nat)
    (at_index : elapsed.nanos = index * tick.nanos) :
    let here := (List.range' index ((during.nanos - elapsed.nanos) ⌈/⌉ tick.nanos)).filterMap
      (tickAt? during startRate endRate tick)
    ∃ chunks : List (List Duration), offsets = chunks.flatten ∧
      chunks.map List.length = (arriveAll carry here).1 ∧
      List.Forall₂ (Tick.Brings baseline) here chunks := by
  induction ticks generalizing index with
  | @done elapsed carry passed =>
      rw [nanos_left passed, zero_ceilDiv]
      exact ⟨[], rfl, rfl, .nil⟩
  | @tick elapsed carry start first next later running starts spreads reached _
      inductionHypothesis =>
      have reachedAt := Duration.add?_eq_some_iff.1 reached
      obtain ⟨chunks, same, lengths, brings⟩ :=
        inductionHypothesis (index + 1) (by rw [reachedAt, at_index, Nat.succ_mul])
      have here : tickAt? during startRate endRate tick index =
          some ⟨elapsed, during, startRate, endRate, tick⟩ := by
        rw [tickAt?, Duration.ofNanos?_eq_some_iff.2 at_index]
        rfl
      rw [ceilDiv_next positive running reached, List.range'_succ, List.filterMap_cons_some here]
      refine ⟨first :: chunks, ?_, ?_, .cons ⟨start, starts, ?_⟩ brings⟩
      · rw [same, List.flatten_cons]
      · rw [List.map_cons, lengths, length_spread spreads]
        rfl
      · exact evenlySpread spreads (Nat.le_trans (arrivals_le ..) (by decide))

theorem exists_chunks {baseline during tick : Duration}
    {positive : 0 < tick.nanos} {startRate endRate carry : Rate} {offsets : List Duration}
    (brings : rateOffsets baseline during startRate endRate tick positive .zero carry =
      some offsets) :
    ∃ chunks : List (List Duration), offsets = chunks.flatten ∧
      chunks.map List.length = (arriveAll carry (ticksOf during startRate endRate tick)).1 ∧
      List.Forall₂ (Tick.Brings baseline) (ticksOf during startRate endRate tick) chunks := by
  have chunks := (rateOffsets_eq_some_iff.1 brings).exists_chunks positive 0 (Nat.zero_mul _).symm
  rwa [Duration.nanos_zero, Nat.sub_zero, ← List.range_eq_range'] at chunks

omit [Scalar Rate] in
theorem rates_of_mem_ticksOf {during length : Duration} {startRate endRate : Rate}
    {tick : Tick Rate} (member : tick ∈ ticksOf during startRate endRate length) :
    tick.startRate = startRate ∧ tick.endRate = endRate := by
  obtain ⟨index, _, found⟩ := List.mem_filterMap.1 member
  obtain ⟨elapsed, _, same⟩ := Option.map_eq_some_iff.1 found
  subst same
  exact ⟨rfl, rfl⟩

/-- A rate none of whose ticks is full brings what its ticks are due, rounded down. -/
theorem length_rateOffsets {baseline during tick : Duration} {positive : 0 < tick.nanos}
    {startRate endRate : Rat} {offsets : List Duration} (starts : 0 ≤ startRate)
    (ends : 0 ≤ endRate)
    (few : ∀ count ∈ (arriveAll 0 (ticksOf during startRate endRate tick)).1, count < maxArrivals)
    (brings : rateOffsets baseline during startRate endRate tick positive .zero 0 =
      some offsets) :
    offsets.length = ⌊((ticksOf during startRate endRate tick).map Tick.due).sum⌋₊ := by
  obtain ⟨chunks, same, lengths, _⟩ := exists_chunks brings
  have total : offsets.length = (arriveAll 0 (ticksOf during startRate endRate tick)).1.sum := by
    rw [same, List.length_flatten, lengths]
  have rates : ∀ other ∈ ticksOf during startRate endRate tick,
      0 ≤ other.startRate ∧ 0 ≤ other.endRate := by
    intro other member
    obtain ⟨startsSame, endsSame⟩ := rates_of_mem_ticksOf member
    exact ⟨startsSame ▸ starts, endsSame ▸ ends⟩
  obtain ⟨balance, carries⟩ := arriveAll_telescopes rates ⟨le_refl 0, zero_lt_one⟩ few
  rw [zero_add, ← total] at balance
  exact eq_floor_of_balance balance carries

/-! ### In a schedule -/

/-- The rates between which a directive brings users by the second. -/
def Directive.course? : Directive Rate → Option (Rate × Rate)
  | .constantRate rate _ => some (rate, rate)
  | .rampRate startRate endRate _ => some (startRate, endRate)
  | _ => none

variable {tick baseline : Duration} {positive : 0 < tick.nanos} {directive : Directive Rate}
  {startRate endRate : Rate}

theorem offsets_of_course (course : directive.course? = some (startRate, endRate)) :
    directive.offsets tick positive baseline =
      rateOffsets baseline directive.during startRate endRate tick positive .zero
        (Scalar.ofNat 0) := by
  cases directive with
  | constantRate rate during =>
      cases course
      rfl
  | rampRate first last during =>
      cases course
      rfl
  | _ => cases course

/-- A ramp whose nanoseconds fit into 64 bits brings all of its users, each after its part of the
ramp to the nanosecond, wherever it begins.  So does every tick of a rate with the users that arrive
in it. -/
theorem schedule_spreads_evenly {before : Profile Rate} {earlier : List Duration}
    (scheduled : schedule tick before = .ok earlier) (starts : duration? before = some baseline) :
    (∀ users during, users ≤ maxCount → during.nanos ≤ maxCount →
      baseline.nanos + during.nanos < (maxCount + 1) * nanosPerSecond →
      ∃ here, schedule tick (before ++ [.ramp users during]) = .ok (earlier ++ here) ∧
        here.length = users ∧ EvenlySpread baseline during here ∧
        ∀ after offsets, schedule tick (before ++ .ramp users during :: after) = .ok offsets →
          ∃ later, offsets = earlier ++ here ++ later) ∧
    ∀ (directive : Directive Rate) startRate endRate after offsets,
      directive.course? = some (startRate, endRate) →
      schedule tick (before ++ directive :: after) = .ok offsets →
      ∃ chunks later, schedule tick (before ++ [directive]) = .ok (earlier ++ chunks.flatten) ∧
        offsets = earlier ++ chunks.flatten ++ later ∧
        let ticks := ticksOf directive.during startRate endRate tick
        chunks.map List.length = (arriveAll (Scalar.ofNat 0) ticks).1 ∧
        List.Forall₂ (Tick.Brings baseline) ticks chunks := by
  constructor
  · intro users during few short fits
    obtain ⟨here, spreads⟩ : ∃ here, spread baseline during users = some here :=
      exists_spread fits
    obtain ⟨finish, ends⟩ : ∃ finish, baseline.add? during = some finish :=
      Duration.exists_sum fits
    refine ⟨here, schedule_concat scheduled starts rfl (fun _ => spreads) ends,
      length_spread spreads, evenlySpread spreads few short, ?_⟩
    intro after offsets scheduledAll
    obtain ⟨start, _, others, found, later, startsAlso, _, scheduledBefore, _, split, _, brings⟩ :=
      exists_here scheduledAll
    cases starts.symm.trans startsAlso
    cases scheduled.symm.trans scheduledBefore
    cases spreads.symm.trans brings
    exact ⟨later, split⟩
  · intro directive startRate endRate after offsets course scheduledAll
    obtain ⟨start, _, others, here, later, startsAlso, _, scheduledBefore, scheduledHere, split,
      positive, brings⟩ := exists_here scheduledAll
    cases starts.symm.trans startsAlso
    cases scheduled.symm.trans scheduledBefore
    rw [offsets_of_course course] at brings
    obtain ⟨chunks, same, lengths, evenly⟩ := exists_chunks brings
    subst same
    exact ⟨chunks, later, scheduledHere, split, lengths, evenly⟩

/-- One second, and one user at its end. -/
def warmUp : Profile Rat := [.nothingFor (.ofMillis 1000), .atOnce 1]

/-- Behind it, three users over the longest span that fits into 64 bits, and five users a second for
one second and a half. -/
theorem schedule_spreads_evenly_longRamp :
    let long : Duration := .ofCount maxCount
    let second : Duration := .ofMillis 1000
    schedule second warmUp = .ok [second] ∧ duration? warmUp = some second ∧
      (∃ here, schedule second (warmUp ++ [.ramp 3 long]) = .ok ([second] ++ here) ∧
        here.length = 3 ∧ EvenlySpread second long here) ∧
      ∃ chunks, schedule second (warmUp ++ [.constantRate 5 (.ofMillis 1500)]) =
          .ok ([second] ++ chunks.flatten) ∧
        chunks.map List.length = [5, 5] ∧
        List.Forall₂ (Tick.Brings second) (ticksOf (.ofMillis 1500) (5 : Rat) 5 second) chunks := by
  intro long second
  have scheduled : schedule second warmUp = .ok [second] := by decide +kernel
  have starts : duration? warmUp = some second := by decide +kernel
  obtain ⟨ramps, rates⟩ := schedule_spreads_evenly scheduled starts
  obtain ⟨here, brings, length, evenly, _⟩ :=
    ramps 3 long (by decide) (by decide) (by decide)
  have scheduledRate : schedule second (warmUp ++ [.constantRate 5 (.ofMillis 1500)]) =
      .ok ([second] ++ [1000, 1200, 1400, 1600, 1800, 2000, 2100, 2200, 2300, 2400].map
        .ofMillis) := by
    decide +kernel
  obtain ⟨chunks, _, bringsRate, _, lengths, evenlyRate⟩ :=
    rates (.constantRate 5 (.ofMillis 1500)) 5 5 [] _ rfl scheduledRate
  have counts : (arriveAll (Scalar.ofNat 0 : Rat) (ticksOf (.ofMillis 1500) 5 5 second)).1 =
      [5, 5] := by
    decide +kernel
  exact ⟨scheduled, starts, ⟨here, brings, length, evenly⟩, chunks, bringsRate,
    lengths.trans counts, evenlyRate⟩

end Injection

end LoadTest
