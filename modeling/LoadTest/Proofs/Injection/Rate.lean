import LoadTest.Proofs.Injection.Order
import Mathlib.Algebra.Order.Floor.Div
import Mathlib.Data.Rat.Floor
import Mathlib.Tactic.FieldSimp
import Mathlib.Tactic.Linarith
import Mathlib.Tactic.Positivity

/-!
How many users a constant rate brings.

Over exact fractions a tick loses nothing: the users that arrive in it and what it carries on are
what it is due and what was carried into it (`arrivals_balance`).  So the ticks of a constant rate
bring what is due in all of them, rounded down (`length_constantRate`).  The last one counts whole
even where the rate ends within it: its users are then closer to each other, and there are as many
of them as in any other tick (`brings_two_of_halfTick`).
-/

namespace LoadTest

theorem Duration.toSeconds_eq (duration : Duration) :
    (duration.toSeconds : Rat) = duration.nanos / nanosPerSecond := by
  have parts : (duration.seconds * nanosPerSecond + duration.subsecondNanos : Rat) =
      duration.nanos := by
    exact_mod_cast Nat.div_add_mod' duration.nanos nanosPerSecond
  have seconds : (nanosPerSecond : Rat) ≠ 0 := by
    norm_num [nanosPerSecond]
  change (duration.seconds + duration.subsecondNanos / nanosPerSecond : Rat) = _
  rw [← parts]
  field_simp

namespace Injection

/-! ### One tick -/

section

variable {elapsed during tick : Duration} {rate startRate endRate carry : Rat}

theorem rateAt_self : rateAt elapsed during rate rate = rate := by
  change rate + (rate - rate) * progress elapsed during = rate
  rw [sub_self, zero_mul, add_zero]

theorem floor_eq {due : Rat} (nonneg : 0 ≤ due) : (Scalar.floor due : Rat) = (⌊due⌋₊ : Rat) :=
  (natCast_floor_eq_intCast_floor nonneg).symm

theorem arrivalCount_natCast {count : Nat} (few : count ≤ maxArrivals) :
    arrivalCount (count : Rat) = count := by
  have whole : (count : Rat).floor = (count : Int) := Rat.floor_intCast _
  have fits : count ≤ maxCount := Nat.le_trans few (by decide)
  simp only [arrivalCount, Scalar.atMost, Scalar.less, Scalar.ofNat, Scalar.toCount,
    decide_eq_true_eq]
  split
  next reached => exact Nat.le_antisymm (by exact_mod_cast reached) few
  next => rw [if_neg (by simp), whole, Int.toNat_natCast, Nat.min_eq_left fits, Nat.min_eq_left few]

variable {due : Rat}

theorem arrivals_eq (same : rateAt elapsed during startRate endRate * tick.toSeconds + carry = due)
    (nonneg : 0 ≤ due) (few : due < maxArrivals + 1) :
    arrivals elapsed during startRate endRate carry tick = (⌊due⌋₊, due - ⌊due⌋₊) := by
  have count_le : ⌊due⌋₊ ≤ maxArrivals :=
    Nat.lt_succ_iff.1 ((Nat.floor_lt nonneg).2 (by exact_mod_cast few))
  subst same
  simp only [arrivals, floor_eq nonneg, arrivalCount_natCast count_le]

/-- What arrives and what is carried on are what the tick is due and what was carried into it. -/
theorem arrivals_balance
    (same : rateAt elapsed during startRate endRate * tick.toSeconds + carry = due)
    (nonneg : 0 ≤ due) (few : due < maxArrivals + 1) :
    let arrived := arrivals elapsed during startRate endRate carry tick
    arrived.1 + arrived.2 = due ∧ 0 ≤ arrived.2 ∧ arrived.2 < 1 := by
  rw [arrivals_eq same nonneg few]
  refine ⟨by ring, ?_, ?_⟩
  · exact sub_nonneg.2 (Nat.floor_le nonneg)
  · exact sub_left_lt_of_lt_add (Nat.lt_floor_add_one due)

end

/-! ### All ticks -/

section

variable {baseline during tick elapsed : Duration} {offsets : List Duration}

theorem nanos_span : (tick.min (during.sub elapsed)).nanos =
    min tick.nanos (during.nanos - elapsed.nanos) :=
  Duration.nanos_min ..

/-- Ticks that do not reach beyond the longest duration bring their offsets. -/
theorem exists_ticks {Rate : Type} [Scalar Rate] {startRate endRate carry : Rate} (count : Nat)
    (ends : during.nanos ≤ elapsed.nanos + count * tick.nanos)
    (reach : elapsed.nanos + count * tick.nanos < (maxCount + 1) * nanosPerSecond)
    (fits : baseline.nanos + during.nanos < (maxCount + 1) * nanosPerSecond) :
    ∃ offsets, Ticks baseline during startRate endRate tick elapsed carry offsets := by
  induction count generalizing elapsed carry with
  | zero =>
      refine ⟨[], .done fun running => ?_⟩
      have runs := Duration.lt_iff.1 running
      omega
  | succ count inductionHypothesis =>
      by_cases running : elapsed < during
      · have runs := Duration.lt_iff.1 running
        rw [Nat.succ_mul] at ends reach
        obtain ⟨start, starts⟩ : ∃ start, baseline.add? elapsed = some start :=
          Duration.exists_sum (by omega)
        obtain ⟨next, reached⟩ : ∃ next, elapsed.add? tick = some next :=
          Duration.exists_sum (by omega)
        have startsAt := Duration.add?_eq_some_iff.1 starts
        have reachedAt := Duration.add?_eq_some_iff.1 reached
        let arrived := arrivals elapsed during startRate endRate carry tick
        obtain ⟨here, spreads⟩ :
            ∃ here, spread start (tick.min (during.sub elapsed)) arrived.1 = some here :=
          exists_spread (by rw [nanos_span]; omega)
        obtain ⟨later, ticks⟩ :
            ∃ later, Ticks baseline during startRate endRate tick next arrived.2 later :=
          inductionHypothesis (by omega) (by omega)
        exact ⟨here ++ later, .tick running starts spreads reached ticks⟩
      · exact ⟨[], .done running⟩

theorem nanos_left (passed : ¬ elapsed < during) : during.nanos - elapsed.nanos = 0 :=
  Nat.sub_eq_zero_of_le (Nat.le_of_not_lt passed)

/-- A tick that begins before the end is one more whole tick. -/
theorem ceilDiv_next {next : Duration} (positive : 0 < tick.nanos) (running : elapsed < during)
    (reached : elapsed.add? tick = some next) :
    (during.nanos - elapsed.nanos) ⌈/⌉ tick.nanos =
      (during.nanos - next.nanos) ⌈/⌉ tick.nanos + 1 := by
  have runs := Duration.lt_iff.1 running
  have reachedAt := Duration.add?_eq_some_iff.1 reached
  have first : during.nanos - elapsed.nanos + tick.nanos - 1 =
      during.nanos - elapsed.nanos - 1 + tick.nanos := by omega
  rw [Nat.ceilDiv_eq_add_pred_div, Nat.ceilDiv_eq_add_pred_div, first,
    Nat.add_div_right _ positive]
  rcases Nat.le_total next.nanos during.nanos with whole | short
  · have rest : during.nanos - next.nanos + tick.nanos - 1 =
        during.nanos - elapsed.nanos - 1 := by omega
    rw [rest]
  · rw [Nat.div_eq_of_lt (by omega), Nat.div_eq_of_lt (by omega)]

/-- The users of a constant rate and what its last tick carries on are what its ticks are due and
what was carried into the first of them. -/
theorem Ticks.balance {rate carry : Rat}
    (ticks : Ticks baseline during rate rate tick elapsed carry offsets)
    (nonneg : 0 ≤ rate) (positive : 0 < tick.nanos)
    (few : rate * tick.toSeconds < maxArrivals) (carries : 0 ≤ carry ∧ carry < 1) :
    ∃ carried : Rat, 0 ≤ carried ∧ carried < 1 ∧
      offsets.length + carried =
        rate * tick.toSeconds * ((during.nanos - elapsed.nanos) ⌈/⌉ tick.nanos : Nat) + carry := by
  have share : 0 ≤ rate * tick.toSeconds := by
    rw [Duration.toSeconds_eq]
    positivity
  induction ticks with
  | @done elapsed carry passed =>
      refine ⟨carry, carries.1, carries.2, ?_⟩
      rw [nanos_left passed, zero_ceilDiv]
      simp
  | @tick elapsed carry start here next later running starts spreads reached _
      inductionHypothesis =>
      have due : rateAt elapsed during rate rate * tick.toSeconds + carry =
          rate * tick.toSeconds + carry := by rw [rateAt_self]
      obtain ⟨arrived, carries⟩ := arrivals_balance due (by linarith) (by linarith)
      obtain ⟨carried, low, high, same⟩ := inductionHypothesis carries
      refine ⟨carried, low, high, ?_⟩
      rw [ceilDiv_next positive running reached, List.length_append, length_spread spreads]
      push_cast
      linarith

end

/-! ### A constant rate alone -/

variable {rate : Rat} {during tick : Duration}

theorem validate_constantRate (nonneg : 0 ≤ rate) (positive : 0 < tick.nanos) :
    validate tick [.constantRate rate during] = .ok () := by
  have valid : isValidRate rate = true := by
    simpa [isValidRate, Scalar.isFinite, Scalar.less, Scalar.ofNat] using nonneg
  simp [validate_of_pos positive, validateRates, Directive.rates, valid]

/-- The whole ticks of a duration cover it, and the last of them begins within it. -/
theorem ceilDiv_covers (positive : 0 < tick.nanos) :
    during.nanos ≤ tick.nanos * (during.nanos ⌈/⌉ tick.nanos) ∧
      tick.nanos * (during.nanos ⌈/⌉ tick.nanos) ≤ during.nanos + tick.nanos := by
  refine ⟨le_smul_ceilDiv positive, ?_⟩
  rw [Nat.ceilDiv_eq_add_pred_div]
  exact Nat.le_trans (Nat.mul_div_le ..) (Nat.sub_le ..)

theorem ceilDiv_of_dvd (positive : 0 < tick.nanos) (whole : tick.nanos ∣ during.nanos) :
    tick.nanos * (during.nanos ⌈/⌉ tick.nanos) = during.nanos := by
  obtain ⟨count, same⟩ := whole
  rw [same]
  congr 1
  exact smul_ceilDiv positive count

theorem toSeconds_mul (tick : Duration) (count : Nat) :
    (tick.toSeconds * count : Rat) = (tick.nanos * count : Nat) / nanosPerSecond := by
  rw [Duration.toSeconds_eq, div_mul_eq_mul_div]
  push_cast
  rfl

theorem exists_schedule_constantRate (nonneg : 0 ≤ rate) (positive : 0 < tick.nanos)
    (fits : tick.nanos * (during.nanos ⌈/⌉ tick.nanos) < (maxCount + 1) * nanosPerSecond) :
    ∃ offsets, schedule tick [.constantRate rate during] = .ok offsets ∧
      Ticks .zero during rate rate tick .zero (0 : Rat) offsets := by
  obtain ⟨offsets, ticks⟩ : ∃ offsets, Ticks .zero during rate rate tick .zero (0 : Rat) offsets :=
    exists_ticks (during.nanos ⌈/⌉ tick.nanos)
      (by simpa [Nat.mul_comm] using (ceilDiv_covers positive).1)
      (by simpa [Nat.mul_comm] using fits) (by simpa using during.fits)
  have brings : rateOffsets .zero during rate rate tick positive .zero (0 : Rat) = some offsets :=
    rateOffsets_eq_some_iff.2 ticks
  have ends : Duration.zero.add? (Directive.constantRate rate during).during = some during :=
    Duration.add?_eq_some_iff.2 (Nat.zero_add _).symm
  refine ⟨offsets, schedule_eq_ok_iff.2 ⟨validate_constantRate nonneg positive, positive, ?_⟩,
    ticks⟩
  have directive : (Directive.constantRate rate during).offsets tick positive .zero =
      some offsets := brings
  simp [offsetsFrom, directive, ends]

/-- A constant rate brings what is due in its ticks, rounded down, each of them counted whole.  So
it never falls a whole user short of its duration, nor exceeds it by more than one tick is due;
where the duration is made of whole ticks it is less than one user off. -/
theorem length_constantRate (rate : Rat) (during tick : Duration) (nonneg : 0 ≤ rate)
    (positive : 0 < tick.nanos) (few : rate * tick.toSeconds < maxArrivals)
    (fits : tick.nanos * (during.nanos ⌈/⌉ tick.nanos) < (maxCount + 1) * nanosPerSecond) :
    ∃ offsets, schedule tick [.constantRate rate during] = .ok offsets ∧
      offsets.length = ⌊rate * (tick.toSeconds * (during.nanos ⌈/⌉ tick.nanos : Nat))⌋₊ ∧
      rate * during.toSeconds - 1 < offsets.length ∧
      offsets.length ≤ rate * (during.toSeconds + tick.toSeconds) ∧
      (tick.nanos ∣ during.nanos → |offsets.length - rate * during.toSeconds| < 1) := by
  obtain ⟨offsets, scheduled, ticks⟩ := exists_schedule_constantRate nonneg positive fits
  obtain ⟨carried, low, high, balance⟩ :=
    ticks.balance nonneg positive few ⟨le_refl 0, zero_lt_one⟩
  rw [Duration.nanos_zero, Nat.sub_zero, add_zero, mul_assoc] at balance
  obtain ⟨least, most⟩ : during.nanos ≤ tick.nanos * (during.nanos ⌈/⌉ tick.nanos) ∧ _ :=
    ceilDiv_covers positive
  have seconds : (0 : Rat) < nanosPerSecond := by norm_num [nanosPerSecond]
  have covered : (during.toSeconds : Rat) ≤
      tick.toSeconds * (during.nanos ⌈/⌉ tick.nanos : Nat) := by
    rw [toSeconds_mul, Duration.toSeconds_eq]
    exact div_le_div_of_nonneg_right (by exact_mod_cast least) seconds.le
  have reached : (tick.toSeconds * (during.nanos ⌈/⌉ tick.nanos : Nat) : Rat) ≤
      during.toSeconds + tick.toSeconds := by
    rw [toSeconds_mul, Duration.toSeconds_eq, Duration.toSeconds_eq, ← add_div]
    exact div_le_div_of_nonneg_right (by exact_mod_cast most) seconds.le
  have dueLeast := mul_le_mul_of_nonneg_left covered nonneg
  have dueMost := mul_le_mul_of_nonneg_left reached nonneg
  refine ⟨offsets, scheduled, ?_, by linarith, by linarith, fun whole => ?_⟩
  · symm
    rw [Nat.floor_eq_iff (by linarith)]
    constructor <;> linarith
  · have exact : (tick.toSeconds * (during.nanos ⌈/⌉ tick.nanos : Nat) : Rat) =
        during.toSeconds := by
      rw [toSeconds_mul, ceilDiv_of_dvd positive whole, Duration.toSeconds_eq]
    rw [exact] at balance
    rw [abs_lt]
    constructor <;> linarith

/-- Three users every two seconds, in ticks of half a second. -/
theorem length_constantRate_of_wholeTicks :
    ∃ offsets, schedule (.ofMillis 500) [.constantRate (3 / 2 : Rat) (.ofMillis 2500)] =
        .ok offsets ∧
      offsets.length = 3 ∧
      |(offsets.length : Rat) - 3 / 2 * (Duration.ofMillis 2500).toSeconds| < 1 := by
  obtain ⟨offsets, scheduled, count, _, _, near⟩ :=
    length_constantRate (3 / 2) (.ofMillis 2500) (.ofMillis 500) (by norm_num) (by decide)
      (by decide +kernel) (by decide)
  refine ⟨offsets, scheduled, ?_, near (by decide)⟩
  rw [count]
  decide +kernel

/-- A rate of two users a second that lasts half a second, in ticks of one second, brings two
users: one more than it is due. -/
theorem brings_two_of_halfTick :
    schedule (.ofMillis 1000) [.constantRate (2 : Rat) (.ofMillis 500)] =
        .ok [.zero, .ofMillis 250] ∧
      (2 : Rat) * (Duration.ofMillis 1000).toSeconds < maxArrivals ∧
      ¬ |(([.zero, .ofMillis 250] : List Duration).length : Rat) -
          2 * (Duration.ofMillis 500).toSeconds| < 1 := by
  exact ⟨by decide +kernel, by decide +kernel, by decide +kernel⟩

end Injection

end LoadTest
