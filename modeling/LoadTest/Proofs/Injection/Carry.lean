import LoadTest.Proofs.Injection.Rate

/-!
What ticks carry on to each other.

Ticks that follow each other may belong to different rates and stand anywhere in their courses.  As
long as none of them is full, the users that come in them and what the last one carries on are what
was carried into the first and what they are due (`arriveAll_balance`): nothing is lost on the way,
and less than one user is ever carried on.
-/

namespace LoadTest.Injection

/-- A tick that begins at `elapsed` into the course of a rate. -/
structure Tick (Rate : Type) where
  elapsed : Duration
  during : Duration
  startRate : Rate
  endRate : Rate
  length : Duration

namespace Tick

/-- The users that come in a tick, and what it carries on. -/
def arrive {Rate : Type} [Scalar Rate] (tick : Tick Rate) (carry : Rate) : Nat × Rate :=
  arrivals tick.elapsed tick.during tick.startRate tick.endRate carry tick.length

/-- The part of its course that a rate has behind it, all of it from the end on.  A course without
length is at its end. -/
def share (tick : Tick Rat) : Rat :=
  if tick.during.nanos = 0 then 1 else min (tick.elapsed.nanos / tick.during.nanos) 1

/-- What a tick is due: its seconds at the rate it begins with. -/
def due (tick : Tick Rat) : Rat :=
  (tick.startRate + (tick.endRate - tick.startRate) * tick.share) *
    (tick.length.nanos / nanosPerSecond)

end Tick

/-- The users that come in ticks that follow each other, tick by tick, and what the last one carries
on. -/
def arriveAll {Rate : Type} [Scalar Rate] (carry : Rate) : List (Tick Rate) → List Nat × Rate
  | [] => ([], carry)
  | tick :: ticks =>
      let arrived := tick.arrive carry
      let others := arriveAll arrived.2 ticks
      (arrived.1 :: others.1, others.2)

/-! ### One tick -/

theorem lt_of_arrivalCount_lt {due : Rat} (few : arrivalCount due < maxArrivals) :
    due < maxArrivals := by
  by_contra full
  have reached : Scalar.atMost (Scalar.ofNat maxArrivals) due = true :=
    decide_eq_true (not_lt.1 full)
  rw [arrivalCount, if_pos reached] at few
  exact Nat.lt_irrefl _ few

namespace Tick

variable {tick : Tick Rat} {carry : Rat}

theorem progress_eq_share : (progress tick.elapsed tick.during : Rat) = tick.share := by
  have seconds : (nanosPerSecond : Rat) ≠ 0 := by
    norm_num [nanosPerSecond]
  have behind : (tick.elapsed.toSeconds / tick.during.toSeconds : Rat) =
      tick.elapsed.nanos / tick.during.nanos := by
    rw [Duration.toSeconds_eq, Duration.toSeconds_eq, div_div_div_cancel_right₀ seconds]
  have one : (Scalar.ofNat 1 : Rat) = 1 := Nat.cast_one
  simp only [progress, share, Duration.isZero, beq_iff_eq, behind, one, Scalar.less,
    decide_eq_true_eq]
  split
  · rfl
  · split
    next running => exact (min_eq_left running.le).symm
    next ended => exact (min_eq_right (not_lt.1 ended)).symm

theorem share_bounds : 0 ≤ tick.share ∧ tick.share ≤ 1 := by
  unfold share
  split
  · exact ⟨zero_le_one, le_refl 1⟩
  · exact ⟨le_min (by positivity) zero_le_one, min_le_right ..⟩

/-- A rate between two rates that are not negative is not negative. -/
theorem due_nonneg (starts : 0 ≤ tick.startRate) (ends : 0 ≤ tick.endRate) : 0 ≤ tick.due := by
  obtain ⟨behind, within⟩ := tick.share_bounds
  have split : tick.startRate + (tick.endRate - tick.startRate) * tick.share =
      tick.startRate * (1 - tick.share) + tick.endRate * tick.share := by ring
  have ahead : 0 ≤ 1 - tick.share := sub_nonneg.2 within
  rw [due, split]
  positivity

theorem rateAt_mul_toSeconds :
    rateAt tick.elapsed tick.during tick.startRate tick.endRate * tick.length.toSeconds =
      tick.due := by
  rw [due, ← progress_eq_share, Duration.toSeconds_eq]
  rfl

/-- A tick that is not full lets all users come that it is due, with what was carried into it. -/
theorem arrive_balance (starts : 0 ≤ tick.startRate) (ends : 0 ≤ tick.endRate)
    (carries : 0 ≤ carry ∧ carry < 1) (few : (tick.arrive carry).1 < maxArrivals) :
    ((tick.arrive carry).1 + (tick.arrive carry).2 = carry + tick.due) ∧
      0 ≤ (tick.arrive carry).2 ∧ (tick.arrive carry).2 < 1 := by
  have nonneg : 0 ≤ tick.due + carry := add_nonneg (due_nonneg starts ends) carries.1
  have due : rateAt tick.elapsed tick.during tick.startRate tick.endRate *
      tick.length.toSeconds + carry = tick.due + carry := by rw [rateAt_mul_toSeconds]
  have whole : (⌊tick.due + carry⌋₊ : Rat) < maxArrivals := by
    apply lt_of_arrivalCount_lt
    rw [← floor_eq nonneg, ← due]
    exact few
  have below : tick.due + carry < maxArrivals + 1 := by
    have next := Nat.lt_floor_add_one (tick.due + carry)
    linarith
  rw [add_comm carry]
  exact arrivals_balance due nonneg below

end Tick

/-! ### Ticks that follow each other -/

theorem arriveAll_take {Rate : Type} [Scalar Rate] (carry : Rate) (ticks : List (Tick Rate))
    (count : Nat) :
    (arriveAll carry (ticks.take count)).1 = (arriveAll carry ticks).1.take count := by
  induction ticks generalizing carry count with
  | nil => simp [arriveAll]
  | cons tick ticks inductionHypothesis =>
      cases count with
      | zero => rfl
      | succ count => simp [arriveAll, inductionHypothesis]

/-- The carry of each tick is taken up by the next one, so that all but the first and the last
cancel out. -/
theorem arriveAll_telescopes {ticks : List (Tick Rat)} {carry : Rat}
    (rates : ∀ tick ∈ ticks, 0 ≤ tick.startRate ∧ 0 ≤ tick.endRate)
    (carries : 0 ≤ carry ∧ carry < 1)
    (few : ∀ count ∈ (arriveAll carry ticks).1, count < maxArrivals) :
    ((arriveAll carry ticks).1.sum + (arriveAll carry ticks).2 =
        carry + (ticks.map Tick.due).sum) ∧
      0 ≤ (arriveAll carry ticks).2 ∧ (arriveAll carry ticks).2 < 1 := by
  induction ticks generalizing carry with
  | nil => simpa [arriveAll] using carries
  | cons tick ticks inductionHypothesis =>
      obtain ⟨⟨starts, ends⟩, ratesLater⟩ := List.forall_mem_cons.1 rates
      obtain ⟨fewHere, fewLater⟩ := List.forall_mem_cons.1 few
      obtain ⟨here, carriesHere⟩ := Tick.arrive_balance starts ends carries fewHere
      obtain ⟨later, carriesLater⟩ := inductionHypothesis ratesLater carriesHere fewLater
      refine ⟨?_, carriesLater⟩
      simp only [arriveAll, List.sum_cons, List.map_cons, Nat.cast_add]
      linarith

/-- Users that came, with less than one of them to spare, are what was due, rounded down. -/
theorem eq_floor_of_balance {total : Nat} {last due : Rat} (balance : total + last = due)
    (carries : 0 ≤ last ∧ last < 1) : total = ⌊due⌋₊ := by
  obtain ⟨low, high⟩ := carries
  have nonneg : 0 ≤ (total : Rat) := Nat.cast_nonneg _
  symm
  rw [Nat.floor_eq_iff (by linarith)]
  constructor <;> linarith

/-- In ticks that follow each other, none of them full, what is carried on always stays below one
user.  After any number of them the users that came and the carry are the first carry and what the
ticks are due; so as many users came as the ticks are due, rounded down. -/
theorem arriveAll_balance (ticks : List (Tick Rat)) (carry : Rat)
    (rates : ∀ tick ∈ ticks, 0 ≤ tick.startRate ∧ 0 ≤ tick.endRate)
    (carries : 0 ≤ carry ∧ carry < 1)
    (few : ∀ count ∈ (arriveAll carry ticks).1, count < maxArrivals) (passed : Nat) :
    let come := arriveAll carry (ticks.take passed)
    let due := ((ticks.take passed).map Tick.due).sum
    (0 ≤ come.2 ∧ come.2 < 1) ∧ come.1.sum + come.2 = carry + due ∧
      come.1.sum = ⌊carry + due⌋₊ := by
  intro come due
  have ratesHere : ∀ tick ∈ ticks.take passed, 0 ≤ tick.startRate ∧ 0 ≤ tick.endRate :=
    fun tick member => rates tick (List.mem_of_mem_take member)
  have fewHere : ∀ count ∈ come.1, count < maxArrivals := by
    intro count member
    rw [arriveAll_take] at member
    exact few count (List.mem_of_mem_take member)
  obtain ⟨balance, carriesOn⟩ := arriveAll_telescopes ratesHere carries fewHere
  exact ⟨carriesOn, balance, eq_floor_of_balance balance carriesOn⟩

/-- Three ticks of three rates: one that falls, one without length and one that is over. -/
def threeRates : List (Tick Rat) :=
  [⟨.ofMillis 1000, .ofMillis 2000, 3, 0, .ofMillis 500⟩,
    ⟨.zero, .zero, 0, 5 / 2, .ofMillis 1000⟩,
    ⟨.ofMillis 9000, .ofMillis 4000, 1, 7 / 3, .ofMillis 300⟩]

theorem arriveAll_balance_threeRates :
    (∀ tick ∈ threeRates, 0 ≤ tick.startRate ∧ 0 ≤ tick.endRate) ∧
      (∀ count ∈ (arriveAll (1 / 2) threeRates).1, count < maxArrivals) ∧
      arriveAll (1 / 2) threeRates = ([1, 2, 1], 9 / 20) ∧
      (arriveAll (1 / 2) (threeRates.take 2)).1.sum =
        ⌊1 / 2 + ((threeRates.take 2).map Tick.due).sum⌋₊ := by
  have rates : ∀ tick ∈ threeRates, 0 ≤ tick.startRate ∧ 0 ≤ tick.endRate := by
    decide +kernel
  have few : ∀ count ∈ (arriveAll (1 / 2) threeRates).1, count < maxArrivals := by
    decide +kernel
  obtain ⟨_, _, total⟩ := arriveAll_balance threeRates (1 / 2) rates (by norm_num) few 2
  exact ⟨rates, few, by decide +kernel, total⟩

end LoadTest.Injection
