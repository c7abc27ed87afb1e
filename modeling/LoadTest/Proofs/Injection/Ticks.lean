import LoadTest.Injection.Profile

/-!
What comes of a profile, step by step.

`Ticks` says which offsets a rate brings, tick by tick, and `rateOffsets` computes them
(`rateOffsets_eq_some_iff`).  The directives of a profile follow each other
(`offsetsFrom_append`), and the profile has a schedule if it has no defect and its offsets fit
(`schedule_eq_ok_iff`).
-/

namespace LoadTest

theorem mapM_eq_some_iff {Item Value : Type} {f : Item → Option Value} {items : List Item}
    {values : List Value} : items.mapM f = some values ↔ items.map f = values.map some := by
  induction items generalizing values with
  | nil => cases values <;> simp
  | cons item items inductionHypothesis =>
      cases values with
      | nil => simp [List.mapM_cons, Option.bind_eq_some_iff]
      | cons value values =>
          simp only [List.mapM_cons, List.map_cons, List.cons.injEq, ← inductionHypothesis]
          cases f item with
          | none => simp
          | some other => cases items.mapM f <;> simp

namespace Injection

variable {Rate : Type} [Scalar Rate]

/-- The offsets that a rate brings from the tick at `elapsed` on. -/
inductive Ticks (baseline during : Duration) (startRate endRate : Rate) (tick : Duration) :
    Duration → Rate → List Duration → Prop where
  | done {elapsed carry} :
      ¬ elapsed < during → Ticks baseline during startRate endRate tick elapsed carry []
  | tick {elapsed carry start here next later} :
      elapsed < during →
      baseline.add? elapsed = some start →
      spread start (tick.min (during.sub elapsed))
        (arrivals elapsed during startRate endRate carry tick).1 = some here →
      elapsed.add? tick = some next →
      Ticks baseline during startRate endRate tick next
        (arrivals elapsed during startRate endRate carry tick).2 later →
      Ticks baseline during startRate endRate tick elapsed carry (here ++ later)

section

variable {baseline during tick elapsed : Duration} {startRate endRate carry : Rate}
  {positive : 0 < tick.nanos} {offsets : List Duration}

theorem rateOffsets_of_not_lt (passed : ¬ elapsed < during) :
    rateOffsets baseline during startRate endRate tick positive elapsed carry = some [] := by
  rw [rateOffsets, if_neg passed]

theorem rateOffsets_of_lt (running : elapsed < during) :
    rateOffsets baseline during startRate endRate tick positive elapsed carry = (do
      let arrived := arrivals elapsed during startRate endRate carry tick
      let start ← baseline.add? elapsed
      let here ← spread start (tick.min (during.sub elapsed)) arrived.1
      let next ← elapsed.add? tick
      let later ← rateOffsets baseline during startRate endRate tick positive next arrived.2
      return here ++ later) := by
  rw [rateOffsets, if_pos running]
  refine bind_congr fun start => bind_congr fun here => ?_
  split
  next overflows =>
    rw [overflows]
    rfl
  next next reached =>
    rw [reached]
    rfl

theorem ticks_of_rateOffsets
    (brings : rateOffsets baseline during startRate endRate tick positive elapsed carry =
      some offsets) :
    Ticks baseline during startRate endRate tick elapsed carry offsets := by
  induction left : during.nanos - elapsed.nanos using Nat.strongRecOn
    generalizing elapsed carry offsets with
  | ind left inductionHypothesis =>
      by_cases running : elapsed < during
      · simp only [rateOffsets_of_lt running, Option.bind_eq_bind, Option.bind_eq_some_iff]
          at brings
        obtain ⟨start, starts, here, spreads, next, reached, later, bringsLater, same⟩ := brings
        cases same
        refine .tick running starts spreads reached (inductionHypothesis _ ?_ bringsLater rfl)
        have reachedAt := Duration.add?_eq_some_iff.1 reached
        have runningAt := Duration.lt_iff.1 running
        omega
      · rw [rateOffsets_of_not_lt running] at brings
        cases brings
        exact .done running

theorem rateOffsets_of_ticks
    (ticks : Ticks baseline during startRate endRate tick elapsed carry offsets) :
    rateOffsets baseline during startRate endRate tick positive elapsed carry = some offsets := by
  induction ticks with
  | done passed => exact rateOffsets_of_not_lt passed
  | tick running starts spreads reached _ inductionHypothesis =>
      simp [rateOffsets_of_lt running, starts, spreads, reached, inductionHypothesis]

theorem rateOffsets_eq_some_iff :
    rateOffsets baseline during startRate endRate tick positive elapsed carry = some offsets ↔
      Ticks baseline during startRate endRate tick elapsed carry offsets :=
  ⟨ticks_of_rateOffsets, rateOffsets_of_ticks⟩

end

omit [Scalar Rate] in
theorem endOf_cons (baseline : Duration) (directive : Directive Rate) (rest : Profile Rate) :
    endOf baseline (directive :: rest) = (baseline.add? directive.during).bind (endOf · rest) := by
  simp [endOf, List.foldlM_cons]

section

variable {tick : Duration} {positive : 0 < tick.nanos}

/-- The second of two profiles begins where the first one ends. -/
theorem offsetsFrom_append (baseline : Duration) (first second : Profile Rate) :
    offsetsFrom tick positive baseline (first ++ second) = (do
      let earlier ← offsetsFrom tick positive baseline first
      let next ← endOf baseline first
      let behind ← offsetsFrom tick positive next second
      return earlier ++ behind) := by
  induction first generalizing baseline with
  | nil => simp [offsetsFrom, endOf]
  | cons directive rest inductionHypothesis =>
      cases ends : baseline.add? directive.during with
      | none => simp [offsetsFrom, ends]
      | some next =>
          simp [offsetsFrom, endOf_cons, ends, inductionHypothesis, Option.bind_assoc]

end

theorem validateRates_append (index : Nat) (first second : Profile Rate) :
    validateRates index (first ++ second) = (do
      validateRates index first
      validateRates (first.length + index) second) := by
  induction first generalizing index with
  | nil =>
      rw [List.nil_append, List.length_nil, Nat.zero_add]
      rfl
  | cons directive rest inductionHypothesis =>
      rw [List.cons_append, validateRates, validateRates]
      split
      · rfl
      · rw [inductionHypothesis, List.length_cons, Nat.add_assoc, Nat.add_comm 1]

theorem valid_of_append {tick : Duration} {first second : Profile Rate}
    (valid : validate tick (first ++ second) = .ok ()) : validate tick first = .ok () := by
  unfold validate at valid ⊢
  split
  next still => simp [still] at valid
  next moving =>
    rw [if_neg moving, validateRates_append] at valid
    cases validFirst : validateRates 0 first with
    | error defect =>
        rw [validFirst] at valid
        cases valid
    | ok _ => rfl

variable {tick : Duration} {profile : Profile Rate}

theorem schedule_of_invalid {error : InjectionError Rate}
    (invalid : validate tick profile = .error error) :
    schedule tick profile = .error error := by
  simp only [schedule, invalid]
  rfl

theorem validate_of_pos (positive : 0 < tick.nanos) :
    validate tick profile = validateRates 0 profile := by
  have moving : tick.isZero = false := by
    simpa [Duration.isZero] using Nat.ne_of_gt positive
  rw [validate, moving]
  rfl

theorem positive_of_valid (valid : validate tick profile = .ok ()) : 0 < tick.nanos := by
  unfold validate at valid
  split at valid
  next => cases valid
  next moving => exact Nat.pos_of_ne_zero (by simpa [Duration.isZero] using moving)

/-- A profile without defects has a schedule, unless it is too long. -/
theorem schedule_of_valid (positive : 0 < tick.nanos) (valid : validate tick profile = .ok ()) :
    schedule tick profile =
      (offsetsFrom tick positive .zero profile).elim (.error .outOfRange) .ok := by
  simp only [schedule, valid, dif_pos positive]
  cases offsetsFrom tick positive .zero profile <;> rfl

theorem schedule_eq_ok_iff {offsets : List Duration} :
    schedule tick profile = .ok offsets ↔
      validate tick profile = .ok () ∧
        ∃ positive, offsetsFrom tick positive .zero profile = some offsets := by
  cases valid : validate tick profile with
  | error error => simp [schedule_of_invalid valid]
  | ok _ =>
      have positive := positive_of_valid valid
      rw [schedule_of_valid positive valid]
      cases brings : offsetsFrom tick positive .zero profile <;> simp [positive, brings]

end Injection

end LoadTest
