import LoadTest.Proofs.Injection.Ticks
import Mathlib.Data.List.Basic

/-!
Profiles on one time line.

Nothing that brings offsets looks at the moment from which it does so: begun at a later moment,
a rate, a directive and a profile bring the same offsets, delayed (`Ticks.exists_earlier` up to
`exists_earlier_offsetsFrom`).  So a profile behind another is that profile delayed by the
duration of the other, and its defects are those of the profile, counted on.
-/

namespace LoadTest.Injection

variable {Rate : Type}

/-- Offsets that are the same moment later. -/
def delay (moment : Duration) (offsets : List Duration) : Option (List Duration) :=
  offsets.mapM moment.add?

theorem delay_append {moment : Duration} {first second firstLater secondLater : List Duration}
    (firstDelayed : delay moment first = some firstLater)
    (secondDelayed : delay moment second = some secondLater) :
    delay moment (first ++ second) = some (firstLater ++ secondLater) := by
  simp only [delay, mapM_eq_some_iff, List.map_append] at *
  rw [firstDelayed, secondDelayed]

/-- A sum of three durations that fits can be made of the last two first. -/
theorem exists_add? {moment start later span offset : Duration}
    (starts : moment.add? start = some later) (reached : later.add? span = some offset) :
    ∃ earlier, start.add? span = some earlier ∧ moment.add? earlier = some offset := by
  have startsAt := Duration.add?_eq_some_iff.1 starts
  have reachedAt := Duration.add?_eq_some_iff.1 reached
  have fits := offset.fits
  refine ⟨⟨start.nanos + span.nanos, by omega⟩, ?_, ?_⟩
  · exact Duration.add?_eq_some_iff.2 rfl
  · apply Duration.add?_eq_some_iff.2
    simp only
    omega

theorem exists_earlier_spread {moment start later span : Duration} {users : Nat}
    {shifted : List Duration} (starts : moment.add? start = some later)
    (spreads : spread later span users = some shifted) :
    ∃ offsets, spread start span users = some offsets ∧ delay moment offsets = some shifted := by
  unfold spread at spreads ⊢
  generalize List.range users = indices at spreads ⊢
  induction indices generalizing shifted with
  | nil => exact ⟨[], rfl, by simpa [delay] using spreads⟩
  | cons index indices inductionHypothesis =>
      rw [mapM_eq_some_iff] at spreads
      rcases shifted with _ | ⟨offset, shifted⟩
      · simp at spreads
      · simp only [List.map_cons, List.cons.injEq] at spreads
        obtain ⟨earlier, reached, delayed⟩ := exists_add? starts spreads.1
        obtain ⟨offsets, spreadsRest, delayedRest⟩ :=
          inductionHypothesis (mapM_eq_some_iff.2 spreads.2)
        refine ⟨earlier :: offsets, ?_, ?_⟩
        · simp [List.mapM_cons, reached, spreadsRest]
        · simp [delay] at delayedRest
          simp [delay, List.mapM_cons, delayed, delayedRest]

variable [Scalar Rate]

section

variable {moment start later during tick elapsed : Duration} {positive : 0 < tick.nanos}
  {shifted : List Duration}

theorem Ticks.exists_earlier {startRate endRate carry : Rate}
    (starts : moment.add? start = some later)
    (ticks : Ticks later during startRate endRate tick elapsed carry shifted) :
    ∃ offsets, Ticks start during startRate endRate tick elapsed carry offsets ∧
      delay moment offsets = some shifted := by
  induction ticks with
  | done passed => exact ⟨[], .done passed, rfl⟩
  | tick running begins spreads reached _ inductionHypothesis =>
      obtain ⟨earlier, beginsEarlier, delayedBegin⟩ := exists_add? starts begins
      obtain ⟨here, spreadsEarlier, delayedHere⟩ := exists_earlier_spread delayedBegin spreads
      obtain ⟨rest, ticksEarlier, delayedRest⟩ := inductionHypothesis
      exact ⟨here ++ rest, .tick running beginsEarlier spreadsEarlier reached ticksEarlier,
        delay_append delayedHere delayedRest⟩

theorem exists_earlier_rateOffsets {startRate endRate carry : Rate}
    (starts : moment.add? start = some later)
    (brings : rateOffsets later during startRate endRate tick positive elapsed carry =
      some shifted) :
    ∃ offsets,
      rateOffsets start during startRate endRate tick positive elapsed carry = some offsets ∧
        delay moment offsets = some shifted := by
  obtain ⟨offsets, ticks, delayed⟩ := (rateOffsets_eq_some_iff.1 brings).exists_earlier starts
  exact ⟨offsets, rateOffsets_eq_some_iff.2 ticks, delayed⟩

theorem exists_earlier_offsets {directive : Directive Rate}
    (starts : moment.add? start = some later)
    (brings : directive.offsets tick positive later = some shifted) :
    ∃ offsets, directive.offsets tick positive start = some offsets ∧
      delay moment offsets = some shifted := by
  cases directive with
  | nothingFor during =>
      cases brings
      exact ⟨[], rfl, rfl⟩
  | atOnce users =>
      cases brings
      refine ⟨List.replicate users start, rfl, ?_⟩
      simp [delay, mapM_eq_some_iff, starts]
  | ramp users during => exact exists_earlier_spread starts brings
  | constantRate rate during => exact exists_earlier_rateOffsets starts brings
  | rampRate startRate endRate during => exact exists_earlier_rateOffsets starts brings

theorem exists_earlier_offsetsFrom {profile : Profile Rate}
    (starts : moment.add? start = some later)
    (brings : offsetsFrom tick positive later profile = some shifted) :
    ∃ offsets, offsetsFrom tick positive start profile = some offsets ∧
      delay moment offsets = some shifted := by
  induction profile generalizing start later shifted with
  | nil =>
      cases brings
      exact ⟨[], rfl, rfl⟩
  | cons directive rest inductionHypothesis =>
      simp only [offsetsFrom, Option.bind_eq_bind, Option.bind_eq_some_iff] at brings
      obtain ⟨here, bringsHere, next, ends, behind, bringsBehind, same⟩ := brings
      cases same
      obtain ⟨earlier, bringsEarlier, delayedEarlier⟩ := exists_earlier_offsets starts bringsHere
      obtain ⟨nextEarlier, endsEarlier, delayedNext⟩ := exists_add? starts ends
      obtain ⟨offsets, bringsOffsets, delayedOffsets⟩ :=
        inductionHypothesis delayedNext bringsBehind
      refine ⟨earlier ++ offsets, ?_, delay_append delayedEarlier delayedOffsets⟩
      simp [offsetsFrom, bringsEarlier, endsEarlier, bringsOffsets]

end

/-! ### Rejected profiles -/

omit [Scalar Rate] in
/-- The same error of a profile behind a number of other steps. -/
def InjectionError.behind (steps : Nat) : InjectionError Rate → InjectionError Rate
  | .invalidRate index rate => .invalidRate (steps + index) rate
  | error => error

theorem validateRates_add (steps index : Nat) (profile : Profile Rate) :
    validateRates (steps + index) profile =
      (validateRates index profile).mapError (InjectionError.behind steps) := by
  induction profile generalizing index with
  | nil => rfl
  | cons directive rest inductionHypothesis =>
      unfold validateRates
      split
      · rfl
      · exact inductionHypothesis (index + 1)

theorem validate_append (tick : Duration) (first second : Profile Rate) :
    validate tick (first ++ second) = (do
      validate tick first
      (validate tick second).mapError (InjectionError.behind first.length)) := by
  unfold validate
  split
  · rfl
  · rw [validateRates_append, validateRates_add]

/-! ### Whole schedules -/

variable {tick : Duration}

/-- What a profile behind a schedule adds to it. -/
theorem exists_delayed {first second : Profile Rate} {earlier : List Duration}
    (scheduled : schedule tick first = .ok earlier) (valid : validate tick second = .ok ())
    (fits : schedule tick (first ++ second) ≠ .error .outOfRange) :
    ∃ moment later shifted, duration? first = some moment ∧ schedule tick second = .ok later ∧
      delay moment later = some shifted ∧
      schedule tick (first ++ second) = .ok (earlier ++ shifted) := by
  obtain ⟨validFirst, positive, brings⟩ := schedule_eq_ok_iff.1 scheduled
  have validBoth : validate tick (first ++ second) = .ok () := by
    rw [validate_append, validFirst, valid]
    rfl
  rw [schedule_of_valid positive validBoth, offsetsFrom_append, brings] at fits ⊢
  cases ends : endOf .zero first with
  | none => simp [ends] at fits
  | some moment =>
      cases bringsShifted : offsetsFrom tick positive moment second with
      | none => simp [ends, bringsShifted] at fits
      | some shifted =>
          have starts : moment.add? .zero = some moment := Duration.add?_eq_some_iff.2 rfl
          obtain ⟨later, bringsLater, delayed⟩ :=
            exists_earlier_offsetsFrom starts bringsShifted
          refine ⟨moment, later, shifted, ends, ?_, delayed, ?_⟩
          · exact schedule_eq_ok_iff.2 ⟨valid, positive, bringsLater⟩
          · simp [bringsShifted]

/-- Profiles compose on one time line.  Unless a moment lies out of range, the schedule of two
profiles is that of the first, and behind it that of the second from where the first one ends.  It
is rejected if one of them is: for the first defect of the first, or else for that of the second,
which is counted on. -/
theorem schedule_append (tick : Duration) (first second : Profile Rate)
    (fitsFirst : schedule tick first ≠ .error .outOfRange)
    (fits : schedule tick (first ++ second) ≠ .error .outOfRange) :
    (∀ error, schedule tick first = .error error →
      schedule tick (first ++ second) = .error error) ∧
    (∀ earlier error, schedule tick first = .ok earlier → schedule tick second = .error error →
      schedule tick (first ++ second) = .error (error.behind first.length)) ∧
    (∀ earlier later, schedule tick first = .ok earlier → schedule tick second = .ok later →
      ∃ moment shifted, duration? first = some moment ∧ delay moment later = some shifted ∧
        schedule tick (first ++ second) = .ok (earlier ++ shifted)) := by
  refine ⟨fun error rejected => ?_, fun earlier error scheduled rejected => ?_,
    fun earlier later scheduled scheduledSecond => ?_⟩
  · cases valid : validate tick first with
    | error defect =>
        have invalid : validate tick (first ++ second) = .error defect := by
          rw [validate_append, valid]
          rfl
        rw [schedule_of_invalid invalid, ← schedule_of_invalid valid, rejected]
    | ok _ =>
        have positive := positive_of_valid valid
        rw [schedule_of_valid positive valid] at rejected fitsFirst
        cases brings : offsetsFrom tick positive .zero first with
        | none => simp [brings] at fitsFirst
        | some offsets => simp [brings] at rejected
  · cases valid : validate tick second with
    | error defect =>
        have invalid : validate tick (first ++ second) = .error (defect.behind first.length) := by
          rw [validate_append, (schedule_eq_ok_iff.1 scheduled).1, valid]
          rfl
        rw [schedule_of_invalid valid] at rejected
        cases rejected
        exact schedule_of_invalid invalid
    | ok _ =>
        obtain ⟨_, later, _, _, scheduledSecond, _⟩ := exists_delayed scheduled valid fits
        cases scheduledSecond.symm.trans rejected
  · obtain ⟨moment, other, shifted, ends, scheduledOther, delayed, composed⟩ :=
      exists_delayed scheduled (schedule_eq_ok_iff.1 scheduledSecond).1 fits
    cases scheduledSecond.symm.trans scheduledOther
    exact ⟨moment, shifted, ends, delayed, composed⟩

/-- At its end this rate carries half a user, in a tick that is cut short. -/
def steady : Profile Rat := [.constantRate (3 / 2) (.ofMillis 2500)]

/-- The rate brings one user; with half a user more it would bring two. -/
def rising : Profile Rat :=
  [.rampRate (3 / 2) 4 (.ofMillis 1000), .ramp 3 (.ofMillis 1000)]

theorem schedule_steady_append_rising :
    schedule (.ofMillis 1000) steady ≠ .error .outOfRange ∧
      schedule (.ofMillis 1000) (steady ++ rising) ≠ .error .outOfRange ∧
      ∃ moment shifted, duration? steady = some moment ∧
        delay moment [.ofMillis 0, .ofMillis 1000, .ofCount 1333333333, .ofCount 1666666666] =
          some shifted ∧
        schedule (.ofMillis 1000) (steady ++ rising) =
          .ok ([.ofMillis 0, .ofMillis 1000, .ofMillis 1500, .ofMillis 2000] ++ shifted) := by
  have fitsFirst : schedule (.ofMillis 1000) steady ≠ .error .outOfRange := by decide +kernel
  have fits : schedule (.ofMillis 1000) (steady ++ rising) ≠ .error .outOfRange := by
    decide +kernel
  exact ⟨fitsFirst, fits, (schedule_append (.ofMillis 1000) steady rising fitsFirst fits).2.2 _ _
    (by decide +kernel) (by decide +kernel)⟩

end LoadTest.Injection
