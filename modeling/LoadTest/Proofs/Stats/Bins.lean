import LoadTest.Stats.Histogram
import Mathlib.Data.Rat.Floor

/-!
The bins of a histogram.

Bins are blocks of consecutive numbers in a row: a greater number is in the same bin or in a later
one (`Bin.low_mono`), and a later bin begins behind the end of an earlier one (`Bin.next_le_low`).
So the highest number of a bin grows with its lowest one (`Bin.high_mono`), and the middle of a bin
lies between the two (`Bin.middle_le_high`).
-/

namespace LoadTest.Bin

variable {number first second bits : Nat}

theorem width_eq (number : Nat) : width number = 2 ^ shift number := Nat.one_shiftLeft _

theorem width_pos (number : Nat) : 0 < width number := by
  rw [width_eq]
  exact Nat.two_pow_pos _

/-- Of a number, its bin regards eleven bits. -/
theorem shift_le_iff : shift number ≤ bits ↔ number < 2 ^ (bits + 11) := by
  unfold shift bitLength
  split
  next zero => simp [zero]
  next positive =>
    rw [← Nat.log2_lt positive]
    omega

theorem shift_mono (le : first ≤ second) : shift first ≤ shift second :=
  shift_le_iff.2 (Nat.lt_of_le_of_lt le (shift_le_iff.1 (Nat.le_refl _)))

/-! ### From bin to bin -/

theorem low_le (number : Nat) : low number ≤ number := Nat.div_mul_le_self ..

theorem lt_next (number : Nat) : number < low number + width number :=
  Nat.lt_div_mul_add (width_pos number)

theorem next_le_of_shift_le (short : shift number ≤ bits) :
    low number + width number ≤ 2 ^ (bits + 11) := by
  have whole : width number ∣ 2 ^ (bits + 11) := by
    rw [width_eq]
    exact Nat.pow_dvd_pow 2 (by omega)
  obtain ⟨count, same⟩ := whole
  have below : number / width number < count := by
    rw [Nat.div_lt_iff_lt_mul (width_pos number), Nat.mul_comm, ← same]
    exact shift_le_iff.1 short
  calc low number + width number = (number / width number + 1) * width number := by
        rw [low, Nat.add_mul, Nat.one_mul]
    _ ≤ count * width number := Nat.mul_le_mul_right _ below
    _ = 2 ^ (bits + 11) := by rw [Nat.mul_comm, same]

theorem le_low_of_lt_shift (long : bits < shift number) : 2 ^ (bits + 11) ≤ low number := by
  obtain ⟨more, same⟩ : ∃ more, shift number = more + 1 := ⟨shift number - 1, by omega⟩
  have large : 2 ^ (more + 11) ≤ number := by
    rw [← Nat.not_lt, ← shift_le_iff]
    omega
  have whole : 2 ^ 10 * width number = 2 ^ (more + 11) := by
    rw [width_eq, same, ← Nat.pow_add]
    congr 1
    omega
  have within : 2 ^ 10 ≤ number / width number := by
    rwa [Nat.le_div_iff_mul_le (width_pos number), whole]
  calc 2 ^ (bits + 11) ≤ 2 ^ (more + 11) := Nat.pow_le_pow_right (by decide) (by omega)
    _ = 2 ^ 10 * width number := whole.symm
    _ ≤ low number := Nat.mul_le_mul_right _ within

/-- A number whose bin disregards more bits is in a later bin. -/
theorem next_le_low_of_shift_lt (longer : shift first < shift second) :
    low first + width first ≤ low second :=
  Nat.le_trans (next_le_of_shift_le (Nat.le_refl _)) (le_low_of_lt_shift longer)

theorem low_mono (le : first ≤ second) : low first ≤ low second := by
  obtain longer | same := Nat.lt_or_eq_of_le (shift_mono le)
  · exact Nat.le_trans (Nat.le_add_right ..) (next_le_low_of_shift_lt longer)
  · rw [low, low, width_eq, width_eq, same]
    exact Nat.mul_le_mul_right _ (Nat.div_le_div_right le)

/-- A later bin begins behind the end of an earlier one. -/
theorem next_le_low (apart : low first < low second) :
    low first + width first ≤ low second := by
  have before : first ≤ second := by
    by_contra after
    have := low_mono (Nat.le_of_not_le after)
    omega
  obtain longer | same := Nat.lt_or_eq_of_le (shift_mono before)
  · exact next_le_low_of_shift_lt longer
  · have wide : width first = width second := by rw [width_eq, width_eq, same]
    have counts : first / width second < second / width second := by
      apply Nat.lt_of_mul_lt_mul_right (a := width second)
      rw [low, low, wide] at apart
      exact apart
    calc low first + width first = (first / width second + 1) * width second := by
          rw [low, wide, Nat.add_mul, Nat.one_mul]
      _ ≤ second / width second * width second := Nat.mul_le_mul_right _ counts
      _ = low second := rfl

@[simp] theorem shift_low (number : Nat) : shift (low number) = shift number := by
  refine Nat.le_antisymm (shift_mono (low_le number)) ?_
  by_contra longer
  have large := le_low_of_lt_shift (Nat.lt_of_not_le longer)
  have small : low number < 2 ^ (shift (low number) + 11) := shift_le_iff.1 (Nat.le_refl _)
  omega

@[simp] theorem width_low (number : Nat) : width (low number) = width number := by
  rw [width_eq, width_eq, shift_low]

/-- The lowest number of a bin is in it. -/
@[simp] theorem low_low (number : Nat) : low (low number) = low number := by
  rw [low, width_low, low, Nat.mul_div_cancel _ (width_pos number)]

/-! ### The ends of a bin -/

theorem low_maxCount_lt : low maxCount < maxCount := by decide

theorem low_lt_maxCount (counted : number ≤ maxCount) : low number < maxCount :=
  Nat.lt_of_le_of_lt (low_mono counted) low_maxCount_lt

theorem high_of_ne (other : number ≠ maxCount) :
    high number = min (low number + width number) maxCount - 1 := if_neg other

theorem high_low (counted : number ≤ maxCount) :
    high (low number) = min (low number + width number) maxCount - 1 := by
  rw [high_of_ne (Nat.ne_of_lt (low_lt_maxCount counted)), low_low, width_low]

/-- No bin ends at the largest count. -/
theorem high_low_lt (counted : number ≤ maxCount) : high (low number) < maxCount := by
  have positive : 0 < maxCount := by decide
  rw [high_low counted]
  omega

theorem le_high (counted : number ≤ maxCount) : number ≤ high number := by
  by_cases same : number = maxCount
  · rw [high, if_pos same, same]
  · have before := lt_next number
    rw [high_of_ne same]
    omega

theorem high_le_maxCount (number : Nat) : high number ≤ maxCount := by
  unfold high
  split <;> omega

theorem high_mono (le : first ≤ second) (counted : second ≤ maxCount) :
    high first ≤ high second := by
  by_cases last : second = maxCount
  · rw [last, high, high, if_pos rfl]
    exact high_le_maxCount first
  · rw [high_of_ne last, high_of_ne (by omega)]
    have ends : low first + width first ≤ low second + width second := by
      obtain earlier | same := Nat.lt_or_eq_of_le (low_mono le)
      · exact Nat.le_trans (next_le_low earlier) (Nat.le_add_right ..)
      · rw [← width_low first, ← width_low second, same]
    omega

theorem low_le_middle (number : Nat) : low number ≤ middle (low number) := by
  rw [middle, low_low]
  exact Nat.le_add_right ..

/-- The last bin ends one number early, which is still behind its middle. -/
theorem middle_le_high (counted : number ≤ maxCount) :
    middle (low number) ≤ high (low number) := by
  have wide := width_pos number
  have short : low number + width number / 2 < maxCount := by
    obtain earlier | same := Nat.lt_or_eq_of_le (low_mono counted)
    · have := next_le_low earlier
      have := low_maxCount_lt
      omega
    · rw [← width_low, same, width_low]
      decide
  rw [high_low counted, middle, low_low, width_low]
  omega

end LoadTest.Bin
