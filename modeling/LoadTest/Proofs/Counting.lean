import LoadTest.Decimal.Reading

/-!
Which texts are counts: digits for a number that is not too large, with or without a plus sign in
front (`readCount_eq_ok_iff`).  Reading gives up as soon as the digits so far are too large, which
loses nothing as more digits make no smaller number (`le_foldl_digits`).
-/

namespace LoadTest.Decimal

/-- The digits of a count. -/
structure IsCount (digits : List Char) (count : Nat) : Prop where
  nonempty : digits ≠ []
  isDigit : ∀ digit ∈ digits, digit.isDigit = true
  value : ofDigits digits = count
  small : count ≤ maxCount

theorem le_foldl_digits (value : Nat) (digits : List Char) :
    value ≤ digits.foldl (fun number digit => number * 10 + digitValue digit) value := by
  induction digits generalizing value with
  | nil => exact Nat.le_refl value
  | cons digit digits inductionHypothesis =>
      have := inductionHypothesis (value * 10 + digitValue digit)
      simp only [List.foldl_cons]
      omega

theorem readDigits_eq_ok_iff {value count : Nat} {digits : List Char} (small : value ≤ maxCount) :
    readDigits value digits = .ok count ↔
      (∀ digit ∈ digits, digit.isDigit = true) ∧
        digits.foldl (fun number digit => number * 10 + digitValue digit) value = count ∧
        count ≤ maxCount := by
  induction digits generalizing value with
  | nil =>
      simp only [readDigits, List.not_mem_nil, false_implies, implies_true, true_and,
        List.foldl_nil, Except.ok.injEq]
      constructor
      · intro same
        exact ⟨same, same ▸ small⟩
      · intro both
        exact both.1
  | cons digit digits inductionHypothesis =>
      rw [readDigits, List.forall_mem_cons, List.foldl_cons]
      by_cases isDigit : digit.isDigit = true
      · by_cases fits : value * 10 + digitValue digit ≤ maxCount
        · rw [if_neg (by simp [isDigit]), if_neg (by omega), inductionHypothesis fits]
          simp [isDigit]
        · have grows := le_foldl_digits (value * 10 + digitValue digit) digits
          rw [if_neg (by simp [isDigit]), if_pos (by omega)]
          constructor
          · intro failed
            cases failed
          · rintro ⟨-, same, bounded⟩
            omega
      · rw [if_pos (by simp [isDigit])]
        constructor
        · intro failed
          cases failed
        · rintro ⟨⟨digit, -⟩, -⟩
          exact absurd digit isDigit

theorem isCount_iff {digits : List Char} {count : Nat} :
    IsCount digits count ↔ digits ≠ [] ∧ readDigits 0 digits = .ok count := by
  rw [readDigits_eq_ok_iff (Nat.zero_le _)]
  constructor
  · rintro ⟨nonempty, isDigit, value, small⟩
    exact ⟨nonempty, isDigit, value, small⟩
  · rintro ⟨nonempty, isDigit, value, small⟩
    exact ⟨nonempty, isDigit, value, small⟩

/-- A count is written with digits, with or without a plus sign in front. -/
theorem readCount_eq_ok_iff {text : List Char} {count : Nat} :
    readCount text = .ok count ↔
      IsCount text count ∨ ∃ digits, text = '+' :: digits ∧ IsCount digits count := by
  have signed (digits : List Char) : readDigits 0 ('+' :: digits) = .error .invalidDigit := rfl
  simp only [isCount_iff]
  unfold readCount
  split
  · simp
  · simp [signed]
  next digits nonempty =>
    have : digits ≠ [] := nonempty
    simp [signed, this]
  next digits nonempty _ unsigned =>
    have : text ≠ [] := nonempty
    simp only [this, ne_eq, not_false_eq_true, true_and, iff_self_or]
    rintro ⟨rest, same, -⟩
    exact absurd same (unsigned rest)

/-- A number that is not too large is the count its digits write. -/
theorem isCount_toDigits {count : Nat} (small : count ≤ maxCount) :
    IsCount (Nat.toDigits 10 count) count where
  nonempty := Nat.toDigits_ne_nil
  isDigit _ member := Nat.isDigit_of_mem_toDigits (by decide) (by decide) member
  value := by
    have written : Nat.ofDigitChars 10 (Nat.toDigits 10 count) 0 = count :=
      Nat.ofDigitChars_ten_toDigits
    simpa only [Nat.ofDigitChars, ofDigits, digitValue, Nat.mul_comm] using written
  small := small

end LoadTest.Decimal
