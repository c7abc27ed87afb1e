/-!
White space, as Unicode's property of that name has it, and its removal from both
ends of a text.
-/

namespace LoadTest.Text

/-- The 25 characters with the property `White_Space`. -/
def isBlank (character : Char) : Bool :=
  let code := character.toNat
  (9 ≤ code && code ≤ 13) || code == 0x20 || code == 0x85 || code == 0xA0 || code == 0x1680 ||
    (0x2000 ≤ code && code ≤ 0x200A) || code == 0x2028 || code == 0x2029 || code == 0x202F ||
    code == 0x205F || code == 0x3000

def trimStart (text : List Char) : List Char := text.dropWhile isBlank

def trimEnd (text : List Char) : List Char := (text.reverse.dropWhile isBlank).reverse

/-- What is left of a text without the white space around it. -/
def trim (text : List Char) : List Char := trimEnd (trimStart text)

def isAllBlank (text : List Char) : Bool := text.all isBlank

theorem trimEnd_suffix (text : List Char) : ∃ tail, text = trimEnd text ++ tail := by
  obtain ⟨head, split⟩ := List.dropWhile_suffix (l := text.reverse) isBlank
  refine ⟨head.reverse, ?_⟩
  have := congrArg List.reverse split
  simpa [trimEnd] using this.symm

theorem exists_trim_between (text : List Char) :
    ∃ head tail, text = head ++ trim text ++ tail := by
  obtain ⟨head, split⟩ := List.dropWhile_suffix (l := text) isBlank
  obtain ⟨tail, ends⟩ := trimEnd_suffix (trimStart text)
  refine ⟨head, tail, ?_⟩
  rw [List.append_assoc, trim, ← ends, trimStart, split]

theorem length_trim_le (text : List Char) : (trim text).length ≤ text.length := by
  obtain ⟨head, tail, split⟩ := exists_trim_between text
  have := congrArg List.length split
  simp only [List.length_append] at this
  omega

theorem trimStart_eq_self {text : List Char}
    (first : ∀ character ∈ text.head?, isBlank character = false) : trimStart text = text := by
  cases text with
  | nil => rfl
  | cons character text =>
      apply List.dropWhile_cons_of_neg
      rw [first character rfl]
      exact Bool.false_ne_true

/-- A text with no white space at its ends stays as it is. -/
theorem trim_eq_self {text : List Char}
    (first : ∀ character ∈ text.head?, isBlank character = false)
    (last : ∀ character ∈ text.getLast?, isBlank character = false) : trim text = text := by
  have reversed : text.reverse.dropWhile isBlank = text.reverse := by
    apply trimStart_eq_self
    rwa [List.head?_reverse]
  rw [trim, trimStart_eq_self first, trimEnd, reversed, List.reverse_reverse]

theorem trim_between {first last : Char} (text : List Char) (opens : isBlank first = false)
    (closes : isBlank last = false) :
    trim (first :: (text ++ [last])) = first :: (text ++ [last]) := by
  apply trim_eq_self
  · intro character same
    cases same
    exact opens
  · intro character same
    rw [← List.cons_append, List.getLast?_concat] at same
    cases same
    exact closes

/-- Digits are no white space. -/
theorem isBlank_of_isDigit {character : Char} (digit : character.isDigit = true) :
    isBlank character = false := by
  have range : 48 ≤ character.toNat ∧ character.toNat ≤ 57 := by
    simp only [Char.isDigit, Bool.and_eq_true, decide_eq_true_eq] at digit
    exact digit
  unfold isBlank
  simp only [Bool.or_eq_false_iff, Bool.and_eq_false_iff, decide_eq_false_iff_not, beq_eq_false_iff_ne]
  omega

end LoadTest.Text
