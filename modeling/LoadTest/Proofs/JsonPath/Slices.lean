import LoadTest.JsonPath
import Mathlib.Data.List.TakeWhile
import Mathlib.Data.String.Basic

/-!
Reading a path by positions.

Positions are counted in bytes, and a text can only be cut at a boundary of characters
(`Text.isSome_cut?_iff`).  A reading that finds its way through a path by such positions
(`JsonPath.Reads`) never asks for another cut, and it comes to an end with what reading character by
character gives (`JsonPath.reads_iff`).
-/

namespace LoadTest

namespace Text

open String (utf8Len utf8Len_cons utf8Len_append)

/-- What stands before and behind a position; there is none inside a character or past the end. -/
def cut? : Nat → List Char → Option (List Char × List Char)
  | 0, text => some ([], text)
  | _ + 1, [] => none
  | position + 1, character :: text =>
      if character.utf8Size ≤ position + 1 then
        (cut? (position + 1 - character.utf8Size) text).map fun (before, behind) =>
          (character :: before, behind)
      else none

/-- What stands from a position on. -/
def sliceFrom? (start : Nat) (text : List Char) : Option (List Char) := (cut? start text).map (·.2)

/-- What stands from one position up to another, which must not come before it. -/
def slice? (start stop : Nat) (text : List Char) : Option (List Char) := do
  let (before, _) ← cut? stop text
  sliceFrom? start before

/-- The position of the first character of a kind. -/
def position? (kind : Char → Bool) : List Char → Option Nat
  | [] => none
  | character :: text =>
      if kind character then some 0 else (position? kind text).map (· + character.utf8Size)

theorem cut?_append (before behind : List Char) :
    cut? (utf8Len before) (before ++ behind) = some (before, behind) := by
  induction before with
  | nil => simp [cut?]
  | cons character before inductionHypothesis =>
      have positive := character.utf8Size_pos
      obtain ⟨position, next⟩ : ∃ position, utf8Len (character :: before) = position + 1 :=
        Nat.exists_eq_succ_of_ne_zero (by rw [utf8Len_cons]; omega)
      have left : position + 1 - character.utf8Size = utf8Len before := by
        rw [← next, utf8Len_cons, Nat.add_sub_cancel]
      rw [next, List.cons_append, cut?, if_pos (by rw [← next, utf8Len_cons]; omega), left,
        inductionHypothesis, Option.map_some]

theorem of_cut?_eq_some {position : Nat} {text before behind : List Char}
    (found : cut? position text = some (before, behind)) :
    text = before ++ behind ∧ position = utf8Len before := by
  fun_induction cut? position text generalizing before with
  | case1 text =>
      cases found
      exact ⟨rfl, rfl⟩
  | case2 => cases found
  | case3 position character text fits inductionHypothesis =>
      obtain ⟨⟨inner, left⟩, later, same⟩ := Option.map_eq_some_iff.1 found
      cases same
      obtain ⟨cut, length⟩ := inductionHypothesis later
      rw [cut, utf8Len_cons, ← length]
      exact ⟨rfl, by omega⟩
  | case4 => cases found

/-- A text can be cut where a character begins and at its end. -/
theorem isSome_cut?_iff {position : Nat} {text : List Char} :
    (cut? position text).isSome = true ↔ String.Pos.Raw.IsValid (String.ofList text) ⟨position⟩ := by
  rw [String.Pos.Raw.isValid_iff_exists_append]
  constructor
  · intro cut
    obtain ⟨⟨before, behind⟩, found⟩ := Option.isSome_iff_exists.1 cut
    obtain ⟨rfl, rfl⟩ := of_cut?_eq_some found
    refine ⟨String.ofList before, String.ofList behind, String.ofList_append .., ?_⟩
    rw [String.Pos.Raw.ext_iff]
    exact (String.utf8ByteSize_ofList before).symm
  · rintro ⟨before, behind, joined, length⟩
    have text_eq : text = before.toList ++ behind.toList := by
      simpa using congrArg String.toList joined
    have position_eq : position = utf8Len before.toList := by
      rw [← String.utf8ByteSize_ofList, String.ofList_toList]
      exact congrArg String.Pos.Raw.byteIdx length
    rw [text_eq, position_eq, cut?_append, Option.isSome_some]

theorem sliceFrom?_append (before behind : List Char) :
    sliceFrom? (utf8Len before) (before ++ behind) = some behind := by
  rw [sliceFrom?, cut?_append, Option.map_some]

theorem slice?_append (before between behind : List Char) :
    slice? (utf8Len before) (utf8Len before + utf8Len between) (before ++ between ++ behind) =
      some between := by
  rw [slice?, ← utf8Len_append, cut?_append]
  exact sliceFrom?_append before between

theorem position?_eq (kind : Char → Bool) (text : List Char) :
    position? kind text =
      if text.dropWhile (!kind ·) = [] then none
      else some (utf8Len (text.takeWhile (!kind ·))) := by
  induction text with
  | nil => rfl
  | cons character text inductionHypothesis =>
      by_cases found : kind character = true
      · simp [position?, found]
      · have passes : (!kind character) = true := by simpa using found
        rw [position?, if_neg found, inductionHypothesis,
          List.dropWhile_cons_of_pos (p := (!kind ·)) passes,
          List.takeWhile_cons_of_pos (p := (!kind ·)) passes, utf8Len_cons]
        split <;> rfl

end Text

namespace JsonPath

open String (utf8Len)
open Text (sliceFrom? slice? position?)

/-- What comes next in a text of segments. -/
inductive Next where
  | done
  | failed (error : PathError)
  | more (segment : Segment) (left : List Char)

/-- What comes next, found by positions. -/
def next? : List Char → Option Next
  | [] => some .done
  | '.' :: rest => do
      let behind ← sliceFrom? 1 ('.' :: rest)
      let length := (position? endsField behind).getD (utf8Len ('.' :: rest) - 1)
      let name ← slice? 1 (1 + length) ('.' :: rest)
      if name.isEmpty then return .failed .emptyField
      else return .more (.key (String.ofList name)) (← sliceFrom? (1 + length) ('.' :: rest))
  | '[' :: rest =>
      match position? (· == ']') ('[' :: rest) with
      | none => some (.failed .unclosedBracket)
      | some close => do
          match readBracket (← slice? 1 close ('[' :: rest)) with
          | .error error => return .failed error
          | .ok segment => return .more segment (← sliceFrom? (close + 1) ('[' :: rest))
  | character :: _ => some (.failed (.unexpected character))

/-- What a text of segments is read as, one by one and by positions. -/
inductive Reads : List Char → Except PathError (List Segment) → Prop
  | done {text : List Char} : next? text = some .done → Reads text (.ok [])
  | failed {text : List Char} {error : PathError} :
      next? text = some (.failed error) → Reads text (.error error)
  | more {text left : List Char} {segment : Segment} {outcome : Except PathError (List Segment)} :
      next? text = some (.more segment left) → Reads left outcome →
        Reads text (do return segment :: (← outcome))

variable {rest left : List Char}

theorem next?_field (rest : List Char) :
    next? ('.' :: rest) =
      some
        (if (rest.takeWhile (!endsField ·)).isEmpty then .failed .emptyField
        else
          .more (.key (String.ofList (rest.takeWhile (!endsField ·))))
            (rest.dropWhile (!endsField ·))) := by
  have behind : sliceFrom? 1 ('.' :: rest) = some rest := Text.sliceFrom?_append ['.'] rest
  -- A name without an end goes on to the end of the text.
  have length : (position? endsField rest).getD (utf8Len ('.' :: rest) - 1) =
      utf8Len (rest.takeWhile (!endsField ·)) := by
    rw [Text.position?_eq]
    split
    next endless =>
      have whole := List.takeWhile_append_dropWhile (p := (!endsField ·)) (l := rest)
      rw [endless, List.append_nil] at whole
      rw [whole, String.utf8Len_cons]
      rfl
    · rfl
  have cut : '.' :: rest =
      ['.'] ++ rest.takeWhile (!endsField ·) ++ rest.dropWhile (!endsField ·) := by
    simp
  have name := Text.slice?_append ['.'] (rest.takeWhile (!endsField ·)) (rest.dropWhile (!endsField ·))
  have left := Text.sliceFrom?_append (['.'] ++ rest.takeWhile (!endsField ·))
    (rest.dropWhile (!endsField ·))
  rw [← cut, String.utf8Len_append] at left
  rw [← cut] at name
  have one : utf8Len ['.'] = 1 := rfl
  rw [one] at name left
  simp only [next?, behind, length, name, left, Option.bind_eq_bind, Option.bind_some]
  split <;> rfl

theorem next?_unclosed (unclosed : rest.dropWhile (· != ']') = []) :
    next? ('[' :: rest) = some (.failed .unclosedBracket) := by
  have nowhere : position? (· == ']') ('[' :: rest) = none := by
    rw [Text.position?_eq, if_pos]
    exact unclosed
  simp only [next?, nowhere]

theorem eq_closing_of_dropWhile {character : Char}
    (closed : rest.dropWhile (· != ']') = character :: left) : character = ']' := by
  have stops := List.head_dropWhile_not (· != ']') (l := rest) (by simp [closed])
  simpa [closed] using stops

theorem takeWhile_append_closing {character : Char}
    (closed : rest.dropWhile (· != ']') = character :: left) :
    rest.takeWhile (· != ']') ++ ']' :: left = rest := by
  have whole := List.takeWhile_append_dropWhile (p := (· != ']')) (l := rest)
  rwa [closed, eq_closing_of_dropWhile closed] at whole

theorem next?_bracket {character : Char}
    (closed : rest.dropWhile (· != ']') = character :: left) :
    next? ('[' :: rest) =
      some
        (match readBracket (rest.takeWhile (· != ']')) with
        | .error error => .failed error
        | .ok segment => .more segment left) := by
  have whole := takeWhile_append_closing closed
  have found : ('[' :: rest).dropWhile (!(· == ']') ·) ≠ [] := by
    change rest.dropWhile (· != ']') ≠ []
    simp [closed]
  have position : position? (· == ']') ('[' :: rest) =
      some (utf8Len (['['] ++ rest.takeWhile (· != ']'))) := by
    rw [Text.position?_eq, if_neg found]
    rfl
  generalize rest.takeWhile (· != ']') = text at whole position ⊢
  have cut : '[' :: rest = ['['] ++ text ++ ']' :: left := congrArg ('[' :: ·) whole.symm
  have cutBehind : '[' :: rest = ['['] ++ text ++ [']'] ++ left :=
    cut.trans (List.append_cons _ ']' left)
  have name := Text.slice?_append ['['] text (']' :: left)
  have behind := Text.sliceFrom?_append (['['] ++ text ++ [']']) left
  rw [← cut, ← String.utf8Len_append] at name
  rw [← cutBehind, String.utf8Len_append _ [']']] at behind
  have one : utf8Len ['['] = 1 ∧ utf8Len [']'] = 1 := ⟨rfl, rfl⟩
  rw [one.1] at name
  rw [one.2] at behind
  simp only [next?, position, name, behind, Option.bind_eq_bind, Option.bind_some]
  split <;> rfl

/-- The positions lead to an end, and to what the text is read as. -/
theorem reads_readSegments (text : List Char) : Reads text (readSegments text) := by
  fun_induction readSegments text with
  | case1 => exact .done rfl
  | case2 rest name empty =>
      apply Reads.failed
      rw [next?_field, if_pos empty]
  | case3 rest name nonempty inductionHypothesis =>
      have next := next?_field rest
      rw [if_neg nonempty] at next
      exact .more next inductionHypothesis
  | case4 rest unclosed => exact .failed (next?_unclosed unclosed)
  | case5 rest character left closed inductionHypothesis =>
      have next := next?_bracket closed
      cases inside : readBracket (rest.takeWhile (· != ']')) with
      | error error =>
          rw [inside] at next
          exact .failed next
      | ok segment =>
          rw [inside] at next
          exact .more next inductionHypothesis
  | case6 character rest noPoint noBracket =>
      apply Reads.failed
      unfold next?
      split <;> simp_all

theorem Reads.unique {text : List Char} {outcome other : Except PathError (List Segment)}
    (reads : Reads text outcome) (others : Reads text other) : outcome = other := by
  induction reads generalizing other with
  | done next =>
      cases others with
      | done => rfl
      | failed otherNext => cases next.symm.trans otherNext
      | more otherNext => cases next.symm.trans otherNext
  | failed next =>
      cases others with
      | done otherNext => cases next.symm.trans otherNext
      | failed otherNext =>
          cases next.symm.trans otherNext
          rfl
      | more otherNext => cases next.symm.trans otherNext
  | more next _ inductionHypothesis =>
      cases others with
      | done otherNext => cases next.symm.trans otherNext
      | failed otherNext => cases next.symm.trans otherNext
      | more otherNext rest =>
          cases next.symm.trans otherNext
          rw [inductionHypothesis rest]

theorem reads_iff {text : List Char} {outcome : Except PathError (List Segment)} :
    Reads text outcome ↔ readSegments text = outcome := by
  constructor
  · intro reads
    exact (reads_readSegments text).unique reads
  · rintro rfl
    exact reads_readSegments text

end JsonPath

end LoadTest
