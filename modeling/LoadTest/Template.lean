import LoadTest.Session
import LoadTest.Text.Blank

/-!
Texts with placeholders `#{name}` that are filled from a session.

A placeholder opens at the first `#{` and ends at the next closing brace; an opening
without an end is ordinary text.  Names are read without the white space around them.
What is inserted is never read again.
-/

namespace LoadTest

/-- A placeholder named a variable that the session does not hold. -/
structure Unresolved where
  name : String
  deriving DecidableEq

def Unresolved.message (missing : Unresolved) : String :=
  "unresolved session variable '" ++ missing.name ++ "'"

inductive Part where
  | literal (text : String)
  | placeholder (name : String)
  deriving DecidableEq

namespace Part

/-- What stands before the first opening of a placeholder, and what stands behind it. -/
def splitOpening : List Char → Option (List Char × List Char)
  | [] => none
  | [_] => none
  | first :: second :: rest =>
      if first = '#' ∧ second = '\x7b' then some ([], rest)
      else (splitOpening (second :: rest)).map fun (before, behind) => (first :: before, behind)

/-- What stands before the first closing brace, and what stands behind it. -/
def splitClosing : List Char → Option (List Char × List Char)
  | [] => none
  | character :: rest =>
      if character = '\x7d' then some ([], rest)
      else (splitClosing rest).map fun (before, behind) => (character :: before, behind)

theorem splitOpening_eq_some {text before behind : List Char}
    (found : splitOpening text = some (before, behind)) :
    text = before ++ '#' :: '\x7b' :: behind := by
  fun_induction splitOpening text generalizing before with
  | case1 => cases found
  | case2 => cases found
  | case3 first second rest opens =>
      cases found
      simp [opens]
  | case4 first second rest opens inductionHypothesis =>
      obtain ⟨⟨inner, left⟩, split, same⟩ := Option.map_eq_some_iff.1 found
      cases same
      rw [inductionHypothesis split]
      rfl

theorem splitClosing_eq_some {text before behind : List Char}
    (found : splitClosing text = some (before, behind)) :
    text = before ++ '\x7d' :: behind := by
  induction text generalizing before with
  | nil => cases found
  | cons character rest inductionHypothesis =>
      unfold splitClosing at found
      split at found
      · next closes => cases found; simp [closes]
      · obtain ⟨⟨inner, left⟩, split, same⟩ := Option.map_eq_some_iff.1 found
        cases same
        rw [inductionHypothesis split]
        rfl

def literals (text : List Char) : List Part :=
  if text.isEmpty then [] else [.literal (String.ofList text)]

/-- The pieces of a source text, in order. -/
def ofSource (source : List Char) : List Part :=
  match _opening : splitOpening source with
  | none => literals source
  | some (before, behind) =>
      match _closing : splitClosing behind with
      | none => literals source
      | some (name, rest) =>
          literals before ++ .placeholder (String.ofList (Text.trim name)) :: ofSource rest
termination_by source.length
decreasing_by
  rw [splitOpening_eq_some _opening, splitClosing_eq_some _closing]
  simp only [List.length_append, List.length_cons]
  omega

def name? : Part → Option String
  | .literal _ => none
  | .placeholder name => some name

/-- The text a part stands for. -/
def render (session : Session) : Part → Except Unresolved String
  | .literal text => .ok text
  | .placeholder name =>
      match session.get? name with
      | some value => .ok value.inserted
      | none => .error ⟨name⟩

end Part

structure Template where
  source : String
  deriving DecidableEq

namespace Template

def parts (template : Template) : List Part := Part.ofSource template.source.toList

/-- The names of the placeholders, in order. -/
def names (template : Template) : List String := template.parts.filterMap Part.name?

def isStatic (template : Template) : Bool := template.names.isEmpty

/-- The text with every placeholder filled, unless a variable is missing. -/
def render (template : Template) (session : Session) : Except Unresolved String := do
  return String.join (← template.parts.mapM (Part.render session))

end Template

end LoadTest
