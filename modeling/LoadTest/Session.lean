import LoadTest.Json.Basic

/-!
The state a user carries through a scenario: its number and its variables.

A session is a value.  `get?_set`, `get?_remove` and `get?_merge` say what the three
ways of writing do to a look-up; none of them touches the user's number.
-/

namespace LoadTest

/-- A set of bindings, as a feeder hands them out. -/
abbrev Record := SortedMap String Json

structure Session where
  userId : Nat
  bindings : SortedMap String Json

namespace Session

/-- The session a user starts with. -/
def forUser (userId : Nat) : Session := ⟨userId, ∅⟩

instance : Inhabited Session := ⟨forUser 0⟩

def get? (session : Session) (key : String) : Option Json := session.bindings.get? key

def getString? (session : Session) (key : String) : Option String :=
  (session.get? key).bind Json.string?

def contains (session : Session) (key : String) : Bool := session.bindings.contains key

def size (session : Session) : Nat := session.bindings.size

def isEmpty (session : Session) : Bool := session.bindings.isEmpty

def set (session : Session) (key : String) (value : Json) : Session :=
  { session with bindings := session.bindings.insert key value }

def remove (session : Session) (key : String) : Session :=
  { session with bindings := session.bindings.erase key }

/-- Gives a variable a value, or takes it away. -/
def restore (session : Session) (key : String) : Option Json → Session
  | some value => session.set key value
  | none => session.remove key

/-- Sets the pairs one after another. -/
def merge (session : Session) (pairs : List (String × Json)) : Session :=
  { session with bindings := session.bindings.insertMany pairs }

theorem ext {first second : Session} (sameUser : first.userId = second.userId)
    (alike : ∀ key, first.get? key = second.get? key) : first = second := by
  obtain ⟨firstId, firstBindings⟩ := first
  obtain ⟨secondId, secondBindings⟩ := second
  have : firstBindings = secondBindings := SortedMap.ext alike
  cases sameUser
  cases this
  rfl

@[simp] theorem get?_forUser (userId : Nat) (key : String) :
    (forUser userId).get? key = none := rfl

@[simp] theorem get?_set (session : Session) (key other : String) (value : Json) :
    (session.set key value).get? other = if other = key then some value else session.get? other :=
  SortedMap.get?_insert ..

@[simp] theorem get?_remove (session : Session) (key other : String) :
    (session.remove key).get? other = if other = key then none else session.get? other :=
  SortedMap.get?_erase ..

@[simp] theorem get?_restore (session : Session) (key other : String) (value : Option Json) :
    (session.restore key value).get? other = if other = key then value else session.get? other := by
  cases value <;> simp [restore]

@[simp] theorem merge_nil (session : Session) : session.merge [] = session := rfl

@[simp] theorem merge_cons (session : Session) (pair : String × Json)
    (pairs : List (String × Json)) :
    session.merge (pair :: pairs) = (session.set pair.1 pair.2).merge pairs := rfl

@[simp] theorem userId_forUser (userId : Nat) : (forUser userId).userId = userId := rfl

@[simp] theorem userId_set (session : Session) (key : String) (value : Json) :
    (session.set key value).userId = session.userId := rfl

@[simp] theorem userId_remove (session : Session) (key : String) :
    (session.remove key).userId = session.userId := rfl

@[simp] theorem userId_restore (session : Session) (key : String) (value : Option Json) :
    (session.restore key value).userId = session.userId := by
  cases value <;> rfl

@[simp] theorem userId_merge (session : Session) (pairs : List (String × Json)) :
    (session.merge pairs).userId = session.userId := rfl

end Session

end LoadTest
