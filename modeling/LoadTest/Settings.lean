import LoadTest.Decimal.Reading
import LoadTest.Injection.Profile
import LoadTest.Json.Fields
import LoadTest.Text.Blank

/-!
Named parameters of a run, with defaults: read from text or from JSON.

As text a duration is a number of seconds, with or without the unit `s`, or a number of
milliseconds with the unit `ms`.  In JSON it is a number of seconds.
-/

namespace LoadTest

structure Settings where
  users : Nat
  rampDuration : Duration
  testDuration : Duration
  deriving DecidableEq

structure SettingsError where
  key : String
  value : String
  detail : String
  deriving DecidableEq

def SettingsError.message (error : SettingsError) : String :=
  "setting '" ++ error.key ++ "' has invalid value '" ++ error.value ++ "': " ++ error.detail

namespace Settings

def defaults : Settings := ⟨5, .ofSeconds 10, .ofSeconds 20⟩

def usersKey : String := "USERS"

def rampDurationKey : String := "RAMP_DURATION"

def testDurationKey : String := "TEST_DURATION"

/-- The text in front of an ending, if it has that ending. -/
def stripEnding? (ending text : List Char) : Option (List Char) :=
  if ending.isSuffixOf text then some (text.take (text.length - ending.length)) else none

/-- A number in front of a unit of time, and the length of the unit in seconds. -/
def splitUnit (text : List Char) : List Char × Float :=
  match stripEnding? ['m', 's'] text with
  | some number => (number, 1e-3)
  | none => ((stripEnding? ['s'] text).getD text, 1)

def readUsers (value : String) : Except String Nat :=
  match Decimal.readCount (Text.trim value.toList) with
  | .ok users => .ok users
  | .error error => .error error.message

def readDuration (value : String) : Except String Duration :=
  let (number, unit) := splitUnit (Text.trim value.toList)
  match Decimal.read (Text.trim number) with
  | .error error => .error error.message
  | .ok number =>
      match Duration.ofFloatSeconds (number * unit) with
      | .error error => .error error.message
      | .ok duration => .ok duration

/-- The value of a parameter: its default where nothing is given. -/
def override {Value : Type} (lookup : String → Option String) (key : String)
    (readValue : String → Except String Value) (default : Value) : Except SettingsError Value :=
  match lookup key with
  | none => .ok default
  | some value =>
      match readValue value with
      | .ok result => .ok result
      | .error detail => .error ⟨key, value, detail⟩

/-- The defaults, overridden by whatever a look-up gives for the three keys. -/
def resolve (lookup : String → Option String) : Except SettingsError Settings := do
  return ⟨← override lookup usersKey readUsers defaults.users,
    ← override lookup rampDurationKey readDuration defaults.rampDuration,
    ← override lookup testDurationKey readDuration defaults.testDuration⟩

/-- All users evenly spread over the ramp. -/
def injection (settings : Settings) : Injection.Profile Float :=
  [.ramp settings.users settings.rampDuration]

def fieldNames : List String := ["users", "ramp_duration", "test_duration"]

def jsonText (settings : Settings) : String :=
  Json.objectText
    [("users", toString settings.users),
     ("ramp_duration", Decimal.dataText settings.rampDuration.toSeconds),
     ("test_duration", Decimal.dataText settings.testDuration.toSeconds)]

def ofSeconds? (seconds : Float) : Option Duration := (Duration.ofFloatSeconds seconds).toOption

/-- Settings from JSON: fields that are absent have their defaults, unknown ones are ignored. -/
def ofDocument? (document : Json.Document) : Option Settings := do
  let fields ← document.fields? fieldNames
  let users ← fields.decodeOr "users" Json.Document.count? defaults.users
  let seconds (document : Json.Document) : Option Duration := document.float?.bind ofSeconds?
  let ramp ← fields.decodeOr "ramp_duration" seconds defaults.rampDuration
  let test ← fields.decodeOr "test_duration" seconds defaults.testDuration
  return ⟨users, ramp, test⟩

def ofJsonText? (text : String) : Option Settings :=
  (Json.Document.ofText? text).bind ofDocument?

end Settings

end LoadTest
