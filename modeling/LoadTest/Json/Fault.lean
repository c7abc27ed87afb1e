/-!
Why a text is not JSON, and where.

A fault remembers how many bytes were left when it was found; the line and the column
are counted from the text itself.  Lines are counted from one, and the column is the
number of bytes of the line before the fault.
-/

namespace LoadTest.Json

inductive Cause where
  | endInValue
  | endInList
  | endInObject
  | endInString
  | expectedValue
  | expectedWord
  | expectedColon
  | expectedCommaOrListEnd
  | expectedCommaOrObjectEnd
  | keyNotString
  | trailingComma
  | trailingCharacters
  | invalidNumber
  | numberOutOfRange
  | invalidEscape
  | invalidText
  | loneSurrogate
  | unpairedSurrogate
  | controlCharacter
  | tooDeep
  deriving DecidableEq

def Cause.message : Cause → String
  | .endInValue => "EOF while parsing a value"
  | .endInList => "EOF while parsing a list"
  | .endInObject => "EOF while parsing an object"
  | .endInString => "EOF while parsing a string"
  | .expectedValue => "expected value"
  | .expectedWord => "expected ident"
  | .expectedColon => "expected `:`"
  | .expectedCommaOrListEnd => "expected `,` or `]`"
  | .expectedCommaOrObjectEnd => "expected `,` or `\x7d`"
  | .keyNotString => "key must be a string"
  | .trailingComma => "trailing comma"
  | .trailingCharacters => "trailing characters"
  | .invalidNumber => "invalid number"
  | .numberOutOfRange => "number out of range"
  | .invalidEscape => "invalid escape"
  | .invalidText => "invalid unicode code point"
  | .loneSurrogate => "lone leading surrogate in hex escape"
  | .unpairedSurrogate => "unexpected end of hex escape"
  | .controlCharacter => "control character (\\u0000-\\u001F) found while parsing a string"
  | .tooDeep => "recursion limit exceeded"

structure Fault where
  cause : Cause
  /-- How many bytes stood behind the fault. -/
  left : Nat
  deriving DecidableEq

/-- A fault at what has been read so far. -/
def Fault.here (cause : Cause) (rest : List UInt8) : Fault := ⟨cause, rest.length⟩

/-- A fault at the next byte, if there is one. -/
def Fault.next (cause : Cause) (rest : List UInt8) : Fault := ⟨cause, rest.length - 1⟩

/-- What comes out of two readings, one after the other, came out of the second. -/
theorem exists_of_bind_eq_ok {Error First Second : Type} {first : Except Error First}
    {next : First → Except Error Second} {result : Second} (found : first >>= next = .ok result) :
    ∃ value, first = .ok value ∧ next value = .ok result := by
  cases first with
  | error error => cases found
  | ok value => exact ⟨value, rfl, found⟩

def lineFeed : UInt8 := 10

/-- Line and column of the place after which `left` bytes of a text follow. -/
def place (text : List UInt8) (left : Nat) : Nat × Nat :=
  let read := text.take (text.length - left)
  (read.count lineFeed + 1, (read.reverse.takeWhile (· != lineFeed)).length)

def Fault.message (text : List UInt8) (fault : Fault) : String :=
  let (line, column) := place text fault.left
  s!"{fault.cause.message} at line {line} column {column}"

end LoadTest.Json
