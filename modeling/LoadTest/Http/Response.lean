import LoadTest.Duration
import LoadTest.Text.Case
import LoadTest.Text.Utf8

/-!
Responses, and looking up headers by name.
-/

namespace LoadTest

/-- The value of the first header of a name, ignoring the case of ASCII letters. -/
def findHeader? {Value : Type} (name : String) : List (String × Value) → Option Value
  | [] => none
  | (other, value) :: rest =>
      if Text.sameIgnoringCase other name then some value else findHeader? name rest

structure Response where
  status : Nat
  headers : List (String × String)
  body : List UInt8
  /-- Time from sending the request to having the whole body; zero if it was not measured. -/
  latency : Duration

namespace Response

def header? (response : Response) (name : String) : Option String :=
  findHeader? name response.headers

/-- The body as text, whatever its bytes. -/
def bodyText (response : Response) : String := Text.Utf8.decodeLossy response.body

end Response

end LoadTest
