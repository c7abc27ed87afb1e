import LoadTest.Check

/-!
Requests as a scenario declares them, and as they are sent.

`Request.prepare` renders the path, then the headers of the protocol, then those of the
request, then the body, against a session; the first missing variable stops it.  Headers
of one name (up to ASCII case) become one: it keeps the place and the spelling of the
first and takes the value of the last.
-/

namespace LoadTest

inductive Method where
  | get
  | post
  | put
  | patch
  | delete
  | head
  | options
  deriving DecidableEq

def Method.text : Method → String
  | .get => "GET"
  | .post => "POST"
  | .put => "PUT"
  | .patch => "PATCH"
  | .delete => "DELETE"
  | .head => "HEAD"
  | .options => "OPTIONS"

def Method.all : List Method := [.get, .post, .put, .patch, .delete, .head, .options]

def Method.ofText? (text : String) : Option Method := Method.all.find? (·.text == text)

/-- What all requests of a run share. -/
structure Protocol where
  baseUrl : String
  headers : List (String × Template)

namespace Protocol

def isAbsolute (path : String) : Bool :=
  "http://".isPrefixOf path || "https://".isPrefixOf path

/-- A path joined to the base by one slash; an absolute address stays as it is. -/
def urlFor (protocol : Protocol) (path : String) : String :=
  if isAbsolute path then path
  else
    let base := String.ofList
      (protocol.baseUrl.toList.reverse.dropWhile (· == '/')).reverse
    let path := String.ofList (path.toList.dropWhile (· == '/'))
    if path.isEmpty then base else base ++ "/" ++ path

end Protocol

inductive Body where
  | template (template : Template)
  | raw (bytes : List UInt8)

structure Request where
  name : Template
  method : Method
  path : Template
  headers : List (String × Template) := []
  body : Option Body := none
  checks : List Check := []

/-- A request with nothing left to fill in. -/
structure PreparedRequest where
  method : Method
  url : String
  headers : List (String × String)
  body : Option (List UInt8)
  deriving DecidableEq

def PreparedRequest.header? (request : PreparedRequest) (name : String) : Option String :=
  findHeader? name request.headers

/-- Gives a header a value: the first of its name takes it, or a new one is added at the end. -/
def putHeader (headers : List (String × String)) (name value : String) : List (String × String) :=
  match headers with
  | [] => [(name, value)]
  | (other, held) :: rest =>
      if Text.sameIgnoringCase other name then (other, value) :: rest
      else (other, held) :: putHeader rest name value

namespace Request

def addHeader (request : Request) (name : String) (value : Template) : Request :=
  { request with headers := request.headers ++ [(name, value)] }

def contentType : String := "Content-Type"

/-- Declares the body to be JSON, unless a content type is declared already. -/
def asJson (request : Request) : Request :=
  if (findHeader? contentType request.headers).isSome then request
  else request.addHeader contentType ⟨"application/json"⟩

def hasStatusCheck (request : Request) : Bool := request.checks.any Check.isStatusCheck

/-- The declared checks, with the implicit check in front if none of them looks at the status. -/
def effectiveChecks (request : Request) : List Check :=
  if request.hasStatusCheck then request.checks else Check.implicitStatus :: request.checks

/-- The name that outcomes are counted under: as declared, where a variable is missing. -/
def displayName (request : Request) (session : Session) : String :=
  match request.name.render session with
  | .ok name => name
  | .error _ => request.name.source

def renderHeader (session : Session) (header : String × Template) :
    Except Unresolved (String × String) := do
  return (header.1, ← header.2.render session)

def renderBody (session : Session) : Option Body → Except Unresolved (Option (List UInt8))
  | none => .ok none
  | some (.raw bytes) => .ok (some bytes)
  | some (.template template) => do
      return some (Text.Utf8.encode (← template.render session))

def mergeHeaders (headers : List (String × String)) : List (String × String) :=
  headers.foldl (fun merged header => putHeader merged header.1 header.2) []

def prepare (request : Request) (protocol : Protocol) (session : Session) :
    Except Unresolved PreparedRequest := do
  let path ← request.path.render session
  let headers ← (protocol.headers ++ request.headers).mapM (renderHeader session)
  let body ← renderBody session request.body
  return ⟨request.method, protocol.urlFor path, mergeHeaders headers, body⟩

end Request

end LoadTest
