import LoadTest.Http.Request

/-!
Transports: who answers requests, and how long it takes.

A transport is its state and a function that answers one request of one user.  A script is
a transport that goes by rules: the first rule that fits a request answers it, each user's
requests in turn, and the last answer of a rule over and over.
-/

namespace LoadTest

/-- A response or an error, and the time it takes to come. -/
structure Reply where
  delay : Duration
  outcome : Except TransportError Response

structure Transport (State : Type) where
  send : State → Nat → PreparedRequest → Reply × State

namespace Script

structure Answer where
  reply : Reply
  /-- Whether the response brings back the body of the request. -/
  echoes : Bool

structure Rule where
  method : Option String
  url : Option String
  /-- What the address starts with. -/
  urlStart : Option String
  answers : List Answer

def Rule.fits (rule : Rule) (request : PreparedRequest) : Bool :=
  rule.method.all (· == request.method.text) && rule.url.all (· == request.url) &&
    rule.urlStart.all fun start => start.isPrefixOf request.url

def emptyResponse : Response := ⟨200, [], [], .zero⟩

def silentAnswer : Answer := ⟨⟨.zero, .ok emptyResponse⟩, false⟩

/-- How many requests of a user a rule has answered. -/
abbrev Progress := SortedMap Nat (SortedMap Nat Nat)

def Answer.to (answer : Answer) (request : PreparedRequest) : Reply :=
  match answer.reply.outcome with
  | .ok response =>
      if answer.echoes then
        ⟨answer.reply.delay, .ok { response with body := request.body.getD [] }⟩
      else answer.reply
  | .error _ => answer.reply

def transport (rules : List Rule) : Transport Progress where
  send progress user request :=
    match rules.findIdx? (·.fits request) with
    | none => (silentAnswer.to request, progress)
    | some index =>
        let answers := (rules[index]?.map Rule.answers).getD []
        let counts := (progress.get? user).getD ∅
        let count := (counts.get? index).getD 0
        let answer := (answers[count]?.or answers.getLast?).getD silentAnswer
        (answer.to request, progress.insert user (counts.insert index (count + 1)))

end Script

end LoadTest
