import LoadTest.Http.Request
import LoadTest.Proofs.Template
import Mathlib.Data.List.Induction
import Mathlib.Data.List.Forall2

/-!
What a request is sent as.

Preparing looks up the variables of the path, then those of the headers, of the protocol before those
of the request, then those of the body (`Request.resolves_prepare`).  Headers are merged one after
another, and after each of them those so far stand once for each name, where and as it was declared
first, with the value it was declared with last (`Merges.putHeader`, `merges_mergeHeaders`).
-/

namespace LoadTest

/-! ### Merging headers -/

section Headers

variable {headers declared merged : List (String × String)} {name other value : String}

/-- The names that are like no earlier one, each as it is spelled first. -/
def firstSpellings : List String → List String
  | [] => []
  | name :: names => name :: (firstSpellings names).filter (!Text.sameIgnoringCase name ·)

/-- The value that a name is declared with last. -/
def lastValue? (name : String) (declared : List (String × String)) : Option String :=
  (declared.reverse.find? fun header => Text.sameIgnoringCase header.1 name).map (·.2)

theorem pairwise_firstSpellings (names : List String) :
    (firstSpellings names).Pairwise fun first second =>
      Text.sameIgnoringCase first second = false := by
  induction names with
  | nil => exact List.Pairwise.nil
  | cons name names inductionHypothesis =>
      refine List.pairwise_cons.2 ⟨?_, inductionHypothesis.filter _⟩
      intro second member
      simpa using (List.mem_filter.1 member).2

theorem firstSpellings_concat (names : List String) (name : String) :
    firstSpellings (names ++ [name]) =
      if names.any (Text.sameIgnoringCase · name) then firstSpellings names
      else firstSpellings names ++ [name] := by
  induction names with
  | nil => rfl
  | cons first names inductionHypothesis =>
      rw [List.cons_append, firstSpellings, inductionHypothesis, List.any_cons]
      by_cases later : names.any (Text.sameIgnoringCase · name) = true
      · rw [if_pos later, if_pos (by rw [later, Bool.or_true]), firstSpellings]
      · by_cases here : Text.sameIgnoringCase first name = true
        · simp [later, here, firstSpellings]
        · simp [later, here, firstSpellings]

theorem lastValue?_concat :
    lastValue? other (declared ++ [(name, value)]) =
      if Text.sameIgnoringCase name other then some value else lastValue? other declared := by
  rw [lastValue?, List.reverse_append, List.reverse_singleton, List.singleton_append,
    List.find?_cons]
  by_cases same : Text.sameIgnoringCase name other = true
  · simp [same]
  · simp [same, lastValue?]

theorem isSome_lastValue? :
    (lastValue? name declared).isSome =
      (declared.map (·.1)).any (Text.sameIgnoringCase · name) := by
  rw [lastValue?, Option.isSome_map, Bool.eq_iff_iff, List.find?_isSome]
  simp

theorem isSome_findHeader? :
    (findHeader? name headers).isSome =
      (headers.map (·.1)).any (Text.sameIgnoringCase · name) := by
  induction headers with
  | nil => rfl
  | cons header headers inductionHypothesis =>
      rw [findHeader?, List.map_cons, List.any_cons]
      split
      next same => rw [same, Bool.true_or, Option.isSome_some]
      next differs => rw [inductionHypothesis, Bool.eq_false_iff.2 differs, Bool.false_or]

theorem findHeader?_putHeader :
    findHeader? other (putHeader headers name value) =
      if Text.sameIgnoringCase name other then some value else findHeader? other headers := by
  induction headers with
  | nil => rfl
  | cons header headers inductionHypothesis =>
      obtain ⟨first, held⟩ := header
      rw [putHeader]
      split
      next same =>
        rw [findHeader?, findHeader?, Text.sameIgnoringCase_congr same other]
        split <;> rfl
      next differs =>
        rw [findHeader?, findHeader?, inductionHypothesis]
        -- A header that is like the name looked up is not like the one that is put.
        by_cases here : Text.sameIgnoringCase first other = true
        · have apart : Text.sameIgnoringCase name other = false := by
            rw [Text.sameIgnoringCase_congr here, Text.sameIgnoringCase_comm] at differs
            exact Bool.eq_false_iff.2 differs
          simp [here, apart]
        · simp [here]

theorem map_putHeader :
    (putHeader headers name value).map (·.1) =
      if (headers.map (·.1)).any (Text.sameIgnoringCase · name) then headers.map (·.1)
      else headers.map (·.1) ++ [name] := by
  induction headers with
  | nil => rfl
  | cons header headers inductionHypothesis =>
      obtain ⟨first, held⟩ := header
      rw [putHeader, List.map_cons, List.any_cons]
      split
      next same => simp [same]
      next differs =>
        rw [List.map_cons, inductionHypothesis, Bool.eq_false_iff.2 differs, Bool.false_or]
        split <;> rfl

/-- What headers come to that are declared one after another. -/
structure Merges (declared merged : List (String × String)) : Prop where
  names : merged.map (·.1) = firstSpellings (declared.map (·.1))
  values : ∀ name, findHeader? name merged = lastValue? name declared

theorem Merges.putHeader (merges : Merges declared merged) (name value : String) :
    Merges (declared ++ [(name, value)]) (putHeader merged name value) where
  names := by
    have known : (merged.map (·.1)).any (Text.sameIgnoringCase · name) =
        (declared.map (·.1)).any (Text.sameIgnoringCase · name) := by
      rw [← isSome_findHeader?, merges.values, isSome_lastValue?]
    rw [map_putHeader, known, merges.names, List.map_append, List.map_singleton,
      firstSpellings_concat]
  values other := by
    rw [findHeader?_putHeader, merges.values, lastValue?_concat]

theorem merges_mergeHeaders (declared : List (String × String)) :
    Merges declared (Request.mergeHeaders declared) := by
  induction declared using List.reverseRecOn with
  | nil => exact ⟨rfl, fun _ => rfl⟩
  | append_singleton declared header inductionHypothesis =>
      rw [Request.mergeHeaders, List.foldl_append]
      exact inductionHypothesis.putHeader header.1 header.2

theorem Merges.pairwise (merges : Merges declared merged) :
    merged.Pairwise fun first second => Text.sameIgnoringCase first.1 second.1 = false := by
  have distinct := pairwise_firstSpellings (declared.map (·.1))
  rw [← merges.names] at distinct
  exact List.pairwise_map.1 distinct

end Headers

/-! ### Preparing -/

namespace Request

variable {request : Request} {protocol : Protocol} {session : Session}

/-- The names in a body that is filled. -/
def bodyNames : Option Body → List String
  | some (.template template) => template.names
  | _ => []

/-- The names in what is sent, in the order in which they are looked up. -/
def names (request : Request) (protocol : Protocol) : List String :=
  request.path.names ++ ((protocol.headers ++ request.headers).flatMap (·.2.names) ++
    bodyNames request.body)

theorem resolves_renderHeader (header : String × Template) :
    session.Resolves header.2.names (renderHeader session header) :=
  (header.2.resolves_render session).map (header.1, ·)

theorem resolves_renderBody (body : Option Body) :
    session.Resolves (bodyNames body) (renderBody session body) := by
  cases body with
  | none => exact Session.resolves_ok none
  | some body =>
      cases body with
      | raw bytes => exact Session.resolves_ok (some bytes)
      | template template =>
          exact (template.resolves_render session).map fun text => some (Text.Utf8.encode text)

theorem resolves_prepare (request : Request) (protocol : Protocol) (session : Session) :
    session.Resolves (request.names protocol) (request.prepare protocol session) := by
  apply (request.path.resolves_render session).bind
  intro path _
  apply (Session.resolves_mapM resolves_renderHeader _).bind
  intro headers _
  exact (resolves_renderBody request.body).map
    (PreparedRequest.mk request.method (protocol.urlFor path) (mergeHeaders headers))

/-- A header is declared with the text that its template is filled to. -/
structure Declares (session : Session) (header : String × Template) (given : String × String) :
    Prop where
  name : given.1 = header.1
  value : header.2.render session = .ok given.2

theorem declares_of_mapM {headers : List (String × Template)} {declared : List (String × String)}
    (rendered : headers.mapM (renderHeader session) = .ok declared) :
    List.Forall₂ (Declares session) headers declared := by
  induction headers generalizing declared with
  | nil =>
      cases rendered
      exact .nil
  | cons header headers inductionHypothesis =>
      rw [List.mapM_cons] at rendered
      obtain ⟨given, first, rendered⟩ := Json.exists_of_bind_eq_ok rendered
      obtain ⟨others, rest, together⟩ := Json.exists_of_bind_eq_ok rendered
      obtain ⟨value, filled, named⟩ := Json.exists_of_bind_eq_ok first
      cases named
      cases together
      exact .cons ⟨rfl, filled⟩ (inductionHypothesis rest)

theorem map_names_of_declares {headers : List (String × Template)}
    {declared : List (String × String)} (given : List.Forall₂ (Declares session) headers declared) :
    declared.map (·.1) = headers.map (·.1) := by
  induction given with
  | nil => rfl
  | cons first _ inductionHypothesis =>
      rw [List.map_cons, List.map_cons, first.name, inductionHypothesis]

/-- What is sent in the place of a body: nothing, the bytes that it holds, or the text that it is
filled to. -/
inductive SentBody (session : Session) : Option Body → Option (List UInt8) → Prop
  | absent : SentBody session none none
  | raw (bytes : List UInt8) : SentBody session (some (.raw bytes)) (some bytes)
  | filled {template : Template} {text : String} :
      template.render session = .ok text →
      SentBody session (some (.template template)) (some (Text.Utf8.encode text))

theorem sentBody_of_renderBody {body : Option Body} {sent : Option (List UInt8)}
    (rendered : renderBody session body = .ok sent) : SentBody session body sent := by
  cases body with
  | none =>
      cases rendered
      exact .absent
  | some body =>
      cases body with
      | raw bytes =>
          cases rendered
          exact .raw bytes
      | template template =>
          obtain ⟨text, filled, same⟩ := Json.exists_of_bind_eq_ok rendered
          cases same
          exact .filled filled

/-- Preparing fails with the first name that the session does not hold, and with nothing else.  What
is sent has every header once, where and as it is declared first, with the value that is declared
last; the headers of the request are declared after those of the protocol. -/
theorem prepare_merges (request : Request) (protocol : Protocol) (session : Session) :
    (∀ missing, request.prepare protocol session = .error missing ↔
      (request.names protocol).find? (fun name => !session.contains name) = some missing.name) ∧
    ((∃ prepared, request.prepare protocol session = .ok prepared) ↔
      ∀ name ∈ request.names protocol, session.contains name = true) ∧
    ∀ prepared, request.prepare protocol session = .ok prepared →
      prepared.method = request.method ∧
      (∃ path, request.path.render session = .ok path ∧ prepared.url = protocol.urlFor path) ∧
      SentBody session request.body prepared.body ∧
      (prepared.headers.Pairwise fun first second =>
        Text.sameIgnoringCase first.1 second.1 = false) ∧
      prepared.headers.map (·.1) =
        firstSpellings ((protocol.headers ++ request.headers).map (·.1)) ∧
      ∃ declared : List (String × String),
        List.Forall₂ (Declares session) (protocol.headers ++ request.headers) declared ∧
        ∀ name, prepared.header? name = lastValue? name declared := by
  have resolves := request.resolves_prepare protocol session
  refine ⟨resolves, resolves.exists_ok_iff, ?_⟩
  intro prepared ready
  obtain ⟨path, located, ready⟩ := Json.exists_of_bind_eq_ok ready
  obtain ⟨declared, rendered, ready⟩ := Json.exists_of_bind_eq_ok ready
  obtain ⟨body, sent, ready⟩ := Json.exists_of_bind_eq_ok ready
  cases ready
  have given := declares_of_mapM rendered
  have merges := merges_mergeHeaders declared
  refine ⟨rfl, ⟨path, located, rfl⟩, sentBody_of_renderBody sent, merges.pairwise, ?_, declared,
    given, merges.values⟩
  rw [← map_names_of_declares given]
  exact merges.names

def greeting : Request where
  name := ⟨"greeting"⟩
  method := .post
  path := ⟨"/greeting"⟩
  headers := [("X-Guest", ⟨"#\x7bguest\x7d"⟩), ("ACCEPT", ⟨"text/plain"⟩)]
  body := some (.raw [35, 123, 125])

/-- The request asks for text in capitals, after the protocol has asked for anything. -/
theorem prepare_merges_greeting :
    let defaults : Protocol := ⟨"http://localhost", [("Accept", ⟨"*/*"⟩)]⟩
    let session := (Session.forUser 7).set "guest" (.string "Ada")
    (∀ name ∈ greeting.names defaults, session.contains name = true) ∧
      ∃ prepared, greeting.prepare defaults session = .ok prepared ∧
        prepared.headers.map (·.1) = ["Accept", "X-Guest"] ∧
        prepared.header? "accept" = some "text/plain" ∧
        prepared.body = some [35, 123, 125] := by
  intro defaults session
  obtain ⟨-, succeeds, merged⟩ := prepare_merges greeting defaults session
  have held : ∀ name ∈ greeting.names defaults, session.contains name = true := by
    decide +kernel
  obtain ⟨prepared, ready⟩ := succeeds.2 held
  obtain ⟨-, -, body, -, names, declared, given, values⟩ := merged prepared ready
  refine ⟨held, prepared, ready, names.trans (by decide), ?_, ?_⟩
  · have plain : (Template.render ⟨"text/plain"⟩ session).toOption = some "text/plain" := by
      decide +kernel
    rcases given with _ | ⟨-, _ | ⟨-, _ | ⟨last, ⟨⟩⟩⟩⟩
    rw [last.value] at plain
    have alike : Text.sameIgnoringCase "ACCEPT" "accept" = true := by decide
    rw [values]
    simp [lastValue?, last.name, alike, Option.some.inj plain]
  · generalize prepared.body = sent at body
    cases body
    rfl

end Request

end LoadTest
