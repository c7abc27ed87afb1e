import LoadTest.Json.Document
import LoadTest.Random
import LoadTest.StepError
import LoadTest.Text.Quoted

/-!
Feeders hand out records to all users of a run.

A feeder is a value: a draw gives a record, or fails, or crashes the user that makes it, together
with the feeder as it is afterwards.  A feeder over records follows a strategy and fails only when
there is no record left; a generator makes its `k`-th record from `k` and never ends.  A feeder of
another making may answer its `k`-th draw in any way.
-/

namespace LoadTest

inductive Strategy where
  /-- Each record once, in order. -/
  | queue
  /-- The records in order, over and over. -/
  | circular
  /-- Any record at every draw. -/
  | random
  /-- Each record once, in an order chosen at the start. -/
  | shuffle
  deriving DecidableEq

def Strategy.text : Strategy → String
  | .queue => "Queue"
  | .circular => "Circular"
  | .random => "Random"
  | .shuffle => "Shuffle"

structure RecordFeeder where
  name : String
  records : List Record
  strategy : Strategy
  /-- How many draws were made, modulo `2 ^ 64`. -/
  cursor : UInt64
  supply : Random

namespace RecordFeeder

def new (name : String) (records : List Record) (strategy : Strategy) (supply : Random) :
    RecordFeeder :=
  match strategy with
  | .shuffle => ⟨name, supply.shuffle records, strategy, 0, supply⟩
  | _ => ⟨name, records, strategy, 0, supply⟩

/-- The place of the record that the next draw gives, if there is one. -/
def place (feeder : RecordFeeder) : Nat :=
  match feeder.strategy with
  | .queue | .shuffle => feeder.cursor.toNat
  | .circular => feeder.cursor.toNat % feeder.records.length
  | .random => (feeder.supply.below feeder.records.length).1

def advance (feeder : RecordFeeder) : RecordFeeder :=
  match feeder.strategy with
  | .random => { feeder with supply := (feeder.supply.below feeder.records.length).2 }
  | _ => { feeder with cursor := feeder.cursor + 1 }

def next (feeder : RecordFeeder) : Except Exhausted Record × RecordFeeder :=
  if feeder.records.isEmpty then (.error ⟨feeder.name⟩, feeder)
  else
    match feeder.records[feeder.place]? with
    | some record => (.ok record, feeder.advance)
    | none => (.error ⟨feeder.name⟩, feeder.advance)

def text (feeder : RecordFeeder) : String :=
  "RecordFeeder \x7b name: " ++ Text.quoted feeder.name ++ ", records: " ++
    toString feeder.records.length ++ ", strategy: " ++ feeder.strategy.text ++ " \x7d"

end RecordFeeder

structure GeneratorFeeder where
  name : String
  /-- Makes a record, or crashes the user that draws it. -/
  generate : Nat → Option Record
  /-- How many draws were made. -/
  drawn : Nat

namespace GeneratorFeeder

def next (feeder : GeneratorFeeder) : Option Record × GeneratorFeeder :=
  (feeder.generate feeder.drawn, { feeder with drawn := feeder.drawn + 1 })

def text (feeder : GeneratorFeeder) : String :=
  "GeneratorFeeder \x7b name: " ++ Text.quoted feeder.name ++ ", .. \x7d"

end GeneratorFeeder

/-- A feeder of another making. -/
structure OtherFeeder where
  name : String
  text : String
  /-- Gives a record, fails, or crashes the user that draws. -/
  answer : Nat → Option (Except StepError Record)
  /-- How many draws were made. -/
  drawn : Nat

def OtherFeeder.next (feeder : OtherFeeder) : Option (Except StepError Record) × OtherFeeder :=
  (feeder.answer feeder.drawn, { feeder with drawn := feeder.drawn + 1 })

inductive Feeder where
  | ofRecords (feeder : RecordFeeder)
  | ofGenerator (feeder : GeneratorFeeder)
  | other (feeder : OtherFeeder)

namespace Feeder

def name : Feeder → String
  | .ofRecords feeder => feeder.name
  | .ofGenerator feeder => feeder.name
  | .other feeder => feeder.name

/-- A draw; one that gives nothing at all crashes the user that makes it. -/
def next : Feeder → Option (Except StepError Record) × Feeder
  | .ofRecords feeder =>
      let (drawn, feeder) := feeder.next
      (some (drawn.mapError .exhausted), .ofRecords feeder)
  | .ofGenerator feeder =>
      let (record, feeder) := feeder.next
      (record.map .ok, .ofGenerator feeder)
  | .other feeder =>
      let (drawn, feeder) := feeder.next
      (drawn, .other feeder)

/-- The results of some draws, and the feeder after them. -/
def draws : Nat → Feeder → List (Option (Except StepError Record)) × Feeder
  | 0, feeder => ([], feeder)
  | count + 1, feeder =>
      let (drawn, feeder) := feeder.next
      let (later, feeder) := draws count feeder
      (drawn :: later, feeder)

def text : Feeder → String
  | .ofRecords feeder => feeder.text
  | .ofGenerator feeder => feeder.text
  | .other feeder => feeder.text

end Feeder

/-- The record that a JSON object is. -/
def Record.ofJson? : Json → Option Record
  | .object fields => some (SortedMap.ofList fields)
  | _ => none

/-- The records of a JSON array of objects. -/
def Record.listOfText? (text : String) : Option (List Record) :=
  match Json.read (Text.Utf8.encode text) with
  | .ok (.array items) => items.mapM Record.ofJson?
  | _ => none

end LoadTest
