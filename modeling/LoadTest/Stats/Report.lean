import LoadTest.Decimal.Notation
import LoadTest.Json.Fields
import LoadTest.Stats.Basic

/-!
The figures of a run: one row a step in order of names, and one row for all of it.

A report is shown as a table, or written as JSON and read back from it.
-/

namespace LoadTest

/-- The figures of one step; times in milliseconds. -/
structure StepReport (α : Type) where
  name : String
  total : Nat
  ok : Nat
  ko : Nat
  koPercent : α
  minimum : α
  mean : α
  p50 : α
  p75 : α
  p95 : α
  p99 : α
  maximum : α
  errors : SortedMap String Nat

structure Report (α : Type) where
  global : StepReport α
  steps : List (StepReport α)

section

variable {α : Type} [Scalar α]

def StepReport.ofStats (name : String) (stats : StepStats) : StepReport α where
  name
  total := stats.total
  ok := stats.ok
  ko := stats.ko
  koPercent := stats.koPercent
  minimum := stats.minimum
  mean := stats.mean
  p50 := stats.percentile (Scalar.ofNat 50)
  p75 := stats.percentile (Scalar.ofNat 75)
  p95 := stats.percentile (Scalar.ofNat 95)
  p99 := stats.percentile (Scalar.ofNat 99)
  maximum := stats.maximum
  errors := stats.errors

def StepReport.okPercent (report : StepReport α) : α :=
  if report.total = 0 then Scalar.ofNat 0 else Scalar.ofNat 100 - report.koPercent

def Report.ofStats (stats : Stats) : Report α where
  global := .ofStats "Global" stats.global
  steps := stats.steps.toList.map fun (name, stats) => .ofStats name stats

omit [Scalar α] in
/-- The first row of a name. -/
def Report.step? (report : Report α) (name : String) : Option (StepReport α) :=
  report.steps.find? (·.name == name)

end

/-! ### Table -/

def padStart (width : Nat) (text : String) : String :=
  String.ofList (List.replicate (width - text.length) ' ') ++ text

def padEnd (width : Nat) (text : String) : String :=
  text ++ String.ofList (List.replicate (width - text.length) ' ')

namespace StepReport

def millis (number : Float) : String := padStart 7 (Decimal.fixed 1 number) ++ "ms"

/-- The cells of a row behind its name. -/
def cells (report : StepReport Float) : List String :=
  [padStart 8 (toString report.total), padStart 8 (toString report.ok),
   padStart 8 (toString report.ko), padStart 6 (Decimal.fixed 2 report.koPercent) ++ "%",
   millis report.mean, millis report.p50, millis report.p95, millis report.p99,
   millis report.maximum]

def line (width : Nat) (report : StepReport Float) : String :=
  " ".intercalate (padEnd width report.name :: report.cells) ++ "\n"

end StepReport

namespace Report

/-- The width of the column of names: the most bytes that a name takes. -/
def nameWidth (report : Report Float) : Nat :=
  (report.steps.map (·.name.utf8ByteSize)).foldl max report.global.name.utf8ByteSize

def titles : List (Nat × String) :=
  [(8, "Total"), (8, "OK"), (8, "KO"), (7, "KO%"), (9, "Mean"), (9, "p50"), (9, "p95"),
   (9, "p99"), (9, "Max")]

def heading (width : Nat) : String :=
  " ".intercalate (padEnd width "Request" :: titles.map fun title => padStart title.1 title.2) ++
    "\n"

def errorLine (error : String × Nat) : String :=
  "  " ++ padStart 6 (toString error.2) ++ "  " ++ error.1 ++ "\n"

def table (report : Report Float) : String :=
  let width := report.nameWidth
  let rows := (report.steps ++ [report.global]).map (StepReport.line width)
  let errors := report.global.errors.toList.map errorLine
  heading width ++ String.join rows ++
    (if errors.isEmpty then "" else "\nErrors:\n" ++ String.join errors)

end Report

/-! ### JSON -/

namespace StepReport

def fieldNames : List String :=
  ["name", "total", "ok", "ko", "ko_percent", "min_ms", "mean_ms", "p50_ms", "p75_ms", "p95_ms",
   "p99_ms", "max_ms", "errors"]

def jsonText (report : StepReport Float) : String :=
  Json.objectText <| fieldNames.zip
    [Json.quoted report.name, toString report.total, toString report.ok, toString report.ko,
     Decimal.dataText report.koPercent, Decimal.dataText report.minimum,
     Decimal.dataText report.mean, Decimal.dataText report.p50, Decimal.dataText report.p75,
     Decimal.dataText report.p95, Decimal.dataText report.p99, Decimal.dataText report.maximum,
     Json.objectText (report.errors.toList.map fun (reason, count) => (reason, toString count))]

def ofDocument? (document : Json.Document) : Option (StepReport Float) := do
  let fields ← document.fields? fieldNames
  let count (name : String) := fields.decode name Json.Document.count?
  let figure (name : String) := fields.decode name Json.Document.float?
  return {
    name := ← fields.decode "name" Json.Document.string?
    total := ← count "total"
    ok := ← count "ok"
    ko := ← count "ko"
    koPercent := ← figure "ko_percent"
    minimum := ← figure "min_ms"
    mean := ← figure "mean_ms"
    p50 := ← figure "p50_ms"
    p75 := ← figure "p75_ms"
    p95 := ← figure "p95_ms"
    p99 := ← figure "p99_ms"
    maximum := ← figure "max_ms"
    errors := ← fields.decode "errors" (Json.Document.map? Json.Document.count?) }

end StepReport

namespace Report

def jsonText (report : Report Float) : String :=
  Json.objectText
    [("global", report.global.jsonText),
     ("steps", Json.arrayText (report.steps.map StepReport.jsonText))]

def ofDocument? (document : Json.Document) : Option (Report Float) := do
  let fields ← document.fields? ["global", "steps"]
  let rows (document : Json.Document) : Option (List (StepReport Float)) :=
    document.items?.bind fun items => items.mapM StepReport.ofDocument?
  return ⟨← fields.decode "global" StepReport.ofDocument?, ← fields.decode "steps" rows⟩

def ofJsonText? (text : String) : Option (Report Float) :=
  (Json.Document.ofText? text).bind ofDocument?

end Report

end LoadTest
