import LoadTest.Proofs.SortedMap
import LoadTest.Proofs.Stats.Totals
import LoadTest.Proofs.Text.ByteOrder
import LoadTest.Stats.Assertion
import LoadTest.Stats.Report

/-!
Assertions read what the report shows.

An assertion looks its step up among the counts, while a report searches its rows for it.  Both
find the same statistics (`Report.row?_ofStats`), and the figures of a row are what the targets of
assertions measure (`StepReport.measure_eq`).
-/

namespace LoadTest

variable {α : Type} [Scalar α]

/-! ### Rows -/

/-- The name that the row of a scope bears. -/
def Scope.label : Scope → String
  | .global => "Global"
  | .step name => name

/-- The row of a scope. -/
def Report.row? (report : Report α) : Scope → Option (StepReport α)
  | .global => some report.global
  | .step name => report.step? name

/-- The figures of a row, each behind what assertions call it. -/
def StepReport.figures (row : StepReport α) : List (Target α × α) :=
  [(.requestCount, Scalar.ofNat row.total), (.failedCount, Scalar.ofNat row.ko),
   (.failedPercent, row.koPercent), (.successfulPercent, row.okPercent),
   (.maxResponseTime, row.maximum), (.meanResponseTime, row.mean),
   (.percentile (Scalar.ofNat 50), row.p50), (.percentile (Scalar.ofNat 75), row.p75),
   (.percentile (Scalar.ofNat 95), row.p95), (.percentile (Scalar.ofNat 99), row.p99)]

theorem StepReport.measure_eq {name : String} {stats : StepStats} {target : Target α} {figure : α}
    (shown : (target, figure) ∈ (StepReport.ofStats name stats).figures) :
    target.measure stats = figure := by
  simp only [figures, List.mem_cons, Prod.mk.injEq, List.not_mem_nil, or_false] at shown
  obtain ⟨rfl, rfl⟩ | ⟨rfl, rfl⟩ | ⟨rfl, rfl⟩ | ⟨rfl, rfl⟩ | ⟨rfl, rfl⟩ | ⟨rfl, rfl⟩ | ⟨rfl, rfl⟩ |
    ⟨rfl, rfl⟩ | ⟨rfl, rfl⟩ | ⟨rfl, rfl⟩ := shown <;> rfl

theorem Report.step?_ofStats (stats : Stats) (name : String) :
    (Report.ofStats stats : Report α).step? name = (stats.step? name).map (.ofStats name) := by
  have found := Ascending.find?_eq stats.steps.ascending name
  calc
    _ = (stats.steps.entries.find? (·.1 == name)).map fun entry => .ofStats entry.1 entry.2 :=
        List.find?_map ..
    _ = _ := by
        rw [found, Option.map_map]
        rfl

theorem Report.row?_ofStats (stats : Stats) (scope : Scope) :
    (Report.ofStats stats : Report α).row? scope =
      (scope.find? stats).map (.ofStats scope.label) := by
  cases scope with
  | global => rfl
  | step name => exact step?_ofStats stats name

theorem Report.steps_ascending (stats : Stats) :
    (Report.ofStats stats : Report α).steps.Pairwise fun first second =>
      Text.Utf8.encode first.name < Text.Utf8.encode second.name := by
  refine List.pairwise_map.2 (stats.steps.ascending.imp fun {first second} before => ?_)
  exact Text.Utf8.encode_lt_encode (compareOfLessAndEq_eq_lt.1 before)

theorem Assertion.passed_eq_false {assertion : Assertion α} {stats : Stats}
    (absent : assertion.scope.find? stats = none) : (assertion.evaluate stats).passed = false := by
  simp [evaluate, absent]

/-- A report shows these metrics, and the assertions over their statistics read it. -/
structure Report.ReadBy (metrics : List Metric) (stats : Stats) (report : Report α) : Prop where
  global_eq : report.global = .ofStats "Global" (.ofMetrics metrics)
  /-- The row of a step shows its own metrics, if it has any. -/
  step?_eq : ∀ name, report.step? name =
    match metrics.filter (·.step == name) with
    | [] => none
    | own => some (.ofStats name (.ofMetrics own))
  /-- Nothing is there to judge exactly where there is no row. -/
  actual_eq_none : ∀ assertion : Assertion α,
    (assertion.evaluate stats).actual = none ↔ report.row? assertion.scope = none
  actual_eq : ∀ scope row, report.row? scope = some row →
    ∀ target figure, (target, figure) ∈ row.figures →
      ∀ bound, (Assertion.evaluate ⟨scope, target, bound⟩ stats).actual = some figure
  ascending : report.steps.Pairwise fun first second =>
    Text.Utf8.encode first.name < Text.Utf8.encode second.name
  distinct : (report.steps.map StepReport.name).Nodup
  /-- No bound holds for a step that never ran. -/
  passed_eq_false : ∀ name, (∀ metric ∈ metrics, metric.step ≠ name) →
    ∀ (target : Target α) (bound : Bound α),
      (Assertion.evaluate ⟨.step name, target, bound⟩ stats).passed = false

/-- A report of what metrics come to has one row a step in the order of names.  Assertions
read its rows. -/
theorem Report.readBy_assertions (metrics : List Metric) :
    (Report.ofStats (.ofMetrics metrics) : Report α).ReadBy metrics (.ofMetrics metrics) := by
  have tells := Stats.tellsOf_ofMetrics metrics
  have ascending := Report.steps_ascending (α := α) (.ofMetrics metrics)
  have global_eq := congrArg (StepReport.ofStats (α := α) "Global") tells.global_eq
  refine ⟨global_eq, fun name => ?_, fun assertion => ?_, ?_, ascending, ?_, ?_⟩
  · rw [step?_ofStats, tells.step?_eq]
    cases metrics.filter (·.step == name) <;> rfl
  · rw [row?_ofStats, Option.map_eq_none_iff]
    exact Option.map_eq_none_iff
  · intro scope row found target figure shown bound
    rw [row?_ofStats, Option.map_eq_some_iff] at found
    obtain ⟨own, held, rfl⟩ := found
    simp [Assertion.evaluate, held, StepReport.measure_eq shown]
  · refine List.pairwise_map.2 (ascending.imp fun {first second} before same => ?_)
    exact absurd before (same ▸ List.lt_irrefl _)
  · intro name never target bound
    have own : metrics.filter (·.step == name) = [] :=
      List.filter_eq_nil_iff.2 fun metric member => by simpa using never metric member
    refine Assertion.passed_eq_false ?_
    rw [Scope.find?, tells.step?_eq, own]

namespace Report

/-- A step that is called like the row of the run as a whole fails, and another one does not. -/
def namesakes : List Metric := [⟨"Global", .ko "refused", .zero⟩, ⟨"login", .ok, .zero⟩]

theorem readBy_assertions_namesakes :
    let stats := Stats.ofMetrics namesakes
    let report : Report Rat := .ofStats stats
    (report.step? "Global").map StepReport.total = some 1 ∧ report.global.total = 2 ∧
      (Assertion.evaluate ⟨.step "Global", .failedCount, .is 1⟩ stats).actual = some (1 : Rat) ∧
      (Assertion.evaluate ⟨.global, .requestCount, .is 2⟩ stats).actual = some (2 : Rat) ∧
      ∀ target bound,
        (Assertion.evaluate (α := Rat) ⟨.step "search", target, bound⟩ stats).passed = false := by
  have read : (Report.ofStats (.ofMetrics namesakes) : Report Rat).ReadBy _ _ :=
    readBy_assertions namesakes
  refine ⟨?_, ?_, ?_, ?_, read.passed_eq_false "search" (by decide)⟩
  · rw [read.step?_eq]
    rfl
  · rw [read.global_eq]
    rfl
  · refine read.actual_eq (.step "Global") _ (read.step?_eq "Global") .failedCount 1 ?_ _
    exact List.mem_cons_of_mem _ List.mem_cons_self
  · exact read.actual_eq .global _ rfl .requestCount 2 List.mem_cons_self _

end Report

end LoadTest
