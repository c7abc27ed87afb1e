import LoadTest.Stats.Histogram
import LoadTest.Stats.Metric

/-!
Counts, failure reasons and latencies of the steps of a run.

`Stats.consume` counts a metric for its step and for the run as a whole.  The figures are
computed from what was counted, times in milliseconds and shares in percent.
-/

namespace LoadTest

structure StepStats where
  ok : Nat
  ko : Nat
  /-- Whole microseconds. -/
  latencies : Histogram
  /-- How often each reason for a failure occurred. -/
  errors : SortedMap String Nat
  deriving DecidableEq

namespace StepStats

def empty : StepStats := ⟨0, 0, .empty, ∅⟩

instance : Inhabited StepStats := ⟨empty⟩

def total (stats : StepStats) : Nat := stats.ok + stats.ko

/-- The sample that a latency is counted as. -/
def sampleOf (latency : Duration) : Nat := min latency.micros maxCount

def record (stats : StepStats) (outcome : Outcome) (latency : Duration) : StepStats :=
  let latencies := stats.latencies.record (sampleOf latency)
  match outcome with
  | .ok => { stats with ok := stats.ok + 1, latencies }
  | .ko reason =>
      { stats with
        ko := stats.ko + 1
        errors := stats.errors.alter reason (·.getD 0 + 1)
        latencies }

variable {α : Type} [Scalar α]

/-- The share of failures. -/
def koPercent (stats : StepStats) : α :=
  if stats.total = 0 then Scalar.ofNat 0
  else Scalar.ofNat stats.ko * Scalar.ofNat 100 / Scalar.ofNat stats.total

/-- A figure in microseconds given in milliseconds; zero where nothing was recorded. -/
def toMillis (stats : StepStats) (micros : α) : α :=
  if stats.latencies.isEmpty then Scalar.ofNat 0 else micros / Scalar.ofNat 1000

/-- The latency that a percentage of all samples does not exceed. -/
def percentile (stats : StepStats) (percent : α) : α :=
  let quantile :=
    Scalar.clamp (Scalar.ofNat 0) (Scalar.ofNat 1) (percent / Scalar.ofNat 100)
  stats.toMillis (Scalar.ofNat (stats.latencies.valueAt quantile))

def minimum (stats : StepStats) : α := stats.toMillis (Scalar.ofNat stats.latencies.lowest)

def mean (stats : StepStats) : α := stats.toMillis stats.latencies.mean

def maximum (stats : StepStats) : α := stats.toMillis (Scalar.ofNat stats.latencies.highest)

end StepStats

structure Stats where
  steps : SortedMap String StepStats
  global : StepStats
  deriving DecidableEq

namespace Stats

def empty : Stats := ⟨∅, .empty⟩

instance : Inhabited Stats := ⟨empty⟩

def step? (stats : Stats) (name : String) : Option StepStats := stats.steps.get? name

def total (stats : Stats) : Nat := stats.global.total

def consume (stats : Stats) (metric : Metric) : Stats where
  steps :=
    stats.steps.alter metric.step fun held =>
      (held.getD .empty).record metric.outcome metric.latency
  global := stats.global.record metric.outcome metric.latency

def consumeAll (stats : Stats) (metrics : List Metric) : Stats := metrics.foldl consume stats

/-- What a list of metrics comes to. -/
def ofMetrics (metrics : List Metric) : Stats := empty.consumeAll metrics

@[simp] theorem consumeAll_nil (stats : Stats) : stats.consumeAll [] = stats := rfl

@[simp] theorem consumeAll_cons (stats : Stats) (metric : Metric) (metrics : List Metric) :
    stats.consumeAll (metric :: metrics) = (stats.consume metric).consumeAll metrics := rfl

theorem consumeAll_append (stats : Stats) (first second : List Metric) :
    stats.consumeAll (first ++ second) = (stats.consumeAll first).consumeAll second :=
  List.foldl_append

end Stats

end LoadTest
