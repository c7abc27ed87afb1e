import LoadTest.Stats.Basic

/-!
The order in which metrics are counted does not matter.

Counting changes what is held under a few keys.  Two such changes commute if they do where they
meet at one key (`SortedMap.alter_comm`).
-/

namespace LoadTest

namespace SortedMap

variable {Key Value : Type} [Ord Key] [Std.TransOrd Key] [Std.LawfulEqOrd Key] [DecidableEq Key]

theorem alter_comm (map : SortedMap Key Value) (key other : Key)
    (first second : Option Value → Value)
    (commute : ∀ held, second (some (first held)) = first (some (second held))) :
    (map.alter key first).alter other second = (map.alter other second).alter key first := by
  apply SortedMap.ext
  intro any
  by_cases same : key = other
  · subst same
    by_cases here : any = key
    · simp [here, commute]
    · simp [here]
  · have apart : other ≠ key := Ne.symm same
    by_cases here : any = key
    · simp [here, same]
    · by_cases there : any = other
      · simp [there, apart]
      · simp [here, there]

end SortedMap

theorem Histogram.record_comm (histogram : Histogram) (first second : Nat) :
    (histogram.record first).record second = (histogram.record second).record first := by
  have bins := histogram.bins.alter_comm (Bin.low first) (Bin.low second) (·.getD 0 + 1)
    (·.getD 0 + 1) fun _ => rfl
  simp only [record, bins, Nat.min_right_comm, Nat.max_right_comm]

namespace StepStats

theorem record_comm (stats : StepStats) (first second : Outcome)
    (latency other : Duration) :
    (stats.record first latency).record second other =
      (stats.record second other).record first latency := by
  have latencies := stats.latencies.record_comm (sampleOf latency) (sampleOf other)
  cases first with
  | ok => cases second <;> simp [record, latencies]
  | ko reason =>
      cases second with
      | ok => simp [record, latencies]
      | ko cause =>
          have errors := stats.errors.alter_comm reason cause (·.getD 0 + 1) (·.getD 0 + 1)
            fun _ => rfl
          simp only [record, latencies, errors]

end StepStats

namespace Stats

theorem consume_comm (stats : Stats) (first second : Metric) :
    (stats.consume first).consume second = (stats.consume second).consume first := by
  have steps := stats.steps.alter_comm first.step second.step
    (fun held => (held.getD .empty).record first.outcome first.latency)
    (fun held => (held.getD .empty).record second.outcome second.latency)
    fun held => StepStats.record_comm ..
  have global := stats.global.record_comm first.outcome second.outcome first.latency second.latency
  simp only [consume, steps, global]

theorem ofMetrics_perm {first second : List Metric} (perm : first.Perm second) :
    ofMetrics first = ofMetrics second :=
  perm.foldl_eq' (fun _ _ _ _ stats => consume_comm stats _ _) empty

end Stats

end LoadTest
