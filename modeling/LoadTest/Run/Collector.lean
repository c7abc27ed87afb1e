import LoadTest.Stats.Basic

/-!
The task that adds up the metrics of a run and publishes snapshots of the sum.

Metrics come through a queue and are taken from it in batches, before anything else is
done.  A snapshot is published at regular times, and a last one when no more metrics can
come.
-/

namespace LoadTest

structure Collector where
  stats : Stats
  /-- The latest snapshot. -/
  published : Stats

namespace Collector

def start : Collector := ⟨.empty, .empty⟩

/-- How many metrics a batch takes at most.  One is taken in any case. -/
def batchSize : Nat := 256

/-- Takes a batch from the front of a queue; gives what is left of it. -/
def receive (collector : Collector) (size : Nat) (queue : List Metric) :
    Collector × List Metric :=
  let count := max 1 size
  ({ collector with stats := collector.stats.consumeAll (queue.take count) }, queue.drop count)

def publish (collector : Collector) : Collector :=
  { collector with published := collector.stats }

end Collector

end LoadTest
