import LoadTest.Proofs.Stats.Order

/-!
Steps and the run as a whole.

A figure is additive if every metric adds to it what depends on the metric alone.  Over the
entries of all steps it adds up to what it is for the run as a whole
(`Stats.sumOf_ofMetrics`), and two additive figures that agree on every metric agree on
whatever was recorded (`StepStats.balanced_recordAll`).
-/

namespace LoadTest

/-! ### Sums over the values of a map -/

namespace Ascending

variable {Key Value : Type} [Ord Key]

def sumOf (measure : Value → Nat) : List (Key × Value) → Nat
  | [] => 0
  | entry :: rest => measure entry.2 + sumOf measure rest

theorem sumOf_insert (measure : Value → Nat) (entries : List (Key × Value)) (key : Key)
    (value : Value) :
    sumOf measure (insert key value entries) + (get? key entries).elim 0 measure =
      sumOf measure entries + measure value := by
  induction entries with
  | nil => simp [insert, get?, sumOf]
  | cons head rest inductionHypothesis =>
      obtain ⟨other, held⟩ := head
      cases order : compare key other with
      | lt =>
          simp only [insert, get?, order, sumOf, Option.elim_none]
          omega
      | eq =>
          simp only [insert, get?, order, sumOf, Option.elim_some]
          omega
      | gt =>
          simp only [insert, get?, order, sumOf]
          omega

omit [Ord Key] in
theorem foldl_add (measure : Value → Nat) (entries : List (Key × Value)) (start : Nat) :
    entries.foldl (fun sum entry => sum + measure entry.2) start = start + sumOf measure entries := by
  induction entries generalizing start with
  | nil => rfl
  | cons entry rest inductionHypothesis =>
      rw [List.foldl_cons, inductionHypothesis, sumOf, Nat.add_assoc]

end Ascending

namespace SortedMap

variable {Key Value : Type} [Ord Key]

/-- Adds up a figure of all values. -/
def sumOf (measure : Value → Nat) (map : SortedMap Key Value) : Nat :=
  Ascending.sumOf measure map.entries

@[simp] theorem sumOf_empty (measure : Value → Nat) :
    (∅ : SortedMap Key Value).sumOf measure = 0 := rfl

/-- A sum changes by as much as its summand at the key that is altered. -/
theorem sumOf_alter [Std.TransOrd Key] (measure : Value → Nat) (map : SortedMap Key Value)
    (key : Key) (change : Option Value → Value) :
    (map.alter key change).sumOf measure + (map.get? key).elim 0 measure =
      map.sumOf measure + measure (change (map.get? key)) :=
  Ascending.sumOf_insert ..

/-- Counting one more. -/
theorem sumOf_count [Std.TransOrd Key] (map : SortedMap Key Nat) (key : Key) :
    (map.alter key (·.getD 0 + 1)).sumOf id = map.sumOf id + 1 := by
  have altered := map.sumOf_alter id key (·.getD 0 + 1)
  cases held : map.get? key with
  | none => simpa [held] using altered
  | some count =>
      simp only [held, Option.elim_some, Option.getD_some, id] at altered
      omega

end SortedMap

theorem Histogram.total_eq (histogram : Histogram) :
    histogram.total = histogram.bins.sumOf id := by
  have added := Ascending.foldl_add id histogram.bins.entries 0
  rw [Nat.zero_add] at added
  exact added

@[simp] theorem Histogram.total_empty : Histogram.empty.total = 0 := rfl

@[simp] theorem Histogram.total_record (histogram : Histogram) (sample : Nat) :
    (histogram.record sample).total = histogram.total + 1 := by
  rw [total_eq, total_eq]
  exact histogram.bins.sumOf_count (Bin.low sample)

/-! ### What was recorded -/

namespace StepStats

def recordAll (stats : StepStats) (metrics : List Metric) : StepStats :=
  metrics.foldl (fun stats metric => stats.record metric.outcome metric.latency) stats

/-- The statistics of a list of metrics, whichever steps they are of. -/
def ofMetrics (metrics : List Metric) : StepStats := empty.recordAll metrics

/-- How often a reason for a failure occurred. -/
def countOf (reason : String) (stats : StepStats) : Nat := (stats.errors.get? reason).getD 0

@[simp] theorem recordAll_nil (stats : StepStats) : stats.recordAll [] = stats := rfl

@[simp] theorem recordAll_cons (stats : StepStats) (metric : Metric) (metrics : List Metric) :
    stats.recordAll (metric :: metrics) =
      (stats.record metric.outcome metric.latency).recordAll metrics := rfl

/-- Every reason was counted as a failure, and every outcome has a latency. -/
structure Balanced (stats : StepStats) : Prop where
  errors_eq : stats.errors.sumOf id = stats.ko
  samples_eq : stats.latencies.total = stats.ok + stats.ko

theorem Balanced.record {stats : StepStats} (balanced : stats.Balanced) (outcome : Outcome)
    (latency : Duration) : (stats.record outcome latency).Balanced := by
  have ⟨errors_eq, samples_eq⟩ := balanced
  cases outcome with
  | ok =>
      refine ⟨errors_eq, ?_⟩
      simp only [StepStats.record, Histogram.total_record, samples_eq]
      omega
  | ko reason =>
      refine ⟨?_, ?_⟩
      · simp only [StepStats.record, SortedMap.sumOf_count, errors_eq]
      · simp only [StepStats.record, Histogram.total_record, samples_eq]
        omega

theorem Balanced.recordAll {stats : StepStats} (balanced : stats.Balanced)
    (metrics : List Metric) : (stats.recordAll metrics).Balanced := by
  induction metrics generalizing stats with
  | nil => exact balanced
  | cons metric metrics inductionHypothesis => exact inductionHypothesis (balanced.record ..)

theorem balanced_ofMetrics (metrics : List Metric) : (ofMetrics metrics).Balanced :=
  Balanced.recordAll ⟨rfl, rfl⟩ metrics

/-- A figure to which every metric adds what depends on the metric alone. -/
structure Additive (measure : StepStats → Nat) (weight : Outcome → Nat) : Prop where
  empty : measure .empty = 0
  record : ∀ stats outcome latency,
    measure (stats.record outcome latency) = measure stats + weight outcome

theorem additive_ok : Additive ok fun outcome => outcome.isOk.toNat where
  empty := rfl
  record stats outcome latency := by cases outcome <;> rfl

theorem additive_ko : Additive ko fun outcome => (!outcome.isOk).toNat where
  empty := rfl
  record stats outcome latency := by cases outcome <;> rfl

theorem additive_countOf (reason : String) :
    Additive (countOf reason) fun outcome => (outcome == .ko reason).toNat where
  empty := rfl
  record stats outcome latency := by
    cases outcome with
    | ok => rfl
    | ko cause =>
        by_cases same : reason = cause
        · simp [countOf, StepStats.record, same]
        · simp [countOf, StepStats.record, same, Ne.symm same]

end StepStats

namespace Stats

variable {measure : StepStats → Nat} {weight : Outcome → Nat}

theorem global_consumeAll (stats : Stats) (metrics : List Metric) :
    (stats.consumeAll metrics).global = stats.global.recordAll metrics := by
  induction metrics generalizing stats with
  | nil => rfl
  | cons metric metrics inductionHypothesis => exact inductionHypothesis (stats.consume metric)

@[simp] theorem step?_consume (stats : Stats) (metric : Metric) (name : String) :
    (stats.consume metric).step? name =
      if name = metric.step then
        some (((stats.step? name).getD .empty).record metric.outcome metric.latency)
      else stats.step? name := by
  by_cases same : name = metric.step
  · subst same
    simp [step?, consume]
  · simp [step?, consume, same]

/-- The metrics of one name are recorded in one entry, and no others. -/
theorem step?_consumeAll (stats : Stats) (metrics : List Metric) (name : String) :
    (stats.consumeAll metrics).step? name =
      match metrics.filter (·.step == name) with
      | [] => stats.step? name
      | own => some (((stats.step? name).getD .empty).recordAll own) := by
  induction metrics generalizing stats with
  | nil => rfl
  | cons metric metrics inductionHypothesis =>
      rw [consumeAll_cons, inductionHypothesis, step?_consume]
      by_cases same : metric.step = name
      · subst same
        simp only [BEq.rfl, List.filter_cons_of_pos, if_true, Option.getD_some]
        cases metrics.filter (·.step == metric.step) <;> rfl
      · have other : (metric.step == name) = false := by simpa using same
        rw [List.filter_cons_of_neg (by simp [other]), if_neg (Ne.symm same)]

theorem sumOf_consume (additive : StepStats.Additive measure weight) (stats : Stats)
    (metric : Metric) :
    (stats.consume metric).steps.sumOf measure =
      stats.steps.sumOf measure + weight metric.outcome := by
  have altered := stats.steps.sumOf_alter measure metric.step fun held =>
    (held.getD .empty).record metric.outcome metric.latency
  simp only [additive.record] at altered
  cases held : stats.steps.get? metric.step with
  | none =>
      simp only [held, Option.elim_none, Option.getD_none, additive.empty] at altered
      simpa [consume] using altered
  | some own =>
      simp only [held, Option.elim_some, Option.getD_some] at altered
      simp only [consume]
      omega

/-- An additive figure of the run as a whole is the sum of those of its steps. -/
theorem sumOf_ofMetrics (additive : StepStats.Additive measure weight) (metrics : List Metric) :
    measure (ofMetrics metrics).global = (ofMetrics metrics).steps.sumOf measure := by
  suffices ∀ stats : Stats, measure stats.global = stats.steps.sumOf measure →
      measure (stats.consumeAll metrics).global = (stats.consumeAll metrics).steps.sumOf measure from
    this empty additive.empty
  induction metrics with
  | nil => exact fun _ agrees => agrees
  | cons metric metrics inductionHypothesis =>
      intro stats agrees
      apply inductionHypothesis
      rw [sumOf_consume additive, ← agrees]
      exact additive.record ..

theorem foldl_consumeAll (stats : Stats) (batches : List (List Metric)) :
    batches.foldl consumeAll stats = stats.consumeAll batches.flatten := by
  induction batches generalizing stats with
  | nil => rfl
  | cons batch batches inductionHypothesis =>
      rw [List.foldl_cons, inductionHypothesis, List.flatten_cons, consumeAll_append]

/-- Statistics tell of these metrics, by step and as a whole. -/
structure TellsOf (metrics : List Metric) (stats : Stats) : Prop where
  /-- Every step has an entry of its own metrics, if it has any. -/
  step?_eq : ∀ name, stats.step? name =
    match metrics.filter (·.step == name) with
    | [] => none
    | own => some (.ofMetrics own)
  global_eq : stats.global = .ofMetrics metrics
  ok_eq : stats.global.ok = stats.steps.sumOf StepStats.ok
  ko_eq : stats.global.ko = stats.steps.sumOf StepStats.ko
  countOf_eq : ∀ reason,
    stats.global.countOf reason = stats.steps.sumOf (StepStats.countOf reason)
  global_balanced : stats.global.Balanced
  step_balanced : ∀ name step, stats.step? name = some step → step.Balanced

theorem tellsOf_ofMetrics (metrics : List Metric) : (ofMetrics metrics).TellsOf metrics := by
  have global_eq : (ofMetrics metrics).global = .ofMetrics metrics := global_consumeAll empty metrics
  have step?_eq : ∀ name, (ofMetrics metrics).step? name =
      match metrics.filter (·.step == name) with
      | [] => none
      | own => some (.ofMetrics own) := step?_consumeAll empty metrics
  refine ⟨step?_eq, global_eq, sumOf_ofMetrics StepStats.additive_ok metrics,
    sumOf_ofMetrics StepStats.additive_ko metrics,
    fun reason => sumOf_ofMetrics (StepStats.additive_countOf reason) metrics, ?_, ?_⟩
  · rw [global_eq]
    exact StepStats.balanced_ofMetrics metrics
  · intro name step found
    rw [step?_eq] at found
    split at found
    · cases found
    · cases found
      exact StepStats.balanced_ofMetrics _

/-- The statistics of a list of metrics tell of them, by step and as a whole.  They are the same for
every order in which the metrics come and for every way to cut them into batches. -/
theorem ofMetrics_tells (metrics : List Metric) :
    (ofMetrics metrics).TellsOf metrics ∧
      ∀ batches : List (List Metric), batches.flatten.Perm metrics →
        batches.foldl consumeAll empty = ofMetrics metrics := by
  refine ⟨tellsOf_ofMetrics metrics, fun batches cut => ?_⟩
  rw [foldl_consumeAll]
  exact ofMetrics_perm cut

/-- Two logins, one of which is refused for the same reason as the search. -/
def visit : List Metric :=
  [⟨"login", .ok, .zero⟩, ⟨"search", .ko "refused", .zero⟩, ⟨"login", .ko "refused", .zero⟩]

theorem ofMetrics_tells_visit :
    let batches := [visit.drop 1, [], visit.take 1]
    batches.flatten.Perm visit ∧ batches.foldl consumeAll empty = ofMetrics visit ∧
      ((ofMetrics visit).step? "login").map StepStats.total = some 2 ∧
      (ofMetrics visit).global.countOf "refused" =
        (ofMetrics visit).steps.sumOf (StepStats.countOf "refused") := by
  have cut : (visit.drop 1 ++ visit.take 1).Perm (visit.take 1 ++ visit.drop 1) :=
    List.perm_append_comm
  obtain ⟨tells, same⟩ := ofMetrics_tells visit
  refine ⟨cut, same _ cut, ?_, tells.countOf_eq "refused"⟩
  rw [tells.step?_eq]
  rfl

end Stats

end LoadTest
