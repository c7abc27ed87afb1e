import LoadTest.Proofs.Stats.Bins
import LoadTest.Proofs.Stats.Totals
import LoadTest.Stats.Report

/-!
The order of the figures of a report.

A percentile is an end of the bin that it falls into, the mean is one of middles of bins, and all of
them lie between the lowest number of the first bin and the highest number of the last one
(`Histogram.Holds.valueAt_bounds`, `Histogram.Holds.mean_bounds`).  Only a latency that is the
largest count stands for itself as a minimum and as a maximum, and not for its bin: where there is no
other latency, the minimum is above the percentiles and above the mean.
-/

namespace LoadTest

/-! ### What a histogram holds -/

namespace Histogram

/-- A histogram in which these samples were recorded, and no others. -/
structure Holds (samples : List Nat) (histogram : Histogram) : Prop where
  mem_bins : ∀ bin ∈ histogram.bins.toList, ∃ sample ∈ samples, bin.1 = Bin.low sample
  total_eq : histogram.total = samples.length
  smallest_le : ∀ sample ∈ samples, histogram.smallest ≤ sample
  smallest_mem : histogram.smallest ∈ samples ∨ histogram.smallest = maxCount
  le_largest : ∀ sample ∈ samples, sample ≤ histogram.largest
  largest_mem : histogram.largest ∈ samples ∨ histogram.largest = 0

variable {samples : List Nat} {histogram : Histogram}

theorem holds_empty : Holds [] empty where
  mem_bins := nofun
  total_eq := rfl
  smallest_le := nofun
  smallest_mem := .inr rfl
  le_largest := nofun
  largest_mem := .inr rfl

theorem Holds.record (holds : histogram.Holds samples) (sample : Nat) :
    (histogram.record sample).Holds (samples ++ [sample]) where
  mem_bins bin among := by
    obtain rfl | before := Ascending.mem_insert among
    · exact ⟨sample, List.mem_append_right _ (List.mem_singleton_self _), rfl⟩
    · obtain ⟨earlier, recorded, same⟩ := holds.mem_bins bin before
      exact ⟨earlier, List.mem_append_left _ recorded, same⟩
  total_eq := by rw [total_record, holds.total_eq, List.length_append, List.length_singleton]
  smallest_le other among := by
    obtain before | now := List.mem_append.1 among
    · exact Nat.le_trans (Nat.min_le_left ..) (holds.smallest_le other before)
    · exact List.mem_singleton.1 now ▸ Nat.min_le_right ..
  smallest_mem := by
    obtain kept | taken := min_choice histogram.smallest sample
    · simp only [Histogram.record, kept]
      exact holds.smallest_mem.imp_left (List.mem_append_left _)
    · simp only [Histogram.record, taken]
      exact .inl (List.mem_append_right _ (List.mem_singleton_self _))
  le_largest other among := by
    obtain before | now := List.mem_append.1 among
    · exact Nat.le_trans (holds.le_largest other before) (Nat.le_max_left ..)
    · exact List.mem_singleton.1 now ▸ Nat.le_max_right ..
  largest_mem := by
    obtain kept | taken := max_choice histogram.largest sample
    · simp only [Histogram.record, kept]
      exact holds.largest_mem.imp_left (List.mem_append_left _)
    · simp only [Histogram.record, taken]
      exact .inl (List.mem_append_right _ (List.mem_singleton_self _))

end Histogram

namespace StepStats

/-- The samples that the latencies of metrics are counted as. -/
def samples (metrics : List Metric) : List Nat := metrics.map fun metric => sampleOf metric.latency

theorem le_maxCount_of_mem_samples {metrics : List Metric} {sample : Nat}
    (among : sample ∈ samples metrics) : sample ≤ maxCount := by
  obtain ⟨metric, _, rfl⟩ := List.mem_map.1 among
  exact Nat.min_le_right ..

theorem latencies_record (stats : StepStats) (outcome : Outcome) (latency : Duration) :
    (stats.record outcome latency).latencies = stats.latencies.record (sampleOf latency) := by
  cases outcome <;> rfl

theorem holds_ofMetrics (metrics : List Metric) :
    (ofMetrics metrics).latencies.Holds (samples metrics) := by
  suffices ∀ (stats : StepStats) (earlier : List Nat), stats.latencies.Holds earlier →
      (stats.recordAll metrics).latencies.Holds (earlier ++ samples metrics) from
    this .empty [] Histogram.holds_empty
  induction metrics with
  | nil =>
      intro stats earlier holds
      rwa [samples, List.map_nil, List.append_nil]
  | cons metric metrics inductionHypothesis =>
      intro stats earlier holds
      have recorded := holds.record (sampleOf metric.latency)
      rw [← latencies_record stats metric.outcome] at recorded
      simpa [samples] using inductionHypothesis _ _ recorded

end StepStats

/-! ### Where the samples lie -/

namespace Histogram

/-- A bin that is reached is among the bins. -/
theorem binAt_mem {target running : Nat} {bins : List (Nat × Nat)} (ahead : running < target)
    (within : target ≤ running + Ascending.sumOf id bins) :
    ∃ bin ∈ bins, binAt target running bins = bin.1 := by
  induction bins generalizing running with
  | nil =>
      simp only [Ascending.sumOf] at within
      omega
  | cons bin bins inductionHypothesis =>
      obtain ⟨number, count⟩ := bin
      simp only [Ascending.sumOf, id] at within
      rw [binAt]
      split
      · exact ⟨_, List.mem_cons_self .., rfl⟩
      next further =>
        obtain ⟨bin, among, same⟩ :=
          inductionHypothesis (Nat.lt_of_not_le further) (by omega)
        exact ⟨bin, List.mem_cons_of_mem _ among, same⟩

/-- More samples do not reach to an earlier bin. -/
theorem binAt_mono {first second running : Nat} {bins : List (Nat × Nat)}
    (ascending : Ascending.IsAscending bins) (le : first ≤ second) (ahead : running < second)
    (within : second ≤ running + Ascending.sumOf id bins) :
    binAt first running bins ≤ binAt second running bins := by
  induction bins generalizing running with
  | nil => exact Nat.le_refl _
  | cons bin bins inductionHypothesis =>
      obtain ⟨number, count⟩ := bin
      obtain ⟨lowest, later⟩ := List.pairwise_cons.1 ascending
      simp only [Ascending.sumOf, id] at within
      rw [binAt, binAt]
      by_cases reached : second ≤ running + count
      · rw [if_pos reached, if_pos (Nat.le_trans le reached)]
      · have further : running + count < second := Nat.lt_of_not_le reached
        have left : second ≤ running + count + Ascending.sumOf id bins := by omega
        rw [if_neg reached]
        split
        · obtain ⟨bin, among, same⟩ := binAt_mem further left
          rw [same]
          exact Nat.le_of_lt (Nat.compare_eq_lt.1 (lowest bin among))
        · exact inductionHypothesis later further left

/-- Bounds of all middles are bounds of their mean, each middle taken as often as its bin counts. -/
theorem foldl_middle_bounds {low high total : Rat} (positive : 0 < total)
    {bins : List (Nat × Nat)}
    (between : ∀ bin ∈ bins, low ≤ (Bin.middle bin.1 : Rat) ∧ (Bin.middle bin.1 : Rat) ≤ high)
    (start : Rat) :
    let count : Rat := (Ascending.sumOf id bins : Nat)
    let sum := bins.foldl (fun sum bin => sum + (Bin.middle bin.1 : Rat) * bin.2 / total) start
    start + low * count / total ≤ sum ∧ sum ≤ start + high * count / total := by
  induction bins generalizing start with
  | nil => simp [Ascending.sumOf]
  | cons bin bins inductionHypothesis =>
      obtain ⟨above, below⟩ := between bin (List.mem_cons_self ..)
      obtain ⟨least, most⟩ := inductionHypothesis
        (fun other among => between other (List.mem_cons_of_mem _ among))
        (start + (Bin.middle bin.1 : Rat) * bin.2 / total)
      have counted : ((Ascending.sumOf id (bin :: bins) : Nat) : Rat) =
          bin.2 + (Ascending.sumOf id bins : Nat) := by
        rw [Ascending.sumOf, id, Nat.cast_add]
      have lower : low * bin.2 / total ≤ (Bin.middle bin.1 : Rat) * bin.2 / total := by gcongr
      have upper : (Bin.middle bin.1 : Rat) * bin.2 / total ≤ high * bin.2 / total := by gcongr
      simp only [List.foldl_cons, counted, mul_add, add_div]
      constructor
      · linarith
      · linarith

/-! ### Quantiles of exact fractions -/

variable {samples : List Nat} {histogram : Histogram}

theorem ceil_mono {first second : Rat} (le : first ≤ second) : first.ceil ≤ second.ceil :=
  Rat.ceil_le_iff.2 (le_trans le (Rat.ceil_le_iff.1 (le_refl _)))

theorem targetOf_eq (quantile : Rat) (total : Nat) :
    targetOf quantile total = max 1 (min (quantile * total).ceil.toNat maxCount) := by
  have whole : (((quantile * total).ceil : Int) : Rat).floor = (quantile * total).ceil :=
    Rat.floor_intCast _
  rw [← whole]
  rfl

theorem targetOf_mono {first second : Rat} (le : first ≤ second) (total : Nat) :
    targetOf first total ≤ targetOf second total := by
  have products : first * total ≤ second * total := by gcongr
  have counts : (first * total).ceil.toNat ≤ (second * total).ceil.toNat :=
    Int.toNat_le_toNat (ceil_mono products)
  rw [targetOf_eq, targetOf_eq]
  omega

theorem one_le_targetOf (quantile : Rat) (total : Nat) : 1 ≤ targetOf quantile total :=
  Nat.le_max_left ..

theorem targetOf_le {quantile : Rat} {total : Nat} (most : quantile ≤ 1) (positive : 0 < total) :
    targetOf quantile total ≤ total := by
  have product : quantile * total ≤ (total : Int) := by
    calc quantile * total ≤ 1 * total := by gcongr
      _ = (total : Int) := by rw [one_mul, Int.cast_natCast]
  have count : (quantile * total).ceil ≤ total := Rat.ceil_le_iff.2 product
  rw [targetOf_eq]
  omega

/-- The lowest number of the bin that a share of all samples reaches to. -/
def binOf (histogram : Histogram) (quantile : Rat) : Nat :=
  binAt (targetOf quantile histogram.total) 0 histogram.bins.toList

theorem valueAt_eq (histogram : Histogram) (quantile : Rat) :
    histogram.valueAt quantile =
      if quantile = 0 then histogram.binOf quantile else Bin.high (histogram.binOf quantile) := by
  have zero : Scalar.same quantile (Scalar.ofNat 0) = true ↔ quantile = 0 := by
    change (decide (quantile ≤ ((0 : Nat) : Rat)) && decide (((0 : Nat) : Rat) ≤ quantile)) = true ↔ _
    rw [Bool.and_eq_true, decide_eq_true_iff, decide_eq_true_iff, Nat.cast_zero]
    exact le_antisymm_iff.symm
  simp only [valueAt, zero]
  rfl

theorem highest_eq (histogram : Histogram) : histogram.highest = Bin.high histogram.largest := by
  unfold highest
  split
  next none => rw [none]; decide
  next => rfl

namespace Holds

variable {first second quantile : Rat}

theorem total_pos (holds : histogram.Holds samples) (nonempty : samples ≠ []) :
    0 < histogram.total := by
  rw [holds.total_eq]
  exact List.length_pos_of_ne_nil nonempty

theorem isEmpty_eq_false (holds : histogram.Holds samples) (nonempty : samples ≠ []) :
    histogram.isEmpty = false := by
  have positive := holds.total_pos nonempty
  cases bins : histogram.bins.entries with
  | nil =>
      simp [histogram.total_eq, SortedMap.sumOf, bins, Ascending.sumOf] at positive
  | cons bin rest => rw [isEmpty, SortedMap.isEmpty, bins, List.isEmpty_cons]

theorem lowest_eq (holds : histogram.Holds samples) (nonempty : samples ≠ []) :
    histogram.lowest =
      if histogram.smallest = maxCount then maxCount else Bin.low histogram.smallest := by
  rw [lowest, holds.isEmpty_eq_false nonempty]
  rfl

/-- The bin that a share of all samples reaches to is that of a sample. -/
theorem exists_binOf (holds : histogram.Holds samples) (nonempty : samples ≠ [])
    (most : quantile ≤ 1) : ∃ sample ∈ samples, histogram.binOf quantile = Bin.low sample := by
  have positive := holds.total_pos nonempty
  have within : targetOf quantile histogram.total ≤
      0 + Ascending.sumOf id histogram.bins.toList := by
    rw [Nat.zero_add]
    exact Nat.le_trans (targetOf_le most positive) (Nat.le_of_eq histogram.total_eq)
  obtain ⟨bin, among, same⟩ := binAt_mem (one_le_targetOf quantile histogram.total) within
  obtain ⟨sample, recorded, low⟩ := holds.mem_bins bin among
  exact ⟨sample, recorded, same.trans low⟩

theorem binOf_mono (holds : histogram.Holds samples) (nonempty : samples ≠ []) (le : first ≤ second)
    (most : second ≤ 1) : histogram.binOf first ≤ histogram.binOf second := by
  refine binAt_mono histogram.bins.ascending (targetOf_mono le _) (one_le_targetOf ..) ?_
  rw [Nat.zero_add]
  exact Nat.le_trans (targetOf_le most (holds.total_pos nonempty)) (Nat.le_of_eq histogram.total_eq)

theorem largest_le (holds : histogram.Holds samples)
    (counted : ∀ sample ∈ samples, sample ≤ maxCount) : histogram.largest ≤ maxCount := by
  obtain recorded | none := holds.largest_mem
  · exact counted _ recorded
  · rw [none]
    exact Nat.zero_le _

section

variable (holds : histogram.Holds samples) (nonempty : samples ≠ [])
  (counted : ∀ sample ∈ samples, sample ≤ maxCount)

include holds nonempty counted

theorem valueAt_mono (least : 0 ≤ first) (le : first ≤ second) (most : second ≤ 1) :
    histogram.valueAt first ≤ histogram.valueAt second := by
  obtain ⟨sample, recorded, low⟩ := holds.exists_binOf nonempty most
  have bins := holds.binOf_mono nonempty le most
  have low_le : histogram.binOf second ≤ maxCount := by
    rw [low]
    exact Nat.le_trans (Bin.low_le _) (counted sample recorded)
  rw [valueAt_eq, valueAt_eq]
  by_cases zero : second = 0
  · rw [if_pos zero, if_pos (le_antisymm (zero ▸ le) least)]
    exact bins
  · rw [if_neg zero]
    split
    · exact Nat.le_trans bins (Bin.le_high low_le)
    · exact Bin.high_mono bins low_le

/-- A percentile lies between the lowest number of the first bin and the highest one of the last. -/
theorem valueAt_bounds (most : quantile ≤ 1) :
    Bin.low histogram.smallest ≤ histogram.valueAt quantile ∧
      histogram.valueAt quantile ≤ histogram.highest ∧ histogram.valueAt quantile < maxCount := by
  obtain ⟨sample, recorded, low⟩ := holds.exists_binOf nonempty most
  have small := counted sample recorded
  have last := holds.largest_le counted
  have above := Bin.low_mono (holds.smallest_le sample recorded)
  have upward : Bin.low sample ≤ Bin.high (Bin.low sample) :=
    Bin.le_high (Nat.le_of_lt (Bin.low_lt_maxCount small))
  have below : Bin.high (Bin.low sample) ≤ Bin.high histogram.largest :=
    Bin.high_mono (Nat.le_trans (Bin.low_le _) (holds.le_largest sample recorded)) last
  have short := Bin.high_low_lt small
  rw [valueAt_eq, low, histogram.highest_eq]
  split <;> omega

/-- The mean lies between the lowest number of the first bin and the highest one of the last. -/
theorem mean_bounds :
    (Bin.low histogram.smallest : Rat) ≤ histogram.mean ∧
      (histogram.mean : Rat) ≤ histogram.highest ∧ (histogram.mean : Rat) < maxCount := by
  have last := holds.largest_le counted
  have middles : ∀ bin ∈ histogram.bins.toList,
      Bin.low histogram.smallest ≤ Bin.middle bin.1 ∧
        Bin.middle bin.1 ≤ min histogram.highest (maxCount - 1) := by
    intro bin among
    obtain ⟨sample, recorded, low⟩ := holds.mem_bins bin among
    have small := counted sample recorded
    have above := Bin.low_mono (holds.smallest_le sample recorded)
    have below : Bin.high (Bin.low sample) ≤ Bin.high histogram.largest :=
      Bin.high_mono (Nat.le_trans (Bin.low_le _) (holds.le_largest sample recorded)) last
    have upward := Bin.low_le_middle sample
    have downward := Bin.middle_le_high small
    have short := Bin.high_low_lt small
    rw [low, histogram.highest_eq]
    omega
  have positive : (0 : Rat) < histogram.total := Nat.cast_pos.2 (holds.total_pos nonempty)
  obtain ⟨least, most⟩ := foldl_middle_bounds positive
    (fun bin among => ⟨Nat.cast_le.2 (middles bin among).1, Nat.cast_le.2 (middles bin among).2⟩) 0
  have counts : Ascending.sumOf id histogram.bins.toList = histogram.total :=
    histogram.total_eq.symm
  rw [counts, zero_add, mul_div_assoc, div_self positive.ne', mul_one] at least most
  have capped : (histogram.mean : Rat) ≤ (min histogram.highest (maxCount - 1) : Nat) := most
  refine ⟨least, le_trans capped (Nat.cast_le.2 (Nat.min_le_left ..)),
    lt_of_le_of_lt capped (Nat.cast_lt.2 (lt_of_le_of_lt (Nat.min_le_right ..) (by decide)))⟩

end

end Holds

end Histogram

/-! ### The figures of a report -/

namespace StepStats

/-- The quantile of a percentage.  Percentages below zero and above one hundred are cut. -/
def quantileOf (percent : Rat) : Rat :=
  Scalar.clamp (Scalar.ofNat 0) (Scalar.ofNat 1) (percent / Scalar.ofNat 100)

theorem quantileOf_eq (percent : Rat) : quantileOf percent = max 0 (min 1 (percent / 100)) := by
  have hundred : percent / ((100 : Nat) : Rat) = percent / 100 := by norm_num
  change (if decide (percent / ((100 : Nat) : Rat) < ((0 : Nat) : Rat)) = true then ((0 : Nat) : Rat)
    else if decide (((1 : Nat) : Rat) < percent / ((100 : Nat) : Rat)) = true then ((1 : Nat) : Rat)
    else percent / ((100 : Nat) : Rat)) = _
  rw [hundred, Nat.cast_zero, Nat.cast_one]
  simp only [decide_eq_true_eq]
  split
  next below => rw [min_eq_right (by linarith), max_eq_left below.le]
  next above =>
    split
    next beyond => rw [min_eq_left beyond.le, max_eq_right zero_le_one]
    next within => rw [min_eq_right (not_lt.1 within), max_eq_right (not_lt.1 above)]

theorem quantileOf_mono {first second : Rat} (le : first ≤ second) :
    quantileOf first ≤ quantileOf second := by
  rw [quantileOf_eq, quantileOf_eq]
  gcongr

theorem quantileOf_nonneg (percent : Rat) : 0 ≤ quantileOf percent := by
  rw [quantileOf_eq]
  exact le_max_left ..

theorem quantileOf_le_one (percent : Rat) : quantileOf percent ≤ 1 := by
  rw [quantileOf_eq]
  exact max_le zero_le_one (min_le_left ..)

/-- A percentile in whole microseconds. -/
def microsAt (stats : StepStats) (percent : Rat) : Nat :=
  stats.latencies.valueAt (quantileOf percent)

/-- The figures of statistics in microseconds, with the mean exact, go with each other and with the
samples that were recorded. -/
structure Consistent (samples : List Nat) (stats : StepStats) : Prop where
  microsAt_mono : ∀ {first second : Rat}, first ≤ second →
    stats.microsAt first ≤ stats.microsAt second
  microsAt_of_le_zero : ∀ percent : Rat, percent ≤ 0 → stats.microsAt percent = stats.microsAt 0
  microsAt_of_hundred_le : ∀ percent : Rat, 100 ≤ percent →
    stats.microsAt percent = stats.microsAt 100
  microsAt_le_highest : ∀ percent, stats.microsAt percent ≤ stats.latencies.highest
  mean_le_highest : (stats.latencies.mean : Rat) ≤ stats.latencies.highest
  lowest_le : ∀ sample ∈ samples, stats.latencies.lowest ≤ sample
  le_highest : ∀ sample ∈ samples, sample ≤ stats.latencies.highest
  /-- The minimum is below the others, if any sample is less than the largest count. -/
  lowest_le_figures : (∃ sample ∈ samples, sample ≠ maxCount) →
    (∀ percent, stats.latencies.lowest ≤ stats.microsAt percent) ∧
      (stats.latencies.lowest : Rat) ≤ stats.latencies.mean
  /-- And above them if none is. -/
  figures_lt_lowest : (∀ sample ∈ samples, sample = maxCount) →
    stats.latencies.lowest = maxCount ∧ stats.latencies.highest = maxCount ∧
      (∀ percent, stats.microsAt percent < stats.latencies.lowest) ∧
      (stats.latencies.mean : Rat) < stats.latencies.lowest

section

variable {metrics : List Metric} (recorded : metrics ≠ [])

include recorded

theorem samples_ne_nil : samples metrics ≠ [] := by
  simpa [samples] using recorded

theorem consistent_ofMetrics : (ofMetrics metrics).Consistent (samples metrics) := by
  have holds := holds_ofMetrics metrics
  have nonempty := samples_ne_nil recorded
  have counted : ∀ sample ∈ samples metrics, sample ≤ maxCount :=
    fun sample => le_maxCount_of_mem_samples
  have bounds (percent : Rat) :=
    holds.valueAt_bounds nonempty counted (quantileOf_le_one percent)
  obtain ⟨low_le_mean, mean_le, mean_lt⟩ := holds.mean_bounds nonempty counted
  have lowest := holds.lowest_eq nonempty
  refine
    { microsAt_mono := fun le => holds.valueAt_mono nonempty counted (quantileOf_nonneg _)
        (quantileOf_mono le) (quantileOf_le_one _)
      microsAt_of_le_zero := fun percent below => ?_
      microsAt_of_hundred_le := fun percent above => ?_
      microsAt_le_highest := fun percent => (bounds percent).2.1
      mean_le_highest := mean_le
      lowest_le := fun sample among => ?_
      le_highest := fun sample among => ?_
      lowest_le_figures := ?_
      figures_lt_lowest := fun alone => ?_ }
  · have same : quantileOf percent = quantileOf 0 := by
      have cut : percent / 100 ≤ 0 := by linarith
      rw [quantileOf_eq, quantileOf_eq, max_eq_left (le_trans (min_le_right ..) cut)]
      norm_num
    rw [microsAt, microsAt, same]
  · have same : quantileOf percent = quantileOf 100 := by
      have cut : 1 ≤ percent / 100 := by linarith
      rw [quantileOf_eq, quantileOf_eq, min_eq_left cut]
      norm_num
    rw [microsAt, microsAt, same]
  · have least := holds.smallest_le sample among
    rw [lowest]
    split
    next last => exact last ▸ least
    next => exact Nat.le_trans (Bin.low_le _) least
  · rw [Histogram.highest_eq]
    exact Nat.le_trans (holds.le_largest sample among) (Bin.le_high (holds.largest_le counted))
  · rintro ⟨sample, among, other⟩
    have least := holds.smallest_le sample among
    have small := counted sample among
    rw [lowest, if_neg (by omega)]
    exact ⟨fun percent => (bounds percent).1, low_le_mean⟩
  · have first : (ofMetrics metrics).latencies.smallest = maxCount :=
      holds.smallest_mem.elim (alone _) id
    have last : (ofMetrics metrics).latencies.largest = maxCount := by
      obtain ⟨sample, among⟩ := List.exists_mem_of_ne_nil _ nonempty
      exact Nat.le_antisymm (holds.largest_le counted)
        (alone sample among ▸ holds.le_largest sample among)
    rw [lowest, if_pos first, Histogram.highest_eq, last]
    exact ⟨rfl, if_pos rfl, fun percent => (bounds percent).2.2, mean_lt⟩

theorem toMillis_eq (micros : Rat) : (ofMetrics metrics).toMillis micros = micros / 1000 := by
  have holds := holds_ofMetrics metrics
  rw [toMillis, holds.isEmpty_eq_false (samples_ne_nil recorded)]
  change micros / ((1000 : Nat) : Rat) = micros / 1000
  norm_num

end

/-- The figures of a row are those of the statistics, in milliseconds. -/
structure Millis (stats : StepStats) (row : StepReport Rat) : Prop where
  percentile_eq : ∀ percent : Rat, stats.percentile percent = (stats.microsAt percent : Rat) / 1000
  minimum_eq : row.minimum = stats.latencies.lowest / 1000
  mean_eq : row.mean = stats.latencies.mean / 1000
  p50_eq : row.p50 = stats.microsAt 50 / 1000
  p75_eq : row.p75 = stats.microsAt 75 / 1000
  p95_eq : row.p95 = stats.microsAt 95 / 1000
  p99_eq : row.p99 = stats.microsAt 99 / 1000
  maximum_eq : row.maximum = stats.latencies.highest / 1000

theorem millis_ofStats {metrics : List Metric} (recorded : metrics ≠ []) (name : String) :
    (ofMetrics metrics).Millis (.ofStats name (ofMetrics metrics)) := by
  have percentiles (percent : Rat) : (ofMetrics metrics).percentile percent =
      ((ofMetrics metrics).microsAt percent : Rat) / 1000 := toMillis_eq recorded _
  exact
    { percentile_eq := percentiles
      minimum_eq := toMillis_eq recorded _
      mean_eq := toMillis_eq recorded _
      p50_eq := percentiles 50
      p75_eq := percentiles 75
      p95_eq := percentiles 95
      p99_eq := percentiles 99
      maximum_eq := toMillis_eq recorded _ }

/-- The percentiles of a row ascend, and neither they nor the mean exceed its maximum.  Nor do they
fall below its minimum, unless all latencies are the largest count of microseconds. -/
theorem figures_ordered (name : String) (metrics : List Metric) (recorded : metrics ≠ []) :
    let stats := ofMetrics metrics
    let row : StepReport Rat := .ofStats name stats
    stats.Consistent (samples metrics) ∧ stats.Millis row ∧
      (row.p50 ≤ row.p75 ∧ row.p75 ≤ row.p95 ∧ row.p95 ≤ row.p99 ∧ row.p99 ≤ row.maximum) ∧
      row.mean ≤ row.maximum ∧
      ((∃ sample ∈ samples metrics, sample ≠ maxCount) →
        row.minimum ≤ row.p50 ∧ row.minimum ≤ row.mean) := by
  intro stats row
  have consistent : stats.Consistent (samples metrics) := consistent_ofMetrics recorded
  have millis : stats.Millis row := millis_ofStats recorded name
  have scaled {first second : Rat} (le : first ≤ second) : first / 1000 ≤ second / 1000 := by
    gcongr
  refine ⟨consistent, millis, ⟨?_, ?_, ?_, ?_⟩, ?_, fun other => ⟨?_, ?_⟩⟩
  · rw [millis.p50_eq, millis.p75_eq]
    exact scaled (Nat.cast_le.2 (consistent.microsAt_mono (by norm_num)))
  · rw [millis.p75_eq, millis.p95_eq]
    exact scaled (Nat.cast_le.2 (consistent.microsAt_mono (by norm_num)))
  · rw [millis.p95_eq, millis.p99_eq]
    exact scaled (Nat.cast_le.2 (consistent.microsAt_mono (by norm_num)))
  · rw [millis.p99_eq, millis.maximum_eq]
    exact scaled (Nat.cast_le.2 (consistent.microsAt_le_highest 99))
  · rw [millis.mean_eq, millis.maximum_eq]
    exact scaled consistent.mean_le_highest
  · rw [millis.minimum_eq, millis.p50_eq]
    exact scaled (Nat.cast_le.2 ((consistent.lowest_le_figures other).1 50))
  · rw [millis.minimum_eq, millis.mean_eq]
    exact scaled (consistent.lowest_le_figures other).2

/-- A latency of the largest count of microseconds. -/
def endless : Duration := ⟨maxCount * nanosPerMicro, by decide⟩

/-- Latencies of no time, of a second and of the largest count of microseconds. -/
def farApart : List Metric :=
  [⟨"page", .ok, endless⟩, ⟨"page", .ko "late", .ofMillis 1234⟩, ⟨"page", .ok, .zero⟩]

theorem figures_ordered_farApart :
    let stats := ofMetrics farApart
    let row : StepReport Rat := .ofStats "page" stats
    farApart ≠ [] ∧ (∃ sample ∈ samples farApart, sample ≠ maxCount) ∧
      samples farApart = [maxCount, 1234000, 0] ∧ stats.microsAt 50 = 1234943 ∧
      row.minimum ≤ row.p50 ∧ row.p50 ≤ row.p75 ∧ row.minimum ≤ row.mean ∧
      row.mean ≤ row.maximum := by
  intro stats row
  have small : ∃ sample ∈ samples farApart, sample ≠ maxCount := ⟨0, by decide, by decide⟩
  obtain ⟨_, _, ⟨ascends, _⟩, mean_le, least⟩ := figures_ordered "page" farApart (by decide)
  obtain ⟨p50, mean⟩ := least small
  exact ⟨by decide, small, by decide, by decide +kernel, p50, ascends, mean, mean_le⟩

/-- With no other latency than the largest count, the minimum is above the median and the mean. -/
theorem minimum_above_median :
    let stats := ofMetrics [⟨"page", .ok, endless⟩]
    let row : StepReport Rat := .ofStats "page" stats
    stats.latencies.lowest = maxCount ∧ stats.microsAt 50 = maxCount - 1 ∧
      ¬ stats.latencies.lowest ≤ stats.microsAt 50 ∧ ¬ row.minimum ≤ row.p50 ∧
      ¬ row.minimum ≤ row.mean := by
  decide +kernel

end StepStats

end LoadTest
