/-
The statistics tables of `network_visualizer.py`. `generate_statistical_plots` keeps the `Tx` and
`Rx` records with a positive rate, splits them at `xpu_count` into XPU and switch records, sums the
rates of each device at each timestamp, and writes per device the mean, median, standard
deviation, min, max and count of those sums (`xpu_stats.csv`, `switch_stats.csv`). The two
group-bys lose no throughput: over each table the means times the counts add up to the rates of
the records it reads. Every row has 0 < min ≤ median ≤ max and min ≤ mean ≤ max, and pandas'
sample standard deviation is NaN exactly on a device seen at a single timestamp.
`generate_xpu_total_stats` groups the `APP` records of the XPUs the same way, by `XpuId` alone
and in Gbps; its table, too, loses no throughput.
-/
import SueSimProofs.Delay.Statistics
import SueSimProofs.Frame.Cell

namespace SueSim.Throughput

open SueSim.Frame SueSim.Delay

/-- One row of a performance log, in the columns (as `load_performance_data` names them) that the
tables read; `rate` is `pd.to_numeric(df['Rate'], errors='coerce')`, `none` for an empty cell. -/
structure PerfRow where
  time : ℝ
  xpuId : ℤ
  deviceId : ℤ
  direction : String
  rate : Option ℝ

/-- `df['Direction'].isin(['Tx', 'Rx']) & (pd.to_numeric(df['Rate'], errors='coerce') > 0)`; NaN
compares false. -/
noncomputable def isTxRxRow (r : PerfRow) : Bool :=
  ["Tx", "Rx"].contains r.direction && (r.rate.map fun v => decide (0 < v)).getD false

/-- `xpu_df`: the kept records of XPUs (`XpuId <= xpu_count`). -/
noncomputable def xpuDf (xpuCount : ℤ) (df : List PerfRow) : List PerfRow :=
  (df.filter isTxRxRow).filter fun r => r.xpuId ≤ xpuCount

/-- `switch_df`: the kept records of switches (`XpuId > xpu_count`). -/
noncomputable def switchDf (xpuCount : ℤ) (df : List PerfRow) : List PerfRow :=
  (df.filter isTxRxRow).filter fun r => r.xpuId > xpuCount

/-- `groupby(keys)[col]` on rows reduced to their key and value: the distinct keys in the order
`le` sorts them, each with its values in row order. -/
def groupBy {κ ν : Type} [DecidableEq κ] (le : κ → κ → Bool) (kvs : List (κ × ν)) :
    List (κ × List ν) :=
  (sortedUnique le (kvs.map Prod.fst)).map fun k => (k, (kvs.filter fun p => p.1 = k).map Prod.snd)

/-- pandas' ascending order of `(XpuId, DeviceId)` keys. -/
def deviceKeyLe (a b : ℤ × ℤ) : Bool := a.1 < b.1 || a.1 = b.1 && a.2 ≤ b.2

/-- pandas' ascending order of `(XpuId, DeviceId, Time)` keys. -/
noncomputable def timeKeyLe (a b : ℤ × ℤ × ℝ) : Bool :=
  a.1 < b.1 || a.1 = b.1 && (a.2.1 < b.2.1 || a.2.1 = b.2.1 && a.2.2 ≤ b.2.2)

/-- pandas' `std` (`ddof=1`): NaN (`none`) on fewer than two values. -/
noncomputable def pdStd (xs : List ℝ) : Option ℝ :=
  if xs.length ≤ 1 then none
  else some (Real.sqrt ((xs.map fun x => (x - npMean xs) ^ 2).sum / ((xs.length : ℝ) - 1)))

/-- One row of a table: `agg(['mean', 'median', 'std', 'min', 'max', 'count'])` of a group. -/
structure RateStats where
  mean : ℝ
  median : ℝ
  stdDev : Option ℝ
  min : ℝ
  max : ℝ
  count : ℕ

/-- The aggregates of a group's values; a group is never empty. -/
noncomputable def aggRate (vs : List ℝ) : RateStats where
  mean := npMean vs
  median := npMedian vs
  stdDev := pdStd vs
  min := vs.tail.foldl min (vs.headD 0)
  max := vs.tail.foldl max (vs.headD 0)
  count := vs.length

/-- `part.groupby(['XpuId', 'DeviceId', 'Time'])['Rate'].sum()`, then, per `(XpuId, DeviceId)`,
the aggregates of those sums. -/
noncomputable def deviceStats (part : List PerfRow) : List ((ℤ × ℤ) × RateStats) :=
  let summedDf := (groupBy timeKeyLe (part.map fun r => ((r.xpuId, r.deviceId, r.time), r.rate.getD 0))).map
    fun g => ((g.1.1, g.1.2.1), g.2.sum)
  (groupBy deviceKeyLe summedDf).map fun g => (g.1, aggRate g.2)

/-- The tables `generate_statistical_plots` writes: a table whose records are empty is not written
(`none`). -/
structure StatisticalTables where
  xpuStats : Option (List ((ℤ × ℤ) × RateStats))
  switchStats : Option (List ((ℤ × ℤ) × RateStats))

/-- The tables of `generate_statistical_plots`; nothing (`none`, a warning) when both parts are
empty. -/
noncomputable def generateStatisticalPlots (xpuCount : ℤ) (df : List PerfRow) :
    Option StatisticalTables :=
  if (xpuDf xpuCount df).isEmpty && (switchDf xpuCount df).isEmpty then none
  else some
    { xpuStats := if (xpuDf xpuCount df).isEmpty then none else some (deviceStats (xpuDf xpuCount df))
      switchStats :=
        if (switchDf xpuCount df).isEmpty then none else some (deviceStats (switchDf xpuCount df)) }

/-! ## Group-by -/

section GroupBy

variable {κ ν : Type} [DecidableEq κ] (le : κ → κ → Bool) (kvs : List (κ × ν))

theorem keys_groupBy : (groupBy le kvs).map Prod.fst = sortedUnique le (kvs.map Prod.fst) := by
  simp [groupBy, List.map_map, Function.comp_def]

theorem mem_groupBy {k : κ} {vs : List ν} :
    (k, vs) ∈ groupBy le kvs ↔ k ∈ kvs.map Prod.fst ∧ vs = (kvs.filter fun p => p.1 = k).map Prod.snd := by
  simp only [groupBy, List.mem_map, mem_sortedUnique, Prod.mk.injEq]
  constructor
  · rintro ⟨a, ha, rfl, rfl⟩; exact ⟨ha, rfl⟩
  · rintro ⟨ha, rfl⟩; exact ⟨k, ha, rfl, rfl⟩

/-- A group's values are never empty. -/
theorem ne_nil_of_mem_groupBy {k : κ} {vs : List ν} (h : (k, vs) ∈ groupBy le kvs) : vs ≠ [] := by
  obtain ⟨hk, rfl⟩ := (mem_groupBy le kvs).1 h
  obtain ⟨p, hp, rfl⟩ := List.mem_map.1 hk
  simpa [List.filter_eq_nil_iff] using ⟨p.2, hp⟩

/-- A group's values are values of its key's rows. -/
theorem exists_of_mem_groupBy {k : κ} {vs : List ν} (h : (k, vs) ∈ groupBy le kvs) {v : ν}
    (hv : v ∈ vs) : (k, v) ∈ kvs := by
  obtain ⟨-, rfl⟩ := (mem_groupBy le kvs).1 h
  obtain ⟨p, hp, rfl⟩ := List.mem_map.1 hv
  obtain ⟨hp, hk⟩ := List.mem_filter.1 hp
  rw [← of_decide_eq_true hk]; exact hp

theorem sum_groupBy (kvs : List (κ × ℝ)) :
    ((groupBy le kvs).map fun g => g.2.sum).sum = (kvs.map Prod.snd).sum := by
  simp only [groupBy, List.map_map, Function.comp_def]
  exact sum_map_filter_sum (nodup_sortedUnique _ _) fun p hp => by simpa using ⟨p.2, hp⟩

/-- The groups hold every row once: counted by any test on the values, they give the rows' count
back. -/
theorem sum_countP_groupBy (p : ν → Bool) :
    ((groupBy le kvs).map fun g => g.2.countP p).sum = kvs.countP fun kv => p kv.2 := by
  have hk (k : κ) : ((kvs.filter fun kv => kv.1 = k).map Prod.snd).countP p =
      ((kvs.filter fun kv => p kv.2).map Prod.fst).count k := by
    rw [List.countP_map, List.count_eq_countP, List.countP_map, List.countP_filter, List.countP_filter]
    exact List.countP_congr fun kv _ => by simp [Bool.and_comm]
  simp only [groupBy, List.map_map, Function.comp_def, hk]
  rw [sum_map_count_eq_length (nodup_sortedUnique _ _) fun k hk => ?_, List.length_map,
    ← List.countP_eq_length_filter]
  obtain ⟨kv, hkv, rfl⟩ := List.mem_map.1 hk
  exact (mem_sortedUnique _ _ _).2 (List.mem_map_of_mem _ (List.mem_of_mem_filter hkv))

end GroupBy

/-! ## One row -/

/-- What one row of a table satisfies. -/
structure RateStatsSound (s : RateStats) : Prop where
  count_pos : 0 < s.count
  min_pos : 0 < s.min
  min_le_median : s.min ≤ s.median
  median_le_max : s.median ≤ s.max
  min_le_mean : s.min ≤ s.mean
  mean_le_max : s.mean ≤ s.max
  stdDev_eq_none : s.stdDev = none ↔ s.count = 1

/-- The aggregates of a non-empty group of positive values are sound, and the mean times the count
gives the group's total back. -/
theorem aggRate_sound {vs : List ℝ} (hne : vs ≠ []) (hpos : ∀ v ∈ vs, 0 < v) :
    RateStatsSound (aggRate vs) ∧ (aggRate vs).mean * ((aggRate vs).count : ℝ) = vs.sum := by
  obtain ⟨x, xs, rfl⟩ := List.exists_cons_of_ne_nil hne
  have hmin := foldl_min_eq_npPercentile x xs
  have hmax := foldl_max_eq_npPercentile x xs
  have hsmin := LoadBalance.foldl_min_spec xs x
  have hsmax := LoadBalance.foldl_max_spec xs x
  have hmono := fun {p q : ℝ} (hp : 0 ≤ p) (hpq : p ≤ q) (hq : q ≤ 100) => npPercentile_mono hne hp hpq hq
  have h50 : (0 : ℝ) ≤ 50 ∧ (50 : ℝ) ≤ 100 := by norm_num
  refine ⟨⟨Nat.succ_pos _, hpos _ hsmin.2, ?_, ?_, (npMean_mem hne hsmin.1 hsmax.1).1,
    (npMean_mem hne hsmin.1 hsmax.1).2, ?_⟩, ?_⟩
  · show xs.foldl min x ≤ npMedian (x :: xs)
    rw [hmin, npMedian_eq_npPercentile_fifty]; exact hmono le_rfl h50.1 h50.2
  · show npMedian (x :: xs) ≤ xs.foldl max x
    rw [hmax, npMedian_eq_npPercentile_fifty]; exact hmono h50.1 h50.2 le_rfl
  · show pdStd (x :: xs) = none ↔ xs.length + 1 = 1
    unfold pdStd; split_ifs with h <;> simp_all
  · exact div_mul_cancel₀ _ (Nat.cast_ne_zero.2 (Nat.succ_ne_zero _))

/-- The table `groupby(key)[col].agg([...])` over positive values: its keys are the distinct keys,
every row is sound and has the key of some record, and its means times counts add up to the
values. -/
theorem aggTable_sound {κ : Type} [DecidableEq κ] (le : κ → κ → Bool) {kvs : List (κ × ℝ)}
    (hpos : ∀ p ∈ kvs, 0 < p.2) :
    ((groupBy le kvs).map fun g => (g.1, aggRate g.2)).map Prod.fst =
        sortedUnique le (kvs.map Prod.fst) ∧
      (∀ e ∈ (groupBy le kvs).map fun g => (g.1, aggRate g.2),
        e.1 ∈ kvs.map Prod.fst ∧ RateStatsSound e.2) ∧
      (((groupBy le kvs).map fun g => (g.1, aggRate g.2)).map
        fun e => e.2.mean * (e.2.count : ℝ)).sum = (kvs.map Prod.snd).sum := by
  have hgroup : ∀ g ∈ groupBy le kvs, g.2 ≠ [] ∧ ∀ v ∈ g.2, 0 < v := fun g hg =>
    ⟨ne_nil_of_mem_groupBy _ _ hg, fun v hv => hpos _ (exists_of_mem_groupBy _ _ hg hv)⟩
  refine ⟨by rw [List.map_map]; exact keys_groupBy _ _, ?_, ?_⟩
  · intro e he
    obtain ⟨g, hg, rfl⟩ := List.mem_map.1 he
    exact ⟨((mem_groupBy le kvs).1 hg).1, (aggRate_sound (hgroup g hg).1 (hgroup g hg).2).1⟩
  · -- mean × count gives each group's total back, and the group-by keeps the grand total
    rw [List.map_map, ← sum_groupBy]
    exact congrArg List.sum (List.map_congr_left fun g hg =>
      (aggRate_sound (hgroup g hg).1 (hgroup g hg).2).2)

/-! ## A table -/

/-- What a table over the records `part` satisfies: one row per device of `part`, every row sound,
and no throughput lost. -/
structure DeviceStatsSound (part : List PerfRow) (t : List ((ℤ × ℤ) × RateStats)) : Prop where
  nodup_keys : (t.map Prod.fst).Nodup
  mem_keys : ∀ k, k ∈ t.map Prod.fst ↔ ∃ r ∈ part, (r.xpuId, r.deviceId) = k
  row_sound : ∀ e ∈ t, RateStatsSound e.2
  conserves : (t.map fun e => e.2.mean * (e.2.count : ℝ)).sum = (part.map fun r => r.rate.getD 0).sum

theorem deviceStats_sound {part : List PerfRow} (hpos : ∀ r ∈ part, 0 < r.rate.getD 0) :
    DeviceStatsSound part (deviceStats part) := by
  set kvs := part.map fun r => ((r.xpuId, r.deviceId, r.time), r.rate.getD 0) with hkvs
  set summedDf := (groupBy timeKeyLe kvs).map fun g => ((g.1.1, g.1.2.1), g.2.sum) with hsummed
  -- every per-timestamp sum is positive
  have hsum_pos : ∀ p ∈ summedDf, 0 < p.2 := by
    rintro _ hp
    obtain ⟨g, hg, rfl⟩ := List.mem_map.1 hp
    refine List.sum_pos _ (fun v hv => ?_) (ne_nil_of_mem_groupBy _ _ hg)
    obtain ⟨r, hr, hrv⟩ := List.mem_map.1 (exists_of_mem_groupBy _ _ hg hv)
    exact (Prod.mk.inj hrv).2 ▸ hpos r hr
  have hdev : deviceStats part = (groupBy deviceKeyLe summedDf).map fun g => (g.1, aggRate g.2) := rfl
  obtain ⟨hkeys, hrows, hcons⟩ := aggTable_sound deviceKeyLe hsum_pos
  rw [hdev]
  refine ⟨hkeys ▸ nodup_sortedUnique _ _, fun k => ?_, fun e he => (hrows e he).2, ?_⟩
  · rw [hkeys, mem_sortedUnique]
    simp [hsummed, hkvs, groupBy, List.map_map, Function.comp_def]
  · -- the per-timestamp group-by keeps the grand total too
    rw [hcons, hsummed, List.map_map]
    exact (sum_groupBy _ _).trans (by rw [hkvs, List.map_map]; rfl)

/-! ## The two tables -/

theorem rate_pos_of_isTxRxRow {r : PerfRow} (h : isTxRxRow r = true) : 0 < r.rate.getD 0 := by
  unfold isTxRxRow at h
  cases hr : r.rate <;> simp_all

/-- Every kept record is an XPU record or a switch record. -/
theorem xpuDf_eq_nil_and_switchDf_eq_nil_iff (xpuCount : ℤ) (df : List PerfRow) :
    xpuDf xpuCount df = [] ∧ switchDf xpuCount df = [] ↔ ∀ r ∈ df, isTxRxRow r = false := by
  simp only [xpuDf, switchDf, List.filter_eq_nil_iff, List.mem_filter, and_imp]
  constructor
  · rintro ⟨h1, h2⟩ r hr
    by_contra hk
    rw [Bool.not_eq_false] at hk
    rcases le_or_lt r.xpuId xpuCount with hle | hlt
    · exact h1 r hr hk (decide_eq_true hle)
    · exact h2 r hr hk (decide_eq_true hlt)
  · intro h
    exact ⟨fun r hr hk => absurd hk (by simp [h r hr]), fun r hr hk => absurd hk (by simp [h r hr])⟩

/-- `generate_statistical_plots` writes its tables exactly when some `Tx` or `Rx` record has a
positive rate; `xpu_stats.csv` is sound over the XPU records and `switch_stats.csv` over the switch
records: one row per device, every row ordered, and no throughput lost. -/
theorem generateStatisticalPlots_sound (xpuCount : ℤ) (df : List PerfRow) :
    (generateStatisticalPlots xpuCount df = none ↔ ∀ r ∈ df, isTxRxRow r = false) ∧
    ∀ tables ∈ generateStatisticalPlots xpuCount df,
      (∀ t ∈ tables.xpuStats, DeviceStatsSound (xpuDf xpuCount df) t) ∧
      (∀ t ∈ tables.switchStats, DeviceStatsSound (switchDf xpuCount df) t) := by
  have hx : ∀ r ∈ xpuDf xpuCount df, 0 < r.rate.getD 0 := fun r hr =>
    rate_pos_of_isTxRxRow (List.of_mem_filter (List.mem_of_mem_filter hr))
  have hs : ∀ r ∈ switchDf xpuCount df, 0 < r.rate.getD 0 := fun r hr =>
    rate_pos_of_isTxRxRow (List.of_mem_filter (List.mem_of_mem_filter hr))
  refine ⟨?_, fun tables ht => ?_⟩
  · rw [← xpuDf_eq_nil_and_switchDf_eq_nil_iff xpuCount df, ← List.isEmpty_iff, ← List.isEmpty_iff,
      ← Bool.and_eq_true]
    unfold generateStatisticalPlots
    split_ifs with hb <;> simp [hb]
  · unfold generateStatisticalPlots at ht
    by_cases hb : ((xpuDf xpuCount df).isEmpty && (switchDf xpuCount df).isEmpty) = true
    · rw [if_pos hb] at ht; exact absurd ht (Option.not_mem_none _)
    rw [if_neg hb] at ht
    obtain rfl := Option.mem_some_iff.1 ht
    refine ⟨fun t ht' => ?_, fun t ht' => ?_⟩ <;> dsimp only at ht' <;> split_ifs at ht'
    · exact absurd ht' (Option.not_mem_none _)
    · obtain rfl := Option.mem_some_iff.1 ht'; exact deviceStats_sound hx
    · exact absurd ht' (Option.not_mem_none _)
    · obtain rfl := Option.mem_some_iff.1 ht'; exact deviceStats_sound hs

/-! ## The APP table -/

/-- The records `generate_xpu_total_stats` keeps: `XpuId <= xpu_count`, direction `APP`, and a
positive `pd.to_numeric` rate. -/
noncomputable def isXpuAppRow (xpuCount : ℤ) (r : PerfRow) : Bool :=
  decide (r.xpuId ≤ xpuCount) && r.direction == "APP" && (r.rate.map fun v => decide (0 < v)).getD false

/-- `xpu_app_stats.csv` of `generate_xpu_total_stats`: per `XpuId`, the aggregates of the kept
rates in Gbps (`Rate / 1000`); nothing (`none`, a warning) when no record is kept. -/
noncomputable def generateXpuTotalStats (xpuCount : ℤ) (df : List PerfRow) :
    Option (List (ℤ × RateStats)) :=
  if (df.filter (isXpuAppRow xpuCount)).isEmpty then none
  else some ((groupBy (fun a b => decide (a ≤ b))
    ((df.filter (isXpuAppRow xpuCount)).map fun r => (r.xpuId, r.rate.getD 0 / 1000))).map
      fun g => (g.1, aggRate g.2))

theorem isXpuAppRow_spec {xpuCount : ℤ} {r : PerfRow} (h : isXpuAppRow xpuCount r = true) :
    r.xpuId ≤ xpuCount ∧ 0 < r.rate.getD 0 := by
  unfold isXpuAppRow at h
  cases hr : r.rate <;> simp_all

/-- `generate_xpu_total_stats` writes its table exactly when some XPU has an `APP` record with a
positive rate. The table has one row per such XPU, every row is ordered, and its means times
counts, back in Mbps, add up to the rates of the kept records. -/
theorem generateXpuTotalStats_sound (xpuCount : ℤ) (df : List PerfRow) :
    (generateXpuTotalStats xpuCount df = none ↔ ∀ r ∈ df, isXpuAppRow xpuCount r = false) ∧
    ∀ t ∈ generateXpuTotalStats xpuCount df,
      (t.map Prod.fst).Nodup ∧
      (∀ x, x ∈ t.map Prod.fst ↔ ∃ r ∈ df, isXpuAppRow xpuCount r = true ∧ r.xpuId = x) ∧
      (∀ e ∈ t, e.1 ≤ xpuCount ∧ RateStatsSound e.2) ∧
      (t.map fun e => e.2.mean * (e.2.count : ℝ)).sum * 1000 =
        ((df.filter (isXpuAppRow xpuCount)).map fun r => r.rate.getD 0).sum := by
  set kept := df.filter (isXpuAppRow xpuCount) with hkept
  set kvs := kept.map fun r => (r.xpuId, r.rate.getD 0 / 1000) with hkvs
  have hkv : ∀ p ∈ kvs, p.1 ≤ xpuCount ∧ 0 < p.2 := fun p hp => by
    obtain ⟨r, hr, rfl⟩ := List.mem_map.1 hp
    have := isXpuAppRow_spec (List.of_mem_filter hr)
    exact ⟨this.1, div_pos this.2 (by norm_num)⟩
  obtain ⟨hkeys, hrows, hcons⟩ := aggTable_sound (fun a b => decide (a ≤ b)) fun p hp => (hkv p hp).2
  refine ⟨?_, fun t ht => ?_⟩
  · have hempty : kept.isEmpty ↔ ∀ r ∈ df, isXpuAppRow xpuCount r = false := by
      simp [List.isEmpty_iff, hkept, List.filter_eq_nil_iff]
    rw [generateXpuTotalStats, ← hkept, ← hempty]
    split_ifs with hb <;> simp [hb]
  · rw [generateXpuTotalStats, ← hkept, ← hkvs] at ht
    split_ifs at ht
    · exact absurd ht (Option.not_mem_none _)
    obtain rfl := Option.mem_some_iff.1 ht
    refine ⟨hkeys ▸ nodup_sortedUnique _ _, fun x => ?_, fun e he => ?_, ?_⟩
    · rw [hkeys, mem_sortedUnique]
      simp [hkvs, hkept, and_assoc]
    · obtain ⟨p, hp, hpe⟩ := List.mem_map.1 (hrows e he).1
      exact ⟨hpe ▸ (hkv p hp).1, (hrows e he).2⟩
    · -- back from Gbps to the Mbps of the records
      rw [hcons, hkvs, List.map_map, ← List.sum_map_mul_right]
      exact congrArg List.sum (List.map_congr_left fun r _ => div_mul_cancel₀ _ (by norm_num))

end SueSim.Throughput
