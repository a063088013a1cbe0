/-
The per-XPU loops of `main` in `performance_metrics_analyzer.py` (wait times, and packets per pack)
and in `xpu_delay_analyzer.py` (end-to-end delays): for each distinct `XpuId` the rows of that XPU
are summarised, and a group whose summary is empty is skipped. An empty `XpuId` cell (NaN) is kept
by `unique()` but matches no row under `==`, so the rows without an `XpuId` are summarised by no
XPU. The per-XPU rows therefore partition exactly the rows that carry an `XpuId`: one row per such
id, counts adding up to those rows, and pack totals to their packets. An empty value cell (the
last line of a file cut short) is a row of its XPU that `np.sum` and `np.mean` skip. Against the
overall delay row of `xpu_delay_analyzer.py`, every XPU's range lies within the overall range and
the counts differ by the rows without an `XpuId`. When every row has one, both overall extremes
are attained by some XPU, and the overall mean is the mean of the XPUs' means weighted by their
numbers of values, not by their `count`s, which include the empty cells.
-/
import SueSimProofs.Delay.Statistics
import SueSimProofs.Frame.Cell

namespace SueSim.Delay

open SueSim.Frame Cell

/-- A row of a per-XPU sample file: its `XpuId` cell and the cell of the analysed column
(`WaitTime_ns`, `PackNums` or `Delay_ns`). -/
structure Sample where
  xpuId : Cell ℤ
  value : Cell ℝ

/-- `df[df['XpuId'] == xpu_id][col]`: one XPU's cells in file order; NaN matches no row. -/
def xpuSamples (df : List Sample) (x : Cell ℤ) : List (Cell ℝ) :=
  (df.filter fun r => r.xpuId.eqv x).map (·.value)

/-- The loop `for xpu_id in sorted(df['XpuId'].unique())`, which summarises each XPU's cells with
`stat` and skips (`continue`) a group whose summary is empty. -/
def perXpuStats {σ : Type} (stat : List (Cell ℝ) → Option σ) (df : List Sample) :
    List (Cell ℤ × σ) :=
  (sortedUnique Cell.le (df.map (·.xpuId))).filterMap fun x =>
    (stat (xpuSamples df x)).map fun s => (x, s)

/-- The wait-time loop of `main` in `performance_metrics_analyzer.py`. -/
noncomputable def waitTimeStatsPerXpu : List Sample → List (Cell ℤ × Summary) :=
  perXpuStats calculateStatistics

/-- The pack loop of `main` in `performance_metrics_analyzer.py`. -/
noncomputable def packStatsPerXpu : List Sample → List (Cell ℤ × (Summary × ℝ)) :=
  perXpuStats calculatePackStats

/-- The per-XPU loop of `main` in `xpu_delay_analyzer.py`. -/
noncomputable def delayStatsPerXpu : List Sample → List (Cell ℤ × Summary) :=
  perXpuStats calculateDelayStatistics

/-! ## The samples of one XPU -/

/-- The rows that carry an `XpuId`, as key and cell. -/
def idSamples (df : List Sample) : List (Cell ℤ × Cell ℝ) :=
  (df.filter fun r => r.xpuId.notna).map fun r => (r.xpuId, r.value)

theorem xpuSamples_eq (df : List Sample) (x : Cell ℤ) :
    xpuSamples df x = ((idSamples df).filter fun p => p.1 = x).map Prod.snd := by
  simp only [xpuSamples, idSamples, List.filter_map, List.map_map, List.filter_filter,
    Function.comp_def]
  congr 1
  exact List.filter_congr fun r _ => by rcases r with ⟨_ | a, v⟩ <;> cases x <;> simp

theorem length_xpuSamples (df : List Sample) (x : Cell ℤ) :
    (xpuSamples df x).length = ((idSamples df).map Prod.fst).count x := by
  rw [xpuSamples_eq, List.length_map, List.count_eq_countP, List.countP_map,
    List.countP_eq_length_filter]
  congr 1

theorem mem_xpuSamples {df : List Sample} {x : Cell ℤ} {v : Cell ℝ} :
    v ∈ xpuSamples df x ↔ x ≠ nan ∧ ∃ r ∈ df, r.xpuId = x ∧ r.value = v := by
  simp only [xpuSamples, List.mem_map, List.mem_filter, eqv_iff]
  constructor
  · rintro ⟨r, ⟨hr, hx, rfl⟩, rfl⟩; exact ⟨hx, r, hr, rfl, rfl⟩
  · rintro ⟨hx, r, hr, rfl, rfl⟩; exact ⟨r, ⟨hr, hx, rfl⟩, rfl⟩

/-- `np.sum` skips the empty cells: it adds the cells with NaN read as `0`. -/
theorem sum_filterMap_value? (col : List (Cell ℝ)) :
    (col.filterMap Cell.value?).sum = (col.map fun c => c.value?.getD 0).sum := by
  induction col with
  | nil => rfl
  | cons c col ih => cases c <;> simp [ih]

/-! ## The loop -/

section Loop

variable {σ : Type} (stat : List (Cell ℝ) → Option σ) (df : List Sample)

theorem mem_perXpuStats {x : Cell ℤ} {s : σ} :
    (x, s) ∈ perXpuStats stat df ↔ (∃ r ∈ df, r.xpuId = x) ∧ stat (xpuSamples df x) = some s := by
  simp only [perXpuStats, List.mem_filterMap, mem_sortedUnique, List.mem_map, Option.map_eq_some',
    Prod.mk.injEq]
  constructor
  · rintro ⟨a, ha, s', hs', rfl, rfl⟩; exact ⟨ha, hs'⟩
  · rintro ⟨ha, hs⟩; exact ⟨x, ha, s, hs, rfl, rfl⟩

theorem map_fst_perXpuStats : (perXpuStats stat df).map Prod.fst =
    (sortedUnique Cell.le (df.map (·.xpuId))).filter fun x => (stat (xpuSamples df x)).isSome := by
  unfold perXpuStats
  generalize sortedUnique Cell.le (df.map (·.xpuId)) = ks
  induction ks with
  | nil => rfl
  | cons x ks ih => cases h : stat (xpuSamples df x) <;> simp [List.filter_cons, h, ih]

theorem nodup_perXpuStats : ((perXpuStats stat df).map Prod.fst).Nodup := by
  rw [map_fst_perXpuStats]; exact (nodup_sortedUnique _ _).filter _

/-- A quantity that each row takes from its XPU's cells, and that a skipped group would give as
zero, adds up over the loop's rows to its total over every key of the loop. -/
theorem sum_perXpuStats {M : Type} [AddCommMonoid M] (f : Cell ℤ × σ → M) (g : List (Cell ℝ) → M)
    (hsome : ∀ x s, stat (xpuSamples df x) = some s → f (x, s) = g (xpuSamples df x))
    (hnone : ∀ vs, stat vs = none → g vs = 0) :
    ((perXpuStats stat df).map f).sum =
      ((sortedUnique Cell.le (df.map (·.xpuId))).map fun x => g (xpuSamples df x)).sum := by
  unfold perXpuStats
  generalize sortedUnique Cell.le (df.map (·.xpuId)) = ks
  induction ks with
  | nil => rfl
  | cons x ks ih =>
    cases h : stat (xpuSamples df x) with
    | none => simp [h, ih, hnone _ h]
    | some s => simp [h, ih, hsome _ _ h]

end Loop

/-- The keys of the loop cover every row that carries an `XpuId`, each under its own key only:
summed over the keys, the groups' values give those rows' values, -/
theorem sum_keys_xpuSamples (df : List Sample) :
    ((sortedUnique Cell.le (df.map (·.xpuId))).map fun x => ((xpuSamples df x).filterMap Cell.value?).sum).sum =
      (((df.filter fun r => r.xpuId.notna).map (·.value)).filterMap Cell.value?).sum := by
  have hkey (x : Cell ℤ) : ((xpuSamples df x).filterMap Cell.value?).sum =
      ((((idSamples df).map fun p => (p.1, p.2.value?.getD 0)).filter fun p => p.1 = x).map Prod.snd).sum := by
    rw [xpuSamples_eq, sum_filterMap_value?, List.filter_map, List.map_map, List.map_map]
    rfl
  simp only [hkey]
  rw [sum_map_filter_sum (nodup_sortedUnique _ _) fun p hp => ?_]
  · rw [sum_filterMap_value?]
    simp [idSamples, List.map_map, Function.comp_def]
  · obtain ⟨q, hq, rfl⟩ := List.mem_map.1 hp
    obtain ⟨r, hr, rfl⟩ := List.mem_map.1 hq
    exact (mem_sortedUnique _ _ _).2 (List.mem_map_of_mem _ (List.mem_of_mem_filter hr))

/-- and the groups' sizes the number of those rows. -/
theorem sum_keys_length_xpuSamples (df : List Sample) :
    ((sortedUnique Cell.le (df.map (·.xpuId))).map fun x => (xpuSamples df x).length).sum =
      df.countP fun r => r.xpuId.notna := by
  simp only [length_xpuSamples]
  rw [sum_map_count_eq_length (nodup_sortedUnique _ _) fun v hv => ?_]
  · simp [idSamples, List.countP_eq_length_filter]
  · obtain ⟨p, hp, rfl⟩ := List.mem_map.1 hv
    obtain ⟨r, hr, rfl⟩ := List.mem_map.1 hp
    exact (mem_sortedUnique _ _ _).2 (List.mem_map_of_mem _ (List.mem_of_mem_filter hr))

/-! ## Loops over the summary rows -/

section Describe

variable (qs : List (String × ℝ)) (df : List Sample)

/-- The loop over `describe` writes one row per `XpuId` present in the file. -/
theorem mem_keys_perXpuStats_describe (x : Cell ℤ) :
    x ∈ (perXpuStats (describe qs) df).map Prod.fst ↔ x ≠ nan ∧ ∃ r ∈ df, r.xpuId = x := by
  rw [map_fst_perXpuStats, List.mem_filter, mem_sortedUnique, Option.isSome_iff_ne_none, ne_eq,
    describe_eq_none_iff, List.eq_nil_iff_forall_not_mem]
  simp only [List.mem_map, mem_xpuSamples, not_forall, not_not]
  constructor
  · rintro ⟨-, v, hx, r, hr, hrx, -⟩; exact ⟨hx, r, hr, hrx⟩
  · rintro ⟨hx, r, hr, hrx⟩; exact ⟨⟨r, hr, hrx⟩, r.value, hx, r, hr, hrx, rfl⟩

theorem sum_count_perXpuStats_describe :
    ((perXpuStats (describe qs) df).map fun e => e.2.count).sum = df.countP fun r => r.xpuId.notna := by
  rw [sum_perXpuStats (describe qs) df (fun e => e.2.count) List.length (fun _ _ h => describe_count h)
    (fun _ h => by rw [describe_eq_none_iff.1 h]; rfl), sum_keys_length_xpuSamples]

/-- Each XPU's mean, weighted by its number of values, gives its values' sum back; summed over the
loop, the values of the rows that carry an `XpuId`. -/
theorem sum_mean_mul_perXpuStats_describe :
    ((perXpuStats (describe qs) df).map fun e =>
        e.2.mean.getD 0 * ((xpuSamples df e.1).countP Cell.notna : ℝ)).sum =
      (((df.filter fun r => r.xpuId.notna).map (·.value)).filterMap Cell.value?).sum := by
  rw [sum_perXpuStats (describe qs) df (fun e => e.2.mean.getD 0 * ((xpuSamples df e.1).countP Cell.notna : ℝ))
    (fun vs => (vs.filterMap Cell.value?).sum) (fun x s h => ?_)
    (fun _ h => by rw [describe_eq_none_iff.1 h]; rfl), sum_keys_xpuSamples]
  show s.mean.getD 0 * ((xpuSamples df x).countP Cell.notna : ℝ) = ((xpuSamples df x).filterMap Cell.value?).sum
  cases hm : s.mean with
  | none => rw [filterMap_value?_eq_nil.2 ((describe_mean_eq_none h).1 hm)]; simp
  | some m => exact describe_mean_mul h hm

end Describe

/-! ## The scripts' loops -/

/-- The per-XPU loops of `main` in `performance_metrics_analyzer.py`: the wait-time rows are one per
`XpuId` present in the wait-time file, without repetition, and their counts add up to the rows that
carry an `XpuId`; the pack rows' `total_packets` add up to the `PackNums` values of the pack rows
that carry one. Rows with an empty `XpuId` enter no per-XPU row, and empty `PackNums` cells no
total. -/
theorem performanceStatsPerXpu_partition (waits packs : List Sample) :
    ((waitTimeStatsPerXpu waits).map Prod.fst).Nodup ∧
    (∀ x, x ∈ (waitTimeStatsPerXpu waits).map Prod.fst ↔ x ≠ nan ∧ ∃ r ∈ waits, r.xpuId = x) ∧
    ((waitTimeStatsPerXpu waits).map fun e => e.2.count).sum = waits.countP (fun r => r.xpuId.notna) ∧
    ((packStatsPerXpu packs).map fun e => e.2.2).sum =
      (((packs.filter fun r => r.xpuId.notna).map (·.value)).filterMap Cell.value?).sum := by
  refine ⟨nodup_perXpuStats _ _, mem_keys_perXpuStats_describe _ _, sum_count_perXpuStats_describe _ _, ?_⟩
  rw [packStatsPerXpu, sum_perXpuStats calculatePackStats packs (fun e => e.2.2) (fun vs => (vs.filterMap Cell.value?).sum)
    (fun _ _ h => ?_) (fun vs h => ?_), sum_keys_xpuSamples]
  · obtain ⟨d, -, rfl⟩ := Option.map_eq_some'.1 h; rfl
  · rw [describe_eq_none_iff.1 (Option.map_eq_none'.1 h)]; rfl

/-- The per-XPU rows of `main` in `xpu_delay_analyzer.py` against its overall row: the overall
count is the XPUs' counts plus the rows with an empty `XpuId`, and every XPU's min and max lie
within the overall ones. When every row carries an `XpuId`, the overall min and max are some XPU's
min and max, and the overall mean times the number of delay values is the sum of the XPUs' means
times their numbers of values. -/
theorem delayStatsPerXpu_refines {df : List Sample} {o : Summary}
    (ho : calculateDelayStatistics (df.map (·.value)) = some o) :
    o.count = ((delayStatsPerXpu df).map fun e => e.2.count).sum + df.countP (fun r => r.xpuId = nan) ∧
    (∀ e ∈ delayStatsPerXpu df,
      (∀ b ∈ e.2.min, ∃ a ∈ o.min, a ≤ b) ∧ ∀ b ∈ e.2.max, ∃ c ∈ o.max, b ≤ c) ∧
    ((∀ r ∈ df, r.xpuId ≠ nan) →
      (∀ a ∈ o.min, ∃ e ∈ delayStatsPerXpu df, e.2.min = some a) ∧
      (∀ c ∈ o.max, ∃ e ∈ delayStatsPerXpu df, e.2.max = some c) ∧
      ∀ m ∈ o.mean, m * (df.countP fun r => r.value.notna) =
        ((delayStatsPerXpu df).map fun e =>
          e.2.mean.getD 0 * ((xpuSamples df e.1).countP Cell.notna : ℝ)).sum) := by
  have hdelay : delayStatsPerXpu df = perXpuStats (describe _) df := rfl
  -- every XPU's cells are cells of the file
  have hsub : ∀ {x v}, v ∈ xpuSamples df x → v ∈ df.map (·.value) := fun hv => by
    obtain ⟨-, r, hr, -, rfl⟩ := mem_xpuSamples.1 hv
    exact List.mem_map_of_mem _ hr
  -- a value of the file has an overall min and max around it
  have hmin : ∀ {v}, val v ∈ df.map (·.value) → ∃ a ∈ o.min, a ≤ v := fun {v} hv => by
    obtain ⟨a, ha⟩ := Option.ne_none_iff_exists'.1 fun h => nomatch (describe_min_eq_none ho).1 h _ hv
    exact ⟨a, ha, (describe_min ho ha).2 v hv⟩
  have hmax : ∀ {v}, val v ∈ df.map (·.value) → ∃ c ∈ o.max, v ≤ c := fun {v} hv => by
    obtain ⟨c, hc⟩ := Option.ne_none_iff_exists'.1 fun h => nomatch (describe_max_eq_none ho).1 h _ hv
    exact ⟨c, hc, (describe_max ho hc).2 v hv⟩
  have hrange : ∀ e ∈ delayStatsPerXpu df,
      (∀ b ∈ e.2.min, ∃ a ∈ o.min, a ≤ b) ∧ ∀ b ∈ e.2.max, ∃ c ∈ o.max, b ≤ c := by
    rintro ⟨x, d⟩ he
    have hd := ((mem_perXpuStats _ _).1 he).2
    exact ⟨fun b hb => hmin (hsub (describe_min hd hb).1), fun b hb => hmax (hsub (describe_max hd hb).1)⟩
  -- the XPU of a row with a value summarises that value
  have hrow : ∀ r ∈ df, r.xpuId ≠ nan → ∀ v, r.value = val v → ∃ d, (r.xpuId, d) ∈ delayStatsPerXpu df ∧
      (∃ b ∈ d.min, b ≤ v) ∧ ∃ c ∈ d.max, v ≤ c := fun r hr hx v hv => by
    have hmem : val v ∈ xpuSamples df r.xpuId := mem_xpuSamples.2 ⟨hx, r, hr, rfl, hv⟩
    obtain ⟨d, hd⟩ := Option.ne_none_iff_exists'.1 (mt describe_eq_none_iff.1 (List.ne_nil_of_mem hmem))
    obtain ⟨b, hb⟩ := Option.ne_none_iff_exists'.1 fun h => nomatch (describe_min_eq_none hd).1 h _ hmem
    obtain ⟨c, hc⟩ := Option.ne_none_iff_exists'.1 fun h => nomatch (describe_max_eq_none hd).1 h _ hmem
    exact ⟨d, (mem_perXpuStats _ _).2 ⟨⟨r, hr, rfl⟩, hd⟩, ⟨b, hb, (describe_min hd hb).2 v hmem⟩,
      c, hc, (describe_max hd hc).2 v hmem⟩
  refine ⟨?_, hrange, fun hall => ⟨fun a ha => ?_, fun c hc => ?_, fun m hm => ?_⟩⟩
  · rw [describe_count ho, List.length_map, List.length_eq_countP_add_countP (fun r => r.xpuId.notna),
      hdelay, sum_count_perXpuStats_describe]
    congr 1
    exact List.countP_congr fun r _ => by cases r.xpuId <;> simp
  · obtain ⟨r, hr, hrv⟩ := List.mem_map.1 (describe_min ho ha).1
    obtain ⟨d, hd, ⟨b, hb, hba⟩, -⟩ := hrow r hr (hall r hr) a hrv
    obtain ⟨a', ha', hab⟩ := (hrange _ hd).1 b hb
    cases Option.mem_unique ha ha'
    exact ⟨_, hd, hb.trans (congrArg some (le_antisymm hba hab))⟩
  · obtain ⟨r, hr, hrv⟩ := List.mem_map.1 (describe_max ho hc).1
    obtain ⟨d, hd, -, b, hb, hcb⟩ := hrow r hr (hall r hr) c hrv
    obtain ⟨c', hc', hbc⟩ := (hrange _ hd).2 b hb
    cases Option.mem_unique hc hc'
    exact ⟨_, hd, hb.trans (congrArg some (le_antisymm hbc hcb))⟩
  · rw [hdelay, sum_mean_mul_perXpuStats_describe, List.filter_eq_self.2 fun r hr => by
      simpa [notna_iff] using hall r hr]
    simpa only [List.countP_map, Function.comp_def] using describe_mean_mul ho hm

/-- Two XPUs, one of them with an empty delay cell. -/
theorem delayStatsPerXpu_refines_two_xpus : ∃ o, calculateDelayStatistics ([(⟨val 1, val 5⟩ : Sample), ⟨val 2, val 7⟩, ⟨val 1, nan⟩].map (·.value)) = some o ∧
    o.count = ((delayStatsPerXpu [(⟨val 1, val 5⟩ : Sample), ⟨val 2, val 7⟩, ⟨val 1, nan⟩]).map fun e => e.2.count).sum +
      [(⟨val 1, val 5⟩ : Sample), ⟨val 2, val 7⟩, ⟨val 1, nan⟩].countP (fun r => r.xpuId = nan) ∧
    (∀ e ∈ delayStatsPerXpu [(⟨val 1, val 5⟩ : Sample), ⟨val 2, val 7⟩, ⟨val 1, nan⟩],
      (∀ b ∈ e.2.min, ∃ a ∈ o.min, a ≤ b) ∧ ∀ b ∈ e.2.max, ∃ c ∈ o.max, b ≤ c) ∧
    ((∀ r ∈ [(⟨val 1, val 5⟩ : Sample), ⟨val 2, val 7⟩, ⟨val 1, nan⟩], r.xpuId ≠ nan) →
      (∀ a ∈ o.min, ∃ e ∈ delayStatsPerXpu [(⟨val 1, val 5⟩ : Sample), ⟨val 2, val 7⟩, ⟨val 1, nan⟩], e.2.min = some a) ∧
      (∀ c ∈ o.max, ∃ e ∈ delayStatsPerXpu [(⟨val 1, val 5⟩ : Sample), ⟨val 2, val 7⟩, ⟨val 1, nan⟩], e.2.max = some c) ∧
      ∀ m ∈ o.mean, m * ([(⟨val 1, val 5⟩ : Sample), ⟨val 2, val 7⟩, ⟨val 1, nan⟩].countP fun r => r.value.notna) =
        ((delayStatsPerXpu [(⟨val 1, val 5⟩ : Sample), ⟨val 2, val 7⟩, ⟨val 1, nan⟩]).map fun e =>
          e.2.mean.getD 0 * ((xpuSamples [(⟨val 1, val 5⟩ : Sample), ⟨val 2, val 7⟩, ⟨val 1, nan⟩] e.1).countP Cell.notna : ℝ)).sum) :=
  ⟨_, rfl, delayStatsPerXpu_refines rfl⟩

end SueSim.Delay
