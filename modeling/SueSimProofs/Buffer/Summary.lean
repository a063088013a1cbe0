/-
`sue_buffer_queue_analyzer.py`: the loader, which keeps the rows of XPU 1 (or every row when XPU 1
has none), and `generate_summary_statistics`, which writes a table of fourteen metrics and, in its
text report, the total queue change and the average change rate. A file cut short leaves the
`XpuId` and `BufferSize` cells of its last line empty. The size statistics reduce the ndarray
`df['BufferSize'].values`, where one empty cell makes every one of them NaN. Otherwise, over exact
real arithmetic, they come out ordered min ≤ Q25 ≤ median ≤ Q75 ≤ Q95 ≤ max, with the mean
between the extremes. The empty- and non-empty-queue ratios add up to 100 exactly when every size
is a value and none is negative. The total of the absolute changes between time-sorted records
bounds the range max - min. pandas' default sort is not stable, so the bound is proved for every
order of the records of equal time. The average change rate is NumPy's `inf` exactly when the
queue changes while every record has the same time.
-/
import SueSimProofs.Delay.Statistics
import SueSimProofs.LoadBalance.Metrics

namespace SueSim.Buffer

open SueSim.Delay SueSim.Frame Cell
open SueSim.LoadBalance (Ratio)

/-- One row of a `sue_buffer_queue_*.csv` log, restricted to the columns the analysis reads.
`TimeNs`, the first field of a line, is never empty. -/
structure BufferRow where
  timeNs : ℝ
  xpuId : Cell ℤ
  bufferSize : Cell ℤ

/-- `required_columns` of `load_and_preprocess_data`. -/
def requiredColumns : List String := ["TimeNs", "XpuId", "BufferSize"]

/-- `load_and_preprocess_data` on a file with header `columns` and rows `df`: `None` when a required
column is missing, else the rows of XPU 1 (`XpuId == 1`), or every row when XPU 1 has none. -/
def loadAndPreprocessData (columns : List String) (df : List BufferRow) : Option (List BufferRow) :=
  match requiredColumns.filter (· ∉ columns) with
  | [] =>
    let xpu1Data := df.filter fun r => r.xpuId.eqv (val 1)
    if xpu1Data.isEmpty then some df else some xpu1Data
  | _ => none

/-- `df['TimeUs'] = df['TimeNs'] / 1000.0`. -/
noncomputable def BufferRow.timeUs (r : BufferRow) : ℝ := r.timeNs / 1000

/-- A `BufferSize` cell as the float NumPy reads, NaN as `none`. -/
def BufferRow.size? (r : BufferRow) : Option ℝ := r.bufferSize.value?.map (Int.cast)

/-- `df_sorted = df.sort_values('TimeUs')`: the rows in an order of non-decreasing time. pandas'
default quicksort is not stable and leaves the order of rows of equal time open, so the model
takes the sorted frame as given, constrained by this relation. -/
def IsSortedByTime (df dfSorted : List BufferRow) : Prop :=
  dfSorted.Perm df ∧ dfSorted.Sorted fun a b => a.timeUs ≤ b.timeUs

/-- One entry of `diff().abs()`: NaN next to an empty cell, which `sum` skips (`0` here). -/
noncomputable def absDiff : Option ℝ → Option ℝ → ℝ
  | some a, some b => |b - a|
  | _, _ => 0

/-- `df_sorted['BufferSize'].diff().abs().sum()`: the absolute differences of neighbouring cells
(the first difference is NaN, and `sum` skips it). -/
noncomputable def queueChanges : List (Option ℝ) → ℝ
  | x :: y :: rest => absDiff x y + queueChanges (y :: rest)
  | _ => 0

/-- `buffer_sizes = df['BufferSize'].values`, the ndarray the size statistics reduce: NumPy's
`mean`, `std`, `min`, `max`, `np.median` and `np.percentile` are NaN (`none`) on it as soon as
one cell is empty. -/
def sizeArray (df : List BufferRow) : Option (List ℝ) :=
  if df.all (·.bufferSize.notna) then some (df.filterMap BufferRow.size?) else none

/-- The `Value` column of the statistics table, metric by metric, and the two queue-change lines of
the text report; the rate is written only when the queue changes at all. -/
structure BufferSummary where
  totalRecords : ℕ
  timeRangeUsMin : ℝ
  timeRangeUsMax : ℝ
  timeRangeUsDuration : ℝ
  bufferSizeMean : Option ℝ
  bufferSizeStd : Option ℝ
  bufferSizeMin : Option ℝ
  bufferSizeMax : Option ℝ
  bufferSizeMedian : Option ℝ
  bufferSizeQ25 : Option ℝ
  bufferSizeQ75 : Option ℝ
  bufferSizeQ95 : Option ℝ
  zeroBufferRatio : ℝ
  nonZeroBufferRatio : ℝ
  totalQueueChanges : ℝ
  averageChangeRate : Option Ratio

/-- `generate_summary_statistics` of the frame `df`, whose `sort_values` gave `dfSorted`; an empty
frame writes nothing (`none`). A comparison with NaN is false, so an empty cell is neither `== 0`
nor `> 0`. NumPy divides a positive change by a zero duration to `inf`. -/
noncomputable def generateSummaryStatistics (df dfSorted : List BufferRow) : Option BufferSummary :=
  match df with
  | [] => none
  | r :: rs =>
    let bufferSizes := sizeArray (r :: rs)
    let timeMin := (rs.map (·.timeUs)).foldl min r.timeUs
    let timeMax := (rs.map (·.timeUs)).foldl max r.timeUs
    let changes := queueChanges (dfSorted.map BufferRow.size?)
    some
      { totalRecords := (r :: rs).length
        timeRangeUsMin := timeMin
        timeRangeUsMax := timeMax
        timeRangeUsDuration := timeMax - timeMin
        bufferSizeMean := bufferSizes.map npMean
        bufferSizeStd := bufferSizes.map npStd
        bufferSizeMin := bufferSizes.map fun vs => vs.tail.foldl min (vs.headD 0)
        bufferSizeMax := bufferSizes.map fun vs => vs.tail.foldl max (vs.headD 0)
        bufferSizeMedian := bufferSizes.map npMedian
        bufferSizeQ25 := bufferSizes.map fun vs => npPercentile vs 25
        bufferSizeQ75 := bufferSizes.map fun vs => npPercentile vs 75
        bufferSizeQ95 := bufferSizes.map fun vs => npPercentile vs 95
        zeroBufferRatio :=
          ((r :: rs).countP fun r => r.bufferSize.value?.any (· = 0) : ℕ) / (r :: rs).length * 100
        nonZeroBufferRatio :=
          ((r :: rs).countP fun r => r.bufferSize.value?.any (0 < ·) : ℕ) / (r :: rs).length * 100
        totalQueueChanges := changes
        averageChangeRate :=
          if changes > 0 then
            some (if timeMax - timeMin = 0 then .inf else .fin (changes / (timeMax - timeMin) * 1000000))
          else none }

/-! ## The loader -/

theorem loadAndPreprocessData_of_columns {columns : List String}
    (hcols : ∀ c ∈ requiredColumns, c ∈ columns) (df : List BufferRow) :
    loadAndPreprocessData columns df =
      some (if (df.filter fun r => r.xpuId = val 1).isEmpty then df
        else df.filter fun r => r.xpuId = val 1) := by
  have : requiredColumns.filter (· ∉ columns) = [] := List.filter_eq_nil_iff.2 fun c hc => by
    simpa using hcols c hc
  have hx : (df.filter fun r => r.xpuId.eqv (val 1)) = df.filter fun r => r.xpuId = val 1 :=
    List.filter_congr fun r _ => by rw [Bool.eq_iff_iff, eqv_val, decide_eq_true_iff]
  simp only [loadAndPreprocessData, this, hx]
  split_ifs <;> rfl

/-! ## Queue changes -/

theorem queueChanges_nonneg : ∀ l : List (Option ℝ), 0 ≤ queueChanges l
  | [] | [_] => le_rfl
  | x :: y :: rest => by
    have : 0 ≤ absDiff x y := by cases x <;> cases y <;> simp [absDiff]
    exact add_nonneg this (queueChanges_nonneg (y :: rest))

/-- Along a sequence of values, the total change bounds the difference of any two of them. -/
theorem sub_le_queueChanges : ∀ {l : List (Option ℝ)}, (∀ o ∈ l, o ≠ none) →
    ∀ {x y : ℝ}, some x ∈ l → some y ∈ l → y - x ≤ queueChanges l
  | [], _, _, _, hx, _ => absurd hx (List.not_mem_nil _)
  | [a], _, x, y, hx, hy => by
    rw [List.mem_singleton] at hx hy
    rw [Option.some.inj (hy.trans hx.symm), sub_self]
    exact le_rfl
  | a :: b :: rest, hall, x, y, hx, hy => by
    have ih := @sub_le_queueChanges (b :: rest) fun o ho => hall o (List.mem_cons_of_mem _ ho)
    obtain ⟨b', rfl⟩ := Option.ne_none_iff_exists'.1 (hall b (by simp))
    have hb : some b' ∈ some b' :: rest := List.mem_cons_self _ _
    rw [queueChanges]
    rcases List.mem_cons.1 hx with rfl | hx' <;> rcases List.mem_cons.1 hy with hya | hy'
    · rw [Option.some.inj hya, sub_self]
      exact add_nonneg (abs_nonneg _) (queueChanges_nonneg _)
    · calc y - x = (b' - x) + (y - b') := by rw [add_comm, sub_add_sub_cancel]
        _ ≤ |b' - x| + queueChanges (some b' :: rest) :=
          add_le_add (le_abs_self _) (ih hb hy')
    · obtain rfl := hya
      calc y - x = (y - b') + (b' - x) := (sub_add_sub_cancel y b' x).symm
        _ ≤ |b' - y| + queueChanges (some b' :: rest) :=
          add_le_add (abs_sub_comm b' y ▸ le_abs_self _) (ih hx' hb)
    · have : 0 ≤ absDiff a (some b') := by cases a <;> simp [absDiff]
      exact (ih hx' hy').trans (le_add_of_nonneg_left this)

/-! ## Ratios -/

theorem countP_zero_add_countP_pos (df : List BufferRow) :
    df.countP (fun r => r.bufferSize.value?.any (· = 0)) + df.countP (fun r => r.bufferSize.value?.any (0 < ·)) =
      df.countP fun r => r.bufferSize.value?.any (0 ≤ ·) := by
  induction df with
  | nil => rfl
  | cons r df ih =>
    rcases r with ⟨t, x, _ | v⟩
    · simpa using ih
    · simp only [List.countP_cons, value?_val, Option.any_some, decide_eq_true_eq]
      split_ifs <;> omega

/-- A count over `n > 0` records is 100 percent exactly when it is all of them. -/
theorem percent_eq_hundred_iff {c n : ℕ} (hn : 0 < n) : (c : ℝ) / n * 100 = 100 ↔ c = n := by
  have hn' : (n : ℝ) ≠ 0 := by exact_mod_cast hn.ne'
  rw [mul_left_eq_self₀, or_iff_left (by norm_num), div_eq_one_iff_eq hn', Nat.cast_inj]

/-- The zero and non-zero ratios of a frame add up to 100 exactly when every size is a value and
none is negative. -/
theorem ratios_sum_iff (r : BufferRow) (rs : List BufferRow) :
    ((r :: rs).countP (fun r => r.bufferSize.value?.any (· = 0)) : ℝ) / (r :: rs).length * 100 +
      ((r :: rs).countP (fun r => r.bufferSize.value?.any (0 < ·)) : ℝ) / (r :: rs).length * 100 = 100 ↔
      ∀ x ∈ r :: rs, x.bufferSize.value?.any (0 ≤ ·) := by
  rw [← add_mul, ← add_div, ← Nat.cast_add, countP_zero_add_countP_pos,
    percent_eq_hundred_iff (List.length_pos.2 (List.cons_ne_nil _ _)), List.countP_eq_length]

/-- The average change rate is `inf` exactly when the queue changes within one instant. -/
theorem changeRate_eq_inf_iff (c d : ℝ) :
    (if c > 0 then some (if d = 0 then Ratio.inf else .fin (c / d * 1000000)) else none) = some .inf ↔
      0 < c ∧ d = 0 := by
  split_ifs with hc hd <;> simp [*]

/-! ## The size array -/

theorem sizeArray_eq_none {df : List BufferRow} : sizeArray df = none ↔ ∃ r ∈ df, r.bufferSize = nan := by
  have : (df.all fun r => r.bufferSize.notna) = true ↔ ¬∃ r ∈ df, r.bufferSize = nan := by
    simp only [List.all_eq_true, notna_iff, not_exists, not_and]
  unfold sizeArray
  split_ifs with h <;> simp_all

/-- On a frame with no empty size, the array holds every size, and there is one. -/
theorem sizeArray_of_forall {r : BufferRow} {rs : List BufferRow} (h : ∀ x ∈ r :: rs, x.bufferSize ≠ nan) :
    ∃ v vs, sizeArray (r :: rs) = some (v :: vs) ∧ (r :: rs).map BufferRow.size? = (v :: vs).map some := by
  have hmap : ∀ l : List BufferRow, (∀ x ∈ l, x.bufferSize ≠ nan) →
      l.map BufferRow.size? = (l.filterMap BufferRow.size?).map some := fun l => by
    induction l with
    | nil => simp
    | cons x l ih =>
      intro hl
      rcases x with ⟨t, i, _ | v⟩
      · exact absurd rfl (hl _ (List.mem_cons_self _ _))
      · simp [BufferRow.size?, ih fun y hy => hl y (List.mem_cons_of_mem _ hy)]
  obtain ⟨t, i, _ | v⟩ := r
  · exact absurd rfl (h _ (List.mem_cons_self _ _))
  · refine ⟨v, rs.filterMap BufferRow.size?, ?_, hmap _ h⟩
    rw [sizeArray, if_pos (by simpa [notna_iff] using h)]
    rfl

/-! ## The summary -/

/-- What every summary of the rows `df` satisfies. The size statistics are NaN together, exactly
when a `BufferSize` cell is empty, and otherwise ordered, with a range bounded by the total
change. -/
structure BufferSummarySound (df : List BufferRow) (s : BufferSummary) : Prop where
  min_eq_none : s.bufferSizeMin = none ↔ ∃ r ∈ df, r.bufferSize = nan
  eq_none_iff_min : ∀ o ∈ [s.bufferSizeMax, s.bufferSizeMean, s.bufferSizeStd, s.bufferSizeMedian,
    s.bufferSizeQ25, s.bufferSizeQ75, s.bufferSizeQ95], o = none ↔ s.bufferSizeMin = none
  min_le_q25 : ∀ a ∈ s.bufferSizeMin, ∀ b ∈ s.bufferSizeQ25, a ≤ b
  q25_le_median : ∀ a ∈ s.bufferSizeQ25, ∀ b ∈ s.bufferSizeMedian, a ≤ b
  median_le_q75 : ∀ a ∈ s.bufferSizeMedian, ∀ b ∈ s.bufferSizeQ75, a ≤ b
  q75_le_q95 : ∀ a ∈ s.bufferSizeQ75, ∀ b ∈ s.bufferSizeQ95, a ≤ b
  q95_le_max : ∀ a ∈ s.bufferSizeQ95, ∀ b ∈ s.bufferSizeMax, a ≤ b
  min_le_mean : ∀ a ∈ s.bufferSizeMin, ∀ b ∈ s.bufferSizeMean, a ≤ b
  mean_le_max : ∀ a ∈ s.bufferSizeMean, ∀ b ∈ s.bufferSizeMax, a ≤ b
  duration_nonneg : 0 ≤ s.timeRangeUsDuration
  range_le_changes : ∀ a ∈ s.bufferSizeMin, ∀ b ∈ s.bufferSizeMax, b - a ≤ s.totalQueueChanges
  ratios_sum : s.zeroBufferRatio + s.nonZeroBufferRatio = 100 ↔ ∀ r ∈ df, r.bufferSize.value?.any (0 ≤ ·)
  rate_inf : s.averageChangeRate = some .inf ↔ 0 < s.totalQueueChanges ∧ s.timeRangeUsDuration = 0

theorem generateSummaryStatistics_sound {df dfSorted : List BufferRow} (hsort : IsSortedByTime df dfSorted)
    {s : BufferSummary} (h : generateSummaryStatistics df dfSorted = some s) : BufferSummarySound df s := by
  obtain ⟨r, rs, rfl⟩ : ∃ r rs, df = r :: rs := by
    cases df with
    | nil => cases h
    | cons r rs => exact ⟨r, rs, rfl⟩
  cases h
  have hdur : 0 ≤ (rs.map (·.timeUs)).foldl max r.timeUs - (rs.map (·.timeUs)).foldl min r.timeUs := by
    -- the first record's time lies between the two extremes
    have h1 := (LoadBalance.foldl_min_spec (rs.map (·.timeUs)) r.timeUs).1 _ (List.mem_cons_self _ _)
    have h2 := (LoadBalance.foldl_max_spec (rs.map (·.timeUs)) r.timeUs).1 _ (List.mem_cons_self _ _)
    exact sub_nonneg.2 (h1.trans h2)
  by_cases hn : ∃ x ∈ r :: rs, x.bufferSize = nan
  · -- an empty size: every size statistic is NaN
    have harr := sizeArray_eq_none.2 hn
    simp only [harr, Option.map_none']
    exact ⟨iff_of_true rfl hn, by simp, by simp, by simp, by simp, by simp, by simp, by simp, by simp,
      hdur, by simp, ratios_sum_iff r rs, changeRate_eq_inf_iff _ _⟩
  · -- every size is a value: the statistics of the array `v :: vs`
    obtain ⟨v, vs, harr, hmap⟩ := sizeArray_of_forall fun x hx hxn => hn ⟨x, hx, hxn⟩
    have hne : v :: vs ≠ [] := List.cons_ne_nil v vs
    have hmin := foldl_min_eq_npPercentile v vs
    have hmax := foldl_max_eq_npPercentile v vs
    have hsmin := LoadBalance.foldl_min_spec vs v
    have hsmax := LoadBalance.foldl_max_spec vs v
    have hmono := fun {p q : ℝ} (hp : 0 ≤ p) (hpq : p ≤ q) (hq : q ≤ 100) => npPercentile_mono hne hp hpq hq
    -- the sorted cells are a rearrangement of the cells, all of them values
    have hperm : (dfSorted.map BufferRow.size?).Perm ((v :: vs).map some) := hmap ▸ hsort.1.map _
    have hsome : ∀ o ∈ dfSorted.map BufferRow.size?, o ≠ none := fun o ho => by
      obtain ⟨w, -, rfl⟩ := List.mem_map.1 (hperm.subset ho); simp
    have hin : ∀ {w}, w ∈ v :: vs → some w ∈ dfSorted.map BufferRow.size? := fun hw =>
      hperm.symm.subset (List.mem_map_of_mem some hw)
    simp only [harr, Option.map_some', List.tail_cons, List.headD_cons]
    refine ⟨by simpa using hn, by simp, ?_, ?_, ?_, ?_, ?_, ?_, ?_, hdur, ?_, ratios_sum_iff r rs,
      changeRate_eq_inf_iff _ _⟩
      <;> rintro _ ⟨⟩ _ ⟨⟩
    · rw [hmin]; exact hmono le_rfl (by norm_num) (by norm_num)
    · rw [npMedian_eq_npPercentile_fifty]; exact hmono (by norm_num) (by norm_num) (by norm_num)
    · rw [npMedian_eq_npPercentile_fifty]; exact hmono (by norm_num) (by norm_num) (by norm_num)
    · exact hmono (by norm_num) (by norm_num) (by norm_num)
    · rw [hmax]; exact hmono (by norm_num) (by norm_num) le_rfl
    · exact (npMean_mem hne hsmin.1 hsmax.1).1
    · exact (npMean_mem hne hsmin.1 hsmax.1).2
    · exact sub_le_queueChanges hsome (hin hsmin.2) (hin hsmax.2)

/-- On every file with the three required columns and at least one row, `main` gets past the loader
with the rows of XPU 1 (or with every row, when XPU 1 has none). Whatever order `sort_values`
leaves the records of equal time in, the summary it writes holds the NaN law, the orderings, the
ratio law, the range bound and the `inf` rate condition of `BufferSummarySound`. -/
theorem bufferAnalysis_sound {columns : List String} {df : List BufferRow}
    (hcols : ∀ c ∈ requiredColumns, c ∈ columns) (hne : df ≠ []) :
    ∃ rows, loadAndPreprocessData columns df = some rows ∧
      (rows = df.filter (fun r => r.xpuId = val 1) ∨ rows = df ∧ ∀ r ∈ df, r.xpuId ≠ val 1) ∧
      ∀ dfSorted, IsSortedByTime rows dfSorted →
        ∃ s, generateSummaryStatistics rows dfSorted = some s ∧ BufferSummarySound rows s := by
  rw [loadAndPreprocessData_of_columns hcols]
  -- the rows the loader keeps are never empty
  obtain ⟨rows, hrows, hne', heq⟩ : ∃ rows, (rows = df.filter (fun r => r.xpuId = val 1) ∨
      rows = df ∧ ∀ r ∈ df, r.xpuId ≠ val 1) ∧ rows ≠ [] ∧
      rows = if (df.filter fun r => r.xpuId = val 1).isEmpty then df else df.filter fun r => r.xpuId = val 1 := by
    split_ifs with he
    · exact ⟨df, .inr ⟨rfl, by simpa [List.filter_eq_nil_iff] using he⟩, hne, rfl⟩
    · exact ⟨_, .inl rfl, by simpa using he, rfl⟩
  obtain ⟨r, rs, rfl⟩ := List.exists_cons_of_ne_nil hne'
  exact ⟨_, by rw [← heq], hrows, fun dfSorted hsort =>
    ⟨_, rfl, generateSummaryStatistics_sound hsort rfl⟩⟩

theorem bufferAnalysis_sound_two_records :
    (∀ c ∈ requiredColumns, c ∈ requiredColumns) ∧ [(⟨0, val 1, val 3⟩ : BufferRow), ⟨1000, val 1, nan⟩] ≠ [] ∧
    ∃ rows, loadAndPreprocessData requiredColumns [⟨0, val 1, val 3⟩, ⟨1000, val 1, nan⟩] = some rows ∧
      (rows = [(⟨0, val 1, val 3⟩ : BufferRow), ⟨1000, val 1, nan⟩].filter (fun r => r.xpuId = val 1) ∨
        rows = [⟨0, val 1, val 3⟩, ⟨1000, val 1, nan⟩] ∧
          ∀ r ∈ [(⟨0, val 1, val 3⟩ : BufferRow), ⟨1000, val 1, nan⟩], r.xpuId ≠ val 1) ∧
      ∀ dfSorted, IsSortedByTime rows dfSorted →
        ∃ s, generateSummaryStatistics rows dfSorted = some s ∧ BufferSummarySound rows s :=
  ⟨fun _ hc => hc, List.cons_ne_nil _ _, bufferAnalysis_sound (fun _ hc => hc) (List.cons_ne_nil _ _)⟩

end SueSim.Buffer
