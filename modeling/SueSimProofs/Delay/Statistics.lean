/-
The summary rows of `calculate_statistics` (queueing delay), `calculate_delay_statistics` (XPU
delay) and `calculate_pack_stats` (packets per pack): one shape over a column of samples, over
exact real arithmetic, that differs between the three only in the percentiles it adds and, for the
packs, a total. `np.percentile` interpolates linearly between neighbouring sorted samples, so it is
monotone in the percentile and runs from the minimum (at 0) to the maximum (at 100): every row has
min ≤ 95th ≤ 99th ≤ 99.9th ≤ 99.99th ≤ max, with the median and the mean between the extremes.
SciPy's biased skewness and Fisher kurtosis are NaN exactly on a constant column, and the kurtosis
is at least -2, since the fourth central moment is at least the square of the second.
-/
import SueSimProofs.LoadBalance.Stats
import SueSimProofs.Frame.Cell
import Mathlib.Data.List.Sort
import Mathlib.Algebra.Order.Floor
import Mathlib.Tactic.Linarith
import Mathlib.Tactic.Ring

namespace SueSim.Delay

open SueSim.Frame Cell

/-- `np.mean` of a non-empty column. -/
noncomputable def npMean (xs : List ℝ) : ℝ := xs.sum / xs.length

/-- The `k`-th central moment `mean((x - mean) ** k)` of SciPy's biased estimators. -/
noncomputable def moment (xs : List ℝ) (k : ℕ) : ℝ :=
  (xs.map fun x => (x - npMean xs) ^ k).sum / xs.length

/-- `np.var`: the population variance, the second central moment. -/
noncomputable def npVar (xs : List ℝ) : ℝ := moment xs 2

/-- `np.std`: the population standard deviation. -/
noncomputable def npStd (xs : List ℝ) : ℝ := Real.sqrt (npVar xs)

/-- `scipy.stats.skew` with `bias=True`: `m3 / m2 ** 1.5`, written `m3 / (m2 * sqrt m2)` as
`m2 ≥ 0`; NaN (`none`) on a constant column, where SciPy's test for a zero `m2` is read over exact
arithmetic. -/
noncomputable def skew (xs : List ℝ) : Option ℝ :=
  if moment xs 2 = 0 then none else some (moment xs 3 / (moment xs 2 * Real.sqrt (moment xs 2)))

/-- `scipy.stats.kurtosis` with `fisher=True, bias=True`: `m4 / m2 ** 2 - 3`, NaN on a constant
column. -/
noncomputable def kurtosis (xs : List ℝ) : Option ℝ :=
  if moment xs 2 = 0 then none else some (moment xs 4 / moment xs 2 ^ 2 - 3)

/-- `np.sort`. -/
noncomputable def npSort (xs : List ℝ) : List ℝ := xs.insertionSort (· ≤ ·)

/-- The linear interpolation of the sorted samples `s` at the real rank `rank ∈ [0, n - 1]`: the
sample at its floor, moved towards the next sample by the fractional part. -/
noncomputable def interpolate (s : List ℝ) (rank : ℝ) : ℝ :=
  let lo := ⌊rank⌋₊
  let hi := min (lo + 1) (s.length - 1)
  s.getD lo 0 + (s.getD hi 0 - s.getD lo 0) * (rank - lo)

/-- `np.percentile(xs, q)` with the default `linear` method: the rank `q / 100 * (n - 1)` in the
sorted samples. -/
noncomputable def npPercentile (xs : List ℝ) (q : ℝ) : ℝ :=
  interpolate (npSort xs) (q / 100 * ((xs.length - 1 : ℕ) : ℝ))

/-- `np.median`: the middle sorted sample, or the mean of the two middle ones. -/
noncomputable def npMedian (xs : List ℝ) : ℝ :=
  let s := npSort xs
  if s.length % 2 = 1 then s.getD (s.length / 2) 0
  else (s.getD (s.length / 2 - 1) 0 + s.getD (s.length / 2) 0) / 2

/-- One row of the summary `DataFrame`, field by field, NaN as `none`; `tail` holds the percentile
columns by name. -/
structure Summary where
  count : ℕ
  min : Option ℝ
  max : Option ℝ
  mean : Option ℝ
  median : Option ℝ
  std : Option ℝ
  variance : Option ℝ
  skewness : Option ℝ
  kurtosis : Option ℝ
  tail : List (String × Option ℝ)

/-- A reduction that NumPy hands to the `Series` method of the same name (`np.min`, `np.max`,
`np.mean`, `np.std`, `np.var`): pandas skips the empty cells (`skipna=True`), and the result is
NaN on a column without a value. -/
noncomputable def skipna (f : ℝ → List ℝ → ℝ) (col : List (Cell ℝ)) : Option ℝ :=
  match col.filterMap Cell.value? with
  | [] => none
  | x :: xs => some (f x xs)

/-- The column as the array that `np.median`, `np.percentile` and SciPy's `skew` and `kurtosis`
read: one empty cell makes their result NaN (`none`). -/
def asArray (col : List (Cell ℝ)) : Option (List ℝ) :=
  if col.all Cell.notna then some (col.filterMap Cell.value?) else none

/-- `stats_dict` of a non-empty column, with the percentile columns `qs` of the script. -/
noncomputable def statsDict (qs : List (String × ℝ)) (col : List (Cell ℝ)) : Summary where
  count := col.length
  min := skipna (fun x xs => xs.foldl min x) col
  max := skipna (fun x xs => xs.foldl max x) col
  mean := skipna (fun x xs => npMean (x :: xs)) col
  median := (asArray col).map npMedian
  std := skipna (fun x xs => npStd (x :: xs)) col
  variance := skipna (fun x xs => npVar (x :: xs)) col
  skewness := (asArray col).bind skew
  kurtosis := (asArray col).bind kurtosis
  tail := qs.map fun q => (q.1, (asArray col).map fun xs => npPercentile xs q.2)

/-- The shared body of the three summaries: the empty `pd.DataFrame()` (`none`) on a column
without rows, else `stats_dict`. -/
noncomputable def describe (qs : List (String × ℝ)) (col : List (Cell ℝ)) : Option Summary :=
  if col.isEmpty then none else some (statsDict qs col)

/-- `calculate_statistics` of the `WaitTime_ns` column. -/
noncomputable def calculateStatistics : List (Cell ℝ) → Option Summary :=
  describe [("99th", 99), ("99.9th", 99.9), ("99.99th", 99.99)]

/-- `calculate_delay_statistics` of the `Delay_ns` column. -/
noncomputable def calculateDelayStatistics : List (Cell ℝ) → Option Summary :=
  describe [("95th", 95), ("99th", 99), ("99.9th", 99.9), ("99.99th", 99.99)]

/-- `calculate_pack_stats` of the `PackNums` column: the summary with the 95th and 99th
percentiles, and `total_packets`, the column's `np.sum`, which skips the empty cells. -/
noncomputable def calculatePackStats (col : List (Cell ℝ)) : Option (Summary × ℝ) :=
  (describe [("95th", 95), ("99th", 99)] col).map fun d => (d, (col.filterMap Cell.value?).sum)

/-! ## Sorted samples -/

theorem npSort_perm (xs : List ℝ) : (npSort xs).Perm xs := List.perm_insertionSort _ xs

theorem npSort_sorted (xs : List ℝ) : (npSort xs).Sorted (· ≤ ·) := List.sorted_insertionSort _ xs

@[simp] theorem length_npSort (xs : List ℝ) : (npSort xs).length = xs.length :=
  (npSort_perm xs).length_eq

section Sorted

variable {s : List ℝ} (hs : s.Sorted (· ≤ ·))
include hs

theorem getD_mono {i j : ℕ} (hij : i ≤ j) (hj : j < s.length) : s.getD i 0 ≤ s.getD j 0 := by
  rw [List.getD_eq_getElem _ _ (hij.trans_lt hj), List.getD_eq_getElem _ _ hj]
  simpa using hs.rel_get_of_le (show (⟨i, hij.trans_lt hj⟩ : Fin s.length) ≤ ⟨j, hj⟩ from hij)

/-- Every sample lies between the first and the last of the sorted samples. -/
theorem getD_first_le_of_mem {y : ℝ} (hy : y ∈ s) :
    s.getD 0 0 ≤ y ∧ y ≤ s.getD (s.length - 1) 0 := by
  obtain ⟨⟨k, hk⟩, rfl⟩ := List.get_of_mem hy
  rw [List.get_eq_getElem, ← List.getD_eq_getElem _ 0 hk]
  exact ⟨getD_mono hs (Nat.zero_le k) hk, getD_mono hs (by omega) (by omega)⟩

end Sorted

theorem getD_mem {s : List ℝ} {i : ℕ} (hi : i < s.length) : s.getD i 0 ∈ s := by
  rw [List.getD_eq_getElem _ _ hi]; exact List.getElem_mem hi

/-- `np.min` of a column is its first sorted sample. -/
theorem foldl_min_eq_getD (x : ℝ) (xs : List ℝ) : xs.foldl min x = (npSort (x :: xs)).getD 0 0 := by
  have hp := npSort_perm (x :: xs)
  obtain ⟨hle, hmem⟩ := LoadBalance.foldl_min_spec xs x
  have h0 : (npSort (x :: xs)).getD 0 0 ∈ x :: xs := hp.subset (getD_mem (by simp))
  exact le_antisymm (hle _ h0) (getD_first_le_of_mem (npSort_sorted _) (hp.symm.subset hmem)).1

/-- `np.max` of a column is its last sorted sample. -/
theorem foldl_max_eq_getD (x : ℝ) (xs : List ℝ) :
    xs.foldl max x = (npSort (x :: xs)).getD xs.length 0 := by
  have hp := npSort_perm (x :: xs)
  obtain ⟨hle, hmem⟩ := LoadBalance.foldl_max_spec xs x
  have h0 : (npSort (x :: xs)).getD xs.length 0 ∈ x :: xs := hp.subset (getD_mem (by simp))
  refine le_antisymm ?_ (hle _ h0)
  simpa using (getD_first_le_of_mem (npSort_sorted _) (hp.symm.subset hmem)).2

/-! ## Linear interpolation -/

theorem interpolate_zero (s : List ℝ) : interpolate s 0 = s.getD 0 0 := by
  simp only [interpolate, Nat.floor_zero, Nat.cast_zero, sub_zero, mul_zero, add_zero]

theorem interpolate_last (s : List ℝ) :
    interpolate s ((s.length - 1 : ℕ) : ℝ) = s.getD (s.length - 1) 0 := by
  simp only [interpolate, Nat.floor_natCast, sub_self, mul_zero, add_zero]

section Interpolate

variable {s : List ℝ} (hs : s.Sorted (· ≤ ·)) (hne : s ≠ []) {r r' : ℝ}
include hs hne

/-- The interpolated value lies between the sample at the rank's floor and the next one. -/
theorem interpolate_mem (h0 : 0 ≤ r) (hr : r ≤ ((s.length - 1 : ℕ) : ℝ)) :
    s.getD ⌊r⌋₊ 0 ≤ interpolate s r ∧
      interpolate s r ≤ s.getD (min (⌊r⌋₊ + 1) (s.length - 1)) 0 := by
  have hlen := List.length_pos.2 hne
  have hlo : ⌊r⌋₊ ≤ s.length - 1 := Nat.floor_le_of_le hr
  have hd : 0 ≤ s.getD (min (⌊r⌋₊ + 1) (s.length - 1)) 0 - s.getD ⌊r⌋₊ 0 :=
    sub_nonneg.2 (getD_mono hs (le_min (Nat.le_succ _) hlo) (by omega))
  have hg0 : 0 ≤ r - ⌊r⌋₊ := sub_nonneg.2 (Nat.floor_le h0)
  have hg1 : r - ⌊r⌋₊ ≤ 1 := by linarith [Nat.lt_floor_add_one r]
  simp only [interpolate]
  exact ⟨le_add_of_nonneg_right (mul_nonneg hd hg0), by linarith [mul_le_of_le_one_right hd hg1]⟩

/-- Interpolation between sorted samples is monotone in the rank: on one segment it is linear with
a non-negative slope, and across segments it passes through the samples. -/
theorem interpolate_mono (h0 : 0 ≤ r) (hrr : r ≤ r') (hr' : r' ≤ ((s.length - 1 : ℕ) : ℝ)) :
    interpolate s r ≤ interpolate s r' := by
  have hlen := List.length_pos.2 hne
  have hlo' : ⌊r'⌋₊ ≤ s.length - 1 := Nat.floor_le_of_le hr'
  rcases (Nat.floor_mono hrr).eq_or_lt with heq | hlt
  · have hd : 0 ≤ s.getD (min (⌊r⌋₊ + 1) (s.length - 1)) 0 - s.getD ⌊r⌋₊ 0 :=
      sub_nonneg.2 (getD_mono hs (le_min (Nat.le_succ _) (heq ▸ hlo')) (by omega))
    simp only [interpolate]
    rw [← heq]
    linarith [mul_nonneg hd (sub_nonneg.2 hrr)]
  · calc interpolate s r ≤ s.getD (min (⌊r⌋₊ + 1) (s.length - 1)) 0 :=
          (interpolate_mem hs hne h0 (hrr.trans hr')).2
      _ ≤ s.getD ⌊r'⌋₊ 0 := getD_mono hs (by omega) (by omega)
      _ ≤ interpolate s r' := (interpolate_mem hs hne (h0.trans hrr) hr').1

end Interpolate

/-! ## Percentiles -/

theorem rank_mem {q : ℝ} (n : ℕ) (h0 : 0 ≤ q) (h100 : q ≤ 100) :
    0 ≤ q / 100 * n ∧ q / 100 * n ≤ n := by
  have : q / 100 ≤ 1 := by linarith
  exact ⟨by positivity, mul_le_of_le_one_left (Nat.cast_nonneg n) this⟩

section Percentile

variable {xs : List ℝ} (hne : xs ≠ [])
include hne

theorem npSort_ne_nil : npSort xs ≠ [] := by
  rw [← List.length_pos, length_npSort]; exact List.length_pos.2 hne

/-- `np.percentile` is monotone in the percentile. -/
theorem npPercentile_mono {p q : ℝ} (hp : 0 ≤ p) (hpq : p ≤ q) (hq : q ≤ 100) :
    npPercentile xs p ≤ npPercentile xs q := by
  have hq' := rank_mem (xs.length - 1) (hp.trans hpq) hq
  unfold npPercentile
  refine interpolate_mono (npSort_sorted xs) (npSort_ne_nil hne) (rank_mem _ hp (hpq.trans hq)).1
    (mul_le_mul_of_nonneg_right (by linarith) (Nat.cast_nonneg _)) ?_
  rw [length_npSort]; exact hq'.2

/-- The median lies between the first and the last sorted samples. -/
theorem npMedian_mem :
    (npSort xs).getD 0 0 ≤ npMedian xs ∧ npMedian xs ≤ (npSort xs).getD (xs.length - 1) 0 := by
  have hs := npSort_sorted xs
  have hlen := length_npSort xs
  have hpos := List.length_pos.2 hne
  have hb : ∀ i < xs.length, (npSort xs).getD 0 0 ≤ (npSort xs).getD i 0 ∧
      (npSort xs).getD i 0 ≤ (npSort xs).getD (xs.length - 1) 0 := fun i hi =>
    ⟨getD_mono hs (Nat.zero_le i) (by omega), getD_mono hs (by omega) (by omega)⟩
  simp only [npMedian, hlen]
  split_ifs with hodd
  · exact hb _ (by omega)
  · obtain ⟨h1, h2⟩ := hb (xs.length / 2 - 1) (by omega)
    obtain ⟨h3, h4⟩ := hb (xs.length / 2) (by omega)
    constructor <;> linarith

end Percentile

theorem npPercentile_zero (xs : List ℝ) : npPercentile xs 0 = (npSort xs).getD 0 0 := by
  simp [npPercentile, interpolate_zero]

theorem npPercentile_hundred (xs : List ℝ) :
    npPercentile xs 100 = (npSort xs).getD (xs.length - 1) 0 := by
  have := interpolate_last (npSort xs)
  rw [length_npSort] at this
  simpa [npPercentile] using this

/-- NumPy's min and max of a column are its 0th and 100th percentiles. -/
theorem foldl_min_eq_npPercentile (x : ℝ) (xs : List ℝ) : xs.foldl min x = npPercentile (x :: xs) 0 := by
  rw [npPercentile_zero, foldl_min_eq_getD]

theorem foldl_max_eq_npPercentile (x : ℝ) (xs : List ℝ) :
    xs.foldl max x = npPercentile (x :: xs) 100 := by
  rw [foldl_max_eq_getD, npPercentile_hundred]; rfl

/-- `np.median` is `np.percentile` at 50: on an odd count the rank is the middle index, on an even
count it falls halfway between the two middle samples. -/
theorem npMedian_eq_npPercentile_fifty (xs : List ℝ) : npMedian xs = npPercentile xs 50 := by
  simp only [npMedian, npPercentile, interpolate, length_npSort]
  obtain ⟨k, hk | hk⟩ := Nat.even_or_odd' xs.length
  · rcases k with _ | j
    · -- the empty column: both read the default 0
      simp [hk]
    · -- an even count `2 j + 2`: the rank is `j + 1/2`
      have hr : (50 : ℝ) / 100 * ((xs.length - 1 : ℕ) : ℝ) = (j : ℝ) + 1 / 2 := by
        rw [hk, show 2 * (j + 1) - 1 = 2 * j + 1 by omega]; push_cast; ring
      have hfl : ⌊(j : ℝ) + 1 / 2⌋₊ = j := (Nat.floor_eq_iff (by positivity)).2
        ⟨le_add_of_nonneg_right (by norm_num), add_lt_add_left (by norm_num) _⟩
      rw [hr, hfl, if_neg (by omega), show xs.length / 2 = j + 1 by omega,
        show min (j + 1) (xs.length - 1) = j + 1 by omega, Nat.add_sub_cancel]
      ring
  · -- an odd count `2 k + 1`: the rank is the middle index `k`
    have hr : (50 : ℝ) / 100 * ((xs.length - 1 : ℕ) : ℝ) = ((k : ℕ) : ℝ) := by
      rw [hk, Nat.add_sub_cancel]; push_cast; ring
    rw [hr, Nat.floor_natCast, if_pos (by omega), show xs.length / 2 = k by omega]
    ring

/-! ## Mean and moments -/

theorem npMean_mem {xs : List ℝ} (hne : xs ≠ []) {a b : ℝ} (ha : ∀ x ∈ xs, a ≤ x)
    (hb : ∀ x ∈ xs, x ≤ b) : a ≤ npMean xs ∧ npMean xs ≤ b := by
  have hn : (0 : ℝ) < xs.length := by exact_mod_cast List.length_pos.2 hne
  have h1 := List.card_nsmul_le_sum xs a ha
  have h2 := List.sum_le_card_nsmul xs b hb
  rw [nsmul_eq_mul] at h1 h2
  exact ⟨by rw [npMean, le_div_iff₀ hn]; linarith, by rw [npMean, div_le_iff₀ hn]; linarith⟩

theorem moment_two_nonneg (xs : List ℝ) : 0 ≤ moment xs 2 :=
  div_nonneg (List.sum_nonneg fun _ h => by obtain ⟨x, -, rfl⟩ := List.mem_map.1 h; positivity)
    (Nat.cast_nonneg _)

theorem npStd_sq (xs : List ℝ) : npStd xs ^ 2 = npVar xs := Real.sq_sqrt (moment_two_nonneg xs)

theorem npStd_eq_zero_iff (xs : List ℝ) : npStd xs = 0 ↔ moment xs 2 = 0 := by
  rw [npStd, npVar, Real.sqrt_eq_zero (moment_two_nonneg xs)]

theorem skew_eq_none_iff (xs : List ℝ) : skew xs = none ↔ npStd xs = 0 := by
  rw [npStd_eq_zero_iff]; unfold skew; split_ifs with h <;> simp [h]

theorem kurtosis_eq_none_iff (xs : List ℝ) : kurtosis xs = none ↔ npStd xs = 0 := by
  rw [npStd_eq_zero_iff]; unfold kurtosis; split_ifs with h <;> simp [h]

/-- The mean of squares is at least the square of the mean: the squared deviations from the mean
are non-negative and sum to `Σ y² - n m²`. -/
theorem sq_mean_le_mean_sq (ys : List ℝ) :
    (ys.sum / ys.length) ^ 2 ≤ (ys.map (· ^ 2)).sum / ys.length := by
  rcases eq_or_ne ys [] with rfl | hne
  · simp
  have hn : (0 : ℝ) < ys.length := by exact_mod_cast List.length_pos.2 hne
  set m := ys.sum / ys.length with hm
  have hexpand : ∀ l : List ℝ, (l.map fun y => (y - m) ^ 2).sum =
      (l.map (· ^ 2)).sum - 2 * m * l.sum + l.length * m ^ 2 := fun l => by
    induction l with
    | nil => simp
    | cons y l ih => simp only [List.map_cons, List.sum_cons, ih, List.length_cons]; push_cast; ring
  have hdev : 0 ≤ (ys.map fun y => (y - m) ^ 2).sum :=
    List.sum_nonneg fun _ h => by obtain ⟨y, -, rfl⟩ := List.mem_map.1 h; positivity
  have hsum : ys.sum = ys.length * m := (mul_div_cancel₀ _ hn.ne').symm
  rw [hexpand, hsum] at hdev
  rw [le_div_iff₀ hn]; linarith

theorem moment_two_sq_le (xs : List ℝ) : moment xs 2 ^ 2 ≤ moment xs 4 := by
  have := sq_mean_le_mean_sq (xs.map fun x => (x - npMean xs) ^ 2)
  simpa [moment, List.map_map, Function.comp_def, ← pow_mul] using this

/-- SciPy's Fisher kurtosis is at least -2 wherever it is defined. -/
theorem neg_two_le_kurtosis {xs : List ℝ} {k : ℝ} (h : kurtosis xs = some k) : -2 ≤ k := by
  unfold kurtosis at h
  split_ifs at h with h2
  cases h
  have hpos : 0 < moment xs 2 ^ 2 := pow_pos ((moment_two_nonneg xs).lt_of_ne' h2) 2
  have := moment_two_sq_le xs
  rw [le_sub_iff_add_le, show (-2 : ℝ) + 3 = 1 by norm_num, le_div_iff₀ hpos]
  linarith

/-- The counts' reductions of the load-balance metrics are these reductions of the counts as reals. -/
theorem npStd_natCast (xs : List ℕ) : LoadBalance.npStd xs = npStd (xs.map Nat.cast) := by
  have hmean : LoadBalance.npMean xs = npMean (xs.map Nat.cast) := by
    simp [LoadBalance.npMean, npMean]
  simp [LoadBalance.npStd, LoadBalance.npVar, npStd, npVar, moment, hmean, List.map_map,
    Function.comp_def]

/-! ## Empty cells -/

section Cells

variable {col : List (Cell ℝ)}

theorem filterMap_value?_eq_nil : col.filterMap Cell.value? = [] ↔ ∀ c ∈ col, c = nan := by
  simp only [List.filterMap_eq_nil_iff]
  exact forall₂_congr fun c _ => by cases c <;> simp

@[simp] theorem mem_filterMap_value? {v : ℝ} : v ∈ col.filterMap Cell.value? ↔ val v ∈ col := by
  simp [List.mem_filterMap, value?_eq_some]

theorem skipna_eq_none {f : ℝ → List ℝ → ℝ} : skipna f col = none ↔ ∀ c ∈ col, c = nan := by
  rw [← filterMap_value?_eq_nil, skipna]
  split <;> simp_all

theorem skipna_of_eq_cons {f : ℝ → List ℝ → ℝ} {x : ℝ} {xs : List ℝ}
    (h : col.filterMap Cell.value? = x :: xs) : skipna f col = some (f x xs) := by
  simp only [skipna, h]

theorem asArray_eq_none : asArray col = none ↔ nan ∈ col := by
  have : (col.all Cell.notna = true) ↔ nan ∉ col := by
    simp only [List.all_eq_true, notna_iff]
    exact ⟨fun h hn => h _ hn rfl, fun h c hc hcn => h (hcn ▸ hc)⟩
  unfold asArray
  split_ifs with h <;> simp_all

theorem asArray_of_not_mem (h : nan ∉ col) : asArray col = some (col.filterMap Cell.value?) := by
  rw [asArray, if_pos]
  simpa only [List.all_eq_true, notna_iff] using fun c hc (hcn : c = nan) => h (hcn ▸ hc)

end Cells

/-! ## The summary rows -/

/-- The facts every summary row of a column `col` satisfies, when its percentile columns increase
within `[0, 100]`. The reductions that skip empty cells (min, max, mean, std, variance) are NaN
exactly on a column without a value; the statistics that read the column as an array (median,
percentiles, skewness, kurtosis) are NaN as soon as one cell is empty. What is not NaN is ordered
as a column's statistics are. -/
structure SummarySound (col : List (Cell ℝ)) (d : Summary) : Prop where
  count_eq : d.count = col.length
  min_eq_none : d.min = none ↔ ∀ c ∈ col, c = nan
  max_eq_none : d.max = none ↔ d.min = none
  mean_eq_none : d.mean = none ↔ d.min = none
  std_eq_none : d.std = none ↔ d.min = none
  std_sq : d.variance = d.std.map (· ^ 2)
  min_le_mean : ∀ a ∈ d.min, ∀ m ∈ d.mean, a ≤ m
  mean_le_max : ∀ m ∈ d.mean, ∀ b ∈ d.max, m ≤ b
  median_eq_none : d.median = none ↔ nan ∈ col
  tail_eq_none : ∀ p ∈ d.tail, p.2 = none ↔ nan ∈ col
  skewness_eq_none : d.skewness = none ↔ nan ∈ col ∨ d.std = some 0
  kurtosis_eq_none : d.kurtosis = none ↔ nan ∈ col ∨ d.std = some 0
  min_le_median : ∀ a ∈ d.min, ∀ m ∈ d.median, a ≤ m
  median_le_max : ∀ m ∈ d.median, ∀ b ∈ d.max, m ≤ b
  tail_sorted : (d.tail.map Prod.snd).Pairwise fun u v => ∀ a ∈ u, ∀ b ∈ v, a ≤ b
  tail_mem : ∀ p ∈ d.tail, ∀ v ∈ p.2, (∀ a ∈ d.min, a ≤ v) ∧ ∀ b ∈ d.max, v ≤ b
  neg_two_le_kurtosis : ∀ k ∈ d.kurtosis, -2 ≤ k

section Describe

variable {qs : List (String × ℝ)} {col : List (Cell ℝ)} {d : Summary}

theorem describe_eq_none_iff : describe qs col = none ↔ col = [] := by
  cases col <;> simp [describe]

theorem describe_eq_some (h : describe qs col = some d) : col ≠ [] ∧ statsDict qs col = d := by
  cases col with
  | nil => cases h
  | cons c cs => exact ⟨List.cons_ne_nil _ _, Option.some.inj h⟩

theorem describe_count (h : describe qs col = some d) : d.count = col.length := by
  rw [← (describe_eq_some h).2]; rfl

/-- `np.min` is the least value of the column, -/
theorem describe_min (h : describe qs col = some d) {a : ℝ} (ha : d.min = some a) :
    val a ∈ col ∧ ∀ v, val v ∈ col → a ≤ v := by
  rw [← (describe_eq_some h).2] at ha
  simp only [statsDict, skipna] at ha
  split at ha
  · cases ha
  · next x xs hvs =>
    cases ha
    obtain ⟨hle, hmem⟩ := LoadBalance.foldl_min_spec xs x
    exact ⟨mem_filterMap_value?.1 (hvs ▸ hmem), fun v hv => hle v (hvs ▸ mem_filterMap_value?.2 hv)⟩

/-- `np.max` the greatest, -/
theorem describe_max (h : describe qs col = some d) {b : ℝ} (hb : d.max = some b) :
    val b ∈ col ∧ ∀ v, val v ∈ col → v ≤ b := by
  rw [← (describe_eq_some h).2] at hb
  simp only [statsDict, skipna] at hb
  split at hb
  · cases hb
  · next x xs hvs =>
    cases hb
    obtain ⟨hle, hmem⟩ := LoadBalance.foldl_max_spec xs x
    exact ⟨mem_filterMap_value?.1 (hvs ▸ hmem), fun v hv => hle v (hvs ▸ mem_filterMap_value?.2 hv)⟩

/-- and `np.mean` times the number of values is their sum: the empty cells count neither in the
sum nor in the divisor. -/
theorem describe_mean_mul (h : describe qs col = some d) {m : ℝ} (hm : d.mean = some m) :
    m * col.countP Cell.notna = (col.filterMap Cell.value?).sum := by
  rw [← (describe_eq_some h).2] at hm
  simp only [statsDict, skipna] at hm
  split at hm
  · cases hm
  · next x xs hvs =>
    cases hm
    rw [← length_filterMap_value?, hvs]
    exact div_mul_cancel₀ _ (Nat.cast_ne_zero.2 (List.length_cons x xs ▸ Nat.succ_ne_zero _))

theorem describe_min_eq_none (h : describe qs col = some d) : d.min = none ↔ ∀ c ∈ col, c = nan := by
  rw [← (describe_eq_some h).2]; exact skipna_eq_none

theorem describe_max_eq_none (h : describe qs col = some d) : d.max = none ↔ ∀ c ∈ col, c = nan := by
  rw [← (describe_eq_some h).2]; exact skipna_eq_none

theorem describe_mean_eq_none (h : describe qs col = some d) : d.mean = none ↔ ∀ c ∈ col, c = nan := by
  rw [← (describe_eq_some h).2]; exact skipna_eq_none

end Describe

/-- The reductions that skip empty cells: NaN together, exactly on a column without a value, and
otherwise ordered. -/
theorem statsDict_reductions (qs : List (String × ℝ)) (col : List (Cell ℝ)) :
    let d := statsDict qs col
    (d.min = none ↔ ∀ c ∈ col, c = nan) ∧ (d.max = none ↔ d.min = none) ∧
      (d.mean = none ↔ d.min = none) ∧ (d.std = none ↔ d.min = none) ∧
      d.variance = d.std.map (· ^ 2) ∧ (∀ a ∈ d.min, ∀ m ∈ d.mean, a ≤ m) ∧
      ∀ m ∈ d.mean, ∀ b ∈ d.max, m ≤ b := by
  intro d
  rcases hvs : col.filterMap Cell.value? with _ | ⟨x, xs⟩
  · have hnone : ∀ f : ℝ → List ℝ → ℝ, skipna f col = none := fun f => by simp only [skipna, hvs]
    simp only [d, statsDict, hnone, true_iff, ← filterMap_value?_eq_nil, hvs, Option.map_none',
      Option.not_mem_none, false_imp_iff, imp_true_iff, and_self]
  · have hmean := npMean_mem (List.cons_ne_nil x xs) (LoadBalance.foldl_min_spec xs x).1
      (LoadBalance.foldl_max_spec xs x).1
    simp only [d, statsDict, skipna_of_eq_cons hvs, reduceCtorEq, false_iff, ← filterMap_value?_eq_nil,
      hvs, Option.map_some', npStd_sq, Option.mem_def, Option.some.injEq, iff_self, true_and]
    exact ⟨by rintro _ rfl _ rfl; exact hmean.1, by rintro _ rfl _ rfl; exact hmean.2⟩

/-- The statistics read from the array: NaN as soon as one cell is empty; otherwise the median
and the percentiles lie in order between the extremes, and the skewness and kurtosis are NaN
exactly on a constant column. -/
theorem statsDict_array {qs : List (String × ℝ)} (hqs : ∀ q ∈ qs, 0 ≤ q.2 ∧ q.2 ≤ 100)
    (hsorted : (qs.map Prod.snd).Sorted (· ≤ ·)) {col : List (Cell ℝ)} (hne : col ≠ []) :
    let d := statsDict qs col
    (d.median = none ↔ nan ∈ col) ∧ (∀ p ∈ d.tail, p.2 = none ↔ nan ∈ col) ∧
      (d.skewness = none ↔ nan ∈ col ∨ d.std = some 0) ∧
      (d.kurtosis = none ↔ nan ∈ col ∨ d.std = some 0) ∧
      (∀ a ∈ d.min, ∀ m ∈ d.median, a ≤ m) ∧ (∀ m ∈ d.median, ∀ b ∈ d.max, m ≤ b) ∧
      (d.tail.map Prod.snd).Pairwise (fun u v => ∀ a ∈ u, ∀ b ∈ v, a ≤ b) ∧
      (∀ p ∈ d.tail, ∀ v ∈ p.2, (∀ a ∈ d.min, a ≤ v) ∧ ∀ b ∈ d.max, v ≤ b) ∧
      ∀ k ∈ d.kurtosis, -2 ≤ k := by
  intro d
  by_cases hn : nan ∈ col
  · -- one empty cell: every array statistic is NaN
    have harr := asArray_eq_none.2 hn
    have htail : d.tail.map Prod.snd = qs.map fun _ => none := by
      simp only [d, statsDict, harr, Option.map_none', List.map_map, Function.comp_def]
    have hnone : ∀ p ∈ d.tail, p.2 = none := fun p hp => by
      obtain ⟨_, _, h⟩ := List.mem_map.1 (htail ▸ List.mem_map_of_mem Prod.snd hp)
      exact h.symm
    refine ⟨by simp [d, statsDict, harr, hn], fun p hp => by simp [hnone p hp, hn], by simp [d, statsDict, harr, hn],
      by simp [d, statsDict, harr, hn], by simp [d, statsDict, harr], by simp [d, statsDict, harr], ?_,
      fun p hp v hv => by simp [hnone p hp] at hv, by simp [d, statsDict, harr]⟩
    rw [htail, List.pairwise_map]
    exact List.pairwise_of_forall fun _ _ => by simp
  · -- no empty cell: the array holds every value, and there is one
    obtain ⟨x, xs, hvs⟩ : ∃ x xs, col.filterMap Cell.value? = x :: xs := by
      obtain ⟨c, cs, rfl⟩ := List.exists_cons_of_ne_nil hne
      cases c with
      | nan => exact absurd (List.mem_cons_self _ _) hn
      | val a => exact ⟨a, _, rfl⟩
    have hne' : x :: xs ≠ [] := List.cons_ne_nil x xs
    have harr : asArray col = some (x :: xs) := hvs ▸ asArray_of_not_mem hn
    have hmin : d.min = some (npPercentile (x :: xs) 0) :=
      (skipna_of_eq_cons hvs).trans (congrArg some (foldl_min_eq_npPercentile x xs))
    have hmax : d.max = some (npPercentile (x :: xs) 100) :=
      (skipna_of_eq_cons hvs).trans (congrArg some (foldl_max_eq_npPercentile x xs))
    have hstd : d.std = some (npStd (x :: xs)) := skipna_of_eq_cons hvs
    have hmed := npMedian_mem hne'
    rw [← npPercentile_zero, ← npPercentile_hundred] at hmed
    have hmedian : d.median = some (npMedian (x :: xs)) := by simp [d, statsDict, harr]
    have htail : d.tail = qs.map fun q => (q.1, some (npPercentile (x :: xs) q.2)) := by
      simp [d, statsDict, harr]
    have hskew : d.skewness = skew (x :: xs) := by simp [d, statsDict, harr]
    have hkurt : d.kurtosis = kurtosis (x :: xs) := by simp [d, statsDict, harr]
    rw [hmin, hmax, hstd, hmedian, htail, hskew, hkurt]
    refine ⟨by simp [hn], fun p hp => ?_, by simp [hn, skew_eq_none_iff],
      by simp [hn, kurtosis_eq_none_iff], by rintro _ ⟨⟩ _ ⟨⟩; exact hmed.1,
      by rintro _ ⟨⟩ _ ⟨⟩; exact hmed.2, ?_, ?_, fun k hk => neg_two_le_kurtosis hk⟩
    · obtain ⟨q, -, rfl⟩ := List.mem_map.1 hp
      simp [hn]
    · rw [List.map_map, List.pairwise_map]
      exact (List.pairwise_map.1 hsorted).imp_of_mem fun ha hb hab => by
        rintro _ ⟨⟩ _ ⟨⟩; exact npPercentile_mono hne' (hqs _ ha).1 hab (hqs _ hb).2
    · simp only [List.mem_map]
      rintro _ ⟨q, hq, rfl⟩ _ ⟨⟩
      obtain ⟨h0, h100⟩ := hqs q hq
      exact ⟨by rintro _ ⟨⟩; exact npPercentile_mono hne' le_rfl h0 h100,
        by rintro _ ⟨⟩; exact npPercentile_mono hne' h0 h100 le_rfl⟩

theorem describe_sound {qs : List (String × ℝ)} (hqs : ∀ q ∈ qs, 0 ≤ q.2 ∧ q.2 ≤ 100)
    (hsorted : (qs.map Prod.snd).Sorted (· ≤ ·)) {col : List (Cell ℝ)} {d : Summary}
    (h : describe qs col = some d) : SummarySound col d := by
  obtain ⟨hne, rfl⟩ := describe_eq_some h
  obtain ⟨h1, h2, h3, h4, h5, h6, h7⟩ := statsDict_reductions qs col
  obtain ⟨a1, a2, a3, a4, a5, a6, a7, a8, a9⟩ := statsDict_array hqs hsorted hne
  exact ⟨rfl, h1, h2, h3, h4, h5, h6, h7, a1, a2, a3, a4, a5, a6, a7, a8, a9⟩

/-- `calculate_statistics` writes nothing exactly on a column without rows. Every row it writes is
sound: min ≤ 99th ≤ 99.9th ≤ 99.99th ≤ max and the median and the mean between the extremes,
where they are not NaN; `np.min`, `np.max`, `np.mean`, `np.std` and `np.var` skip empty cells and
are NaN only on a column without a value, while the median, the percentiles, the skewness and the
kurtosis are NaN as soon as one `WaitTime_ns` cell is empty. -/
theorem calculateStatistics_sound (col : List (Cell ℝ)) :
    (calculateStatistics col = none ↔ col = []) ∧ ∀ d ∈ calculateStatistics col, SummarySound col d :=
  ⟨describe_eq_none_iff, fun _ h => describe_sound (by norm_num) (by norm_num) h⟩

/-- `calculate_delay_statistics` likewise, with min ≤ 95th ≤ 99th ≤ 99.9th ≤ 99.99th ≤ max. -/
theorem calculateDelayStatistics_sound (col : List (Cell ℝ)) :
    (calculateDelayStatistics col = none ↔ col = []) ∧
      ∀ d ∈ calculateDelayStatistics col, SummarySound col d :=
  ⟨describe_eq_none_iff, fun _ h => describe_sound (by norm_num) (by norm_num) h⟩

/-- `calculate_pack_stats` likewise, with min ≤ 95th ≤ 99th ≤ max. Its `total_packets` sums the
values and skips the empty cells, as the mean does: it is the mean times the number of values
(not of rows), and `0` on a column without a value. -/
theorem calculatePackStats_sound (col : List (Cell ℝ)) :
    (calculatePackStats col = none ↔ col = []) ∧
      ∀ p ∈ calculatePackStats col, SummarySound col p.1 ∧
        (∀ m ∈ p.1.mean, p.2 = m * col.countP Cell.notna) ∧ (p.1.mean = none → p.2 = 0) := by
  refine ⟨by simp [calculatePackStats, describe_eq_none_iff], fun p hp => ?_⟩
  obtain ⟨d, hd, rfl⟩ := Option.map_eq_some'.1 hp
  refine ⟨describe_sound (by norm_num) (by norm_num) hd, fun m hm => (describe_mean_mul hd hm).symm,
    fun hm => ?_⟩
  rw [filterMap_value?_eq_nil.2 ((describe_mean_eq_none hd).1 hm), List.sum_nil]

end SueSim.Delay
