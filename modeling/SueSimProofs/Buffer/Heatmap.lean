/-
`create_queue_usage_heatmap` of `sue_buffer_queue_analyzer.py`: a `np.histogram2d` of the records
over the time edges `np.linspace(min, max, 50)` and the size edges `np.arange(0, m + 1, step)`,
where `m` is the largest buffer size and `step = max(1, m // 20)`. NumPy puts a value in bin
`searchsorted(edges, v, side='right') - 1`, moves a value on the last edge into the last bin,
and drops values outside the edges.

Every record finds its time bin. The size edges, however, stop at `step * (m // step)`, the
largest multiple of `step` not above `m`. So for `m > 0` the heatmap counts exactly the records
with `0 ≤ size ≤ step * (m // step)`, and on sizes that are never negative it counts every
record exactly when `step` divides `m`. The records of the largest size are lost first at
`m = 41`.
-/
import SueSimProofs.Buffer.Summary

namespace SueSim.Buffer

open SueSim.Frame Cell

/-! ## `np.histogram2d` along one axis -/

section Bins

variable {α : Type} [LinearOrder α]

/-- The bin `np.histogram2d` gives a value `v` along an axis with sorted `edges`:
`searchsorted(edges, v, side='right')`, less one on the last edge, kept when it lies in
`1 … len(edges) - 1`, and then shifted down past the dropped underflow bin. -/
def binIndex (edges : List α) (v : α) : Option ℕ :=
  let right := (edges.filter fun e => e ≤ v).length
  let idx := if edges.getLast? = some v then right - 1 else right
  if 1 ≤ idx ∧ idx ≤ edges.length - 1 then some (idx - 1) else none

theorem lt_of_binIndex {edges : List α} {v : α} {i : ℕ} (h : binIndex edges v = some i) :
    i < edges.length - 1 := by
  unfold binIndex at h
  split_ifs at h <;> dsimp only at h <;> split at h <;> simp only [Option.some.injEq, reduceCtorEq] at h <;>
    omega

/-- `searchsorted(edges, v, 'right')` is the number of edges when `v` is at or past every edge, -/
theorem length_filter_of_le {edges : List α} {v : α} (h : ∀ e ∈ edges, e ≤ v) :
    (edges.filter fun e => e ≤ v).length = edges.length :=
  congrArg List.length (List.filter_eq_self.2 fun e he => decide_eq_true (h e he))

/-- and `0` when `v` is below every edge. -/
theorem length_filter_of_lt {edges : List α} {v : α} (h : ∀ e ∈ edges, v < e) :
    (edges.filter fun e => e ≤ v).length = 0 :=
  List.length_eq_zero.2 (List.filter_eq_nil_iff.2 fun e he hev => not_le.2 (h e he) (of_decide_eq_true hev))

/-- Along an axis of at least two edges from `lo` to `hi`, a value is binned exactly when it
lies in `[lo, hi]`. -/
theorem isSome_binIndex {edges : List α} {lo hi : α} (hlen : 2 ≤ edges.length) (hlo : lo ∈ edges)
    (hhi : edges.getLast? = some hi) (hb : ∀ e ∈ edges, lo ≤ e ∧ e ≤ hi) (v : α) :
    (binIndex edges v).isSome ↔ lo ≤ v ∧ v ≤ hi := by
  have hle : (edges.filter fun e => e ≤ v).length ≤ edges.length := List.length_filter_le _ _
  unfold binIndex
  by_cases hv : v = hi
  · -- on the last edge: every edge counts, less one
    subst hv
    simp only [hhi, if_true, length_filter_of_le fun e he => (hb e he).2]
    rw [if_pos (by omega)]
    exact ⟨fun _ => ⟨(hb lo hlo).2, le_rfl⟩, fun _ => rfl⟩
  · have hlast : edges.getLast? ≠ some v := fun h => hv (Option.some_injective _ (h.symm.trans hhi))
    simp only [hlast, if_false]
    by_cases hlov : lo ≤ v ∧ v ≤ hi
    · -- inside: `lo` counts and `hi` does not
      have h1 : 1 ≤ (edges.filter fun e => e ≤ v).length :=
        List.length_pos_of_mem (List.mem_filter.2 ⟨hlo, decide_eq_true hlov.1⟩)
      have h2 : (edges.filter fun e => e ≤ v).length < edges.length :=
        List.length_filter_lt_length_iff_exists.2 ⟨hi, List.mem_of_getLast?_eq_some hhi,
          by simpa using lt_of_le_of_ne hlov.2 hv⟩
      rw [if_pos ⟨h1, by omega⟩]
      exact ⟨fun _ => hlov, fun _ => rfl⟩
    · -- outside: no edge counts, or every edge does
      rw [if_neg, Option.isSome_none, Bool.false_eq_true, false_iff]
      · exact hlov
      · rcases not_and_or.1 hlov with hlt | hgt
        · rw [length_filter_of_lt fun e he => lt_of_lt_of_le (not_le.1 hlt) (hb e he).1]; omega
        · rw [length_filter_of_le fun e he => (hb e he).2.trans (le_of_not_le hgt)]; omega

end Bins

/-! ## The heatmap -/

/-- `np.linspace(lo, hi, 50)`. -/
noncomputable def timeBins (lo hi : ℝ) : List ℝ :=
  (List.range 50).map fun i : ℕ => lo + i * ((hi - lo) / 49)

/-- `max(1, df['BufferSize'].max() // 20)`. -/
def sizeStep (m : ℤ) : ℤ := max 1 (m / 20)

/-- `np.arange(0, m + 1, step)`: the multiples of `step` from `0` below `m + 1`. -/
def sizeBins (m : ℤ) : List ℤ :=
  (List.range ((m + sizeStep m) / sizeStep m).toNat).map fun i : ℕ => (i : ℤ) * sizeStep m

/-- `df['TimeMs'] = df['TimeUs'] / 1000.0`. -/
noncomputable def BufferRow.timeMs (r : BufferRow) : ℝ := r.timeUs / 1000

/-- `df['BufferSize'].max()`, which skips the empty cells; NaN (`none`) when no size is a value. -/
def bufferSizeMax (df : List BufferRow) : Option ℤ :=
  match df.filterMap (·.bufferSize.value?) with
  | [] => none
  | v :: vs => some (vs.foldl max v)

/-- `heatmap_data` of `create_queue_usage_heatmap`: cell `(i, j)` counts the records in time bin
`i` and size bin `j`; an empty size falls in no bin. Nothing (`none`) when there is no heatmap: an
empty frame returns before any, and on a frame without a size value `np.arange` raises. -/
noncomputable def queueUsageHeatmap : List BufferRow → Option (List (List ℕ))
  | [] => none
  | r :: rs =>
    match bufferSizeMax (r :: rs) with
    | none => none
    | some m =>
      let tEdges := timeBins ((rs.map (·.timeMs)).foldl min r.timeMs) ((rs.map (·.timeMs)).foldl max r.timeMs)
      let sEdges := sizeBins m
      some ((List.range (tEdges.length - 1)).map fun i => (List.range (sEdges.length - 1)).map fun j =>
        (r :: rs).countP fun x =>
          binIndex tEdges x.timeMs = some i ∧ x.bufferSize.value?.bind (binIndex sEdges) = some j)

/-! ## The edges -/

theorem length_timeBins (lo hi : ℝ) : (timeBins lo hi).length = 50 := by simp [timeBins]

theorem getLast?_timeBins (lo hi : ℝ) : (timeBins lo hi).getLast? = some hi := by
  rw [timeBins, List.getLast?_map, List.getLast?_range]
  simp only [OfNat.ofNat_ne_zero, if_false, Option.map_some', Nat.cast_ofNat]
  congr 1; field_simp

theorem mem_timeBins {lo hi : ℝ} (h : lo ≤ hi) {e : ℝ} (he : e ∈ timeBins lo hi) : lo ≤ e ∧ e ≤ hi := by
  obtain ⟨i, hi50, rfl⟩ := List.mem_map.1 he
  have hi' : (i : ℝ) ≤ 49 := by exact_mod_cast Nat.lt_succ_iff.1 (List.mem_range.1 hi50)
  have hd : 0 ≤ (hi - lo) / 49 := div_nonneg (sub_nonneg.2 h) (by norm_num)
  refine ⟨le_add_of_nonneg_right (mul_nonneg (Nat.cast_nonneg _) hd), ?_⟩
  calc lo + i * ((hi - lo) / 49) ≤ lo + 49 * ((hi - lo) / 49) := by gcongr
    _ = hi := by field_simp

/-- Every time of the frame finds its bin. -/
theorem isSome_binIndex_timeBins {lo hi t : ℝ} (hlo : lo ≤ t) (hhi : t ≤ hi) :
    (binIndex (timeBins lo hi) t).isSome := by
  refine (isSome_binIndex (by rw [length_timeBins]; norm_num) ?_ (getLast?_timeBins lo hi)
    (fun e he => mem_timeBins (hlo.trans hhi) he) t).2 ⟨hlo, hhi⟩
  exact List.mem_map.2 ⟨0, List.mem_range.2 (by norm_num), by simp⟩

section Sizes

variable {m : ℤ}

theorem sizeStep_pos (m : ℤ) : 0 < sizeStep m := lt_of_lt_of_le one_pos (le_max_left _ _)

theorem sizeStep_le (hm : 0 < m) : sizeStep m ≤ m :=
  max_le (by omega) (Int.ediv_le_self _ hm.le |>.trans le_rfl)

/-- `np.arange(0, m + 1, step)` has `m // step + 1` edges. -/
theorem edgeCount_sizeBins (m : ℤ) : (m + sizeStep m) / sizeStep m = m / sizeStep m + 1 := by
  rw [show m + sizeStep m = m + 1 * sizeStep m by ring, Int.add_mul_ediv_right _ _ (sizeStep_pos m).ne']

theorem length_sizeBins (hm : 0 < m) : (sizeBins m).length = (m / sizeStep m).toNat + 1 := by
  have : 0 ≤ m / sizeStep m := Int.ediv_nonneg hm.le (sizeStep_pos m).le
  rw [sizeBins, List.length_map, List.length_range, edgeCount_sizeBins m]
  omega

theorem getLast?_sizeBins (hm : 0 < m) :
    (sizeBins m).getLast? = some (sizeStep m * (m / sizeStep m)) := by
  have : 0 ≤ m / sizeStep m := Int.ediv_nonneg hm.le (sizeStep_pos m).le
  rw [sizeBins, List.getLast?_map, List.getLast?_range, edgeCount_sizeBins m, if_neg (by omega),
    Option.map_some', mul_comm]
  congr 2
  omega

theorem mem_sizeBins {e : ℤ} (he : e ∈ sizeBins m) :
    0 ≤ e ∧ e ≤ sizeStep m * (m / sizeStep m) := by
  obtain ⟨i, hi, rfl⟩ := List.mem_map.1 he
  have hi' : (i : ℤ) ≤ m / sizeStep m := by
    have := List.mem_range.1 hi
    rw [edgeCount_sizeBins m] at this
    omega
  refine ⟨mul_nonneg (Nat.cast_nonneg _) (sizeStep_pos m).le, ?_⟩
  calc (i : ℤ) * sizeStep m ≤ m / sizeStep m * sizeStep m :=
        mul_le_mul_of_nonneg_right hi' (sizeStep_pos m).le
    _ = sizeStep m * (m / sizeStep m) := mul_comm _ _

/-- A size is binned exactly when it lies between `0` and the last edge `step * (m // step)`. -/
theorem isSome_binIndex_sizeBins (hm : 0 < m) (b : ℤ) :
    (binIndex (sizeBins m) b).isSome ↔ 0 ≤ b ∧ b ≤ sizeStep m * (m / sizeStep m) := by
  have hlen := length_sizeBins hm
  have hq : 1 ≤ m / sizeStep m := (Int.le_ediv_iff_mul_le (sizeStep_pos m)).2 (by linarith [sizeStep_le hm])
  refine isSome_binIndex (by omega) ?_ (getLast?_sizeBins hm) (fun e he => mem_sizeBins he) b
  exact List.mem_map.2 ⟨0, List.mem_range.2 (by rw [edgeCount_sizeBins m]; omega), by simp⟩

/-- The last edge is `m` itself exactly when `step` divides `m`, and below `m` otherwise. -/
theorem lastEdge_eq_iff : sizeStep m * (m / sizeStep m) = m ↔ sizeStep m ∣ m :=
  ⟨fun h => ⟨m / sizeStep m, h.symm⟩, Int.mul_ediv_cancel'⟩

theorem lastEdge_le : sizeStep m * (m / sizeStep m) ≤ m := by
  have := Int.emod_add_ediv m (sizeStep m)
  have := Int.emod_nonneg m (sizeStep_pos m).ne'
  omega

/-- Up to a largest size of 40 the step divides it, so no size is lost; -/
theorem sizeStep_dvd_of_le (h : m ≤ 40) : sizeStep m ∣ m := by
  rcases lt_or_eq_of_le h with h | rfl
  · rw [show sizeStep m = 1 by unfold sizeStep; omega]; exact one_dvd m
  · decide

/-- at 41 the step is 2, which does not divide it. -/
theorem not_sizeStep_dvd_forty_one : ¬ sizeStep 41 ∣ 41 := by decide

end Sizes

/-! ## Counting the cells -/

/-- Summing the counts of one key over every bin `i < n` counts each item whose key is some bin
once. -/
theorem sum_range_countP {β : Type} (f : β → Option ℕ) (p : β → Prop) [DecidablePred p] {n : ℕ} :
    ∀ {l : List β}, (∀ b ∈ l, ∀ i ∈ f b, i < n) →
      ((List.range n).map fun i => l.countP fun b => f b = some i ∧ p b).sum =
        l.countP fun b => (f b).isSome ∧ p b
  | [], _ => by simp
  | b :: l, h => by
    have hb : ((List.range n).map fun i => if f b = some i ∧ p b then 1 else 0).sum =
        if (f b).isSome ∧ p b then 1 else 0 := by
      cases hfb : f b with
      | none => simp
      | some k =>
        have hk : k < n := h b (List.mem_cons_self _ _) k hfb
        rw [List.sum_map_eq_nsmul_single k _ fun i hik _ => by simp [Ne.symm hik],
          List.count_eq_one_of_mem (List.nodup_range n) (List.mem_range.2 hk)]
        simp
    simp only [List.countP_cons, decide_eq_true_eq, List.sum_map_add]
    rw [sum_range_countP f p fun b' hb' => h b' (List.mem_cons_of_mem _ hb'), hb]

/-- The cells of the heatmap add up to the records binned along both axes. -/
theorem sum_cells {β : Type} (fx fy : β → Option ℕ) {nx ny : ℕ} {l : List β}
    (hx : ∀ b ∈ l, ∀ i ∈ fx b, i < nx) (hy : ∀ b ∈ l, ∀ j ∈ fy b, j < ny) :
    (((List.range nx).map fun i => (List.range ny).map fun j =>
        l.countP fun b => fx b = some i ∧ fy b = some j).map List.sum).sum =
      l.countP fun b => (fx b).isSome ∧ (fy b).isSome := by
  have hrow (i : ℕ) : ((List.range ny).map fun j => l.countP fun b => fx b = some i ∧ fy b = some j).sum =
      l.countP fun b => (fy b).isSome ∧ fx b = some i := by
    rw [← sum_range_countP fy (fun b => fx b = some i) hy]
    congr 1; exact List.map_congr_left fun j _ => List.countP_congr fun b _ => by simp [and_comm]
  rw [List.map_map, Function.comp_def]
  simp only [hrow]
  rw [← sum_range_countP fx (fun b => (fy b).isSome) hx]
  congr 1
  exact List.map_congr_left fun i _ => List.countP_congr fun b _ => by simp [and_comm]

/-- `df['BufferSize'].max()` is a size of some record and bounds every size. -/
theorem bufferSizeMax_spec {df : List BufferRow} {m : ℤ} (h : bufferSizeMax df = some m) :
    (∃ x ∈ df, x.bufferSize = val m) ∧ ∀ x ∈ df, ∀ v, x.bufferSize = val v → v ≤ m := by
  unfold bufferSizeMax at h
  split at h
  · cases h
  · next v vs hvs =>
    cases h
    have hmem : ∀ {w}, w ∈ v :: vs ↔ ∃ x ∈ df, x.bufferSize = val w := fun {w} => by
      rw [← hvs]; simp [List.mem_filterMap, value?_eq_some]
    obtain ⟨hle, hm⟩ := LoadBalance.foldl_max_spec vs v
    exact ⟨hmem.1 hm, fun x hx w hw => hle w (hmem.2 ⟨x, hx, hw⟩)⟩

/-- A record's size is binned exactly when it is a value between `0` and the last edge. -/
theorem isSome_bind_binIndex_sizeBins {m : ℤ} (hm : 0 < m) (c : Cell ℤ) :
    (c.value?.bind (binIndex (sizeBins m))).isSome =
      c.value?.any fun v => 0 ≤ v ∧ v ≤ sizeStep m * (m / sizeStep m) := by
  cases c with
  | nan => rfl
  | val v => exact Bool.eq_iff_iff.2 ((isSome_binIndex_sizeBins hm v).trans decide_eq_true_iff.symm)

/-- Over a frame whose largest buffer size `m` is positive, the heatmap counts exactly the records
with a size `0 ≤ size ≤ step * (m // step)`. When every size is a value and none is negative, it
therefore counts every record exactly when `step` divides `m`: otherwise the records of the
largest size are lost. -/
theorem queueUsageHeatmap_total {df : List BufferRow} {m : ℤ} (hm : bufferSizeMax df = some m)
    (hpos : 0 < m) :
    ∃ cells, queueUsageHeatmap df = some cells ∧
      (cells.map List.sum).sum = df.countP (fun x =>
        x.bufferSize.value?.any fun v => 0 ≤ v ∧ v ≤ sizeStep m * (m / sizeStep m)) ∧
      ((∀ x ∈ df, x.bufferSize.value?.any (0 ≤ ·)) →
        ((cells.map List.sum).sum = df.length ↔ sizeStep m ∣ m)) := by
  obtain ⟨r, rs, rfl⟩ : ∃ r rs, df = r :: rs := by
    cases df with
    | nil => cases hm
    | cons r rs => exact ⟨r, rs, rfl⟩
  set lo := (rs.map (·.timeMs)).foldl min r.timeMs
  set hi := (rs.map (·.timeMs)).foldl max r.timeMs
  have htime (x : BufferRow) (hx : x ∈ r :: rs) : (binIndex (timeBins lo hi) x.timeMs).isSome :=
    isSome_binIndex_timeBins ((LoadBalance.foldl_min_spec _ _).1 _ (List.mem_map_of_mem (·.timeMs) hx))
      ((LoadBalance.foldl_max_spec _ _).1 _ (List.mem_map_of_mem (·.timeMs) hx))
  have hsize (x : BufferRow) (j : ℕ) (hj : x.bufferSize.value?.bind (binIndex (sizeBins m)) = some j) :
      j < (sizeBins m).length - 1 := by
    cases hb : x.bufferSize with
    | nan => rw [hb] at hj; cases hj
    | val v => rw [hb] at hj; exact lt_of_binIndex hj
  suffices htotal : ∀ cells, queueUsageHeatmap (r :: rs) = some cells → (cells.map List.sum).sum =
      (r :: rs).countP fun x => x.bufferSize.value?.any fun v => 0 ≤ v ∧ v ≤ sizeStep m * (m / sizeStep m) by
    obtain ⟨cells, hc⟩ : ∃ cells, queueUsageHeatmap (r :: rs) = some cells := by
      simp only [queueUsageHeatmap, hm, Option.some.injEq, exists_eq']
    refine ⟨cells, hc, htotal cells hc, fun hnn => ?_⟩
    obtain ⟨⟨y, hy, hym⟩, hle⟩ := bufferSizeMax_spec hm
    rw [htotal cells hc, List.countP_eq_length]
    constructor
    · intro hall
      have := hall y hy
      rw [hym] at this
      simp only [value?_val, Option.any_some, decide_eq_true_eq] at this
      exact lastEdge_eq_iff.1 (le_antisymm lastEdge_le this.2)
    · intro hdvd x hx
      rw [lastEdge_eq_iff.2 hdvd]
      have := hnn x hx
      cases hb : x.bufferSize with
      | nan => rw [hb] at this; cases this
      | val v =>
        rw [hb] at this
        simp only [value?_val, Option.any_some, decide_eq_true_eq] at this ⊢
        exact ⟨this, hle x hx v hb⟩
  intro cells hc
  simp only [queueUsageHeatmap, hm, Option.some.injEq] at hc
  subst hc
  exact (sum_cells _ _ (fun _ _ _ hi => lt_of_binIndex hi) (fun x _ j hj => hsize x j hj)).trans
    (List.countP_congr fun x hx => by
    simp only [decide_eq_true_eq, htime x hx, true_and, isSome_bind_binIndex_sizeBins hpos])

theorem queueUsageHeatmap_total_forty_one :
    bufferSizeMax [⟨0, val 1, val 0⟩, ⟨1000000, val 1, val 41⟩] = some 41 ∧ (0 : ℤ) < 41 ∧
    (∃ cells, queueUsageHeatmap [⟨0, val 1, val 0⟩, ⟨1000000, val 1, val 41⟩] = some cells ∧
      (cells.map List.sum).sum = ([⟨0, val 1, val 0⟩, ⟨1000000, val 1, val 41⟩] : List BufferRow).countP
        (fun x => x.bufferSize.value?.any fun v => 0 ≤ v ∧ v ≤ sizeStep 41 * (41 / sizeStep 41)) ∧
      ((∀ x ∈ ([⟨0, val 1, val 0⟩, ⟨1000000, val 1, val 41⟩] : List BufferRow), x.bufferSize.value?.any (0 ≤ ·)) →
        ((cells.map List.sum).sum = ([⟨0, val 1, val 0⟩, ⟨1000000, val 1, val 41⟩] : List BufferRow).length ↔
          sizeStep 41 ∣ 41))) ∧
    (∀ m : ℤ, m ≤ 40 → sizeStep m ∣ m) ∧ ¬ sizeStep 41 ∣ 41 :=
  ⟨rfl, by norm_num, queueUsageHeatmap_total rfl (by norm_num), fun _ h => sizeStep_dvd_of_le h,
    not_sizeStep_dvd_forty_one⟩

end SueSim.Buffer
