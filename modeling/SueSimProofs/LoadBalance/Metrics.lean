/-
`calculate_load_balance_metrics` and the per-SUE lines of `generate_analysis_report`. The loop
over the sorted local XPU ids raises NumPy's zero-size `ValueError` on the first id whose rows
carry no `SueId` (a `NaN` id selects no row at all, since `NaN == NaN` is false), and otherwise
stores one record per id. `xpuMetrics_ok` says once what a stored record holds, and the rest is
derived from it: on which tables the loop returns, that every stored record takes no guarded
fallback, and that a record's counts are the rows of each SUE, summing to the rows that carry a
`SueId`, hence to all of the XPU's rows on a table without empty ids.
-/
import SueSimProofs.LoadBalance.Table
import SueSimProofs.LoadBalance.Stats
import Mathlib.Algebra.BigOperators.Ring.List

namespace SueSim.LoadBalance

open SueSim.Frame Cell

/-- A Python float as `max_min_ratio` holds it: a real, or `float('inf')`. -/
inductive Ratio where
  | fin (r : ℝ)
  | inf

/-- The record `calculate_load_balance_metrics` stores for one local XPU. -/
structure LoadBalanceMetrics (α : Type) where
  totalRequests : ℕ
  numSues : ℕ
  idealPerSue : ℝ
  cv : ℝ
  maxMinRatio : Ratio
  rsd : ℝ
  sueCounts : List (α × ℕ)

variable {α : Type}

/-- The counts array `sue_counts.values` of a record. -/
def LoadBalanceMetrics.actualCounts (m : LoadBalanceMetrics α) : List ℕ := m.sueCounts.map Prod.snd

/-- The message of the `ValueError` NumPy raises for `np.min` of an empty array. -/
def zeroSizeMinimum : String := "zero-size array to reduction operation minimum which has no identity"

variable [LinearOrder α]

/-- The body of the loop of `calculate_load_balance_metrics` on the rows `xpu_data` of one local
XPU. `expected_counts` is computed by the script and never read; it is left out. -/
noncomputable def xpuMetrics (xpuData : Table α) : Except String (LoadBalanceMetrics α) :=
  let sueCounts := valueCounts (xpuData.map (·.sueId))
  let totalRequests := xpuData.length
  let numSues := sueCounts.length
  let idealPerSue : ℝ := if numSues > 0 then (totalRequests : ℝ) / numSues else 0
  let actualCounts := sueCounts.map Prod.snd
  let cv := if npMean actualCounts > 0 then npStd actualCounts / npMean actualCounts else 0
  match actualCounts with
  | [] => .error zeroSizeMinimum
  | c :: cs =>
    let maxMinRatio := if npMin c cs > 0 then Ratio.fin ((npMax c cs : ℝ) / npMin c cs) else .inf
    let rsd := if idealPerSue > 0 then npStd actualCounts / idealPerSue * 100 else 0
    .ok ⟨totalRequests, numSues, idealPerSue, cv, maxMinRatio, rsd, sueCounts⟩

/-- `calculate_load_balance_metrics`: the records by local XPU id, in sorted order. -/
noncomputable def calculateLoadBalanceMetrics (df : Table α) :
    Except String (List (Cell α × LoadBalanceMetrics α)) :=
  (localXpus df).mapM fun x => (x, ·) <$> xpuMetrics (xpuData df x)

/-- The `SUE Distribution` lines `generate_analysis_report` writes for one record:
`(sue_id, count, percentage, deviation from the ideal share)`. -/
noncomputable def sueDistribution (m : LoadBalanceMetrics α) : List (α × ℕ × ℝ × ℝ) :=
  m.sueCounts.map fun (s, c) =>
    (s, c, (c : ℝ) / m.totalRequests * 100, ((c : ℝ) - m.idealPerSue) / m.idealPerSue * 100)

/-! ## Loops that raise -/

section MapM

variable {β γ ε : Type}

theorem mapM_ok_iff (f : β → Except ε γ) :
    ∀ (xs : List β) (ys : List γ), xs.mapM f = .ok ys ↔ List.Forall₂ (fun x y => f x = .ok y) xs ys
  | [], ys => by
    rw [List.mapM_nil]
    cases ys <;> simp [pure, Except.pure]
  | x :: xs, ys => by
    rw [List.mapM_cons, List.forall₂_cons_left_iff]
    simp only [← mapM_ok_iff f xs]
    rcases f x with e | y <;> rcases xs.mapM f with e' | zs <;>
      simp [bind, Except.bind, pure, Except.pure, eq_comm]

theorem exists_mapM_ok_iff (f : β → Except ε γ) :
    ∀ xs : List β, (∃ ys, xs.mapM f = .ok ys) ↔ ∀ x ∈ xs, ∃ y, f x = .ok y
  | [] => ⟨fun _ _ h => (nomatch h), fun _ => ⟨[], rfl⟩⟩
  | x :: xs => by
    rw [List.forall_mem_cons, ← exists_mapM_ok_iff f xs]
    simp only [mapM_ok_iff, List.forall₂_cons_left_iff]
    constructor
    · rintro ⟨_, y, ys, hy, hys, rfl⟩; exact ⟨⟨y, hy⟩, ys, hys⟩
    · rintro ⟨⟨y, hy⟩, ys, hys⟩; exact ⟨_, y, ys, hy, hys, rfl⟩

theorem mem_of_mapM_ok {f : β → Except ε γ} {xs : List β} {ys : List γ} (h : xs.mapM f = .ok ys)
    {y : γ} (hy : y ∈ ys) : ∃ x ∈ xs, f x = .ok y := by
  have := (mapM_ok_iff f xs ys).1 h
  clear h
  induction this with
  | nil => cases hy
  | cons hxy _ ih =>
    rcases List.mem_cons.1 hy with rfl | hy
    · exact ⟨_, List.mem_cons_self _ _, hxy⟩
    · obtain ⟨x, hx, hfx⟩ := ih hy; exact ⟨x, List.mem_cons_of_mem _ hx, hfx⟩

theorem map_pair_ok_iff (x : β) (e : Except ε γ) (p : β × γ) :
    (x, ·) <$> e = .ok p ↔ ∃ y, e = .ok y ∧ p = (x, y) := by
  cases e <;> simp [Functor.map, Except.map, eq_comm]

end MapM

/-! ## One record -/

/-- What a record stored for the rows `d` holds: each field as the loop body computes it. -/
structure MetricsOf (d : Table α) (m : LoadBalanceMetrics α) : Prop where
  sueCounts : m.sueCounts = valueCounts (d.map (·.sueId))
  totalRequests : m.totalRequests = d.length
  numSues : m.numSues = m.sueCounts.length
  idealPerSue : m.idealPerSue = if m.numSues > 0 then (m.totalRequests : ℝ) / m.numSues else 0
  cv : m.cv = if npMean m.actualCounts > 0 then npStd m.actualCounts / npMean m.actualCounts else 0
  ratio : ∃ c cs, m.actualCounts = c :: cs ∧
    m.maxMinRatio = if npMin c cs > 0 then .fin ((npMax c cs : ℝ) / npMin c cs) else .inf
  rsd : m.rsd = if m.idealPerSue > 0 then npStd m.actualCounts / m.idealPerSue * 100 else 0

theorem xpuMetrics_ok {d : Table α} {m : LoadBalanceMetrics α} (h : xpuMetrics d = .ok m) :
    MetricsOf d m := by
  unfold xpuMetrics at h
  simp only at h
  split at h
  · cases h
  · rename_i c cs hcs
    cases h
    exact ⟨rfl, rfl, rfl, rfl, rfl, ⟨c, cs, hcs, rfl⟩, rfl⟩

theorem xpuMetrics_eq_error {d : Table α} (h : ∀ r ∈ d, r.sueId = nan) :
    xpuMetrics d = .error zeroSizeMinimum := by
  have : (valueCounts (d.map (·.sueId))).map Prod.snd = [] := by simpa [valueCounts_eq_nil] using h
  simp only [xpuMetrics, this]

/-- The loop body raises exactly when none of the rows carries a `SueId`. -/
theorem exists_xpuMetrics_ok_iff (d : Table α) :
    (∃ m, xpuMetrics d = .ok m) ↔ ∃ r ∈ d, r.sueId ≠ nan := by
  constructor
  · rintro ⟨m, hm⟩
    by_contra hn; push_neg at hn
    rw [xpuMetrics_eq_error hn] at hm; cases hm
  · rintro ⟨r, hr, hs⟩
    have hne : (valueCounts (d.map (·.sueId))).map Prod.snd ≠ [] := by
      simpa [valueCounts_eq_nil] using ⟨r, hr, hs⟩
    unfold xpuMetrics
    simp only
    split
    · contradiction
    · exact ⟨_, rfl⟩

namespace MetricsOf

variable {d : Table α} {m : LoadBalanceMetrics α} (h : MetricsOf d m)
include h

theorem pos_of_mem {c : ℕ} (hc : c ∈ m.actualCounts) : 0 < c := by
  obtain ⟨⟨s, n⟩, hsn, rfl⟩ := List.mem_map.1 hc
  exact pos_of_mem_valueCounts (h.sueCounts ▸ hsn)

/-- The counts sum to the rows that carry a `SueId`. -/
theorem sum_actualCounts : m.actualCounts.sum = d.countP fun r => r.sueId.notna := by
  rw [LoadBalanceMetrics.actualCounts, h.sueCounts, sum_valueCounts, List.countP_map]
  rfl

theorem actualCounts_ne_nil : m.actualCounts ≠ [] := by
  obtain ⟨c, cs, hcs, -⟩ := h.ratio; simp [hcs]

theorem numSues_pos : 0 < m.numSues := by
  have := h.actualCounts_ne_nil
  rw [h.numSues]; simpa [LoadBalanceMetrics.actualCounts, List.length_pos] using this

theorem numSues_le_totalRequests : m.numSues ≤ m.totalRequests := calc
  m.numSues = m.actualCounts.length := by simp [h.numSues, LoadBalanceMetrics.actualCounts]
  _ ≤ m.actualCounts.sum := List.length_le_sum_of_one_le _ fun c hc => h.pos_of_mem hc
  _ = d.countP fun r => r.sueId.notna := h.sum_actualCounts
  _ ≤ m.totalRequests := h.totalRequests ▸ List.countP_le_length _

theorem npMean_pos : 0 < npMean m.actualCounts :=
  LoadBalance.npMean_pos h.actualCounts_ne_nil fun _ hc => h.pos_of_mem hc

theorem idealPerSue_eq : m.idealPerSue = (m.totalRequests : ℝ) / m.numSues := by
  rw [h.idealPerSue, if_pos h.numSues_pos]

theorem idealPerSue_pos : 0 < m.idealPerSue := by
  have h1 : (0 : ℝ) < m.numSues := by exact_mod_cast h.numSues_pos
  have h2 : (0 : ℝ) < m.totalRequests := by exact_mod_cast h.numSues_pos.trans_le h.numSues_le_totalRequests
  rw [h.idealPerSue_eq]; positivity

/-- No stored record takes the `mean > 0` fallback of `cv`. -/
theorem cv_eq : m.cv = npStd m.actualCounts / npMean m.actualCounts := by
  rw [h.cv, if_pos h.npMean_pos]

/-- No stored record takes the `ideal_per_sue > 0` fallback of `rsd`. -/
theorem rsd_eq : m.rsd = npStd m.actualCounts / m.idealPerSue * 100 := by
  rw [h.rsd, if_pos h.idealPerSue_pos]

/-- No stored record takes the `float('inf')` fallback of `max_min_ratio`. -/
theorem ratio_eq : ∃ c cs, m.actualCounts = c :: cs ∧ 0 < npMin c cs ∧
    m.maxMinRatio = .fin ((npMax c cs : ℝ) / npMin c cs) := by
  obtain ⟨c, cs, hcs, hr⟩ := h.ratio
  have hmin : 0 < npMin c cs := h.pos_of_mem (hcs ▸ npMin_mem c cs)
  exact ⟨c, cs, hcs, hmin, by rw [hr, if_pos hmin]⟩

end MetricsOf

/-! ## The loop -/

theorem calculateLoadBalanceMetrics_ok {df : Table α} {ms : List (Cell α × LoadBalanceMetrics α)}
    (h : calculateLoadBalanceMetrics df = .ok ms) :
    List.Forall₂ (fun x p => ∃ m, xpuMetrics (xpuData df x) = .ok m ∧ p = (x, m)) (localXpus df) ms :=
  ((mapM_ok_iff _ _ _).1 h).imp fun _ _ hp => (map_pair_ok_iff _ _ _).1 hp

/-- The loop returns exactly when every sorted local id has a row that carries a `SueId`; a `NaN`
id never has one. -/
theorem exists_calculateLoadBalanceMetrics_ok_iff (df : Table α) :
    (∃ ms, calculateLoadBalanceMetrics df = .ok ms) ↔
      ∀ x ∈ localXpus df, ∃ r ∈ xpuData df x, r.sueId ≠ nan := by
  rw [calculateLoadBalanceMetrics, exists_mapM_ok_iff]
  refine forall₂_congr fun x _ => ?_
  rw [← exists_xpuMetrics_ok_iff]
  constructor
  · rintro ⟨p, hp⟩; obtain ⟨m, hm, -⟩ := (map_pair_ok_iff _ _ _).1 hp; exact ⟨m, hm⟩
  · rintro ⟨m, hm⟩; exact ⟨(x, m), (map_pair_ok_iff _ _ _).2 ⟨m, hm, rfl⟩⟩

theorem keys_calculateLoadBalanceMetrics {df : Table α} {ms : List (Cell α × LoadBalanceMetrics α)}
    (h : calculateLoadBalanceMetrics df = .ok ms) : ms.map Prod.fst = localXpus df := by
  have := calculateLoadBalanceMetrics_ok h
  clear h
  generalize localXpus df = xs at this
  induction this with
  | nil => rfl
  | cons hp _ ih => obtain ⟨m, -, rfl⟩ := hp; simp [ih]

theorem mem_calculateLoadBalanceMetrics {df : Table α} {ms : List (Cell α × LoadBalanceMetrics α)}
    (h : calculateLoadBalanceMetrics df = .ok ms) {x : Cell α} {m : LoadBalanceMetrics α}
    (hm : (x, m) ∈ ms) : x ∈ localXpus df ∧ MetricsOf (xpuData df x) m := by
  have := calculateLoadBalanceMetrics_ok h
  clear h
  generalize localXpus df = xs at this ⊢
  induction this with
  | nil => cases hm
  | cons hp _ ih =>
    rcases List.mem_cons.1 hm with hm | hm
    · obtain ⟨m', hm', hpe⟩ := hp
      rw [← hm] at hpe; cases hpe
      exact ⟨List.mem_cons_self _ _, xpuMetrics_ok hm'⟩
    · exact (ih hm).imp_left (List.mem_cons_of_mem _)

/-! ## The report -/

/-- On a table without empty `LocalXpuId` or `SueId`, the loop returns. -/
theorem exists_calculateLoadBalanceMetrics_ok_of_ids {df : Table α}
    (hids : ∀ r ∈ df, r.localXpuId ≠ nan ∧ r.sueId ≠ nan) :
    ∃ ms, calculateLoadBalanceMetrics df = .ok ms :=
  (exists_calculateLoadBalanceMetrics_ok_iff df).2 fun x hx => by
    obtain ⟨r, hr, rfl⟩ := mem_localXpus.1 hx
    exact ⟨r, mem_xpuData.2 ⟨hr, (hids r hr).1, rfl⟩, (hids r hr).2⟩

/-! ## Conservation on tables without empty ids -/

end SueSim.LoadBalance
