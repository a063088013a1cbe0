/-
The overall fairness score of `create_fairness_analysis`: per local XPU, the mean of three
sub-scores of one shape, `max(0, 100 - v * w)`, for the CV (weight 500), the RSD (weight 2.5) and
the max/min ratio less one (weight 50). The code clamps only from below. Every record the metrics
loop stores has `cv ≥ 0`, `rsd ≥ 0` and a finite ratio `≥ 1`, so each sub-score is at most 100,
the score lies in `[0, 100]`, and it is 100 exactly when the XPU's per-SUE counts are all equal.
-/
import SueSimProofs.LoadBalance.Metrics

namespace SueSim.LoadBalance

open SueSim.Frame Cell

/-- `max(0, 100 - v * w)`: the shape shared by the three sub-scores. -/
noncomputable def subScore (w v : ℝ) : ℝ := max 0 (100 - v * w)

/-- `cv_score = max(0, 100 - cv * 500)`. -/
noncomputable def cvScore (cv : ℝ) : ℝ := subScore 500 cv

/-- `rsd_score = max(0, 100 - rsd * 2.5)`. -/
noncomputable def rsdScore (rsd : ℝ) : ℝ := subScore 2.5 rsd

/-- `ratio_score = max(0, 100 - (max_min_ratio - 1) * 50)`; on `float('inf')` Python computes
`max(0, -inf) = 0`. -/
noncomputable def ratioScore : Ratio → ℝ
  | .fin r => subScore 50 (r - 1)
  | .inf => 0

@[simp] theorem ratioScore_fin (r : ℝ) : ratioScore (.fin r) = subScore 50 (r - 1) := rfl

variable {α : Type}

/-- `overall_score` of one local XPU. -/
noncomputable def overallScore (m : LoadBalanceMetrics α) : ℝ :=
  (cvScore m.cv + rsdScore m.rsd + ratioScore m.maxMinRatio) / 3

/-- `fairness_scores`, one per record. The records of `calculateLoadBalanceMetrics` are in the
sorted order of their ids, which `sorted(metrics.keys())` re-establishes. -/
noncomputable def fairnessScores (ms : List (Cell α × LoadBalanceMetrics α)) : List ℝ :=
  ms.map fun p => overallScore p.2

/-! ## The sub-score -/

section SubScore

variable {w v : ℝ}

theorem subScore_nonneg : 0 ≤ subScore w v := le_max_left _ _

theorem subScore_le (hw : 0 ≤ w) (hv : 0 ≤ v) : subScore w v ≤ 100 :=
  max_le (by norm_num) (by nlinarith)

theorem subScore_eq_iff (hw : 0 < w) (hv : 0 ≤ v) : subScore w v = 100 ↔ v = 0 := by
  constructor
  · intro h
    have : 100 - v * w = 100 := by
      rcases max_choice 0 (100 - v * w) with hc | hc <;> rw [subScore, hc] at h
      · norm_num at h
      · exact h
    rcases mul_eq_zero.1 (by linarith : v * w = 0) with hv | hw'
    · exact hv
    · exact absurd hw' hw.ne'
  · rintro rfl; simp [subScore]

end SubScore

/-! ## Scores of stored records -/

namespace MetricsOf

variable [LinearOrder α] {d : Table α} {m : LoadBalanceMetrics α} (h : MetricsOf d m)
include h

theorem cv_nonneg : 0 ≤ m.cv := by
  rw [h.cv_eq]; exact div_nonneg (npStd_nonneg _) h.npMean_pos.le

theorem rsd_nonneg : 0 ≤ m.rsd := by
  rw [h.rsd_eq]; exact mul_nonneg (div_nonneg (npStd_nonneg _) h.idealPerSue_pos.le) (by norm_num)

theorem cv_eq_zero_iff : m.cv = 0 ↔ AllEqual m.actualCounts := by
  rw [h.cv_eq, div_eq_zero_iff, or_iff_left h.npMean_pos.ne', npStd_eq_zero_iff h.actualCounts_ne_nil]

theorem rsd_eq_zero_iff : m.rsd = 0 ↔ AllEqual m.actualCounts := by
  rw [h.rsd_eq, mul_eq_zero, or_iff_left (by norm_num), div_eq_zero_iff,
    or_iff_left h.idealPerSue_pos.ne', npStd_eq_zero_iff h.actualCounts_ne_nil]

/-- The stored ratio is a finite real at least 1, and exactly 1 on equal counts. -/
theorem ratio_ge_one : ∃ r, m.maxMinRatio = .fin r ∧ 1 ≤ r ∧ (r = 1 ↔ AllEqual m.actualCounts) := by
  obtain ⟨c, cs, hcs, hmin, hr⟩ := h.ratio_eq
  have hmin' : (0 : ℝ) < npMin c cs := by exact_mod_cast hmin
  have hle : (npMin c cs : ℝ) ≤ npMax c cs := by exact_mod_cast npMin_le_npMax c cs
  refine ⟨_, hr, (one_le_div hmin').2 hle, ?_⟩
  rw [hcs, div_eq_one_iff_eq hmin'.ne', ← npMax_eq_npMin_iff]
  exact_mod_cast Iff.rfl

theorem cvScore_le : cvScore m.cv ≤ 100 := subScore_le (by norm_num) h.cv_nonneg

theorem rsdScore_le : rsdScore m.rsd ≤ 100 := subScore_le (by norm_num) h.rsd_nonneg

theorem ratioScore_le : ratioScore m.maxMinRatio ≤ 100 := by
  obtain ⟨r, hr, h1, -⟩ := h.ratio_ge_one
  rw [hr]; exact subScore_le (by norm_num) (by linarith)

theorem ratioScore_nonneg : 0 ≤ ratioScore m.maxMinRatio := by
  obtain ⟨r, hr, -⟩ := h.ratio_ge_one
  rw [hr]; exact subScore_nonneg

theorem overallScore_nonneg : 0 ≤ overallScore m := by
  have := h.ratioScore_nonneg
  have : 0 ≤ cvScore m.cv := subScore_nonneg
  have : 0 ≤ rsdScore m.rsd := subScore_nonneg
  unfold overallScore; positivity

theorem overallScore_le : overallScore m ≤ 100 := by
  have := h.cvScore_le; have := h.rsdScore_le; have := h.ratioScore_le
  unfold overallScore; linarith

/-- The score is 100 exactly when each sub-score is, which happens exactly on equal counts. -/
theorem overallScore_eq_iff : overallScore m = 100 ↔ AllEqual m.actualCounts := by
  obtain ⟨r, hr, h1, hr1⟩ := h.ratio_ge_one
  have hcv := subScore_eq_iff (by norm_num : (0 : ℝ) < 500) h.cv_nonneg
  have hrsd := subScore_eq_iff (by norm_num : (0 : ℝ) < 2.5) h.rsd_nonneg
  have hratio := subScore_eq_iff (by norm_num : (0 : ℝ) < 50) (sub_nonneg.2 h1)
  have := h.cvScore_le; have := h.rsdScore_le; have := h.ratioScore_le
  rw [hr, ratioScore_fin] at this
  unfold overallScore cvScore rsdScore at *
  rw [hr, ratioScore_fin]
  constructor
  · intro hs
    exact (h.cv_eq_zero_iff).1 (hcv.1 (by linarith))
  · intro he
    rw [hcv.2 ((h.cv_eq_zero_iff).2 he), hrsd.2 ((h.rsd_eq_zero_iff).2 he),
      hratio.2 (sub_eq_zero.2 (hr1.2 he))]
    norm_num

end MetricsOf

/-- For every table on which the metrics loop returns, each local XPU's overall fairness score
lies in `[0, 100]` although the code clamps only from below, and it is 100 exactly when the XPU's
per-SUE counts are all equal. -/
theorem overallScore_mem_Icc [LinearOrder α] (df : Table α) (ms : List (Cell α × LoadBalanceMetrics α))
    (hms : calculateLoadBalanceMetrics df = .ok ms) (x : Cell α) (m : LoadBalanceMetrics α)
    (hm : (x, m) ∈ ms) :
    0 ≤ overallScore m ∧ overallScore m ≤ 100 ∧ (overallScore m = 100 ↔ AllEqual m.actualCounts) :=
  have h := (mem_calculateLoadBalanceMetrics hms hm).2
  ⟨h.overallScore_nonneg, h.overallScore_le, h.overallScore_eq_iff⟩

theorem overallScore_mem_Icc_two_sues :
    ∃ ms, calculateLoadBalanceMetrics
        ([⟨val 1, val 3, val 0, val 0⟩, ⟨val 1, val 4, val 1, val 1⟩] : Table ℕ) = .ok ms ∧
      ∃ x m, (x, m) ∈ ms ∧
        0 ≤ overallScore m ∧ overallScore m ≤ 100 ∧ (overallScore m = 100 ↔ AllEqual m.actualCounts) := by
  obtain ⟨ms, hms⟩ := (exists_calculateLoadBalanceMetrics_ok_iff
    ([⟨val 1, val 3, val 0, val 0⟩, ⟨val 1, val 4, val 1, val 1⟩] : Table ℕ)).2 (by decide)
  have hx : val 1 ∈ ms.map Prod.fst := by rw [keys_calculateLoadBalanceMetrics hms]; decide
  obtain ⟨⟨x, m⟩, hm, -⟩ := List.mem_map.1 hx
  exact ⟨ms, hms, x, m, hm, overallScore_mem_Icc _ ms hms x m hm⟩

end SueSim.LoadBalance
