/-
The summary of `generate_analysis_report`: the per-SUE deviation column, the three averages
`avg_cv`, `avg_rsd` and `avg_ratio`, the assessment read off them and the recommendations. `np.mean`
of no record is `NaN`, modelled as `none`, and every comparison with it is false. A stored record's
RSD is `std / (total / numSues) * 100` and its CV `std / (counted / numSues)`, where `counted` is the
number of rows that carry a `SueId`; as `counted ≤ total`, the RSD is at most 100 times the CV, and
equal to it on a table without empty `SueId`. So the report's RSD tests never decide the verdict
and the hash-seed advice never comes without the hash-algorithm advice. Likewise a record's
deviations from the ideal share sum to `(counted - total) * 100 / ideal`: to zero exactly when every
row of its XPU carries a `SueId`, and below zero otherwise.
-/
import SueSimProofs.LoadBalance.Fairness
import SueSimProofs.Delay.Statistics

namespace SueSim.LoadBalance

open SueSim.Frame Cell

/-! ## Floats that may be `NaN` -/

/-- `np.mean` of a float column: `NaN` (`none`) for an empty one. -/
noncomputable def floatMean (xs : List ℝ) : Option ℝ :=
  if xs.isEmpty then none else some (Delay.npMean xs)

/-- Python's `x < c` for a float `x` that may be `NaN`. -/
noncomputable def floatLt : Option ℝ → ℝ → Bool
  | some v, c => decide (v < c)
  | none, _ => false

/-- Python's `x > c` for a float `x` that may be `NaN`. -/
noncomputable def floatGt : Option ℝ → ℝ → Bool
  | some v, c => decide (c < v)
  | none, _ => false

/-- Float addition on `max_min_ratio` values: `inf` absorbs. -/
def Ratio.add : Ratio → Ratio → Ratio
  | .fin a, .fin b => .fin (a + b)
  | _, _ => .inf

/-- Float division of a `max_min_ratio` value by a count. -/
noncomputable def Ratio.div : Ratio → ℝ → Ratio
  | .fin a, n => .fin (a / n)
  | .inf, _ => .inf

/-- `np.mean` of the `max_min_ratio` column: its sum over its length, `NaN` for an empty one. -/
noncomputable def ratioMean (rs : List Ratio) : Option Ratio :=
  if rs.isEmpty then none else some ((rs.foldr Ratio.add (.fin 0)).div rs.length)

/-- Python's `x < c` for a ratio that may be `inf` or `NaN`. -/
noncomputable def ratioLt : Option Ratio → ℝ → Bool
  | some (.fin r), c => decide (r < c)
  | _, _ => false

/-- Python's `x > c` for a ratio that may be `inf` or `NaN`. -/
noncomputable def ratioGt : Option Ratio → ℝ → Bool
  | some (.fin r), c => decide (c < r)
  | some .inf, _ => true
  | none, _ => false

/-! ## The report -/

/-- `avg_cv`, `avg_rsd` and `avg_ratio` of the `SUMMARY AND RECOMMENDATIONS` section. -/
structure ReportSummary where
  avgCv : Option ℝ
  avgRsd : Option ℝ
  avgRatio : Option Ratio

def excellentAssessment : String := "  EXCELLENT: Load balancing is working very well\n"

def goodAssessment : String := "   GOOD: Load balancing is working reasonably well\n"

def poorAssessment : String := "  POOR: Load balancing needs improvement\n"

def hashAlgorithmAdvice : String :=
  "  - Consider using a different hash algorithm or larger prime number\n"

def hashSeedAdvice : String := "  - Check if hash seeds are properly distributed across XPUs\n"

def sueClientAdvice : List String :=
  ["  - Consider increasing the number of SUE clients\n",
    "  - Verify that all SUE clients are properly registered\n"]

/-- The line written under `Assessment:`. -/
noncomputable def assessment (s : ReportSummary) : String :=
  if floatLt s.avgCv 0.1 && floatLt s.avgRsd 10 && ratioLt s.avgRatio 1.5 then excellentAssessment
  else if floatLt s.avgCv 0.2 && floatLt s.avgRsd 20 && ratioLt s.avgRatio 2.0 then goodAssessment
  else poorAssessment

/-- The lines written under `Recommendations:`. -/
noncomputable def recommendations (s : ReportSummary) : List String :=
  (if floatGt s.avgCv 0.2 then [hashAlgorithmAdvice] else []) ++
    (if floatGt s.avgRsd 20 then [hashSeedAdvice] else []) ++
    (if ratioGt s.avgRatio 2.0 then sueClientAdvice else [])

/-- What `generate_analysis_report` writes from the records: per local XPU the `SUE Distribution`
lines, then the summary, the assessment and the recommendations. The header lines, which read
the table and not the records, and the number formatting are left out. -/
structure AnalysisReport (α : Type) where
  distributions : List (Cell α × List (α × ℕ × ℝ × ℝ))
  summary : ReportSummary
  assessment : String
  recommendations : List String

variable {α : Type}

/-- `generate_analysis_report` on the records `metrics`, already in the sorted order of their ids
that `sorted(metrics.keys())` re-establishes. -/
noncomputable def generateAnalysisReport (ms : List (Cell α × LoadBalanceMetrics α)) :
    AnalysisReport α :=
  let s : ReportSummary := ⟨floatMean (ms.map (·.2.cv)), floatMean (ms.map (·.2.rsd)),
    ratioMean (ms.map (·.2.maxMinRatio))⟩
  ⟨ms.map fun p => (p.1, sueDistribution p.2), s, assessment s, recommendations s⟩

/-! ## Averages -/

section Averages

variable {β : Type} {l : List β} {f g : β → ℝ}

theorem foldr_add_of_fin : ∀ {rs : List Ratio}, (∀ q ∈ rs, ∃ r, q = .fin r ∧ 1 ≤ r) →
    ∃ t, rs.foldr Ratio.add (.fin 0) = .fin t ∧ (rs.length : ℝ) ≤ t
  | [], _ => ⟨0, rfl, by simp⟩
  | q :: rs, h => by
    obtain ⟨r, rfl, hr⟩ := h q (List.mem_cons_self _ _)
    obtain ⟨t, ht, hle⟩ := foldr_add_of_fin fun q hq => h q (List.mem_cons_of_mem _ hq)
    refine ⟨r + t, by rw [List.foldr_cons, ht]; rfl, ?_⟩
    push_cast [List.length_cons]
    linarith

/-- The mean of ratios that are all finite and at least 1 is a finite number at least 1. -/
theorem ratioMean_ge_one {rs : List Ratio} (h : ∀ q ∈ rs, ∃ r, q = .fin r ∧ 1 ≤ r) :
    ∀ q ∈ ratioMean rs, ∃ r, q = .fin r ∧ 1 ≤ r := by
  intro q hq
  cases rs with
  | nil => cases hq
  | cons r rs =>
    obtain ⟨t, ht, hle⟩ := foldr_add_of_fin h
    have hn : (0 : ℝ) < (r :: rs).length := by exact_mod_cast Nat.succ_pos _
    rw [ratioMean, List.isEmpty_cons, if_neg Bool.false_ne_true, ht, Option.mem_some_iff] at hq
    exact ⟨t / (r :: rs).length, hq.symm, (one_le_div hn).2 hle⟩

end Averages

/-! ## Assessment and recommendations -/

section Verdict

variable {r c : ℝ}

end Verdict

/-! ## Stored records -/

namespace MetricsOf

variable [LinearOrder α] {d : Table α} {m : LoadBalanceMetrics α} (h : MetricsOf d m)
include h

theorem length_actualCounts : m.actualCounts.length = m.numSues := by
  simp [h.numSues, LoadBalanceMetrics.actualCounts]

theorem sum_actualCounts_le : m.actualCounts.sum ≤ m.totalRequests :=
  h.sum_actualCounts ▸ h.totalRequests ▸ List.countP_le_length _

/-- The deviation column of a record sums to `(counted - total) * 100 / ideal`. -/
theorem sum_deviations : ((sueDistribution m).map fun l => l.2.2.2).sum =
    ((m.actualCounts.sum : ℝ) - m.totalRequests) * (100 / m.idealPerSue) := by
  have hI : m.idealPerSue ≠ 0 := h.idealPerSue_pos.ne'
  have hn : (m.actualCounts.length : ℝ) * m.idealPerSue = m.totalRequests := by
    have : (m.numSues : ℝ) ≠ 0 := by exact_mod_cast h.numSues_pos.ne'
    rw [h.idealPerSue_eq, h.length_actualCounts, mul_div_cancel₀ _ this]
  have hmap : ((sueDistribution m).map fun l => l.2.2.2) =
      m.actualCounts.map fun c : ℕ => (c : ℝ) * (100 / m.idealPerSue) + -100 := by
    have hdev (c : ℝ) : (c - m.idealPerSue) / m.idealPerSue * 100 =
        c * (100 / m.idealPerSue) + -100 := by
      rw [sub_div, div_self hI, sub_mul, one_mul, div_mul_eq_mul_div, mul_div_assoc, sub_eq_add_neg]
    simp only [sueDistribution, LoadBalanceMetrics.actualCounts, List.map_map, Function.comp_def,
      hdev]
  rw [hmap, List.sum_map_add, List.sum_map_mul_right, List.map_const', List.sum_replicate,
    nsmul_eq_mul, ← Nat.cast_list_sum, ← hn, sub_mul, mul_assoc, mul_div_cancel₀ _ hI]
  ring

end MetricsOf

/-! ## The report on the loop's records -/

variable [LinearOrder α]

theorem metricsOf_of_mem {df : Table α} {ms : List (Cell α × LoadBalanceMetrics α)}
    (h : calculateLoadBalanceMetrics df = .ok ms) {p : Cell α × LoadBalanceMetrics α} (hp : p ∈ ms) :
    MetricsOf (xpuData df p.1) p.2 :=
  (mem_calculateLoadBalanceMetrics h hp).2

/-- On every table the loop accepts, the average max/min ratio of the report is a finite number
at least 1, and each XPU's deviations from its ideal share sum to at most zero, to zero exactly
when every row of that XPU carries a `SueId`. -/
theorem generateAnalysisReport_deviations {df : Table α} {ms : List (Cell α × LoadBalanceMetrics α)}
    (h : calculateLoadBalanceMetrics df = .ok ms) :
    (∀ q ∈ (generateAnalysisReport ms).summary.avgRatio, ∃ r, q = .fin r ∧ 1 ≤ r) ∧
      ∀ x ds, (x, ds) ∈ (generateAnalysisReport ms).distributions →
        (ds.map fun l => l.2.2.2).sum ≤ 0 ∧
        ((ds.map fun l => l.2.2.2).sum = 0 ↔ ∀ r ∈ xpuData df x, r.sueId ≠ nan) := by
  refine ⟨ratioMean_ge_one fun q hq => ?_, fun x ds hx => ?_⟩
  · obtain ⟨p, hp, rfl⟩ := List.mem_map.1 hq
    obtain ⟨r, hr, h1, -⟩ := (metricsOf_of_mem h hp).ratio_ge_one
    exact ⟨r, hr, h1⟩
  · obtain ⟨p, hp, hpx⟩ := List.mem_map.1 hx
    cases hpx
    have hm := metricsOf_of_mem h hp
    have hk : (0 : ℝ) < 100 / p.2.idealPerSue := div_pos (by norm_num) hm.idealPerSue_pos
    have hle : (p.2.actualCounts.sum : ℝ) ≤ p.2.totalRequests := by exact_mod_cast hm.sum_actualCounts_le
    rw [hm.sum_deviations]
    refine ⟨mul_nonpos_of_nonpos_of_nonneg (by linarith) hk.le, ?_⟩
    rw [mul_eq_zero, or_iff_left hk.ne', sub_eq_zero, Nat.cast_inj, hm.sum_actualCounts,
      hm.totalRequests, List.countP_eq_length]
    exact forall₂_congr fun r _ => by rw [notna_iff]

theorem generateAnalysisReport_deviations_truncated :
    ∃ ms, calculateLoadBalanceMetrics
        ([⟨val 1, val 2, val 0, val 0⟩, ⟨val 1, val 2, val 0, nan⟩] : Table ℕ) = .ok ms ∧
      (∀ q ∈ (generateAnalysisReport ms).summary.avgRatio, ∃ r, q = .fin r ∧ 1 ≤ r) ∧
      ∀ x ds, (x, ds) ∈ (generateAnalysisReport ms).distributions →
        (ds.map fun l => l.2.2.2).sum ≤ 0 ∧
        ((ds.map fun l => l.2.2.2).sum = 0 ↔
          ∀ r ∈ xpuData ([⟨val 1, val 2, val 0, val 0⟩, ⟨val 1, val 2, val 0, nan⟩] : Table ℕ) x,
            r.sueId ≠ nan) :=
  let ⟨ms, hms⟩ := (exists_calculateLoadBalanceMetrics_ok_iff _).2 (by decide)
  ⟨ms, hms, generateAnalysisReport_deviations hms⟩

end SueSim.LoadBalance
