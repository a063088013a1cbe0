/-
The NumPy reductions `calculate_load_balance_metrics` applies to the array of per-SUE counts, over
exact real arithmetic: `np.mean`, `np.std` (the population standard deviation, `ddof=0`),
`np.max` and `np.min`. What the fairness metrics need of them: on positive counts the mean is
positive, the standard deviation is non-negative and vanishes exactly when all counts are equal,
and the maximum equals the minimum exactly then too.
-/
import Mathlib.Data.Real.Sqrt
import Mathlib.Algebra.Order.BigOperators.Group.List

namespace SueSim.LoadBalance

/-- `np.mean` of an integer array. NumPy's mean of an empty array is `NaN` and this one is `0`:
both fail the `> 0` test the script puts before every use. -/
noncomputable def npMean (xs : List ℕ) : ℝ := (xs.sum : ℝ) / xs.length

/-- `np.var` with `ddof=0`. -/
noncomputable def npVar (xs : List ℕ) : ℝ :=
  (xs.map fun x : ℕ => ((x : ℝ) - npMean xs) ^ 2).sum / xs.length

/-- `np.std`: the population standard deviation. -/
noncomputable def npStd (xs : List ℕ) : ℝ := Real.sqrt (npVar xs)

/-- `np.max` of the non-empty array `c :: cs` (NumPy raises on an empty one). -/
def npMax (c : ℕ) (cs : List ℕ) : ℕ := cs.foldl max c

/-- `np.min` of the non-empty array `c :: cs`. -/
def npMin (c : ℕ) (cs : List ℕ) : ℕ := cs.foldl min c

/-- All entries of an array are equal. -/
def AllEqual (xs : List ℕ) : Prop := ∀ a ∈ xs, ∀ b ∈ xs, a = b

instance : DecidablePred AllEqual := fun xs =>
  inferInstanceAs (Decidable (∀ a ∈ xs, ∀ b ∈ xs, a = b))

/-! ## Mean and standard deviation -/

theorem npMean_pos {xs : List ℕ} (hne : xs ≠ []) (hpos : ∀ x ∈ xs, 0 < x) : 0 < npMean xs := by
  obtain ⟨x, hx⟩ := List.exists_mem_of_ne_nil xs hne
  have hsum : 0 < xs.sum := lt_of_lt_of_le (hpos x hx) (List.le_sum_of_mem hx)
  have hlen : 0 < xs.length := List.length_pos.2 hne
  unfold npMean
  positivity

theorem npStd_nonneg (xs : List ℕ) : 0 ≤ npStd xs := Real.sqrt_nonneg _

theorem npVar_nonneg (xs : List ℕ) : 0 ≤ npVar xs :=
  div_nonneg (List.sum_nonneg fun _ h => by
    obtain ⟨x, -, rfl⟩ := List.mem_map.1 h; positivity) (Nat.cast_nonneg _)

/-- An array whose entries all equal `c` has mean `c`. -/
theorem npMean_of_forall_eq {xs : List ℕ} {c : ℕ} (hne : xs ≠ []) (h : ∀ x ∈ xs, x = c) :
    npMean xs = c := by
  rw [List.eq_replicate_of_mem h]
  have : (xs.length : ℝ) ≠ 0 := by simpa using hne
  simp [npMean]
  field_simp

theorem npVar_eq_zero_iff {xs : List ℕ} (hne : xs ≠ []) :
    npVar xs = 0 ↔ ∀ x ∈ xs, (x : ℝ) = npMean xs := by
  have hlen : (xs.length : ℝ) ≠ 0 := by simpa using hne
  have hsq : ∀ y ∈ xs.map fun x : ℕ => ((x : ℝ) - npMean xs) ^ 2, 0 ≤ y := by
    intro y hy; obtain ⟨x, -, rfl⟩ := List.mem_map.1 hy; positivity
  rw [npVar, div_eq_zero_iff, or_iff_left hlen]
  constructor
  · intro h x hx
    have := List.all_zero_of_le_zero_le_of_sum_eq_zero hsq h (List.mem_map_of_mem _ hx)
    exact sub_eq_zero.1 (pow_eq_zero_iff two_ne_zero |>.1 this)
  · intro h
    exact List.sum_eq_zero fun y hy => by
      obtain ⟨x, hx, rfl⟩ := List.mem_map.1 hy; simp [h x hx]

/-- The population standard deviation vanishes exactly on an array of equal entries. -/
theorem npStd_eq_zero_iff {xs : List ℕ} (hne : xs ≠ []) : npStd xs = 0 ↔ AllEqual xs := by
  rw [npStd, Real.sqrt_eq_zero', (npVar_nonneg xs).le_iff_eq, npVar_eq_zero_iff hne]
  constructor
  · intro h a ha b hb
    exact_mod_cast (h a ha).trans (h b hb).symm
  · intro h x hx
    obtain ⟨c, hc⟩ := List.exists_mem_of_ne_nil xs hne
    rw [npMean_of_forall_eq hne fun y hy => h y hy c hc, h x hx c hc]

/-! ## Maximum and minimum -/

section Fold

variable {β : Type} [LinearOrder β]

theorem foldl_max_spec : ∀ (cs : List β) (c : β),
    (∀ x ∈ c :: cs, x ≤ cs.foldl max c) ∧ cs.foldl max c ∈ c :: cs
  | [], c => by simp
  | d :: cs, c => by
    obtain ⟨hle, hmem⟩ := foldl_max_spec cs (max c d)
    refine ⟨fun x hx => ?_, ?_⟩
    · rcases List.mem_cons.1 hx with rfl | hx
      · exact (le_max_left x d).trans (hle _ (List.mem_cons_self _ _))
      · rcases List.mem_cons.1 hx with rfl | hx
        · exact (le_max_right c x).trans (hle _ (List.mem_cons_self _ _))
        · exact hle x (List.mem_cons_of_mem _ hx)
    · rw [List.foldl_cons]
      rcases List.mem_cons.1 hmem with h | h
      · rw [h]; rcases max_choice c d with hm | hm <;> simp [hm]
      · exact List.mem_cons_of_mem _ (List.mem_cons_of_mem _ h)

theorem foldl_min_spec : ∀ (cs : List β) (c : β),
    (∀ x ∈ c :: cs, cs.foldl min c ≤ x) ∧ cs.foldl min c ∈ c :: cs
  | [], c => by simp
  | d :: cs, c => by
    obtain ⟨hle, hmem⟩ := foldl_min_spec cs (min c d)
    refine ⟨fun x hx => ?_, ?_⟩
    · rcases List.mem_cons.1 hx with rfl | hx
      · exact (hle _ (List.mem_cons_self _ _)).trans (min_le_left x d)
      · rcases List.mem_cons.1 hx with rfl | hx
        · exact (hle _ (List.mem_cons_self _ _)).trans (min_le_right c x)
        · exact hle x (List.mem_cons_of_mem _ hx)
    · rw [List.foldl_cons]
      rcases List.mem_cons.1 hmem with h | h
      · rw [h]; rcases min_choice c d with hm | hm <;> simp [hm]
      · exact List.mem_cons_of_mem _ (List.mem_cons_of_mem _ h)

end Fold

theorem le_npMax {c : ℕ} {cs : List ℕ} {x : ℕ} (hx : x ∈ c :: cs) : x ≤ npMax c cs :=
  (foldl_max_spec cs c).1 x hx

theorem npMin_le {c : ℕ} {cs : List ℕ} {x : ℕ} (hx : x ∈ c :: cs) : npMin c cs ≤ x :=
  (foldl_min_spec cs c).1 x hx

theorem npMax_mem (c : ℕ) (cs : List ℕ) : npMax c cs ∈ c :: cs := (foldl_max_spec cs c).2

theorem npMin_mem (c : ℕ) (cs : List ℕ) : npMin c cs ∈ c :: cs := (foldl_min_spec cs c).2

theorem npMin_le_npMax (c : ℕ) (cs : List ℕ) : npMin c cs ≤ npMax c cs :=
  npMin_le (npMax_mem c cs)

/-- The maximum equals the minimum exactly on an array of equal entries. -/
theorem npMax_eq_npMin_iff (c : ℕ) (cs : List ℕ) : npMax c cs = npMin c cs ↔ AllEqual (c :: cs) := by
  constructor
  · intro h a ha b hb
    have := le_npMax ha; have := npMin_le ha; have := le_npMax hb; have := npMin_le hb
    omega
  · intro h
    exact h _ (npMax_mem c cs) _ (npMin_mem c cs)

end SueSim.LoadBalance
