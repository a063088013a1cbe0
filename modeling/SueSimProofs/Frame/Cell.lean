/-
Cells of a table read by `pd.read_csv`, with the pandas semantics the analyzers rely on: an empty
field is `NaN`, which `==` finds equal to nothing (itself included) and `value_counts` drops, but
which `unique()` keeps as one distinct value. `sorted(col.unique())` and
`value_counts().sort_index()` are modelled here once, with the conservation law of `value_counts`:
the counts of the distinct values sum to the number of non-empty cells.
-/
import Mathlib.Data.List.Sort
import Mathlib.Algebra.BigOperators.Group.List
import Mathlib.Algebra.Order.Ring.Nat

namespace SueSim.Frame

/-- One cell of a column as `pd.read_csv` returns it: a value, or `NaN` for an empty field. -/
inductive Cell (α : Type) where
  | nan
  | val (a : α)
  deriving DecidableEq, Repr

variable {α β : Type}

namespace Cell

/-- Elementwise `==` of pandas: `NaN` equals nothing. -/
def eqv [DecidableEq α] : Cell α → Cell α → Bool
  | val a, val b => a = b
  | _, _ => false

/-- `notna`: the cell holds a value. -/
def notna : Cell α → Bool
  | nan => false
  | val _ => true

/-- The value of a non-empty cell. -/
def value? : Cell α → Option α
  | nan => none
  | val a => some a

/-- The order `sorted` puts cells in: values by `≤`, with `NaN` first. Python's `sort` leaves the
place of a `NaN` unspecified; no result of the model depends on it. -/
def le [LinearOrder α] : Cell α → Cell α → Bool
  | nan, _ => true
  | val _, nan => false
  | val a, val b => decide (a ≤ b)

@[simp] theorem eqv_val_val [DecidableEq α] (a b : α) : (val a).eqv (val b) = decide (a = b) := rfl

@[simp] theorem eqv_nan [DecidableEq α] (c : Cell α) : c.eqv nan = false := by cases c <;> rfl

@[simp] theorem nan_eqv [DecidableEq α] (c : Cell α) : nan.eqv c = false := rfl

theorem eqv_val [DecidableEq α] (c : Cell α) (a : α) : c.eqv (val a) = true ↔ c = val a := by
  cases c <;> simp [eqv]

theorem eqv_iff [DecidableEq α] (c d : Cell α) : c.eqv d = true ↔ d ≠ nan ∧ c = d := by
  cases d with
  | nan => simp
  | val a => simp [eqv_val]

@[simp] theorem notna_val (a : α) : (val a).notna = true := rfl

@[simp] theorem notna_nan : (nan : Cell α).notna = false := rfl

@[simp] theorem value?_val (a : α) : (val a).value? = some a := rfl

@[simp] theorem value?_nan : (nan : Cell α).value? = none := rfl

theorem value?_eq_some (c : Cell α) (a : α) : c.value? = some a ↔ c = val a := by
  cases c <;> simp

theorem notna_iff (c : Cell α) : c.notna = true ↔ c ≠ nan := by
  cases c <;> simp

end Cell

open Cell

/-! ## Distinct keys and counts -/

/-- `sorted(xs.unique())`: the distinct elements of `xs`, sorted by `le`. -/
def sortedUnique [DecidableEq β] (le : β → β → Bool) (xs : List β) : List β :=
  xs.dedup.insertionSort fun a b => le a b

/-- `col.value_counts().sort_index()`: each distinct non-empty value of a column with its number
of cells, ascending by value; `NaN` cells are dropped (`dropna=True`). -/
def valueCounts [LinearOrder α] (cs : List (Cell α)) : List (α × ℕ) :=
  let vs := cs.filterMap Cell.value?
  (sortedUnique (fun a b => decide (a ≤ b)) vs).map fun a => (a, vs.count a)

@[simp] theorem mem_sortedUnique [DecidableEq β] (le : β → β → Bool) (xs : List β) (b : β) :
    b ∈ sortedUnique le xs ↔ b ∈ xs := by
  simp [sortedUnique, List.mem_insertionSort]

theorem nodup_sortedUnique [DecidableEq β] (le : β → β → Bool) (xs : List β) :
    (sortedUnique le xs).Nodup :=
  (List.perm_insertionSort _ _).nodup_iff.2 (List.nodup_dedup xs)

/-- Counting over any duplicate-free list of keys that covers the values counts every value once. -/
theorem sum_map_count_eq_length [DecidableEq β] {ks : List β} (hk : ks.Nodup) :
    ∀ {vs : List β}, (∀ v ∈ vs, v ∈ ks) → (ks.map fun k => vs.count k).sum = vs.length
  | [], _ => by simp
  | v :: vs, h => by
    have hv : (ks.map fun k => if v = k then 1 else 0).sum = 1 := by
      rw [List.sum_map_eq_nsmul_single v _ (fun k hk _ => if_neg (Ne.symm hk)),
        List.count_eq_one_of_mem hk (h v (List.mem_cons_self v vs))]
      simp
    simp only [List.count_cons, beq_iff_eq, List.sum_map_add, List.length_cons]
    rw [sum_map_count_eq_length hk (fun w hw => h w (List.mem_cons_of_mem v hw)), hv]

/-- Summing each key's values over any duplicate-free list of keys that covers the rows sums every
value once: the keys partition the rows. -/
theorem sum_map_filter_sum {M : Type} [AddCommMonoid M] [DecidableEq β] {ks : List β}
    (hk : ks.Nodup) : ∀ {kvs : List (β × M)}, (∀ p ∈ kvs, p.1 ∈ ks) →
      (ks.map fun k => ((kvs.filter fun p => p.1 = k).map Prod.snd).sum).sum = (kvs.map Prod.snd).sum
  | [], _ => by simp [nsmul_zero]
  | p :: kvs, h => by
    have hp : (ks.map fun k => if p.1 = k then p.2 else 0).sum = p.2 := by
      rw [List.sum_map_eq_nsmul_single p.1 _ (fun k hk _ => if_neg (Ne.symm hk)),
        List.count_eq_one_of_mem hk (h p (List.mem_cons_self _ _))]
      simp
    have hsplit : ∀ k, (((p :: kvs).filter fun q => q.1 = k).map Prod.snd).sum =
        (if p.1 = k then p.2 else 0) + ((kvs.filter fun q => q.1 = k).map Prod.snd).sum := fun k => by
      by_cases hpk : p.1 = k <;> simp [List.filter_cons, hpk]
    simp only [hsplit, List.sum_map_add, hp, List.map_cons, List.sum_cons,
      sum_map_filter_sum hk fun q hq => h q (List.mem_cons_of_mem _ hq)]

theorem count_filterMap_value? [DecidableEq α] (cs : List (Cell α)) (a : α) :
    (cs.filterMap Cell.value?).count a = cs.count (val a) := by
  induction cs with
  | nil => rfl
  | cons c cs ih => cases c <;> simp [List.count_cons, ih]

theorem length_filterMap_value? (cs : List (Cell α)) :
    (cs.filterMap Cell.value?).length = cs.countP Cell.notna := by
  induction cs with
  | nil => rfl
  | cons c cs ih => cases c <;> simp [ih]

theorem mem_valueCounts [LinearOrder α] (cs : List (Cell α)) (a : α) (n : ℕ) :
    (a, n) ∈ valueCounts cs ↔ val a ∈ cs ∧ n = cs.count (val a) := by
  simp only [valueCounts, List.mem_map, mem_sortedUnique, List.mem_filterMap, value?_eq_some,
    Prod.mk.injEq, count_filterMap_value?]
  constructor
  · rintro ⟨b, ⟨c, hc, rfl⟩, rfl, rfl⟩; exact ⟨hc, rfl⟩
  · rintro ⟨hc, rfl⟩; exact ⟨a, ⟨_, hc, rfl⟩, rfl, rfl⟩

theorem mem_keys_valueCounts [LinearOrder α] (cs : List (Cell α)) (a : α) :
    a ∈ (valueCounts cs).map Prod.fst ↔ val a ∈ cs := by
  simp [List.mem_map, mem_valueCounts]

/-- Every count `value_counts` reports is positive. -/
theorem pos_of_mem_valueCounts [LinearOrder α] {cs : List (Cell α)} {a : α} {n : ℕ}
    (h : (a, n) ∈ valueCounts cs) : 0 < n := by
  obtain ⟨ha, rfl⟩ := (mem_valueCounts cs a n).1 h
  exact List.count_pos_iff.2 ha

/-- Conservation of `value_counts`: its counts sum to the number of non-empty cells. -/
theorem sum_valueCounts [LinearOrder α] (cs : List (Cell α)) :
    ((valueCounts cs).map Prod.snd).sum = cs.countP Cell.notna := by
  rw [← length_filterMap_value?, ← sum_map_count_eq_length (nodup_sortedUnique (fun a b => decide (a ≤ b)) _)
    (fun v hv => (mem_sortedUnique _ _ v).2 hv)]
  simp [valueCounts, Function.comp_def]

theorem valueCounts_eq_nil [LinearOrder α] (cs : List (Cell α)) :
    valueCounts cs = [] ↔ ∀ c ∈ cs, c = nan := by
  constructor
  · intro h c hc
    cases c with
    | nan => rfl
    | val a =>
      have := (mem_keys_valueCounts cs a).2 hc
      simp [h] at this
  · intro h
    rw [List.eq_nil_iff_forall_not_mem]
    rintro ⟨a, n⟩ hm
    cases h _ ((mem_valueCounts cs a n).1 hm).1

end SueSim.Frame
