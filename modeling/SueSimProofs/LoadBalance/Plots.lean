/-
The two other views of the request counts in `load_balance_analyzer.py`: the heatmap's
`pivot_table` and the box plot's per-SUE counts. Both count the rows of an XPU and a SUE whose
`DestXpuId` is not empty (`aggfunc='count'`, `.count()`), where the metrics count every row that
carries the SUE id, and `pivot_table` also drops each row with an empty key. Each view is reduced
here to one `countP` over the table; on tables without empty ids or destinations the three
agree, and each heatmap row sums to the XPU's `total_requests`.
-/
import SueSimProofs.LoadBalance.Metrics

namespace SueSim.LoadBalance

open SueSim.Frame Cell

variable {α : Type}

/-- `aggfunc='count'` on `DestXpuId`, and `.count()` of that column: the rows with a destination. -/
def destCount (rows : Table α) : ℕ := rows.countP fun r => r.destXpuId.notna

/-- The keys `pivot_table` groups by, of the rows where neither is empty (`groupby` drops the
others). -/
def groupKeys (df : Table α) : List (α × α) :=
  df.filterMap fun r => match r.localXpuId, r.sueId with
    | val a, val b => some (a, b)
    | _, _ => none

/-- `sue_counts[s]` of a record, taken as `0` when `s` is absent. -/
def sueCount [BEq α] (m : LoadBalanceMetrics α) (s : α) : ℕ := (m.sueCounts.lookup s).getD 0

/-- One panel of `create_box_plot`: the local XPU, `sue_requests` of each of its SUE ids, the
`sue_data` drawn (each count repeated once per request), and the record of its statistics text. -/
structure BoxPanel (α : Type) where
  xpu : Cell α
  sueRequests : List (Cell α × ℕ)
  sueData : List (List ℕ)
  metrics : LoadBalanceMetrics α

/-- The message of the `KeyError` a missing dictionary key raises. -/
def keyError : String := "KeyError"

variable [LinearOrder α]

/-- `df.pivot_table(index='LocalXpuId', columns='SueId', values='DestXpuId', aggfunc='count',
fill_value=0)`: a row per grouped local id and a cell per grouped SUE id, holding the count of the
group's destinations (`0` for an empty group). -/
def pivotTable (df : Table α) : List (α × List (α × ℕ)) :=
  (sortedUnique (fun a b => decide (a ≤ b)) ((groupKeys df).map Prod.fst)).map fun a =>
    (a, (sortedUnique (fun a b => decide (a ≤ b)) ((groupKeys df).map Prod.snd)).map fun b =>
      (b, destCount (df.filter fun r => r.localXpuId = val a ∧ r.sueId = val b)))

/-- The `sue_requests` of each SUE id of one XPU's rows `xpu_data`, in sorted order. -/
def boxPlotRequests (xpuData : Table α) : List (Cell α × ℕ) :=
  (sortedUnique Cell.le (xpuData.map (·.sueId))).map fun s =>
    (s, destCount (xpuData.filter fun r => r.sueId.eqv s))

/-- The body of the loop of `create_box_plot` for the local XPU `x`. The panel's text recomputes
the metrics of the whole table, so it raises whenever they do. -/
noncomputable def boxPanel (df : Table α) (x : Cell α) : Except String (BoxPanel α) := do
  let requests := boxPlotRequests (xpuData df x)
  let ms ← calculateLoadBalanceMetrics df
  match ms.lookup x with
  | some m => pure ⟨x, requests, requests.map fun p => List.replicate p.2 p.2, m⟩
  | none => throw keyError

/-- `create_box_plot`: a panel for each of the first four sorted local ids. -/
noncomputable def createBoxPlot (df : Table α) : Except String (List (BoxPanel α)) :=
  ((localXpus df).take 4).mapM (boxPanel df)

/-! ## Each view as one count over the table -/

theorem lookup_map_pair {β γ : Type} [BEq β] [LawfulBEq β] (f : β → γ) (b : β) :
    ∀ ks : List β, (ks.map fun k => (k, f k)).lookup b = if b ∈ ks then some (f b) else none
  | [] => rfl
  | k :: ks => by
    by_cases h : b = k
    · subst h; simp [List.lookup_cons]
    · have hbk : (b == k) = false := by simpa using h
      simp [List.lookup_cons, hbk, h, lookup_map_pair f b ks]

omit [LinearOrder α] in
theorem mem_groupKeys {df : Table α} {a b : α} :
    (a, b) ∈ groupKeys df ↔ ∃ r ∈ df, r.localXpuId = val a ∧ r.sueId = val b := by
  simp only [groupKeys, List.mem_filterMap]
  refine exists_congr fun r => and_congr_right fun _ => ?_
  rcases r with ⟨_ | x, _, _, _ | s⟩ <;> simp

/-- A heatmap cell counts the rows of its XPU and SUE that have a destination. -/
theorem pivotTable_cell {df : Table α} {a b : α} {row : List (α × ℕ)} {v : ℕ}
    (hrow : (a, row) ∈ pivotTable df) (hv : (b, v) ∈ row) :
    v = df.countP fun r => r.localXpuId = val a ∧ r.sueId = val b ∧ r.destXpuId.notna := by
  simp only [pivotTable, List.mem_map, Prod.mk.injEq] at hrow
  obtain ⟨a', -, rfl, rfl⟩ := hrow
  obtain ⟨b', -, rfl, rfl⟩ := List.mem_map.1 hv
  rw [destCount, List.countP_filter]
  exact List.countP_congr fun r _ => by simp [and_assoc, and_comm]

theorem pivotTable_index {df : Table α} {a : α} :
    a ∈ (pivotTable df).map Prod.fst ↔ ∃ r ∈ df, r.localXpuId = val a ∧ r.sueId ≠ nan := by
  simp only [pivotTable, List.map_map, Function.comp_def, List.map_id', mem_sortedUnique,
    List.mem_map, Prod.exists, exists_and_right, exists_eq_right]
  constructor
  · rintro ⟨b, hb⟩; obtain ⟨r, hr, ha, hb⟩ := mem_groupKeys.1 hb; exact ⟨r, hr, ha, by simp [hb]⟩
  · rintro ⟨r, hr, ha, hs⟩
    cases hsr : r.sueId with
    | nan => exact absurd hsr hs
    | val b => exact ⟨b, mem_groupKeys.2 ⟨r, hr, ha, hsr⟩⟩

/-- A heatmap row has a cell for every SUE id of a grouped row. -/
theorem pivotTable_columns {df : Table α} {a : α} {row : List (α × ℕ)}
    (hrow : (a, row) ∈ pivotTable df) (b : α) :
    b ∈ row.map Prod.fst ↔ ∃ r ∈ df, r.localXpuId ≠ nan ∧ r.sueId = val b := by
  simp only [pivotTable, List.mem_map, Prod.mk.injEq] at hrow
  obtain ⟨a', -, rfl, rfl⟩ := hrow
  simp only [List.map_map, Function.comp_def, List.map_id', mem_sortedUnique, List.mem_map,
    Prod.exists, exists_eq_right]
  constructor
  · rintro ⟨a, ha⟩; obtain ⟨r, hr, hl, hb⟩ := mem_groupKeys.1 ha; exact ⟨r, hr, by simp [hl], hb⟩
  · rintro ⟨r, hr, hl, hs⟩
    cases hlr : r.localXpuId with
    | nan => exact absurd hlr hl
    | val a => exact ⟨a, mem_groupKeys.2 ⟨r, hr, hlr, hs⟩⟩

/-- A heatmap row sums to the rows of its XPU that have both a SUE id and a destination. -/
theorem pivotTable_row_sum {df : Table α} {a : α} {row : List (α × ℕ)}
    (hrow : (a, row) ∈ pivotTable df) :
    (row.map Prod.snd).sum = df.countP fun r => r.localXpuId = val a ∧ r.sueId.notna ∧ r.destXpuId.notna := by
  let vs := (df.filter fun r => r.localXpuId = val a ∧ r.destXpuId.notna).filterMap (·.sueId.value?)
  have hkeys : (row.map Prod.fst).Nodup := by
    simp only [pivotTable, List.mem_map, Prod.mk.injEq] at hrow
    obtain ⟨a', -, rfl, rfl⟩ := hrow
    simpa [List.map_map, Function.comp_def] using nodup_sortedUnique _ _
  have hcover : ∀ v ∈ vs, v ∈ row.map Prod.fst := by
    intro v hv
    obtain ⟨r, hr, hv⟩ := List.mem_filterMap.1 hv
    obtain ⟨hr, hl⟩ := List.mem_filter.1 hr
    simp only [decide_eq_true_eq] at hl
    exact (pivotTable_columns hrow v).2 ⟨r, hr, by simp [hl.1], (value?_eq_some _ _).1 hv⟩
  have hcell : row.map Prod.snd = (row.map Prod.fst).map fun b => vs.count b := by
    rw [List.map_map]
    refine List.map_congr_left fun ⟨b, v⟩ hv => ?_
    rw [Function.comp_apply, pivotTable_cell hrow hv, List.count_eq_countP, List.countP_filterMap,
      List.countP_filter]
    exact List.countP_congr fun r _ => by cases r.sueId <;> simp [and_assoc, and_left_comm]
  rw [hcell, sum_map_count_eq_length hkeys hcover, List.length_filterMap_eq_countP,
    List.countP_filter]
  exact List.countP_congr fun r _ => by cases r.sueId <;> simp

/-- A box plot entry counts the rows of its XPU and SUE that have a destination. -/
theorem boxPlotRequests_entry {d : Table α} {s : Cell α} {n : ℕ} (h : (s, n) ∈ boxPlotRequests d) :
    n = d.countP fun r => r.sueId.eqv s && r.destXpuId.notna := by
  obtain ⟨s', -, he⟩ := List.mem_map.1 h
  cases he
  rw [destCount, List.countP_filter]
  exact List.countP_congr fun r _ => by simp [Bool.and_comm]

/-- A record's `sue_counts[s]` counts the rows carrying `s` (`0` when `s` is absent). -/
theorem MetricsOf.sueCount_eq {d : Table α} {m : LoadBalanceMetrics α} (h : MetricsOf d m) (s : α) :
    sueCount m s = (d.map (·.sueId)).count (val s) := by
  rw [sueCount, h.sueCounts, valueCounts, lookup_map_pair, count_filterMap_value?]
  split
  · rfl
  · rename_i hs
    rw [mem_sortedUnique, ← List.count_pos_iff, count_filterMap_value?] at hs
    simp only [Option.getD_none]; omega

omit [LinearOrder α] in
theorem count_map_sueId [DecidableEq α] (d : Table α) (b : α) :
    (d.map (·.sueId)).count (val b) = d.countP fun r => r.sueId = val b := by
  rw [List.count_eq_countP, List.countP_map]
  exact List.countP_congr fun r _ => by simp

/-! ## The box plot returns with the metrics -/

theorem mem_of_lookup_eq_some {β γ : Type} [BEq β] [LawfulBEq β] {b : β} {c : γ} :
    ∀ {l : List (β × γ)}, l.lookup b = some c → (b, c) ∈ l
  | [], h => nomatch h
  | (k, v) :: l, h => by
    by_cases hk : b = k
    · subst hk; simp only [List.lookup_cons, beq_self_eq_true, Option.some.injEq] at h; simp [h]
    · have hbk : (b == k) = false := by simpa using hk
      simp only [List.lookup_cons, hbk] at h
      exact List.mem_cons_of_mem _ (mem_of_lookup_eq_some h)

theorem lookup_isSome_of_mem {β γ : Type} [BEq β] [LawfulBEq β] {b : β} :
    ∀ {l : List (β × γ)}, b ∈ l.map Prod.fst → ∃ c, l.lookup b = some c
  | [], h => nomatch h
  | (k, v) :: l, h => by
    by_cases hk : b = k
    · subst hk; exact ⟨v, by simp only [List.lookup_cons, beq_self_eq_true]⟩
    · simp only [List.lookup_cons, beq_false_of_ne hk]
      exact lookup_isSome_of_mem ((List.mem_cons.1 h).resolve_left hk)

theorem boxPanel_ok {df : Table α} {x : Cell α} {p : BoxPanel α} (h : boxPanel df x = .ok p) :
    ∃ ms, calculateLoadBalanceMetrics df = .ok ms ∧ (x, p.metrics) ∈ ms ∧ p.xpu = x ∧
      p.sueRequests = boxPlotRequests (xpuData df x) := by
  unfold boxPanel at h
  cases hc : calculateLoadBalanceMetrics df with
  | error e => rw [hc] at h; cases h
  | ok ms =>
    rw [hc] at h
    cases hl : ms.lookup x with
    | none => simp [hl, bind, Except.bind, throw, throwThe, MonadExceptOf.throw, Except.error] at h
    | some m =>
      simp only [hl, bind, Except.bind, pure, Except.pure, Except.ok.injEq] at h
      subst h
      exact ⟨ms, rfl, mem_of_lookup_eq_some hl, rfl, rfl⟩

theorem exists_createBoxPlot_ok {df : Table α} {ms : List (Cell α × LoadBalanceMetrics α)}
    (hms : calculateLoadBalanceMetrics df = .ok ms) : ∃ ps, createBoxPlot df = .ok ps := by
  rw [createBoxPlot, exists_mapM_ok_iff]
  intro x hx
  have hkey : x ∈ ms.map Prod.fst :=
    keys_calculateLoadBalanceMetrics hms ▸ List.mem_of_mem_take hx
  obtain ⟨m, hm⟩ := lookup_isSome_of_mem hkey
  exact ⟨_, by simp only [boxPanel, hms, hm, bind, Except.bind, pure, Except.pure]; rfl⟩

/-! ## Agreement on tables without empty ids or destinations -/

/-- On a table with no empty `LocalXpuId`, `DestXpuId` or `SueId`, the metrics and the box plot
both return; every local XPU has a heatmap row; each heatmap cell and each box plot count of an
XPU and a SUE equals the record's `sue_counts[s]` (`0` when absent); and each heatmap row sums to
the XPU's `total_requests`. -/
theorem heatmap_boxPlot_metrics_agree (df : Table α)
    (hwf : ∀ r ∈ df, r.localXpuId ≠ nan ∧ r.destXpuId ≠ nan ∧ r.sueId ≠ nan) :
    ∃ ms ps, calculateLoadBalanceMetrics df = .ok ms ∧ createBoxPlot df = .ok ps ∧
      (∀ x m, (x, m) ∈ ms → ∃ a row, x = val a ∧ (a, row) ∈ pivotTable df) ∧
      (∀ a row, (a, row) ∈ pivotTable df → ∃ m, (val a, m) ∈ ms ∧
        (∀ b v, (b, v) ∈ row → v = sueCount m b) ∧ (row.map Prod.snd).sum = m.totalRequests) ∧
      (∀ p ∈ ps, (p.xpu, p.metrics) ∈ ms ∧
        ∀ s n, (s, n) ∈ p.sueRequests → ∃ b, s = val b ∧ n = sueCount p.metrics b) := by
  have hdest : ∀ r ∈ df, r.destXpuId.notna = true := fun r hr => (notna_iff _).2 (hwf r hr).2.1
  obtain ⟨ms, hms⟩ := exists_calculateLoadBalanceMetrics_ok_of_ids fun r hr =>
    ⟨(hwf r hr).1, (hwf r hr).2.2⟩
  obtain ⟨ps, hps⟩ := exists_createBoxPlot_ok hms
  have hkeys := keys_calculateLoadBalanceMetrics hms
  refine ⟨ms, ps, hms, hps, fun x m hm => ?_, fun a row hrow => ?_, fun p hp => ?_⟩
  · obtain ⟨r, hr, rfl⟩ := mem_localXpus.1 (mem_calculateLoadBalanceMetrics hms hm).1
    cases hl : r.localXpuId with
    | nan => exact absurd hl (hwf r hr).1
    | val a =>
      obtain ⟨⟨a', row⟩, hrow, rfl⟩ := List.mem_map.1 (pivotTable_index.2 ⟨r, hr, hl, (hwf r hr).2.2⟩)
      exact ⟨a', row, rfl, hrow⟩
  · obtain ⟨r, hr, hl, -⟩ := pivotTable_index.1 (List.mem_map_of_mem Prod.fst hrow)
    have hx : val a ∈ ms.map Prod.fst := hkeys ▸ mem_localXpus.2 ⟨r, hr, hl⟩
    obtain ⟨⟨x, m⟩, hm, rfl⟩ := List.mem_map.1 hx
    have h := (mem_calculateLoadBalanceMetrics hms hm).2
    refine ⟨m, hm, fun b v hv => ?_, ?_⟩
    · rw [pivotTable_cell hrow hv, h.sueCount_eq, count_map_sueId, xpuData, List.countP_filter]
      exact List.countP_congr fun r hr => by simp [eqv_val, hdest r hr, and_comm]
    · rw [pivotTable_row_sum hrow, h.totalRequests, xpuData, ← List.countP_eq_length_filter]
      exact List.countP_congr fun r hr => by
        simp [eqv_val, hdest r hr, (notna_iff _).2 (hwf r hr).2.2]
  · obtain ⟨x, -, hpx⟩ := mem_of_mapM_ok hps hp
    obtain ⟨ms', hms', hm, rfl, hreq⟩ := boxPanel_ok hpx
    rw [hms] at hms'; cases hms'
    have h := (mem_calculateLoadBalanceMetrics hms hm).2
    refine ⟨hm, fun s n hsn => ?_⟩
    rw [hreq] at hsn
    obtain ⟨s', hs', he⟩ := List.mem_map.1 hsn
    cases he
    obtain ⟨r, hr, rfl⟩ := List.mem_map.1 ((mem_sortedUnique _ _ _).1 hs')
    cases hs : r.sueId with
    | nan => exact absurd hs (hwf r (mem_xpuData.1 hr).1).2.2
    | val b =>
      refine ⟨b, rfl, ?_⟩
      rw [destCount, List.countP_filter, h.sueCount_eq, count_map_sueId]
      exact List.countP_congr fun r hr => by
        simp [eqv_val, hdest r (mem_xpuData.1 hr).1]

theorem heatmap_boxPlot_metrics_agree_two_sues :
    (∀ r ∈ ([⟨val 1, val 3, val 0, val 0⟩, ⟨val 1, val 4, val 1, val 1⟩] : Table ℕ),
      r.localXpuId ≠ nan ∧ r.destXpuId ≠ nan ∧ r.sueId ≠ nan) ∧
    ∃ ms ps,
      calculateLoadBalanceMetrics
        ([⟨val 1, val 3, val 0, val 0⟩, ⟨val 1, val 4, val 1, val 1⟩] : Table ℕ) = .ok ms ∧
      createBoxPlot ([⟨val 1, val 3, val 0, val 0⟩, ⟨val 1, val 4, val 1, val 1⟩] : Table ℕ) = .ok ps ∧
      (∀ x m, (x, m) ∈ ms → ∃ a row, x = val a ∧
        (a, row) ∈ pivotTable ([⟨val 1, val 3, val 0, val 0⟩, ⟨val 1, val 4, val 1, val 1⟩] : Table ℕ)) ∧
      (∀ a row,
        (a, row) ∈ pivotTable ([⟨val 1, val 3, val 0, val 0⟩, ⟨val 1, val 4, val 1, val 1⟩] : Table ℕ) →
        ∃ m, (val a, m) ∈ ms ∧ (∀ b v, (b, v) ∈ row → v = sueCount m b) ∧
          (row.map Prod.snd).sum = m.totalRequests) ∧
      (∀ p ∈ ps, (p.xpu, p.metrics) ∈ ms ∧
        ∀ s n, (s, n) ∈ p.sueRequests → ∃ b, s = val b ∧ n = sueCount p.metrics b) :=
  ⟨by decide, heatmap_boxPlot_metrics_agree _ (by decide)⟩

/-- A row with an empty `DestXpuId`: the heatmap cell of its XPU and SUE is `0`, while the
metrics count the request. -/
theorem heatmap_metrics_empty_dest :
    pivotTable ([⟨val 1, nan, val 0, val 0⟩] : Table ℕ) = [(1, [(0, 0)])] ∧
    ∃ ms, calculateLoadBalanceMetrics ([⟨val 1, nan, val 0, val 0⟩] : Table ℕ) = .ok ms ∧
      ∃ m, (val 1, m) ∈ ms ∧ sueCount m 0 = 1 := by
  refine ⟨by decide, ?_⟩
  obtain ⟨ms, hms⟩ := @exists_calculateLoadBalanceMetrics_ok_of_ids ℕ _
    [⟨val 1, nan, val 0, val 0⟩] (by decide)
  have hx : val 1 ∈ ms.map Prod.fst := by rw [keys_calculateLoadBalanceMetrics hms]; decide
  obtain ⟨⟨x, m⟩, hm, rfl⟩ := List.mem_map.1 hx
  refine ⟨ms, hms, m, hm, ?_⟩
  rw [(mem_calculateLoadBalanceMetrics hms hm).2.sueCount_eq]
  decide

end SueSim.LoadBalance
