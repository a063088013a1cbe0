/-
The credit report of `credit_analyzer.py`. `generate_credit_statistics` splits the records at
`xpu_count` into XPU and switch records; a record with an empty `XpuId` cell compares false both
ways and is in neither. It writes a text block per XPU id `1 … xpu_count` that has records, then
one per switch id in order of first appearance, labelled `switch_id - xpu_count`. It then writes
the CSV tables `groupby(['XpuId', 'DeviceId', 'VCId'])['Credits']` of both parts.
`load_credit_data` names the columns by position, so a file cut short leaves the trailing cells of
its last line empty: `groupby` drops a record with an empty key cell, and the aggregates skip an
empty credit. Within a section no label repeats, and every credit value of a record with a
positive `XpuId` lies between the min and max of the block of its label. XPU labels are
`1 … xpu_count` and switch labels positive, so a record with `XpuId ≤ 0` enters the XPU table but
no text block. The two tables together count, once each, the records with a whole key and a
credit value.

`main` picks the file to read. It never reads a file named by `--credit_file` or
`--performance_file`: a named credit file only stops the search for the latest credit log, and
naming both files ends in `exit(1)`.
-/
import SueSimProofs.Throughput.Tables

namespace SueSim.Credit

open SueSim.Frame Cell SueSim.Delay SueSim.Throughput

/-- One credit record, in the columns `generate_credit_statistics` reads. `load_credit_data` names
the columns by position, so a file cut short leaves the trailing cells of its last line empty. -/
structure CreditRow where
  xpuId : Cell ℤ
  deviceId : Cell ℤ
  vcId : Cell ℤ
  credits : Cell ℤ

/-- `agg(['count', 'mean', 'std', 'min', 'max'])` of a group's credits; a text block writes the
last four. -/
structure CreditStats where
  count : ℕ
  mean : Option ℝ
  std : Option ℝ
  min : Option ℝ
  max : Option ℝ

/-- The aggregates of a group's credit cells. pandas skips the empty cells: `count` counts the
values, and the others are NaN on a group without one (`std`, with `ddof=1`, on fewer than two). -/
noncomputable def aggCredits (cs : List (Cell ℤ)) : CreditStats :=
  match (cs.filterMap Cell.value?).map (Int.cast : ℤ → ℝ) with
  | [] => ⟨0, none, none, none, none⟩
  | v :: vs => ⟨vs.length + 1, some (npMean (v :: vs)), pdStd (v :: vs), some (vs.foldl min v),
      some (vs.foldl max v)⟩

/-- `Series.unique()`: the distinct values in order of first appearance. -/
def pdUnique : List ℤ → List ℤ
  | [] => []
  | x :: xs => x :: (pdUnique xs).erase x

/-- The credit cells of the records of `part` whose `XpuId` is `x`. -/
def creditsOf (part : List CreditRow) (x : ℤ) : List (Cell ℤ) :=
  (part.filter fun r => r.xpuId.eqv (val x)).map (·.credits)

/-- The text blocks of one section: for each id of `ids` that has records in `part`, its label
and the aggregates of its credits. -/
noncomputable def creditBlocks (label : ℤ → ℤ) (ids : List ℤ) (part : List CreditRow) :
    List (ℤ × CreditStats) :=
  ids.filterMap fun x =>
    if (creditsOf part x).isEmpty then none else some (label x, aggCredits (creditsOf part x))

/-- The blocks of `XPU Credit Statistics:`, for `xpu_id in range(1, xpu_count + 1)`. -/
noncomputable def xpuBlocks (xpuCount : ℤ) (xpuDf : List CreditRow) : List (ℤ × CreditStats) :=
  creditBlocks id ((List.range xpuCount.toNat).map fun i : ℕ => (i : ℤ) + 1) xpuDf

/-- The blocks of `Switch Credit Statistics:`, for `switch_id in switch_df['XpuId'].unique()`,
each labelled `Switch {switch_id - xpu_count}`; a switch record's `XpuId` is a value. -/
noncomputable def switchBlocks (xpuCount : ℤ) (switchDf : List CreditRow) :
    List (ℤ × CreditStats) :=
  creditBlocks (· - xpuCount) (pdUnique (switchDf.filterMap (·.xpuId.value?))) switchDf

/-- pandas' ascending order of `(XpuId, DeviceId, VCId)` keys. -/
def creditKeyLe (a b : ℤ × ℤ × ℤ) : Bool :=
  a.1 < b.1 || a.1 = b.1 && (a.2.1 < b.2.1 || a.2.1 = b.2.1 && a.2.2 ≤ b.2.2)

/-- The group key `(XpuId, DeviceId, VCId)` of a record; `groupby` drops a record with an empty
key cell (`dropna=True`). -/
def CreditRow.key? (r : CreditRow) : Option (ℤ × ℤ × ℤ) :=
  match r.xpuId, r.deviceId, r.vcId with
  | val x, val d, val v => some (x, d, v)
  | _, _, _ => none

/-- The CSV table of one part, before `.round(2)`. -/
noncomputable def creditTable (part : List CreditRow) : List ((ℤ × ℤ × ℤ) × CreditStats) :=
  (groupBy creditKeyLe (part.filterMap fun r => r.key?.map fun k => (k, r.credits))).map
    fun g => (g.1, aggCredits g.2)

/-- What `generate_credit_statistics` writes: the record count, the two sections of the text report
and the two CSV tables; a section or table of an empty part is not written (`none`). -/
structure CreditReport where
  totalRecords : ℕ
  xpuBlocks : Option (List (ℤ × CreditStats))
  switchBlocks : Option (List (ℤ × CreditStats))
  xpuTable : Option (List ((ℤ × ℤ × ℤ) × CreditStats))
  switchTable : Option (List ((ℤ × ℤ × ℤ) × CreditStats))

/-- `generate_credit_statistics`; nothing (`none`, a warning) on an empty frame. A comparison
with an empty `XpuId` is false, so such a record is in neither part. -/
noncomputable def generateCreditStatistics (xpuCount : ℤ) (df : List CreditRow) :
    Option CreditReport :=
  if df.isEmpty then none
  else
    let xpuDf := df.filter fun r => r.xpuId.value?.any (· ≤ xpuCount)
    let switchDf := df.filter fun r => r.xpuId.value?.any (· > xpuCount)
    some
      { totalRecords := df.length
        xpuBlocks := if xpuDf.isEmpty then none else some (xpuBlocks xpuCount xpuDf)
        switchBlocks := if switchDf.isEmpty then none else some (switchBlocks xpuCount switchDf)
        xpuTable := if xpuDf.isEmpty then none else some (creditTable xpuDf)
        switchTable := if switchDf.isEmpty then none else some (creditTable switchDf) }

/-! ## Aggregates -/

/-- A credit value of a group lies between the group's min and max, which are then values. -/
theorem aggCredits_bounds {cs : List (Cell ℤ)} {c : ℤ} (hc : val c ∈ cs) :
    ∃ a ∈ (aggCredits cs).min, ∃ b ∈ (aggCredits cs).max, a ≤ c ∧ (c : ℝ) ≤ b := by
  have hv : (c : ℝ) ∈ (cs.filterMap Cell.value?).map (Int.cast : ℤ → ℝ) :=
    List.mem_map_of_mem _ (List.mem_filterMap.2 ⟨_, hc, rfl⟩)
  unfold aggCredits
  split
  · next h => rw [h] at hv; cases hv
  · next v vs h =>
    rw [h] at hv
    exact ⟨_, rfl, _, rfl, (LoadBalance.foldl_min_spec vs v).1 _ hv, (LoadBalance.foldl_max_spec vs v).1 _ hv⟩

/-- A group's `count` is its number of credit values. -/
theorem count_aggCredits (cs : List (Cell ℤ)) : (aggCredits cs).count = cs.countP Cell.notna := by
  rw [← length_filterMap_value?, ← List.length_map _ (Int.cast : ℤ → ℝ)]
  unfold aggCredits
  split <;> rename_i h <;> simp [h]

/-! ## `unique` -/

@[simp] theorem mem_pdUnique {y : ℤ} : ∀ {xs : List ℤ}, y ∈ pdUnique xs ↔ y ∈ xs
  | [] => Iff.rfl
  | x :: xs => by
    by_cases hyx : y = x
    · simp [pdUnique, hyx]
    · rw [pdUnique, List.mem_cons, List.mem_erase_of_ne hyx, mem_pdUnique, List.mem_cons,
        or_iff_right hyx]

theorem nodup_pdUnique : ∀ xs : List ℤ, (pdUnique xs).Nodup
  | [] => List.nodup_nil
  | x :: xs => List.nodup_cons.2 ⟨(nodup_pdUnique xs).not_mem_erase, (nodup_pdUnique xs).erase x⟩

/-! ## A section of the text report -/

section Blocks

variable {label : ℤ → ℤ} {ids : List ℤ} {part : List CreditRow}

theorem mem_creditsOf {x : ℤ} {c : Cell ℤ} :
    c ∈ creditsOf part x ↔ ∃ r ∈ part, r.xpuId = val x ∧ r.credits = c := by
  simp [creditsOf, eqv_val, and_assoc]

theorem mem_creditBlocks {l : ℤ} {s : CreditStats} :
    (l, s) ∈ creditBlocks label ids part ↔
      ∃ x ∈ ids, creditsOf part x ≠ [] ∧ label x = l ∧ aggCredits (creditsOf part x) = s := by
  simp only [creditBlocks, List.mem_filterMap]
  refine exists_congr fun x => and_congr_right fun _ => ?_
  by_cases he : creditsOf part x = []
  · simp [he]
  · simp [he]

theorem map_fst_creditBlocks :
    (creditBlocks label ids part).map Prod.fst = (ids.filter fun x => !(creditsOf part x).isEmpty).map label := by
  unfold creditBlocks
  induction ids with
  | nil => rfl
  | cons x ids ih =>
    cases he : (creditsOf part x).isEmpty
    · simp only [List.filterMap_cons, he, Bool.false_eq_true, if_false, List.map_cons, ih,
        List.filter_cons, Bool.not_false, if_true]
    · simp only [List.filterMap_cons, he, if_true, ih, List.filter_cons, Bool.not_true,
        Bool.false_eq_true, if_false]

/-- A section repeats no label when its ids are distinct and its labelling is injective. -/
theorem nodup_creditBlocks (hl : Function.Injective label) (hids : ids.Nodup) :
    ((creditBlocks label ids part).map Prod.fst).Nodup := by
  rw [map_fst_creditBlocks]; exact (hids.filter _).map hl

/-- A record whose id is one of the section's ids has a block under its label, and a credit value
of it lies within that block's range. -/
theorem exists_creditBlocks {r : CreditRow} (hr : r ∈ part) {x : ℤ} (hx : r.xpuId = val x) (hid : x ∈ ids) :
    ∃ s, (label x, s) ∈ creditBlocks label ids part ∧
      ∀ c, r.credits = val c → ∃ a ∈ s.min, ∃ b ∈ s.max, a ≤ c ∧ (c : ℝ) ≤ b := by
  have hv : r.credits ∈ creditsOf part x := mem_creditsOf.2 ⟨r, hr, hx, rfl⟩
  exact ⟨_, mem_creditBlocks.2 ⟨x, hid, List.ne_nil_of_mem hv, rfl, rfl⟩,
    fun c hc => aggCredits_bounds (hc ▸ hv)⟩

end Blocks

theorem mem_xpuIds {xpuCount x : ℤ} :
    x ∈ (List.range xpuCount.toNat).map (fun i : ℕ => (i : ℤ) + 1) ↔ 1 ≤ x ∧ x ≤ xpuCount := by
  simp only [List.mem_map, List.mem_range]
  constructor
  · rintro ⟨i, hi, rfl⟩; omega
  · rintro ⟨h1, h2⟩; exact ⟨(x - 1).toNat, by omega, by omega⟩

theorem nodup_xpuIds (xpuCount : ℤ) :
    ((List.range xpuCount.toNat).map fun i : ℕ => (i : ℤ) + 1).Nodup :=
  (List.nodup_range _).map fun i j h => by simpa using h

/-! ## A CSV table -/

/-- Over a table, the groups' `count`s add up to the records with a whole key and a credit value:
`groupby` drops the records with an empty key cell, and `count` the empty credits. -/
theorem sum_count_creditTable (part : List CreditRow) :
    ((creditTable part).map fun e => e.2.count).sum =
      part.countP fun r => r.key?.isSome && r.credits.notna := by
  rw [creditTable, List.map_map]
  simp only [Function.comp_def, count_aggCredits]
  rw [sum_countP_groupBy, List.countP_filterMap]
  exact List.countP_congr fun r _ => by cases r.key? <;> simp

/-! ## The two sections -/

/-- The XPU section: its labels are distinct and lie in `1 … xpu_count`, and a record whose id lies
there has the block of its id, whose range holds its credit value. -/
theorem xpuBlocks_sound (xpuCount : ℤ) (part : List CreditRow) :
    ((xpuBlocks xpuCount part).map Prod.fst).Nodup ∧
      (∀ p ∈ xpuBlocks xpuCount part, 1 ≤ p.1 ∧ p.1 ≤ xpuCount) ∧
      ∀ r ∈ part, ∀ x, r.xpuId = val x → 1 ≤ x → x ≤ xpuCount →
        ∃ s, (x, s) ∈ xpuBlocks xpuCount part ∧
          ∀ c, r.credits = val c → ∃ a ∈ s.min, ∃ b ∈ s.max, a ≤ c ∧ (c : ℝ) ≤ b := by
  refine ⟨nodup_creditBlocks Function.injective_id (nodup_xpuIds _), fun p hp => ?_,
    fun r hr x hx h1 h2 => @exists_creditBlocks id _ _ r hr x hx (mem_xpuIds.2 ⟨h1, h2⟩)⟩
  obtain ⟨x, hx, -, hl, -⟩ := mem_creditBlocks.1 hp
  exact hl ▸ mem_xpuIds.1 hx

/-- The switch section over switch records: distinct positive labels, and each record with the
block labelled by its id less `xpu_count`. -/
theorem switchBlocks_sound (xpuCount : ℤ) (part : List CreditRow)
    (hpart : ∀ r ∈ part, ∃ x, r.xpuId = val x ∧ xpuCount < x) :
    ((switchBlocks xpuCount part).map Prod.fst).Nodup ∧ (∀ p ∈ switchBlocks xpuCount part, 1 ≤ p.1) ∧
      ∀ r ∈ part, ∀ x, r.xpuId = val x → ∃ s, (x - xpuCount, s) ∈ switchBlocks xpuCount part ∧
        ∀ c, r.credits = val c → ∃ a ∈ s.min, ∃ b ∈ s.max, a ≤ c ∧ (c : ℝ) ≤ b := by
  refine ⟨nodup_creditBlocks sub_left_injective (nodup_pdUnique _), fun p hp => ?_,
    fun r hr x hx => @exists_creditBlocks (· - xpuCount) _ _ r hr x hx
      (mem_pdUnique.2 (List.mem_filterMap.2 ⟨r, hr, by rw [hx]; rfl⟩))⟩
  obtain ⟨x, hx, -, hl, -⟩ := mem_creditBlocks.1 hp
  obtain ⟨r, hr, hrx⟩ := List.mem_filterMap.1 (mem_pdUnique.1 hx)
  obtain ⟨y, hy, hlt⟩ := hpart r hr
  rw [hy, value?_val, Option.some.injEq] at hrx
  rw [← hl]; omega

/-! ## The report -/

/-- What a credit report says about the records `df`, split at `xpuCount`. -/
structure CreditReportSound (xpuCount : ℤ) (df : List CreditRow) (rep : CreditReport) : Prop where
  totalRecords : rep.totalRecords = df.length
  xpu_labels : ∀ bs ∈ rep.xpuBlocks, (bs.map Prod.fst).Nodup ∧ ∀ p ∈ bs, 1 ≤ p.1 ∧ p.1 ≤ xpuCount
  switch_labels : ∀ bs ∈ rep.switchBlocks, (bs.map Prod.fst).Nodup ∧ ∀ p ∈ bs, 1 ≤ p.1
  xpu_reported : ∀ r ∈ df, ∀ x, r.xpuId = val x → 1 ≤ x → x ≤ xpuCount →
    ∃ bs ∈ rep.xpuBlocks, ∃ s, (x, s) ∈ bs ∧
      ∀ c, r.credits = val c → ∃ a ∈ s.min, ∃ b ∈ s.max, a ≤ c ∧ (c : ℝ) ≤ b
  switch_reported : ∀ r ∈ df, ∀ x, r.xpuId = val x → xpuCount < x →
    ∃ bs ∈ rep.switchBlocks, ∃ s, (x - xpuCount, s) ∈ bs ∧
      ∀ c, r.credits = val c → ∃ a ∈ s.min, ∃ b ∈ s.max, a ≤ c ∧ (c : ℝ) ≤ b
  counts : ((rep.xpuTable.getD []).map fun e => e.2.count).sum +
    ((rep.switchTable.getD []).map fun e => e.2.count).sum =
      df.countP fun r => r.key?.isSome && r.credits.notna

theorem mem_ite_isEmpty {γ : Type} {part : List CreditRow} {f : List CreditRow → γ} {b : γ} :
    b ∈ (if part.isEmpty then none else some (f part)) ↔ part ≠ [] ∧ b = f part := by
  cases part <;> simp [eq_comm]

theorem sum_count_ite (part : List CreditRow) :
    (((if part.isEmpty then none else some (creditTable part)).getD []).map fun e => e.2.count).sum =
      part.countP fun r => r.key?.isSome && r.credits.notna := by
  cases part
  · rfl
  · exact sum_count_creditTable _

/-- `generate_credit_statistics` writes nothing exactly on an empty frame. Otherwise its two tables
count, once each, the records with a whole `(XpuId, DeviceId, VCId)` key and a credit value. No
label repeats within a section of the text report, XPU labels lie in `1 … xpu_count` and switch
labels are positive. Each record with a positive `XpuId` has the block its id is reported under,
and a credit value of it lies between that block's min and max. -/
theorem generateCreditStatistics_sound (xpuCount : ℤ) (df : List CreditRow) :
    (generateCreditStatistics xpuCount df = none ↔ df = []) ∧
      ∀ rep ∈ generateCreditStatistics xpuCount df, CreditReportSound xpuCount df rep := by
  refine ⟨by cases df <;> simp [generateCreditStatistics], fun rep hrep => ?_⟩
  have hdf : df.isEmpty = false := by
    cases hd : df.isEmpty
    · rfl
    · rw [generateCreditStatistics, hd, if_pos rfl] at hrep; cases hrep
  rw [generateCreditStatistics, hdf, if_neg Bool.false_ne_true, Option.mem_some_iff] at hrep
  subst hrep
  have hxpu : ∀ r ∈ df, ∀ x, r.xpuId = val x → x ≤ xpuCount →
      r ∈ df.filter fun r => r.xpuId.value?.any (· ≤ xpuCount) :=
    fun r hr x hx h => List.mem_filter.2 ⟨hr, by simp [hx, h]⟩
  have hsw : ∀ r ∈ df, ∀ x, r.xpuId = val x → xpuCount < x →
      r ∈ df.filter fun r => r.xpuId.value?.any (· > xpuCount) :=
    fun r hr x hx h => List.mem_filter.2 ⟨hr, by simp [hx, h]⟩
  have hx := xpuBlocks_sound xpuCount (df.filter fun r => r.xpuId.value?.any (· ≤ xpuCount))
  have hs := switchBlocks_sound xpuCount (df.filter fun r => r.xpuId.value?.any (· > xpuCount))
    fun r hr => by
      have := (List.mem_filter.1 hr).2
      cases hi : r.xpuId with
      | nan => simp [hi] at this
      | val y => simp only [hi, value?_val, Option.any_some, decide_eq_true_eq] at this; exact ⟨y, rfl, this⟩
  refine ⟨rfl, fun bs hbs => ?_, fun bs hbs => ?_, fun r hr x hrx h1 h2 => ?_, fun r hr x hrx h => ?_, ?_⟩
  · obtain ⟨-, rfl⟩ := mem_ite_isEmpty.1 hbs
    exact ⟨hx.1, hx.2.1⟩
  · obtain ⟨-, rfl⟩ := mem_ite_isEmpty.1 hbs
    exact ⟨hs.1, hs.2.1⟩
  · have hm := hxpu r hr x hrx h2
    exact ⟨_, mem_ite_isEmpty.2 ⟨List.ne_nil_of_mem hm, rfl⟩, hx.2.2 r hm x hrx h1 h2⟩
  · have hm := hsw r hr x hrx h
    exact ⟨_, mem_ite_isEmpty.2 ⟨List.ne_nil_of_mem hm, rfl⟩, hs.2.2 r hm x hrx⟩
  · -- a record with a whole key has an `XpuId` value, on one side of `xpu_count`
    rw [sum_count_ite, sum_count_ite,
      List.countP_eq_countP_filter_add df _ fun r => r.xpuId.value?.any (· ≤ xpuCount)]
    congr 1
    rw [List.countP_filter, List.countP_filter]
    refine List.countP_congr fun r _ => ?_
    rcases r with ⟨_ | y, d, v, c⟩
    · simp [CreditRow.key?]
    · simp [not_le]

/-! ## The file `main` reads -/

/-- Where `main` reads its credit records: a credit log (`load_credit_data`) or, for backward
compatibility, a performance log (`load_legacy_credit_data`). -/
inductive CreditSource where
  | creditLog (path : String)
  | performanceLog (path : String)
  deriving DecidableEq

/-- The file choice of `main`, from `--credit_file`, `--performance_file` and what
`find_latest_credit_csv_file` and `find_latest_performance_csv_file` find; `none` is the
`exit(1)` of `credit_df is None`. -/
def selectCreditSource (creditFile performanceFile latestCredit latestPerformance : Option String) :
    Option CreditSource :=
  let creditDf := if creditFile.isNone then latestCredit.map .creditLog else none
  if creditDf.isNone && performanceFile.isNone then latestPerformance.map .performanceLog
  else creditDf

/-- `main` reads only a file its searches find, never one named by `--credit_file` or
`--performance_file`: a named credit file only skips the search for the latest credit log, and
naming both files ends in `exit(1)`. -/
theorem selectCreditSource_ignores_named (creditFile performanceFile latestCredit
    latestPerformance : Option String) :
    (∀ p, selectCreditSource creditFile performanceFile latestCredit latestPerformance =
        some (.creditLog p) → creditFile = none ∧ latestCredit = some p) ∧
      (∀ p, selectCreditSource creditFile performanceFile latestCredit latestPerformance =
        some (.performanceLog p) → performanceFile = none ∧ latestPerformance = some p) ∧
      (creditFile.isSome → performanceFile.isSome →
        selectCreditSource creditFile performanceFile latestCredit latestPerformance = none) := by
  cases creditFile <;> cases latestCredit <;> simp [selectCreditSource] <;>
    cases performanceFile <;> simp

/-- The defect at a smallest input: `--credit_file credit.csv` is named and no performance file
is, and the searches find a credit log and a performance log. `main` reads neither the named file
nor the latest credit log, but the legacy performance log. -/
theorem selectCreditSource_named_credit_file :
    selectCreditSource (some "credit.csv") none (some "credit_latest.csv")
      (some "performance_latest.csv") = some (.performanceLog "performance_latest.csv") := rfl

end SueSim.Credit
