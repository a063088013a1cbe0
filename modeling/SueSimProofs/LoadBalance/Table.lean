/-
The request table of `load_balance_analyzer.py`: the four columns `load_and_validate_data`
requires, the loader itself, and the per-XPU selection `df[df['LocalXpuId'] == x]` that the
metrics, the box plot and the heatmap share. The loader accepts every table that carries the four
columns, empty cells included (`loadAndValidateData_toFrame`), so a property of every table is a
property of every accepted file.
-/
import SueSimProofs.Frame.Cell

namespace SueSim.LoadBalance

open SueSim.Frame Cell

/-- One row of a `load_balance_*.csv` log, restricted to the columns the analyses read. -/
structure Request (α : Type) where
  localXpuId : Cell α
  destXpuId : Cell α
  vcId : Cell α
  sueId : Cell α
  deriving DecidableEq, Repr

/-- A request table, rows in file order. -/
abbrev Table (α : Type) := List (Request α)

/-- A CSV file as `pd.read_csv` returns it: the header, and each row as a cell per column name. -/
structure Frame (α : Type) where
  columns : List String
  rows : List (String → Cell α)

variable {α : Type}

/-- `required_columns` of `load_and_validate_data`. -/
def requiredColumns : List String := ["LocalXpuId", "DestXpuId", "VcId", "SueId"]

/-- `load_and_validate_data` on a file `pd.read_csv` has read: the table when every required column
is present, otherwise the missing columns (the script prints them after
`Data file missing required columns:` and returns `None`). -/
def loadAndValidateData (f : Frame α) : Except (List String) (Table α) :=
  match requiredColumns.filter (· ∉ f.columns) with
  | [] => .ok (f.rows.map fun r => ⟨r "LocalXpuId", r "DestXpuId", r "VcId", r "SueId"⟩)
  | missing => .error missing

/-- The file a table is read from: the required header, and each row's cells by column name. -/
def Table.toFrame (df : Table α) : Frame α :=
  ⟨requiredColumns, df.map fun r c =>
    if c = "LocalXpuId" then r.localXpuId else if c = "DestXpuId" then r.destXpuId
    else if c = "VcId" then r.vcId else r.sueId⟩

/-- Every table, whatever its cells, is accepted by the loader. -/
theorem loadAndValidateData_toFrame (df : Table α) : loadAndValidateData df.toFrame = .ok df := by
  have hcols : requiredColumns.filter (· ∉ requiredColumns) = [] := by decide
  simp only [loadAndValidateData, Table.toFrame, hcols, List.map_map]
  congr 1
  conv_rhs => rw [← List.map_id df]
  exact List.map_congr_left fun r _ => by simp

/-! ## The rows of one local XPU -/

/-- `df[df['LocalXpuId'] == x]`. -/
def xpuData [DecidableEq α] (df : Table α) (x : Cell α) : Table α :=
  df.filter fun r => r.localXpuId.eqv x

/-- `sorted(df['LocalXpuId'].unique())`. -/
def localXpus [LinearOrder α] (df : Table α) : List (Cell α) :=
  sortedUnique Cell.le (df.map (·.localXpuId))

theorem mem_xpuData [DecidableEq α] {df : Table α} {x : Cell α} {r : Request α} :
    r ∈ xpuData df x ↔ r ∈ df ∧ x ≠ nan ∧ r.localXpuId = x := by
  simp [xpuData, eqv_iff]

theorem mem_localXpus [LinearOrder α] {df : Table α} {x : Cell α} :
    x ∈ localXpus df ↔ ∃ r ∈ df, r.localXpuId = x := by
  simp [localXpus]

/-- A local XPU id that is not `NaN` selects at least the rows it was read from. -/
theorem xpuData_ne_nil [LinearOrder α] {df : Table α} {x : Cell α} (hx : x ∈ localXpus df)
    (hnan : x ≠ nan) : xpuData df x ≠ [] := by
  obtain ⟨r, hr, rfl⟩ := mem_localXpus.1 hx
  exact List.ne_nil_of_mem (mem_xpuData.2 ⟨hr, hnan, rfl⟩)

end SueSim.LoadBalance
