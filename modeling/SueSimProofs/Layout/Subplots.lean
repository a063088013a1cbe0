/-
The subplot grids of `plot_xpu_destination_queues` and `plot_switch_credit_changes`. Both lay `n`
panels out on the `n_rows × n_cols` grid of `plt.subplots`, which squeezes what it returns: one
`Axes` for a 1 × 1 grid, a one-dimensional array for a single row or column, a two-dimensional
array otherwise. Each plot then wraps or reshapes that value and indexes it once per slot, for the
panels and then for the unused slots it hides; a slot works when it selects an `Axes`, and on
anything else the first method call raises. The queue plot fails for two panels and the credit plot
for one; for every other count each slot selects its own `Axes`, in row-major order.
-/
import Mathlib.Algebra.BigOperators.Group.List
import Mathlib.Algebra.Order.Ring.Nat

namespace SueSim.Layout

/-- A NumPy object array of `Axes`, by its shape and its row-major data. -/
structure NdArray where
  shape : List ℕ
  data : List ℕ
  length_data : data.length = shape.prod

/-- The values the layout code holds: the `k`-th `Axes` of the figure in row-major order, a NumPy
array of `Axes`, or the one-element list `[o]`. -/
inductive PyObj
  | axes (k : ℕ)
  | ndarray (a : NdArray)
  | single (o : PyObj)

/-- `type(o).__name__`, as Python's errors quote it. -/
def PyObj.typeName : PyObj → String
  | .axes _ => "Axes"
  | .ndarray _ => "numpy.ndarray"
  | .single _ => "list"

/-- The error of a method call or attribute read on a value without that attribute. -/
def attributeError (o : PyObj) (name : String) : String :=
  "AttributeError: \x27" ++ o.typeName ++ "\x27 object has no attribute \x27" ++ name ++ "\x27"

/-- The error of an integer index past the end of an axis of an array. -/
def outOfBounds (i axis size : ℕ) : String :=
  "IndexError: index " ++ toString i ++ " is out of bounds for axis " ++ toString axis ++
    " with size " ++ toString size

/-- The error of indexing an array with more indices than it has axes. -/
def tooManyIndices (ndim given : ℕ) : String :=
  "IndexError: too many indices for array: array is " ++ toString ndim ++
    "-dimensional, but " ++ toString given ++ " were indexed"

/-- `plt.subplots(nrows, ncols)` with its default `squeeze=True`. -/
def subplots (nrows ncols : ℕ) : PyObj :=
  if nrows = 1 ∧ ncols = 1 then .axes 0
  else if nrows = 1 ∨ ncols = 1 then .ndarray ⟨[nrows * ncols], List.range (nrows * ncols), by simp⟩
  else .ndarray ⟨[nrows, ncols], List.range (nrows * ncols), by simp⟩

/-- `o.reshape(1, -1)`. -/
def PyObj.reshape : PyObj → Except String PyObj
  | .ndarray a => .ok (.ndarray ⟨[1, a.data.length], a.data, by simp⟩)
  | o => .error (attributeError o "reshape")

/-- The array `np.array(o)` builds from a value: a list adds an axis of length one. -/
def PyObj.toNdArray : PyObj → NdArray
  | .axes k => ⟨[], [k], rfl⟩
  | .ndarray a => a
  | .single o => ⟨1 :: o.toNdArray.shape, o.toNdArray.data, by simp [o.toNdArray.length_data]⟩

/-- `np.array([[o]])`. -/
def npArrayNested (o : PyObj) : PyObj :=
  .ndarray ⟨1 :: 1 :: o.toNdArray.shape, o.toNdArray.data, by simp [o.toNdArray.length_data]⟩

theorem length_block {rest data : List ℕ} {k n : ℕ} (h : data.length = n * rest.prod) (hk : k < n) :
    ((data.drop (k * rest.prod)).take rest.prod).length = rest.prod := by
  have : (k + 1) * rest.prod ≤ n * rest.prod := Nat.mul_le_mul_right _ hk
  simp only [List.length_take, List.length_drop, h, Nat.succ_mul] at this ⊢
  omega

/-- The entry at flat index `k` over the leading axes of an array whose remaining axes are `rest`:
an `Axes` when none remain, else the sub-array. -/
def NdArray.entry (rest data : List ℕ) (k n : ℕ) (h : data.length = n * rest.prod) (hk : k < n) :
    PyObj :=
  match rest, h with
  | [], h => .axes (data.get ⟨k, by simpa [h] using hk⟩)
  | r :: rs, h => .ndarray ⟨r :: rs, (data.drop (k * (r :: rs).prod)).take (r :: rs).prod,
      length_block h hk⟩

theorem flat_lt {i j n m : ℕ} (hi : i < n) (hj : j < m) : i * m + j < n * m :=
  calc i * m + j < i * m + m := by omega
    _ = (i + 1) * m := (Nat.succ_mul i m).symm
    _ ≤ n * m := Nat.mul_le_mul_right m hi

/-- `a[i]` on an array. -/
def NdArray.getItem : NdArray → ℕ → Except String PyObj
  | ⟨[], _, _⟩, _ => .error (tooManyIndices 0 1)
  | ⟨n :: rest, data, h⟩, i =>
    if hi : i < n then .ok (entry rest data i n h hi) else .error (outOfBounds i 0 n)

/-- `a[i, j]` on an array. -/
def NdArray.getItem2 : NdArray → ℕ → ℕ → Except String PyObj
  | ⟨n :: m :: rest, data, h⟩, i, j =>
    if hi : i < n then
      if hj : j < m then
        .ok (entry rest data (i * m + j) (n * m) (by rw [h, List.prod_cons, List.prod_cons,
          Nat.mul_assoc]) (flat_lt hi hj))
      else .error (outOfBounds j 1 m)
    else .error (outOfBounds i 0 n)
  | a, _, _ => .error (tooManyIndices a.shape.length 2)

/-- `o[i]`. -/
def PyObj.getItem : PyObj → ℕ → Except String PyObj
  | .axes _, _ => .error "TypeError: \x27Axes\x27 object is not subscriptable"
  | .ndarray a, i => a.getItem i
  | .single o, i => if i = 0 then .ok o else .error "IndexError: list index out of range"

/-- `o[i, j]`. -/
def PyObj.getItem2 : PyObj → ℕ → ℕ → Except String PyObj
  | .axes _, _, _ => .error "TypeError: \x27Axes\x27 object is not subscriptable"
  | .ndarray a, i, j => a.getItem2 i j
  | .single _, _, _ => .error "TypeError: list indices must be integers or slices, not tuple"

/-- A call of the method `name` on a value: only an `Axes` has the plotting methods. -/
def PyObj.callMethod (name : String) : PyObj → Except String ℕ
  | .axes k => .ok k
  | o => .error (attributeError o name)

/-- The two loops both plots end with: slot `i`, at row `i / nCols` and column `i % nCols`, draws a
panel for `i < n` and is hidden after; the first thing each does is call a method of the value
`select` gives for its row and column. The result is the `Axes` of each slot, in order. -/
def drawSlots (select : ℕ → ℕ → Except String PyObj) (nRows nCols n : ℕ) : Except String (List ℕ) :=
  (List.range (nRows * nCols)).mapM fun i => do
    let ax ← select (i / nCols) (i % nCols)
    ax.callMethod (if i < n then "plot" else "set_visible")

/-- The grid `(n_rows, n_cols)` of `plot_xpu_destination_queues` for `n_sues` panels. -/
def queueGrid (nSues : ℕ) : ℕ × ℕ :=
  let nCols := min 2 nSues
  ((nSues + nCols - 1) / nCols, nCols)

/-- The layout of `plot_xpu_destination_queues` for `nSues` SUE panels. -/
def plotXpuDestinationQueues (nSues : ℕ) : Except String (List ℕ) :=
  if nSues = 0 then .ok [] else
  let (nRows, nCols) := queueGrid nSues
  let fig := subplots nRows nCols
  do
    let axes ← if nSues = 1 then pure (PyObj.single fig) else if nRows = 1 then fig.reshape else pure fig
    drawSlots (fun row col => if nRows > 1 then axes.getItem2 row col else axes.getItem col) nRows nCols
      nSues

/-- The grid `(n_rows, n_cols)` of `plot_switch_credit_changes` for `n_groups` panels. -/
def creditGrid (nGroups : ℕ) : ℕ × ℕ :=
  let nCols := 2
  ((nGroups + nCols - 1) / nCols, nCols)

/-- The layout of `plot_switch_credit_changes` for `nGroups` (switch, device) panels. -/
def plotSwitchCreditChanges (nGroups : ℕ) : Except String (List ℕ) :=
  if nGroups = 0 then .ok [] else
  let (nRows, nCols) := creditGrid nGroups
  let fig := subplots nRows nCols
  do
    let axes ← if nGroups = 1 then pure (npArrayNested fig) else if nRows = 1 then fig.reshape else pure fig
    drawSlots (fun row col => axes.getItem2 row col) nRows nCols nGroups

/-- The layout of `plot_credit_changes` for `xpuCount` XPU panels, one per row, on a frame with XPU
data. At `xpuCount = 0` the function returns at its data check before it makes a figure, as the
code does when no record has an `XpuId` of at most 0; a record that has one reaches
`plt.subplots(0, 1)`, which raises. A panel's first call is `ax.text` when its XPU has no data and
`ax.plot` otherwise; the layout is the same. -/
def plotCreditChanges (xpuCount : ℕ) : Except String (List ℕ) :=
  if xpuCount = 0 then .ok [] else
  let fig := subplots xpuCount 1
  let axes := if xpuCount = 1 then PyObj.single fig else fig
  drawSlots (fun row _ => axes.getItem row) xpuCount 1 xpuCount

/-- At two panels the queue plot reshapes its row of two `Axes` to one row and then indexes it as
if it were flat; at one panel the credit plot wraps the row of two `Axes` of a 1 × 2 grid into an
array of shape (1, 1, 2). In both the first slot selects an array and its first method call
raises. -/
theorem plot_layouts_select_array :
    plotXpuDestinationQueues 2 =
      .error "AttributeError: \x27numpy.ndarray\x27 object has no attribute \x27plot\x27" ∧
    plotSwitchCreditChanges 1 =
      .error "AttributeError: \x27numpy.ndarray\x27 object has no attribute \x27plot\x27" :=
  ⟨rfl, rfl⟩

/-! ## Grids that work -/

theorem subplots_grid {r c : ℕ} (hr : 2 ≤ r) (hc : 2 ≤ c) :
    subplots r c = .ndarray ⟨[r, c], List.range (r * c), by simp⟩ := by
  have hr1 : r ≠ 1 := by omega
  have hc1 : c ≠ 1 := by omega
  simp [subplots, hr1, hc1]

/-- On a two-dimensional grid, row `i / c` and column `i % c` hold the `i`-th `Axes`. -/
theorem getItem2_grid {r c i : ℕ} (hi : i < r * c) :
    NdArray.getItem2 ⟨[r, c], List.range (r * c), by simp⟩ (i / c) (i % c) = .ok (.axes i) := by
  have hc : 0 < c := Nat.pos_of_ne_zero (by rintro rfl; simp at hi)
  simp [NdArray.getItem2, NdArray.entry, Nat.div_lt_iff_lt_mul hc, hi, Nat.mod_lt _ hc,
    Nat.div_add_mod']

/-- On a one-dimensional array, index `i` holds the `i`-th `Axes`. -/
theorem getItem_row {m i : ℕ} (hi : i < m) :
    NdArray.getItem ⟨[m], List.range m, by simp⟩ i = .ok (.axes i) := by
  simp [NdArray.getItem, NdArray.entry, hi]

theorem mapM_eq_ok_self {f : ℕ → Except String ℕ} :
    ∀ xs : List ℕ, (∀ i ∈ xs, f i = .ok i) → xs.mapM f = .ok xs
  | [], _ => rfl
  | x :: xs, h => by
    rw [List.mapM_cons, h x (List.mem_cons_self _ _),
      mapM_eq_ok_self xs fun i hi => h i (List.mem_cons_of_mem _ hi)]
    rfl

/-- When every slot selects the `Axes` of its own position, the loops draw on each in turn. -/
theorem drawSlots_eq_range {select : ℕ → ℕ → Except String PyObj} {nRows nCols : ℕ} (n : ℕ)
    (h : ∀ i < nRows * nCols, select (i / nCols) (i % nCols) = .ok (.axes i)) :
    drawSlots select nRows nCols n = .ok (List.range (nRows * nCols)) :=
  mapM_eq_ok_self _ fun i hi => by
    rw [h i (List.mem_range.1 hi)]; rfl

theorem queueGrid_of_two_le {n : ℕ} (h : 2 ≤ n) : queueGrid n = ((n + 1) / 2, 2) := by
  simp only [queueGrid, Nat.min_eq_left h]; congr 2

theorem creditGrid_eq (n : ℕ) : creditGrid n = ((n + 1) / 2, 2) := rfl

/-- The queue plot gives every slot of its grid its own `Axes`, in row-major order, for every
number of SUEs but two. -/
theorem plotXpuDestinationQueues_eq_ok_iff (n : ℕ) :
    plotXpuDestinationQueues n = .ok (List.range ((queueGrid n).1 * (queueGrid n).2)) ↔ n ≠ 2 := by
  rcases (by omega : n = 0 ∨ n = 1 ∨ n = 2 ∨ 3 ≤ n) with rfl | rfl | rfl | hn
  · exact iff_of_true rfl (by decide)
  · exact iff_of_true rfl (by decide)
  · exact iff_of_false (fun h => absurd (congrArg Except.toBool h) (by decide))
      (by decide)
  · refine iff_of_true ?_ (by omega)
    have hr : 2 ≤ (n + 1) / 2 := by omega
    obtain ⟨hn0, hn1, hr1, hr2⟩ : n ≠ 0 ∧ n ≠ 1 ∧ (n + 1) / 2 ≠ 1 ∧ (n + 1) / 2 > 1 := by omega
    simp only [plotXpuDestinationQueues, queueGrid_of_two_le (by omega : 2 ≤ n), subplots_grid hr le_rfl,
      hn0, hn1, hr1, hr2, if_false, if_true, pure, Except.pure, bind, Except.bind]
    exact drawSlots_eq_range n fun i hi => getItem2_grid hi

/-- The credit plot gives every slot of its grid its own `Axes`, in row-major order, for every
number of groups but one. -/
theorem plotSwitchCreditChanges_eq_ok_iff (n : ℕ) :
    plotSwitchCreditChanges n = .ok (List.range ((creditGrid n).1 * (creditGrid n).2)) ↔ n ≠ 1 := by
  rcases (by omega : n = 0 ∨ n = 1 ∨ n = 2 ∨ 3 ≤ n) with rfl | rfl | rfl | hn
  · exact iff_of_true rfl (by decide)
  · exact iff_of_false (fun h => absurd (congrArg Except.toBool h) (by decide))
      (by decide)
  · exact iff_of_true rfl (by decide)
  · refine iff_of_true ?_ (by omega)
    have hr : 2 ≤ (n + 1) / 2 := by omega
    obtain ⟨hn0, hn1, hr1⟩ : n ≠ 0 ∧ n ≠ 1 ∧ (n + 1) / 2 ≠ 1 := by omega
    simp only [plotSwitchCreditChanges, creditGrid_eq, subplots_grid hr le_rfl, hn0, hn1, hr1, if_false,
      pure, Except.pure, bind, Except.bind]
    exact drawSlots_eq_range n fun i hi => getItem2_grid hi

/-- The credit plot of the XPUs gives each XPU its own `Axes`, for every number of XPUs. -/
theorem plotCreditChanges_eq_ok (n : ℕ) : plotCreditChanges n = .ok (List.range n) := by
  rcases (by omega : n = 0 ∨ n = 1 ∨ 2 ≤ n) with rfl | rfl | hn
  · rfl
  · rfl
  · obtain ⟨hn0, hn1⟩ : n ≠ 0 ∧ n ≠ 1 := by omega
    have hfig : subplots n 1 = .ndarray ⟨[n * 1], List.range (n * 1), by simp⟩ := by
      simp [subplots, hn1]
    simp only [plotCreditChanges, hn0, hn1, hfig, if_false]
    refine (drawSlots_eq_range n fun i hi => ?_).trans (by rw [Nat.mul_one])
    simpa only [Nat.div_one] using getItem_row hi

end SueSim.Layout
