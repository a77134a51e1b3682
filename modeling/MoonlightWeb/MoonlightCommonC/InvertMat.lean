import MoonlightWeb.Lib.GaussJordan
import MoonlightWeb.MoonlightCommonC.Gf

/-! The inversion of a matrix in place, by which the decoder finds what combination
of the shards that arrived makes up a lost one. -/
namespace MoonlightWeb.MoonlightCommonC

variable {k : Nat}

/-! ## The search for a pivot -/

/-- The first open column with an entry in the row. -/
def searchRow (src : Matrix (Fin k) (Fin k) Gf) (ipiv : Fin k → Nat) (row : Fin k) :
    List (Fin k) → Except String (Option (Fin k))
  | [] => .ok none
  | ix :: rest =>
    if ipiv ix = 0 then
      if src row ix ≠ 0 then .ok (some ix) else searchRow src ipiv row rest
    else if ipiv ix > 1 then .error "singular matrix" else searchRow src ipiv row rest

def searchRows (src : Matrix (Fin k) (Fin k) Gf) (ipiv : Fin k → Nat) :
    List (Fin k) → Except String (Fin k × Fin k)
  | [] => .error "XXX pivot not found!"
  | row :: rest =>
    if ipiv row ≠ 1 then
      match searchRow src ipiv row (List.finRange k) with
      | .error text => .error text
      | .ok (some ix) => .ok (row, ix)
      | .ok none => searchRows src ipiv rest
    else searchRows src ipiv rest

/-- The diagonal first, then every row that has no pivot yet. -/
def findPivot (src : Matrix (Fin k) (Fin k) Gf) (ipiv : Fin k → Nat) (col : Fin k) :
    Except String (Fin k × Fin k) :=
  if ipiv col ≠ 1 ∧ src col col ≠ 0 then .ok (col, col) else searchRows src ipiv (List.finRange k)

/-! ## One column -/

structure Elimination (k : Nat) where
  src : Matrix (Fin k) (Fin k) Gf
  ipiv : Fin k → Nat
  /-- `indxr` and `indxc` of the columns so far, the last one first. -/
  indx : List (Fin k × Fin k)

def addmul (dst src : Fin k → Gf) (c : Gf) : Fin k → Gf :=
  if c ≠ 0 then fun ix => dst ix + c * src ix else dst

/-- The pivot row divided by its pivot, whose room takes the quotient of one. -/
def scaleRow (row : Fin k → Gf) (icol : Fin k) : Fin k → Gf :=
  if row icol ≠ 1 then fun ix => (row icol)⁻¹ * Function.update row icol 1 ix else row

def idRow (icol : Fin k) : Fin k → Gf := fun ix => if ix = icol then 1 else 0

/-- Multiples of the pivot row taken off the other rows, which a unit row does not need. -/
def clearRows (src : Matrix (Fin k) (Fin k) Gf) (icol : Fin k) : Matrix (Fin k) (Fin k) Gf := fun row col =>
  if src icol = idRow icol ∨ row = icol then src row col
  else addmul (Function.update (src row) icol 0) (src icol) (src row icol) col

/-- On failure the matrix is left as it is then. -/
def eliminateColumn (state : Elimination k) (col : Fin k) :
    Except (String × Matrix (Fin k) (Fin k) Gf) (Elimination k) :=
  match findPivot state.src state.ipiv col with
  | .error text => .error (text, state.src)
  | .ok (irow, icol) =>
    let src := if irow ≠ icol then GaussJordan.swapRows state.src irow icol else state.src
    if src icol icol = 0 then .error ("singular matrix 2", src)
    else .ok
      { src := clearRows (src.updateRow icol (scaleRow (src icol) icol)) icol
        ipiv := Function.update state.ipiv icol (state.ipiv icol + 1)
        indx := (irow, icol) :: state.indx }

def eliminateColumns (state : Elimination k) :
    List (Fin k) → Except (String × Matrix (Fin k) (Fin k) Gf) (Elimination k)
  | [] => .ok state
  | col :: rest =>
    match eliminateColumn state col with
    | .error failure => .error failure
    | .ok next => eliminateColumns next rest

/-- The columns exchanged as the rows were, from the last to the first. -/
def restoreColumns (src : Matrix (Fin k) (Fin k) Gf) : List (Fin k × Fin k) → Matrix (Fin k) (Fin k) Gf
  | [] => src
  | (indxr, indxc) :: rest =>
    restoreColumns (if indxr ≠ indxc then GaussJordan.swapColumns src indxr indxc else src) rest

/-- What the matrix holds afterwards, with the text of a failure. -/
def invertMat (src : Matrix (Fin k) (Fin k) Gf) : Matrix (Fin k) (Fin k) Gf × Option String :=
  match eliminateColumns { src, ipiv := fun _ => 0, indx := [] } (List.finRange k) with
  | .error (text, left) => (left, some text)
  | .ok state => (restoreColumns state.src state.indx, none)

/-! ## The steps are row operations -/

theorem scaleRow_eq (row : Fin k → Gf) (icol ix : Fin k) :
    scaleRow row icol ix = (row icol)⁻¹ * (if ix = icol then 1 else row ix) := by
  unfold scaleRow
  by_cases one : row icol = 1
  · rw [if_neg (not_not_intro one), one, inv_one, one_mul]
    split
    · next same => rw [same, one]
    · rfl
  · rw [if_pos one, Function.update_apply]

theorem addmul_eq (dst src : Fin k → Gf) (c : Gf) (ix : Fin k) :
    addmul dst src c ix = dst ix + c * src ix := by
  unfold addmul
  by_cases zero : c = 0
  · rw [if_neg (not_not_intro zero), zero, zero_mul, add_zero]
  · rw [if_pos zero]

/-- Where the pivot row is a unit row, clearing would only change the sign of the
pivot's column, and a byte is its own negation. -/
theorem clearRows_eq (src : Matrix (Fin k) (Fin k) Gf) (icol row col : Fin k) :
    clearRows src icol row col =
      if row = icol then src icol col
      else (if col = icol then 0 else src row col) - src row icol * src icol col := by
  unfold clearRows
  by_cases pivot : row = icol
  · rw [if_pos (.inr pivot), if_pos pivot, pivot]
  rw [if_neg pivot]
  by_cases unit : src icol = idRow icol
  · rw [if_pos (.inl unit), unit, idRow]
    by_cases same : col = icol
    · rw [if_pos same, if_pos same, mul_one, zero_sub, Gf.neg_eq, same]
    · rw [if_neg same, if_neg same, mul_zero, sub_zero]
  · rw [if_neg (not_or.mpr ⟨unit, pivot⟩), addmul_eq, Function.update_apply, Gf.sub_eq_add]

theorem pivot_eq (src : Matrix (Fin k) (Fin k) Gf) (icol : Fin k) :
    clearRows (src.updateRow icol (scaleRow (src icol) icol)) icol = GaussJordan.pivot src icol := by
  funext row col
  rw [clearRows_eq, Matrix.updateRow_self, scaleRow_eq, GaussJordan.pivot]
  by_cases pivot : row = icol
  · rw [if_pos pivot, if_pos pivot]
  · rw [if_neg pivot, if_neg pivot, Matrix.updateRow_ne pivot]

theorem swapRows_self (src : Matrix (Fin k) (Fin k) Gf) (icol : Fin k) :
    GaussJordan.swapRows src icol icol = src := by
  funext row
  rw [GaussJordan.swapRows, Equiv.swap_self, Equiv.refl_apply]

theorem restoreColumns_eq (src : Matrix (Fin k) (Fin k) Gf) (indx : List (Fin k × Fin k)) :
    restoreColumns src indx = GaussJordan.unswap src indx := by
  induction indx generalizing src with
  | nil => rfl
  | cons swap earlier ih =>
    obtain ⟨indxr, indxc⟩ := swap
    rw [restoreColumns, GaussJordan.unswap, ih]
    split
    · rfl
    · next same =>
      rw [not_not.mp same]
      congr 1
      funext row col
      rw [GaussJordan.swapColumns, Equiv.swap_self, Equiv.refl_apply]

/-! ## Every step keeps what is stored -/

theorem searchRow_cases {ipiv : Fin k → Nat} (marks : ∀ col, ipiv col ≤ 1) (src : Matrix (Fin k) (Fin k) Gf) (row : Fin k)
    (cols : List (Fin k)) :
    (∃ ix, searchRow src ipiv row cols = .ok (some ix) ∧ ipiv ix = 0 ∧ src row ix ≠ 0) ∨
      (searchRow src ipiv row cols = .ok none ∧ ∀ ix ∈ cols, ipiv ix = 0 → src row ix = 0) := by
  induction cols with
  | nil => exact .inr ⟨rfl, fun _ inside => absurd inside List.not_mem_nil⟩
  | cons ix rest ih =>
    rw [searchRow]
    by_cases isOpen : ipiv ix = 0
    · rw [if_pos isOpen]
      by_cases nonzero : src row ix ≠ 0
      · exact .inl ⟨ix, if_pos nonzero, isOpen, nonzero⟩
      · rw [if_neg nonzero]
        exact ih.imp_right fun ⟨nowhere, zeros⟩ =>
          ⟨nowhere, List.forall_mem_cons.mpr ⟨fun _ => not_not.mp nonzero, zeros⟩⟩
    · rw [if_neg isOpen, if_neg (Nat.not_lt.mpr (marks ix))]
      exact ih.imp_right fun ⟨nowhere, zeros⟩ =>
        ⟨nowhere, List.forall_mem_cons.mpr ⟨fun zero => absurd zero isOpen, zeros⟩⟩

theorem searchRows_cases {ipiv : Fin k → Nat} (marks : ∀ col, ipiv col ≤ 1) (src : Matrix (Fin k) (Fin k) Gf)
    (rows : List (Fin k)) :
    (∃ irow icol, searchRows src ipiv rows = .ok (irow, icol) ∧ ipiv irow ≠ 1 ∧ ipiv icol = 0 ∧
        src irow icol ≠ 0) ∨
      (searchRows src ipiv rows = .error "XXX pivot not found!" ∧
        ∀ row ∈ rows, ipiv row ≠ 1 → ∀ col, ipiv col = 0 → src row col = 0) := by
  induction rows with
  | nil => exact .inr ⟨rfl, fun _ inside => absurd inside List.not_mem_nil⟩
  | cons row rest ih =>
    rw [searchRows]
    by_cases isOpen : ipiv row ≠ 1
    · rw [if_pos isOpen]
      rcases searchRow_cases marks src row (List.finRange k) with
        ⟨ix, found, open_ix, nonzero⟩ | ⟨nowhere, zeros⟩
      · rw [found]
        exact .inl ⟨row, ix, rfl, isOpen, open_ix, nonzero⟩
      · rw [nowhere]
        exact ih.imp_right fun ⟨missing, later⟩ =>
          ⟨missing, List.forall_mem_cons.mpr
            ⟨fun _ col => zeros col (List.mem_finRange col), later⟩⟩
    · rw [if_neg isOpen]
      exact ih.imp_right fun ⟨missing, later⟩ =>
        ⟨missing, List.forall_mem_cons.mpr ⟨fun other => absurd other isOpen, later⟩⟩

theorem findPivot_cases {ipiv : Fin k → Nat} (marks : ∀ col, ipiv col ≤ 1) (src : Matrix (Fin k) (Fin k) Gf) (col : Fin k) :
    (∃ irow icol, findPivot src ipiv col = .ok (irow, icol) ∧ ipiv irow ≠ 1 ∧ ipiv icol ≠ 1 ∧
        src irow icol ≠ 0) ∨
      (findPivot src ipiv col = .error "XXX pivot not found!" ∧
        ∀ row, ipiv row ≠ 1 → ∀ col, ipiv col ≠ 1 → src row col = 0) := by
  have zero : ∀ col, ipiv col ≠ 1 → ipiv col = 0 := fun col other => by
    have := marks col
    omega
  unfold findPivot
  split
  · next diagonal => exact .inl ⟨col, col, rfl, diagonal.1, diagonal.1, diagonal.2⟩
  · rcases searchRows_cases marks src (List.finRange k) with
      ⟨irow, icol, found, open_row, open_col, nonzero⟩ | ⟨missing, zeros⟩
    · exact .inl ⟨irow, icol, found, open_row, by omega, nonzero⟩
    · exact .inr ⟨missing, fun row open_row col open_col =>
        zeros row (List.mem_finRange row) open_row col (zero col open_col)⟩

theorem swapped_eq (src : Matrix (Fin k) (Fin k) Gf) (irow icol : Fin k) :
    (if irow ≠ icol then GaussJordan.swapRows src irow icol else src) =
      GaussJordan.swapRows src irow icol := by
  split
  · rfl
  · next same => rw [not_not.mp same, swapRows_self]

/-- The columns that have had their pivot. -/
def pivoted (ipiv : Fin k → Nat) : Finset (Fin k) := Finset.univ.filter fun col => ipiv col = 1

theorem mem_pivoted {ipiv : Fin k → Nat} : col ∈ pivoted ipiv ↔ ipiv col = 1 := by
  rw [pivoted, Finset.mem_filter, and_iff_right (Finset.mem_univ col)]

theorem pivoted_update {ipiv : Fin k → Nat} (isOpen : ipiv icol = 0) :
    pivoted (Function.update ipiv icol (ipiv icol + 1)) = insert icol (pivoted ipiv) := by
  ext col
  rw [mem_pivoted, Finset.mem_insert, mem_pivoted, Function.update_apply, isOpen]
  by_cases same : col = icol
  · rw [if_pos same]
    exact iff_of_true rfl (.inl same)
  · rw [if_neg same, or_iff_right same]

/-- With fewer columns done than there are, some row is still without a pivot. -/
theorem exists_open {ipiv : Fin k → Nat} (pivots : (pivoted ipiv).card = count) (room : count < k) : ∃ row, ipiv row ≠ 1 := by
  by_contra none
  have all : pivoted ipiv = Finset.univ :=
    Finset.eq_univ_of_forall fun row => mem_pivoted.mpr (not_not.mp fun other => none ⟨row, other⟩)
  rw [all, Finset.card_univ, Fintype.card_fin] at pivots
  exact Nat.ne_of_gt room pivots

/-- The first `count` columns are through: as many have had their pivot. -/
structure Eliminated (a : Matrix (Fin k) (Fin k) Gf) (state : Elimination k) (count : Nat) : Prop where
  marks : ∀ col, state.ipiv col ≤ 1
  pivots : (pivoted state.ipiv).card = count
  stores : ∃ left reduced, GaussJordan.Stores a state.src (pivoted state.ipiv)
    (GaussJordan.placement state.indx) left reduced

theorem eliminateColumn_cases {a : Matrix (Fin k) (Fin k) Gf} (inv : Eliminated a state count)
    (room : count < k) (col : Fin k) :
    (∃ next, eliminateColumn state col = .ok next ∧ Eliminated a next (count + 1)) ∨
      (∃ left, eliminateColumn state col = .error ("XXX pivot not found!", left) ∧ a.det = 0) := by
  obtain ⟨left, reduced, stores⟩ := inv.stores
  unfold eliminateColumn
  rcases findPivot_cases inv.marks state.src col with
    ⟨irow, icol, found, openRow, openCol, nonzero⟩ | ⟨missing, zeros⟩
  · have openRow' : irow ∉ pivoted state.ipiv := mt mem_pivoted.mp openRow
    have openCol' : icol ∉ pivoted state.ipiv := mt mem_pivoted.mp openCol
    have fresh : state.ipiv icol = 0 := by
      have := inv.marks icol
      omega
    have pivot : GaussJordan.swapRows state.src irow icol icol icol ≠ 0 := by
      rw [GaussJordan.swapRows, Equiv.swap_apply_right]
      exact nonzero
    have cleared := (stores.swap openRow' openCol').pivot openCol' pivot
    rw [found]
    simp only [swapped_eq, if_neg pivot, pivot_eq]
    refine .inl ⟨_, rfl, ?_, ?_, ?_⟩
    · intro col
      dsimp only
      rw [Function.update_apply, fresh]
      split
      · exact Nat.le_refl 1
      · exact inv.marks col
    · rw [pivoted_update fresh, Finset.card_insert_of_notMem openCol', inv.pivots]
    · rw [pivoted_update fresh]
      exact ⟨_, _, cleared⟩
  · obtain ⟨row, openRow⟩ := exists_open inv.pivots room
    rw [missing]
    exact .inr ⟨_, rfl, stores.singular (mt mem_pivoted.mp openRow) fun col outside =>
      zeros row openRow col (mt mem_pivoted.mpr outside)⟩

theorem eliminateColumns_cases {a : Matrix (Fin k) (Fin k) Gf} (inv : Eliminated a state count)
    (cols : List (Fin k)) (room : count + cols.length ≤ k) :
    (∃ next, eliminateColumns state cols = .ok next ∧ Eliminated a next (count + cols.length)) ∨
      (∃ left, eliminateColumns state cols = .error ("XXX pivot not found!", left) ∧ a.det = 0) := by
  induction cols generalizing state count with
  | nil => exact .inl ⟨state, rfl, inv⟩
  | cons col rest ih =>
    rw [List.length_cons, Nat.add_comm rest.length, ← Nat.add_assoc] at room ⊢
    rw [eliminateColumns]
    rcases eliminateColumn_cases inv (by omega) col with ⟨next, step, inv'⟩ | ⟨left, failed, singular⟩
    · rw [step]
      exact ih inv' room
    · rw [failed]
      exact .inr ⟨left, rfl, singular⟩

theorem eliminated_start (a : Matrix (Fin k) (Fin k) Gf) :
    Eliminated a { src := a, ipiv := fun _ => 0, indx := [] } 0 where
  marks _ := Nat.zero_le 1
  pivots := Finset.card_eq_zero.mpr (Finset.filter_false_of_mem fun _ _ => Nat.zero_ne_one)
  stores := by
    have none : pivoted (k := k) (fun _ => 0) = ∅ :=
      Finset.filter_false_of_mem fun _ _ => Nat.zero_ne_one
    exact ⟨1, a, by rw [none]; exact GaussJordan.Stores.start a⟩

theorem invertMat_cases (a : Matrix (Fin k) (Fin k) Gf) :
    (∃ b, invertMat a = (b, none) ∧ b * a = 1) ∨
      ((invertMat a).2 = some "XXX pivot not found!" ∧ a.det = 0) := by
  unfold invertMat
  rcases eliminateColumns_cases (eliminated_start a) (List.finRange k)
      (by rw [List.length_finRange, Nat.zero_add]) with ⟨state, through, inv⟩ | ⟨left, failed, singular⟩
  · rw [through]
    obtain ⟨left, reduced, stores⟩ := inv.stores
    have all : pivoted state.ipiv = Finset.univ := by
      rw [← Finset.card_eq_iff_eq_univ, inv.pivots, List.length_finRange, Nat.zero_add, Fintype.card_fin]
    refine .inl ⟨_, rfl, ?_⟩
    rw [restoreColumns_eq]
    exact stores.finish fun col => all ▸ Finset.mem_univ col
  · rw [failed]
    exact .inr ⟨rfl, singular⟩

theorem invertMat_of_det (a : Matrix (Fin k) (Fin k) Gf) (nonzero : a.det ≠ 0) :
    invertMat a = (a⁻¹, none) := by
  rcases invertMat_cases a with ⟨b, inverted, product⟩ | ⟨_, singular⟩
  · rw [inverted, Matrix.inv_eq_left_inv product]
  · exact absurd singular nonzero

/-- The inversion gives the inverse of every matrix that has one. For the others it
fails, always because no pivot is found: the texts of its other failures are never
seen. -/
theorem invertMat_inverts (a : Matrix (Fin k) (Fin k) Gf) :
    (a.det ≠ 0 → invertMat a = (a⁻¹, none)) ∧
      (a.det = 0 → (invertMat a).2 = some "XXX pivot not found!") := by
  refine ⟨invertMat_of_det a, fun singular => ?_⟩
  rcases invertMat_cases a with ⟨b, _, product⟩ | ⟨failed, _⟩
  · have one := congrArg Matrix.det product
    rw [Matrix.det_mul, singular, mul_zero, Matrix.det_one] at one
    exact absurd one zero_ne_one
  · exact failed

end MoonlightWeb.MoonlightCommonC
