import Mathlib.LinearAlgebra.Matrix.ToLinearEquiv

/-! Gauss-Jordan elimination in place. A column that has had its pivot is a unit
column from then on, so its room holds a column of the row operations so far. Which
one that is depends on the rows exchanged, and exchanging columns at the end puts
them in order. -/
namespace MoonlightWeb.GaussJordan

variable {n K : Type*} [DecidableEq n]

/-! ## The exchanges -/

def swapRows (m : Matrix n n K) (irow icol : n) : Matrix n n K := fun row => m (Equiv.swap irow icol row)

def swapColumns (m : Matrix n n K) (irow icol : n) : Matrix n n K :=
  fun row col => m row (Equiv.swap irow icol col)

theorem swap_fixed {done : Finset n} (irow_open : irow ∉ done) (icol_open : icol ∉ done)
    (inside : col ∈ done) : Equiv.swap irow icol col = col :=
  Equiv.swap_apply_of_ne_of_ne (fun same => irow_open (same ▸ inside)) fun same =>
    icol_open (same ▸ inside)

theorem swap_open {done : Finset n} (irow_open : irow ∉ done) (icol_open : icol ∉ done)
    (outside : col ∉ done) : Equiv.swap irow icol col ∉ done := by
  rw [Equiv.swap_apply_def]
  split
  · exact icol_open
  split
  · exact irow_open
  · exact outside

/-- The columns exchanged as the rows were, the last exchange first. -/
def unswap (m : Matrix n n K) : List (n × n) → Matrix n n K
  | [] => m
  | (irow, icol) :: earlier => unswap (swapColumns m irow icol) earlier

/-- Where exchanging them puts the columns. -/
def placement : List (n × n) → Equiv.Perm n
  | [] => 1
  | (irow, icol) :: earlier => placement earlier * Equiv.swap irow icol

theorem unswap_placement (swaps : List (n × n)) (m : Matrix n n K) (row col : n) :
    unswap m swaps row (placement swaps col) = m row col := by
  induction swaps generalizing m col with
  | nil => rfl
  | cons swap earlier ih =>
    rw [unswap, placement, Equiv.Perm.mul_apply, ih, swapColumns, Equiv.swap_apply_self]

/-! ## Row operations -/

variable [Fintype n] [Field K]
variable {a stored left reduced : Matrix n n K} {done : Finset n} {place : Equiv.Perm n}

/-- Row `p` scaled by `c`, and its multiples by `factor` taken off the other rows. -/
def clear (m : Matrix n n K) (p : n) (c : K) (factor : n → K) : Matrix n n K := fun row col =>
  if row = p then c * m p col else m row col - factor row * (c * m p col)

theorem swapRows_mul (irow icol : n) :
    swapRows left irow icol * a = swapRows (left * a) irow icol := by
  ext row col
  simp only [swapRows, Matrix.mul_apply]

theorem clear_mul (p : n) (c : K) (factor : n → K) :
    clear left p c factor * a = clear (left * a) p c factor := by
  ext row col
  simp only [clear, Matrix.mul_apply]
  split
  · simp only [Finset.mul_sum, mul_assoc]
  · simp only [Finset.mul_sum, ← Finset.sum_sub_distrib, sub_mul, mul_assoc]

/-- Clearing column `p` in place: its room takes the new column of the row operations. -/
def pivot (m : Matrix n n K) (p : n) : Matrix n n K := fun row col =>
  let scaled := (m p p)⁻¹ * (if col = p then 1 else m p col)
  if row = p then scaled else (if col = p then 0 else m row col) - m row p * scaled

/-! ## What is stored -/

/-- The stored matrix after the columns of `done`: row operations `left` have made
`a` into `reduced`, and each column that is done holds a column of `left`. -/
structure Stores (a stored : Matrix n n K) (done : Finset n) (place : Equiv.Perm n)
    (left reduced : Matrix n n K) : Prop where
  product : left * a = reduced
  unit : ∀ col ∈ done, ∀ row, reduced row col = if row = col then 1 else 0
  kept : ∀ col ∉ done, ∀ row, stored row col = reduced row col
  held : ∀ col ∈ done, ∀ row, stored row col = left row (place col)
  fresh : ∀ col ∉ done, ∀ row, left row (place col) = if row = col then 1 else 0

theorem Stores.start (a : Matrix n n K) : Stores a a ∅ 1 1 a where
  product := one_mul a
  unit _ inside := absurd inside (Finset.notMem_empty _)
  kept _ _ _ := rfl
  held _ inside := absurd inside (Finset.notMem_empty _)
  fresh _ _ _ := Matrix.one_apply

/-- Rows that have no pivot yet may be exchanged. -/
theorem Stores.swap (stores : Stores a stored done place left reduced) (irow_open : irow ∉ done)
    (icol_open : icol ∉ done) :
    Stores a (swapRows stored irow icol) done (place * Equiv.swap irow icol)
      (swapRows left irow icol) (swapRows reduced irow icol) where
  product := by rw [swapRows_mul, stores.product]
  unit col inside row := by
    simp only [swapRows, stores.unit col inside, Equiv.swap_apply_eq_iff,
      swap_fixed irow_open icol_open inside]
  kept col outside row := stores.kept col outside _
  held col inside row := by
    simp only [swapRows, Equiv.Perm.mul_apply, swap_fixed irow_open icol_open inside,
      stores.held col inside]
  fresh col outside row := by
    simp only [swapRows, Equiv.Perm.mul_apply, EmbeddingLike.apply_eq_iff_eq,
      stores.fresh _ (swap_open irow_open icol_open outside)]

theorem Stores.pivot (stores : Stores a stored done place left reduced) (p_open : p ∉ done)
    (nonzero : stored p p ≠ 0) :
    Stores a (pivot stored p) (insert p done) place
      (clear left p (stored p p)⁻¹ fun row => stored row p)
      (clear reduced p (stored p p)⁻¹ fun row => stored row p) where
  product := by rw [clear_mul, stores.product]
  unit col inside row := by
    rcases Finset.mem_insert.mp inside with rfl | earlier
    · simp only [clear, ← stores.kept col p_open, inv_mul_cancel₀ nonzero, mul_one, sub_self]
    · have other : p ≠ col := fun same => p_open (same ▸ earlier)
      simp only [clear, stores.unit col earlier, if_neg other, mul_zero, sub_zero]
      split
      · next same => rw [if_neg (same ▸ other)]
      · rfl
  kept col outside row := by
    obtain ⟨other, later⟩ := not_or.mp (mt Finset.mem_insert.mpr outside)
    simp only [GaussJordan.pivot, clear, if_neg other, stores.kept col later]
  held col inside row := by
    rcases Finset.mem_insert.mp inside with rfl | earlier
    · simp only [GaussJordan.pivot, clear, stores.fresh col p_open, if_true]
      split
      · rfl
      · rfl
    · have other : col ≠ p := fun same => p_open (same ▸ earlier)
      simp only [GaussJordan.pivot, clear, if_neg other, stores.held col earlier]
  fresh col outside row := by
    obtain ⟨other, later⟩ := not_or.mp (mt Finset.mem_insert.mpr outside)
    have other' : p ≠ col := fun same => other same.symm
    simp only [clear, stores.fresh col later, if_neg other', mul_zero, sub_zero]
    split
    · next same => rw [if_neg (same ▸ other')]
    · rfl

/-- Without a pivot in the rows and columns that are left, the matrix is singular: the
row operations lead to a row of zeros, and do not come from zero themselves. -/
theorem Stores.singular (stores : Stores a stored done place left reduced) (row_open : row ∉ done)
    (zeros : ∀ col ∉ done, stored row col = 0) : a.det = 0 := by
  have vanishes : Matrix.vecMul (left row) a = 0 := by
    have rows : Matrix.vecMul (left row) a = reduced row := by
      rw [← stores.product]
      rfl
    rw [rows]
    funext col
    by_cases inside : col ∈ done
    · rw [stores.unit col inside, if_neg fun same : row = col => row_open (same ▸ inside)]
      rfl
    · rw [← stores.kept col inside, zeros col inside]
      rfl
  have nonzero : left row ≠ 0 := fun zero => by
    have one := stores.fresh row row_open row
    rw [if_pos rfl, zero] at one
    exact zero_ne_one one
  exact Matrix.exists_vecMul_eq_zero_iff.mp ⟨left row, nonzero, vanishes⟩

theorem Stores.finish (stores : Stores a stored done (placement swaps) left reduced)
    (all : ∀ col, col ∈ done) : unswap stored swaps * a = 1 := by
  have ordered : unswap stored swaps = left := by
    ext row col
    obtain ⟨source, rfl⟩ := (placement swaps).surjective col
    rw [unswap_placement, stores.held source (all source)]
  rw [ordered, stores.product]
  ext row col
  rw [stores.unit col (all col), Matrix.one_apply]

end MoonlightWeb.GaussJordan
