import Mathlib.LinearAlgebra.Lagrange
import Mathlib.LinearAlgebra.Matrix.ToLinearEquiv
import Mathlib.Tactic.LinearCombination

/-! Systematic erasure codes: the data itself and sums over it with coefficients. Any
choice of as many shards as there is data determines the data exactly when every
square part of the coefficients is regular. -/
namespace MoonlightWeb.ErasureCode

variable {n m K : Type*} [DecidableEq n] [Field K]

/-! ## Inverses of differences -/

section Cauchy

open Polynomial

variable {y : n → K}

/-- The sum over `cols` brought to its common denominator. -/
noncomputable def numerator (y coefficients : n → K) (cols : Finset n) : K[X] :=
  ∑ col ∈ cols, C (coefficients col) * ∏ other ∈ cols.erase col, (C (y other) - X)

theorem degree_numerator (coefficients : n → K) {cols : Finset n} :
    (numerator y coefficients cols).degree < cols.card := by
  refine (degree_sum_le _ _).trans_lt ((Finset.sup_lt_iff (WithBot.bot_lt_coe _)).mpr ?_)
  intro col inside
  have factors : ∀ other ∈ cols.erase col, (C (y other) - X : K[X]).degree ≤ 1 := fun other _ =>
    (degree_sub_le _ _).trans (max_le (degree_C_le.trans (by norm_num)) degree_X_le)
  calc
    _ ≤ (C (coefficients col)).degree + (∏ other ∈ cols.erase col, (C (y other) - X)).degree :=
      degree_mul_le _ _
    _ ≤ 0 + ∑ other ∈ cols.erase col, 1 :=
      add_le_add degree_C_le ((degree_prod_le _ _).trans (Finset.sum_le_sum factors))
    _ < cols.card := by
      rw [zero_add, Finset.sum_const, Finset.card_erase_of_mem inside, nsmul_one]
      exact_mod_cast Nat.sub_lt (Finset.card_pos.mpr ⟨col, inside⟩) Nat.one_pos

theorem eval_numerator (coefficients : n → K) (cols : Finset n) (at_ : K)
    (apart : ∀ col ∈ cols, y col ≠ at_) :
    (numerator y coefficients cols).eval at_ =
      (∏ col ∈ cols, (y col - at_)) * ∑ col ∈ cols, (y col - at_)⁻¹ * coefficients col := by
  unfold numerator
  rw [eval_finsetSum, Finset.mul_sum]
  refine Finset.sum_congr rfl fun col inside => ?_
  have nonzero : y col - at_ ≠ 0 := sub_ne_zero.mpr (apart col inside)
  rw [eval_mul, eval_C, eval_prod, ← Finset.mul_prod_erase cols _ inside]
  simp only [eval_sub, eval_C, eval_X]
  field_simp

/-- At one of the poles a single term is left. -/
theorem eval_numerator_pole (coefficients : n → K) {cols : Finset n} (inside : col ∈ cols) :
    (numerator y coefficients cols).eval (y col) =
      coefficients col * ∏ other ∈ cols.erase col, (y other - y col) := by
  unfold numerator
  rw [eval_finsetSum, Finset.sum_eq_single_of_mem col inside]
  · simp only [eval_mul, eval_C, eval_prod, eval_sub, eval_X]
  · intro other _ differs
    rw [eval_mul, eval_prod, Finset.prod_eq_zero (Finset.mem_erase.mpr ⟨differs.symm, inside⟩), mul_zero]
    rw [eval_sub, eval_C, eval_X, sub_self]

end Cauchy

/-! ## Regular coefficients -/

variable [Fintype n]

/-- A vector is zero when it lives on as many columns as there are rows that take it
to zero. -/
def Superregular (parity : Matrix m n K) : Prop :=
  ∀ (rows : Finset m) (cols : Finset n), cols.card ≤ rows.card → ∀ x : n → K,
    (∀ col ∉ cols, x col = 0) → (∀ row ∈ rows, ∑ col, parity row col * x col = 0) → x = 0

theorem Superregular.ne_zero [DecidableEq m] {parity : Matrix m n K} (regular : Superregular parity)
    (row : m) (col : n) : parity row col ≠ 0 := by
  intro zero
  have single := regular {row} {col} (Nat.le_refl 1) (Pi.single col 1)
    (fun other outside => Pi.single_eq_of_ne (mt Finset.mem_singleton.mpr outside) 1)
    (fun other inside => by
      rw [Finset.mem_singleton.mp inside, Finset.sum_eq_single col, zero, zero_mul]
      · intro other _ differs
        rw [Pi.single_eq_of_ne differs, mul_zero]
      · exact fun absent => absurd (Finset.mem_univ col) absent)
  have one := congrFun single col
  rw [Pi.single_eq_same] at one
  exact one_ne_zero one

/-- A row takes the coefficients to a quotient of polynomials, whose numerator would
have more roots than its degree allows. -/
theorem superregular_inv_sub {x : m → K} {y : n → K} (distinctX : Function.Injective x) (distinctY : Function.Injective y)
    (apart : ∀ row col, y col ≠ x row) :
    Superregular (Matrix.of fun row col => (y col - x row)⁻¹) := by
  intro rows cols enough coefficients outside zeros
  have roots : ∀ row ∈ rows, (numerator y coefficients cols).eval (x row) = 0 := fun row inside => by
    rw [eval_numerator coefficients cols (x row) fun col _ => apart row col]
    have whole := zeros row inside
    simp only [Matrix.of_apply] at whole
    rw [Finset.sum_subset (Finset.subset_univ cols) fun col _ absent => by
      rw [outside col absent, mul_zero], whole, mul_zero]
  have zero : numerator y coefficients cols = 0 :=
    Polynomial.eq_zero_of_degree_lt_of_eval_index_eq_zero rows distinctX.injOn
      ((degree_numerator coefficients).trans_le (by exact_mod_cast enough)) roots
  funext col
  by_cases inside : col ∈ cols
  · have single := eval_numerator_pole (y := y) coefficients inside
    rw [zero, Polynomial.eval_zero] at single
    refine (mul_eq_zero.mp single.symm).resolve_right (Finset.prod_ne_zero_iff.mpr fun other among => ?_)
    exact sub_ne_zero.mpr fun same => (Finset.mem_erase.mp among).1 (distinctY same)
  · exact outside col inside

/-- Two rows are regular when their entries and their minors are. -/
theorem superregular_two {parity : Matrix (Fin 2) n K} (entries : ∀ row col, parity row col ≠ 0)
    (minors : ∀ i j, i ≠ j → parity 0 i * parity 1 j ≠ parity 0 j * parity 1 i) : Superregular parity := by
  intro rows cols enough x outside zeros
  have bound : cols.card ≤ 2 := enough.trans (card_finset_fin_le rows)
  have within : ∀ row ∈ rows, ∑ col ∈ cols, parity row col * x col = 0 := fun row inside => by
    rw [Finset.sum_subset (Finset.subset_univ cols) fun col _ absent => by
      rw [outside col absent, mul_zero]]
    exact zeros row inside
  have inside : ∀ col ∈ cols, x col = 0 := by
    rcases Nat.lt_or_eq_of_le bound with few | two
    · intro col among
      have one : cols.card = 1 :=
        Nat.le_antisymm (Nat.le_of_lt_succ few) (Finset.card_pos.mpr ⟨col, among⟩)
      obtain ⟨only, rfl⟩ := Finset.card_eq_one.mp one
      obtain ⟨row, own⟩ : rows.Nonempty := Finset.card_pos.mp (Nat.lt_of_lt_of_le Nat.one_pos enough)
      have zero := within row own
      rw [Finset.sum_singleton] at zero
      rw [Finset.mem_singleton.mp among]
      exact (mul_eq_zero.mp zero).resolve_left (entries row only)
    · have both : rows = Finset.univ := Finset.eq_univ_of_card rows
        (Nat.le_antisymm (Finset.card_le_univ rows)
          ((Fintype.card_fin 2).le.trans (two.symm.le.trans enough)))
      obtain ⟨i, j, differ, rfl⟩ := Finset.card_eq_two.mp two
      have first := within 0 (both ▸ Finset.mem_univ 0)
      have second := within 1 (both ▸ Finset.mem_univ 1)
      rw [Finset.sum_pair differ] at first second
      have left : x i = 0 := by
        have cramer : (parity 0 i * parity 1 j - parity 0 j * parity 1 i) * x i = 0 := by
          linear_combination parity 1 j * first - parity 0 j * second
        exact (mul_eq_zero.mp cramer).resolve_left (sub_ne_zero.mpr (minors i j differ))
      have right : x j = 0 := by
        rw [left, mul_zero, zero_add] at first
        exact (mul_eq_zero.mp first).resolve_left (entries 0 j)
      intro col among
      rcases Finset.mem_insert.mp among with rfl | last
      · exact left
      · rw [Finset.mem_singleton.mp last, right]
  funext col
  by_cases among : col ∈ cols
  · exact inside col among
  · exact outside col among

/-! ## Decoding -/

variable {parity : Matrix m n K}

/-- Every shard as a row of coefficients: the data itself, then the sums. -/
def generator (parity : Matrix m n K) : n ⊕ m → n → K
  | .inl i => Pi.single i 1
  | .inr row => parity row

def shard (parity : Matrix m n K) (data : n → K) : n ⊕ m → K
  | .inl i => data i
  | .inr row => ∑ col, parity row col * data col

theorem sum_generator (data : n → K) (which : n ⊕ m) :
    ∑ col, generator parity which col * data col = shard parity data which := by
  cases which with
  | inl i => exact single_one_dotProduct i data
  | inr row => rfl

/-- The coefficients of a choice of shards. -/
def decodeMatrix (parity : Matrix m n K) (pick : n → n ⊕ m) : Matrix n n K :=
  Matrix.of fun row => generator parity (pick row)

theorem mulVec_decodeMatrix (pick : n → n ⊕ m) (data : n → K) (row : n) :
    (decodeMatrix parity pick).mulVec data row = shard parity data (pick row) :=
  sum_generator data (pick row)

variable {pick : n → n ⊕ m}

/-- What a row of the choice says about a vector that the decoding matrix takes elsewhere. -/
theorem generator_zero {x : n → K} {s : n}
    (image : (decodeMatrix parity pick).mulVec x = Pi.single s 1) {which : n ⊕ m}
    (picked : ∃ row, pick row = which) (other : which ≠ pick s) : shard parity x which = 0 := by
  obtain ⟨row, rfl⟩ := picked
  rw [← mulVec_decodeMatrix, image, Pi.single_eq_of_ne fun same => other (congrArg pick same)]

variable [DecidableEq m]

/-- The data among the shards of the choice. -/
def survivors (pick : n → n ⊕ m) : Finset n := Finset.univ.filter fun i => ∃ row, pick row = .inl i

theorem mem_survivors : i ∈ survivors pick ↔ ∃ row, pick row = .inl i := by
  rw [survivors, Finset.mem_filter, and_iff_right (Finset.mem_univ i)]

variable [Fintype m]

/-- The sums among the shards of the choice. -/
def used (pick : n → n ⊕ m) : Finset m := Finset.univ.filter fun i => ∃ row, pick row = .inr i

theorem mem_used : i ∈ used pick ↔ ∃ row, pick row = .inr i := by
  rw [used, Finset.mem_filter, and_iff_right (Finset.mem_univ i)]

theorem image_pick (pick : n → n ⊕ m) : Finset.univ.image pick = (survivors pick).disjSum (used pick) := by
  ext which
  rw [Finset.mem_image]
  cases which with
  | inl i => rw [Finset.inl_mem_disjSum, mem_survivors]; simp only [Finset.mem_univ, true_and]
  | inr i => rw [Finset.inr_mem_disjSum, mem_used]; simp only [Finset.mem_univ, true_and]

/-- There are as many sums in a choice as it lacks data. -/
theorem card_used (injective : Function.Injective pick) :
    (survivors pick)ᶜ.card = (used pick).card := by
  have whole := congrArg Finset.card (image_pick pick)
  rw [Finset.card_image_of_injective _ injective, Finset.card_disjSum, Finset.card_univ] at whole
  rw [Finset.card_compl, whole, Nat.add_sub_cancel_left]

theorem det_decodeMatrix_ne_zero (regular : Superregular parity) (injective : Function.Injective pick) :
    (decodeMatrix parity pick).det ≠ 0 := by
  intro singular
  obtain ⟨x, nonzero, kernel⟩ := Matrix.exists_mulVec_eq_zero_iff.mpr singular
  have none : ∀ which, (∃ row, pick row = which) → shard parity x which = 0 := by
    rintro _ ⟨row, rfl⟩
    rw [← mulVec_decodeMatrix, kernel]
    rfl
  refine nonzero (regular (used pick) (survivors pick)ᶜ (Nat.le_of_eq (card_used injective)) x ?_ ?_)
  · exact fun i outside => none (.inl i) (mem_survivors.mp (Finset.notMem_compl.mp outside))
  · exact fun row inside => none (.inr row) (mem_used.mp inside)

/-- A column of the inverse that gives lost data nothing would vanish: it lives on one
column less, or its own shard is one row less. -/
theorem zero_of_column (regular : Superregular parity) (injective : Function.Injective pick)
    (lost : i ∉ survivors pick) {x : n → K} (image : (decodeMatrix parity pick).mulVec x = Pi.single s 1)
    (zero : x i = 0) : x = 0 := by
  have missing : i ∈ (survivors pick)ᶜ := Finset.mem_compl.mpr lost
  cases held : pick s with
  | inl j =>
    refine regular (used pick) (insert j ((survivors pick)ᶜ.erase i)) ?_ x ?_ ?_
    · calc
        _ ≤ ((survivors pick)ᶜ.erase i).card + 1 := Finset.card_insert_le _ _
        _ = (used pick).card := by rw [Finset.card_erase_add_one missing, card_used injective]
    · intro col outside
      obtain ⟨other, among⟩ := not_or.mp (mt Finset.mem_insert.mpr outside)
      by_cases same : col = i
      · rw [same, zero]
      · have present : col ∈ survivors pick := Finset.notMem_compl.mp fun absent =>
          among (Finset.mem_erase.mpr ⟨same, absent⟩)
        exact generator_zero image (mem_survivors.mp present) fun own =>
          other (Sum.inl_injective (own.trans held))
    · exact fun row inside => generator_zero image (mem_used.mp inside) fun own =>
        Sum.inr_ne_inl (own.trans held)
  | inr r =>
    have own : r ∈ used pick := mem_used.mpr ⟨s, held⟩
    refine regular ((used pick).erase r) ((survivors pick)ᶜ.erase i) ?_ x ?_ ?_
    · rw [Finset.card_erase_of_mem missing, Finset.card_erase_of_mem own, card_used injective]
    · intro col outside
      by_cases same : col = i
      · rw [same, zero]
      · have present : col ∈ survivors pick := Finset.notMem_compl.mp fun absent =>
          outside (Finset.mem_erase.mpr ⟨same, absent⟩)
        exact generator_zero image (mem_survivors.mp present) fun own =>
          Sum.inl_ne_inr (own.trans held)
    · intro row inside
      obtain ⟨other, among⟩ := Finset.mem_erase.mp inside
      exact generator_zero image (mem_used.mp among) fun own =>
        other (Sum.inr_injective (own.trans held))

/-- No shard of a choice is superfluous: data that is not in it depends on all of it. -/
theorem inv_decodeMatrix_ne_zero (regular : Superregular parity) (injective : Function.Injective pick)
    (lost : i ∉ survivors pick) (s : n) : (decodeMatrix parity pick)⁻¹ i s ≠ 0 := by
  intro zero
  have unit : IsUnit (decodeMatrix parity pick).det :=
    isUnit_iff_ne_zero.mpr (det_decodeMatrix_ne_zero regular injective)
  let x : n → K := fun row => (decodeMatrix parity pick)⁻¹ row s
  have image : (decodeMatrix parity pick).mulVec x = Pi.single s 1 := by
    have column : x = ((decodeMatrix parity pick)⁻¹).mulVec (Pi.single s 1) :=
      (Matrix.mulVec_single_one _ s).symm
    rw [column, Matrix.mulVec_mulVec, Matrix.mul_nonsing_inv _ unit, Matrix.one_mulVec]
  have vanish : x = 0 := zero_of_column regular injective lost image zero
  rw [vanish] at image
  have contradiction := congrFun image s
  rw [Matrix.mulVec_zero, Pi.single_eq_same] at contradiction
  exact zero_ne_one contradiction

/-- The inverse of the coefficients takes the shards back to the data. -/
theorem decode (regular : Superregular parity) (injective : Function.Injective pick) (data : n → K) (i : n) :
    ∑ s, (decodeMatrix parity pick)⁻¹ i s * shard parity data (pick s) = data i := by
  have unit : IsUnit (decodeMatrix parity pick).det :=
    isUnit_iff_ne_zero.mpr (det_decodeMatrix_ne_zero regular injective)
  have back : ((decodeMatrix parity pick)⁻¹).mulVec ((decodeMatrix parity pick).mulVec data) = data := by
    rw [Matrix.mulVec_mulVec, Matrix.nonsing_inv_mul _ unit, Matrix.one_mulVec]
  simp only [← mulVec_decodeMatrix]
  exact congrFun back i

end MoonlightWeb.ErasureCode
