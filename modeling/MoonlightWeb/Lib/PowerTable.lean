import Mathlib.Algebra.Field.Defs
import Mathlib.Algebra.Group.Basic
import Mathlib.Algebra.Group.Hom.Defs

/-! Multiplication by tables of powers and logarithms. Where every nonzero element
of a commutative group is a power of one base, and multiplying by the base is
additive, adding logarithms multiplies, and the group is a field. -/
namespace MoonlightWeb

variable {K : Type*} [AddCommGroup K]

/-- The nonzero elements as powers of one base; `shift` multiplies by the base. -/
structure PowerTable (K : Type*) [AddCommGroup K] where
  exp : ℕ → K
  log : K → ℕ
  order : ℕ
  shift : K →+ K
  positive : 0 < order
  exp_succ : ∀ n, exp (n + 1) = shift (exp n)
  exp_order : exp order = exp 0
  exp_ne_zero : ∀ n, n < order → exp n ≠ 0
  log_lt : ∀ a, a ≠ 0 → log a < order
  exp_log : ∀ a, a ≠ 0 → exp (log a) = a
  log_exp : ∀ n, n < order → log (exp n) = n

namespace PowerTable

variable (table : PowerTable K)

theorem exp_add (n m : ℕ) : table.exp (n + m) = table.shift^[n] (table.exp m) := by
  induction n with
  | zero => rw [Nat.zero_add, Function.iterate_zero, id_eq]
  | succ n ih => rw [Nat.succ_add, exp_succ, ih, Function.iterate_succ_apply']

theorem exp_add_order (n : ℕ) : table.exp (n + table.order) = table.exp n := by
  rw [exp_add, exp_order, ← exp_add, Nat.add_zero]

theorem exp_mod (n : ℕ) : table.exp (n % table.order) = table.exp n := by
  induction n using Nat.strong_induction_on with
  | _ n ih =>
    by_cases small : n < table.order
    · rw [Nat.mod_eq_of_lt small]
    · have back : n - table.order + table.order = n := Nat.sub_add_cancel (Nat.not_lt.mp small)
      rw [← back, Nat.add_mod_right, exp_add_order]
      exact ih _ (Nat.sub_lt (Nat.lt_of_lt_of_le table.positive (Nat.not_lt.mp small)) table.positive)

theorem exp_ne (n : ℕ) : table.exp n ≠ 0 := by
  rw [← exp_mod]
  exact table.exp_ne_zero _ (Nat.mod_lt _ table.positive)

theorem log_exp_mod (n : ℕ) : table.log (table.exp n) = n % table.order := by
  rw [← exp_mod]
  exact table.log_exp _ (Nat.mod_lt _ table.positive)

variable [DecidableEq K]

def mul (a b : K) : K := if a = 0 ∨ b = 0 then 0 else table.exp (table.log a + table.log b)

def inv (a : K) : K := if a = 0 then 0 else table.exp (table.order - table.log a)

@[simp] theorem zero_mul (a : K) : table.mul 0 a = 0 := if_pos (.inl rfl)

@[simp] theorem mul_zero (a : K) : table.mul a 0 = 0 := if_pos (.inr rfl)

theorem mul_of_ne {a b : K} (left : a ≠ 0) (right : b ≠ 0) :
    table.mul a b = table.exp (table.log a + table.log b) := if_neg (not_or.mpr ⟨left, right⟩)

theorem mul_ne_zero {a b : K} (left : a ≠ 0) (right : b ≠ 0) : table.mul a b ≠ 0 := by
  rw [mul_of_ne table left right]
  exact table.exp_ne _

theorem mul_comm (a b : K) : table.mul a b = table.mul b a := by
  simp only [mul, or_comm (a := a = 0), Nat.add_comm (table.log a)]

/-- A product with a fixed factor is so many shifts, which makes it additive. -/
theorem mul_eq_shift {a : K} (nonzero : a ≠ 0) (b : K) :
    table.mul a b = table.shift^[table.log a] b := by
  by_cases zero : b = 0
  · subst zero
    rw [mul_zero, iterate_map_zero]
  · rw [mul_of_ne table nonzero zero, exp_add, table.exp_log b zero]

theorem mul_add (a b c : K) : table.mul a (b + c) = table.mul a b + table.mul a c := by
  by_cases zero : a = 0
  · subst zero
    rw [zero_mul, zero_mul, zero_mul, add_zero]
  · rw [mul_eq_shift table zero, mul_eq_shift table zero, mul_eq_shift table zero, iterate_map_add]

theorem add_mul (a b c : K) : table.mul (a + b) c = table.mul a c + table.mul b c := by
  rw [mul_comm, mul_add, mul_comm table c, mul_comm table c]

theorem log_mul {a b : K} (left : a ≠ 0) (right : b ≠ 0) :
    table.log (table.mul a b) = (table.log a + table.log b) % table.order := by
  rw [mul_of_ne table left right, log_exp_mod]

theorem mul_assoc (a b c : K) : table.mul (table.mul a b) c = table.mul a (table.mul b c) := by
  by_cases zeroA : a = 0
  · subst zeroA
    rw [zero_mul, zero_mul, zero_mul]
  by_cases zeroB : b = 0
  · subst zeroB
    rw [mul_zero, zero_mul, mul_zero]
  by_cases zeroC : c = 0
  · subst zeroC
    rw [mul_zero, mul_zero, mul_zero]
  rw [mul_of_ne table (mul_ne_zero table zeroA zeroB) zeroC,
    mul_of_ne table zeroA (mul_ne_zero table zeroB zeroC), log_mul table zeroA zeroB,
    log_mul table zeroB zeroC, ← exp_mod, Nat.mod_add_mod, ← exp_mod table (table.log a + _),
    Nat.add_mod_mod, Nat.add_assoc]

theorem one_mul (a : K) : table.mul (table.exp 0) a = a := by
  rw [mul_eq_shift table (table.exp_ne 0), table.log_exp 0 table.positive]
  rfl

theorem mul_inv_cancel {a : K} (nonzero : a ≠ 0) : table.mul a (table.inv a) = table.exp 0 := by
  have inverse : table.inv a = table.exp (table.order - table.log a) := if_neg nonzero
  have whole : table.log a + (table.order - table.log a) = table.order :=
    Nat.add_sub_of_le (Nat.le_of_lt (table.log_lt a nonzero))
  rw [inverse, mul_of_ne table nonzero (table.exp_ne _), log_exp_mod, ← exp_mod, Nat.add_mod_mod,
    whole, Nat.mod_self]

end PowerTable

end MoonlightWeb
