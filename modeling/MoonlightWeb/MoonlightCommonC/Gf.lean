import Mathlib.Dynamics.PeriodicPts.Lemmas
import Mathlib.NumberTheory.Divisors
import MoonlightWeb.Lib.PowerTable

/-! The arithmetic of the Reed-Solomon code: bytes with XOR for addition and a
multiplication by tables of powers and logarithms, which are filled at start-up. -/
namespace MoonlightWeb.MoonlightCommonC

/-! ## The tables -/

def GF_BITS : Nat := 8

def GF_SIZE : Nat := 255

def GF_PP : List Char := "101110001".toList

structure GfTables where
  gfExp : List UInt8
  gfLog : List Nat
  deriving DecidableEq

namespace GfTables

/-- The powers below the degree of the polynomial, which are single bits. The
polynomial's bits make up the power after them. -/
def bitPower (state : GfTables × UInt8) (i : Nat) : GfTables × UInt8 :=
  let (tables, mask) := state
  let gfExp := tables.gfExp.set i mask
  let gfExp := if GF_PP[i]? = some '1' then gfExp.set GF_BITS (gfExp.getD GF_BITS 0 ^^^ mask) else gfExp
  ({ gfExp, gfLog := tables.gfLog.set mask.toNat i }, mask <<< 1)

/-- Any further power: the one before it, shifted and reduced. -/
def nextPower (tables : GfTables) (i : Nat) : GfTables :=
  let before := tables.gfExp.getD (i - 1) 0
  let power :=
    if before ≥ 128 then tables.gfExp.getD GF_BITS 0 ^^^ ((before ^^^ 128) <<< 1) else before <<< 1
  { gfExp := tables.gfExp.set i power, gfLog := tables.gfLog.set power.toNat i }

/-- The tables with the powers up to the one after the single bits. -/
def firstPowers : GfTables :=
  let (tables, _) := (List.range GF_BITS).foldl bitPower
    ({ gfExp := List.replicate (2 * GF_SIZE) 0, gfLog := List.replicate (GF_SIZE + 1) 0 }, 1)
  { tables with gfLog := tables.gfLog.set (tables.gfExp.getD GF_BITS 0).toNat GF_BITS }

end GfTables

/-- The tables are filled once; the powers are there twice, for sums of logarithms. -/
def generateGf : GfTables :=
  let tables := (List.range' (GF_BITS + 1) (GF_SIZE - GF_BITS - 1)).foldl GfTables.nextPower
    GfTables.firstPowers
  { gfExp := tables.gfExp.take GF_SIZE ++ tables.gfExp.take GF_SIZE
    gfLog := tables.gfLog.set 0 GF_SIZE }

def gfExp (n : Nat) : UInt8 := generateGf.gfExp.getD n 0

def gfLog (a : UInt8) : Nat := generateGf.gfLog.getD a.toNat 0

def inverse (a : UInt8) : UInt8 := if a = 0 then 0 else if a = 1 then 1 else gfExp (GF_SIZE - gfLog a)

/-- `x % 255` without a division. Every round takes off at least 254, so there are
fewer rounds than `x`. -/
def modnn (x : Nat) : Nat :=
  if GF_SIZE ≤ x then modnn ((x - GF_SIZE) / 256 + (x - GF_SIZE) % 256) else x
termination_by x
decreasing_by
  simp only [GF_SIZE] at *
  omega

/-- What the table of products holds at two factors. -/
def gfMul (x y : UInt8) : UInt8 := if x = 0 ∨ y = 0 then 0 else gfExp (modnn (gfLog x + gfLog y))

/-! ## The powers of one element -/

/-- Multiplication by the element whose powers the tables hold. -/
def timesAlpha (a : UInt8) : UInt8 := (a <<< 1) ^^^ (if a.toNat < 128 then 0 else 29)

def power (n : Nat) : UInt8 := timesAlpha^[n] 1

theorem power_succ (n : Nat) : power (n + 1) = timesAlpha (power n) :=
  Function.iterate_succ_apply' timesAlpha n 1

theorem power_add (n m : Nat) : power (n + m) = timesAlpha^[n] (power m) :=
  Function.iterate_add_apply timesAlpha n m 1

theorem toNat_lt_iff (a : UInt8) : a.toNat < 128 ↔ a.toBitVec.msb = false := by
  rw [BitVec.msb_eq_false_iff_two_mul_lt]
  change a.toNat < 128 ↔ 2 * a.toNat < 2 ^ 8
  omega

/-- Shifting and reducing both respect XOR: the sum overflows when one term does. -/
theorem timesAlpha_xor (a b : UInt8) : timesAlpha (a ^^^ b) = timesAlpha a ^^^ timesAlpha b := by
  have shift : (a ^^^ b) <<< 1 = a <<< 1 ^^^ b <<< 1 := UInt8.shiftLeft_xor
  have reduced : (29 : UInt8) ^^^ 29 = 0 := rfl
  have split : (a ^^^ b).toNat < 128 ↔ (a.toNat < 128 ↔ b.toNat < 128) := by
    rw [toNat_lt_iff, toNat_lt_iff, toNat_lt_iff, UInt8.toBitVec_xor, BitVec.msb_xor]
    cases a.toBitVec.msb <;> cases b.toBitVec.msb <;> decide
  unfold timesAlpha
  rw [shift]
  by_cases left : a.toNat < 128 <;> by_cases right : b.toNat < 128
  · rw [if_pos left, if_pos right, if_pos (split.mpr (iff_of_true left right))]
    grind
  · rw [if_pos left, if_neg right, if_neg fun both => right ((split.mp both).mp left)]
    grind
  · rw [if_neg left, if_pos right, if_neg fun both => left ((split.mp both).mpr right)]
    grind
  · rw [if_neg left, if_neg right, if_pos (split.mpr (iff_of_false left right))]
    grind

theorem timesAlpha_zero : timesAlpha 0 = 0 := rfl

theorem power_size : power GF_SIZE = 1 := by decide +kernel

theorem isPeriodicPt : Function.IsPeriodicPt timesAlpha GF_SIZE 1 := power_size

theorem power_mul_size (n : Nat) : power (GF_SIZE * n) = 1 := (isPeriodicPt.mul_const n).eq

/-- Zero stays zero, but the powers come back to one. -/
theorem power_ne_zero (n : Nat) : power n ≠ 0 := by
  intro zero
  have later : power (GF_SIZE * n - n + n) = 0 := by
    rw [power_add, zero, Function.iterate_fixed timesAlpha_zero]
  have enough : n ≤ GF_SIZE * n := Nat.le_mul_of_pos_left n (by decide)
  rw [Nat.sub_add_cancel enough, power_mul_size] at later
  exact absurd later (by decide)

/-- A smaller order would divide 15, 51 or 85. -/
theorem minimalPeriod : Function.minimalPeriod timesAlpha 1 = GF_SIZE := by
  have divides : Function.minimalPeriod timesAlpha 1 ∣ 255 := isPeriodicPt.minimalPeriod_dvd
  have not15 : ¬Function.minimalPeriod timesAlpha 1 ∣ 15 := fun short =>
    absurd ((Function.isPeriodicPt_iff_minimalPeriod_dvd.mpr short).eq : power 15 = 1) (by decide +kernel)
  have not51 : ¬Function.minimalPeriod timesAlpha 1 ∣ 51 := fun short =>
    absurd ((Function.isPeriodicPt_iff_minimalPeriod_dvd.mpr short).eq : power 51 = 1) (by decide +kernel)
  have not85 : ¬Function.minimalPeriod timesAlpha 1 ∣ 85 := fun short =>
    absurd ((Function.isPeriodicPt_iff_minimalPeriod_dvd.mpr short).eq : power 85 = 1) (by decide +kernel)
  have among : Function.minimalPeriod timesAlpha 1 ∈ Nat.divisors 255 :=
    Nat.mem_divisors.mpr ⟨divides, by decide⟩
  have listed : Nat.divisors 255 = {1, 3, 5, 15, 17, 51, 85, 255} := by decide +kernel
  rw [listed] at among
  generalize Function.minimalPeriod timesAlpha 1 = period at *
  simp only [Finset.mem_insert, Finset.mem_singleton] at among
  rcases among with rfl | rfl | rfl | rfl | rfl | rfl | rfl | rfl
  all_goals first | rfl | exact absurd (by decide) not15 | exact absurd (by decide) not51 | exact absurd (by decide) not85

theorem power_injOn : Set.InjOn power (Set.Iio GF_SIZE) := by
  rw [← minimalPeriod]
  exact Function.iterate_injOn_Iio_minimalPeriod

/-- Every nonzero byte is a power: there are as many of the one as of the other. -/
theorem exists_power (nonzero : a ≠ 0) : ∃ n < GF_SIZE, power n = a := by
  have into : ∀ n ∈ Finset.range GF_SIZE, (power n).toNat ∈ Finset.Ico 1 256 := fun n _ =>
    Finset.mem_Ico.mpr ⟨Nat.pos_of_ne_zero fun zero => power_ne_zero n (UInt8.toNat_inj.mp zero),
      UInt8.toNat_lt _⟩
  have distinct : Set.InjOn (fun n => (power n).toNat) (Finset.range GF_SIZE) :=
    fun n inside m inside' same => power_injOn (Finset.mem_range.mp inside)
      (Finset.mem_range.mp inside') (UInt8.toNat_inj.mp same)
  have onto := Finset.surjOn_of_injOn_of_card_le _ into distinct
    (by rw [Nat.card_Ico, Finset.card_range]; decide)
  have member : a.toNat ∈ Finset.Ico 1 256 :=
    Finset.mem_Ico.mpr ⟨Nat.pos_of_ne_zero fun zero => nonzero (UInt8.toNat_inj.mp zero),
      UInt8.toNat_lt _⟩
  obtain ⟨n, inside, same⟩ := onto member
  exact ⟨n, Finset.mem_range.mp inside, UInt8.toNat_inj.mp same⟩

/-! ## What the tables hold -/

namespace GfTables

/-- The tables hold the powers up to `i`, each with its logarithm. -/
structure Filled (tables : GfTables) (i : Nat) : Prop where
  expLength : tables.gfExp.length = 2 * GF_SIZE
  logLength : tables.gfLog.length = GF_SIZE + 1
  exp : ∀ j ≤ i, tables.gfExp.getD j 0 = power j
  log : ∀ j ≤ i, tables.gfLog.getD (power j).toNat 0 = j

theorem firstPowers_filled : firstPowers.Filled GF_BITS where
  expLength := by decide +kernel
  logLength := by decide +kernel
  exp := by decide +kernel
  log := by decide +kernel

theorem shifted (a : UInt8) :
    (if a ≥ 128 then power GF_BITS ^^^ ((a ^^^ 128) <<< 1) else a <<< 1) = timesAlpha a := by
  unfold timesAlpha
  by_cases high : a ≥ 128
  · have high' : ¬a.toNat < 128 := Nat.not_lt.mpr (UInt8.le_iff_toNat_le.mp high)
    have dropped : (128 : UInt8) <<< 1 = 0 := rfl
    rw [if_pos high, if_neg high', UInt8.shiftLeft_xor, dropped, UInt8.xor_zero, UInt8.xor_comm]
    rfl
  · have low : a.toNat < 128 := Nat.lt_of_not_le fun le => high (UInt8.le_iff_toNat_le.mpr le)
    rw [if_neg high, if_pos low, UInt8.xor_zero]

theorem nextPower_filled {tables : GfTables} (filled : tables.Filled i) (degree : GF_BITS ≤ i)
    (room : i + 1 < GF_SIZE) : (tables.nextPower (i + 1)).Filled (i + 1) := by
  have before : tables.gfExp.getD (i + 1 - 1) 0 = power i := filled.exp i (Nat.le_refl i)
  have next : tables.nextPower (i + 1) =
      { gfExp := tables.gfExp.set (i + 1) (power (i + 1))
        gfLog := tables.gfLog.set (power (i + 1)).toNat (i + 1) } := by
    rw [power_succ, ← shifted]
    unfold nextPower
    rw [before, filled.exp GF_BITS degree]
  have inside : i + 1 < tables.gfExp.length := by
    rw [filled.expLength]
    omega
  have insideLog : (power (i + 1)).toNat < tables.gfLog.length := by
    rw [filled.logLength]
    exact UInt8.toNat_lt _
  rw [next]
  refine ⟨by rw [List.length_set, filled.expLength], by rw [List.length_set, filled.logLength], ?_, ?_⟩
  all_goals
    intro j bound
    rcases Nat.lt_or_eq_of_le bound with earlier | rfl
  · rw [List.getD_eq_getElem?_getD, List.getElem?_set_ne (Nat.ne_of_gt earlier),
      ← List.getD_eq_getElem?_getD, filled.exp j (Nat.lt_succ_iff.mp earlier)]
  · rw [List.getD_eq_getElem?_getD, List.getElem?_set_self inside, Option.getD_some]
  · have other : (power (i + 1)).toNat ≠ (power j).toNat := fun same =>
      Nat.ne_of_gt earlier (power_injOn room (Nat.lt_trans earlier room) (UInt8.toNat_inj.mp same))
    rw [List.getD_eq_getElem?_getD, List.getElem?_set_ne other, ← List.getD_eq_getElem?_getD,
      filled.log j (Nat.lt_succ_iff.mp earlier)]
  · rw [List.getD_eq_getElem?_getD, List.getElem?_set_self insideLog, Option.getD_some]

theorem foldl_filled (n : Nat) {tables : GfTables} (filled : tables.Filled i) (degree : GF_BITS ≤ i)
    (room : i + n < GF_SIZE) :
    ((List.range' (i + 1) n).foldl nextPower tables).Filled (i + n) := by
  induction n generalizing i tables with
  | zero => exact filled
  | succ n ih =>
    rw [List.range'_succ, List.foldl_cons, Nat.add_comm n, ← Nat.add_assoc]
    exact ih (nextPower_filled filled degree (by omega)) (by omega) (by omega)

end GfTables

theorem generateGf_filled :
    ((List.range' (GF_BITS + 1) (GF_SIZE - GF_BITS - 1)).foldl GfTables.nextPower
      GfTables.firstPowers).Filled (GF_SIZE - 1) :=
  GfTables.foldl_filled (GF_SIZE - GF_BITS - 1) GfTables.firstPowers_filled (Nat.le_refl _) (by decide)

theorem gfExp_eq (inside : n < GF_SIZE) : gfExp n = power n := by
  have filled := generateGf_filled
  unfold gfExp generateGf
  generalize (List.range' (GF_BITS + 1) (GF_SIZE - GF_BITS - 1)).foldl GfTables.nextPower
    GfTables.firstPowers = tables at *
  have taken : n < (tables.gfExp.take GF_SIZE).length := by
    rw [List.length_take, filled.expLength]
    exact Nat.lt_min.mpr ⟨inside, Nat.lt_trans inside (by decide)⟩
  change (tables.gfExp.take GF_SIZE ++ tables.gfExp.take GF_SIZE).getD n 0 = power n
  rw [List.getD_eq_getElem?_getD, List.getElem?_append_left taken, List.getElem?_take_of_lt inside,
    ← List.getD_eq_getElem?_getD]
  exact filled.exp n (Nat.le_sub_one_of_lt inside)

theorem gfLog_power (inside : n < GF_SIZE) : gfLog (power n) = n := by
  have filled := generateGf_filled
  unfold gfLog generateGf
  have nonzero : 0 ≠ (power n).toNat := fun zero => power_ne_zero n (UInt8.toNat_inj.mp zero.symm)
  rw [List.getD_eq_getElem?_getD, List.getElem?_set_ne nonzero, ← List.getD_eq_getElem?_getD]
  exact filled.log n (Nat.le_sub_one_of_lt inside)

theorem gfLog_lt (nonzero : a ≠ 0) : gfLog a < GF_SIZE := by
  obtain ⟨n, inside, rfl⟩ := exists_power nonzero
  rw [gfLog_power inside]
  exact inside

theorem power_gfLog (nonzero : a ≠ 0) : power (gfLog a) = a := by
  obtain ⟨n, inside, rfl⟩ := exists_power nonzero
  rw [gfLog_power inside]

theorem modnn_eq (x : Nat) : modnn x = x % GF_SIZE := by
  induction x using Nat.strong_induction_on with
  | _ x ih =>
    unfold modnn
    by_cases large : GF_SIZE ≤ x
    · rw [if_pos large, ih _ (by simp only [GF_SIZE] at *; omega)]
      simp only [GF_SIZE] at *
      omega
    · rw [if_neg large, Nat.mod_eq_of_lt (Nat.lt_of_not_le large)]

/-! ## The field -/

/-- A byte with the code's arithmetic. -/
structure Gf where
  byte : UInt8
  deriving DecidableEq

namespace Gf

@[ext] theorem ext {a b : Gf} (same : a.byte = b.byte) : a = b := by
  cases a
  cases b
  exact congrArg Gf.mk same

instance : Zero Gf := ⟨⟨0⟩⟩

instance : One Gf := ⟨⟨1⟩⟩

instance : Add Gf := ⟨fun a b => ⟨a.byte ^^^ b.byte⟩⟩

instance : Neg Gf := ⟨id⟩

instance : Mul Gf := ⟨fun a b => ⟨gfMul a.byte b.byte⟩⟩

instance : Inv Gf := ⟨fun a => ⟨inverse a.byte⟩⟩

theorem mk_eq_zero : (⟨a⟩ : Gf) = 0 ↔ a = 0 := ⟨congrArg byte, congrArg mk⟩

theorem byte_ne_zero {a : Gf} : a ≠ 0 ↔ a.byte ≠ 0 := not_congr mk_eq_zero

instance : AddCommGroup Gf where
  add_assoc a b c := Gf.ext (UInt8.xor_assoc a.byte b.byte c.byte)
  zero_add a := Gf.ext UInt8.zero_xor
  add_zero a := Gf.ext UInt8.xor_zero
  neg_add_cancel a := Gf.ext UInt8.xor_self
  add_comm a b := Gf.ext (UInt8.xor_comm a.byte b.byte)
  nsmul := nsmulRec
  zsmul := zsmulRec

theorem neg_eq (a : Gf) : -a = a := rfl

theorem sub_eq_add (a b : Gf) : a - b = a + b := sub_eq_add_neg a b

def table : PowerTable Gf where
  exp n := ⟨power n⟩
  log a := gfLog a.byte
  order := GF_SIZE
  shift := { toFun := fun a => ⟨timesAlpha a.byte⟩
             map_zero' := rfl
             map_add' := fun a b => Gf.ext (timesAlpha_xor a.byte b.byte) }
  positive := by decide
  exp_succ n := congrArg Gf.mk (power_succ n)
  exp_order := congrArg Gf.mk power_size
  exp_ne_zero n _ := byte_ne_zero.mpr (power_ne_zero n)
  log_lt a nonzero := gfLog_lt (byte_ne_zero.mp nonzero)
  exp_log a nonzero := congrArg Gf.mk (power_gfLog (byte_ne_zero.mp nonzero))
  log_exp n inside := gfLog_power inside

theorem table_exp (n : Nat) : table.exp n = ⟨power n⟩ := by rw [table]

theorem table_log (a : Gf) : table.log a = gfLog a.byte := by rw [table]

theorem table_order : table.order = GF_SIZE := rfl

theorem gfMul_eq (left : a ≠ 0) (right : b ≠ 0) : gfMul a b = power (gfLog a + gfLog b) := by
  unfold gfMul
  rw [if_neg (not_or.mpr ⟨left, right⟩), modnn_eq, gfExp_eq (Nat.mod_lt _ (by decide))]
  exact isPeriodicPt.iterate_mod_apply _

theorem mul_eq (a b : Gf) : a * b = table.mul a b := by
  by_cases zero : a = 0 ∨ b = 0
  · rw [PowerTable.mul, if_pos zero]
    exact congrArg mk (if_pos (zero.imp mk_eq_zero.mp mk_eq_zero.mp))
  · obtain ⟨left, right⟩ := not_or.mp zero
    rw [table.mul_of_ne left right, table_exp, table_log, table_log]
    exact congrArg mk (gfMul_eq (byte_ne_zero.mp left) (byte_ne_zero.mp right))

theorem gfLog_one : gfLog 1 = 0 := gfLog_power (n := 0) (by decide)

theorem gfLog_pos (nonzero : a ≠ 0) (other : a ≠ 1) : 0 < gfLog a :=
  Nat.pos_of_ne_zero fun log => other (by rw [← power_gfLog nonzero, log]; rfl)

/-- One has an entry of its own, as its logarithm leads past the powers. -/
theorem inverse_eq (nonzero : a ≠ 0) : inverse a = power (GF_SIZE - gfLog a) := by
  unfold inverse
  rw [if_neg nonzero]
  by_cases one : a = 1
  · rw [if_pos one, one, gfLog_one]
    exact power_size.symm
  · rw [if_neg one, gfExp_eq (Nat.sub_lt (by decide) (gfLog_pos nonzero one))]

theorem mul_inverse {a : Gf} (nonzero : a ≠ 0) : a * a⁻¹ = 1 := by
  have inverted : a⁻¹ = table.inv a := by
    rw [PowerTable.inv, if_neg nonzero, table_exp, table_order, table_log]
    exact congrArg mk (inverse_eq (byte_ne_zero.mp nonzero))
  rw [inverted, mul_eq]
  exact table.mul_inv_cancel nonzero

theorem power_mul (n m : Nat) : (⟨power n⟩ * ⟨power m⟩ : Gf) = ⟨power (n + m)⟩ := by
  rw [mul_eq, ← table_exp, ← table_exp, ← table_exp,
    PowerTable.mul_of_ne table (table.exp_ne n) (table.exp_ne m), PowerTable.log_exp_mod,
    PowerTable.log_exp_mod, ← PowerTable.exp_mod, ← Nat.add_mod, PowerTable.exp_mod]

theorem power_inj : (⟨power n⟩ : Gf) = ⟨power m⟩ ↔ n % GF_SIZE = m % GF_SIZE := by
  constructor
  · intro same
    rw [← table_exp, ← table_exp] at same
    have logs := congrArg table.log same
    rwa [PowerTable.log_exp_mod, PowerTable.log_exp_mod] at logs
  · intro same
    rw [← table_exp, ← table_exp, ← PowerTable.exp_mod, table_order, same, ← table_order,
      PowerTable.exp_mod]

instance : Field Gf where
  left_distrib a b c := by simp only [mul_eq, table.mul_add]
  right_distrib a b c := by simp only [mul_eq, table.add_mul]
  zero_mul a := by rw [mul_eq, table.zero_mul]
  mul_zero a := by rw [mul_eq, table.mul_zero]
  mul_assoc a b c := by simp only [mul_eq, table.mul_assoc]
  one_mul a := (mul_eq 1 a).trans (table.one_mul a)
  mul_one a := (mul_eq a 1).trans ((table.mul_comm a 1).trans (table.one_mul a))
  mul_comm a b := by rw [mul_eq, mul_eq, table.mul_comm]
  exists_pair_ne := ⟨0, 1, by decide⟩
  mul_inv_cancel _ := mul_inverse
  inv_zero := rfl
  zsmul := zsmulRec
  neg_add_cancel := neg_add_cancel
  nnqsmul := _
  nnqsmul_def := fun _ _ => rfl
  qsmul := _
  qsmul_def := fun _ _ => rfl

/-- The tables multiply and divide as in a field in which the exclusive or is the sum. -/
theorem gfMul_field :
    (∀ a b c, gfMul (gfMul a b) c = gfMul a (gfMul b c)) ∧ (∀ a b, gfMul a b = gfMul b a) ∧
      (∀ a b c, gfMul a (b ^^^ c) = gfMul a b ^^^ gfMul a c) ∧ (∀ a, gfMul 1 a = a) ∧
      ∀ a, a ≠ 0 → gfMul a (inverse a) = 1 :=
  ⟨fun a b c => congrArg byte (mul_assoc (⟨a⟩ : Gf) ⟨b⟩ ⟨c⟩), fun a b => congrArg byte (mul_comm (⟨a⟩ : Gf) ⟨b⟩),
    fun a b c => congrArg byte (mul_add (⟨a⟩ : Gf) ⟨b⟩ ⟨c⟩), fun a => congrArg byte (one_mul (⟨a⟩ : Gf)),
    fun a nonzero => congrArg byte (mul_inv_cancel₀ (mt mk_eq_zero.mp nonzero : (⟨a⟩ : Gf) ≠ 0))⟩

end Gf

end MoonlightWeb.MoonlightCommonC
