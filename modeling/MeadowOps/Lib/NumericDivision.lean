import MeadowOps.Lib.Numeric
import Mathlib.Data.Nat.Log

/-!
# Division of PostgreSQL's `numeric`

A `numeric` is a decimal fraction with a display scale, kept in digits of base 10000. A quotient is rounded at a
scale that leaves it at least sixteen significant digits.
-/

namespace MeadowOps.Lib

/-- To the nearest integer, a tie away from zero. -/
def halfAway (q : ℚ) : ℤ := if 0 ≤ q then ⌊q + 1 / 2⌋ else ⌈q - 1 / 2⌉

theorem roundHalfAway_eq (digits : ℕ) (q : ℚ) : roundHalfAway digits q = halfAway (q * 10 ^ digits) / 10 ^ digits := rfl

theorem halfAway_of_nonneg {q : ℚ} (h : 0 ≤ q) : halfAway q = ⌊q + 1 / 2⌋ := if_pos h

@[simp] theorem halfAway_zero : halfAway 0 = 0 := by
  rw [halfAway_of_nonneg le_rfl]
  norm_num

@[simp] theorem halfAway_neg (q : ℚ) : halfAway (-q) = -halfAway q := by
  rcases lt_trichotomy q 0 with neg | rfl | pos
  · rw [halfAway, halfAway, if_pos (by linarith), if_neg (by linarith), ← Int.floor_neg]
    congr 1
    ring
  · simp
  · rw [halfAway, halfAway, if_neg (by linarith), if_pos pos.le, ← Int.ceil_neg]
    congr 1
    ring

theorem roundHalfAway_neg (digits : ℕ) (q : ℚ) : roundHalfAway digits (-q) = -roundHalfAway digits q := by
  rw [roundHalfAway_eq, roundHalfAway_eq, neg_mul, halfAway_neg, Int.cast_neg, neg_div]

/-- A rounding is off by half a unit at most. -/
theorem abs_halfAway_sub {q : ℚ} (h : 0 ≤ q) : |(halfAway q : ℚ) - q| ≤ 1 / 2 := by
  rw [halfAway_of_nonneg h, abs_le]
  constructor <;> linarith [Int.floor_le (q + 1 / 2), Int.lt_floor_add_one (q + 1 / 2)]

theorem halfAway_nonneg {q : ℚ} (h : 0 ≤ q) : 0 ≤ halfAway q := by
  rw [halfAway_of_nonneg h]
  exact Int.floor_nonneg.2 (by linarith)

theorem halfAway_ne_zero {q : ℚ} (h : 1 ≤ |q|) : halfAway q ≠ 0 := by
  have pos : ∀ q : ℚ, 1 ≤ q → 0 < halfAway q := by
    intro q h
    rw [halfAway_of_nonneg (by linarith), Int.floor_pos]
    linarith
  rcases le_total 0 q with nonneg | neg
  · exact (pos q (abs_of_nonneg nonneg ▸ h)).ne'
  · rw [← neg_neg q, halfAway_neg, neg_ne_zero]
    exact (pos (-q) (abs_of_nonpos neg ▸ h)).ne'

theorem le_halfAway {q : ℚ} (h : 0 ≤ q) {n : ℤ} : n ≤ halfAway q ↔ (n : ℚ) ≤ q + 1 / 2 := by
  rw [halfAway_of_nonneg h, Int.le_floor]

/-- `units / 10 ^ dscale`. -/
structure PgNumeric where
  units : ℤ
  dscale : ℕ
  deriving DecidableEq, Repr

namespace PgNumeric

def ofInt (n : ℤ) : PgNumeric := ⟨n, 0⟩

def value (x : PgNumeric) : ℚ := x.units / 10 ^ x.dscale

/-- The digits of base 10000, read as one number. -/
def digits (x : PgNumeric) : ℕ := x.units.natAbs * 10 ^ ((4 - x.dscale % 4) % 4)

/-- How many of them are behind the point. -/
def fraction (x : PgNumeric) : ℕ := (x.dscale + 3) / 4

/-- The exponent of the first digit, 0 for zero. -/
def weight (x : PgNumeric) : ℤ := if x.units = 0 then 0 else Nat.log 10000 x.digits - x.fraction

def firstDigit (x : PgNumeric) : ℕ := x.digits / 10000 ^ Nat.log 10000 x.digits

/-- `select_div_scale`, which caps the scale at 1000 digits besides: the first digits estimate the weight of the
quotient. -/
def divScale (x y : PgNumeric) : ℕ :=
  let qweight := x.weight - y.weight - if x.firstDigit ≤ y.firstDigit then 1 else 0
  max (max (16 - 4 * qweight).toNat x.dscale) y.dscale

/-- `x / nullif(y, 0)`. -/
def div (x y : PgNumeric) : Option PgNumeric :=
  if y.units = 0 then none else some ⟨halfAway (x.value / y.value * 10 ^ divScale x y), divScale x y⟩

/-- `round(x, digits)`. -/
def round (digits : ℕ) (x : PgNumeric) : ℚ := roundHalfAway digits x.value

/-- Dividing and rounding commute with the sign. -/
theorem div_neg_round (n : ℤ) (y : PgNumeric) (d : ℕ) :
    ((ofInt (-n)).div y).map (round d) = (((ofInt n).div y).map (round d)).map (-·) := by
  have scale : (ofInt (-n)).divScale y = (ofInt n).divScale y := by
    simp [divScale, weight, firstDigit, digits, fraction, ofInt]
  have value : (ofInt (-n)).value = -(ofInt n).value := by
    simp [PgNumeric.value, ofInt, neg_div]
  rw [div, div, scale, value, neg_div, neg_mul, halfAway_neg]
  split
  · rfl
  · simp only [Option.map_some, round, PgNumeric.value, Int.cast_neg, neg_div, roundHalfAway_neg]

/-! ## The precision of a quotient -/

theorem abs_value (x : PgNumeric) : |x.value| = x.digits / 10000 ^ x.fraction := by
  have scale : x.dscale + (4 - x.dscale % 4) % 4 = 4 * x.fraction := by
    unfold fraction
    omega
  have pad : (10 : ℚ) ^ ((4 - x.dscale % 4) % 4) ≠ 0 := by positivity
  have base : (10000 : ℚ) ^ x.fraction = 10 ^ x.dscale * 10 ^ ((4 - x.dscale % 4) % 4) := by
    rw [← pow_add, scale, pow_mul]
    norm_num
  rw [value, abs_div, abs_of_pos (by positivity : (0 : ℚ) < 10 ^ x.dscale), base, digits]
  push_cast
  rw [mul_div_mul_right _ _ pad, Nat.cast_natAbs, Int.cast_abs]

theorem digits_ne_zero {x : PgNumeric} (h : x.units ≠ 0) : x.digits ≠ 0 :=
  Nat.mul_ne_zero (Int.natAbs_ne_zero.2 h) (by positivity)

theorem one_le_firstDigit {x : PgNumeric} (h : x.units ≠ 0) : 1 ≤ x.firstDigit :=
  (Nat.one_le_div_iff (by positivity)).2 (Nat.pow_log_le_self _ (digits_ne_zero h))

theorem firstDigit_lt (x : PgNumeric) : x.firstDigit < 10000 := by
  rw [firstDigit, Nat.div_lt_iff_lt_mul (by positivity), ← pow_succ']
  exact Nat.lt_pow_succ_log_self (by norm_num) _

/-- The first digit and its weight enclose the value. -/
theorem enclosed {x : PgNumeric} (h : x.units ≠ 0) :
    x.firstDigit * (10000 : ℚ) ^ x.weight ≤ |x.value| ∧ |x.value| < (x.firstDigit + 1) * (10000 : ℚ) ^ x.weight := by
  have weight : (10000 : ℚ) ^ x.weight = 10000 ^ Nat.log 10000 x.digits / 10000 ^ x.fraction := by
    rw [PgNumeric.weight, if_neg h, zpow_sub₀ (by norm_num), zpow_natCast, zpow_natCast]
  rw [abs_value, weight, ← mul_div_assoc, ← mul_div_assoc]
  have low := Nat.div_mul_le_self x.digits (10000 ^ Nat.log 10000 x.digits)
  have high := Nat.lt_mul_div_succ x.digits (b := 10000 ^ Nat.log 10000 x.digits) (by positivity)
  constructor
  · gcongr
    exact_mod_cast low
  · gcongr
    rw [mul_comm]
    exact_mod_cast high

/-- A quotient has more than sixteen significant digits. -/
theorem divScale_precise {x y : PgNumeric} (hx : x.units ≠ 0) (hy : y.units ≠ 0) :
    10 ^ 16 < |x.value / y.value| * 10 ^ divScale x y := by
  obtain ⟨qweight, estimate⟩ :
      ∃ qweight, qweight = x.weight - y.weight - if x.firstDigit ≤ y.firstDigit then 1 else 0 := ⟨_, rfl⟩
  have base : (0 : ℚ) < 10000 := by norm_num
  obtain ⟨low, -⟩ := enclosed hx
  obtain ⟨-, high⟩ := enclosed hy
  have y_pos : 0 < |y.value| := by
    obtain ⟨low, -⟩ := enclosed hy
    exact (mul_pos (Nat.cast_pos.2 (one_le_firstDigit hy)) (zpow_pos base _)).trans_le low
  have large : (10000 : ℚ) ^ qweight < |x.value / y.value| := by
    rw [abs_div, lt_div_iff₀ y_pos]
    refine lt_of_lt_of_le (mul_lt_mul_of_pos_left high (zpow_pos base _)) (le_trans ?_ low)
    have x_one : (1 : ℚ) ≤ x.firstDigit := by exact_mod_cast one_le_firstDigit hx
    have y_le : (y.firstDigit : ℚ) + 1 ≤ 10000 := by exact_mod_cast firstDigit_lt y
    rw [mul_left_comm, ← zpow_add₀ base.ne']
    split at estimate
    · have sum : x.weight = qweight + y.weight + 1 := by omega
      rw [sum, zpow_add_one₀ base.ne']
      have pos := zpow_pos base (qweight + y.weight)
      nlinarith
    · rename_i greater
      have sum : x.weight = qweight + y.weight := by omega
      have digit : (y.firstDigit : ℚ) + 1 ≤ x.firstDigit := by exact_mod_cast not_le.1 greater
      rw [sum]
      exact mul_le_mul_of_nonneg_right digit (zpow_pos base _).le
  have scale : (10 : ℚ) ^ (16 - 4 * qweight) ≤ 10 ^ divScale x y := by
    rw [← zpow_natCast]
    refine zpow_le_zpow_right₀ (by norm_num) ?_
    rw [divScale, ← estimate]
    omega
  calc (10 : ℚ) ^ 16 = 10000 ^ qweight * 10 ^ (16 - 4 * qweight) := by
        have digit : (10 : ℚ) ^ (4 : ℤ) = 10000 := by norm_num
        rw [zpow_sub₀ (by norm_num), zpow_mul, digit, mul_div_cancel₀ _ (zpow_pos base _).ne']
        norm_num
    _ ≤ 10000 ^ qweight * 10 ^ divScale x y := mul_le_mul_of_nonneg_left scale (zpow_pos base _).le
    _ < |x.value / y.value| * 10 ^ divScale x y := mul_lt_mul_of_pos_right large (by positivity)

end PgNumeric

end MeadowOps.Lib
