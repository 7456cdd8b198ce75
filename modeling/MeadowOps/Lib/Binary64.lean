import MeadowOps.Lib.Numeric
import Mathlib.Data.Int.Log
import Mathlib.Algebra.Order.Field.Power
import Mathlib.Tactic.FieldSimp

/-!
# Doubles

The values of binary64 as rationals: the nearest one, a tie to the even significand. Overflow is left out. Up
to `2 ^ 53` every integer is a double, so no rounding crosses one.
-/

namespace MeadowOps.Lib

/-- The exponent of the last place of the doubles near `q`. -/
def lastPlace (q : ℚ) : ℤ := max (Int.log 2 |q| - 52) (-1074)

/-- The double nearest to `q`. -/
def toBinary64 (q : ℚ) : ℚ := pyRound (q / 2 ^ lastPlace q) * 2 ^ lastPlace q

theorem lastPlace_neg (q : ℚ) : lastPlace (-q) = lastPlace q := by
  rw [lastPlace, lastPlace, abs_neg]

theorem le_pyRound {n : ℤ} {q : ℚ} (le : (n : ℚ) ≤ q) : n ≤ pyRound q :=
  (Int.le_floor.2 le).trans (pyRound_of_floor q).1

theorem pyRound_le {n : ℤ} {q : ℚ} (le : q ≤ n) : pyRound q ≤ n := by
  rcases eq_or_lt_of_le le with rfl | lt
  · exact (pyRound_intCast n).le
  · have below := Int.floor_lt.2 lt
    have above := (pyRound_of_floor q).2
    omega

/-- A small integer below `q` is below some double of the binade of `q` that is below `q`. -/
theorem exists_below {m : ℤ} {q : ℚ} (small : |m| ≤ 2 ^ 53) (le : (m : ℚ) ≤ q) :
    ∃ j : ℤ, (m : ℚ) ≤ j * 2 ^ lastPlace q ∧ (j : ℚ) * 2 ^ lastPlace q ≤ q := by
  by_cases fine : lastPlace q ≤ 0
  · obtain ⟨k, places⟩ := Int.eq_ofNat_of_zero_le (neg_nonneg.2 fine)
    have same : ((m * 2 ^ k : ℤ) : ℚ) * 2 ^ lastPlace q = m := by
      rw [show lastPlace q = -(k : ℤ) by omega, zpow_neg, zpow_natCast]
      push_cast
      field_simp
    exact ⟨m * 2 ^ k, same.ge, same.trans_le le⟩
  · -- The places are whole, so `q` is beyond all small integers or the last of them itself.
    have nonzero : 0 < |q| := by
      refine abs_pos.2 fun zero => fine ?_
      rw [lastPlace, zero, abs_zero, Int.log_zero_right]
      decide
    have binade : (2 : ℚ) ^ (52 + lastPlace q) ≤ |q| := by
      have floor := Int.zpow_log_le_self (b := 2) (by decide) nonzero
      have places : 52 + lastPlace q = Int.log 2 |q| := by
        rw [lastPlace] at fine ⊢
        omega
      rw [places]
      exact_mod_cast floor
    have far : (2 : ℚ) ^ 53 ≤ 2 ^ (52 + lastPlace q) := by
      rw [← zpow_natCast]
      exact zpow_le_zpow_right₀ one_le_two (by push_cast; omega)
    have split : (2 : ℚ) ^ (52 + lastPlace q) = 2 ^ 52 * 2 ^ lastPlace q := by
      rw [zpow_add₀ two_ne_zero]
      norm_num
    have bounds := abs_le.1 small
    have low : (-2 ^ 53 : ℚ) ≤ m := by exact_mod_cast bounds.1
    have high : (m : ℚ) ≤ 2 ^ 53 := by exact_mod_cast bounds.2
    rcases le_total 0 q with positive | negative
    · rw [abs_of_nonneg positive] at binade
      exact ⟨2 ^ 52, by push_cast; linarith, by push_cast; linarith⟩
    · rw [abs_of_nonpos negative] at binade
      exact ⟨-2 ^ 52, by push_cast; linarith, by push_cast; linarith⟩

/-- No rounding crosses a small integer from above. -/
theorem le_toBinary64 {m : ℤ} {q : ℚ} (small : |m| ≤ 2 ^ 53) (le : (m : ℚ) ≤ q) : (m : ℚ) ≤ toBinary64 q := by
  obtain ⟨j, above, below⟩ := exists_below small le
  have unit : (0 : ℚ) < 2 ^ lastPlace q := by positivity
  have rounds : (j : ℚ) ≤ pyRound (q / 2 ^ lastPlace q) := by
    exact_mod_cast le_pyRound ((le_div_iff₀ unit).2 below)
  exact above.trans (mul_le_mul_of_nonneg_right rounds unit.le)

/-- Nor from below. -/
theorem toBinary64_le {m : ℤ} {q : ℚ} (small : |m| ≤ 2 ^ 53) (le : q ≤ m) : toBinary64 q ≤ m := by
  obtain ⟨j, above, below⟩ := exists_below (m := -m) (q := -q) (by rwa [abs_neg]) (by push_cast; linarith)
  rw [lastPlace_neg] at above below
  push_cast at above
  have unit : (0 : ℚ) < 2 ^ lastPlace q := by positivity
  have rounds : (pyRound (q / 2 ^ lastPlace q) : ℚ) ≤ -j := by
    exact_mod_cast pyRound_le (n := -j) ((div_le_iff₀ unit).2 (by push_cast; linarith))
  have scaled := mul_le_mul_of_nonneg_right rounds unit.le
  rw [toBinary64]
  linarith

/-- A small integer is a double. -/
theorem toBinary64_intCast {m : ℤ} (small : |m| ≤ 2 ^ 53) : toBinary64 m = m :=
  le_antisymm (toBinary64_le small le_rfl) (le_toBinary64 small le_rfl)

example : toBinary64 (toBinary64 (29 / 14) * 14) = 29 + 1 / 2 ^ 48 := by decide +kernel

/-! ## Numbers of Python -/

inductive PyNumber where
  | int (n : ℤ)
  | float (q : ℚ)
  deriving DecidableEq, Repr

namespace PyNumber

def value : PyNumber → ℚ
  | int n => n
  | float q => q

/-- `float(x)`. -/
def toFloat : PyNumber → ℚ
  | int n => toBinary64 n
  | float q => q

/-- `a - b`: of two ints an int, else of two floats. -/
def sub : PyNumber → PyNumber → PyNumber
  | int a, int b => int (a - b)
  | a, b => float (toBinary64 (a.toFloat - b.toFloat))

/-- `math.floor(x)`. -/
def floor (x : PyNumber) : ℤ := ⌊x.value⌋

/-- `math.ceil(x)`. -/
def ceil (x : PyNumber) : ℤ := ⌈x.value⌉

/-- Its conversion to a float keeps the value. -/
def Fits (x : PyNumber) : Prop := x.toFloat = x.value

theorem fits_int {n : ℤ} (small : |n| ≤ 2 ^ 53) : (int n).Fits := toBinary64_intCast small

theorem fits_float (q : ℚ) : (float q).Fits := rfl

/-- What a subtraction comes to. -/
theorem sub_value {a b : PyNumber} (ha : a.Fits) (hb : b.Fits) :
    (a.sub b).value = a.value - b.value ∨ (a.sub b).value = toBinary64 (a.value - b.value) := by
  rw [Fits] at ha hb
  cases a <;> cases b
  case int.int a b =>
    left
    show ((a - b : ℤ) : ℚ) = a - b
    push_cast
    rfl
  all_goals
    right
    rw [← ha, ← hb]
    rfl

/-- A subtraction does not fall below a small integer. -/
theorem le_sub {a b : PyNumber} (ha : a.Fits) (hb : b.Fits) {m : ℤ} (small : |m| ≤ 2 ^ 53)
    (le : (m : ℚ) ≤ a.value - b.value) : (m : ℚ) ≤ (a.sub b).value := by
  rcases sub_value ha hb with exact' | rounded
  · rw [exact']
    exact le
  · rw [rounded]
    exact le_toBinary64 small le

/-- Nor does it rise above one. -/
theorem sub_le {a b : PyNumber} (ha : a.Fits) (hb : b.Fits) {m : ℤ} (small : |m| ≤ 2 ^ 53)
    (le : a.value - b.value ≤ m) : (a.sub b).value ≤ m := by
  rcases sub_value ha hb with exact' | rounded
  · rw [exact']
    exact le
  · rw [rounded]
    exact toBinary64_le small le

end PyNumber

end MeadowOps.Lib
