import Mathlib.Data.Rat.Floor
import Mathlib.Algebra.Order.Floor.Ring
import Mathlib.Tactic.FieldSimp
import Mathlib.Tactic.GCongr
import Mathlib.Tactic.Linarith
import Mathlib.Tactic.NormNum
import Mathlib.Tactic.Positivity

/-!
# Roundings of numbers
-/

namespace MeadowOps.Lib

/-- `int(q)`: truncation toward zero. -/
def pyInt (q : ℚ) : ℤ := if 0 ≤ q then ⌊q⌋ else ⌈q⌉

/-- `round(q)`: to the nearest integer, a tie to the even one. -/
def pyRound (q : ℚ) : ℤ :=
  let f := ⌊q⌋
  let r := q - f
  if r < 1 / 2 then f else if 1 / 2 < r then f + 1 else if f % 2 = 0 then f else f + 1

/-- `round(q, digits)`. -/
def pyRoundTo (digits : ℕ) (q : ℚ) : ℚ := pyRound (q * 10 ^ digits) / 10 ^ digits

/-- `round(numeric, digits)` of PostgreSQL: a tie goes away from zero. -/
def roundHalfAway (digits : ℕ) (q : ℚ) : ℚ :=
  let scaled := q * 10 ^ digits
  (if 0 ≤ scaled then ⌊scaled + 1 / 2⌋ else ⌈scaled - 1 / 2⌉ : ℤ) / 10 ^ digits

theorem pyRound_of_floor (q : ℚ) : ⌊q⌋ ≤ pyRound q ∧ pyRound q ≤ ⌊q⌋ + 1 := by
  unfold pyRound
  dsimp only
  split_ifs <;> omega

theorem pyRound_intCast (n : ℤ) : pyRound n = n := by
  simp [pyRound]

/-- A rounded fraction may reach one. -/
theorem pyRoundTo_unit (digits : ℕ) {q : ℚ} (h0 : 0 ≤ q) (h1 : q < 1) :
    0 ≤ pyRoundTo digits q ∧ pyRoundTo digits q ≤ 1 := by
  have scale : (0 : ℚ) < 10 ^ digits := by positivity
  obtain ⟨ge, le⟩ := pyRound_of_floor (q * 10 ^ digits)
  have nonneg : 0 ≤ ⌊q * 10 ^ digits⌋ := Int.floor_nonneg.2 (by positivity)
  have below : ⌊q * 10 ^ digits⌋ < (10 ^ digits : ℤ) := by
    rw [Int.floor_lt]
    push_cast
    exact mul_lt_of_lt_one_left scale h1
  have low : (0 : ℚ) ≤ pyRound (q * 10 ^ digits) := by exact_mod_cast nonneg.trans ge
  have high : (pyRound (q * 10 ^ digits) : ℚ) ≤ 10 ^ digits := by
    exact_mod_cast le.trans (Int.add_one_le_of_lt below)
  exact ⟨div_nonneg low scale.le, (div_le_one scale).2 high⟩

theorem roundHalfAway_intCast (digits : ℕ) (n : ℤ) : roundHalfAway digits n = n := by
  have scaled : (n : ℚ) * 10 ^ digits = ((n * 10 ^ digits : ℤ) : ℚ) := by push_cast; rfl
  have pos : (10 : ℚ) ^ digits ≠ 0 := by positivity
  have up : ⌊((n * 10 ^ digits : ℤ) : ℚ) + 1 / 2⌋ = n * 10 ^ digits := by
    rw [Int.floor_intCast_add]
    norm_num
  have down : ⌈((n * 10 ^ digits : ℤ) : ℚ) - 1 / 2⌉ = n * 10 ^ digits := by
    rw [sub_eq_add_neg, Int.ceil_intCast_add]
    norm_num
  unfold roundHalfAway
  dsimp only
  rw [scaled, up, down, ite_self]
  push_cast
  field_simp

theorem roundHalfAway_mono (digits : ℕ) {q q' : ℚ} (le : q ≤ q') : roundHalfAway digits q ≤ roundHalfAway digits q' := by
  have scale : (0 : ℚ) < 10 ^ digits := by positivity
  have scaled : q * 10 ^ digits ≤ q' * 10 ^ digits := mul_le_mul_of_nonneg_right le scale.le
  unfold roundHalfAway
  dsimp only
  refine div_le_div_of_nonneg_right (Int.cast_le.2 ?_) scale.le
  split_ifs with low high high
  · exact Int.floor_mono (by linarith)
  · exact absurd (low.trans scaled) high
  · have below : ⌈q * 10 ^ digits - 1 / 2⌉ ≤ 0 := Int.ceil_le.2 (by push_cast; linarith)
    exact below.trans (Int.floor_nonneg.2 (by linarith))
  · exact Int.ceil_mono (by linarith)

/-- Rounding does not leave a range with whole ends. -/
theorem roundHalfAway_range (digits : ℕ) {q : ℚ} {low high : ℤ} (range : low ≤ q ∧ q ≤ high) :
    low ≤ roundHalfAway digits q ∧ roundHalfAway digits q ≤ high := by
  have below := roundHalfAway_mono digits range.1
  have above := roundHalfAway_mono digits range.2
  rw [roundHalfAway_intCast] at below above
  exact ⟨below, above⟩

/-- The first element of `l` no later element of which is strictly smaller: Python's `min`. -/
def firstMin {α : Type} (lt : α → α → Bool) : List α → Option α
  | [] => none
  | a :: l => some (l.foldl (fun best b => if lt b best then b else best) a)

theorem foldl_min_mem {α : Type} (lt : α → α → Bool) (l : List α) (a : α) :
    l.foldl (fun best b => if lt b best then b else best) a ∈ a :: l := by
  induction l generalizing a with
  | nil => simp
  | cons b l ih =>
    rw [List.foldl_cons]
    split
    · exact List.mem_cons_of_mem _ (ih b)
    · exact List.cons_subset_cons a (List.subset_cons_self b l) (ih a)

theorem firstMin_mem {α : Type} {lt : α → α → Bool} {l : List α} {a : α} (h : firstMin lt l = some a) :
    a ∈ l := by
  cases l with
  | nil => cases h
  | cons b l =>
    rw [firstMin, Option.some.injEq] at h
    exact h ▸ foldl_min_mem lt l b

end MeadowOps.Lib
