import MeadowOps.Kpi.Engine
import Mathlib.Algebra.Order.Floor.Ring
import Mathlib.Data.Finset.Max
import Mathlib.Tactic.LinearCombination

/-!
# The window of `days_of_supply.sql`

The average usage is over the trailing thirty simulated days. The window of the query begins on the day
before them, and the average is rounded before the stock is divided by it.
-/

namespace MeadowOps.Kpi

open Db Lib MeadowOps.Flow

/-- The UTC day of an instant. -/
def utcDay (t : Instant) : Date := t / 86400000000

/-- What the shipments of a pair moved on the days from `first` to `last`. -/
def movedBetween (first last : Date) (w : World) (p wh : String) : ℤ :=
  sumWhere (fun t => t.transactionType = .shipment ∧ t.productId = p ∧ t.warehouseId = wh ∧
    first ≤ utcDay t.transactionAt ∧ utcDay t.transactionAt ≤ last) (·.quantityDelta) w.inventoryTransaction

/-- Usable inventory by the average daily usage, for a number of units in thirty days. -/
def suppliedFor (usable units : ℤ) : Option ℚ :=
  if units = 0 then none else some (roundHalfAway 1 (usable / ((units : ℚ) / 30)))

def unitsShipped (simulationDate : Date) (w : World) (p wh : String) : ℤ :=
  |movedBetween (simulationDate - 29) simulationDate w p wh|

/-- What the query is for: a row for each pair with a snapshot, by the latest one and the units shipped in
the thirty days. -/
structure ReportsSupply (simulationDate : Date) (w : World) (rows : List DaysOfSupplyRow) : Prop where
  once : Keyed (fun r : DaysOfSupplyRow => (r.productId, r.warehouseId)) rows
  pairs : ∀ p wh, (∃ r ∈ rows, r.productId = p ∧ r.warehouseId = wh) ↔
    ∃ s ∈ w.inventorySnapshot, s.productId = p ∧ s.warehouseId = wh
  value : ∀ r ∈ rows, ∃ s ∈ w.inventorySnapshot, s.productId = r.productId ∧ s.warehouseId = r.warehouseId ∧
    (∀ s' ∈ w.inventorySnapshot, s'.productId = r.productId → s'.warehouseId = r.warehouseId →
      s'.snapshotDate ≤ s.snapshotDate) ∧
    r.daysOfSupply = suppliedFor (s.quantityOnHand - s.quantityAllocated)
      (unitsShipped simulationDate w r.productId r.warehouseId)

/-! ## Two divisions

The average is a multiple of `10 ^ -usageScale`, off by a third of that at most, and the quotient is rounded again.
With sixteen significant digits each time, the first decimal can only be off where the exact quotient lies half way
between two of them. -/

def usageScale (units : ℕ) : ℕ := (PgNumeric.ofInt units).divScale thirty

/-- The average usage for a number of units. -/
def usage (units : ℕ) : PgNumeric := ⟨halfAway ((units : ℚ) / 30 * 10 ^ usageScale units), usageScale units⟩

def supplyScale (usable units : ℕ) : ℕ := (PgNumeric.ofInt usable).divScale (usage units)

/-- The tenths of a day in `usable / (units / 30)`, half a tenth rounded up. -/
def tenths (usable units : ℕ) : ℕ := (600 * usable + units) / (2 * units)

/-- The exact quotient is half way between two tenths, the average is rounded up (by a third of its last place), and
the quotient has the digits that tell. -/
def CutShort (usable units : ℕ) : Prop :=
  600 * usable % (2 * units) = units ∧ units % 3 = 2 ∧
    units * 10 ^ (usageScale units - 1) + 1 < 600 * usable / units * 10 ^ (supplyScale usable units - 1)

instance (usable units : ℕ) : Decidable (CutShort usable units) :=
  inferInstanceAs (Decidable (_ ∧ _ ∧ _))

/-- The tenths of a day that the query reports. -/
def reportedTenths (usable units : ℕ) : ℤ := tenths usable units - if CutShort usable units then 1 else 0

theorem tenths_zero {T : ℕ} (some_units : 0 < T) : tenths 0 T = 0 := by
  rw [tenths]
  exact Nat.div_eq_of_lt (by omega)

theorem ofInt_value (n : ℤ) : (PgNumeric.ofInt n).value = n := by
  rw [PgNumeric.value, PgNumeric.ofInt, pow_zero, div_one]

theorem thirty_value : thirty.value = 30 := by
  rw [PgNumeric.value, thirty]
  norm_num

/-- Half way between two tenths. -/
theorem tie_iff {u T : ℕ} (some_units : 0 < T) :
    600 * u % (2 * T) = T ↔ 600 * u + T = 2 * T * tenths u T := by
  constructor
  · intro half
    have split := Nat.div_add_mod (600 * u) (2 * T)
    rw [half] at split
    have sum : 600 * u + T = 2 * T * (600 * u / (2 * T) + 1) := by
      rw [Nat.mul_add_one]
      omega
    rw [tenths, sum, Nat.mul_div_cancel_left _ (by omega)]
  · intro tie
    obtain ⟨j, succ⟩ : ∃ j, tenths u T = j + 1 :=
      Nat.exists_eq_succ_of_ne_zero fun zero => by rw [zero] at tie; omega
    have split : 600 * u = T + 2 * T * j := by
      rw [succ, Nat.mul_add_one] at tie
      omega
    rw [split, Nat.add_mul_mod_self_left, Nat.mod_eq_of_lt (by omega)]

theorem quotient_of_tie {u T : ℕ} (some_units : 0 < T) (tie : 600 * u + T = 2 * T * tenths u T) :
    600 * u / T + 1 = 2 * tenths u T := by
  rw [← Nat.add_div_right _ some_units, tie, mul_assoc, mul_left_comm, Nat.mul_div_cancel_left _ some_units]

/-- A quotient of `T * c + e` in place of `T * c`, rounded to multiples of `1 / R` and then to whole numbers. -/
theorem rounded_twice {u T c R : ℕ} {e : ℤ} (some_stock : 0 < u) (stock : u ≤ 2 ^ 31) (some_units : 0 < T)
    (small : e = -1 ∨ e = 0 ∨ e = 1) (precise : 3 * 10 ^ 16 < T * c) (even : R = 1 ∨ 2 ∣ R)
    (digits : (10 : ℚ) ^ 16 < 300 * u * c / (T * c + e) * R) :
    halfAway ((halfAway (300 * u * c / (T * c + e) * R) : ℚ) / R) =
      (tenths u T : ℤ) - if 600 * u % (2 * T) = T ∧ e = 1 ∧ T * c + 1 < 600 * u / T * R then 1 else 0 := by
  have e_low : (-1 : ℚ) ≤ e := by exact_mod_cast (by omega : -1 ≤ e)
  have e_high : (e : ℚ) ≤ 1 := by exact_mod_cast (by omega : e ≤ 1)
  have units_pos : (0 : ℚ) < T := Nat.cast_pos.2 some_units
  have stock_pos : (0 : ℚ) < u := Nat.cast_pos.2 some_stock
  have stock_le : (u : ℚ) ≤ 2 ^ 31 := by exact_mod_cast stock
  have precise' : 3 * 10 ^ 16 < (T * c : ℚ) := by exact_mod_cast precise
  have divisor_pos : (0 : ℚ) < T * c + e := by linarith
  obtain ⟨Y, quotient⟩ : ∃ Y : ℚ, Y = 300 * u * c / (T * c + e) := ⟨_, rfl⟩
  rw [← quotient] at digits ⊢
  have exact : Y * (T * c + e) = 300 * u * c := by rw [quotient, div_mul_cancel₀ _ divisor_pos.ne']
  have Y_nonneg : 0 ≤ Y := by
    rw [quotient]
    positivity
  have R_pos : (0 : ℚ) < R := by
    rcases Nat.eq_zero_or_pos R with rfl | pos
    · norm_num at digits
    · exact Nat.cast_pos.2 pos
  -- How far the quotient is from the exact one.
  have first : T * Y * (T * c + e) = 300 * u * (T * c + e) - 300 * u * e := by
    linear_combination T * exact
  have YT_le : Y * T ≤ 301 * u := by
    have := mul_pos stock_pos divisor_pos
    nlinarith
  have near : |4 * (T * Y - 300 * u)| < 1 := by
    have gap : (T * Y - 300 * u) * (T * c + e) = -(300 * u * e) := by linear_combination first
    rw [abs_lt]
    constructor <;> by_contra far <;> nlinarith
  have fine : (2 * T : ℚ) < R := by nlinarith
  -- The quotient lies within half a unit of `600 * u`, on the scale where a tenth has `2 * T` units.
  obtain ⟨Z, rounded⟩ : ∃ Z : ℚ, Z = (halfAway (Y * R) : ℚ) / R := ⟨_, rfl⟩
  have multiple : Z * R = halfAway (Y * R) := by rw [rounded, div_mul_cancel₀ _ R_pos.ne']
  have Z_nonneg : 0 ≤ Z := by
    rw [rounded]
    exact div_nonneg (Int.cast_nonneg (halfAway_nonneg (mul_nonneg Y_nonneg R_pos.le))) R_pos.le
  have close : |2 * T * Z - 600 * u| < 1 := by
    have rounding := abs_halfAway_sub (mul_nonneg Y_nonneg R_pos.le)
    rw [← multiple, abs_le] at rounding
    rw [abs_lt] at near ⊢
    constructor <;> by_contra far <;> nlinarith
  rw [← rounded, halfAway_of_nonneg Z_nonneg, Int.floor_eq_iff]
  obtain ⟨close_low, close_high⟩ := abs_lt.1 close
  have units_pos₂ : (0 : ℚ) < 2 * T := by linarith
  have low : (2 * T * tenths u T : ℚ) ≤ 600 * u + T := by exact_mod_cast Nat.mul_div_le (600 * u + T) (2 * T)
  have high : (600 * u + T : ℚ) + 1 ≤ 2 * T * (tenths u T + 1) := by
    exact_mod_cast Nat.lt_mul_div_succ (600 * u + T) (b := 2 * T) (by omega)
  have below : Z + 1 / 2 < tenths u T + 1 := by
    rw [← mul_lt_mul_iff_right₀ units_pos₂]
    linarith
  by_cases half : 600 * u % (2 * T) = T
  · -- The quotient of the divisions has to reach the exact one.
    have tie := (tie_iff some_units).1 half
    have odd := quotient_of_tie some_units tie
    have tie' : (600 * u + T : ℚ) = 2 * T * tenths u T := by exact_mod_cast tie
    have odd' : ((600 * u / T : ℕ) : ℚ) + 1 = 2 * tenths u T := by exact_mod_cast odd
    obtain ⟨r, rfl⟩ : 2 ∣ R := even.resolve_left fun one => by
      rw [one] at fine
      have : (1 : ℚ) ≤ T := by exact_mod_cast some_units
      push_cast at fine
      linarith
    obtain ⟨m, quot⟩ : ∃ m, m = 600 * u / T := ⟨_, rfl⟩
    rw [← quot] at odd' ⊢
    have reach : (m * r : ℤ) ≤ halfAway (Y * (2 * r : ℕ)) ↔ ¬ (e = 1 ∧ T * c + 1 < m * (2 * r)) := by
      rw [le_halfAway (mul_nonneg Y_nonneg R_pos.le)]
      have scaled : (Y * (2 * r : ℕ) + 1 / 2 - m * r) * (T * c + e) = (T * c + e) / 2 - m * r * e := by
        push_cast
        have : (T * m : ℚ) = 600 * u := by linear_combination T * odd' - tie'
        linear_combination 2 * r * exact - r * c * this
      have enough : ((m * r : ℤ) : ℚ) ≤ Y * (2 * r : ℕ) + 1 / 2 ↔ (m * r * e : ℚ) ≤ (T * c + e) / 2 := by
        rw [← sub_nonneg, ← sub_nonneg (a := ((T * c + e) / 2 : ℚ)), ← scaled, mul_nonneg_iff_of_pos_right divisor_pos]
        push_cast
        rfl
      rw [enough, le_div_iff₀ two_pos, ← not_lt, not_iff_not]
      have mr : 0 ≤ (m * r : ℚ) := by positivity
      rcases small with rfl | rfl | rfl
      · simp only [Int.reduceNeg, Int.cast_neg, Int.cast_one, reduceCtorEq, false_and, iff_false, not_lt]
        linarith
      · simp only [Int.cast_zero, mul_zero, add_zero, zero_mul, zero_ne_one, false_and, iff_false, not_lt]
        positivity
      · simp only [Int.cast_one, mul_one, true_and]
        rw [mul_left_comm m 2 r, mul_comm (m * r : ℚ) 2]
        exact_mod_cast Iff.rfl
    by_cases cut : e = 1 ∧ T * c + 1 < m * (2 * r)
    · rw [if_pos ⟨half, cut⟩]
      have short : (halfAway (Y * (2 * r : ℕ)) : ℚ) < m * r := by
        exact_mod_cast not_le.1 fun le => reach.1 le cut
      push_cast at multiple short ⊢
      have r_pos : (0 : ℚ) < r := by
        push_cast at R_pos
        linarith
      constructor
      · rw [← mul_le_mul_iff_right₀ units_pos₂]
        have : (1 : ℚ) ≤ T := by exact_mod_cast some_units
        linarith
      · have less : Z * 2 < m := lt_of_mul_lt_mul_right (by linarith : Z * 2 * r < m * r) r_pos.le
        linarith
    · rw [if_neg fun whole => cut whole.2, Int.sub_zero, Int.cast_natCast]
      have full : (m * r : ℚ) ≤ halfAway (Y * (2 * r : ℕ)) := by exact_mod_cast reach.2 cut
      push_cast at multiple full
      have r_pos : (0 : ℚ) < r := by
        push_cast at R_pos
        linarith
      have reached : (m : ℚ) ≤ Z * 2 := le_of_mul_le_mul_right (by linarith : (m * r : ℚ) ≤ Z * 2 * r) r_pos
      exact ⟨by linarith, below⟩
  · have apart : (2 * T * tenths u T : ℚ) + 1 ≤ 600 * u + T := by
      have := lt_of_le_of_ne (Nat.mul_div_le (600 * u + T) (2 * T)) fun tie => half ((tie_iff some_units).2 tie.symm)
      exact_mod_cast this
    rw [if_neg fun whole => half whole.1, Int.sub_zero, Int.cast_natCast]
    refine ⟨?_, below⟩
    rw [← mul_le_mul_iff_right₀ units_pos₂]
    linarith

/-- The average usage is a third of its last place off at most. -/
theorem usage_spec {T : ℕ} (some_units : 0 < T) :
    ∃ (c : ℕ) (e : ℤ), c = 10 ^ (usageScale T - 1) ∧ usageScale T = usageScale T - 1 + 1 ∧
      3 * (usage T).units = T * c + e ∧ (e = -1 ∨ e = 0 ∨ e = 1) ∧ (e = 1 ↔ T % 3 = 2) ∧ 3 * 10 ^ 16 < T * c := by
  have scale : usageScale T = usageScale T - 1 + 1 := by
    have : thirty.dscale ≤ usageScale T := le_max_right _ _
    have one : thirty.dscale = 1 := rfl
    omega
  have precise := PgNumeric.divScale_precise (x := .ofInt T) (y := thirty)
    (show (T : ℤ) ≠ 0 by exact_mod_cast some_units.ne') (by decide)
  rw [ofInt_value, thirty_value, Int.cast_natCast, abs_of_nonneg (by positivity)] at precise
  change 10 ^ 16 < (T : ℚ) / 30 * 10 ^ usageScale T at precise
  have third : (T : ℚ) / 30 * 10 ^ usageScale T = (T * 10 ^ (usageScale T - 1) : ℕ) / 3 := by
    rw [scale, pow_succ]
    push_cast
    ring
  obtain ⟨M, product⟩ : ∃ M, M = T * 10 ^ (usageScale T - 1) := ⟨_, rfl⟩
  rw [third, ← product] at precise
  have units : (usage T).units = ((2 * M + 3) / 6 : ℕ) := by
    change halfAway ((T : ℚ) / 30 * 10 ^ usageScale T) = _
    rw [third, ← product, halfAway_of_nonneg (by positivity), Int.floor_eq_iff]
    have low : (((2 * M + 3) / 6 : ℕ) : ℚ) * 6 ≤ 2 * M + 3 := by exact_mod_cast Nat.div_mul_le_self _ _
    have high : (2 * M + 3 : ℚ) < 6 * (((2 * M + 3) / 6 : ℕ) + 1) := by
      exact_mod_cast Nat.lt_mul_div_succ (2 * M + 3) (b := 6) (by norm_num)
    rw [Int.cast_natCast]
    constructor <;> linarith
  have residue : M % 3 = T % 3 := by
    rw [product, Nat.mul_mod, Nat.pow_mod]
    simp
  have large : 3 * 10 ^ 16 < M := by
    have : (3 * 10 ^ 16 : ℚ) < M := by linarith
    exact_mod_cast this
  refine ⟨_, 3 * (usage T).units - M, rfl, scale, ?_, ?_, ?_, product ▸ large⟩
  · rw [product]
    push_cast
    ring
  all_goals
    rw [units]
    omega

theorem reportedTenths_zero {T : ℕ} (some_units : 0 < T) : reportedTenths 0 T = 0 := by
  have whole : ¬ CutShort 0 T := fun cut => by
    have half := cut.1
    rw [Nat.mul_zero, Nat.zero_mod] at half
    omega
  rw [reportedTenths, tenths_zero some_units, if_neg whole]
  rfl

/-- The query's days of supply for a stock that no allocation exceeds. -/
theorem supplied_natural {u T : ℕ} (stock : u ≤ 2 ^ 31) (some_units : 0 < T) :
    ((PgNumeric.ofInt u).div (usage T)).map (PgNumeric.round 1) =
      some ((reportedTenths u T : ℚ) / 10) := by
  obtain ⟨c, e, power, scale, units, small, residue, precise⟩ := usage_spec some_units
  have usage_pos : 0 < (usage T).units := by omega
  rw [PgNumeric.div, if_neg usage_pos.ne', Option.map_some, PgNumeric.round, roundHalfAway_eq]
  rcases Nat.eq_zero_or_pos u with rfl | some_stock
  · simp [reportedTenths_zero some_units, PgNumeric.ofInt, PgNumeric.value]
  · have scale₂ : (PgNumeric.ofInt u).divScale (usage T) = supplyScale u T - 1 + 1 := by
      have : usageScale T ≤ supplyScale u T := le_max_right _ _
      change supplyScale u T = _
      omega
    have digits := PgNumeric.divScale_precise (x := .ofInt u) (y := usage T)
      (show (u : ℤ) ≠ 0 by exact_mod_cast some_stock.ne') usage_pos.ne'
    have usage_value : 3 * 10 * (usage T).value * c = T * c + e := by
      have cast : (3 * (usage T).units : ℚ) = T * c + e := by exact_mod_cast units
      rw [PgNumeric.value, ← cast, show (usage T).dscale = usageScale T - 1 + 1 from scale, power, pow_succ]
      have : (10 : ℚ) ^ (usageScale T - 1) ≠ 0 := by positivity
      push_cast
      field_simp
    have c_pos : (0 : ℚ) < c := by
      rw [power]
      positivity
    have divisor_pos : (0 : ℚ) < T * c + e := by
      rw [← show ((3 * (usage T).units : ℤ) : ℚ) = T * c + e by rw [units]; push_cast; rfl]
      exact_mod_cast (by omega : 0 < 3 * (usage T).units)
    have usage_pos' : 0 < (usage T).value := div_pos (Int.cast_pos.2 usage_pos) (by positivity)
    have quotient : (u : ℚ) / (usage T).value * 10 = 300 * u * c / (T * c + e) := by
      rw [← usage_value]
      field_simp
      ring
    have scaled : (u : ℚ) / (usage T).value * 10 ^ (supplyScale u T - 1 + 1) =
        300 * u * c / (T * c + e) * (10 ^ (supplyScale u T - 1) : ℕ) := by
      rw [← quotient, pow_succ]
      push_cast
      ring
    have even : 10 ^ (supplyScale u T - 1) = 1 ∨ 2 ∣ 10 ^ (supplyScale u T - 1) := by
      cases supplyScale u T - 1 with
      | zero => exact .inl rfl
      | succ n => exact .inr (Dvd.dvd.pow (by norm_num) n.succ_ne_zero)
    rw [ofInt_value, Int.cast_natCast, scale₂] at digits
    rw [abs_of_nonneg (by positivity), scaled] at digits
    have twice := rounded_twice some_stock stock some_units small precise even digits
    rw [ofInt_value, Int.cast_natCast, scale₂, scaled, PgNumeric.value, pow_one]
    have place : ∀ n : ℤ, (n : ℚ) / 10 ^ (supplyScale u T - 1 + 1) * 10 = n / (10 ^ (supplyScale u T - 1) : ℕ) := by
      intro n
      rw [pow_succ]
      push_cast
      field_simp
    rw [place, twice, power]
    simp only [residue]
    rfl

theorem usage_eq (T : ℕ) : (PgNumeric.ofInt T).div thirty = some (usage T) := by
  rw [PgNumeric.div, if_neg (by decide), ofInt_value, thirty_value]
  rfl

/-- The query's days of supply, by the usable stock and the units that it counts. -/
def reported (usable : ℤ) (units : ℕ) : Option ℚ :=
  if units = 0 then none else some (((usable.sign * reportedTenths usable.natAbs units : ℤ) : ℚ) / 10)

theorem supplied_eq {usable : ℤ} {T : ℕ} (columns : |usable| ≤ 2 ^ 31) :
    ((PgNumeric.ofInt usable).div (usage T)).map (PgNumeric.round 1) = reported usable T := by
  have stock : usable.natAbs ≤ 2 ^ 31 := by
    rw [Int.abs_eq_natAbs] at columns
    exact_mod_cast columns
  rcases Nat.eq_zero_or_pos T with rfl | some_units
  · have zero : (usage 0).units = 0 := by simp [usage]
    rw [PgNumeric.div, if_pos zero]
    rfl
  · rw [reported, if_neg some_units.ne']
    have natural := supplied_natural stock some_units
    rcases lt_trichotomy usable 0 with neg | rfl | pos
    · have eq : usable = -(usable.natAbs : ℤ) := by omega
      rw [Int.sign_eq_neg_one_of_neg neg]
      conv_lhs => rw [eq]
      rw [PgNumeric.div_neg_round, natural]
      simp only [Option.map_some, Option.some.injEq]
      push_cast
      ring
    · have zero : ((PgNumeric.ofInt 0).div (usage T)).map (PgNumeric.round 1) = some 0 := by
        have natural := supplied_natural (Nat.zero_le (2 ^ 31)) some_units
        simpa [reportedTenths_zero some_units] using natural
      simp [zero]
    · have eq : usable = (usable.natAbs : ℤ) := by omega
      rw [Int.sign_eq_one_of_pos pos]
      conv_lhs => rw [eq]
      rw [natural]
      simp

/-- The claimed figure, in tenths. -/
theorem suppliedFor_eq (usable : ℤ) {units : ℕ} (some_units : 0 < units) :
    suppliedFor usable units = some (((usable.sign * tenths usable.natAbs units : ℤ) : ℚ) / 10) := by
  have exact : ∀ u : ℕ, roundHalfAway 1 ((u : ℚ) / ((units : ℚ) / 30)) = tenths u units / 10 := by
    intro u
    have pos : (0 : ℚ) < units := Nat.cast_pos.2 some_units
    rw [roundHalfAway_eq, halfAway_of_nonneg (by positivity), pow_one]
    congr 1
    have floor : ⌊(u : ℚ) / ((units : ℚ) / 30) * 10 + 1 / 2⌋ = (tenths u units : ℤ) := by
      have sum : (u : ℚ) / ((units : ℚ) / 30) * 10 + 1 / 2 = (600 * u + units) / (2 * units) := by
        field_simp
        ring
      have low : (2 * units * tenths u units : ℚ) ≤ 600 * u + units := by
        exact_mod_cast Nat.mul_div_le (600 * u + units) (2 * units)
      have high : (600 * u + units : ℚ) < 2 * units * (tenths u units + 1) := by
        exact_mod_cast Nat.lt_mul_div_succ (600 * u + units) (b := 2 * units) (by omega)
      rw [sum, Int.floor_eq_iff, le_div_iff₀ (by positivity), div_lt_iff₀ (by positivity), Int.cast_natCast]
      constructor <;> linarith
    rw [floor, Int.cast_natCast]
  rw [suppliedFor, if_neg (by exact_mod_cast some_units.ne'), Option.some.injEq, Int.cast_natCast]
  rcases lt_trichotomy usable 0 with neg | rfl | pos
  · have eq : (usable : ℚ) = -(usable.natAbs : ℚ) := by exact_mod_cast (by omega : usable = -(usable.natAbs : ℤ))
    rw [Int.sign_eq_neg_one_of_neg neg, eq, neg_div, roundHalfAway_neg, exact]
    push_cast
    ring
  · simpa [tenths_zero some_units] using exact 0
  · have eq : (usable : ℚ) = (usable.natAbs : ℚ) := by rw [Nat.cast_natAbs, abs_of_pos pos]
    rw [Int.sign_eq_one_of_pos pos, eq, exact]
    push_cast
    ring

/-! ## The window by days -/

theorem inUsageWindow_iff (simulationDate : Date) (t : InventoryTransaction) :
    inUsageWindow simulationDate t = true ↔
      simulationDate - 30 ≤ utcDay t.transactionAt ∧ utcDay t.transactionAt ≤ simulationDate := by
  rw [inUsageWindow, Bool.and_eq_true, decide_eq_true_iff, decide_eq_true_iff]
  unfold simDatetime utcDay
  unfold Date Instant at *
  omega

/-- The query sums the day before the thirty days as well. -/
theorem sum_shippedInWindow (simulationDate : Date) (w : World) (p wh : String) :
    ((shippedInWindow simulationDate w p wh).map (·.quantityDelta)).sum =
      movedBetween (simulationDate - 30) simulationDate w p wh := by
  unfold movedBetween shippedInWindow
  induction w.inventoryTransaction with
  | nil => rfl
  | cons t rows ih =>
    rw [sumWhere_cons, List.filter_cons, ← ih]
    have row : (decide (t.transactionType = .shipment) && inUsageWindow simulationDate t &&
        decide (t.productId = p) && decide (t.warehouseId = wh)) = true ↔
        t.transactionType = .shipment ∧ t.productId = p ∧ t.warehouseId = wh ∧
          simulationDate - 30 ≤ utcDay t.transactionAt ∧ utcDay t.transactionAt ≤ simulationDate := by
      simp only [Bool.and_eq_true, decide_eq_true_eq, inUsageWindow_iff]
      tauto
    simp only [row]
    split
    · rw [List.map_cons, List.sum_cons]
    · rw [Int.zero_add]

/-- The value of the query, by the units of its window. -/
theorem daysOfSupplyRow_eq (simulationDate : Date) (w : World) {s : InventorySnapshot}
    (columns : |s.quantityOnHand - s.quantityAllocated| ≤ 2 ^ 31) :
    (daysOfSupplyRow simulationDate w s).daysOfSupply =
      reported (s.quantityOnHand - s.quantityAllocated)
        (movedBetween (simulationDate - 30) simulationDate w s.productId s.warehouseId).natAbs := by
  rw [← sum_shippedInWindow]
  simp only [daysOfSupplyRow, avgDailyQty]
  cases shippedInWindow simulationDate w s.productId s.warehouseId with
  | nil => rfl
  | cons t rows =>
    generalize (((t :: rows).map (·.quantityDelta)).sum : ℤ) = moved
    rw [List.isEmpty_cons, if_neg Bool.false_ne_true, Int.abs_eq_natAbs, usage_eq, Option.bind_some]
    exact supplied_eq columns

/-! ## The snapshots -/

/-- Every pair with a snapshot has a latest one. -/
theorem exists_latest {rows : List InventorySnapshot} {s : InventorySnapshot} (mem : s ∈ rows) :
    ∃ latest ∈ latestSnapshots rows, latest.productId = s.productId ∧ latest.warehouseId = s.warehouseId := by
  obtain ⟨latest, found, max⟩ := (rows.toFinset.filter fun r =>
    r.productId = s.productId ∧ r.warehouseId = s.warehouseId).exists_max_image (·.snapshotDate)
    ⟨s, by simp [mem]⟩
  simp only [Finset.mem_filter, List.mem_toFinset] at found max
  obtain ⟨memLatest, product, warehouse⟩ := found
  refine ⟨latest, List.mem_filter.2 ⟨memLatest, ?_⟩, product, warehouse⟩
  rw [List.all_eq_true]
  intro r memR
  exact decide_eq_true fun p wh => max r ⟨memR, p.trans product, wh.trans warehouse⟩

/-- The rows of the query, whatever its values, are those of the latest snapshots. -/
theorem reportsSupply_iff (simulationDate : Date) (w : World)
    (keyed : Keyed InventorySnapshot.grain w.inventorySnapshot) :
    ReportsSupply simulationDate w (daysOfSupply simulationDate w) ↔
      ∀ s ∈ latestSnapshots w.inventorySnapshot, (daysOfSupplyRow simulationDate w s).daysOfSupply =
        suppliedFor (s.quantityOnHand - s.quantityAllocated)
          (unitsShipped simulationDate w s.productId s.warehouseId) := by
  have latest : ∀ s ∈ latestSnapshots w.inventorySnapshot, s ∈ w.inventorySnapshot ∧
      ∀ r ∈ w.inventorySnapshot, r.productId = s.productId → r.warehouseId = s.warehouseId →
        r.snapshotDate ≤ s.snapshotDate := by
    intro s mem
    obtain ⟨memS, all⟩ := List.mem_filter.1 mem
    exact ⟨memS, fun r memR => of_decide_eq_true (List.all_eq_true.1 all r memR)⟩
  constructor
  · intro reports s mem
    obtain ⟨s', mem', product, warehouse, newest, value⟩ := reports.value _ (List.mem_map_of_mem mem)
    obtain ⟨memS, newest'⟩ := latest s mem
    have day : s'.snapshotDate = s.snapshotDate :=
      le_antisymm (newest' s' mem' product warehouse) (newest s memS rfl rfl)
    have same : s' = s := by
      refine List.inj_on_of_nodup_map keyed mem' memS ?_
      rw [InventorySnapshot.grain, InventorySnapshot.grain, day, product, warehouse]
      rfl
    rw [same] at value
    exact value
  · intro values
    refine ⟨?_, ?_, ?_⟩
    · rw [Keyed, daysOfSupply, List.map_map]
      exact latestSnapshots_keyed keyed
    · intro p wh
      constructor
      · rintro ⟨r, mem, rfl, rfl⟩
        obtain ⟨s, memS, rfl⟩ := List.mem_map.1 mem
        exact ⟨s, (latest s memS).1, rfl, rfl⟩
      · rintro ⟨s, mem, rfl, rfl⟩
        obtain ⟨newest, memNewest, product, warehouse⟩ := exists_latest mem
        exact ⟨_, List.mem_map_of_mem memNewest, product, warehouse⟩
    · intro r mem
      obtain ⟨s, memS, rfl⟩ := List.mem_map.1 mem
      obtain ⟨here, newest⟩ := latest s memS
      exact ⟨s, here, rfl, rfl, newest, values s memS⟩

/-! ## When the figure is the right one -/

/-- The units that the query counts give the figure that the units shipped in the thirty days would give: there are
none of either, or they give the same number of tenths, where a quotient cut short has one less. -/
def KeepsFigure (usable counted units : ℤ) : Prop :=
  if counted = 0 ∨ units = 0 then counted = units
  else tenths usable.natAbs counted.natAbs =
    tenths usable.natAbs units.natAbs + if CutShort usable.natAbs counted.natAbs then 1 else 0

instance (usable counted units : ℤ) : Decidable (KeepsFigure usable counted units) := by
  unfold KeepsFigure
  infer_instance

theorem reported_eq_suppliedFor_iff (usable counted units : ℤ) :
    reported usable counted.natAbs = suppliedFor usable |units| ↔ KeepsFigure usable counted units := by
  rw [KeepsFigure, Int.abs_eq_natAbs, reported]
  by_cases counts : counted = 0
  · rw [if_pos (Int.natAbs_eq_zero.2 counts), if_pos (.inl counts), counts]
    by_cases moves : units = 0
    · simp [moves, suppliedFor]
    · rw [suppliedFor_eq usable (Int.natAbs_pos.2 moves)]
      exact ⟨fun other => absurd other (Option.some_ne_none _).symm, fun same => absurd same.symm moves⟩
  · rw [if_neg (mt Int.natAbs_eq_zero.1 counts)]
    by_cases moves : units = 0
    · rw [if_pos (.inr moves), moves]
      simp [suppliedFor, counts]
    · rw [if_neg (by tauto), suppliedFor_eq usable (Int.natAbs_pos.2 moves), Option.some.injEq,
        div_left_inj' (by norm_num), Int.cast_inj]
      have counts_pos := Int.natAbs_pos.2 counts
      by_cases empty : usable = 0
      · rw [empty, Int.sign_zero, Int.natAbs_zero, tenths_zero counts_pos, tenths_zero (Int.natAbs_pos.2 moves)]
        have whole := reportedTenths_zero counts_pos
        rw [reportedTenths, tenths_zero counts_pos] at whole
        split at whole
        · omega
        · rename_i uncut
          simp [uncut]
      · have sign : usable.sign ≠ 0 := mt Int.sign_eq_zero_iff_zero.1 empty
        rw [mul_right_inj' sign, reportedTenths]
        split <;> omega

/-- For snapshots that keep to their columns, the query reports the days of supply if and only if the units from the
day before the thirty days on give the figure that those of the thirty days give. -/
theorem daysOfSupply_reports_iff (simulationDate : Date) (w : World)
    (keyed : Keyed InventorySnapshot.grain w.inventorySnapshot)
    (columns : ∀ s ∈ w.inventorySnapshot, |s.quantityOnHand - s.quantityAllocated| ≤ 2 ^ 31) :
    ReportsSupply simulationDate w (daysOfSupply simulationDate w) ↔
      ∀ s ∈ latestSnapshots w.inventorySnapshot,
        KeepsFigure (s.quantityOnHand - s.quantityAllocated)
          (movedBetween (simulationDate - 30) simulationDate w s.productId s.warehouseId)
          (movedBetween (simulationDate - 29) simulationDate w s.productId s.warehouseId) := by
  rw [reportsSupply_iff _ _ keyed]
  refine forall₂_congr fun s latest => ?_
  rw [daysOfSupplyRow_eq _ _ (columns s (List.mem_filter.1 latest).1), unitsShipped, reported_eq_suppliedFor_iff]

/-- Where the day before moves nothing, the figure is kept unless a quotient is cut short. -/
theorem keepsFigure_self (usable : ℤ) {units : ℤ} (moved : units ≠ 0) :
    KeepsFigure usable units units ↔ ¬ CutShort usable.natAbs units.natAbs := by
  rw [KeepsFigure, if_neg (by tauto)]
  split <;> simp_all

/-- A pair of which ten units are shipped on each of 41 days. -/
def dailyShipments : List InventoryTransaction :=
  (List.range 41).map fun day => ⟨simDatetime (monday + day), "boxes", "main", .shipment, -10, none, none⟩

def shippingWorld : World :=
  { World.empty ⟨[], [], [], [], []⟩ with
    inventoryTransaction := dailyShipments
    inventorySnapshot := [⟨monday + 40, "boxes", "main", 310, 0⟩] }

/-- One unit is left after eight have been shipped on one day. -/
def lastUnit : World :=
  { World.empty ⟨[], [], [], [], []⟩ with
    inventoryTransaction := [⟨simDatetime monday, "boxes", "main", .shipment, -8, none, none⟩]
    inventorySnapshot := [⟨monday, "boxes", "main", 1, 0⟩] }

/-- At the end of the first thirty days of ten units each, the figure for 300 on hand is the right one; ten days later
the units of a day before count as well. -/
theorem daysOfSupply_reports_iff_thirtyDays :
    let w := { shippingWorld with inventorySnapshot := [⟨monday + 29, "boxes", "main", 300, 0⟩] }
    ReportsSupply (monday + 29) w (daysOfSupply (monday + 29) w) ∧
      ¬ ReportsSupply (monday + 40) w (daysOfSupply (monday + 40) w) := by
  intro w
  have keyed : Keyed InventorySnapshot.grain w.inventorySnapshot := List.nodup_singleton _
  have columns : ∀ s ∈ w.inventorySnapshot, |s.quantityOnHand - s.quantityAllocated| ≤ 2 ^ 31 := by decide
  exact ⟨(daysOfSupply_reports_iff (monday + 29) w keyed columns).2 (by decide +kernel),
    fun reports => absurd ((daysOfSupply_reports_iff (monday + 40) w keyed columns).1 reports) (by decide +kernel)⟩

/-- Thirty-one days of supply at ten units a day are reported as thirty. One unit at eight in thirty days lasts 3.75
days: the rounded average gives a little less, and the query reports 3.7. -/
theorem daysOfSupply_overcounts :
    (daysOfSupply (monday + 40) shippingWorld = [⟨"boxes", "main", some 30⟩] ∧
      suppliedFor 310 (unitsShipped (monday + 40) shippingWorld "boxes" "main") = some 31 ∧
      ¬ ReportsSupply (monday + 40) shippingWorld (daysOfSupply (monday + 40) shippingWorld)) ∧
    daysOfSupply monday lastUnit = [⟨"boxes", "main", some (37 / 10)⟩] ∧
      suppliedFor 1 (unitsShipped monday lastUnit "boxes" "main") = some (38 / 10) ∧
      ¬ ReportsSupply monday lastUnit (daysOfSupply monday lastUnit) := by
  -- The one row of a query with another figure than the right one.
  have wrong : ∀ (d : Date) (w : World) (s : InventorySnapshot) (figure right : ℚ), w.inventorySnapshot = [s] →
      daysOfSupply d w = [⟨s.productId, s.warehouseId, some figure⟩] →
      suppliedFor (s.quantityOnHand - s.quantityAllocated) (unitsShipped d w s.productId s.warehouseId) = some right →
      figure ≠ right → ¬ ReportsSupply d w (daysOfSupply d w) := by
    intro d w s figure right one rows value apart reports
    rw [rows] at reports
    obtain ⟨s', mem, -, -, -, figure'⟩ := reports.value _ List.mem_cons_self
    rw [one, List.mem_singleton] at mem
    rw [mem, value] at figure'
    exact apart (Option.some.inj figure')
  have thirty : daysOfSupply (monday + 40) shippingWorld = [⟨"boxes", "main", some 30⟩] := by decide +kernel
  have thirtyOne : suppliedFor 310 (unitsShipped (monday + 40) shippingWorld "boxes" "main") = some 31 := by
    decide +kernel
  have cut : daysOfSupply monday lastUnit = [⟨"boxes", "main", some (37 / 10)⟩] := by decide +kernel
  have full : suppliedFor 1 (unitsShipped monday lastUnit "boxes" "main") = some (38 / 10) := by decide +kernel
  exact ⟨⟨thirty, thirtyOne, wrong _ _ _ _ _ rfl thirty thirtyOne (by norm_num)⟩,
    cut, full, wrong _ _ _ _ _ rfl cut full (by norm_num)⟩

end MeadowOps.Kpi
