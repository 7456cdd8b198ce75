import Mathlib.Algebra.BigOperators.Group.List.Basic
import Mathlib.Algebra.Order.BigOperators.Group.List
import Mathlib.Algebra.Group.Int.Defs
import Mathlib.Algebra.Order.Ring.Int
import Mathlib.Data.List.Perm.Basic

/-!
# Sums over the rows of a table

`sumWhere p g rows` is SQL's `coalesce(sum(g), 0) ... where p`. The order in which a
database returns rows is unspecified, so the facts a client uses are `sumWhere_perm` and the
additivity over appended rows.
-/

namespace MeadowOps.Lib

variable {ρ M : Type} [AddCommMonoid M]

/-- The sum of `g` over the rows that satisfy `p`, zero when there is none. -/
def sumWhere (p : ρ → Prop) [DecidablePred p] (g : ρ → M) (rows : List ρ) : M :=
  ((rows.filter (p ·)).map g).sum

section
variable (p : ρ → Prop) [DecidablePred p] (g : ρ → M)

@[simp] theorem sumWhere_nil : sumWhere p g [] = 0 := rfl

@[simp] theorem sumWhere_cons (r : ρ) (rows : List ρ) :
    sumWhere p g (r :: rows) = (if p r then g r else 0) + sumWhere p g rows := by
  by_cases h : p r <;> simp [sumWhere, h]

@[simp] theorem sumWhere_append (xs ys : List ρ) :
    sumWhere p g (xs ++ ys) = sumWhere p g xs + sumWhere p g ys := by
  simp [sumWhere]

theorem sumWhere_perm {xs ys : List ρ} (h : xs.Perm ys) : sumWhere p g xs = sumWhere p g ys :=
  ((h.filter _).map g).sum_eq

/-- A filtered sum is the sum of the gated summand. -/
theorem sumWhere_eq_sum (rows : List ρ) :
    sumWhere p g rows = (rows.map fun r => if p r then g r else 0).sum := by
  induction rows with
  | nil => rfl
  | cons r rows ih => simp [ih]

end

theorem sumWhere_congr {p q : ρ → Prop} [DecidablePred p] [DecidablePred q] {g h : ρ → M}
    {rows : List ρ} (hpq : ∀ r ∈ rows, (if p r then g r else 0) = if q r then h r else 0) :
    sumWhere p g rows = sumWhere q h rows := by
  rw [sumWhere_eq_sum, sumWhere_eq_sum]
  exact congrArg List.sum (List.map_congr_left hpq)

/-- No matching row, no sum. -/
theorem sumWhere_eq_zero {p : ρ → Prop} [DecidablePred p] {g : ρ → M} {rows : List ρ}
    (h : ∀ r ∈ rows, ¬ p r) : sumWhere p g rows = 0 := by
  have : rows.filter (p ·) = [] := by simpa [List.filter_eq_nil_iff] using h
  rw [sumWhere, this]
  rfl

theorem sumWhere_nonneg {p : ρ → Prop} [DecidablePred p] {g : ρ → ℤ} {rows : List ρ}
    (h : ∀ r ∈ rows, p r → 0 ≤ g r) : 0 ≤ sumWhere p g rows := by
  refine List.sum_nonneg fun x hx => ?_
  obtain ⟨r, hr, rfl⟩ := List.mem_map.1 hx
  have := List.mem_filter.1 hr
  exact h r this.1 (by simpa using this.2)

theorem sumWhere_le_sumWhere {p : ρ → Prop} [DecidablePred p] {f g : ρ → ℤ} {rows : List ρ}
    (h : ∀ r ∈ rows, f r ≤ g r) : sumWhere p f rows ≤ sumWhere p g rows :=
  List.sum_le_sum fun r hr => h r (List.mem_of_mem_filter hr)

/-- One matching row is at most the sum, when no summand is negative. -/
theorem le_sumWhere_of_mem {p : ρ → Prop} [DecidablePred p] {g : ρ → ℤ} {rows : List ρ}
    (h : ∀ r ∈ rows, p r → 0 ≤ g r) {r : ρ} (hr : r ∈ rows) (hp : p r) : g r ≤ sumWhere p g rows := by
  refine List.single_le_sum (fun x hx => ?_) _ (List.mem_map_of_mem (by simp [hr, hp]))
  obtain ⟨s, hs, rfl⟩ := List.mem_map.1 hx
  have := List.mem_filter.1 hs
  exact h s this.1 (by simpa using this.2)

/-- Prefixes of an extended log are the prefixes of the log, and the log with a prefix of
the extension. -/
theorem take_append_cases (xs ys : List ρ) (k : Nat) :
    (∃ j, (xs ++ ys).take k = xs.take j) ∨ ∃ j, (xs ++ ys).take k = xs ++ ys.take j := by
  by_cases h : k ≤ xs.length
  · exact .inl ⟨k, List.take_append_of_le_length h⟩
  · refine .inr ⟨k - xs.length, ?_⟩
    rw [List.take_append, List.take_of_length_le (by omega)]

end MeadowOps.Lib
