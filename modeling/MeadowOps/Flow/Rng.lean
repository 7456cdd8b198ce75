import MeadowOps.Db.World
import Mathlib.Data.List.Perm.Subperm
import Mathlib.Algebra.Order.Ring.Rat

/-!
# The seeded generator and the order of rows

`_rng(date, purpose)` builds a fresh `random.Random` from a text seed. A generator is modelled
by the answers it gives to its successive draws, numbered from zero, each within the range the
library documents. Nothing else is assumed of a draw, so what is proved holds for every seed.

A query without ORDER BY returns its rows in an order the database chooses: a `RowOrder`.
-/

namespace MeadowOps.Flow

open Db Lib

/-- The answers of one `random.Random`, by the number of the draw. -/
structure Rng where
  random : ℕ → ℚ
  random_range : ∀ k, 0 ≤ random k ∧ random k < 1
  randint : ℕ → ℤ → ℤ → ℤ
  randint_range : ∀ k a b, a ≤ b → a ≤ randint k a b ∧ randint k a b ≤ b
  sample : ℕ → List String → ℕ → List String
  sample_subperm : ∀ k l n, (sample k l n).Subperm l
  sample_length : ∀ k l n, n ≤ l.length → (sample k l n).length = n

/-- `uniform(a, b)`, from the draw of `random()`. -/
def Rng.uniform (r : Rng) (k : ℕ) (a b : ℚ) : ℚ := a + (b - a) * r.random k

/-- The generator that draws the least value each time. -/
def Rng.least : Rng where
  random _ := 0
  random_range _ := ⟨le_refl _, by decide +kernel⟩
  randint _ a _ := a
  randint_range _ _ _ h := ⟨le_refl _, h⟩
  sample _ l n := l.take n
  sample_subperm _ l n := (List.take_sublist n l).subperm
  sample_length _ l n h := by simp [h]

/-- The generator that draws `r` for a fraction and else the greatest value. -/
def Rng.greatest (r : ℚ) (hr : 0 ≤ r ∧ r < 1) : Rng where
  random _ := r
  random_range _ := hr
  randint _ _ b := b
  randint_range _ _ _ h := ⟨h, le_refl _⟩
  sample _ l n := l.take n
  sample_subperm _ l n := (List.take_sublist n l).subperm
  sample_length _ l n h := by simp [h]

/-- What `_rng` is seeded for, beside the date. -/
inductive Purpose where
  | poPartialReceipt (po : Uuid)
  | procurement (product warehouse : String)
  | carrierTransit (shipment : Uuid)
  | demand (customer : String)
  deriving DecidableEq, Repr

/-- The order in which the database returns the rows of a query. -/
structure RowOrder (α : Type) where
  rows : List α → List α
  perm : ∀ l, (rows l).Perm l

namespace RowOrder
variable {α : Type}

/-- Insertion order. -/
def inserted : RowOrder α := ⟨id, fun _ => List.Perm.refl _⟩

instance : Inhabited (RowOrder α) := ⟨inserted⟩

@[simp] theorem inserted_rows (l : List α) : (inserted : RowOrder α).rows l = l := rfl

@[simp] theorem mem_rows (o : RowOrder α) {l : List α} {a : α} : a ∈ o.rows l ↔ a ∈ l :=
  (o.perm l).mem_iff

end RowOrder

/-- The keys loaded by a query are distinct. -/
theorem loaded_nodup {ρ κ : Type} {key : ρ → κ} {rows : List ρ} (h : Keyed key rows)
    (order : RowOrder ρ) (p : ρ → Bool) : ((order.rows (rows.filter p)).map key).Nodup :=
  (((order.perm _).map key).nodup_iff).2 (h.sublist (List.filter_sublist.map key))

end MeadowOps.Flow
