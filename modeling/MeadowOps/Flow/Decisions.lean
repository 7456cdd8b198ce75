import MeadowOps.Flow.Rng
import MeadowOps.Lib.Numeric
import Mathlib.Data.List.Infix

/-!
# `app/domain/scheduled_flow.py`

The pure decisions of the procure-to-stock / order-to-ship flow. Averages and fractions are
exact rationals here; `Flow.TransferPlans` has those of the transfers in floats, and ties its loop to the pass.
The quantities are unbounded, and beyond `2 ^ 53` a float would lose units.
-/

namespace MeadowOps.Flow

open Db Lib

/-- `_SUPPLIER_CATEGORY_KEYWORDS`. -/
def supplierCategoryKeywords : ProductCategory → List String
  | .corrugatedPackaging => ["corrugated"]
  | .protectivePackaging => ["protective"]
  | .shippingLabelingSupplies => ["shipping", "labeling"]

def bootstrapReorderThreshold : ℚ := 10
def minimumReorderQuantity : ℤ := 20
def demandLookbackDays : ℤ := 14

/-- `_VARIABILITY_SPREAD_DAYS`. -/
def variabilitySpreadDays : Variability → ℤ
  | .low => 1
  | .medium => 3
  | .high => 6

/-- What a pass of the flow can raise. -/
inductive FlowError where
  | noMatchingSupplier (message : String)
  | integrityError (constraint : String)
  | attributeError
  deriving DecidableEq, Repr

/-- `kw in s.category_focus.lower()`. The keywords are ASCII. -/
def matchesKeyword (s : Supplier) (kw : String) : Bool :=
  decide (kw.toList <:+: s.categoryFocus.toLower.toList)

/-- The active supplier of least id whose focus names the category. -/
def assignSupplier (category : ProductCategory) (suppliers : List Supplier) :
    Except FlowError Supplier :=
  let found := suppliers.filter fun s => (supplierCategoryKeywords category).any (matchesKeyword s)
  match firstMin (fun a b => a.id < b.id) found with
  | none => .error (.noMatchingSupplier
      ("no active supplier's category_focus matches " ++ category.value))
  | some s => .ok s

/-- Lead time with jitter either way, at least one day. -/
def jitteredLeadTimeDays (baseDays : ℤ) (v : Variability) (rng : Rng) : ℤ :=
  let spread := variabilitySpreadDays v
  max 1 (baseDays + rng.randint 0 (-spread) spread)

/-- On the promised day with the carrier's reliability, else late by up to its spread. -/
def carrierActualTransitDays (promised : ℤ) (v : Variability) (reliabilityPct : ℚ) (rng : Rng) : ℤ :=
  if rng.uniform 0 0 100 < reliabilityPct then promised
  else promised + rng.randint 1 1 (variabilitySpreadDays v)

def partialReceiptChance : ℚ := 1 / 5
def partialReceiptMinFraction : ℚ := 1 / 2
def partialReceiptMaxFraction : ℚ := 9 / 10

/-- `none` for a full receipt, else the fraction of each line's remainder that arrives. -/
def rollPartialReceiptFraction (rng : Rng) : Option ℚ :=
  if partialReceiptChance ≤ rng.random 0 then none
  else some (partialReceiptMinFraction +
    pyRoundTo 4 (rng.random 1) * (partialReceiptMaxFraction - partialReceiptMinFraction))

def reorderQuantity (avgDailyDemand : ℚ) (targetDaysOfSupply : ℤ) : ℤ :=
  max minimumReorderQuantity ⌈avgDailyDemand * targetDaysOfSupply⌉

def reorderThreshold (avgDailyDemand : ℚ) (reorderSafetyDays : ℤ) : ℚ :=
  max (avgDailyDemand * reorderSafetyDays) bootstrapReorderThreshold

def isBelowReorderPoint (position : ℤ) (avgDailyDemand : ℚ) (reorderSafetyDays : ℤ) : Bool :=
  decide ((position : ℚ) < reorderThreshold avgDailyDemand reorderSafetyDays)

def warehouseDeficit (position : ℤ) (avgDailyDemand : ℚ) (reorderSafetyDays : ℤ) : ℤ :=
  max 0 ⌈reorderThreshold avgDailyDemand reorderSafetyDays - position⌉

/-- The unallocated stock a warehouse can give away above its own reorder threshold. -/
def transferableSurplus (position allocated : ℤ) (avgDailyDemand : ℚ) (reorderSafetyDays : ℤ) : ℤ :=
  max 0 ⌊position - allocated - reorderThreshold avgDailyDemand reorderSafetyDays⌋

/-- The candidate of greatest surplus, of least id among equals. -/
def pickTransferDonor (candidates : List (String × ℤ)) : Option (String × ℤ) :=
  firstMin (fun a b => decide (b.2 < a.2) || decide (a.2 = b.2 ∧ a.1 < b.1))
    (candidates.filter fun c => 0 < c.2)

/-- One to three distinct products; draws `k` and `k + 1`. -/
def pickDemandProducts (rng : Rng) (k : ℕ) (productIds : List String) : List String :=
  if productIds.isEmpty then []
  else
    let count := rng.randint k 1 (min 3 productIds.length)
    rng.sample (k + 1) productIds count.toNat

def pickDemandQuantity (rng : Rng) (k : ℕ) : ℤ := rng.randint k 1 20

def pickRequestedDateOffset (rng : Rng) (k : ℕ) : ℤ := rng.randint k 1 3

/-! ## What the decisions guarantee -/

theorem reorderThreshold_ge (demand : ℚ) (days : ℤ) : 10 ≤ reorderThreshold demand days :=
  le_max_right _ _

/-- A donor keeps its allocated stock and its own threshold. -/
theorem transferableSurplus_spec {position allocated : ℤ} {demand : ℚ} {days : ℤ}
    (h : 0 < transferableSurplus position allocated demand days) :
    (transferableSurplus position allocated demand days : ℚ) ≤
      position - allocated - reorderThreshold demand days := by
  unfold transferableSurplus at h ⊢
  have pos : 0 < ⌊(position : ℚ) - allocated - reorderThreshold demand days⌋ := by
    rcases lt_max_iff.1 h with h | h
    · exact absurd h (lt_irrefl 0)
    · exact h
  rw [max_eq_right pos.le]
  exact Int.floor_le _

theorem transferableSurplus_le {position allocated : ℤ} {demand : ℚ} {days : ℤ}
    (h : 0 < transferableSurplus position allocated demand days) :
    transferableSurplus position allocated demand days + 10 ≤ position - allocated := by
  have := transferableSurplus_spec h
  have := reorderThreshold_ge demand days
  have : (transferableSurplus position allocated demand days : ℚ) + 10 ≤ position - allocated := by
    linarith
  exact_mod_cast this

theorem pickTransferDonor_mem {candidates : List (String × ℤ)} {c : String × ℤ}
    (h : pickTransferDonor candidates = some c) : c ∈ candidates ∧ 0 < c.2 := by
  simpa using firstMin_mem h

theorem pickDemandQuantity_pos (rng : Rng) (k : ℕ) : 1 ≤ pickDemandQuantity rng k :=
  (rng.randint_range k 1 20 (by decide)).1

end MeadowOps.Flow
