import MeadowOps.Exceptions.DuplicateOrders
import MeadowOps.Exceptions.LateFlags
import MeadowOps.Kpi.Engine
import MeadowOps.Reporting.Sync

/-!
# `evaluate_exceptions` of `app/services/exception_engine.py`

The six rules, each with the verdicts it hands to `_sync_flags`. The days of supply are those of the KPI
query, so the rule for low stock is the one that reads the clock.
-/

namespace MeadowOps.Exceptions

open Db Lib MeadowOps.Flow Kpi Reporting

/-- A row of `live.exception_rule_threshold`. -/
structure ExceptionRuleThreshold where
  id : String
  thresholdValue : ℚ
  isActive : Bool
  deriving DecidableEq, Repr

/-- An entry of `_load_active_thresholds`. -/
def activeThreshold (rows : List ExceptionRuleThreshold) (category : String) : Option ℚ :=
  (lookup ExceptionRuleThreshold.id category (rows.filter (·.isActive))).map (·.thresholdValue)

/-- The tables the rules read. -/
structure EngineTables where
  threshold : List ExceptionRuleThreshold
  world : World
  reporting : List ReportingInventorySnapshot
  syncState : Option ReportingSyncState

/-- What the database decides in one call of `_sync_flags`. -/
structure SyncEnv where
  rows : RowOrder ExceptionFlag
  now : Instant
  newId : EntityKey → Uuid
  refuses : ExceptionFlag → Bool

/-- What one call of `evaluate_exceptions` takes from outside. -/
structure EngineEnv where
  sync : String → SyncEnv
  supplyRows : RowOrder DaysOfSupplyRow
  orders : RowOrder PurchaseOrder
  shipments : RowOrder Shipment
  openOrders : RowOrder OpenOrderRow

/-! ## The rules -/

def lowStockCategory : String := "low_stock_days_of_supply"
def atRiskPoCategory : String := "at_risk_po_grace_days"
def reportingLagStaleCategory : String := "reporting_lag_stale"
def reportingConflictCategory : String := "reporting_conflict_qty_variance"
def duplicatePurchaseOrderCategory : String := "duplicate_purchase_order"

def evaluateLowStock (daysOfSupply : Option ℚ) (thresholdDays : ℚ) : Bool :=
  daysOfSupply.any fun days => decide (days < thresholdDays)

/-- `EntityKey(product_id=p, warehouse_id=wh)`. -/
def pairKey (p : String) (wh : Option String) : EntityKey :=
  { EntityKey.none with productId := some p, warehouseId := wh }

/-- Without a value there is no verdict. -/
def lowStockEvaluation (thresholdDays : ℚ) (r : DaysOfSupplyRow) : Evaluation where
  isFlagged := r.daysOfSupply.map fun days => evaluateLowStock (some days) thresholdDays
  measuredValue := r.daysOfSupply

def lowStockEvaluations (order : RowOrder DaysOfSupplyRow) (clock : Date) (thresholdDays : ℚ) (w : World) :
    Dict EntityKey Evaluation :=
  Dict.ofList ((order.rows (daysOfSupply clock w)).map fun r =>
    (pairKey r.productId (some r.warehouseId), lowStockEvaluation thresholdDays r))

def evaluateAtRiskPurchaseOrder (expectedDeliveryDate simulationDate : Date) (graceDays : ℤ)
    (status : PurchaseOrderStatus) : Bool :=
  match status with
  | .received | .cancelled => false
  | .draft | .submitted | .confirmed | .partiallyReceived =>
    decide (simulationDate - expectedDeliveryDate > graceDays)

def atRiskPoEvaluation (simulationDate : Date) (graceDays : ℤ) (po : PurchaseOrder) : Evaluation where
  isFlagged := some (evaluateAtRiskPurchaseOrder po.expectedDeliveryDate simulationDate graceDays po.status)
  measuredValue := some (simulationDate - po.expectedDeliveryDate : ℤ)

/-- `_at_risk_po_evaluations`. -/
def atRiskPoEvaluations (order : RowOrder PurchaseOrder) (simulationDate : Date) (graceDays : ℤ)
    (w : World) : Dict EntityKey Evaluation :=
  Dict.ofList ((order.rows w.purchaseOrder).map fun po =>
    ({ EntityKey.none with purchaseOrderId := some po.id }, atRiskPoEvaluation simulationDate graceDays po))

def isLagStale (simulationDate : Date) (lastSynced : Option Date) (maxLagDays : ℤ) : Bool :=
  lastSynced.any fun last => decide (simulationDate - last > maxLagDays)

/-- `check_lag_staleness`, as the verdict on the layer. -/
def checkLagStaleness (simulationDate : Date) (maxLagDays : ℤ) (state : Option ReportingSyncState) :
    Evaluation :=
  let lastSynced := state.bind (·.lastSyncedSimulationDate)
  { isFlagged := some (isLagStale simulationDate lastSynced maxLagDays)
    measuredValue := lastSynced.map fun last => ((simulationDate - last : ℤ) : ℚ) }

/-- The latest copy of a pair. -/
def latestCopy (rows : List ReportingInventorySnapshot) (p wh : String) : Option ReportingInventorySnapshot :=
  let copies := rows.filter fun r => decide (r.productId = p ∧ r.warehouseId = wh)
  copies.find? fun r => copies.all fun r' => decide (r'.snapshotDate ≤ r.snapshotDate)

/-- The quantity of the live row of a day and a pair; zero without one. -/
def liveQuantity (rows : List InventorySnapshot) (grain : Date × String × String) : ℤ :=
  ((lookup InventorySnapshot.grain grain rows).map (·.quantityOnHand)).getD 0

/-- `check_reporting_conflict`. A null warehouse matches no row. -/
def checkReportingConflict (toleranceUnits : ℚ) (t : EngineTables) : Option (EntityKey × Evaluation) := do
  let state ← t.syncState
  let product ← state.frozenConflictProductId
  let warehouse ← state.frozenConflictWarehouseId
  let copy ← latestCopy t.reporting product warehouse
  let variance : ℤ := |copy.quantityOnHand - liveQuantity t.world.inventorySnapshot copy.grain|
  return (pairKey product (some warehouse), ⟨some (decide (toleranceUnits < variance)), some variance⟩)

/-! ## The calls -/

/-- The call for a category, when its rule is active. -/
def ruleCall (env : EngineEnv) (simulationDate : Date) (t : EngineTables) (category : String)
    (evaluations : ℚ → Option (Dict EntityKey Evaluation)) : Option SyncCall := do
  let thresholdValue ← activeThreshold t.threshold category
  let evaluations ← evaluations thresholdValue
  return {
    category := category
    simulationDate := simulationDate
    thresholdValue := thresholdValue
    evaluations := evaluations
    rows := (env.sync category).rows
    now := (env.sync category).now
    newId := (env.sync category).newId
    refuses := (env.sync category).refuses }

def lowStockRule (env : EngineEnv) (clock d : Date) (t : EngineTables) : Option SyncCall :=
  ruleCall env d t lowStockCategory fun threshold =>
    some (lowStockEvaluations env.supplyRows clock threshold t.world)

/-- The calls whose verdicts do not depend on the clock. -/
def otherRules (env : EngineEnv) (d : Date) (t : EngineTables) : List SyncCall :=
  [ruleCall env d t atRiskPoCategory fun threshold =>
      some (atRiskPoEvaluations env.orders d (graceDays threshold) t.world),
    ruleCall env d t lateShipmentCategory fun threshold =>
      some (lateShipmentEvaluations env.shipments d (graceDays threshold) t.world),
    ruleCall env d t reportingLagStaleCategory fun threshold =>
      some (Dict.ofList [(EntityKey.none, checkLagStaleness d (graceDays threshold) t.syncState)]),
    ruleCall env d t reportingConflictCategory fun threshold =>
      (checkReportingConflict threshold t).map fun verdict => Dict.ofList [verdict],
    ruleCall env d t duplicatePurchaseOrderCategory fun threshold =>
      some (duplicatePurchaseOrderEvaluations env.openOrders (pyInt threshold) t.world)].reduceOption

/-- The calls of `evaluate_exceptions`, in order; `clock` is the date in `simulation_clock`. -/
def exceptionCalls (env : EngineEnv) (clock d : Date) (t : EngineTables) : List SyncCall :=
  (lowStockRule env clock d t).toList ++ otherRules env d t

/-- The verdicts are those of the same days of supply. -/
theorem exceptionCalls_congr {env : EngineEnv} {clock clock' d : Date} {t : EngineTables}
    (same : daysOfSupply clock t.world = daysOfSupply clock' t.world) :
    exceptionCalls env clock d t = exceptionCalls env clock' d t := by
  simp only [exceptionCalls, lowStockRule, lowStockEvaluations, same]

end MeadowOps.Exceptions
