import MeadowOps.Flow.Passes
import MeadowOps.Lib.NumericDivision
import MeadowOps.Lib.PyText

/-!
# `app/services/kpi_engine.py` and the queries of `sql/kpi`

Every query reads all rows there are, and only the one for the days of supply reads the clock. The snapshot
tables hold one row for a day, and for a day and a pair.
-/

namespace MeadowOps.Kpi

open Db Lib MeadowOps.Flow

/-- A row of `live.kpi_snapshot`. -/
structure KpiSnapshot where
  simulationDate : Date
  otifPct : Option ℚ
  fillRatePct : Option ℚ
  orderCycleTimeDays : Option ℚ
  perfectOrderRatePct : Option ℚ
  deriving DecidableEq, Repr

/-- A row of `live.days_of_supply_snapshot`. -/
structure DaysOfSupplySnapshot where
  simulationDate : Date
  productId : String
  warehouseId : String
  daysOfSupply : Option ℚ
  deriving DecidableEq, Repr

/-- The columns of `uq_days_of_supply_snapshot_grain`. -/
def DaysOfSupplySnapshot.grain (s : DaysOfSupplySnapshot) : Date × String × String :=
  (s.simulationDate, s.productId, s.warehouseId)

structure KpiTables where
  kpiSnapshot : List KpiSnapshot
  daysOfSupplySnapshot : List DaysOfSupplySnapshot
  deriving DecidableEq, Repr

/-! ## The queries -/

/-- `round(dividend / nullif(divisor, 0), digits)`. -/
def roundedRatio (digits : ℕ) (dividend divisor : ℚ) : Option ℚ :=
  if divisor = 0 then none else some (roundHalfAway digits (dividend / divisor))

/-- A row of `order_fulfillment`. -/
structure Fulfillment where
  isInFull : Bool
  isOnTime : Bool
  isDelivered : Bool

def deliveredOnTime (s : Shipment) : Bool :=
  s.actualDeliveryDate.any fun date => decide (date ≤ s.promisedDeliveryDate)

/-- The join drops an order without lines. -/
def orderFulfillment (w : World) : List Fulfillment :=
  (w.salesOrder.filter fun so => !so.lines.isEmpty).map fun so =>
    { isInFull := so.lines.all fun l => decide (l.quantityOrdered ≤ l.quantityShipped)
      isOnTime := (shipmentsOf w so.id).any deliveredOnTime
      isDelivered := (shipmentsOf w so.id).any fun s => decide (s.status = .delivered) }

def otif (w : World) : Option ℚ :=
  roundedRatio 2
    (100 * (orderFulfillment w).countP fun f => f.isDelivered && f.isInFull && f.isOnTime)
    ((orderFulfillment w).countP (·.isDelivered))

def salesOrderLines (w : World) : List SalesOrderLine := w.salesOrder.flatMap (·.lines)

def fillRate (w : World) : Option ℚ :=
  roundedRatio 2 (100 * ((salesOrderLines w).map (·.quantityShipped)).sum)
    ((salesOrderLines w).map (·.quantityOrdered)).sum

/-- The days from the order to the delivery of each delivered shipment. -/
def cycleTimes (w : World) : List ℤ :=
  w.salesOrder.flatMap fun so => (shipmentsOf w so.id).filterMap fun s =>
    if s.status = .delivered then s.actualDeliveryDate.map (· - so.orderDate) else none

def orderCycleTime (w : World) : Option ℚ :=
  roundedRatio 1 (cycleTimes w).sum (cycleTimes w).length

/-- The query is that of `otif`. -/
def perfectOrderRate (w : World) : Option ℚ := otif w

structure DaysOfSupplyRow where
  productId : String
  warehouseId : String
  daysOfSupply : Option ℚ
  deriving DecidableEq, Repr

/-- `latest_snapshot`. -/
def latestSnapshots (rows : List InventorySnapshot) : List InventorySnapshot :=
  rows.filter fun s => rows.all fun r =>
    decide (r.productId = s.productId → r.warehouseId = s.warehouseId → r.snapshotDate ≤ s.snapshotDate)

/-- The trailing window of a simulation date. -/
def inUsageWindow (simulationDate : Date) (t : InventoryTransaction) : Bool :=
  decide (simDatetime (simulationDate - 30) ≤ t.transactionAt) &&
    decide (t.transactionAt < simDatetime (simulationDate + 1))

def shippedInWindow (simulationDate : Date) (w : World) (p wh : String) : List InventoryTransaction :=
  w.inventoryTransaction.filter fun t => decide (t.transactionType = .shipment) &&
    inUsageWindow simulationDate t && decide (t.productId = p) && decide (t.warehouseId = wh)

/-- `30.0`. -/
def thirty : PgNumeric := ⟨300, 1⟩

/-- `avg_daily_usage`. -/
def avgDailyQty (simulationDate : Date) (w : World) (p wh : String) : Option PgNumeric :=
  let rows := shippedInWindow simulationDate w p wh
  if rows.isEmpty then none else (PgNumeric.ofInt |(rows.map (·.quantityDelta)).sum|).div thirty

def daysOfSupplyRow (simulationDate : Date) (w : World) (s : InventorySnapshot) : DaysOfSupplyRow where
  productId := s.productId
  warehouseId := s.warehouseId
  daysOfSupply := (avgDailyQty simulationDate w s.productId s.warehouseId).bind fun q =>
    ((PgNumeric.ofInt (s.quantityOnHand - s.quantityAllocated)).div q).map (PgNumeric.round 1)

/-- The query reads `simulationDate` from the clock. -/
def daysOfSupply (simulationDate : Date) (w : World) : List DaysOfSupplyRow :=
  (latestSnapshots w.inventorySnapshot).map (daysOfSupplyRow simulationDate w)

/-- Of the clock, the query needs the shipments of a pair in its window. -/
theorem daysOfSupplyRow_congr {clock clock' : Date} {w : World} {s : InventorySnapshot}
    (same : ∀ t ∈ w.inventoryTransaction, t.transactionType = .shipment → t.productId = s.productId →
      t.warehouseId = s.warehouseId → inUsageWindow clock t = inUsageWindow clock' t) :
    daysOfSupplyRow clock w s = daysOfSupplyRow clock' w s := by
  have shipped : shippedInWindow clock w s.productId s.warehouseId =
      shippedInWindow clock' w s.productId s.warehouseId := by
    refine List.filter_congr fun t mem => ?_
    by_cases own : t.transactionType = .shipment ∧ t.productId = s.productId ∧ t.warehouseId = s.warehouseId
    · rw [same t mem own.1 own.2.1 own.2.2]
    · rw [Bool.eq_iff_iff]
      simp only [Bool.and_eq_true, decide_eq_true_eq]
      tauto
  rw [daysOfSupplyRow, daysOfSupplyRow, avgDailyQty, avgDailyQty, shipped]

theorem daysOfSupply_congr {clock clock' : Date} {w : World}
    (same : ∀ t ∈ w.inventoryTransaction, inUsageWindow clock t = inUsageWindow clock' t) :
    daysOfSupply clock w = daysOfSupply clock' w :=
  List.map_congr_left fun _ _ => daysOfSupplyRow_congr fun t mem _ _ _ => same t mem

/-- An average usage other than zero is not rounded to zero. -/
theorem usage_ne_zero {units : ℤ} (h : units ≠ 0) :
    halfAway ((PgNumeric.ofInt units).value / thirty.value * 10 ^ (PgNumeric.ofInt units).divScale thirty) ≠ 0 := by
  have precise := PgNumeric.divScale_precise (x := .ofInt units) (y := thirty) h (by decide)
  rw [← abs_of_pos (by positivity : (0 : ℚ) < 10 ^ (PgNumeric.ofInt units).divScale thirty), ← abs_mul] at precise
  exact halfAway_ne_zero (by linarith)

/-- Shipments that take stock away give a number of days. -/
theorem daysOfSupplyRow_ne_none {simulationDate : Date} {w : World} {s : InventorySnapshot} {t : InventoryTransaction}
    (shipped : t ∈ shippedInWindow simulationDate w s.productId s.warehouseId)
    (take : ∀ t ∈ shippedInWindow simulationDate w s.productId s.warehouseId, t.quantityDelta < 0) :
    (daysOfSupplyRow simulationDate w s).daysOfSupply ≠ none := by
  have moved : ((shippedInWindow simulationDate w s.productId s.warehouseId).map (·.quantityDelta)).sum ≠ 0 := by
    rw [← neg_ne_zero, List.sum_neg, List.map_map]
    refine (List.sum_pos _ (fun x mem => ?_) (by simpa using List.ne_nil_of_mem shipped)).ne'
    obtain ⟨t', mem', rfl⟩ := List.mem_map.1 mem
    exact neg_pos.2 (take t' mem')
  rw [daysOfSupplyRow, avgDailyQty, if_neg (by simpa using List.ne_nil_of_mem shipped), PgNumeric.div,
    if_neg (by decide), Option.bind_some, PgNumeric.div, if_neg (usage_ne_zero (abs_ne_zero.2 moved))]
  exact Option.some_ne_none _

/-- A pair has one latest snapshot. -/
theorem latestSnapshots_keyed {rows : List InventorySnapshot} (h : Keyed InventorySnapshot.grain rows) :
    Keyed (fun s : InventorySnapshot => (s.productId, s.warehouseId)) (latestSnapshots rows) := by
  refine (List.nodup_map_iff_inj_on (h.of_map _ |>.filter _)).2 fun s mem s' mem' pair => ?_
  obtain ⟨mem, latest⟩ := List.mem_filter.1 mem
  obtain ⟨mem', latest'⟩ := List.mem_filter.1 mem'
  obtain ⟨product, warehouse⟩ := Prod.mk.inj pair
  have le := of_decide_eq_true (List.all_eq_true.1 latest s' mem') product.symm warehouse.symm
  have ge := of_decide_eq_true (List.all_eq_true.1 latest' s mem) product warehouse
  refine List.inj_on_of_nodup_map h mem mem' ?_
  rw [InventorySnapshot.grain, InventorySnapshot.grain, le_antisymm ge le, product, warehouse]

/-! ## The snapshots -/

/-- `KpiComputationOutOfOrderError`. -/
structure KpiComputationOutOfOrder where
  message : String
  deriving DecidableEq, Repr

def outOfOrder (simulationDate latest : Date) : KpiComputationOutOfOrder :=
  ⟨"cannot compute KPIs for " ++ isoformat simulationDate ++ " — a later date (" ++ isoformat latest ++
    ") is already snapshotted, and every KPI here is an all-time aggregate, not a " ++
    "point-in-time figure for the requested date"⟩

def kpiSnapshotOf (simulationDate : Date) (w : World) : KpiSnapshot :=
  ⟨simulationDate, otif w, fillRate w, orderCycleTime w, perfectOrderRate w⟩

def daysOfSupplySnapshotOf (simulationDate : Date) (r : DaysOfSupplyRow) : DaysOfSupplySnapshot :=
  ⟨simulationDate, r.productId, r.warehouseId, r.daysOfSupply⟩

theorem daysOfSupplySnapshotOf_injective (d : Date) : Function.Injective (daysOfSupplySnapshotOf d) := by
  rintro ⟨p, wh, supply⟩ ⟨p', wh', supply'⟩ same
  cases same
  rfl

/-- Both upserts. -/
def upsertKpis (rows : List DaysOfSupplyRow) (w : World) (simulationDate : Date) (t : KpiTables) :
    KpiTables where
  kpiSnapshot := upsert KpiSnapshot.simulationDate t.kpiSnapshot (kpiSnapshotOf simulationDate w)
  daysOfSupplySnapshot :=
    upsertAll DaysOfSupplySnapshot.grain (rows.map (daysOfSupplySnapshotOf simulationDate))
      t.daysOfSupplySnapshot

/-- `compute_and_snapshot_kpis(session, simulation_date)`; `clock` is the date in `simulation_clock`. -/
def computeAndSnapshotKpis (order : RowOrder DaysOfSupplyRow) (clock : Date) (w : World)
    (simulationDate : Date) (t : KpiTables) : Except KpiComputationOutOfOrder KpiTables :=
  match (t.kpiSnapshot.map (·.simulationDate)).max? with
  | some latest =>
    if simulationDate < latest then .error (outOfOrder simulationDate latest)
    else .ok (upsertKpis (order.rows (daysOfSupply clock w)) w simulationDate t)
  | none => .ok (upsertKpis (order.rows (daysOfSupply clock w)) w simulationDate t)

theorem computeAndSnapshotKpis_ok {order : RowOrder DaysOfSupplyRow} {clock d : Date} {w : World}
    {t t' : KpiTables} (ok : computeAndSnapshotKpis order clock w d t = .ok t') :
    t' = upsertKpis (order.rows (daysOfSupply clock w)) w d t := by
  unfold computeAndSnapshotKpis at ok
  split at ok
  · split at ok
    · cases ok
    · cases ok
      rfl
  · cases ok
    rfl

/-- The clock is read by one query. -/
theorem computeAndSnapshotKpis_congr {order : RowOrder DaysOfSupplyRow} {clock clock' d : Date} {w : World}
    {t : KpiTables} (same : daysOfSupply clock w = daysOfSupply clock' w) :
    computeAndSnapshotKpis order clock w d t = computeAndSnapshotKpis order clock' w d t := by
  rw [computeAndSnapshotKpis, computeAndSnapshotKpis, same]

end MeadowOps.Kpi
