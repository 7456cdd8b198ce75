import MeadowOps.Dashboard.OrderDetail
import MeadowOps.Lib.GroupBy

/-!
# `app/services/dashboard_overview.py`

The figures of the overview page over the trailing window of a simulation date. The dictionaries that are read from
grouped queries do not depend on the order of their rows. Names and the value of the orders are left out.
-/

namespace MeadowOps.Dashboard

open Db Lib MeadowOps.Flow Scheduler Exceptions Kpi Simulation

/-! ## The rows of the answer -/

structure OverviewDailyActivity where
  simulationDate : Date
  ordersPlaced : ℕ
  shipmentsShipped : ℕ
  deliveredOnTime : ℕ
  deliveredLate : ℕ
  purchaseOrdersPlaced : ℕ
  deriving DecidableEq, Repr

structure OverviewShipmentBreakdown where
  deliveredOnTime : ℕ
  deliveredLate : ℕ
  inProgress : ℕ
  exception : ℕ
  deriving DecidableEq, Repr

structure OverviewWarehouse where
  warehouseId : String
  unitsOnHand : ℤ
  unitsAllocated : ℤ
  avgDaysOfSupply : Option ℚ
  lowStockPositions : ℕ
  deriving DecidableEq, Repr

structure OverviewSupplier where
  supplierId : String
  purchaseOrdersPlaced : ℕ
  purchaseOrdersReceived : ℕ
  receivedOnTime : ℕ
  onTimeReceiptPct : Option ℚ
  openPurchaseOrders : ℕ
  atRiskPurchaseOrders : ℕ
  deriving DecidableEq, Repr

structure OverviewProductDemand where
  productId : String
  unitsOrdered : ℤ
  unitsShipped : ℤ
  deriving DecidableEq, Repr

structure OverviewExceptionDay where
  simulationDate : Date
  count : ℕ
  deriving DecidableEq, Repr

structure OverviewRead where
  asOf : Date
  windowStart : Date
  windowDays : ℤ
  kpiTrend : List KpiSnapshot
  dailyActivity : List OverviewDailyActivity
  salesOrderStatus : List (SalesOrderStatus × ℕ)
  shipmentDelivery : OverviewShipmentBreakdown
  inventoryByWarehouse : List OverviewWarehouse
  suppliers : List OverviewSupplier
  topProducts : List OverviewProductDemand
  openExceptionsByCategory : List (String × ℕ)
  newExceptionsPerDay : List OverviewExceptionDay
  deriving DecidableEq, Repr

inductive OverviewError where
  | valueError (message : String)
  | overflowError
  deriving DecidableEq, Repr

/-- How the database orders the rows that are returned as lists; texts are compared in its collation. -/
structure OverviewEnv where
  kpis : OrderedBy KpiSnapshot.simulationDate
  statuses : OrderedBy fun row : SalesOrderStatus × ℕ => OrderDual.toDual row.2
  warehouses : RowOrder Warehouse
  suppliers : RowOrder Supplier
  products : OrderedBy fun row : OverviewProductDemand => OrderDual.toDual row.unitsOrdered
  categories : RowOrder (String × ℕ)

/-! ## The queries -/

/-- `column.between(start, end)`. -/
def between (start last date : Date) : Bool := decide (start ≤ date ∧ date ≤ last)

/-- `actual_delivery_date <= promised_delivery_date`, which is null where there is no delivery date. -/
def onTime (s : Shipment) : Option Bool :=
  s.actualDeliveryDate.map fun actual => decide (actual ≤ s.promisedDeliveryDate)

/-- The days from `start` through `last`. -/
def axis (start last : Date) : List Date :=
  (List.range (last - start + 1).toNat).map fun n : ℕ => start + n

/-- `_daily_activity`. -/
def dailyActivity (w : World) (start last : Date) : List OverviewDailyActivity :=
  let orders := Dict.ofList <| groupBy SalesOrder.orderDate (fun rows => (rows.map SalesOrder.id).dedup.length) <|
    w.salesOrder.filter fun so => between start last so.orderDate
  let shipped := Dict.ofList <| groupBy Shipment.shipDate List.length <|
    w.shipment.filter fun s => between start last s.shipDate
  let delivered := Dict.ofList <| groupBy Shipment.actualDeliveryDate
    (fun rows => (rows.countP fun s => onTime s = some true, rows.countP fun s => onTime s = some false)) <|
    w.shipment.filter fun s => decide (s.status = .delivered) && s.actualDeliveryDate.any (between start last)
  let purchaseOrders := Dict.ofList <| groupBy PurchaseOrder.orderDate List.length <|
    w.purchaseOrder.filter fun po => between start last po.orderDate
  (axis start last).map fun day =>
    { simulationDate := day
      ordersPlaced := orders.getD day 0
      shipmentsShipped := shipped.getD day 0
      deliveredOnTime := (delivered.getD (some day) (0, 0)).1
      deliveredLate := (delivered.getD (some day) (0, 0)).2
      purchaseOrdersPlaced := purchaseOrders.getD day 0 }

/-- `_shipment_breakdown`. -/
def shipmentBreakdown (w : World) (start last : Date) : OverviewShipmentBreakdown :=
  let rows := w.shipment.filter fun s => between start last s.shipDate
  { deliveredOnTime := rows.countP fun s => s.status = .delivered ∧ onTime s = some true
    deliveredLate := rows.countP fun s => s.status = .delivered ∧ onTime s = some false
    inProgress := rows.countP fun s => s.status = .pending ∨ s.status = .inTransit
    exception := rows.countP fun s => s.status = .exception }

/-- `func.avg`; nulls do not count. -/
def average (values : List (Option ℚ)) : Option ℚ :=
  let known := values.reduceOption
  if known = [] then none else some (known.sum / known.length)

/-- `_inventory_by_warehouse`. -/
def inventoryByWarehouse (env : OverviewEnv) (p : Platform) : List OverviewWarehouse :=
  let stock : Dict String (ℤ × ℤ) := match (p.world.inventorySnapshot.map (·.snapshotDate)).max? with
    | none => Dict.empty
    | some latest => Dict.ofList <| groupBy InventorySnapshot.warehouseId
      (fun rows => ((rows.map (·.quantityOnHand)).sum, (rows.map (·.quantityAllocated)).sum)) <|
      p.world.inventorySnapshot.filter fun s => s.snapshotDate = latest
  let supply : Dict String (Option ℚ) := match (p.kpis.daysOfSupplySnapshot.map (·.simulationDate)).max? with
    | none => Dict.empty
    | some latest => Dict.ofList <| groupBy DaysOfSupplySnapshot.warehouseId
      (fun rows => average (rows.map (·.daysOfSupply))) <|
      p.kpis.daysOfSupplySnapshot.filter fun s => s.simulationDate = latest
  let lowStock := Dict.ofList <| groupBy ExceptionFlag.warehouseId List.length <|
    p.exceptionFlag.filter fun f => decide (f.category = lowStockCategory) && f.isOpen
  (env.warehouses.rows (p.world.master.warehouse.filter (·.isActive))).map fun warehouse =>
    { warehouseId := warehouse.id
      unitsOnHand := (stock.getD warehouse.id (0, 0)).1
      unitsAllocated := (stock.getD warehouse.id (0, 0)).2
      avgDaysOfSupply := (supply.getD warehouse.id none).map (roundHalfAway 1)
      lowStockPositions := lowStock.getD (some warehouse.id) 0 }

/-- `received_at`: the first day on which an order was received. -/
def receivedOn (events : List (LifecycleEvent PurchaseOrderStatus)) (purchaseOrderId : Uuid) : Option Date :=
  ((events.filter fun e => decide (e.toStatus = .received ∧ e.orderId = purchaseOrderId)).map
    (·.simulationDate)).min?

/-- The open flags of purchase orders at risk, joined with their orders. -/
def atRiskOrders (p : Platform) : List PurchaseOrder :=
  (p.exceptionFlag.filter fun f => decide (f.category = atRiskPoCategory) && f.isOpen).flatMap fun f =>
    p.world.purchaseOrder.filter fun po => some po.id = f.purchaseOrderId

/-- `received`: the orders of a supplier that were received in the window, and how many of them on time. -/
def receivedCounts (p : Platform) (start last : Date) : Dict String (ℕ × ℕ) :=
  let receivedAt := receivedOn p.world.purchaseOrderLifecycleEvent
  Dict.ofList <| groupBy PurchaseOrder.supplierId
    (fun rows => (rows.length, rows.countP fun po => (receivedAt po.id).any (· ≤ po.expectedDeliveryDate))) <|
    p.world.purchaseOrder.filter fun po => (receivedAt po.id).any (between start last)

/-- `_suppliers`. -/
def overviewSuppliers (env : OverviewEnv) (p : Platform) (start last : Date) : List OverviewSupplier :=
  let placed := Dict.ofList <| groupBy PurchaseOrder.supplierId List.length <|
    p.world.purchaseOrder.filter fun po => between start last po.orderDate
  let openCounts := Dict.ofList <| groupBy PurchaseOrder.supplierId List.length <|
    p.world.purchaseOrder.filter (·.status.isOpen)
  let atRisk := Dict.ofList <| groupBy PurchaseOrder.supplierId List.length <| atRiskOrders p
  (env.suppliers.rows (p.world.master.supplier.filter (·.isActive))).map fun supplier =>
    let (total, onTime) := (receivedCounts p start last).getD supplier.id (0, 0)
    { supplierId := supplier.id
      purchaseOrdersPlaced := placed.getD supplier.id 0
      purchaseOrdersReceived := total
      receivedOnTime := onTime
      onTimeReceiptPct := if total = 0 then none else some (roundHalfAway 1 (onTime * 100 / total))
      openPurchaseOrders := openCounts.getD supplier.id 0
      atRiskPurchaseOrders := atRisk.getD supplier.id 0 }

def topProductCount : ℕ := 8

/-- `_top_products`. -/
def topProducts (env : OverviewEnv) (w : World) (start last : Date) : List OverviewProductDemand :=
  let lines := (w.salesOrder.filter fun so => between start last so.orderDate).flatMap (·.lines)
  let products := w.master.product.map (·.id)
  let sums := groupBy SalesOrderLine.productId
    (fun rows => ((rows.map (·.quantityOrdered)).sum, (rows.map (·.quantityShipped)).sum)) <|
    lines.filter fun l => decide (l.productId ∈ products)
  (env.products.rows (sums.map fun row => ⟨row.1, row.2.1, row.2.2⟩)).take topProductCount

/-- The first and the number of the days that are shown. -/
def overviewWindow (ticks : List ScheduledTick) (asOf : Date) (days : ℤ) : Date × ℤ :=
  let start := asOf - (days - 1)
  match (ticks.map (·.simulationDate)).min? with
  | none => (start, days)
  | some firstRecorded =>
    if start < firstRecorded then (min firstRecorded asOf, asOf - min firstRecorded asOf + 1) else (start, days)

/-- `build_overview`; `clock` is the date in `simulation_clock`. No date comes before the first. -/
def buildOverview (env : OverviewEnv) (clock : Option Date) (today : Date) (ticks : List ScheduledTick)
    (p : Platform) (days : ℤ) : Except OverviewError OverviewRead :=
  if days < 1 then .error (.valueError "days must be at least 1")
  else
    let asOf := clock.getD today
    if asOf - (days - 1) < 1 then .error .overflowError
    else
      let (start, days) := overviewWindow ticks asOf days
      let detected := Dict.ofList <| groupBy ExceptionFlag.firstDetectedSimulationDate List.length <|
        p.exceptionFlag.filter fun f => between start asOf f.firstDetectedSimulationDate
      .ok {
        asOf := asOf
        windowStart := start
        windowDays := days
        kpiTrend := env.kpis.rows (p.kpis.kpiSnapshot.filter fun k => between start asOf k.simulationDate)
        dailyActivity := dailyActivity p.world start asOf
        salesOrderStatus := env.statuses.rows <| groupBy SalesOrder.status List.length <|
          p.world.salesOrder.filter fun so => between start asOf so.orderDate
        shipmentDelivery := shipmentBreakdown p.world start asOf
        inventoryByWarehouse := inventoryByWarehouse env p
        suppliers := overviewSuppliers env p start asOf
        topProducts := topProducts env p.world start asOf
        openExceptionsByCategory := env.categories.rows <| groupBy ExceptionFlag.category List.length <|
          p.exceptionFlag.filter (·.isOpen)
        newExceptionsPerDay := (List.range days.toNat).map fun n : ℕ =>
          ⟨start + n, detected.getD (start + n) 0⟩ }

/-! ## The days -/

/-- The days from `start` through `last`, each once and in order. -/
structure ListsDays (start last : Date) (days : List Date) : Prop where
  sorted : days.Pairwise (· < ·)
  days : ∀ d, d ∈ days ↔ start ≤ d ∧ d ≤ last

theorem between_iff {start last date : Date} : between start last date = true ↔ start ≤ date ∧ date ≤ last :=
  decide_eq_true_iff

theorem listsDays_axis (start last : Date) : ListsDays start last (axis start last) := by
  constructor
  case sorted =>
    refine List.pairwise_map.2 (List.pairwise_lt_range.imp fun lt => ?_)
    unfold Date at *
    omega
  case days =>
    intro d
    rw [axis, List.mem_map]
    constructor
    · rintro ⟨n, mem, rfl⟩
      have lt := List.mem_range.1 mem
      unfold Date at *
      omega
    · rintro ⟨first, le⟩
      refine ⟨(d - start).toNat, List.mem_range.2 ?_, ?_⟩
      · unfold Date at *
        omega
      · unfold Date at *
        omega

theorem axis_nodup (start last : Date) : (axis start last).Nodup :=
  (listsDays_axis start last).sorted.imp fun lt => ne_of_lt lt

theorem length_axis (start last : Date) : (axis start last).length = (last - start + 1).toNat := by
  rw [axis, List.length_map, List.length_range]

/-- The days of `new_exceptions_per_day` are those of the axis. -/
theorem axis_of_days {start last : Date} {days : ℤ} (all : last - start + 1 = days) :
    ((List.range days.toNat).map fun n : ℕ => start + (n : ℤ)) = axis start last := by
  rw [axis, all]

/-- The rows of a window, counted day by day. -/
theorem sum_days {ρ : Type} {date : ρ → Date} {start last : Date} (rows : List ρ) :
    ((axis start last).map fun day =>
      ((rows.filter fun r => between start last (date r)).filter fun r => date r = day).length).sum =
      (rows.filter fun r => between start last (date r)).length := by
  refine sum_axis (axis_nodup start last) fun r mem => ?_
  exact ((listsDays_axis start last).days _).2 (between_iff.1 (List.mem_filter.1 mem).2)

/-! ## The figures -/

section Figures

variable {w : World} {start last : Date}

theorem dailyActivity_days : (dailyActivity w start last).map (·.simulationDate) = axis start last := by
  rw [dailyActivity, List.map_map]
  exact List.map_id _

theorem sum_ordersPlaced (wf : Wf w) : ((dailyActivity w start last).map (·.ordersPlaced)).sum =
    (w.salesOrder.filter fun so => between start last so.orderDate).length := by
  rw [← sum_days, dailyActivity, List.map_map]
  congr 1
  refine List.map_congr_left fun day _ => (getD_groupBy day rfl).trans ?_
  have ids : Keyed SalesOrder.id ((w.salesOrder.filter fun so => between start last so.orderDate).filter
      fun so => so.orderDate = day) :=
    (wf.salesOrder.sublist (List.filter_sublist.map _)).sublist (List.filter_sublist.map _)
  rw [ids.dedup, List.length_map]

theorem sum_shipmentsShipped : ((dailyActivity w start last).map (·.shipmentsShipped)).sum =
    (w.shipment.filter fun s => between start last s.shipDate).length := by
  rw [← sum_days, dailyActivity, List.map_map]
  congr 1
  exact List.map_congr_left fun day _ => getD_groupBy day rfl

/-- A delivered shipment has a delivery date. -/
def Dated (s : Shipment) : Prop := s.status = .delivered → s.actualDeliveryDate.isSome = true

/-- Each shipment is counted in one part of the breakdown. -/
theorem one_part {s : Shipment} (dated : Dated s) :
    (if s.status = .delivered ∧ onTime s = some true then 1 else 0) +
      (if s.status = .delivered ∧ onTime s = some false then 1 else 0) +
      (if s.status = .pending ∨ s.status = .inTransit then 1 else 0) +
      (if s.status = .exception then 1 else 0) = 1 := by
  cases status : s.status with
  | pending => simp
  | inTransit => simp
  | exception => simp
  | delivered =>
    obtain ⟨actual, here⟩ := Option.isSome_iff_exists.1 (dated status)
    have known : onTime s = some (decide (actual ≤ s.promisedDeliveryDate)) := by
      rw [onTime, here, Option.map_some]
    rw [known]
    by_cases early : actual ≤ s.promisedDeliveryDate
    · simp [early]
    · simp [early]

theorem sum_breakdown (dated : ∀ s ∈ w.shipment, Dated s) :
    (shipmentBreakdown w start last).deliveredOnTime + (shipmentBreakdown w start last).deliveredLate +
      (shipmentBreakdown w start last).inProgress + (shipmentBreakdown w start last).exception =
      (w.shipment.filter fun s => between start last s.shipDate).length := by
  have dated : ∀ s ∈ w.shipment.filter fun s => between start last s.shipDate, Dated s :=
    fun s mem => dated s (List.mem_filter.1 mem).1
  unfold shipmentBreakdown
  dsimp only
  generalize w.shipment.filter (fun s => between start last s.shipDate) = rows at dated
  induction rows with
  | nil => rfl
  | cons s rows ih =>
    have rest := ih fun r mem => dated r (List.mem_cons_of_mem _ mem)
    have one := one_part (dated s List.mem_cons_self)
    simp only [List.countP_cons, List.length_cons, decide_eq_true_eq]
    omega

theorem receivedCounts_le (p : Platform) (supplierId : String) :
    ((receivedCounts p start last).getD supplierId (0, 0)).2 ≤
      ((receivedCounts p start last).getD supplierId (0, 0)).1 := by
  have counts : (receivedCounts p start last).getD supplierId (0, 0) = _ := getD_groupBy supplierId rfl
  rw [counts]
  exact List.countP_le_length

theorem receivedOnTime_le (env : OverviewEnv) (p : Platform) {supplier : OverviewSupplier}
    (mem : supplier ∈ overviewSuppliers env p start last) :
    supplier.receivedOnTime ≤ supplier.purchaseOrdersReceived := by
  obtain ⟨row, -, rfl⟩ := List.mem_map.1 mem
  exact receivedCounts_le p row.id

end Figures

/-! ## The window -/

section Window

variable {ticks : List ScheduledTick} {asOf : Date} {days : ℤ}

/-- The first day of the history of ticks. -/
def FirstRecorded (ticks : List ScheduledTick) (d : Date) : Prop := IsLeast {d | ∃ t ∈ ticks, t.simulationDate = d} d

theorem firstRecorded_iff {d : Date} :
    (ticks.map (·.simulationDate)).min? = some d ↔ FirstRecorded ticks d := by
  rw [List.min?_eq_some_iff, List.mem_map]
  refine and_congr_right fun _ => ?_
  constructor
  · rintro least _ ⟨t, mem, rfl⟩
    exact least _ (List.mem_map_of_mem mem)
  · rintro least _ mem
    obtain ⟨t, ticked, rfl⟩ := List.mem_map.1 mem
    exact least ⟨t, ticked, rfl⟩

theorem overviewWindow_days (one : 1 ≤ days) : (overviewWindow ticks asOf days).1 ≤ asOf ∧
    (overviewWindow ticks asOf days).2 = asOf - (overviewWindow ticks asOf days).1 + 1 := by
  unfold overviewWindow
  dsimp only
  split
  · unfold Date at *
    omega
  · split
    · exact ⟨min_le_right _ _, rfl⟩
    · unfold Date at *
      omega

/-- A history that starts later than the window that is asked for. -/
theorem overviewWindow_of_later {first : Date} (recorded : FirstRecorded ticks first) (later : asOf - (days - 1) < first) :
    (overviewWindow ticks asOf days).1 = min first asOf := by
  rw [overviewWindow, firstRecorded_iff.2 recorded]
  exact congrArg Prod.fst (if_pos later)

theorem overviewWindow_of_early (early : ∀ first, FirstRecorded ticks first → first ≤ asOf - (days - 1)) :
    overviewWindow ticks asOf days = (asOf - (days - 1), days) := by
  unfold overviewWindow
  dsimp only
  split
  · rfl
  · rename_i first recorded
    exact if_neg (not_lt.2 (early first (firstRecorded_iff.1 recorded)))

end Window

/-! ## The answer -/

/-- The figures of an answer fit together. -/
structure Reconciled (o : OverviewRead) : Prop where
  daily : ListsDays o.windowStart o.asOf (o.dailyActivity.map (·.simulationDate))
  dailyLength : o.dailyActivity.length = o.windowDays
  exceptions : ListsDays o.windowStart o.asOf (o.newExceptionsPerDay.map (·.simulationDate))
  exceptionsLength : o.newExceptionsPerDay.length = o.windowDays
  orders : (o.dailyActivity.map (·.ordersPlaced)).sum = (o.salesOrderStatus.map Prod.snd).sum
  shipments : (o.dailyActivity.map (·.shipmentsShipped)).sum =
    o.shipmentDelivery.deliveredOnTime + o.shipmentDelivery.deliveredLate + o.shipmentDelivery.inProgress +
      o.shipmentDelivery.exception
  suppliers : ∀ supplier ∈ o.suppliers, supplier.receivedOnTime ≤ supplier.purchaseOrdersReceived

section Answer

variable {env : OverviewEnv} {clock : Option Date} {today : Date} {ticks : List ScheduledTick} {p : Platform}
  {days : ℤ} {o : OverviewRead}

/-- The window is a number of days that dates can reach. -/
theorem buildOverview_ok (one : 1 ≤ days) (reachable : 1 ≤ clock.getD today - (days - 1)) :
    ∃ o, buildOverview env clock today ticks p days = .ok o := by
  unfold buildOverview
  rw [if_neg (not_lt.2 one)]
  dsimp only
  rw [if_neg (not_lt.2 reachable)]
  exact ⟨_, rfl⟩

theorem buildOverview_overflow (one : 1 ≤ days) (before : clock.getD today - (days - 1) < 1) :
    buildOverview env clock today ticks p days = .error .overflowError := by
  unfold buildOverview
  rw [if_neg (not_lt.2 one)]
  exact if_pos before

theorem buildOverview_window (answer : buildOverview env clock today ticks p days = .ok o) :
    1 ≤ days ∧ o.asOf = clock.getD today ∧ (o.windowStart, o.windowDays) = overviewWindow ticks o.asOf days := by
  unfold buildOverview at answer
  split at answer
  · cases answer
  · rename_i one
    dsimp only at answer
    split at answer
    · cases answer
    · cases answer
      exact ⟨not_lt.1 one, rfl, rfl⟩

theorem reconciled_of_answer (wf : Wf p.world) (dated : ∀ s ∈ p.world.shipment, Dated s)
    (answer : buildOverview env clock today ticks p days = .ok o) : Reconciled o := by
  obtain ⟨one, -, window⟩ := buildOverview_window answer
  have ends := @overviewWindow_days ticks o.asOf days one
  rw [← window] at ends
  unfold buildOverview at answer
  split at answer
  · cases answer
  dsimp only at answer
  split at answer
  · cases answer
  cases answer
  obtain ⟨le, all⟩ := ends
  dsimp only at le all
  have count : ((overviewWindow ticks (clock.getD today) days).2.toNat : ℤ) =
      (overviewWindow ticks (clock.getD today) days).2 := by
    refine Int.toNat_of_nonneg ?_
    unfold Date at *
    omega
  constructor
  case daily =>
    rw [dailyActivity_days]
    exact listsDays_axis _ _
  case dailyLength =>
    rw [← List.length_map (f := fun day : OverviewDailyActivity => day.simulationDate), dailyActivity_days, length_axis,
      ← all]
    exact count
  case exceptions =>
    dsimp only
    rw [List.map_map]
    exact axis_of_days all.symm ▸ listsDays_axis _ _
  case exceptionsLength =>
    rw [List.length_map, List.length_range]
    exact count
  case orders =>
    dsimp only
    rw [sum_ordersPlaced wf, ((env.statuses.perm _).map Prod.snd).sum_eq]
    exact sum_groupBy.symm
  case shipments => exact sum_shipmentsShipped.trans (sum_breakdown dated).symm
  case suppliers => exact fun supplier mem => receivedOnTime_le env p mem

end Answer

end MeadowOps.Dashboard
