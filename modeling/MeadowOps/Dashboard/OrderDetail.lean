import MeadowOps.Lib.Listing
import MeadowOps.Simulation.Ticks

/-!
# The order pages of `app/api/dashboard.py`

The lifecycle events are read in the order of `occurred_at`. Its default is now(), the time at which the
transaction that writes the row was started, so a row is known by its event and by its transaction.
-/

namespace MeadowOps.Dashboard

open Db Lib MeadowOps.Flow Scheduler Exceptions Simulation

/-- The transaction that wrote a row: a tick, or a rebuild of some days. -/
inductive Writer where
  | tick
  | repopulation (historyDays : ℤ)
  deriving DecidableEq, Repr

/-- A row of a lifecycle table. The writer is no column. -/
structure EventRow (S : Type) where
  event : LifecycleEvent S
  occurredAt : Instant
  writer : Writer
  deriving DecidableEq, Repr

/-- The committed tables, and the events with their times. -/
structure CommittedWorld where
  db : Database Platform
  purchaseOrderLifecycleEvent : List (EventRow PurchaseOrderStatus)
  salesOrderLifecycleEvent : List (EventRow SalesOrderStatus)

/-! ## The two pages -/

/-- `PurchaseOrderLifecycleEventRead` and `SalesOrderLifecycleEventRead`. -/
structure LifecycleEventRead (S : Type) where
  fromStatus : Option S
  toStatus : S
  occurredAt : Instant
  simulationDate : Date

def EventRow.read {S : Type} (r : EventRow S) : LifecycleEventRead S where
  fromStatus := r.event.fromStatus
  toStatus := r.event.toStatus
  occurredAt := r.occurredAt
  simulationDate := r.event.simulationDate

/-- The rows of an order. -/
def eventRowsOf {S : Type} (orderId : Uuid) (rows : List (EventRow S)) : List (EventRow S) :=
  rows.filter fun r => r.event.orderId = orderId

structure HttpException where
  statusCode : ℕ
  detail : String
  deriving DecidableEq, Repr

structure PurchaseOrderDetailRead where
  summary : PurchaseOrder
  isAtRisk : Bool
  lines : List PurchaseOrderLine
  lifecycleEvents : List (LifecycleEventRead PurchaseOrderStatus)

structure ShipmentRead where
  shipment : Shipment
  isLate : Bool

structure SalesOrderDetailRead where
  summary : SalesOrder
  lines : List SalesOrderLine
  lifecycleEvents : List (LifecycleEventRead SalesOrderStatus)
  shipments : List ShipmentRead

/-- An open flag of an order that is at risk. -/
def isAtRisk (purchaseOrderId : Uuid) (flags : List ExceptionFlag) : Bool :=
  flags.any fun f =>
    decide (f.category = atRiskPoCategory ∧ f.purchaseOrderId = some purchaseOrderId) && f.isOpen

/-- `get_purchase_order_detail`. -/
def getPurchaseOrderDetail (lines : RowOrder PurchaseOrderLine)
    (events : OrderedBy (EventRow.occurredAt (S := PurchaseOrderStatus))) (s : CommittedWorld)
    (purchaseOrderId : Uuid) : Except HttpException PurchaseOrderDetailRead :=
  match lookup PurchaseOrder.id purchaseOrderId s.db.tables.world.purchaseOrder with
  | none => .error ⟨404, "Purchase order not found"⟩
  | some po => .ok {
      summary := po
      isAtRisk := isAtRisk purchaseOrderId s.db.tables.exceptionFlag
      lines := lines.rows po.lines
      lifecycleEvents :=
        (events.rows (eventRowsOf purchaseOrderId s.purchaseOrderLifecycleEvent)).map EventRow.read }

/-- `_shipment_read`. -/
def shipmentRead (shipment : Shipment) : ShipmentRead where
  shipment := shipment
  isLate := shipment.actualDeliveryDate.any fun actual => decide (shipment.promisedDeliveryDate < actual)

/-- `get_sales_order_detail`. -/
def getSalesOrderDetail (lines : RowOrder SalesOrderLine)
    (events : OrderedBy (EventRow.occurredAt (S := SalesOrderStatus))) (shipments : RowOrder Shipment)
    (s : CommittedWorld) (salesOrderId : Uuid) : Except HttpException SalesOrderDetailRead :=
  match lookup SalesOrder.id salesOrderId s.db.tables.world.salesOrder with
  | none => .error ⟨404, "Sales order not found"⟩
  | some so => .ok {
      summary := so
      lines := lines.rows so.lines
      lifecycleEvents :=
        (events.rows (eventRowsOf salesOrderId s.salesOrderLifecycleEvent)).map EventRow.read
      shipments := (shipments.rows (shipmentsOf s.db.tables.world salesOrderId)).map shipmentRead }

/-! ## The transactions that write events -/

/-- The log after a tick: the rows it has added carry the start of its transaction. -/
def afterTick {S : Type} (start : Instant) (before : List (EventRow S)) (events : List (LifecycleEvent S)) :
    List (EventRow S) :=
  before ++ (events.drop before.length).map fun e => ⟨e, start, .tick⟩

/-- The log after a rebuild, which has deleted the rows before it. -/
def afterRepopulation {S : Type} (start : Instant) (historyDays : ℤ) (events : List (LifecycleEvent S)) :
    List (EventRow S) :=
  events.map fun e => ⟨e, start, .repopulation historyDays⟩

/-- What the job has committed when it returns or raises. -/
def rebuildNext (s : CommittedWorld) (start : Instant) (historyDays : ℤ) :
    Except PlatformError String × Database Platform → CommittedWorld
  | (.error _, db) => { s with db := db }
  | (.ok _, db) =>
    { db := db
      purchaseOrderLifecycleEvent :=
        afterRepopulation start historyDays db.tables.world.purchaseOrderLifecycleEvent
      salesOrderLifecycleEvent :=
        afterRepopulation start historyDays db.tables.world.salesOrderLifecycleEvent }

inductive CommitLabel where
  | tick (start : Instant) (env : DayEnv) (lagDays : ℤ) (faults : TickFaults)
  | repopulate (start : Instant) (env : RepopulateEnv) (today : Date) (historyDays : ℤ)
  /-- Any edit of the master data. -/
  | edit (m : Master)
  /-- The clock is paused, resumed or moved. -/
  | clock (c : SimulationClock)

/-- What is committed next. -/
def commitNext (s : CommittedWorld) : CommitLabel → CommittedWorld
  | .tick start env lagDays faults =>
    let db := tickOf env lagDays faults s.db
    { db := db
      purchaseOrderLifecycleEvent :=
        afterTick start s.purchaseOrderLifecycleEvent db.tables.world.purchaseOrderLifecycleEvent
      salesOrderLifecycleEvent :=
        afterTick start s.salesOrderLifecycleEvent db.tables.world.salesOrderLifecycleEvent }
  | .repopulate start env today historyDays =>
    rebuildNext s start historyDays (repopulateWork env today historyDays s.db)
  | .edit m =>
    { s with db := { s.db with tables := { s.db.tables with world := { s.db.tables.world with master := m } } } }
  | .clock c => { s with db := { s.db with clock := c } }

/-- No operational row. -/
structure Fresh (s : CommittedWorld) : Prop where
  world : EmptyWorld s.db.tables.world
  purchases : s.purchaseOrderLifecycleEvent = []
  sales : s.salesOrderLifecycleEvent = []

def committedRuns : System CommittedWorld CommitLabel where
  init := Fresh
  step s l s' := s' = commitNext s l

end MeadowOps.Dashboard
