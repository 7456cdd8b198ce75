import MeadowOps.Db.Enums
import MeadowOps.Lib.Table
import Mathlib.Data.Rat.Defs

/-!
# The operational tables of the `live` schema

The rows of `app/db/dimensions.py`, `facts.py` and `scheduling.py` that the scheduled flow reads
or writes. An order row carries its lines: `purchase_order_line.purchase_order_id` and
`sales_order_line.sales_order_id` are NOT NULL foreign keys, and the flow only reaches a line
through its order. Tags no modelled function reads (`source_system`, names, costs, the surrogate
ids of lines, snapshots and stock movements) are left out.
-/

namespace MeadowOps.Db

/-- A calendar day, as its ordinal. -/
abbrev Date := ℤ

/-- A point in time, in microseconds. -/
abbrev Instant := ℤ

/-- `uuid.UUID.int`. -/
abbrev Uuid := ℕ

/-- `_sim_datetime`: midnight UTC of a day. -/
def simDatetime (d : Date) : Instant := d * 86400000000

structure Product where
  id : String
  category : ProductCategory
  isActive : Bool
  deriving DecidableEq, Repr

structure Warehouse where
  id : String
  isActive : Bool
  deriving DecidableEq, Repr

structure Supplier where
  id : String
  categoryFocus : String
  baseLeadTimeDays : ℤ
  leadTimeVariability : Variability
  isActive : Bool
  deriving DecidableEq, Repr

structure Customer where
  id : String
  warehouseId : String
  isActive : Bool
  deriving DecidableEq, Repr

structure Carrier where
  id : String
  transitDaysMin : ℚ
  transitDaysMax : ℚ
  variability : Variability
  reliabilityPct : ℚ
  isActive : Bool
  deriving DecidableEq, Repr

/-- The dimension tables. The flow only reads them. -/
structure Master where
  product : List Product
  warehouse : List Warehouse
  supplier : List Supplier
  customer : List Customer
  carrier : List Carrier
  deriving DecidableEq, Repr

structure PurchaseOrderLine where
  productId : String
  quantityOrdered : ℤ
  quantityReceived : ℤ
  deriving DecidableEq, Repr

structure PurchaseOrder where
  id : Uuid
  poNumber : String
  supplierId : String
  warehouseId : String
  orderDate : Date
  expectedDeliveryDate : Date
  status : PurchaseOrderStatus
  lines : List PurchaseOrderLine
  deriving DecidableEq, Repr

structure SalesOrderLine where
  productId : String
  quantityOrdered : ℤ
  quantityShipped : ℤ
  deriving DecidableEq, Repr

structure SalesOrder where
  id : Uuid
  soNumber : String
  customerId : String
  warehouseId : String
  orderDate : Date
  requestedDate : Date
  promisedDate : Option Date
  status : SalesOrderStatus
  lines : List SalesOrderLine
  deriving DecidableEq, Repr

structure Shipment where
  id : Uuid
  salesOrderId : Uuid
  carrierId : String
  warehouseId : String
  shipDate : Date
  promisedDeliveryDate : Date
  actualDeliveryDate : Option Date
  status : ShipmentStatus
  deriving DecidableEq, Repr

structure WarehouseTransfer where
  id : Uuid
  productId : String
  fromWarehouseId : String
  toWarehouseId : String
  quantity : ℤ
  transferDate : Date
  status : TransferStatus
  deriving DecidableEq, Repr

/-- One row of the stock ledger. Rows are only ever inserted. -/
structure InventoryTransaction where
  transactionAt : Instant
  productId : String
  warehouseId : String
  transactionType : InventoryTransactionType
  quantityDelta : ℤ
  referenceType : Option String
  referenceId : Option Uuid
  deriving DecidableEq, Repr

structure InventorySnapshot where
  snapshotDate : Date
  productId : String
  warehouseId : String
  quantityOnHand : ℤ
  quantityAllocated : ℤ
  deriving DecidableEq, Repr

/-- A status transition of an order of status type `S`; `fromStatus` is null at creation. -/
structure LifecycleEvent (S : Type) where
  orderId : Uuid
  fromStatus : Option S
  toStatus : S
  simulationDate : Date
  deriving DecidableEq, Repr

structure ScheduledTick where
  simulationDate : Date
  eventsGenerated : ℕ
  status : ScheduledTickStatus
  deriving DecidableEq, Repr

/-- The master data and every table the passes of the scheduled flow write. -/
structure World where
  master : Master
  purchaseOrder : List PurchaseOrder
  salesOrder : List SalesOrder
  shipment : List Shipment
  warehouseTransfer : List WarehouseTransfer
  inventoryTransaction : List InventoryTransaction
  inventorySnapshot : List InventorySnapshot
  purchaseOrderLifecycleEvent : List (LifecycleEvent PurchaseOrderStatus)
  salesOrderLifecycleEvent : List (LifecycleEvent SalesOrderStatus)
  deriving DecidableEq, Repr

/-- Master data and no operational row. -/
def World.empty (m : Master) : World :=
  ⟨m, [], [], [], [], [], [], [], []⟩

/-- The shipments that reference an order. -/
def shipmentsOf (w : World) (orderId : Uuid) : List Shipment :=
  w.shipment.filter (·.salesOrderId = orderId)

end MeadowOps.Db
