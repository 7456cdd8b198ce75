/-!
# The enumerations of `app/db/enums.py`

Every member of the source is kept, also those the scheduled flow never writes (`draft`,
`cancelled`, `exception`), since rows may be read that carry them.
-/

namespace MeadowOps.Db

inductive ProductCategory where
  | corrugatedPackaging
  | protectivePackaging
  | shippingLabelingSupplies
  deriving DecidableEq, Repr

/-- The column's value. -/
def ProductCategory.value : ProductCategory → String
  | .corrugatedPackaging => "corrugated_packaging"
  | .protectivePackaging => "protective_packaging"
  | .shippingLabelingSupplies => "shipping_labeling_supplies"

inductive Variability where
  | low
  | medium
  | high
  deriving DecidableEq, Repr

inductive PurchaseOrderStatus where
  | draft
  | submitted
  | confirmed
  | partiallyReceived
  | received
  | cancelled
  deriving DecidableEq, Repr

inductive SalesOrderStatus where
  | draft
  | submitted
  | allocated
  | partiallyShipped
  | shipped
  | cancelled
  deriving DecidableEq, Repr

inductive ShipmentStatus where
  | pending
  | inTransit
  | delivered
  | exception
  deriving DecidableEq, Repr

inductive TransferStatus where
  | pending
  | inTransit
  | completed
  | cancelled
  deriving DecidableEq, Repr

inductive InventoryTransactionType where
  | receipt
  | shipment
  | adjustment
  | transferIn
  | transferOut
  | cycleCount
  deriving DecidableEq, Repr

inductive ScheduledTickStatus where
  | success
  | failed
  deriving DecidableEq, Repr

/-- `SUBMITTED`, `CONFIRMED`, `PARTIALLY_RECEIVED`: the open purchase orders. -/
def PurchaseOrderStatus.isOpen : PurchaseOrderStatus → Bool
  | .submitted | .confirmed | .partiallyReceived => true
  | _ => false

/-- `SUBMITTED`, `ALLOCATED`, `PARTIALLY_SHIPPED`: the open sales orders. -/
def SalesOrderStatus.isOpen : SalesOrderStatus → Bool
  | .submitted | .allocated | .partiallyShipped => true
  | _ => false

/-- `ALLOCATED`, `PARTIALLY_SHIPPED`: stock is promised to the order. -/
def SalesOrderStatus.isAllocated : SalesOrderStatus → Bool
  | .allocated | .partiallyShipped => true
  | _ => false

/-- `PENDING`, `IN_TRANSIT`: the transfer has left its source and not arrived. -/
def TransferStatus.inFlight : TransferStatus → Bool
  | .pending | .inTransit => true
  | _ => false

/-- `PENDING`, `IN_TRANSIT`: the shipment is on its way. -/
def ShipmentStatus.inFlight : ShipmentStatus → Bool
  | .pending | .inTransit => true
  | _ => false

end MeadowOps.Db
