import MeadowOps.Flow.Decisions
import MeadowOps.Lib.Program
import MeadowOps.Lib.Dict
import Mathlib.Data.List.Sort

/-!
# The passes of `app/services/scheduled_flow.py`

A pass is a program over the operational tables. The loops of the source walk rows loaded at the
start of the pass; the session keeps one object per primary key, so the row an iteration works on
is the current row of that key (`lookup`). A SELECT sees the pending writes of its own tick
(autoflush), and an INSERT that breaks a primary key or a unique number raises.

`TickEnv` is what the code does not decide: the generators, the ids the database generates, and
the order of the rows of every unordered query of one tick.
-/

namespace MeadowOps.Flow

open Db Lib

def reorderSafetyDays : ℤ := 14
def reorderTargetDaysOfSupply : ℤ := 30
def newOrderProbabilityPerCustomer : ℚ := 15 / 100
def genericPromiseDays : ℤ := 2
def warehouseTransferTransitDays : ℤ := 2

structure TickEnv where
  rng : Date → Purpose → Rng
  /-- Generated keys, by what the row is created for. -/
  purchaseOrderId : String → String → Uuid
  purchaseOrderHex : String → String → String
  transferId : String → String → Uuid
  salesOrderId : String → Uuid
  salesOrderHex : String → String
  shipmentId : Uuid → Uuid
  /-- Row orders, by the query. -/
  openPurchaseOrders : RowOrder PurchaseOrder
  purchaseOrderLines : Uuid → RowOrder PurchaseOrderLine
  inFlightTransfers : RowOrder WarehouseTransfer
  transferProducts : RowOrder Product
  /-- `ORDER BY warehouse.id` under the database's collation. -/
  warehousesById : RowOrder Warehouse
  purchaseProducts : RowOrder Product
  purchaseWarehouses : RowOrder Warehouse
  suppliers : RowOrder Supplier
  inFlightShipments : RowOrder Shipment
  openSalesOrders : RowOrder SalesOrder
  salesOrderLines : Uuid → RowOrder SalesOrderLine
  carriers : RowOrder Carrier
  customers : RowOrder Customer
  demandProducts : RowOrder Product
  snapshotProducts : RowOrder Product
  snapshotWarehouses : RowOrder Warehouse

/-- The number a text stands for. -/
def textId (s : String) : Uuid := s.toList.foldl (fun n c => n * 1114112 + c.toNat) 1

/-- Rows in insertion order, and ids taken from what the row is created for. -/
def TickEnv.inOrder (rng : Date → Purpose → Rng) : TickEnv where
  rng := rng
  purchaseOrderId p wh := textId (p ++ "@" ++ wh)
  purchaseOrderHex p wh := p ++ "@" ++ wh
  transferId p wh := textId (p ++ "@" ++ wh)
  salesOrderId customer := textId customer
  salesOrderHex customer := customer
  shipmentId so := so
  openPurchaseOrders := .inserted
  purchaseOrderLines _ := .inserted
  inFlightTransfers := .inserted
  transferProducts := .inserted
  warehousesById := .inserted
  purchaseProducts := .inserted
  purchaseWarehouses := .inserted
  suppliers := .inserted
  inFlightShipments := .inserted
  openSalesOrders := .inserted
  salesOrderLines _ := .inserted
  carriers := .inserted
  customers := .inserted
  demandProducts := .inserted
  snapshotProducts := .inserted
  snapshotWarehouses := .inserted

/-- 22 April 2024, from which runs on fixed inputs count their days. -/
def monday : Date := 738998

/-- A program of the flow. -/
abbrev Pass := EStateM FlowError World

/-! ## Queries -/

/-- The ledger sum of a pair. -/
def inventoryPosition (ledger : List InventoryTransaction) (p wh : String) : ℤ :=
  sumWhere (fun t => t.productId = p ∧ t.warehouseId = wh) (·.quantityDelta) ledger

def currentInventoryPosition (w : World) (p wh : String) : ℤ :=
  inventoryPosition w.inventoryTransaction p wh

def avgDailyShippedDemand (w : World) (p wh : String) (asOf : Date) : ℚ :=
  let windowStart := simDatetime (asOf - demandLookbackDays)
  let totalShipped := sumWhere
    (fun t => t.productId = p ∧ t.warehouseId = wh ∧ t.transactionType = .shipment ∧
      windowStart ≤ t.transactionAt) (fun t => -t.quantityDelta) w.inventoryTransaction
  (totalShipped : ℚ) / demandLookbackDays

def hasOpenPurchaseOrder (w : World) (p wh : String) : Bool :=
  w.purchaseOrder.any fun po =>
    po.lines.any (·.productId = p) && decide (po.warehouseId = wh) && po.status.isOpen

def hasOpenInboundTransfer (w : World) (p wh : String) : Bool :=
  w.warehouseTransfer.any fun t =>
    decide (t.productId = p ∧ t.toWarehouseId = wh) && t.status.inFlight

/-- What an order still wants of a product. -/
def openQuantity (p : String) (so : SalesOrder) : ℤ :=
  sumWhere (·.productId = p) (fun l => l.quantityOrdered - l.quantityShipped) so.lines

/-- The quantity of a pair promised to orders in `ALLOCATED` or `PARTIALLY_SHIPPED`. -/
def allocatedQuantity (w : World) (p wh : String) : ℤ :=
  sumWhere (fun so => so.warehouseId = wh ∧ so.status.isAllocated = true) (openQuantity p) w.salesOrder

/-! ## `_progress_purchase_orders` -/

def PurchaseOrderLine.remaining (l : PurchaseOrderLine) : ℤ := l.quantityOrdered - l.quantityReceived

/-- What arrives of a line whose positive remainder is `remaining`. -/
def receiveQuantity (fraction : Option ℚ) (remaining : ℤ) : ℤ :=
  min (match fraction with
    | none => remaining
    | some f => max 1 (pyInt (remaining * f))) remaining

def receiveLine (fraction : Option ℚ) (l : PurchaseOrderLine) : PurchaseOrderLine :=
  let remaining := PurchaseOrderLine.remaining l
  if remaining ≤ 0 then l
  else { l with quantityReceived := l.quantityReceived + receiveQuantity fraction remaining }

def receiptOf (d : Date) (po : PurchaseOrder) (fraction : Option ℚ) (l : PurchaseOrderLine) :
    Option InventoryTransaction :=
  let remaining := PurchaseOrderLine.remaining l
  if remaining ≤ 0 then none
  else some {
    transactionAt := simDatetime d
    productId := l.productId
    warehouseId := po.warehouseId
    transactionType := .receipt
    quantityDelta := receiveQuantity fraction remaining
    referenceType := some "purchase_order"
    referenceId := some po.id }

/-- The line arrives in full, or was already in. -/
def fullyReceives (fraction : Option ℚ) (l : PurchaseOrderLine) : Bool :=
  let remaining := PurchaseOrderLine.remaining l
  decide (remaining ≤ 0) || decide (remaining ≤ receiveQuantity fraction remaining)

/-- The order after its lines have received. -/
def receivedOrder (fraction : Option ℚ) (lines : List PurchaseOrderLine) (po : PurchaseOrder) :
    PurchaseOrder := { po with
  status := if lines.all (fullyReceives fraction) then .received else .partiallyReceived
  lines := lines.map (receiveLine fraction) }

/-- The order after this tick and the receipts it writes; `none` where the source `continue`s. -/
def purchaseOrderStep (env : TickEnv) (d : Date) (po : PurchaseOrder) :
    Option (PurchaseOrder × List InventoryTransaction) :=
  if po.status = .submitted then some ({ po with status := .confirmed }, [])
  else if po.expectedDeliveryDate ≤ d then
    let lines := (env.purchaseOrderLines po.id).rows po.lines
    let fraction := rollPartialReceiptFraction (env.rng d (.poPartialReceipt po.id))
    some (receivedOrder fraction lines po, lines.filterMap (receiptOf d po fraction))
  else none

/-- One iteration. A second partial receipt in a row is no transition and logs no event. -/
def progressPurchaseOrder (env : TickEnv) (d : Date) (events : ℕ) (id : Uuid) : Pass ℕ := fun w =>
  match lookup (·.id) id w.purchaseOrder with
  | none => .ok events w
  | some po =>
    match purchaseOrderStep env d po with
    | none => .ok events w
    | some (po', receipts) =>
      let w := { w with
        purchaseOrder := modify (·.id) id (fun _ => po') w.purchaseOrder
        inventoryTransaction := w.inventoryTransaction ++ receipts }
      if po'.status = po.status then .ok events w
      else .ok (events + 1) { w with
        purchaseOrderLifecycleEvent := w.purchaseOrderLifecycleEvent ++
          [⟨po.id, some po.status, po'.status, d⟩] }

def progressPurchaseOrders (env : TickEnv) (d : Date) : Pass ℕ := do
  let w ← get
  let openPos := env.openPurchaseOrders.rows (w.purchaseOrder.filter (·.status.isOpen))
  (openPos.map (·.id)).foldlM (progressPurchaseOrder env d) 0

/-! ## `_progress_warehouse_transfers` -/

def progressWarehouseTransfer (d : Date) (events : ℕ) (id : Uuid) : Pass ℕ := fun w =>
  match lookup (·.id) id w.warehouseTransfer with
  | none => .ok events w
  | some t =>
    if t.status = .pending then
      .ok (events + 1) { w with
        warehouseTransfer :=
          modify (·.id) id (fun t => { t with status := .inTransit }) w.warehouseTransfer }
    else if t.transferDate + warehouseTransferTransitDays ≤ d then
      .ok (events + 1) { w with
        warehouseTransfer :=
          modify (·.id) id (fun t => { t with status := .completed }) w.warehouseTransfer
        inventoryTransaction := w.inventoryTransaction ++ [{
          transactionAt := simDatetime d
          productId := t.productId
          warehouseId := t.toWarehouseId
          transactionType := .transferIn
          quantityDelta := t.quantity
          referenceType := some "warehouse_transfer"
          referenceId := some t.id }] }
    else .ok events w

def progressWarehouseTransfers (env : TickEnv) (d : Date) : Pass ℕ := do
  let w ← get
  let inFlight := env.inFlightTransfers.rows (w.warehouseTransfer.filter (·.status.inFlight))
  (inFlight.map (·.id)).foldlM (progressWarehouseTransfer d) 0

/-! ## `_create_warehouse_transfers_if_needed` -/

/-- The dictionaries of one product's loop: positions are debited as transfers are created. -/
structure DonorPool where
  positions : String → ℤ
  created : ℕ

/-- The donors of a recipient with what each can spare. -/
def donorCandidates (warehouses : List Warehouse) (positions allocated : String → ℤ)
    (demands : String → ℚ) (recipient : String) : List (String × ℤ) :=
  (warehouses.filter fun donor => donor.id ≠ recipient).map fun donor =>
    (donor.id, transferableSurplus (positions donor.id) (allocated donor.id) (demands donor.id)
      reorderSafetyDays)

/-- One recipient warehouse of one product. -/
def createWarehouseTransfer (env : TickEnv) (d : Date) (product : Product)
    (warehouses : List Warehouse) (allocated : String → ℤ) (demands : String → ℚ)
    (pool : DonorPool) (warehouse : Warehouse) : Pass DonorPool := fun w =>
  if hasOpenPurchaseOrder w product.id warehouse.id ||
      hasOpenInboundTransfer w product.id warehouse.id then .ok pool w
  else
    let deficit :=
      warehouseDeficit (pool.positions warehouse.id) (demands warehouse.id) reorderSafetyDays
    if deficit ≤ 0 then .ok pool w
    else
      match pickTransferDonor
          (donorCandidates warehouses pool.positions allocated demands warehouse.id) with
      | none => .ok pool w
      | some (donorId, donorSurplus) =>
        let quantity := min deficit donorSurplus
        if quantity ≤ 0 then .ok pool w
        else
          let transfer : WarehouseTransfer := {
            id := env.transferId product.id warehouse.id
            productId := product.id
            fromWarehouseId := donorId
            toWarehouseId := warehouse.id
            quantity := quantity
            transferDate := d
            status := .pending }
          match insert? (·.id) transfer w.warehouseTransfer with
          | none => .error (.integrityError "warehouse_transfer_pkey") w
          | some transfers =>
            .ok ⟨fun wh => if wh = donorId then pool.positions donorId - quantity
                else pool.positions wh, pool.created + 1⟩
              { w with
                warehouseTransfer := transfers
                inventoryTransaction := w.inventoryTransaction ++ [{
                  transactionAt := simDatetime d
                  productId := product.id
                  warehouseId := donorId
                  transactionType := .transferOut
                  quantityDelta := -quantity
                  referenceType := some "warehouse_transfer"
                  referenceId := some transfer.id }] }

/-- One product: positions, allocations and demands are read once, before its recipients. -/
def createTransfersOfProduct (env : TickEnv) (d : Date) (warehouses : List Warehouse)
    (created : ℕ) (product : Product) : Pass ℕ := do
  let w ← get
  let pool ← warehouses.foldlM (createWarehouseTransfer env d product warehouses
    (allocatedQuantity w product.id) (avgDailyShippedDemand w product.id · d))
    ⟨currentInventoryPosition w product.id, created⟩
  pure pool.created

def createWarehouseTransfersIfNeeded (env : TickEnv) (d : Date) : Pass ℕ := do
  let w ← get
  let products := env.transferProducts.rows (w.master.product.filter (·.isActive))
  let warehouses := env.warehousesById.rows (w.master.warehouse.filter (·.isActive))
  products.foldlM (createTransfersOfProduct env d warehouses) 0

/-! ## `_create_purchase_orders_if_needed` -/

/-- The primary key and the unique `po_number`. -/
def insertPurchaseOrder? (po : PurchaseOrder) (rows : List PurchaseOrder) :
    Option (List PurchaseOrder) :=
  if po.poNumber ∈ rows.map (·.poNumber) then none else insert? (·.id) po rows

def createPurchaseOrder (env : TickEnv) (d : Date) (suppliers : List Supplier) (product : Product)
    (created : ℕ) (warehouse : Warehouse) : Pass ℕ := fun w =>
  if hasOpenPurchaseOrder w product.id warehouse.id ||
      hasOpenInboundTransfer w product.id warehouse.id then .ok created w
  else
    let position := currentInventoryPosition w product.id warehouse.id
    let demand := avgDailyShippedDemand w product.id warehouse.id d
    if !isBelowReorderPoint position demand reorderSafetyDays then .ok created w
    else
      match assignSupplier product.category suppliers with
      | .error e => .error e w
      | .ok supplier =>
        let leadTime := jitteredLeadTimeDays supplier.baseLeadTimeDays supplier.leadTimeVariability
          (env.rng d (.procurement product.id warehouse.id))
        let po : PurchaseOrder := {
          id := env.purchaseOrderId product.id warehouse.id
          poNumber := "PO-" ++ env.purchaseOrderHex product.id warehouse.id
          supplierId := supplier.id
          warehouseId := warehouse.id
          orderDate := d
          expectedDeliveryDate := d + leadTime
          status := .submitted
          lines := [⟨product.id, reorderQuantity demand reorderTargetDaysOfSupply, 0⟩] }
        match insertPurchaseOrder? po w.purchaseOrder with
        | none => .error (.integrityError "purchase_order") w
        | some rows =>
          .ok (created + 1) { w with
            purchaseOrder := rows
            purchaseOrderLifecycleEvent := w.purchaseOrderLifecycleEvent ++
              [⟨po.id, none, .submitted, d⟩] }

def createPurchaseOrdersIfNeeded (env : TickEnv) (d : Date) : Pass ℕ := do
  let w ← get
  let products := env.purchaseProducts.rows (w.master.product.filter (·.isActive))
  let warehouses := env.purchaseWarehouses.rows (w.master.warehouse.filter (·.isActive))
  let suppliers := env.suppliers.rows (w.master.supplier.filter (·.isActive))
  products.foldlM
    (fun created product => warehouses.foldlM (createPurchaseOrder env d suppliers product) created) 0

/-! ## `_progress_sales_orders_and_shipments` -/

def progressShipment (env : TickEnv) (progressed : ℕ) (d : Date) (id : Uuid) : Pass ℕ := fun w =>
  match lookup (·.id) id w.shipment with
  | none => .ok progressed w
  | some s =>
    if s.status = .pending then
      .ok (progressed + 1) { w with
        shipment := modify (·.id) id (fun s => { s with status := .inTransit }) w.shipment }
    else
      match lookup (·.id) s.carrierId w.master.carrier with
      | none => .error .attributeError w
      | some carrier =>
        let promisedTransitDays := s.promisedDeliveryDate - s.shipDate
        let actualTransitDays := carrierActualTransitDays promisedTransitDays carrier.variability
          carrier.reliabilityPct (env.rng s.shipDate (.carrierTransit s.id))
        let actualDeliveryDate := s.shipDate + actualTransitDays
        if actualDeliveryDate ≤ d then
          .ok (progressed + 1) { w with
            shipment := modify (·.id) id (fun s => { s with
              status := .delivered, actualDeliveryDate := some actualDeliveryDate }) w.shipment }
        else .ok progressed w

def progressShipments (env : TickEnv) (d : Date) : Pass ℕ := do
  let w ← get
  let inFlight := env.inFlightShipments.rows (w.shipment.filter (·.status.inFlight))
  (inFlight.map (·.id)).foldlM (fun progressed id => progressShipment env progressed d id) 0

def SalesOrderLine.remaining (l : SalesOrderLine) : ℤ := l.quantityOrdered - l.quantityShipped

/-- Every line is covered by the stock on hand of the order's warehouse. -/
def allAvailable (w : World) (so : SalesOrder) (lines : List SalesOrderLine) : Bool :=
  lines.all fun l =>
    decide (SalesOrderLine.remaining l ≤ currentInventoryPosition w l.productId so.warehouseId)

/-- The shipping loop over an order's lines: each line that the ledger covers ships in full.
Returns the lines, the ledger and whether a line shipped. -/
def shipLines (d : Date) (so : SalesOrder) :
    List SalesOrderLine → List InventoryTransaction →
      List SalesOrderLine × List InventoryTransaction × Bool
  | [], ledger => ([], ledger, false)
  | l :: lines, ledger =>
    let remaining := SalesOrderLine.remaining l
    if remaining ≤ 0 ∨ inventoryPosition ledger l.productId so.warehouseId < remaining then
      let rest := shipLines d so lines ledger
      (l :: rest.1, rest.2.1, rest.2.2)
    else
      let rest := shipLines d so lines (ledger ++ [{
        transactionAt := simDatetime d
        productId := l.productId
        warehouseId := so.warehouseId
        transactionType := .shipment
        quantityDelta := -remaining
        referenceType := some "sales_order"
        referenceId := some so.id }])
      ({ l with quantityShipped := l.quantityOrdered } :: rest.1, rest.2.1, true)

/-- The carrier of an order: by its id, among the carriers sorted by id. -/
def pickCarrier (carriers : List Carrier) (salesOrderId : Uuid) : Option Carrier :=
  let ordered := carriers.insertionSort fun a b => a.id ≤ b.id
  ordered[salesOrderId % ordered.length]?

/-- The shipment of a fully shipped order; none when there is no active carrier. -/
def addShipment (env : TickEnv) (d : Date) (carriers : List Carrier) (so : SalesOrder)
    (rows : List Shipment) : Option (List Shipment) :=
  match pickCarrier carriers so.id with
  | none => some rows
  | some carrier =>
    let transitDays := pyRound ((carrier.transitDaysMin + carrier.transitDaysMax) / 2)
    insert? (·.id) {
      id := env.shipmentId so.id
      salesOrderId := so.id
      carrierId := carrier.id
      warehouseId := so.warehouseId
      shipDate := d
      promisedDeliveryDate := d + transitDays
      actualDeliveryDate := none
      status := .pending } rows

def fullyShipped (lines : List SalesOrderLine) : Bool :=
  lines.all fun l => decide (l.quantityOrdered ≤ l.quantityShipped)

/-- The order after shipping. -/
def shippedOrder (lines : List SalesOrderLine) (so : SalesOrder) : SalesOrder := { so with
  status := if fullyShipped lines then .shipped else .partiallyShipped
  lines := lines }

/-- One iteration: a submitted order is allocated when every line is available, any other open
order ships the lines it can. -/
def progressSalesOrder (env : TickEnv) (d : Date) (carriers : List Carrier) (events : ℕ) (id : Uuid) :
    Pass ℕ := fun w =>
  match lookup (·.id) id w.salesOrder with
  | none => .ok events w
  | some so =>
    let lines := (env.salesOrderLines so.id).rows so.lines
    if so.status = .submitted then
      if allAvailable w so lines then
        .ok (events + 1) { w with
          salesOrder := modify (·.id) id (fun so => { so with
            status := .allocated, promisedDate := some (d + genericPromiseDays) }) w.salesOrder
          salesOrderLifecycleEvent := w.salesOrderLifecycleEvent ++
            [⟨so.id, some so.status, .allocated, d⟩] }
      else .ok events w
    else
      let shipped := shipLines d so lines w.inventoryTransaction
      if shipped.2.2 = false then .ok events w
      else
        let status := (shippedOrder shipped.1 so).status
        let w := { w with
          salesOrder := modify (·.id) id (shippedOrder shipped.1) w.salesOrder
          inventoryTransaction := shipped.2.1 }
        match (if fullyShipped shipped.1 then addShipment env d carriers so w.shipment
            else some w.shipment) with
        | none => .error (.integrityError "shipment_pkey") w
        | some shipments =>
          let w := { w with shipment := shipments }
          if so.status = status then .ok events w
          else .ok (events + 1) { w with
            salesOrderLifecycleEvent := w.salesOrderLifecycleEvent ++
              [⟨so.id, some so.status, status, d⟩] }

/-- The loop over the open sales orders, loaded after the shipments have progressed. -/
def progressOpenSalesOrders (env : TickEnv) (d : Date) (events : ℕ) : Pass ℕ := do
  let w ← get
  let openSos := env.openSalesOrders.rows (w.salesOrder.filter (·.status.isOpen))
  let carriers := env.carriers.rows (w.master.carrier.filter (·.isActive))
  (openSos.map (·.id)).foldlM (progressSalesOrder env d carriers) events

def progressSalesOrdersAndShipments (env : TickEnv) (d : Date) : Pass ℕ := do
  let events ← progressShipments env d
  progressOpenSalesOrders env d events

/-! ## `_create_sales_orders_if_needed` -/

/-- The primary key and the unique `so_number`. -/
def insertSalesOrder? (so : SalesOrder) (rows : List SalesOrder) : Option (List SalesOrder) :=
  if so.soNumber ∈ rows.map (·.soNumber) then none else insert? (·.id) so rows

/-- The lines of a new order: the `i`-th quantity is draw `k + i`. -/
def demandLines (rng : Rng) (k : ℕ) : List String → List SalesOrderLine
  | [] => []
  | p :: ps => ⟨p, pickDemandQuantity rng k, 0⟩ :: demandLines rng (k + 1) ps

def createSalesOrder (env : TickEnv) (d : Date) (productIds : List String) (created : ℕ)
    (customer : Customer) : Pass ℕ := fun w =>
  let rng := env.rng d (.demand customer.id)
  if newOrderProbabilityPerCustomer ≤ rng.random 0 then .ok created w
  else
    let chosen := pickDemandProducts rng 1 productIds
    if chosen.isEmpty then .ok created w
    else
      let so : SalesOrder := {
        id := env.salesOrderId customer.id
        soNumber := "SO-" ++ env.salesOrderHex customer.id
        customerId := customer.id
        warehouseId := customer.warehouseId
        orderDate := d
        requestedDate := d + pickRequestedDateOffset rng 3
        promisedDate := none
        status := .submitted
        lines := demandLines rng 4 chosen }
      match insertSalesOrder? so w.salesOrder with
      | none => .error (.integrityError "sales_order") w
      | some rows =>
        .ok (created + 1) { w with
          salesOrder := rows
          salesOrderLifecycleEvent := w.salesOrderLifecycleEvent ++ [⟨so.id, none, .submitted, d⟩] }

def createSalesOrdersIfNeeded (env : TickEnv) (d : Date) : Pass ℕ := do
  let w ← get
  let customers := env.customers.rows (w.master.customer.filter (·.isActive))
  let products := (env.demandProducts.rows (w.master.product.filter (·.isActive))).map (·.id)
  customers.foldlM (createSalesOrder env d products) 0

/-! ## `_snapshot_inventory_positions` -/

/-- The columns of the unique constraint `uq_inventory_snapshot_grain`. -/
def InventorySnapshot.grain (s : InventorySnapshot) : Date × String × String :=
  (s.snapshotDate, s.productId, s.warehouseId)

/-- INSERT ... ON CONFLICT DO UPDATE of one row. -/
def upsertSnapshot (rows : List InventorySnapshot) (s : InventorySnapshot) :
    List InventorySnapshot :=
  if InventorySnapshot.grain s ∈ rows.map InventorySnapshot.grain then
    modify InventorySnapshot.grain (InventorySnapshot.grain s) (fun r => { r with
      quantityOnHand := s.quantityOnHand, quantityAllocated := s.quantityAllocated }) rows
  else rows ++ [s]

/-- Ledger sums of all pairs, by one grouped query. -/
def positionByKey (w : World) : Dict (String × String) ℤ :=
  Dict.groupSum (fun t => (t.productId, t.warehouseId)) (·.quantityDelta) w.inventoryTransaction

/-- The lines of the orders that hold an allocation, joined with their order's warehouse. -/
def allocatedLines (w : World) : List (SalesOrderLine × String) :=
  (w.salesOrder.filter (·.status.isAllocated)).flatMap fun so =>
    so.lines.map fun l => (l, so.warehouseId)

/-- Allocated quantities of all pairs, by one grouped query. -/
def allocatedByKey (w : World) : Dict (String × String) ℤ :=
  Dict.groupSum (fun r => (r.1.productId, r.2)) (fun r => r.1.quantityOrdered - r.1.quantityShipped)
    (allocatedLines w)

/-- The row of a pair; a negative position is clamped. -/
def snapshotRow (w : World) (d : Date) (p wh : String) : InventorySnapshot where
  snapshotDate := d
  productId := p
  warehouseId := wh
  quantityOnHand := max ((positionByKey w).getD (p, wh) 0) 0
  quantityAllocated := max ((allocatedByKey w).getD (p, wh) 0) 0

def snapshotInventoryPositions (env : TickEnv) (d : Date) : Pass Unit := fun w =>
  let products := (env.snapshotProducts.rows (w.master.product.filter (·.isActive))).map (·.id)
  let warehouses := (env.snapshotWarehouses.rows (w.master.warehouse.filter (·.isActive))).map (·.id)
  let values := products.flatMap fun p => warehouses.map fun wh => snapshotRow w d p wh
  .ok () { w with inventorySnapshot := values.foldl upsertSnapshot w.inventorySnapshot }

/-! ## One tick's passes, in order -/

/-- The seven passes that `run_scheduled_tick` runs; the result is the number of events. -/
def scheduledFlow (env : TickEnv) (d : Date) : Pass ℕ := do
  let e1 ← progressPurchaseOrders env d
  let e2 ← progressWarehouseTransfers env d
  let e3 ← createWarehouseTransfersIfNeeded env d
  let e4 ← createPurchaseOrdersIfNeeded env d
  let e5 ← progressSalesOrdersAndShipments env d
  let e6 ← createSalesOrdersIfNeeded env d
  snapshotInventoryPositions env d
  pure (e1 + e2 + e3 + e4 + e5 + e6)

/-- What each pass of a flow that returns has counted and left. -/
structure FlowPasses (env : TickEnv) (d : Date) (w w' : World) where
  received : ℕ × World
  arrived : ℕ × World
  transferred : ℕ × World
  reordered : ℕ × World
  progressed : ℕ × World
  ordered : ℕ × World
  receipts : progressPurchaseOrders env d w = .ok received.1 received.2
  arrivals : progressWarehouseTransfers env d received.2 = .ok arrived.1 arrived.2
  transfers : createWarehouseTransfersIfNeeded env d arrived.2 = .ok transferred.1 transferred.2
  reorders : createPurchaseOrdersIfNeeded env d transferred.2 = .ok reordered.1 reordered.2
  sales : progressSalesOrdersAndShipments env d reordered.2 = .ok progressed.1 progressed.2
  demand : createSalesOrdersIfNeeded env d progressed.2 = .ok ordered.1 ordered.2
  snapshot : snapshotInventoryPositions env d ordered.2 = .ok () w'

theorem scheduledFlow_passes {env : TickEnv} {d : Date} {w w' : World} {events : ℕ}
    (run : scheduledFlow env d w = .ok events w') : Nonempty (FlowPasses env d w w') := by
  obtain ⟨e1, w1, receipts, run⟩ := bind_eq_ok run
  obtain ⟨e2, w2, arrivals, run⟩ := bind_eq_ok run
  obtain ⟨e3, w3, transfers, run⟩ := bind_eq_ok run
  obtain ⟨e4, w4, reorders, run⟩ := bind_eq_ok run
  obtain ⟨e5, w5, sales, run⟩ := bind_eq_ok run
  obtain ⟨e6, w6, demand, run⟩ := bind_eq_ok run
  obtain ⟨_, w7, snapshot, run⟩ := bind_eq_ok run
  cases run
  exact ⟨(e1, w1), (e2, w2), (e3, w3), (e4, w4), (e5, w5), (e6, w6), receipts, arrivals, transfers, reorders, sales,
    demand, snapshot⟩

theorem FlowPasses.last {env : TickEnv} {d : Date} {w w' : World} (h : FlowPasses env d w w') :
    w' = endState (snapshotInventoryPositions env d h.ordered.2) := by
  rw [h.snapshot]
  rfl

end MeadowOps.Flow
