import MeadowOps.Dashboard.OrderDetail
import MeadowOps.Lib.Paging

/-!
# The listings of `app/api/dashboard.py`

The lists of orders, shipments and exceptions are sorted by a date alone and read by offset. The sibling listing of
the query log sorts by the id besides, which keeps its pages a total order.
-/

namespace MeadowOps.Dashboard

open Db Lib MeadowOps.Flow Exceptions

/-- A row of `live.exception_flag`, with the column the listing sorts by. -/
structure StoredFlag extends ExceptionFlag where
  detectedAt : Instant
  deriving DecidableEq, Repr

/-- The tables that are listed. Their ids are primary keys. -/
structure ListedTables where
  world : World
  exceptionFlag : List StoredFlag
  wf : Wf world
  flags : Keyed (fun f : StoredFlag => f.id) exceptionFlag

/-- The two parameters that every listing takes, in the range of their declarations. -/
structure PageQuery where
  limit : ℕ := 100
  offset : ℕ := 0
  ge : 1 ≤ limit := by decide
  le : limit ≤ 500 := by decide

/-- The request for the `k`-th page. -/
def PageQuery.nth (p : PageQuery) (k : ℕ) : PageQuery := { p with offset := k * p.limit }

/-! ## What is returned -/

structure PurchaseOrderSummaryRead where
  id : Uuid
  poNumber : String
  supplierId : String
  warehouseId : String
  orderDate : Date
  expectedDeliveryDate : Date
  status : PurchaseOrderStatus
  isAtRisk : Bool
  deriving DecidableEq, Repr

structure SalesOrderSummaryRead where
  id : Uuid
  soNumber : String
  customerId : String
  warehouseId : String
  orderDate : Date
  requestedDate : Date
  promisedDate : Option Date
  status : SalesOrderStatus
  deriving DecidableEq, Repr

/-- `_open_flag_ids`. -/
def openFlagIds (flags : List StoredFlag) (category : String) (idColumn : StoredFlag → Option Uuid) : List (Option Uuid) :=
  (flags.filter fun f => decide (f.category = category) && f.isOpen).map idColumn

def purchaseOrderSummaryRead (atRiskIds : List (Option Uuid)) (po : PurchaseOrder) : PurchaseOrderSummaryRead :=
  ⟨po.id, po.poNumber, po.supplierId, po.warehouseId, po.orderDate, po.expectedDeliveryDate, po.status,
    decide (some po.id ∈ atRiskIds)⟩

def salesOrderSummaryRead (so : SalesOrder) : SalesOrderSummaryRead :=
  ⟨so.id, so.soNumber, so.customerId, so.warehouseId, so.orderDate, so.requestedDate, so.promisedDate, so.status⟩

/-! ## The rows that match -/

/-- The condition of a filter that may be absent. -/
def whereIs {α : Type} [DecidableEq α] (wanted : Option α) (value : α) : Bool := wanted.all fun w => decide (value = w)

def purchaseOrders (t : ListedTables) (warehouseId supplierId : Option String) (status : Option PurchaseOrderStatus) :
    List PurchaseOrder :=
  t.world.purchaseOrder.filter fun po =>
    whereIs warehouseId po.warehouseId && whereIs supplierId po.supplierId && whereIs status po.status

def salesOrders (t : ListedTables) (warehouseId customerId : Option String) : List SalesOrder :=
  t.world.salesOrder.filter fun so => whereIs warehouseId so.warehouseId && whereIs customerId so.customerId

def shipments (t : ListedTables) (warehouseId : Option String) (status : Option ShipmentStatus) : List Shipment :=
  t.world.shipment.filter fun s => whereIs warehouseId s.warehouseId && whereIs status s.status

def exceptions (t : ListedTables) (category : Option String) (includeResolved : Bool) : List StoredFlag :=
  t.exceptionFlag.filter fun f => whereIs category f.category && (includeResolved || f.isOpen)

def atRiskIds (t : ListedTables) : List (Option Uuid) := openFlagIds t.exceptionFlag atRiskPoCategory (·.purchaseOrderId)

/-! ## The listings -/

/-- `PurchaseOrder.order_date.desc()`. -/
abbrev latestPurchase (po : PurchaseOrder) : Dateᵒᵈ := OrderDual.toDual po.orderDate

abbrev latestSale (so : SalesOrder) : Dateᵒᵈ := OrderDual.toDual so.orderDate

abbrev latestShipment (s : Shipment) : Dateᵒᵈ := OrderDual.toDual s.shipDate

abbrev latestFlag (f : StoredFlag) : Instantᵒᵈ := OrderDual.toDual f.detectedAt

/-- `list_purchase_orders`. -/
def listPurchaseOrders (q : OrderedBy latestPurchase) (t : ListedTables) (warehouseId supplierId : Option String)
    (status : Option PurchaseOrderStatus) (p : PageQuery) : List PurchaseOrderSummaryRead :=
  (page q p.limit p.offset (purchaseOrders t warehouseId supplierId status)).map (purchaseOrderSummaryRead (atRiskIds t))

/-- `list_sales_orders`. -/
def listSalesOrders (q : OrderedBy latestSale) (t : ListedTables) (warehouseId customerId : Option String)
    (p : PageQuery) : List SalesOrderSummaryRead :=
  (page q p.limit p.offset (salesOrders t warehouseId customerId)).map salesOrderSummaryRead

/-- `list_shipments`. -/
def listShipments (q : OrderedBy latestShipment) (t : ListedTables) (warehouseId : Option String)
    (status : Option ShipmentStatus) (p : PageQuery) : List ShipmentRead :=
  (page q p.limit p.offset (shipments t warehouseId status)).map shipmentRead

/-- `list_exceptions`. -/
def listExceptions (q : OrderedBy latestFlag) (t : ListedTables) (category : Option String) (includeResolved : Bool)
    (p : PageQuery) : List StoredFlag :=
  page q p.limit p.offset (exceptions t category includeResolved)

/-! ## Reading page by page -/

/-- A result that shows the id tells rows of one table apart. -/
theorem faithful_of_id {ρ α : Type} {id : ρ → Uuid} {rows : List ρ} (keyed : Keyed id rows) {p : ρ → Bool} (read : ρ → α)
    (idOf : α → Uuid) (shown : ∀ r, idOf (read r) = id r) :
    ∀ r ∈ rows.filter p, ∀ s ∈ rows.filter p, read r = read s → r = s := by
  intro r mem s mem' same
  have ids : id r = id s := by rw [← shown r, same, shown s]
  exact List.inj_on_of_nodup_map keyed (List.mem_of_mem_filter mem) (List.mem_of_mem_filter mem') ids

/-- For any rows, filters and page size, the pages of a listing are its rows in every order the database may choose for
rows of one date, exactly when no page ends between such rows. -/
theorem listings_complete_iff (t : ListedTables) (p : PageQuery) :
    (∀ warehouseId supplierId status,
      (∀ q : ℕ → OrderedBy latestPurchase,
        ReadsAll p.limit (fun k => listPurchaseOrders (q k) t warehouseId supplierId status (p.nth k))
          ((purchaseOrders t warehouseId supplierId status).map (purchaseOrderSummaryRead (atRiskIds t)))) ↔
      PagesApart latestPurchase p.limit (purchaseOrders t warehouseId supplierId status)) ∧
    (∀ warehouseId customerId,
      (∀ q : ℕ → OrderedBy latestSale,
        ReadsAll p.limit (fun k => listSalesOrders (q k) t warehouseId customerId (p.nth k))
          ((salesOrders t warehouseId customerId).map salesOrderSummaryRead)) ↔
      PagesApart latestSale p.limit (salesOrders t warehouseId customerId)) ∧
    (∀ warehouseId status,
      (∀ q : ℕ → OrderedBy latestShipment,
        ReadsAll p.limit (fun k => listShipments (q k) t warehouseId status (p.nth k))
          ((shipments t warehouseId status).map shipmentRead)) ↔
      PagesApart latestShipment p.limit (shipments t warehouseId status)) ∧
    ∀ category includeResolved,
      (∀ q : ℕ → OrderedBy latestFlag,
        ReadsAll p.limit (fun k => listExceptions (q k) t category includeResolved (p.nth k))
          (exceptions t category includeResolved)) ↔
      PagesApart latestFlag p.limit (exceptions t category includeResolved) := by
  refine ⟨fun warehouseId supplierId status => ?_, fun warehouseId customerId => ?_, fun warehouseId status => ?_,
    fun category includeResolved => ?_⟩
  · exact pages_complete_iff p.ge (t.wf.purchaseOrder.of_map.filter _)
      (faithful_of_id t.wf.purchaseOrder _ PurchaseOrderSummaryRead.id fun _ => rfl)
  · exact pages_complete_iff p.ge (t.wf.salesOrder.of_map.filter _)
      (faithful_of_id t.wf.salesOrder _ SalesOrderSummaryRead.id fun _ => rfl)
  · exact pages_complete_iff p.ge (t.wf.shipment.of_map.filter _)
      (faithful_of_id t.wf.shipment _ (fun s : ShipmentRead => s.shipment.id) fun _ => rfl)
  · have complete : (∀ q : ℕ → OrderedBy latestFlag,
        ReadsAll p.limit (fun k => (page (q k) p.limit (k * p.limit) (exceptions t category includeResolved)).map id)
          ((exceptions t category includeResolved).map id)) ↔
        PagesApart latestFlag p.limit (exceptions t category includeResolved) :=
      pages_complete_iff p.ge (t.flags.of_map.filter _) fun r _ s _ same => same
    simp only [List.map_id] at complete
    exact complete

/-- Two purchase orders of one day. -/
def twoOfOneDay : ListedTables where
  world := { World.empty ⟨[], [], [], [], []⟩ with
    purchaseOrder := [⟨1, "PO-1", "acme", "main", 5, 9, .submitted, []⟩, ⟨2, "PO-2", "acme", "main", 5, 9, .submitted, []⟩] }
  exceptionFlag := []
  wf := by constructor <;> simp [Keyed, World.empty]
  flags := List.nodup_nil

/-- The first query has order 1 first, and the later ones have it last. -/
def firstThenLast (k : ℕ) : OrderedBy latestPurchase :=
  .ranked latestPurchase fun po => if k = 0 then po.id else 2 - po.id

/-- Of two orders of one day, read in pages of one, order 1 is returned twice and order 2 never. -/
theorem order_returned_twice :
    ¬ ReadsAll 1 (fun k => listPurchaseOrders (firstThenLast k) twoOfOneDay none none none { limit := 1, offset := k })
      ((purchaseOrders twoOfOneDay none none none).map (purchaseOrderSummaryRead (atRiskIds twoOfOneDay))) := by
  rintro ⟨fetched, fetches, perm⟩
  have twice : Fetches 1
      (fun k => listPurchaseOrders (firstThenLast k) twoOfOneDay none none none { limit := 1, offset := k })
      [⟨1, "PO-1", "acme", "main", 5, 9, .submitted, false⟩, ⟨1, "PO-1", "acme", "main", 5, 9, .submitted, false⟩] :=
    ⟨3, by decide⟩
  obtain rfl := fetches.unique twice
  exact absurd perm (by decide)

end MeadowOps.Dashboard
