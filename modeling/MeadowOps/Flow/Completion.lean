import MeadowOps.Flow.Shipments
import MeadowOps.Lib.Drawn
import MeadowOps.Lib.Triple

/-!
# The flow of a day returns

A pass raises for a product that no supplier serves, a shipment whose carrier is gone, or a key that is taken. On
legal master data, with unused keys and every carrier there, none of them happens, whatever the day is.
-/

namespace MeadowOps.Flow

open Db Lib

/-- Some active supplier serves every active product, and the customers have distinct ids. -/
structure LegalMaster (m : Master) : Prop where
  served : ∀ p ∈ m.product, p.isActive = true → ∃ s ∈ m.supplier, s.isActive = true ∧
    (supplierCategoryKeywords p.category).any (matchesKeyword s) = true
  customers : Keyed (·.id) m.customer

/-- The carrier of the shipment is there. -/
def CarrierThere (m : Master) (s : Shipment) : Prop := (lookup (·.id) s.carrierId m.carrier).isSome = true

/-- The ids and numbers that a tick draws for its new rows are new. -/
structure FreshDraws (env : TickEnv) (w : World) : Prop where
  transferId : Drawn (fun q : String × String => env.transferId q.1 q.2) (w.warehouseTransfer.map (·.id))
  purchaseOrderId : Drawn (fun q : String × String => env.purchaseOrderId q.1 q.2) (w.purchaseOrder.map (·.id))
  poNumber : Drawn (fun q : String × String => "PO-" ++ env.purchaseOrderHex q.1 q.2)
    (w.purchaseOrder.map (·.poNumber))
  salesOrderId : Drawn env.salesOrderId (w.salesOrder.map (·.id))
  soNumber : Drawn (fun customer => "SO-" ++ env.salesOrderHex customer) (w.salesOrder.map (·.soNumber))
  shipmentId : Drawn env.shipmentId (w.shipment.map (·.id))

/-! ## What the passes to come need -/

section Ready

variable (env : TickEnv) (m : Master) (w : World)

/-- For the new sales orders. -/
structure DemandReady : Prop where
  master : w.master = m
  sales : ∀ so ∈ w.salesOrder, ∀ customer,
    so.id ≠ env.salesOrderId customer ∧ so.soNumber ≠ "SO-" ++ env.salesOrderHex customer

/-- For the shipments and the open sales orders. -/
structure SalesReady : Prop extends DemandReady env m w where
  keyed : Keyed (·.id) w.salesOrder
  carriers : ∀ s ∈ w.shipment, CarrierThere m s
  shipments : ∀ s ∈ w.shipment, ∀ order, s.id ≠ env.shipmentId order

/-- For the new purchase orders. -/
structure PurchaseReady : Prop extends SalesReady env m w where
  purchases : ∀ po ∈ w.purchaseOrder, ∀ p wh,
    po.id ≠ env.purchaseOrderId p wh ∧ po.poNumber ≠ "PO-" ++ env.purchaseOrderHex p wh

/-- For the transfers. -/
structure TransferReady : Prop extends PurchaseReady env m w where
  transfers : ∀ t ∈ w.warehouseTransfer, ∀ p wh, t.id ≠ env.transferId p wh

end Ready

variable {env : TickEnv} {m : Master} {d : Date} {w₀ w : World}

theorem FreshDraws.ready (h : FreshDraws env w) (wf : Wf w) (carriers : ∀ s ∈ w.shipment, CarrierThere w.master s) :
    TransferReady env w.master w where
  master := rfl
  sales _ mem customer := ⟨h.salesOrderId.ne mem customer, h.soNumber.ne mem customer⟩
  keyed := wf.salesOrder
  carriers := carriers
  shipments _ mem order := h.shipmentId.ne mem order
  purchases _ mem p wh := ⟨h.purchaseOrderId.ne mem (p, wh), h.poNumber.ne mem (p, wh)⟩
  transfers _ mem p wh := h.transferId.ne mem (p, wh)

/-! ## The rows that progress -/

theorem purchaseOrderStep_keys {po po' : PurchaseOrder} {receipts : List InventoryTransaction}
    (h : purchaseOrderStep env d po = some (po', receipts)) : po'.id = po.id ∧ po'.poNumber = po.poNumber := by
  unfold purchaseOrderStep at h
  split at h
  · cases h
    exact ⟨rfl, rfl⟩
  · split at h
    · cases h
      exact ⟨rfl, rfl⟩
    · cases h

theorem progressPurchaseOrder_ready (events : ℕ) (id : Uuid) :
    Triple (TransferReady env m) (progressPurchaseOrder env d events id) (fun _ => TransferReady env m)
      (fun _ => False) := by
  refine .of_returns fun w h => ?_
  unfold progressPurchaseOrder
  cases found : lookup (·.id) id w.purchaseOrder with
  | none => exact ⟨_, _, rfl, h⟩
  | some po =>
    dsimp only
    cases step : purchaseOrderStep env d po with
    | none => exact ⟨_, _, rfl, h⟩
    | some next =>
      obtain ⟨po', receipts⟩ := next
      obtain ⟨sameId, sameNumber⟩ := purchaseOrderStep_keys step
      have purchases : ∀ q ∈ modify PurchaseOrder.id id (fun _ => po') w.purchaseOrder, ∀ p wh,
          q.id ≠ env.purchaseOrderId p wh ∧ q.poNumber ≠ "PO-" ++ env.purchaseOrderHex p wh := by
        refine forall_modify h.purchases fun _ _ _ => ?_
        rw [sameId, sameNumber]
        exact h.purchases po (lookup_mem found).1
      dsimp only
      split
      · exact ⟨_, _, rfl, { h with purchases := purchases }⟩
      · exact ⟨_, _, rfl, { h with purchases := purchases }⟩

theorem progressPurchaseOrders_ready :
    Triple (TransferReady env m) (progressPurchaseOrders env d) (fun _ => TransferReady env m) (fun _ => False) :=
  .get_bind fun _ _ => .foldlM (fun events id _ => progressPurchaseOrder_ready events id) 0

theorem progressWarehouseTransfer_ready (events : ℕ) (id : Uuid) :
    Triple (TransferReady env m) (progressWarehouseTransfer d events id) (fun _ => TransferReady env m)
      (fun _ => False) := by
  refine .of_returns fun w h => ?_
  unfold progressWarehouseTransfer
  have moved : ∀ status, ∀ t ∈ modify WarehouseTransfer.id id (fun t => { t with status := status })
      w.warehouseTransfer, ∀ p wh, t.id ≠ env.transferId p wh :=
    fun status => forall_modify h.transfers fun t mem _ => h.transfers t mem
  split
  · exact ⟨_, _, rfl, h⟩
  · split
    · exact ⟨_, _, rfl, { h with transfers := moved _ }⟩
    · split
      · exact ⟨_, _, rfl, { h with transfers := moved _ }⟩
      · exact ⟨_, _, rfl, h⟩

theorem progressWarehouseTransfers_ready :
    Triple (TransferReady env m) (progressWarehouseTransfers env d) (fun _ => TransferReady env m)
      (fun _ => False) :=
  .get_bind fun _ _ => .foldlM (fun events id _ => progressWarehouseTransfer_ready events id) 0

/-! ## New transfers -/

/-- A drawn id that is taken was drawn for a transfer that is still under way. -/
structure TransfersOpen (env : TickEnv) (m : Master) (w : World) : Prop extends PurchaseReady env m w where
  underWay : ∀ t ∈ w.warehouseTransfer, ∀ p wh, t.id = env.transferId p wh → hasOpenInboundTransfer w p wh = true

theorem createWarehouseTransfer_open (fresh : FreshDraws env w₀)
    (product : Product) (warehouses : List Warehouse) (allocated : String → ℤ) (demands : String → ℚ)
    (pool : DonorPool) (warehouse : Warehouse) :
    Triple (TransfersOpen env m)
      (createWarehouseTransfer env d product warehouses allocated demands pool warehouse)
      (fun _ => TransfersOpen env m) (fun _ => False) := by
  refine .of_returns fun w h => ?_
  unfold createWarehouseTransfer
  by_cases supplied : (hasOpenPurchaseOrder w product.id warehouse.id ||
      hasOpenInboundTransfer w product.id warehouse.id) = true
  · rw [if_pos supplied]
    exact ⟨_, _, rfl, h⟩
  rw [if_neg supplied]
  obtain ⟨-, noTransfer⟩ : hasOpenPurchaseOrder w product.id warehouse.id = false ∧
      hasOpenInboundTransfer w product.id warehouse.id = false := by simpa using supplied
  have unused : ∀ t ∈ w.warehouseTransfer, t.id ≠ env.transferId product.id warehouse.id := by
    intro t mem taken
    rw [h.underWay t mem _ _ taken] at noTransfer
    cases noTransfer
  dsimp only
  split
  · exact ⟨_, _, rfl, h⟩
  · split
    · exact ⟨_, _, rfl, h⟩
    · split
      · exact ⟨_, _, rfl, h⟩
      · rw [insert?_of_ne WarehouseTransfer.id unused]
        refine ⟨_, _, rfl, { h with underWay := fun t mem p wh drawn => ?_ }⟩
        show (w.warehouseTransfer ++ [_]).any _ = true
        rw [List.any_append, Bool.or_eq_true]
        rcases List.mem_append.1 mem with old | new
        · exact .inl (h.underWay t old p wh drawn)
        · rw [List.mem_singleton.1 new] at drawn
          obtain ⟨rfl, rfl⟩ := Prod.mk.inj (@fresh.transferId.injective (product.id, warehouse.id) (p, wh) drawn)
          refine .inr ?_
          simp [TransferStatus.inFlight]

theorem createWarehouseTransfersIfNeeded_ready (fresh : FreshDraws env w₀) :
    Triple (TransferReady env m) (createWarehouseTransfersIfNeeded env d) (fun _ => PurchaseReady env m)
      (fun _ => False) := by
  have loop : Triple (TransfersOpen env m) (createWarehouseTransfersIfNeeded env d)
      (fun _ => TransfersOpen env m) (fun _ => False) := by
    refine .get_bind fun w _ => .foldlM (fun created product _ => ?_) 0
    refine .get_bind fun w' _ => ?_
    refine Triple.bind (.foldlM (fun pool warehouse _ => ?_) _) fun pool => .pure (Q := fun _ => _) pool.created
    exact createWarehouseTransfer_open fresh product _ _ _ pool warehouse
  refine loop.consequence (fun w h => ?_) (fun _ w h => h.toPurchaseReady) fun _ => id
  exact { h with underWay := fun t mem p wh drawn => absurd drawn (h.transfers t mem p wh) }

/-! ## New purchase orders -/

/-- A drawn id or number that is taken was drawn for an order that is still open. -/
structure PurchasesOpen (env : TickEnv) (m : Master) (w : World) : Prop extends SalesReady env m w where
  underWay : ∀ po ∈ w.purchaseOrder, ∀ p wh,
    po.id = env.purchaseOrderId p wh ∨ po.poNumber = "PO-" ++ env.purchaseOrderHex p wh →
      hasOpenPurchaseOrder w p wh = true

theorem assignSupplier_of_served {category : ProductCategory} {suppliers : List Supplier} {s : Supplier}
    (mem : s ∈ suppliers) (serves : (supplierCategoryKeywords category).any (matchesKeyword s) = true) :
    ∃ supplier, assignSupplier category suppliers = .ok supplier := by
  have found : s ∈ suppliers.filter fun s => (supplierCategoryKeywords category).any (matchesKeyword s) :=
    List.mem_filter.2 ⟨mem, serves⟩
  unfold assignSupplier
  cases rows : suppliers.filter fun s => (supplierCategoryKeywords category).any (matchesKeyword s) with
  | nil =>
    rw [rows] at found
    cases found
  | cons first rest => exact ⟨_, rfl⟩

theorem insertPurchaseOrder?_of_ne {po : PurchaseOrder} {rows : List PurchaseOrder}
    (unused : ∀ q ∈ rows, q.id ≠ po.id ∧ q.poNumber ≠ po.poNumber) :
    insertPurchaseOrder? po rows = some (rows ++ [po]) := by
  have number : po.poNumber ∉ rows.map (·.poNumber) := by
    intro taken
    obtain ⟨q, mem, same⟩ := List.mem_map.1 taken
    exact (unused q mem).2 same
  rw [insertPurchaseOrder?, if_neg number, insert?_of_ne PurchaseOrder.id fun q mem => (unused q mem).1]

theorem createPurchaseOrder_open (fresh : FreshDraws env w₀) {suppliers : List Supplier} {product : Product}
    (served : ∃ s ∈ suppliers, (supplierCategoryKeywords product.category).any (matchesKeyword s) = true)
    (created : ℕ) (warehouse : Warehouse) :
    Triple (PurchasesOpen env m) (createPurchaseOrder env d suppliers product created warehouse)
      (fun _ => PurchasesOpen env m) (fun _ => False) := by
  refine .of_returns fun w h => ?_
  unfold createPurchaseOrder
  by_cases supplied : (hasOpenPurchaseOrder w product.id warehouse.id ||
      hasOpenInboundTransfer w product.id warehouse.id) = true
  · rw [if_pos supplied]
    exact ⟨_, _, rfl, h⟩
  rw [if_neg supplied]
  obtain ⟨noOrder, -⟩ : hasOpenPurchaseOrder w product.id warehouse.id = false ∧
      hasOpenInboundTransfer w product.id warehouse.id = false := by simpa using supplied
  have unused : ∀ po ∈ w.purchaseOrder, po.id ≠ env.purchaseOrderId product.id warehouse.id ∧
      po.poNumber ≠ "PO-" ++ env.purchaseOrderHex product.id warehouse.id := by
    intro po mem
    rw [← not_or]
    intro taken
    rw [h.underWay po mem _ _ taken] at noOrder
    cases noOrder
  obtain ⟨s, mem, serves⟩ := served
  obtain ⟨supplier, assigned⟩ := assignSupplier_of_served mem serves
  dsimp only
  split
  · exact ⟨_, _, rfl, h⟩
  · rw [assigned]
    dsimp only
    rw [insertPurchaseOrder?_of_ne unused]
    refine ⟨_, _, rfl, { h with underWay := fun po mem p wh drawn => ?_ }⟩
    show (w.purchaseOrder ++ [_]).any _ = true
    rw [List.any_append, Bool.or_eq_true]
    rcases List.mem_append.1 mem with old | new
    · exact .inl (h.underWay po old p wh drawn)
    · rw [List.mem_singleton.1 new] at drawn
      have pair : (product.id, warehouse.id) = (p, wh) :=
        drawn.elim (fun same => fresh.purchaseOrderId.injective same) fun same => fresh.poNumber.injective same
      obtain ⟨rfl, rfl⟩ := Prod.mk.inj pair
      refine .inr ?_
      simp [PurchaseOrderStatus.isOpen]

theorem createPurchaseOrdersIfNeeded_ready (fresh : FreshDraws env w₀) (legal : LegalMaster m) :
    Triple (PurchaseReady env m) (createPurchaseOrdersIfNeeded env d) (fun _ => SalesReady env m)
      (fun _ => False) := by
  have loop : Triple (PurchasesOpen env m) (createPurchaseOrdersIfNeeded env d)
      (fun _ => PurchasesOpen env m) (fun _ => False) := by
    refine .get_bind fun w h => .foldlM (fun created product mem => ?_) 0
    rw [RowOrder.mem_rows, List.mem_filter, h.master] at mem
    obtain ⟨s, known, active, serves⟩ := legal.served product mem.1 mem.2
    refine .foldlM (fun created warehouse _ => createPurchaseOrder_open fresh ⟨s, ?_, serves⟩ created warehouse) _
    rw [RowOrder.mem_rows, List.mem_filter, h.master]
    exact ⟨known, active⟩
  refine loop.consequence (fun w h => ?_) (fun _ w h => h.toSalesReady) fun _ => id
  exact { h with underWay := fun po mem p wh drawn => absurd drawn (not_or.2 (h.purchases po mem p wh)) }

/-! ## Shipments and open sales orders -/

theorem progressShipment_ready (progressed : ℕ) (id : Uuid) :
    Triple (SalesReady env m) (progressShipment env progressed d id) (fun _ => SalesReady env m)
      (fun _ => False) := by
  refine .of_returns fun w h => ?_
  have moved : ∀ f : Shipment → Shipment, (∀ s, (f s).id = s.id ∧ (f s).carrierId = s.carrierId) →
      SalesReady env m { w with shipment := modify Shipment.id id f w.shipment } := by
    intro f same
    refine { h with carriers := forall_modify h.carriers fun s mem _ => ?_
                    shipments := forall_modify h.shipments fun s mem _ order => ?_ }
    · rw [CarrierThere, (same s).2]
      exact h.carriers s mem
    · rw [(same s).1]
      exact h.shipments s mem order
  unfold progressShipment
  cases found : lookup (·.id) id w.shipment with
  | none => exact ⟨_, _, rfl, h⟩
  | some s =>
    have known := h.carriers s (lookup_mem found).1
    rw [← h.master] at known
    obtain ⟨carrier, known⟩ := Option.isSome_iff_exists.1 known
    dsimp only
    split
    · exact ⟨_, _, rfl, moved _ fun _ => ⟨rfl, rfl⟩⟩
    · rw [known]
      dsimp only
      split
      · exact ⟨_, _, rfl, moved _ fun _ => ⟨rfl, rfl⟩⟩
      · exact ⟨_, _, rfl, h⟩

theorem progressShipments_ready :
    Triple (SalesReady env m) (progressShipments env d) (fun _ => SalesReady env m) (fun _ => False) :=
  .get_bind fun _ _ => .foldlM (fun progressed id _ => progressShipment_ready progressed id) 0

/-- The orders to come have no shipment yet that bears the id drawn for theirs. -/
structure OrdersToCome (env : TickEnv) (m : Master) (rest : List Uuid) (w : World) : Prop
    extends DemandReady env m w where
  nodup : rest.Nodup
  unused : ∀ s ∈ w.shipment, ∀ id ∈ rest, s.id ≠ env.shipmentId id

theorem addShipment_rest (fresh : FreshDraws env w₀) (carriers : List Carrier) (so : SalesOrder)
    {rest : List Uuid} {rows : List Shipment} (nodup : (so.id :: rest).Nodup)
    (unused : ∀ s ∈ rows, ∀ id ∈ so.id :: rest, s.id ≠ env.shipmentId id) :
    ∃ rows', addShipment env d carriers so rows = some rows' ∧
      ∀ s ∈ rows', ∀ id ∈ rest, s.id ≠ env.shipmentId id := by
  unfold addShipment
  cases pickCarrier carriers so.id with
  | none => exact ⟨rows, rfl, fun s mem id later => unused s mem id (List.mem_cons_of_mem _ later)⟩
  | some carrier =>
    dsimp only
    rw [insert?_of_ne Shipment.id fun s mem => unused s mem so.id List.mem_cons_self]
    refine ⟨_, rfl, fun s mem id later => ?_⟩
    rcases List.mem_append.1 mem with old | new
    · exact unused s old id (List.mem_cons_of_mem _ later)
    · rw [List.mem_singleton.1 new]
      intro same
      rw [← fresh.shipmentId.injective same] at later
      exact (List.nodup_cons.1 nodup).1 later

theorem progressSalesOrder_rest (fresh : FreshDraws env w₀) (carriers : List Carrier) (events : ℕ) (id : Uuid)
    (rest : List Uuid) :
    Triple (OrdersToCome env m (id :: rest)) (progressSalesOrder env d carriers events id)
      (fun _ => OrdersToCome env m rest) (fun _ => False) := by
  refine .of_returns fun w h => ?_
  have later : OrdersToCome env m rest w := { h with
    nodup := (List.nodup_cons.1 h.nodup).2
    unused := fun s mem id' mem' => h.unused s mem id' (List.mem_cons_of_mem _ mem') }
  unfold progressSalesOrder
  cases found : lookup (·.id) id w.salesOrder with
  | none => exact ⟨_, _, rfl, later⟩
  | some so =>
    obtain ⟨mem, rfl⟩ := lookup_mem found
    dsimp only
    split
    · split
      · refine ⟨_, _, rfl, { later with sales := ?_ }⟩
        exact forall_modify h.sales fun so' mem' _ => h.sales so' mem'
      · exact ⟨_, _, rfl, later⟩
    · generalize shipLines d so _ _ = shipped
      split
      · exact ⟨_, _, rfl, later⟩
      · have sales : ∀ so' ∈ modify SalesOrder.id so.id (shippedOrder shipped.1) w.salesOrder, ∀ customer,
            so'.id ≠ env.salesOrderId customer ∧ so'.soNumber ≠ "SO-" ++ env.salesOrderHex customer :=
          forall_modify h.sales fun so' mem' _ => h.sales so' mem'
        have added : ∃ shipments, (if fullyShipped shipped.1 = true then addShipment env d carriers so w.shipment
            else some w.shipment) = some shipments ∧
              ∀ s ∈ shipments, ∀ id ∈ rest, s.id ≠ env.shipmentId id := by
          split
          · exact addShipment_rest fresh carriers so h.nodup h.unused
          · exact ⟨w.shipment, rfl, later.unused⟩
        obtain ⟨shipments, added, unused⟩ := added
        rw [added]
        dsimp only
        split
        · exact ⟨_, _, rfl, { later with sales := sales, unused := unused }⟩
        · exact ⟨_, _, rfl, { later with sales := sales, unused := unused }⟩

theorem progressOpenSalesOrders_ready (fresh : FreshDraws env w₀) (events : ℕ) :
    Triple (SalesReady env m) (progressOpenSalesOrders env d events) (fun _ => DemandReady env m)
      (fun _ => False) := by
  refine .of_returns fun w h => ?_
  have start : OrdersToCome env m (openOrderIds env w) w := { h with
    nodup := loaded_nodup h.keyed _ _
    unused := fun s mem id _ => h.shipments s mem id }
  have loop : Triple (OrdersToCome env m (openOrderIds env w))
      ((openOrderIds env w).foldlM (progressSalesOrder env d (activeCarriers env w)) events)
      (fun _ => OrdersToCome env m []) (fun _ => False) :=
    .foldlM_rest (fun events id rest => progressSalesOrder_rest fresh _ events id rest) _ events
  obtain ⟨events', w', run, done⟩ := loop.returns start
  exact ⟨events', w', run, done.toDemandReady⟩

/-! ## New sales orders -/

/-- The customers to come have no order yet that bears what is drawn for theirs. -/
structure CustomersToCome (env : TickEnv) (rest : List Customer) (w : World) : Prop where
  nodup : (rest.map (·.id)).Nodup
  unused : ∀ so ∈ w.salesOrder, ∀ c ∈ rest,
    so.id ≠ env.salesOrderId c.id ∧ so.soNumber ≠ "SO-" ++ env.salesOrderHex c.id

theorem insertSalesOrder?_of_ne {so : SalesOrder} {rows : List SalesOrder}
    (unused : ∀ q ∈ rows, q.id ≠ so.id ∧ q.soNumber ≠ so.soNumber) :
    insertSalesOrder? so rows = some (rows ++ [so]) := by
  have number : so.soNumber ∉ rows.map (·.soNumber) := by
    intro taken
    obtain ⟨q, mem, same⟩ := List.mem_map.1 taken
    exact (unused q mem).2 same
  rw [insertSalesOrder?, if_neg number, insert?_of_ne SalesOrder.id fun q mem => (unused q mem).1]

theorem createSalesOrder_rest (fresh : FreshDraws env w₀) (productIds : List String) (created : ℕ)
    (customer : Customer) (rest : List Customer) :
    Triple (CustomersToCome env (customer :: rest)) (createSalesOrder env d productIds created customer)
      (fun _ => CustomersToCome env rest) (fun _ => False) := by
  refine .of_returns fun w h => ?_
  obtain ⟨apart, nodup⟩ := List.nodup_cons.1 h.nodup
  have later : CustomersToCome env rest w :=
    ⟨nodup, fun so mem c mem' => h.unused so mem c (List.mem_cons_of_mem _ mem')⟩
  have here := fun so mem => h.unused so mem customer List.mem_cons_self
  unfold createSalesOrder
  dsimp only
  split
  · exact ⟨_, _, rfl, later⟩
  · split
    · exact ⟨_, _, rfl, later⟩
    · rw [insertSalesOrder?_of_ne here]
      refine ⟨_, _, rfl, nodup, fun so mem c mem' => ?_⟩
      rcases List.mem_append.1 mem with old | new
      · exact later.unused so old c mem'
      · rw [List.mem_singleton.1 new]
        have other : customer.id ≠ c.id := fun same =>
          apart (List.mem_map.2 ⟨c, mem', same.symm⟩)
        exact ⟨fun same => other (fresh.salesOrderId.injective same),
          fun same => other (fresh.soNumber.injective same)⟩

/-- The demand pass draws keys of its own only, and does not raise. -/
theorem createSalesOrdersIfNeeded_returns (fresh : FreshDraws env w₀) (legal : LegalMaster m) :
    Triple (DemandReady env m) (createSalesOrdersIfNeeded env d) (fun _ _ => True) (fun _ => False) := by
  refine .of_returns fun w h => ?_
  have start : CustomersToCome env (env.customers.rows (w.master.customer.filter (·.isActive))) w :=
    ⟨loaded_nodup (h.master ▸ legal.customers) _ _, fun so mem c _ => h.sales so mem c.id⟩
  have loop : Triple (CustomersToCome env (env.customers.rows (w.master.customer.filter (·.isActive))))
      ((env.customers.rows (w.master.customer.filter (·.isActive))).foldlM (createSalesOrder env d
        ((env.demandProducts.rows (w.master.product.filter (·.isActive))).map (·.id))) 0)
      (fun _ => CustomersToCome env []) (fun _ => False) :=
    .foldlM_rest (fun created customer rest => createSalesOrder_rest fresh _ created customer rest) _ 0
  obtain ⟨created, w', run, -⟩ := loop.returns start
  exact ⟨created, w', run, trivial⟩

/-! ## The flow -/

/-- With legal master data and new keys no pass raises. -/
theorem scheduledFlow_returns (legal : LegalMaster w.master) (wf : Wf w)
    (carriers : ∀ s ∈ w.shipment, CarrierThere w.master s) (fresh : FreshDraws env w) (d : Date) :
    ∃ events w', scheduledFlow env d w = .ok events w' := by
  have passes : Triple (TransferReady env w.master) (scheduledFlow env d) (fun _ _ => True) (fun _ => False) := by
    unfold scheduledFlow
    refine progressPurchaseOrders_ready.bind fun _ => ?_
    refine progressWarehouseTransfers_ready.bind fun _ => ?_
    refine (createWarehouseTransfersIfNeeded_ready fresh).bind fun _ => ?_
    refine (createPurchaseOrdersIfNeeded_ready fresh legal).bind fun _ => ?_
    refine Triple.bind (progressShipments_ready.bind fun _ => progressOpenSalesOrders_ready fresh _) fun _ => ?_
    refine (createSalesOrdersIfNeeded_returns fresh legal).bind fun _ => ?_
    exact fun _ _ => trivial
  obtain ⟨events, w', run, -⟩ := passes.returns (fresh.ready wf carriers)
  exact ⟨events, w', run⟩

/-- A tick that returns leaves every shipment with a carrier. -/
theorem scheduledFlow_carriers {w' : World} {events : ℕ} (wf : Wf w)
    (carriers : ∀ s ∈ w.shipment, CarrierThere w.master s) (run : scheduledFlow env d w = .ok events w') :
    w'.master = w.master ∧ ∀ s ∈ w'.shipment, CarrierThere w'.master s := by
  obtain ⟨master, -, new, shipments, created⟩ := scheduledFlow_shipments env wf run
  refine ⟨master, fun s mem => ?_⟩
  rw [master]
  rw [shipments] at mem
  rcases List.mem_append.1 mem with old | added
  · obtain ⟨before, found, rfl⟩ := List.mem_map.1 old
    rw [CarrierThere, advanceShipment_agreed.2.2.2]
    exact carriers before found
  · obtain ⟨c, known, same, -⟩ := (created s added).carrier
    rw [CarrierThere, same, lookup, List.find?_isSome]
    exact ⟨c, known, by simp⟩

/-! ## There is always such a tick -/

theorem textId_injective : Function.Injective textId :=
  fun _ _ same => String.toList_injective (foldl_chars_injective _ _ same)

/-- The number of a pair. -/
def pairId (p wh : String) : ℕ := Encodable.encode (textId p, textId wh)

theorem pairId_injective : Function.Injective fun q : String × String => pairId q.1 q.2 := by
  intro q q' same
  obtain ⟨product, warehouse⟩ := Prod.mk.inj (Encodable.encode_injective same)
  exact Prod.ext (textId_injective product) (textId_injective warehouse)

/-- Rows in insertion order, and keys from `first` on. -/
def TickEnv.drawnFrom (rng : Date → Purpose → Rng) (first : ℕ) : TickEnv :=
  { TickEnv.inOrder rng with
    purchaseOrderId := fun p wh => first + pairId p wh
    purchaseOrderHex := fun p wh => letters (first + pairId p wh)
    transferId := fun p wh => first + pairId p wh
    salesOrderId := fun customer => first + textId customer
    salesOrderHex := fun customer => letters (first + textId customer)
    shipmentId := fun order => first + order }

/-- In every world some tick draws new keys only. -/
theorem exists_freshDraws (rng : Date → Purpose → Rng) (w : World) :
    ∃ first, FreshDraws (TickEnv.drawnFrom rng first) w := by
  obtain ⟨first, above⟩ := exists_above (w.warehouseTransfer.map (·.id) ++ w.purchaseOrder.map (·.id) ++
    w.purchaseOrder.map (·.poNumber.length) ++ w.salesOrder.map (·.id) ++
    w.salesOrder.map (·.soNumber.length) ++ w.shipment.map (·.id))
  simp only [List.mem_append, or_imp, forall_and] at above
  obtain ⟨⟨⟨⟨⟨transfers, orders⟩, numbers⟩, sales⟩, soNumbers⟩, shipments⟩ := above
  refine ⟨first, ?_⟩
  constructor
  case transferId => exact drawn_above pairId_injective transfers
  case purchaseOrderId => exact drawn_above pairId_injective orders
  case poNumber =>
    refine drawn_letters pairId_injective "PO-" fun number mem => ?_
    obtain ⟨po, found, rfl⟩ := List.mem_map.1 mem
    exact numbers _ (List.mem_map_of_mem found)
  case salesOrderId => exact drawn_above textId_injective sales
  case soNumber =>
    refine drawn_letters textId_injective "SO-" fun number mem => ?_
    obtain ⟨so, found, rfl⟩ := List.mem_map.1 mem
    exact soNumbers _ (List.mem_map_of_mem found)
  case shipmentId => exact drawn_above Function.injective_id shipments

end MeadowOps.Flow
