import MeadowOps.Flow.OnlyForward
import MeadowOps.Flow.StatusOfLines
import MeadowOps.Flow.UpdatePasses

/-!
# Shortages are answered

At the end of the purchase pass every active pair is at its reorder point or has a purchase order or a
transfer under way to it. What is under way is confirmed, or leaves, in the next tick that returns, and
brings stock in the first tick after that one which is not before its day.
-/

namespace MeadowOps.Flow

open Db Lib Scheduler

/-! ## What is under way -/

/-- Something will bring `p` to `wh` on day `due`. Once `begun` it no longer waits for its confirmation or
its departure. -/
inductive Awaited (w : World) (p wh : String) (due : Date) (begun : Bool) : Prop
  | order (po : PurchaseOrder) (mem : po ∈ w.purchaseOrder) (isOpen : po.status.isOpen = true)
      (line : ∃ l ∈ po.lines, l.productId = p) (warehouse : po.warehouseId = wh)
      (expected : po.expectedDeliveryDate = due) (confirmed : begun = true → po.status ≠ .submitted)
  | transfer (t : WarehouseTransfer) (mem : t ∈ w.warehouseTransfer) (inFlight : t.status.inFlight = true)
      (product : t.productId = p) (warehouse : t.toWarehouseId = wh)
      (arrival : t.transferDate + warehouseTransferTransitDays = due) (left : begun = true → t.status ≠ .pending)

/-- Stock of the pair came in after `ledger`. -/
def Arrived (p wh : String) (ledger ledger' : List InventoryTransaction) : Prop :=
  ∃ new, ledger' = ledger ++ new ∧ ∃ t ∈ new, t.productId = p ∧ t.warehouseId = wh ∧ 0 < t.quantityDelta ∧
    (t.transactionType = .receipt ∨ t.transactionType = .transferIn)

/-- Below the reorder point, with nothing under way. -/
def Short (d : Date) (w : World) (p wh : String) : Prop :=
  isBelowReorderPoint (currentInventoryPosition w p wh) (avgDailyShippedDemand w p wh d) reorderSafetyDays =
      true ∧
    hasOpenPurchaseOrder w p wh = false ∧ hasOpenInboundTransfer w p wh = false

/-- Rows are added to the supply tables and the ledger only. -/
structure Grown (w₀ w : World) : Prop where
  orders : w₀.purchaseOrder <+: w.purchaseOrder
  transfers : w₀.warehouseTransfer <+: w.warehouseTransfer
  ledger : w₀.inventoryTransaction <+: w.inventoryTransaction

theorem Grown.refl (w : World) : Grown w w := ⟨List.prefix_rfl, List.prefix_rfl, List.prefix_rfl⟩

theorem Grown.trans {w₁ w₂ w₃ : World} (h : Grown w₁ w₂) (h' : Grown w₂ w₃) : Grown w₁ w₃ :=
  ⟨h.orders.trans h'.orders, h.transfers.trans h'.transfers, h.ledger.trans h'.ledger⟩

theorem Awaited.grown {w w' : World} {p wh : String} {due : Date} {begun : Bool}
    (h : Awaited w p wh due begun) (grown : Grown w w') : Awaited w' p wh due begun := by
  cases h with
  | order po mem isOpen line warehouse expected confirmed =>
    exact .order po (grown.orders.subset mem) isOpen line warehouse expected confirmed
  | transfer t mem inFlight product warehouse arrival left =>
    exact .transfer t (grown.transfers.subset mem) inFlight product warehouse arrival left

theorem Arrived.grown {p wh : String} {ledger ledger' ledger'' : List InventoryTransaction}
    (h : Arrived p wh ledger ledger') (grown : ledger' <+: ledger'') : Arrived p wh ledger ledger'' := by
  obtain ⟨new, rfl, t, mem, arrived⟩ := h
  obtain ⟨more, rfl⟩ := grown
  exact ⟨new ++ more, List.append_assoc .., t, List.mem_append_left _ mem, arrived⟩

theorem Arrived.before {p wh : String} {ledger ledger' ledger'' : List InventoryTransaction}
    (grown : ledger <+: ledger') (h : Arrived p wh ledger' ledger'') : Arrived p wh ledger ledger'' := by
  obtain ⟨new, rfl, t, mem, arrived⟩ := h
  obtain ⟨more, rfl⟩ := grown
  exact ⟨more ++ new, List.append_assoc .., t, List.mem_append_right _ mem, arrived⟩

/-! ## The passes after the arrivals -/

section Passes

variable (env : TickEnv) {d : Date} {w₀ : World}

theorem createWarehouseTransfersIfNeeded_grown : Keeps (Grown w₀) (createWarehouseTransfersIfNeeded env d) := by
  refine Keeps.get_bind fun w grown => Keeps.foldlM (fun created product _ => ?_) 0 w grown
  refine Keeps.get_bind fun w grown => ?_
  refine Keeps.bind (Keeps.foldlM (fun pool warehouse _ w grown => ?_) _) (fun pool => Keeps.pure _) w grown
  unfold createWarehouseTransfer
  split
  · exact grown
  · dsimp only
    split
    · exact grown
    · split
      · exact grown
      · split
        · exact grown
        · split
          · exact grown
          · rename_i transfers inserted
            obtain ⟨rfl, -⟩ := insert?_eq_some inserted
            exact ⟨grown.orders, grown.transfers.trans (List.prefix_append _ _),
              grown.ledger.trans (List.prefix_append _ _)⟩

/-- After the iteration of a pair it is not short; a pair that was not short stays so. -/
theorem createPurchaseOrder_covers (suppliers : List Supplier) (product : Product) (created : ℕ)
    (warehouse : Warehouse) {w w' : World} {created' : ℕ}
    (run : createPurchaseOrder env d suppliers product created warehouse w = .ok created' w') :
    Grown w w' ∧ w'.inventoryTransaction = w.inventoryTransaction ∧ ¬ Short d w' product.id warehouse.id := by
  unfold createPurchaseOrder at run
  split at run <;> rename_i under
  · cases run
    refine ⟨.refl w, rfl, fun short => ?_⟩
    rw [short.2.1, short.2.2] at under
    cases under
  · dsimp only at run
    split at run <;> rename_i low
    · cases run
      refine ⟨.refl w, rfl, fun short => ?_⟩
      rw [short.1] at low
      cases low
    · split at run
      · cases run
      · split at run
        · cases run
        · rename_i supplier _ rows inserted
          cases run
          unfold insertPurchaseOrder? at inserted
          split at inserted
          · cases inserted
          · obtain ⟨rfl, -⟩ := insert?_eq_some inserted
            refine ⟨⟨List.prefix_append _ _, List.prefix_rfl, List.prefix_rfl⟩, rfl, fun short => ?_⟩
            have none := short.2.1
            simp [hasOpenPurchaseOrder, PurchaseOrderStatus.isOpen] at none

theorem Short.before {w w' : World} {p wh : String} (grown : Grown w w')
    (ledger : w'.inventoryTransaction = w.inventoryTransaction) (h : Short d w' p wh) : Short d w p wh := by
  obtain ⟨low, orders, transfers⟩ := h
  refine ⟨?_, ?_, ?_⟩
  · rwa [currentInventoryPosition, avgDailyShippedDemand, ledger] at low
  · rw [hasOpenPurchaseOrder, List.any_eq_false] at orders ⊢
    exact fun po mem => orders po (grown.orders.subset mem)
  · rw [hasOpenInboundTransfer, List.any_eq_false] at transfers ⊢
    exact fun t mem => transfers t (grown.transfers.subset mem)

/-- The pass adds orders only. -/
structure Ordered (w w' : World) : Prop where
  grown : Grown w w'
  ledger : w'.inventoryTransaction = w.inventoryTransaction

theorem Ordered.trans (w₁ w₂ w₃ : World) (h : Ordered w₁ w₂) (h' : Ordered w₂ w₃) : Ordered w₁ w₃ :=
  ⟨h.grown.trans h'.grown, h'.ledger.trans h.ledger⟩

/-- After the pass no active pair is short. -/
theorem createPurchaseOrdersIfNeeded_covers {w w' : World} {created : ℕ}
    (run : createPurchaseOrdersIfNeeded env d w = .ok created w') :
    Ordered w w' ∧ ∀ p ∈ w.master.product, p.isActive = true → ∀ wh ∈ w.master.warehouse, wh.isActive = true →
      ¬ Short d w' p.id wh.id := by
  have loop := foldlM_each (K := Ordered)
    (Q := fun (p : Product) w' => ∀ wh ∈ env.purchaseWarehouses.rows (w.master.warehouse.filter (·.isActive)),
      ¬ Short d w' p.id wh.id)
    (fun w => ⟨.refl w, rfl⟩) Ordered.trans
    (fun p w w' ordered covered wh mem short => covered wh mem (short.before ordered.grown ordered.ledger))
    (fun b p w₁ b' w₂ _ run => foldlM_each (Q := fun (wh : Warehouse) w' => ¬ Short d w' p.id wh.id)
      (fun w => ⟨.refl w, rfl⟩) Ordered.trans
      (fun wh w w' ordered covered short => covered (short.before ordered.grown ordered.ledger))
      (fun b wh w₁ b' w₂ _ run => by
        obtain ⟨grown, ledger, covered⟩ := createPurchaseOrder_covers env _ p b wh run
        exact ⟨⟨grown, ledger⟩, covered⟩) run)
    (show (List.foldlM _ 0 _ : Pass ℕ) w = .ok created w' from run)
  refine ⟨loop.1, fun p hp active wh hwh activeWarehouse => loop.2 p ?_ wh ?_⟩
  · exact (RowOrder.mem_rows _).2 (List.mem_filter.2 ⟨hp, active⟩)
  · exact (RowOrder.mem_rows _).2 (List.mem_filter.2 ⟨hwh, activeWarehouse⟩)

/-- The sales side of a tick leaves the supply tables alone. -/
structure SalesSide (w₀ w : World) : Prop where
  orders : w.purchaseOrder = w₀.purchaseOrder
  transfers : w.warehouseTransfer = w₀.warehouseTransfer
  ledger : w₀.inventoryTransaction <+: w.inventoryTransaction

theorem progressShipments_side : Keeps (SalesSide w₀) (progressShipments env d) := by
  refine Keeps.get_bind fun w side => Keeps.foldlM (fun progressed id _ w side => ?_) 0 w side
  unfold progressShipment
  split
  · exact side
  · split
    · exact ⟨side.orders, side.transfers, side.ledger⟩
    · split
      · exact side
      · dsimp only
        split
        · exact ⟨side.orders, side.transfers, side.ledger⟩
        · exact side

theorem progressOpenSalesOrders_side (events : ℕ) :
    Keeps (SalesSide w₀) (progressOpenSalesOrders env d events) := by
  refine Keeps.get_bind fun w side => Keeps.foldlM (fun events id _ w side => ?_) events w side
  unfold progressSalesOrder
  split
  · exact side
  · dsimp only
    split
    · split
      · exact ⟨side.orders, side.transfers, side.ledger⟩
      · exact side
    · split
      · exact side
      · split
        · exact ⟨side.orders, side.transfers, side.ledger.trans (shipLines_extends ..)⟩
        · split <;> exact ⟨side.orders, side.transfers, side.ledger.trans (shipLines_extends ..)⟩

theorem createSalesOrdersIfNeeded_side : Keeps (SalesSide w₀) (createSalesOrdersIfNeeded env d) := by
  refine Keeps.get_bind fun w side => Keeps.foldlM (fun created customer _ w side => ?_) 0 w side
  unfold createSalesOrder
  dsimp only
  split
  · exact side
  · split
    · exact side
    · split
      · exact side
      · exact ⟨side.orders, side.transfers, side.ledger⟩

/-- What a tick adds after the arrivals. -/
theorem FlowPasses.grown {w w' : World} (passes : FlowPasses env d w w') :
    Grown passes.arrived.2 passes.reordered.2 ∧ SalesSide passes.reordered.2 w' := by
  have transfers := (createWarehouseTransfersIfNeeded_grown env).of_ok (.refl _) passes.transfers
  have orders := (createPurchaseOrdersIfNeeded_covers env passes.reorders).1.grown
  refine ⟨transfers.trans orders, ?_⟩
  obtain ⟨shipmentEvents, progressed, shipments, open'⟩ := bind_eq_ok passes.sales
  have side := (progressShipments_side env).of_ok (SalesSide.mk rfl rfl List.prefix_rfl) shipments
  have side := (progressOpenSalesOrders_side env _).of_ok side open'
  have side := (createSalesOrdersIfNeeded_side env).of_ok side passes.demand
  have last : SalesSide passes.reordered.2 (endState (snapshotInventoryPositions env d passes.ordered.2)) :=
    ⟨side.orders, side.transfers, side.ledger⟩
  rwa [← passes.last] at last

theorem SalesSide.grown {w w' : World} (h : SalesSide w w') : Grown w w' :=
  ⟨h.orders ▸ List.prefix_rfl, h.transfers ▸ List.prefix_rfl, h.ledger⟩

end Passes

/-! ## A tick -/

section Tick

variable {env : TickEnv} {d : Date} {w w' : World} {p wh : String} {due : Date} {begun : Bool}

/-- What a tick that returns does to what is under way. -/
structure SupplyTick (env : TickEnv) (d : Date) (w w' : World) : Prop where
  orders : ∀ po ∈ w.purchaseOrder, po.status.isOpen = true → progressedPurchaseOrder env d po ∈ w'.purchaseOrder
  transfers : ∀ t ∈ w.warehouseTransfer, t.status.inFlight = true → progressedTransfer d t ∈ w'.warehouseTransfer
  ledger : w.inventoryTransaction ++ ((openPurchaseOrderRows env w).flatMap (receiptsOf env d) ++
    (inFlightTransferRows env w).flatMap (arrivalsOf d)) <+: w'.inventoryTransaction

theorem FlowPasses.supplyTick (passes : FlowPasses env d w w') (wf : Wf w) : SupplyTick env d w w' := by
  obtain ⟨grown, side⟩ := passes.grown env
  have later := grown.trans side.grown
  have receipts := passes.receipts
  rw [progressPurchaseOrders_eq env d wf.purchaseOrder] at receipts
  injection receipts with _ received
  have arrivals := passes.arrivals
  have keyed : Keyed (·.id) (afterPurchaseOrders env d w (openPurchaseOrderRows env w)).warehouseTransfer :=
    wf.warehouseTransfer
  rw [← received, progressWarehouseTransfers_eq env d keyed] at arrivals
  injection arrivals with _ arrived
  rw [← arrived] at later
  constructor
  case orders =>
    intro po mem isOpen
    refine later.orders.subset ?_
    show _ ∈ updateAll (·.id) (progressedPurchaseOrder env d) (openPurchaseOrderRows env w) w.purchaseOrder
    rw [purchaseOrders_after env d wf.purchaseOrder]
    exact List.mem_map.2 ⟨po, mem, if_pos isOpen⟩
  case transfers =>
    intro t mem inFlight
    refine later.transfers.subset ?_
    show _ ∈ updateAll (·.id) (progressedTransfer d) (inFlightTransferRows env w) w.warehouseTransfer
    rw [transfers_after env d wf.warehouseTransfer]
    exact List.mem_map.2 ⟨t, mem, if_pos inFlight⟩
  case ledger =>
    rw [← List.append_assoc]
    exact later.ledger

/-- A receipt or an arrival of the pair that the tick books. -/
theorem SupplyTick.arrives (tick : SupplyTick env d w w') {t : InventoryTransaction}
    (booked : t ∈ (openPurchaseOrderRows env w).flatMap (receiptsOf env d) ∨
      t ∈ (inFlightTransferRows env w).flatMap (arrivalsOf d))
    (pair : t.productId = p ∧ t.warehouseId = wh) (some' : 0 < t.quantityDelta)
    (kind : t.transactionType = .receipt ∨ t.transactionType = .transferIn) :
    Arrived p wh w.inventoryTransaction w'.inventoryTransaction :=
  Arrived.grown ⟨_, rfl, t, List.mem_append.2 booked, pair.1, pair.2, some', kind⟩ tick.ledger

/-- A line that waits brings stock. -/
theorem receipts_arrive {po : PurchaseOrder} (told : PurchaseOrder.Told po) (isOpen : po.status.isOpen = true)
    (line : ∃ l ∈ po.lines, l.productId = p) (fraction : Option ℚ) {lines : List PurchaseOrderLine}
    (perm : lines.Perm po.lines) : ∃ t ∈ lines.filterMap (receiptOf d po fraction),
      (t.productId = p ∧ t.warehouseId = po.warehouseId) ∧ 0 < t.quantityDelta ∧ t.transactionType = .receipt := by
  obtain ⟨l, single, legal, status⟩ := told
  obtain ⟨l', mem, product⟩ := line
  rw [single, List.mem_singleton] at mem
  subst mem
  have waits : 0 < PurchaseOrderLine.remaining l' := by
    have ordered := legal.ordered
    unfold PurchaseOrderLine.remaining
    unfold PurchaseOrderLine.statuses at status
    split at status
    · omega
    · split at status
      · omega
      · rw [List.mem_singleton.1 status] at isOpen
        cases isOpen
  have mem : l' ∈ lines := perm.mem_iff.2 (by rw [single]; exact List.mem_singleton_self _)
  exact ⟨_, List.mem_filterMap.2 ⟨l', mem, if_neg (not_le.2 waits)⟩, ⟨product, rfl⟩,
    (receiveQuantity_bounds fraction waits).1, rfl⟩

theorem SupplyTick.order (tick : SupplyTick env d w w') (told : StatusesTold w) {po : PurchaseOrder}
    (mem : po ∈ w.purchaseOrder) (isOpen : po.status.isOpen = true) (line : ∃ l ∈ po.lines, l.productId = p)
    (confirmed : begun = true → po.status ≠ .submitted) :
    Arrived p po.warehouseId w.inventoryTransaction w'.inventoryTransaction ∨
      (Awaited w' p po.warehouseId po.expectedDeliveryDate true ∧
        (begun = true → d < po.expectedDeliveryDate)) := by
  have row := tick.orders po mem isOpen
  unfold progressedPurchaseOrder purchaseOrderStep at row
  by_cases submitted : po.status = .submitted
  · rw [if_pos submitted] at row
    refine .inr ⟨.order _ row rfl line rfl rfl fun _ => nofun, fun late => ?_⟩
    exact absurd submitted (confirmed late)
  · rw [if_neg submitted] at row
    by_cases today : po.expectedDeliveryDate ≤ d
    · obtain ⟨t, booked, pair, some', receipt⟩ := receipts_arrive (d := d) (told.purchaseOrders po mem) isOpen line
        (rollPartialReceiptFraction (env.rng d (.poPartialReceipt po.id)))
        ((env.purchaseOrderLines po.id).perm po.lines)
      refine .inl (tick.arrives (.inl (List.mem_flatMap.2 ⟨po, ?_, ?_⟩)) pair some' (.inl receipt))
      · exact (RowOrder.mem_rows _).2 (List.mem_filter.2 ⟨mem, isOpen⟩)
      · rw [receiptsOf, purchaseOrderStep, if_neg submitted, if_pos today]
        exact booked
    · rw [if_neg today] at row
      exact .inr ⟨.order po row isOpen line rfl rfl fun _ => submitted, fun _ => not_le.1 today⟩

theorem SupplyTick.transfer (tick : SupplyTick env d w w') (told : StatusesTold w) {t : WarehouseTransfer}
    (mem : t ∈ w.warehouseTransfer) (inFlight : t.status.inFlight = true)
    (left : begun = true → t.status ≠ .pending) :
    Arrived t.productId t.toWarehouseId w.inventoryTransaction w'.inventoryTransaction ∨
      (Awaited w' t.productId t.toWarehouseId (t.transferDate + warehouseTransferTransitDays) true ∧
        (begun = true → d < t.transferDate + warehouseTransferTransitDays)) := by
  have row := tick.transfers t mem inFlight
  unfold progressedTransfer at row
  by_cases pending : t.status = .pending
  · rw [if_pos pending] at row
    refine .inr ⟨.transfer _ row rfl rfl rfl rfl fun _ => nofun, fun late => ?_⟩
    exact absurd pending (left late)
  · rw [if_neg pending] at row
    cases today : transferDue d t with
    | true =>
      refine .inl (tick.arrives (t := transferIn t d) (.inr (List.mem_flatMap.2 ⟨t, ?_, ?_⟩)) ⟨rfl, rfl⟩
        (told.transfers t mem).quantity (.inr rfl))
      · exact (RowOrder.mem_rows _).2 (List.mem_filter.2 ⟨mem, inFlight⟩)
      · rw [arrivalsOf, if_pos today]
        exact List.mem_singleton_self _
    | false =>
      rw [today, if_neg Bool.false_ne_true] at row
      refine .inr ⟨.transfer t row inFlight rfl rfl rfl fun _ => pending, fun _ => ?_⟩
      by_contra past
      exact of_decide_eq_false today ⟨pending, not_lt.1 past⟩

/-- A tick that returns brings what is under way closer: once it is begun, the day it is due brings it. -/
theorem scheduledFlow_awaited {events : ℕ} (wf : Wf w) (told : StatusesTold w)
    (run : scheduledFlow env d w = .ok events w') (h : Awaited w p wh due begun) :
    Arrived p wh w.inventoryTransaction w'.inventoryTransaction ∨
      (Awaited w' p wh due true ∧ (begun = true → d < due)) := by
  obtain ⟨passes⟩ := scheduledFlow_passes run
  have tick := passes.supplyTick wf
  cases h with
  | order po mem isOpen line warehouse expected confirmed =>
    subst warehouse expected
    exact tick.order told mem isOpen line confirmed
  | transfer t mem inFlight product warehouse arrival left =>
    subst product warehouse arrival
    exact tick.transfer told mem inFlight left

/-- What is open or in flight is awaited. -/
theorem awaited_of_open {w : World} (h : hasOpenPurchaseOrder w p wh = true ∨ hasOpenInboundTransfer w p wh = true) :
    ∃ due, Awaited w p wh due false := by
  rcases h with orders | transfers
  · obtain ⟨po, mem, found⟩ := List.any_eq_true.1 orders
    simp only [Bool.and_eq_true, decide_eq_true_eq, List.any_eq_true] at found
    obtain ⟨⟨line, warehouse⟩, isOpen⟩ := found
    exact ⟨_, .order po mem isOpen line warehouse rfl nofun⟩
  · obtain ⟨t, mem, found⟩ := List.any_eq_true.1 transfers
    simp only [Bool.and_eq_true, decide_eq_true_eq] at found
    obtain ⟨⟨product, warehouse⟩, inFlight⟩ := found
    exact ⟨_, .transfer t mem inFlight product warehouse rfl nofun⟩

/-- After a tick that returns an active pair has something under way, or the purchase pass has left it at its
reorder point. -/
theorem FlowPasses.answers (passes : FlowPasses env d w w') (product : Product) (warehouse : Warehouse)
    (hp : product ∈ w.master.product) (activeProduct : product.isActive = true)
    (hwh : warehouse ∈ w.master.warehouse) (activeWarehouse : warehouse.isActive = true) :
    isBelowReorderPoint (currentInventoryPosition passes.reordered.2 product.id warehouse.id)
        (avgDailyShippedDemand passes.reordered.2 product.id warehouse.id d) reorderSafetyDays = false ∨
      ∃ due, Awaited w' product.id warehouse.id due false := by
  have same := (progressPurchaseOrders_sales env).of_ok (SameSales.refl w) passes.receipts
  have same := (progressWarehouseTransfers_sales env).of_ok same passes.arrivals
  have same := (createWarehouseTransfersIfNeeded_sales env).of_ok same passes.transfers
  have master : passes.transferred.2.master = w.master := same.2.master
  have covered := (createPurchaseOrdersIfNeeded_covers env passes.reorders).2 product (by rwa [master])
    activeProduct warehouse (by rwa [master]) activeWarehouse
  have side := (passes.grown env).2.grown
  cases low : isBelowReorderPoint (currentInventoryPosition passes.reordered.2 product.id warehouse.id)
      (avgDailyShippedDemand passes.reordered.2 product.id warehouse.id d) reorderSafetyDays with
  | false => exact .inl rfl
  | true =>
    refine .inr ?_
    have under : hasOpenPurchaseOrder passes.reordered.2 product.id warehouse.id = true ∨
        hasOpenInboundTransfer passes.reordered.2 product.id warehouse.id = true := by
      by_contra none
      rw [not_or, Bool.not_eq_true, Bool.not_eq_true] at none
      exact covered ⟨low, none⟩
    obtain ⟨due, awaited⟩ := awaited_of_open under
    exact ⟨due, awaited.grown side⟩

end Tick

end MeadowOps.Flow
