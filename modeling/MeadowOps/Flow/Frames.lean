import MeadowOps.Flow.Simulation

/-!
# What the passes leave alone

The passes before the sales orders do not touch the sales tables, and the loop over the sales orders is
given by what one iteration that returns has done.
-/

namespace MeadowOps.Flow

open Db Lib

/-- The sales orders and their events are those of `w₀`. -/
structure SameOrders (w₀ w : World) : Prop where
  orders : w.salesOrder = w₀.salesOrder
  events : w.salesOrderLifecycleEvent = w₀.salesOrderLifecycleEvent

/-- The shipments and the master data are those of `w₀`. -/
structure SameShipments (w₀ w : World) : Prop where
  shipments : w.shipment = w₀.shipment
  master : w.master = w₀.master

abbrev SameSales (w₀ w : World) : Prop := SameOrders w₀ w ∧ SameShipments w₀ w

theorem SameSales.refl (w : World) : SameSales w w := ⟨⟨rfl, rfl⟩, ⟨rfl, rfl⟩⟩

variable (env : TickEnv) {d : Date} {w₀ : World}

theorem progressPurchaseOrders_sales : Keeps (SameSales w₀) (progressPurchaseOrders env d) := by
  refine Keeps.get_bind fun w same => Keeps.foldlM (fun events id _ w same => ?_) 0 w same
  unfold progressPurchaseOrder
  split
  · exact same
  · split
    · exact same
    · dsimp only
      split
      · exact ⟨⟨same.1.1, same.1.2⟩, ⟨same.2.1, same.2.2⟩⟩
      · exact ⟨⟨same.1.1, same.1.2⟩, ⟨same.2.1, same.2.2⟩⟩

theorem progressWarehouseTransfers_sales : Keeps (SameSales w₀) (progressWarehouseTransfers env d) := by
  refine Keeps.get_bind fun w same => Keeps.foldlM (fun events id _ w same => ?_) 0 w same
  unfold progressWarehouseTransfer
  split
  · exact same
  · split
    · exact ⟨⟨same.1.1, same.1.2⟩, ⟨same.2.1, same.2.2⟩⟩
    · split
      · exact ⟨⟨same.1.1, same.1.2⟩, ⟨same.2.1, same.2.2⟩⟩
      · exact same

theorem createWarehouseTransfer_sales (product : Product) (warehouses : List Warehouse)
    (allocated : String → ℤ) (demands : String → ℚ) (pool : DonorPool) (warehouse : Warehouse) :
    Keeps (SameSales w₀)
      (createWarehouseTransfer env d product warehouses allocated demands pool warehouse) := by
  intro w same
  unfold createWarehouseTransfer
  split
  · exact same
  · dsimp only
    split
    · exact same
    · split
      · exact same
      · split
        · exact same
        · split
          · exact same
          · exact ⟨⟨same.1.1, same.1.2⟩, ⟨same.2.1, same.2.2⟩⟩

theorem createWarehouseTransfersIfNeeded_sales :
    Keeps (SameSales w₀) (createWarehouseTransfersIfNeeded env d) := by
  refine Keeps.get_bind fun w same => Keeps.foldlM (fun created product _ => ?_) 0 w same
  refine Keeps.get_bind fun w same => ?_
  refine Keeps.bind (Keeps.foldlM (fun pool warehouse _ => ?_) _) (fun pool => Keeps.pure _) w same
  exact createWarehouseTransfer_sales env product _ _ _ pool warehouse

theorem createPurchaseOrder_sales (suppliers : List Supplier) (product : Product) (created : ℕ)
    (warehouse : Warehouse) :
    Keeps (SameSales w₀) (createPurchaseOrder env d suppliers product created warehouse) := by
  intro w same
  unfold createPurchaseOrder
  split
  · exact same
  · dsimp only
    split
    · exact same
    · split
      · exact same
      · split
        · exact same
        · exact ⟨⟨same.1.1, same.1.2⟩, ⟨same.2.1, same.2.2⟩⟩

theorem createPurchaseOrdersIfNeeded_sales :
    Keeps (SameSales w₀) (createPurchaseOrdersIfNeeded env d) := by
  refine Keeps.get_bind fun w same => Keeps.foldlM (fun created product _ => ?_) 0 w same
  exact Keeps.foldlM (fun created warehouse _ => createPurchaseOrder_sales env _ _ _ _) created

theorem progressShipments_orders : Keeps (SameOrders w₀) (progressShipments env d) := by
  refine Keeps.get_bind fun w same => Keeps.foldlM (fun progressed id _ w same => ?_) 0 w same
  unfold progressShipment
  split
  · exact same
  · split
    · exact ⟨same.1, same.2⟩
    · split
      · exact same
      · dsimp only
        split
        · exact ⟨same.1, same.2⟩
        · exact same

theorem createSalesOrdersIfNeeded_shipments :
    Keeps (SameShipments w₀) (createSalesOrdersIfNeeded env d) := by
  refine Keeps.get_bind fun w same => Keeps.foldlM (fun created customer _ w same => ?_) 0 w same
  unfold createSalesOrder
  dsimp only
  split
  · exact same
  · split
    · exact same
    · split
      · exact same
      · exact ⟨same.1, same.2⟩

/-- The passes of a tick that returns, as far as the sales tables are concerned. -/
structure SalesPasses (d : Date) (w w' : World) where
  before : World
  progressed : World
  shipped : World
  ordered : World
  shipmentEvents : ℕ
  orderEvents : ℕ
  created : ℕ
  sameBefore : SameSales w before
  shipments : progressShipments env d before = .ok shipmentEvents progressed
  orders : progressOpenSalesOrders env d shipmentEvents progressed = .ok orderEvents shipped
  demand : createSalesOrdersIfNeeded env d shipped = .ok created ordered
  snapshot : w' = endState (snapshotInventoryPositions env d ordered)

theorem salesPasses_of_ok {w w' : World} {events : ℕ} (run : scheduledFlow env d w = .ok events w') :
    Nonempty (SalesPasses env d w w') := by
  obtain ⟨passes⟩ := scheduledFlow_passes run
  obtain ⟨shipmentEvents, progressed, shipments, orders⟩ := bind_eq_ok passes.sales
  have same1 := (progressPurchaseOrders_sales env).of_ok (SameSales.refl w) passes.receipts
  have same2 := (progressWarehouseTransfers_sales env).of_ok same1 passes.arrivals
  have same3 := (createWarehouseTransfersIfNeeded_sales env).of_ok same2 passes.transfers
  have same4 := (createPurchaseOrdersIfNeeded_sales env).of_ok same3 passes.reorders
  exact ⟨⟨_, progressed, _, _, shipmentEvents, _, _, same4, shipments, orders, passes.demand, passes.last⟩⟩

/-- What an iteration of the loop over the sales orders that returns has done. -/
inductive OrderProgress (d : Date) (carriers : List Carrier) (so : SalesOrder) (w : World) : World → Prop
  | waits : OrderProgress d carriers so w w
  | allocated (submitted : so.status = .submitted) :
      OrderProgress d carriers so w { w with
        salesOrder := modify (·.id) so.id (fun so => { so with
          status := .allocated, promisedDate := some (d + genericPromiseDays) }) w.salesOrder
        salesOrderLifecycleEvent := w.salesOrderLifecycleEvent ++
          [⟨so.id, some so.status, .allocated, d⟩] }
  | shipped (lines : List SalesOrderLine) (shipments : List Shipment)
      (status : so.status = .allocated ∨ so.status = .partiallyShipped) (perm : lines.Perm so.lines)
      (shipment : (if fullyShipped (shipLines d so lines w.inventoryTransaction).1 then
        addShipment env d carriers so w.shipment else some w.shipment) = some shipments) :
      OrderProgress d carriers so w { w with
        salesOrder := modify (·.id) so.id
          (shippedOrder (shipLines d so lines w.inventoryTransaction).1) w.salesOrder
        inventoryTransaction := (shipLines d so lines w.inventoryTransaction).2.1
        shipment := shipments
        salesOrderLifecycleEvent := w.salesOrderLifecycleEvent ++ transitionEvents so.id so.status
          (shippedOrder (shipLines d so lines w.inventoryTransaction).1 so).status d }

theorem progressSalesOrder_ok {carriers : List Carrier} {so : SalesOrder} {w w' : World}
    {events events' : ℕ} (keyed : Keyed (·.id) w.salesOrder) (mem : so ∈ w.salesOrder)
    (isOpen : so.status.isOpen = true)
    (run : progressSalesOrder env d carriers events so.id w = .ok events' w') :
    OrderProgress env d carriers so w w' := by
  have found : lookup (·.id) so.id w.salesOrder = some so := lookup_of_mem keyed mem
  simp only [progressSalesOrder, found] at run
  split at run <;> rename_i submitted
  · split at run
    · cases run
      exact .allocated submitted
    · cases run
      exact .waits
  · have status : so.status = .allocated ∨ so.status = .partiallyShipped := by
      revert isOpen submitted
      cases so.status <;> simp [SalesOrderStatus.isOpen]
    split at run
    · cases run
      exact .waits
    · have shipped := fun shipments => @OrderProgress.shipped env d carriers so w _ shipments status
        ((env.salesOrderLines so.id).perm so.lines)
      split at run
      · cases run
      · rename_i shipments added
        have done := shipped shipments added
        split at run <;> rename_i same
        · cases run
          rw [transitionEvents, if_pos same.symm, List.append_nil] at done
          exact done
        · cases run
          rw [transitionEvents, if_neg (Ne.symm same)] at done
          exact done

theorem OrderProgress.others {carriers : List Carrier} {so : SalesOrder} {w w' : World}
    (h : OrderProgress env d carriers so w w') :
    ∀ so' ∈ w.salesOrder, so'.id ≠ so.id → so' ∈ w'.salesOrder := by
  intro so' mem ne
  cases h with
  | waits => exact mem
  | allocated => exact mem_modify_of_ne mem ne
  | shipped => exact mem_modify_of_ne mem ne

/-- What the iterations that return keep, the loop that returns keeps. -/
theorem progressOpenSalesOrders_run {I : World → Prop} {w w' : World} {events events' : ℕ}
    (keyed : ∀ w, I w → Keyed (·.id) w.salesOrder)
    (keep : ∀ so w w' events events', so ∈ w.salesOrder →
      progressSalesOrder env d (activeCarriers env w₀) events so.id w = .ok events' w' →
      OrderProgress env d (activeCarriers env w₀) so w w' → I w → I w')
    (same : activeCarriers env w = activeCarriers env w₀) (hw : I w)
    (run : progressOpenSalesOrders env d events w = .ok events' w') : I w' := by
  refine loadedRows_ok (T := World.salesOrder) (P := fun so => so.status.isOpen = true)
    (fun events so w₁ events' w₂ inv mem isOpen step => ?_) (loaded_nodup (keyed w hw) _ _) events hw
    (fun so h => by simpa using h) (show _ = _ from run)
  rw [show env.carriers.rows (w.master.carrier.filter (·.isActive)) = activeCarriers env w₀ from same]
    at step
  have progress := progressSalesOrder_ok env (keyed w₁ inv) mem isOpen step
  exact ⟨keep so w₁ w₂ events events' mem step progress inv, progress.others⟩

/-- What the iterations keep, the loop that returns keeps. -/
theorem progressOpenSalesOrders_ok {I : World → Prop} {w w' : World} {events events' : ℕ}
    (keyed : ∀ w, I w → Keyed (·.id) w.salesOrder)
    (keep : ∀ so w w', so ∈ w.salesOrder → OrderProgress env d (activeCarriers env w₀) so w w' → I w → I w')
    (same : activeCarriers env w = activeCarriers env w₀) (hw : I w)
    (run : progressOpenSalesOrders env d events w = .ok events' w') : I w' :=
  progressOpenSalesOrders_run env keyed (fun so w w' _ _ mem _ => keep so w w' mem) same hw run

end MeadowOps.Flow
