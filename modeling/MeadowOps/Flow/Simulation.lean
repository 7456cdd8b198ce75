import MeadowOps.Flow.Steps

/-!
# Every pass is a sequence of steps

A loop walks the rows that satisfied its WHERE clause when the pass began. An iteration changes
its own row only, hence the clause still holds of the rows to come (`loadedRows_end`). The loop
over recipients is the one whose local copies must be related to the tables: `DonorPool.Agrees`.
-/

namespace MeadowOps.Flow

open Db Lib Relation

variable (env : TickEnv) {A : World → SalesOrder → Prop} {d : Date} {w₀ : World}

/-- `x` moves by steps of the day from any world reached so far, also when it raises. -/
abbrev Moves (A : World → SalesOrder → Prop) (d : Date) (w₀ : World) {α : Type} (x : Pass α) : Prop :=
  Keeps (FlowSteps A d w₀) x

theorem rollPartialReceiptFraction_range (rng : Rng) :
    FractionRange (rollPartialReceiptFraction rng) := by
  intro q hq
  rw [rollPartialReceiptFraction] at hq
  split at hq
  · cases hq
  · rw [Option.mem_some_iff] at hq
    subst hq
    have ⟨low, high⟩ := pyRoundTo_unit 4 (rng.random_range 1).1 (rng.random_range 1).2
    simp only [partialReceiptMinFraction, partialReceiptMaxFraction]
    constructor <;> linarith

/-! ## Purchase orders -/

/-- An iteration of the loop over the purchase orders is a sequence of steps. -/
theorem progressPurchaseOrder_step {po : PurchaseOrder} {w : World} (hw : Wf w) (events : ℕ)
    (mem : po ∈ w.purchaseOrder) (isOpen : po.status.isOpen = true) :
    FlowSteps A d w (endState (progressPurchaseOrder env d events po.id w)) ∧
      ∀ po' ∈ w.purchaseOrder, po'.id ≠ po.id →
        po' ∈ (endState (progressPurchaseOrder env d events po.id w)).purchaseOrder := by
  have found : lookup (·.id) po.id w.purchaseOrder = some po := lookup_of_mem hw.purchaseOrder mem
  simp only [progressPurchaseOrder, found, purchaseOrderStep]
  by_cases submitted : po.status = .submitted
  · have ne : PurchaseOrderStatus.confirmed ≠ po.status := by simp [submitted]
    simp only [if_pos submitted, if_neg ne, List.append_nil, endState_ok]
    exact ⟨.single (.confirm po mem submitted), fun _ h ne => mem_modify_of_ne h ne⟩
  · simp only [if_neg submitted]
    by_cases due : po.expectedDeliveryDate ≤ d
    · have status : po.status = .confirmed ∨ po.status = .partiallyReceived := by
        revert isOpen submitted
        cases po.status <;> simp [PurchaseOrderStatus.isOpen]
      have step := FlowStep.receive (A := A) po _ _ mem status due
        ((env.purchaseOrderLines po.id).perm po.lines)
        (rollPartialReceiptFraction_range (env.rng d (.poPartialReceipt po.id)))
      simp only [if_pos due]
      simp only [transitionEvents] at step
      split <;> rename_i same
      · rw [if_pos same, List.append_nil] at step
        exact ⟨.single step, fun _ h ne => mem_modify_of_ne h ne⟩
      · rw [if_neg same] at step
        exact ⟨.single step, fun _ h ne => mem_modify_of_ne h ne⟩
    · simp only [if_neg due, endState_ok]
      exact ⟨.refl, fun _ h _ => h⟩

theorem progressPurchaseOrders_moves (hw : Wf w₀) : Moves A d w₀ (progressPurchaseOrders env d) := by
  refine Keeps.get_bind fun w reached => ?_
  have wf := FlowSteps.wf reached hw
  refine loadedRows_end (T := World.purchaseOrder) (P := fun po => po.status.isOpen = true)
    (fun events po w' reached' mem isOpen => ?_) ?_ 0 reached fun po h => by simpa using h
  · obtain ⟨steps, rest⟩ :=
      progressPurchaseOrder_step env (FlowSteps.wf reached' hw) events mem isOpen
    exact ⟨reached'.trans steps, rest⟩
  · exact loaded_nodup wf.purchaseOrder _ _

/-! ## Warehouse transfers -/

/-- An iteration of the loop over the transfers is a sequence of steps. -/
theorem progressWarehouseTransfer_step {t : WarehouseTransfer} {w : World} (hw : Wf w) (events : ℕ)
    (mem : t ∈ w.warehouseTransfer) (inFlight : t.status.inFlight = true) :
    FlowSteps A d w (endState (progressWarehouseTransfer d events t.id w)) ∧
      ∀ t' ∈ w.warehouseTransfer, t'.id ≠ t.id →
        t' ∈ (endState (progressWarehouseTransfer d events t.id w)).warehouseTransfer := by
  have found : lookup (·.id) t.id w.warehouseTransfer = some t :=
    lookup_of_mem hw.warehouseTransfer mem
  simp only [progressWarehouseTransfer, found]
  by_cases pending : t.status = .pending
  · rw [if_pos pending]
    exact ⟨.single (.depart t mem pending), fun _ h ne => mem_modify_of_ne h ne⟩
  · have status : t.status = .inTransit := by
      revert inFlight pending
      cases t.status <;> simp [TransferStatus.inFlight]
    rw [if_neg pending]
    split <;> rename_i due
    · exact ⟨.single (.arrive t mem status due), fun _ h ne => mem_modify_of_ne h ne⟩
    · exact ⟨.refl, fun _ h _ => h⟩

theorem progressWarehouseTransfers_moves (hw : Wf w₀) :
    Moves A d w₀ (progressWarehouseTransfers env d) := by
  refine Keeps.get_bind fun w reached => ?_
  have wf := FlowSteps.wf reached hw
  refine loadedRows_end (T := World.warehouseTransfer) (P := fun t => t.status.inFlight = true)
    (fun events t w' reached' mem inFlight => ?_) ?_ 0 reached fun t h => by simpa using h
  · obtain ⟨steps, rest⟩ :=
      progressWarehouseTransfer_step (FlowSteps.wf reached' hw) events mem inFlight
    exact ⟨reached'.trans steps, rest⟩
  · exact loaded_nodup wf.warehouseTransfer _ _

/-- The local copies of a product's loop agree with the tables. -/
structure DonorPool.Agrees (d : Date) (p : String) (allocated : String → ℤ) (demands : String → ℚ)
    (pool : DonorPool) (w : World) : Prop where
  positions : ∀ wh, pool.positions wh = currentInventoryPosition w p wh
  allocated : ∀ wh, allocated wh = allocatedQuantity w p wh
  demands : ∀ wh, demands wh = avgDailyShippedDemand w p wh d

/-- Debiting the local copy is what an outbound row does to the stock; the row is no shipment, so
the demands stay. -/
theorem DonorPool.Agrees.debit {p donor : String} {allocated : String → ℤ} {demands : String → ℚ}
    {pool : DonorPool} {w w' : World} (agrees : pool.Agrees d p allocated demands w)
    {row : InventoryTransaction} {quantity : ℤ}
    (ledger : w'.inventoryTransaction = w.inventoryTransaction ++ [row])
    (orders : w'.salesOrder = w.salesOrder) (product : row.productId = p)
    (warehouse : row.warehouseId = donor) (type : row.transactionType = .transferOut)
    (delta : row.quantityDelta = -quantity) (created : ℕ) :
    DonorPool.Agrees d p allocated demands
      ⟨fun wh => if wh = donor then pool.positions donor - quantity else pool.positions wh, created⟩
      w' where
  positions wh := by
    have old := agrees.positions wh
    simp only [currentInventoryPosition, inventoryPosition] at old ⊢
    rw [ledger, sumWhere_append, ← old]
    subst product warehouse
    by_cases h : wh = row.warehouseId
    · simp [h, delta, sub_eq_add_neg]
    · simp [h, Ne.symm h]
  allocated wh := by
    rw [agrees.allocated, allocatedQuantity, allocatedQuantity, orders]
  demands wh := by
    rw [agrees.demands]
    simp [avgDailyShippedDemand, ledger, type]

/-- A warehouse is served by steps, and the pool still agrees with the tables. -/
theorem createWarehouseTransfer_step {product : Product} (warehouses : List Warehouse)
    {allocated : String → ℤ} {demands : String → ℚ} {pool : DonorPool} {w : World}
    (agrees : pool.Agrees d product.id allocated demands w) (warehouse : Warehouse) :
    match createWarehouseTransfer env d product warehouses allocated demands pool warehouse w with
    | .ok pool' w' => FlowSteps A d w w' ∧ pool'.Agrees d product.id allocated demands w'
    | .error _ w' => w' = w := by
  unfold createWarehouseTransfer
  by_cases supplied : (hasOpenPurchaseOrder w product.id warehouse.id ||
      hasOpenInboundTransfer w product.id warehouse.id) = true
  · rw [if_pos supplied]
    exact ⟨.refl, agrees⟩
  rw [if_neg supplied]
  obtain ⟨noOrder, noTransfer⟩ : hasOpenPurchaseOrder w product.id warehouse.id = false ∧
      hasOpenInboundTransfer w product.id warehouse.id = false := by simpa using supplied
  dsimp only
  by_cases deficit :
      warehouseDeficit (pool.positions warehouse.id) (demands warehouse.id) reorderSafetyDays ≤ 0
  · rw [if_pos deficit]
    exact ⟨.refl, agrees⟩
  rw [if_neg deficit]
  cases picked : pickTransferDonor
      (donorCandidates warehouses pool.positions allocated demands warehouse.id) with
  | none => exact ⟨.refl, agrees⟩
  | some donor =>
    obtain ⟨donorId, surplus⟩ := donor
    obtain ⟨candidate, positive⟩ := pickTransferDonor_mem picked
    obtain ⟨donor, hdonor, same⟩ := List.mem_map.1 candidate
    obtain ⟨rfl, rfl⟩ := Prod.mk.inj same
    have distinct : donor.id ≠ warehouse.id := by simpa using (List.mem_filter.1 hdonor).2
    dsimp only at positive ⊢
    rw [if_neg (by omega)]
    cases inserted : insert? (·.id) _ w.warehouseTransfer with
    | none => rfl
    | some transfers =>
      obtain ⟨rfl, fresh⟩ := insert?_eq_some inserted
      refine ⟨.single (.transfer _ fresh noOrder noTransfer distinct (lt_min (by omega) positive)
        ?_ ?_ rfl rfl), ?_⟩
      · simp [agrees.positions, agrees.demands]
      · simp [agrees.positions, agrees.allocated, agrees.demands]
      · apply agrees.debit <;> rfl

theorem createWarehouseTransfersIfNeeded_moves :
    Moves A d w₀ (createWarehouseTransfersIfNeeded env d) := by
  refine Keeps.get_bind fun w reached => ?_
  refine Keeps.foldlM (fun created product _ => Keeps.get_bind fun w' reached' => ?_) 0 w reached
  rw [endState_bind_pure]
  refine foldlM_end (J := fun _ pool s => FlowSteps A d w₀ s ∧ pool.Agrees d product.id
    (allocatedQuantity w' product.id) (avgDailyShippedDemand w' product.id · d) s)
    ?_ (fun _ _ h => h.1) _ _ _ ⟨reached', fun _ => rfl, fun _ => rfl, fun _ => rfl⟩
  rintro warehouse warehouses pool s ⟨reached, agrees⟩
  have step := createWarehouseTransfer_step (A := A) env
    (env.warehousesById.rows (w.master.warehouse.filter (·.isActive))) agrees warehouse
  split <;> rename_i run
  · rw [run] at step
    exact ⟨reached.trans step.1, step.2⟩
  · rw [run] at step
    exact step ▸ reached

/-! ## New purchase orders -/

theorem jitteredLeadTimeDays_pos (base : ℤ) (v : Variability) (rng : Rng) :
    1 ≤ jitteredLeadTimeDays base v rng :=
  le_max_left _ _

theorem insertPurchaseOrder?_eq_some {po : PurchaseOrder} {rows rows' : List PurchaseOrder}
    (h : insertPurchaseOrder? po rows = some rows') :
    rows' = rows ++ [po] ∧ po.id ∉ rows.map (·.id) := by
  rw [insertPurchaseOrder?] at h
  split at h
  · cases h
  · exact insert?_eq_some h

/-- A product at a warehouse is ordered in one step, or not at all. -/
theorem createPurchaseOrder_step (suppliers : List Supplier) (product : Product) (created : ℕ)
    (warehouse : Warehouse) (w : World) :
    FlowSteps A d w (endState (createPurchaseOrder env d suppliers product created warehouse w)) := by
  unfold createPurchaseOrder
  by_cases supplied : (hasOpenPurchaseOrder w product.id warehouse.id ||
      hasOpenInboundTransfer w product.id warehouse.id) = true
  · rw [if_pos supplied]
    exact .refl
  rw [if_neg supplied]
  obtain ⟨noOrder, noTransfer⟩ : hasOpenPurchaseOrder w product.id warehouse.id = false ∧
      hasOpenInboundTransfer w product.id warehouse.id = false := by simpa using supplied
  dsimp only
  split
  · exact .refl
  cases assignSupplier product.category suppliers with
  | error e => exact .refl
  | ok supplier =>
    dsimp only
    cases inserted : insertPurchaseOrder? _ w.purchaseOrder with
    | none => exact .refl
    | some rows =>
      obtain ⟨rfl, fresh⟩ := insertPurchaseOrder?_eq_some inserted
      refine .single (.order _ product.id _ fresh rfl (le_max_left _ _) noOrder noTransfer rfl ?_ rfl)
      exact add_le_add_right (jitteredLeadTimeDays_pos _ _ _) d

theorem createPurchaseOrdersIfNeeded_moves : Moves A d w₀ (createPurchaseOrdersIfNeeded env d) := by
  refine Keeps.get_bind fun w reached => ?_
  refine Keeps.foldlM (fun created product _ => ?_) 0 w reached
  exact Keeps.foldlM (fun created warehouse _ s reached =>
    reached.trans (createPurchaseOrder_step env _ product created warehouse s)) created

/-! ## Shipments and sales orders -/

/-- An iteration of the loop over the shipments is a sequence of steps. -/
theorem progressShipment_step {s : Shipment} {w : World} (hw : Wf w) (progressed : ℕ)
    (mem : s ∈ w.shipment) (inFlight : s.status.inFlight = true) :
    FlowSteps A d w (endState (progressShipment env progressed d s.id w)) ∧
      ∀ s' ∈ w.shipment, s'.id ≠ s.id →
        s' ∈ (endState (progressShipment env progressed d s.id w)).shipment := by
  have found : lookup (·.id) s.id w.shipment = some s := lookup_of_mem hw.shipment mem
  simp only [progressShipment, found]
  by_cases pending : s.status = .pending
  · rw [if_pos pending]
    exact ⟨.single (.dispatch s mem pending), fun _ h ne => mem_modify_of_ne h ne⟩
  · have status : s.status = .inTransit := by
      revert inFlight pending
      cases s.status <;> simp [ShipmentStatus.inFlight]
    rw [if_neg pending]
    split
    · exact ⟨.refl, fun _ h _ => h⟩
    · split <;> rename_i due
      · exact ⟨.single (.deliver s _ mem status due), fun _ h ne => mem_modify_of_ne h ne⟩
      · exact ⟨.refl, fun _ h _ => h⟩

theorem progressShipments_moves (hw : Wf w₀) : Moves A d w₀ (progressShipments env d) := by
  refine Keeps.get_bind fun w reached => ?_
  have wf := FlowSteps.wf reached hw
  refine loadedRows_end (T := World.shipment) (P := fun s => s.status.inFlight = true)
    (fun progressed s w' reached' mem inFlight => ?_) ?_ 0 reached fun s h => by simpa using h
  · obtain ⟨steps, rest⟩ :=
      progressShipment_step env (FlowSteps.wf reached' hw) progressed mem inFlight
    exact ⟨reached'.trans steps, rest⟩
  · exact loaded_nodup wf.shipment _ _

theorem addShipment_eq_some {carriers : List Carrier} {so : SalesOrder} {rows rows' : List Shipment}
    (h : addShipment env d carriers so rows = some rows') :
    rows' = rows ∨ ∃ s : Shipment, s.salesOrderId = so.id ∧ s.shipDate = d ∧
      s.status = .pending ∧ insert? (·.id) s rows = some rows' := by
  rw [addShipment] at h
  split at h
  · exact .inl (Option.some.inj h).symm
  · exact .inr ⟨_, rfl, rfl, rfl, h⟩

theorem progressSalesOrder_shipments {carriers : List Carrier} {so : SalesOrder} {fullyShipped : Bool}
    {rows rows' : List Shipment}
    (h : (if fullyShipped then addShipment env d carriers so rows else some rows) = some rows') :
    rows' = rows ∨ ∃ s : Shipment, s.salesOrderId = so.id ∧ s.shipDate = d ∧
      s.status = .pending ∧ insert? (·.id) s rows = some rows' := by
  split at h
  · exact addShipment_eq_some env h
  · exact .inl (Option.some.inj h).symm

/-- The state an iteration leaves does not depend on the events counted so far. -/
theorem progressSalesOrder_endState (carriers : List Carrier) (events events' : ℕ) (id : Uuid)
    (w : World) : endState (progressSalesOrder env d carriers events id w) =
      endState (progressSalesOrder env d carriers events' id w) := by
  unfold progressSalesOrder
  cases lookup (·.id) id w.salesOrder with
  | none => rfl
  | some so =>
    dsimp only
    split
    · split <;> rfl
    · split
      · rfl
      · split
        · rfl
        · split <;> rfl

/-- Each order that the loop over `ids` allocates meets `A` in the state in which it is tested. -/
def AllocatesOnly (A : World → SalesOrder → Prop) (d : Date) (carriers : List Carrier) :
    List Uuid → World → Prop
  | [], _ => True
  | id :: ids, w =>
    (∀ so ∈ w.salesOrder, so.id = id → so.status = .submitted →
      allAvailable w so so.lines = true → A w so) ∧
    AllocatesOnly A d carriers ids (endState (progressSalesOrder env d carriers 0 id w))

theorem allocatesOnly_any (carriers : List Carrier) (ids : List Uuid) (w : World) :
    AllocatesOnly env AnyAllocation d carriers ids w := by
  induction ids generalizing w with
  | nil => trivial
  | cons id ids ih => exact ⟨fun _ _ _ _ _ => trivial, ih _⟩

/-- An iteration of the loop over the sales orders is a sequence of steps, if it allocates only what is allowed. -/
theorem progressSalesOrder_step {so : SalesOrder} {w : World} (hw : Wf w) (carriers : List Carrier)
    (events : ℕ) (mem : so ∈ w.salesOrder) (isOpen : so.status.isOpen = true)
    (allowed : so.status = .submitted → allAvailable w so so.lines = true → A w so) :
    FlowSteps A d w (endState (progressSalesOrder env d carriers events so.id w)) ∧
      ∀ so' ∈ w.salesOrder, so'.id ≠ so.id →
        so' ∈ (endState (progressSalesOrder env d carriers events so.id w)).salesOrder := by
  have found : lookup (·.id) so.id w.salesOrder = some so := lookup_of_mem hw.salesOrder mem
  have perm := (env.salesOrderLines so.id).perm so.lines
  simp only [progressSalesOrder, found]
  by_cases submitted : so.status = .submitted
  · rw [if_pos submitted]
    split <;> rename_i available
    · have available' : allAvailable w so so.lines = true := by
        rw [allAvailable, List.all_eq_true] at available ⊢
        exact fun l hl => available l (perm.mem_iff.2 hl)
      exact ⟨.single (.allocate so mem submitted available' (allowed submitted available')),
        fun _ h ne => mem_modify_of_ne h ne⟩
    · exact ⟨.refl, fun _ h _ => h⟩
  · have status : so.status = .allocated ∨ so.status = .partiallyShipped := by
      revert isOpen submitted
      cases so.status <;> simp [SalesOrderStatus.isOpen]
    rw [if_neg submitted]
    split <;> rename_i any
    · exact ⟨.refl, fun _ h _ => h⟩
    have ship := fun shipments events => FlowStep.ship (A := A) (d := d) so _ shipments events mem
      status perm (Bool.eq_true_of_not_eq_false any)
    generalize shipLines d so ((env.salesOrderLines so.id).rows so.lines) w.inventoryTransaction =
      shipped at ship ⊢
    cases added : (if fullyShipped shipped.1 = true then addShipment env d carriers so w.shipment
        else some w.shipment) with
    | none =>
      -- a refused shipment raises before the event is written
      have step := ship w.shipment [] (.inl rfl) (.inl rfl)
      rw [List.append_nil] at step
      exact ⟨.single step, fun _ h ne => mem_modify_of_ne h ne⟩
    | some shipments =>
      have shipment := progressSalesOrder_shipments env added
      dsimp only
      split <;> rename_i same
      · have step := ship shipments [] shipment (.inl rfl)
        rw [List.append_nil] at step
        exact ⟨.single step, fun _ h ne => mem_modify_of_ne h ne⟩
      · have step := ship shipments _ shipment (.inr rfl)
        rw [transitionEvents, if_neg (Ne.symm same)] at step
        exact ⟨.single step, fun _ h ne => mem_modify_of_ne h ne⟩

/-- The ids of the open orders and the carriers, as the loop over the orders loads them. -/
def openOrderIds (w : World) : List Uuid :=
  (env.openSalesOrders.rows (w.salesOrder.filter (·.status.isOpen))).map (·.id)

def activeCarriers (w : World) : List Carrier :=
  env.carriers.rows (w.master.carrier.filter (·.isActive))

theorem progressOpenSalesOrders_steps {w : World} (hw : Wf w) (events : ℕ)
    (plan : AllocatesOnly env A d (activeCarriers env w) (openOrderIds env w) w) :
    FlowSteps A d w (endState (progressOpenSalesOrders env d events w)) := by
  refine loadedRows_plan_end (I := FlowSteps A d w) (T := World.salesOrder)
    (P := fun so => so.status.isOpen = true) (Q := AllocatesOnly env A d (activeCarriers env w))
    (fun events so ids w' reached mem isOpen plan => ?_) (loaded_nodup hw.salesOrder _ _) events .refl
    (fun so h => by simpa using h) plan
  obtain ⟨steps, rest⟩ := progressSalesOrder_step env (FlowSteps.wf reached hw)
    (activeCarriers env w) events mem isOpen (plan.1 so mem rfl)
  refine ⟨⟨reached.trans steps, rest⟩, ?_⟩
  have next := plan.2
  rwa [progressSalesOrder_endState env (activeCarriers env w) 0 events] at next

/-! ## New sales orders -/

theorem insertSalesOrder?_eq_some {so : SalesOrder} {rows rows' : List SalesOrder}
    (h : insertSalesOrder? so rows = some rows') : rows' = rows ++ [so] ∧ so.id ∉ rows.map (·.id) := by
  rw [insertSalesOrder?] at h
  split at h
  · cases h
  · exact insert?_eq_some h

/-- Every line of a new order is of one unit or more, none of them shipped. -/
theorem demandLines_spec (rng : Rng) (k : ℕ) (ps : List String) :
    ∀ l ∈ demandLines rng k ps, 1 ≤ l.quantityOrdered ∧ l.quantityShipped = 0 := by
  induction ps generalizing k with
  | nil => simp [demandLines]
  | cons p ps ih =>
    rw [demandLines, List.forall_mem_cons]
    exact ⟨⟨pickDemandQuantity_pos rng k, rfl⟩, ih (k + 1)⟩

/-- A customer orders in one step, or not at all. -/
theorem createSalesOrder_step (productIds : List String) (created : ℕ) (customer : Customer)
    (w : World) : FlowSteps A d w (endState (createSalesOrder env d productIds created customer w)) := by
  unfold createSalesOrder
  dsimp only
  split
  · exact .refl
  split
  · exact .refl
  cases inserted : insertSalesOrder? _ w.salesOrder with
  | none => exact .refl
  | some rows =>
    obtain ⟨rfl, fresh⟩ := insertSalesOrder?_eq_some inserted
    exact .single (.demand _ fresh (demandLines_spec _ _ _) rfl rfl)

theorem createSalesOrdersIfNeeded_moves : Moves A d w₀ (createSalesOrdersIfNeeded env d) := by
  refine Keeps.get_bind fun w reached => ?_
  exact Keeps.foldlM (fun created customer _ s reached =>
    reached.trans (createSalesOrder_step env _ created customer s)) 0 w reached

/-! ## A whole tick -/

/-- The passes up to the loop over the open sales orders. -/
def beforeAllocation (d : Date) : Pass ℕ := do
  let e1 ← progressPurchaseOrders env d
  let e2 ← progressWarehouseTransfers env d
  let e3 ← createWarehouseTransfersIfNeeded env d
  let e4 ← createPurchaseOrdersIfNeeded env d
  let e5 ← progressShipments env d
  pure (e1 + e2 + e3 + e4 + e5)

/-- Each order that the tick allocates meets `A` in the state in which it is tested. -/
def TickAllocatesOnly (A : World → SalesOrder → Prop) (d : Date) (w : World) : Prop :=
  match beforeAllocation env d w with
  | .ok _ w₁ => AllocatesOnly env A d (activeCarriers env w₁) (openOrderIds env w₁) w₁
  | .error _ _ => True

/-- The flow of a day is a sequence of steps, whether it returns or raises. -/
theorem scheduledFlow_steps_of {w : World} (hw : Wf w) (plan : TickAllocatesOnly env A d w) :
    FlowSteps A d w (endState (scheduledFlow env d w)) := by
  unfold scheduledFlow
  refine bind_end (progressPurchaseOrders_moves env hw w .refl) fun e1 w1 run1 reached => ?_
  refine bind_end (progressWarehouseTransfers_moves env hw w1 reached) fun e2 w2 run2 reached => ?_
  refine bind_end (createWarehouseTransfersIfNeeded_moves env w2 reached) fun e3 w3 run3 reached => ?_
  refine bind_end (createPurchaseOrdersIfNeeded_moves env w3 reached) fun e4 w4 run4 reached => ?_
  refine bind_end ?_ fun e5 w5 _ reached => ?_
  · unfold progressSalesOrdersAndShipments
    refine bind_end (progressShipments_moves env hw w4 reached) fun e5 w5 run5 reached => ?_
    have run : beforeAllocation env d w = .ok (e1 + e2 + e3 + e4 + e5) w5 := by
      simp [beforeAllocation, bind, EStateM.bind, pure, EStateM.pure, run1, run2, run3, run4, run5]
    rw [TickAllocatesOnly, run] at plan
    exact reached.trans (progressOpenSalesOrders_steps env (FlowSteps.wf reached hw) e5 plan)
  refine bind_end (createSalesOrdersIfNeeded_moves env w5 reached) fun e6 w6 _ reached => ?_
  exact bind_end (reached.tail (.snapshot env)) fun _ w7 _ reached => reached

theorem scheduledFlow_steps (d : Date) {w : World} (hw : Wf w) :
    FlowSteps AnyAllocation d w (endState (scheduledFlow env d w)) :=
  scheduledFlow_steps_of env hw <| by
    unfold TickAllocatesOnly
    split
    · exact allocatesOnly_any env _ _ _
    · trivial

end MeadowOps.Flow
