import MeadowOps.Flow.Allocation
import MeadowOps.Flow.AuditTrail
import MeadowOps.Flow.Shipments

/-!
# One shipment for each shipped order

The loop over the sales orders ships an order and creates its shipment in one iteration. The passes before
and after it post other movements and add open orders.
-/

namespace MeadowOps.Flow

open Db Lib Scheduler

/-- The date of the last movement that ships for an order. -/
def lastShipped (w : World) (orderId : Uuid) : Option Instant :=
  (movements w .shipment orderId).getLast?.map (·.transactionAt)

/-- The shipped orders and the shipments, one for one. -/
structure OrderShipments (w : World) : Prop where
  orders : Keyed SalesOrder.id w.salesOrder
  one : Keyed Shipment.salesOrderId w.shipment
  shipped : ∀ so ∈ w.salesOrder, so.status = .shipped → ∃ s ∈ w.shipment, s.salesOrderId = so.id
  known : ∀ s ∈ w.shipment, ∃ so ∈ w.salesOrder, so.id = s.salesOrderId ∧ so.status = .shipped
  shipDate : ∀ s ∈ w.shipment, lastShipped w s.salesOrderId = some (simDatetime s.shipDate)

namespace OrderShipments

/-- Tables that read the same. -/
theorem transfer {w w' : World} (h : OrderShipments w) (orders : w'.salesOrder = w.salesOrder)
    (shipments : w'.shipment = w.shipment)
    (moved : ∀ id, movements w' .shipment id = movements w .shipment id) : OrderShipments w' where
  orders := orders ▸ h.orders
  one := shipments ▸ h.one
  shipped := by
    rw [orders, shipments]
    exact h.shipped
  known := by
    rw [orders, shipments]
    exact h.known
  shipDate := by
    intro s mem
    rw [lastShipped, moved]
    exact h.shipDate s (shipments ▸ mem)

end OrderShipments

theorem movements_append_other {w : World} {rows : List InventoryTransaction}
    (other : ∀ t ∈ rows, t.transactionType ≠ .shipment) (id : Uuid) :
    entriesOf (refOf .shipment) id (w.inventoryTransaction ++ rows) = movements w .shipment id := by
  apply entriesOf_append_other
  intro t mem
  simp [refOf, other t mem]

/-! ## The passes before the sales orders -/

section Before

variable (env : TickEnv) {d : Date}

theorem progressPurchaseOrders_orderShipments : Keeps OrderShipments (progressPurchaseOrders env d) := by
  refine Keeps.get_bind fun w h => Keeps.foldlM (fun events id _ w h => ?_) 0 w h
  unfold progressPurchaseOrder
  split
  · exact h
  · split
    · exact h
    · rename_i po po' receipts step
      have receipt : ∀ t ∈ receipts, t.transactionType ≠ .shipment := by
        intro t mem
        unfold purchaseOrderStep at step
        split at step
        · cases step
          cases mem
        · split at step
          · cases step
            simp [(receipts_own t mem).1]
          · cases step
      dsimp only
      split
      · exact h.transfer rfl rfl (movements_append_other receipt)
      · exact h.transfer rfl rfl (movements_append_other receipt)

theorem progressWarehouseTransfers_orderShipments :
    Keeps OrderShipments (progressWarehouseTransfers env d) := by
  refine Keeps.get_bind fun w h => Keeps.foldlM (fun events id _ w h => ?_) 0 w h
  unfold progressWarehouseTransfer
  split
  · exact h
  · split
    · exact h.transfer rfl rfl fun _ => rfl
    · split
      · exact h.transfer rfl rfl (movements_append_other (by simp))
      · exact h

theorem createWarehouseTransfersIfNeeded_orderShipments :
    Keeps OrderShipments (createWarehouseTransfersIfNeeded env d) := by
  refine Keeps.get_bind fun w h => Keeps.foldlM (fun created product _ => ?_) 0 w h
  refine Keeps.get_bind fun w h => ?_
  refine Keeps.bind (Keeps.foldlM (fun pool warehouse _ w h => ?_) _) (fun pool => Keeps.pure _) w h
  unfold createWarehouseTransfer
  split
  · exact h
  · dsimp only
    split
    · exact h
    · split
      · exact h
      · split
        · exact h
        · split
          · exact h
          · exact h.transfer rfl rfl (movements_append_other (by simp))

theorem createPurchaseOrdersIfNeeded_orderShipments :
    Keeps OrderShipments (createPurchaseOrdersIfNeeded env d) := by
  refine Keeps.get_bind fun w h => Keeps.foldlM (fun created product _ => ?_) 0 w h
  refine Keeps.foldlM (fun created warehouse _ w h => ?_) created
  unfold createPurchaseOrder
  split
  · exact h
  · dsimp only
    split
    · exact h
    · split
      · exact h
      · split
        · exact h
        · exact h.transfer rfl rfl fun _ => rfl

end Before

/-! ## The shipments that were there -/

theorem advanceShipment_salesOrderId (rng : Date → Purpose → Rng) (carriers : List Carrier) (d : Date)
    (s : Shipment) : (advanceShipment rng carriers d s).salesOrderId = s.salesOrderId := by
  unfold advanceShipment
  split
  · rfl
  · split
    · rfl
    · split <;> rfl
  · rfl
  · rfl

/-- The pass over the shipments changes none of the columns that are read. -/
theorem OrderShipments.advance {w : World} (h : OrderShipments w) (rng : Date → Purpose → Rng) (d : Date) :
    OrderShipments { w with shipment := w.shipment.map (advanceShipment rng w.master.carrier d) } := by
  have order := advanceShipment_salesOrderId rng w.master.carrier d
  constructor
  case orders => exact h.orders
  case one =>
    have same : (w.shipment.map (advanceShipment rng w.master.carrier d)).map Shipment.salesOrderId =
        w.shipment.map Shipment.salesOrderId := by
      rw [List.map_map]
      exact List.map_congr_left fun s _ => order s
    rw [Keyed, same]
    exact h.one
  case shipped =>
    intro so mem shipped
    obtain ⟨s, memS, of⟩ := h.shipped so mem shipped
    exact ⟨_, List.mem_map_of_mem memS, (order s).trans of⟩
  case known =>
    intro s mem
    obtain ⟨s₀, mem₀, rfl⟩ := List.mem_map.1 mem
    rw [order]
    exact h.known s₀ mem₀
  case shipDate =>
    intro s mem
    obtain ⟨s₀, mem₀, rfl⟩ := List.mem_map.1 mem
    rw [order, advanceShipment_agreed.2.1]
    exact h.shipDate s₀ mem₀

/-! ## The loop over the sales orders -/

section Loop

variable (env : TickEnv) {d : Date}

theorem pickCarrier_isSome {carriers : List Carrier} (nonempty : carriers ≠ []) (id : Uuid) :
    (pickCarrier carriers id).isSome = true := by
  rw [pickCarrier]
  simp only [List.length_insertionSort, isSome_getElem?]
  exact Nat.mod_lt _ (List.length_pos_iff.2 nonempty)

/-- With a carrier, the order gets its shipment of the day. -/
theorem addShipment_added {carriers : List Carrier} (nonempty : carriers ≠ []) {so : SalesOrder}
    {rows rows' : List Shipment} (h : addShipment env d carriers so rows = some rows') :
    ∃ s, rows' = rows ++ [s] ∧ s.salesOrderId = so.id ∧ s.shipDate = d := by
  rw [addShipment] at h
  split at h
  · rename_i missing
    have there := pickCarrier_isSome nonempty so.id
    rw [missing] at there
    cases there
  · obtain ⟨rfl, -⟩ := insert?_eq_some h
    exact ⟨_, rfl, rfl, rfl⟩

/-- What an iteration ships is moved on its day; something is when a line shipped. -/
theorem shipLines_today (so : SalesOrder) (lines : List SalesOrderLine)
    (ledger : List InventoryTransaction) :
    ∃ rows, (shipLines d so lines ledger).2.1 = ledger ++ rows ∧
      (∀ t ∈ rows, refOf .shipment t = some so.id ∧ t.transactionAt = simDatetime d) ∧
      ((shipLines d so lines ledger).2.2 = true → rows ≠ []) := by
  induction lines generalizing ledger with
  | nil => exact ⟨[], by simp [shipLines]⟩
  | cons l lines ih =>
    rcases shipLines_cons d so l lines ledger with ⟨-, eq⟩ | ⟨-, -, eq⟩
    · obtain ⟨rows, appended, own, any⟩ := ih ledger
      rw [eq]
      exact ⟨rows, appended, own, any⟩
    · obtain ⟨rows, appended, own, -⟩ := ih (ledger ++ [shipmentOf d so l])
      refine ⟨shipmentOf d so l :: rows, ?_, ?_, fun _ => List.cons_ne_nil _ _⟩
      · rw [eq]
        simpa using appended
      · rw [List.forall_mem_cons]
        exact ⟨⟨refOf_own rfl rfl, rfl⟩, own⟩

/-- An iteration creates a shipment only if a line shipped. -/
theorem progressSalesOrder_moves {carriers : List Carrier} {so : SalesOrder} {w w' : World}
    {events events' : ℕ} (keyed : Keyed (·.id) w.salesOrder) (mem : so ∈ w.salesOrder)
    (run : progressSalesOrder env d carriers events so.id w = .ok events' w') :
    w'.shipment = w.shipment ∨ w'.inventoryTransaction ≠ w.inventoryTransaction := by
  have found : lookup (·.id) so.id w.salesOrder = some so := lookup_of_mem keyed mem
  simp only [progressSalesOrder, found] at run
  split at run
  · split at run
    · cases run
      exact .inl rfl
    · cases run
      exact .inl rfl
  · split at run
    · cases run
      exact .inl rfl
    · rename_i any
      obtain ⟨rows, appended, -, nonempty⟩ := shipLines_today (d := d) so
        ((env.salesOrderLines so.id).rows so.lines) w.inventoryTransaction
      have some := nonempty (Bool.eq_true_of_not_eq_false any)
      have more : (shipLines d so ((env.salesOrderLines so.id).rows so.lines)
          w.inventoryTransaction).2.1 ≠ w.inventoryTransaction := by
        rw [appended]
        simpa using some
      split at run
      · cases run
      · split at run
        · cases run
          exact .inr more
        · cases run
          exact .inr more

/-- An open order has no shipment. -/
theorem OrderShipments.open_none {w : World} (h : OrderShipments w) {so : SalesOrder}
    (mem : so ∈ w.salesOrder) (status : so.status ≠ .shipped) : so.id ∉ w.shipment.map Shipment.salesOrderId := by
  intro has
  obtain ⟨s, memS, of⟩ := List.mem_map.1 has
  obtain ⟨so', mem', id, shipped⟩ := h.known s memS
  obtain rfl := List.inj_on_of_nodup_map h.orders mem' mem (id.trans of)
  exact status shipped

/-- The order is written, with its shipment if it is shipped. -/
theorem OrderShipments.write {w w' : World} (h : OrderShipments w) {so : SalesOrder}
    (mem : so ∈ w.salesOrder) (status : so.status ≠ .shipped) (f : SalesOrder → SalesOrder)
    (new : List Shipment) (id : ∀ x, (f x).id = x.id)
    (orders : w'.salesOrder = modify (·.id) so.id f w.salesOrder)
    (shipments : w'.shipment = w.shipment ++ new)
    (others : ∀ k ≠ so.id, movements w' .shipment k = movements w .shipment k)
    (none : (f so).status ≠ .shipped → new = [])
    (added : (f so).status = .shipped → ∃ s, new = [s] ∧ s.salesOrderId = so.id ∧
      lastShipped w' so.id = some (simDatetime s.shipDate)) : OrderShipments w' := by
  have free := h.open_none mem status
  have own : ∀ s ∈ new, s.salesOrderId = so.id ∧ (f so).status = .shipped ∧
      lastShipped w' so.id = some (simDatetime s.shipDate) := by
    intro s memS
    by_cases shipped : (f so).status = .shipped
    · obtain ⟨s', rfl, of, date⟩ := added shipped
      rw [List.mem_singleton.1 memS]
      exact ⟨of, shipped, date⟩
    · rw [none shipped] at memS
      cases memS
  have other : ∀ s ∈ w.shipment, s.salesOrderId ≠ so.id := by
    intro s memS same
    exact free (same ▸ List.mem_map_of_mem memS)
  constructor
  case orders =>
    rw [orders]
    exact h.orders.modify fun x same => (id x).trans same
  case one =>
    rw [shipments]
    by_cases shipped : (f so).status = .shipped
    · obtain ⟨s, rfl, of, -⟩ := added shipped
      exact h.one.append (of ▸ free)
    · rw [none shipped, List.append_nil]
      exact h.one
  case shipped =>
    intro x memX shippedX
    rw [orders] at memX
    rw [shipments]
    obtain ⟨y, memY, rfl⟩ := mem_modify.1 memX
    by_cases this : y.id = so.id
    · obtain rfl := List.inj_on_of_nodup_map h.orders memY mem this
      rw [if_pos rfl] at shippedX ⊢
      obtain ⟨s, rfl, of, -⟩ := added shippedX
      exact ⟨s, by simp, of.trans (id y).symm⟩
    · rw [if_neg this] at shippedX ⊢
      obtain ⟨s, memS, of⟩ := h.shipped y memY shippedX
      exact ⟨s, List.mem_append_left _ memS, of⟩
  case known =>
    intro s memS
    rw [shipments] at memS
    rw [orders]
    rcases List.mem_append.1 memS with old | fresh
    · obtain ⟨x, memX, of, shipped⟩ := h.known s old
      exact ⟨x, mem_modify_of_ne memX fun same => other s old (of.symm.trans same), of, shipped⟩
    · obtain ⟨of, shipped, -⟩ := own s fresh
      exact ⟨f so, mem_modify.2 ⟨so, mem, (if_pos rfl).symm⟩, (id so).trans of.symm, shipped⟩
  case shipDate =>
    intro s memS
    rw [shipments] at memS
    rcases List.mem_append.1 memS with old | fresh
    · rw [lastShipped, others _ (other s old)]
      exact h.shipDate s old
    · obtain ⟨of, -, date⟩ := own s fresh
      rw [of]
      exact date

theorem OrderProgress.orderShipments {carriers : List Carrier} (nonempty : carriers ≠ []) {so : SalesOrder}
    {w w' : World} {events events' : ℕ} (mem : so ∈ w.salesOrder)
    (run : progressSalesOrder env d carriers events so.id w = .ok events' w')
    (progress : OrderProgress env d carriers so w w') (h : OrderShipments w) : OrderShipments w' := by
  have moves := progressSalesOrder_moves env h.orders mem run
  cases progress with
  | waits => exact h
  | allocated submitted =>
    refine h.write mem (by simp [submitted]) (fun so => { so with
      status := .allocated, promisedDate := some (d + genericPromiseDays) }) [] (fun _ => rfl) rfl
      (List.append_nil _).symm (fun _ _ => rfl) (fun _ => rfl) ?_
    exact fun shipped => by cases shipped
  | shipped lines shipments status perm shipment =>
    obtain ⟨rows, appended, own, -⟩ := shipLines_today (d := d) so lines w.inventoryTransaction
    have notShipped : so.status ≠ .shipped := by
      rcases status with status | status <;> simp [status]
    have others : ∀ k ≠ so.id, entriesOf (refOf .shipment) k
        (shipLines d so lines w.inventoryTransaction).2.1 = movements w .shipment k := by
      intro k ne
      rw [appended]
      apply entriesOf_append_other
      intro t memT
      rw [(own t memT).1]
      simpa using ne.symm
    by_cases full : fullyShipped (shipLines d so lines w.inventoryTransaction).1 = true
    · rw [if_pos full] at shipment
      obtain ⟨s, rfl, of, date⟩ := addShipment_added env nonempty shipment
      have some : rows ≠ [] := by
        rintro rfl
        simp [appended] at moves
      refine h.write mem notShipped (shippedOrder (shipLines d so lines w.inventoryTransaction).1) [s]
        (fun _ => rfl) rfl rfl others ?_ ?_
      · simp [shippedOrder, full]
      · refine fun _ => ⟨s, rfl, of, ?_⟩
        have last : rows.getLast? = Option.some (rows.getLast some) := List.getLast?_eq_some_getLast some
        have all : entriesOf (refOf .shipment) so.id rows = rows :=
          entriesOf_eq_self fun t memT => (own t memT).1
        simp only [lastShipped, movements, appended, entriesOf_append, all, List.getLast?_append, last,
          Option.some_or, Option.map_some, (own _ (List.getLast_mem some)).2, date]
    · rw [if_neg full] at shipment
      cases shipment
      refine h.write mem notShipped (shippedOrder (shipLines d so lines w.inventoryTransaction).1) []
        (fun _ => rfl) rfl (List.append_nil _).symm others ?_ ?_
      · exact fun _ => rfl
      · simp [shippedOrder, full]

end Loop

/-! ## A whole tick -/

section Tick

variable (env : TickEnv) {d : Date}

theorem createSalesOrdersIfNeeded_orderShipments :
    Keeps OrderShipments (createSalesOrdersIfNeeded env d) := by
  refine Keeps.get_bind fun w h => Keeps.foldlM (fun created customer _ w h => ?_) 0 w h
  unfold createSalesOrder
  dsimp only
  split
  · exact h
  · split
    · exact h
    · cases inserted : insertSalesOrder? _ w.salesOrder with
      | none => exact h
      | some rows =>
        obtain ⟨rfl, fresh⟩ := insertSalesOrder?_eq_some inserted
        constructor
        case orders => exact h.orders.append fresh
        case one => exact h.one
        case shipped =>
          intro so mem shipped
          rcases List.mem_append.1 mem with old | new
          · exact h.shipped so old shipped
          · rw [List.mem_singleton.1 new] at shipped
            cases shipped
        case known =>
          intro s memS
          obtain ⟨so, mem, of, shipped⟩ := h.known s memS
          exact ⟨so, List.mem_append_left _ mem, of, shipped⟩
        case shipDate => exact h.shipDate

/-- There is a carrier that can be asked. -/
def HasCarrier (m : Master) : Prop := ∃ c ∈ m.carrier, c.isActive = true

instance (m : Master) : Decidable (HasCarrier m) :=
  inferInstanceAs (Decidable (∃ c ∈ m.carrier, c.isActive = true))

theorem HasCarrier.activeCarriers {w : World} (h : HasCarrier w.master) : activeCarriers env w ≠ [] := by
  obtain ⟨c, mem, active⟩ := h
  apply List.ne_nil_of_mem
  rw [Flow.activeCarriers, RowOrder.mem_rows, List.mem_filter]
  exact ⟨mem, active⟩

theorem scheduledFlow_orderShipments {w w' : World} {events : ℕ} (wf : Wf w) (carrier : HasCarrier w.master)
    (h : OrderShipments w) (run : scheduledFlow env d w = .ok events w') : OrderShipments w' := by
  obtain ⟨passes⟩ := scheduledFlow_passes run
  obtain ⟨shipmentEvents, _, advanced, orders⟩ := bind_eq_ok passes.sales
  have same1 := (progressPurchaseOrders_sales env).of_ok (SameSales.refl w) passes.receipts
  have same2 := (progressWarehouseTransfers_sales env).of_ok same1 passes.arrivals
  have same3 := (createWarehouseTransfersIfNeeded_sales env).of_ok same2 passes.transfers
  have same4 := (createPurchaseOrdersIfNeeded_sales env).of_ok same3 passes.reorders
  have h1 := (progressPurchaseOrders_orderShipments env).of_ok h passes.receipts
  have h2 := (progressWarehouseTransfers_orderShipments env).of_ok h1 passes.arrivals
  have h3 := (createWarehouseTransfersIfNeeded_orderShipments env).of_ok h2 passes.transfers
  have h4 := (createPurchaseOrdersIfNeeded_orderShipments env).of_ok h3 passes.reorders
  have keyed : Keyed (·.id) passes.reordered.2.shipment := same4.2.shipments ▸ wf.shipment
  obtain rfl := progressShipments_ok env keyed advanced
  have before := h4.advance env.rng d
  have carriers : activeCarriers env { passes.reordered.2 with
      shipment := passes.reordered.2.shipment.map
        (advanceShipment env.rng passes.reordered.2.master.carrier d) } ≠ [] := by
    apply HasCarrier.activeCarriers
    rw [same4.2.master]
    exact carrier
  have h5 : OrderShipments passes.progressed.2 := progressOpenSalesOrders_run env (fun _ h => h.orders)
    (fun so w w' events events' mem run progress h => progress.orderShipments env carriers mem run h)
    rfl before orders
  have h6 := (createSalesOrdersIfNeeded_orderShipments env).of_ok h5 passes.demand
  rw [passes.last]
  exact h6.transfer rfl rfl fun _ => rfl

end Tick

/-! ## Delivery -/

/-- A day in the window the carrier is given: from the promised day on, late by at most its spread. -/
def InWindow (carriers : List Carrier) (s : Shipment) (date : Date) : Prop :=
  ∃ c, lookup (·.id) s.carrierId carriers = some c ∧ s.promisedDeliveryDate ≤ date ∧
    date ≤ s.promisedDeliveryDate + variabilitySpreadDays c.variability

/-- A shipment is delivered when it has a delivery date, which is in its window. -/
structure DeliveryDated (carriers : List Carrier) (s : Shipment) : Prop where
  delivered : s.status = .delivered ↔ s.actualDeliveryDate.isSome = true
  window : ∀ date, s.actualDeliveryDate = some date → InWindow carriers s date

theorem DeliveryDated.of_none {carriers : List Carrier} {s : Shipment} (status : s.status ≠ .delivered)
    (undelivered : s.actualDeliveryDate = none) : DeliveryDated carriers s := by
  constructor
  case delivered => simp [status, undelivered]
  case window =>
    intro date actual
    rw [undelivered] at actual
    cases actual

theorem inWindow_transitDays {rng : Date → Purpose → Rng} {carriers : List Carrier} {s : Shipment} {days : ℤ}
    (takes : transitDays rng carriers s = some days) : InWindow carriers s (s.shipDate + days) := by
  obtain ⟨c, found, rfl⟩ := Option.map_eq_some_iff.1 takes
  obtain ⟨promised, late⟩ := carrierActualTransitDays_range (s.promisedDeliveryDate - s.shipDate)
    c.variability c.reliabilityPct (rng s.shipDate (.carrierTransit s.id))
  refine ⟨c, found, ?_, ?_⟩
  · unfold Date at *
    omega
  · unfold Date at *
    omega

theorem DeliveryDated.advance {carriers : List Carrier} {s : Shipment} (h : DeliveryDated carriers s)
    (rng : Date → Purpose → Rng) (d : Date) : DeliveryDated carriers (advanceShipment rng carriers d s) := by
  have undelivered : s.status ≠ .delivered → s.actualDeliveryDate = none := by
    intro status
    rw [← Option.not_isSome_iff_eq_none]
    exact fun dated => status (h.delivered.2 dated)
  unfold advanceShipment
  split <;> rename_i status
  · exact DeliveryDated.of_none (fun h => by cases h) (undelivered (by simp [status]))
  · split
    · exact h
    · rename_i days takes
      split
      · constructor
        case delivered => simp
        case window =>
          intro date actual
          cases actual
          exact inWindow_transitDays takes
      · exact h
  · exact h
  · exact h

/-- A shipment that the day's pass delivers arrives by that day. -/
theorem advanceShipment_arrived {rng : Date → Purpose → Rng} {carriers : List Carrier} {d : Date}
    {s : Shipment} (before : s.status ≠ .delivered)
    (after : (advanceShipment rng carriers d s).status = .delivered) :
    s.status = .inTransit ∧
      ∃ date, (advanceShipment rng carriers d s).actualDeliveryDate = some date ∧ date ≤ d := by
  unfold advanceShipment at after ⊢
  split at after <;> rename_i status
  · cases after
  · refine ⟨status, ?_⟩
    split at after
    · exact absurd after before
    · split at after <;> rename_i due
      · rw [if_pos due]
        exact ⟨_, rfl, due⟩
      · exact absurd after before
  · exact absurd after before
  · exact absurd after before

/-- What a tick of day `d` does to the delivered shipments. -/
structure TickDeliveries (d : Date) (w w' : World) : Prop where
  stays : ∀ s ∈ w.shipment, s.status = .delivered → s ∈ w'.shipment
  arrived : ∀ s ∈ w'.shipment, s.status = .delivered → s ∈ w.shipment ∨
    (∃ s₀ ∈ w.shipment, s₀.id = s.id ∧ s₀.status = .inTransit) ∧
      ∃ date, s.actualDeliveryDate = some date ∧ date ≤ d

theorem ShipmentTick.deliveries {rng : Date → Purpose → Rng} {d : Date} {w w' : World}
    (h : ShipmentTick rng d w w') : TickDeliveries d w w' := by
  obtain ⟨new, shipments, created⟩ := h.shipments
  constructor
  case stays =>
    intro s mem delivered
    have same : advanceShipment rng w.master.carrier d s = s :=
      advanceShipment_of_landed (by rw [delivered]; rfl)
    rw [shipments]
    exact List.mem_append_left _ (List.mem_map.2 ⟨s, mem, same⟩)
  case arrived =>
    intro s mem delivered
    rw [shipments] at mem
    rcases List.mem_append.1 mem with old | fresh
    · obtain ⟨s₀, mem₀, rfl⟩ := List.mem_map.1 old
      by_cases before : s₀.status = .delivered
      · left
        rwa [advanceShipment_of_landed (by rw [before]; rfl)]
      · obtain ⟨status, due⟩ := advanceShipment_arrived before delivered
        exact .inr ⟨⟨s₀, mem₀, advanceShipment_agreed.1.symm, status⟩, due⟩
    · rw [(created s fresh).status] at delivered
      cases delivered

theorem ShipmentTick.dated {rng : Date → Purpose → Rng} {d : Date} {w w' : World}
    (h : ShipmentTick rng d w w') (dated : ∀ s ∈ w.shipment, DeliveryDated w.master.carrier s) :
    ∀ s ∈ w'.shipment, DeliveryDated w'.master.carrier s := by
  obtain ⟨new, shipments, created⟩ := h.shipments
  intro s mem
  rw [h.master]
  rw [shipments] at mem
  rcases List.mem_append.1 mem with old | fresh
  · obtain ⟨s₀, mem₀, rfl⟩ := List.mem_map.1 old
    exact (dated s₀ mem₀).advance rng d
  · exact DeliveryDated.of_none (by simp [(created s fresh).status]) (created s fresh).undelivered

/-- An edit that keeps the carriers and their tiers. -/
def KeepsTiers (m m' : Master) : Prop :=
  ∀ id c, lookup Carrier.id id m.carrier = some c →
    ∃ c', lookup Carrier.id id m'.carrier = some c' ∧ c'.variability = c.variability

theorem DeliveryDated.edit {m m' : Master} (keeps : KeepsTiers m m') {s : Shipment}
    (h : DeliveryDated m.carrier s) : DeliveryDated m'.carrier s := by
  refine ⟨h.delivered, fun date actual => ?_⟩
  obtain ⟨c, found, promised, late⟩ := h.window date actual
  obtain ⟨c', found', tier⟩ := keeps _ c found
  exact ⟨c', found', promised, tier ▸ late⟩

/-! ## The order of the ledger -/

/-- Movements in the order of their days, none after `last`. -/
structure LedgerInOrder (last : Date) (ledger : List InventoryTransaction) : Prop where
  sorted : (ledger.map (·.transactionAt)).Pairwise (· ≤ ·)
  bounded : ∀ t ∈ ledger, t.transactionAt ≤ simDatetime last

theorem simDatetime_mono {d d' : Date} (le : d ≤ d') : simDatetime d ≤ simDatetime d' := by
  unfold simDatetime
  exact mul_le_mul_of_nonneg_right le (by decide)

theorem LedgerInOrder.mono {last last' : Date} {ledger : List InventoryTransaction}
    (h : LedgerInOrder last ledger) (le : last ≤ last') : LedgerInOrder last' ledger :=
  ⟨h.sorted, fun t mem => (h.bounded t mem).trans (simDatetime_mono le)⟩

/-- Movements of the last day. -/
theorem LedgerInOrder.append {last : Date} {ledger rows : List InventoryTransaction}
    (h : LedgerInOrder last ledger) (today : ∀ t ∈ rows, t.transactionAt = simDatetime last) :
    LedgerInOrder last (ledger ++ rows) where
  sorted := by
    rw [List.map_append, List.pairwise_append]
    have same : ∀ x ∈ rows.map (·.transactionAt), x = simDatetime last := by
      intro x mem
      obtain ⟨t, memT, rfl⟩ := List.mem_map.1 mem
      exact today t memT
    refine ⟨h.sorted, List.pairwise_of_forall_mem_list fun x hx y hy => ?_, fun x hx y hy => ?_⟩
    · rw [same x hx, same y hy]
    · obtain ⟨t, memT, rfl⟩ := List.mem_map.1 hx
      rw [same y hy]
      exact h.bounded t memT
  bounded := by
    intro t mem
    rcases List.mem_append.1 mem with old | now
    · exact h.bounded t old
    · exact (today t now).le

/-- A step books movements of its day, if any. -/
theorem FlowStep.ledger_appends {A : World → SalesOrder → Prop} {d : Date} {w w' : World}
    (h : FlowStep A d w w') : ∃ rows, w'.inventoryTransaction = w.inventoryTransaction ++ rows ∧
      ∀ t ∈ rows, t.transactionAt = simDatetime d := by
  have none : ∃ rows, w.inventoryTransaction = w.inventoryTransaction ++ rows ∧
      ∀ t ∈ rows, t.transactionAt = simDatetime d :=
    ⟨[], (List.append_nil _).symm, by simp⟩
  cases h with
  | confirm po => exact none
  | receive po lines fraction =>
    refine ⟨_, rfl, fun t mem => ?_⟩
    obtain ⟨l, -, receipt⟩ := List.mem_filterMap.1 mem
    obtain ⟨-, rfl⟩ := receiptOf_eq_some receipt
    rfl
  | order po => exact none
  | depart t => exact none
  | arrive t => exact ⟨_, rfl, by simp⟩
  | transfer t => exact ⟨_, rfl, by simp⟩
  | dispatch s => exact none
  | deliver s => exact none
  | allocate so => exact none
  | ship so lines =>
    obtain ⟨rows, appended, own, -⟩ := shipLines_today (d := d) so lines w.inventoryTransaction
    exact ⟨rows, appended, fun t mem => (own t mem).2⟩
  | demand so => exact none
  | snapshot env => exact none

theorem FlowStep.ledgerInOrder {A : World → SalesOrder → Prop} {d : Date} {w w' : World}
    (h : FlowStep A d w w') (hw : LedgerInOrder d w.inventoryTransaction) :
    LedgerInOrder d w'.inventoryTransaction := by
  obtain ⟨rows, appended, today⟩ := h.ledger_appends
  rw [appended]
  exact hw.append today

/-- In a ledger in order, the last movement of an order is its latest. -/
theorem LedgerInOrder.latest {last : Date} {w : World} (h : LedgerInOrder last w.inventoryTransaction)
    {id : Uuid} {date : Instant} (shipped : lastShipped w id = some date) :
    ∀ t ∈ movements w .shipment id, t.transactionAt ≤ date := by
  have sorted : ((movements w .shipment id).map (·.transactionAt)).Pairwise (· ≤ ·) :=
    h.sorted.sublist (List.filter_sublist.map _)
  obtain ⟨t, found, rfl⟩ := Option.map_eq_some_iff.1 shipped
  obtain ⟨before, split⟩ := List.getLast?_eq_some_iff.1 found
  rw [split] at sorted ⊢
  rw [List.map_append, List.pairwise_append] at sorted
  intro t' mem
  rcases List.mem_append.1 mem with earlier | this
  · exact sorted.2.2 _ (List.mem_map_of_mem earlier) _ (by simp)
  · rw [List.mem_singleton.1 this]

/-! ## Runs -/

/-- The invariant of the runs, `last` being the date of the last tick. -/
structure Delivers (last : Date) (w : World) : Prop where
  wf : Wf w
  orders : OrderShipments w
  dated : ∀ s ∈ w.shipment, DeliveryDated w.master.carrier s
  ledger : LedgerInOrder last w.inventoryTransaction

theorem delivers_empty (m : Master) (last : Date) : Delivers last (World.empty m) where
  wf := (emptyWorld m).wf
  orders := by constructor <;> simp [World.empty, Keyed]
  dated := by simp [World.empty]
  ledger := by constructor <;> simp [World.empty]

theorem Delivers.tick {env : TickEnv} {last d : Date} {w w' : World} {events : ℕ} (h : Delivers last w)
    (le : last ≤ d) (carrier : HasCarrier w.master) (run : scheduledFlow env d w = .ok events w') :
    Delivers d w' := by
  have steps := scheduledFlow_steps env d h.wf
  rw [run] at steps
  constructor
  case wf => exact steps.wf h.wf
  case orders => exact scheduledFlow_orderShipments env h.wf carrier h.orders run
  case dated => exact (scheduledFlow_shipments env h.wf run).dated h.dated
  case ledger =>
    exact FlowSteps.invariant (I := fun w => LedgerInOrder d w.inventoryTransaction)
      (fun _ _ step _ hI => step.ledgerInOrder hI) h.wf (h.ledger.mono le) steps

theorem Delivers.mono {last last' : Date} {w : World} (h : Delivers last w) (le : last ≤ last') :
    Delivers last' w :=
  ⟨h.wf, h.orders, h.dated, h.ledger.mono le⟩

theorem Delivers.edit {last : Date} {w : World} {m : Master} (h : Delivers last w)
    (keeps : KeepsTiers w.master m) : Delivers last { w with master := m } where
  wf := { h.wf with }
  orders := h.orders.transfer rfl rfl fun _ => rfl
  dated := fun s mem => (h.dated s mem).edit keeps
  ledger := h.ledger

/-- Every tick finds a carrier, and every edit keeps the tiers. -/
def Carried (t : Tx (Database World)) : List RunLabel → Prop
  | [] => True
  | l :: labels =>
    (match l with
      | .tick _ _ => HasCarrier t.pending.tables.master
      | .edit m => KeepsTiers t.pending.tables.master m
      | .commit | .rollback => True) ∧ Carried (runStep t l) labels

/-- No delivered shipment is taken back in the open transaction. -/
def Landed (t : Tx (Database World)) : Prop :=
  ∀ s ∈ t.committed.tables.shipment, s.status = .delivered → s ∈ t.pending.tables.shipment

/-- No label takes a delivery back. -/
theorem Landed.step {t : Tx (Database World)} (wf : t.Both fun db => Wf db.tables) (h : Landed t)
    (l : RunLabel) : Landed (runStep t l) := by
  cases l with
  | tick env d =>
    cases run : scheduledFlow env d t.pending.tables with
    | ok events w =>
      rw [runStep, tick, runScheduledTick_ok _ run]
      intro s mem delivered
      exact (scheduledFlow_shipments env wf.2 run).deliveries.stays s (h s mem delivered) delivered
    | error e w =>
      rw [runStep, tick, runScheduledTick_error _ run]
      exact fun s mem _ => mem
  | commit => exact fun s mem _ => mem
  | rollback => exact fun s mem _ => mem
  | edit m => exact h

/-- By induction over the labels. -/
theorem landed_of_run {labels : List RunLabel} {t : Tx (Database World)} (wf : t.Both fun db => Wf db.tables)
    (landed : Landed t) : Landed (labels.foldl runStep t) := by
  induction labels generalizing t with
  | nil => exact landed
  | cons l labels ih =>
    have both := runStep_both (I := fun _ => True) (l := l) (wf.imp fun _ h => ⟨h, trivial⟩)
      (fun _ _ _ _ _ _ => trivial) fun _ _ => trivial
    exact ih (both.imp fun _ h => h.1) (landed.step wf l)

/-- A run in the order of its dates keeps the deliveries dated and the ledger in order. -/
theorem delivers_of_run {labels : List RunLabel} {t : Tx (Database World)} {last : Date}
    (ht : t.Both fun db => Delivers last db.tables) (dates : (last :: tickDates labels).Pairwise (· ≤ ·))
    (carried : Carried t labels) :
    ∃ last, (labels.foldl runStep t).Both fun db => Delivers last db.tables := by
  refine dated_run (fun t l labels met => met.2) (fun _ _ _ le h => h.mono le) ?_ ?_ ht dates carried
  · exact fun t env d labels events w met h run => h.tick le_rfl met.1 run
  · exact fun t m labels last met h => h.edit met.1

/-- A delivered shipment stays as it is, whatever follows. -/
theorem delivered_stays {labels : List RunLabel} {t : Tx (Database World)} {s : Shipment}
    (delivered : s.status = .delivered) (ht : t.Both fun db => Wf db.tables ∧ s ∈ db.tables.shipment) :
    (labels.foldl runStep t).Both fun db => Wf db.tables ∧ s ∈ db.tables.shipment := by
  induction labels generalizing t with
  | nil => exact ht
  | cons l labels ih =>
    refine ih (runStep_both (I := fun w => s ∈ w.shipment) ht (fun env d events w _ run => ?_) fun _ here => here)
    exact (scheduledFlow_shipments env ht.2.1 run).deliveries.stays s ht.2.2 delivered

/-- One shipment for each shipped order, with its dates. -/
structure DeliveryLaw (w : World) : Prop where
  shipped : ∀ so ∈ w.salesOrder, so.status = .shipped ↔ (shipmentsOf w so.id).length = 1
  unshipped : ∀ so ∈ w.salesOrder, so.status ≠ .shipped → shipmentsOf w so.id = []
  ordered : ∀ s ∈ w.shipment, ∃ so ∈ w.salesOrder, so.id = s.salesOrderId
  shipDate : ∀ s ∈ w.shipment, lastShipped w s.salesOrderId = some (simDatetime s.shipDate) ∧
    ∀ t ∈ movements w .shipment s.salesOrderId, t.transactionAt ≤ simDatetime s.shipDate
  delivered : ∀ s ∈ w.shipment, s.status = .delivered ↔ s.actualDeliveryDate.isSome = true
  window : ∀ s ∈ w.shipment, ∀ date, s.actualDeliveryDate = some date → InWindow w.master.carrier s date

theorem Delivers.deliveryLaw {last : Date} {w : World} (h : Delivers last w) : DeliveryLaw w := by
  have none : ∀ so ∈ w.salesOrder, so.status ≠ .shipped → shipmentsOf w so.id = [] := by
    intro so mem status
    rw [shipmentsOf, List.filter_eq_nil_iff]
    intro s memS same
    exact h.orders.open_none mem status (of_decide_eq_true same ▸ List.mem_map_of_mem memS)
  constructor
  case shipped =>
    intro so mem
    refine ⟨fun shipped => (h.orders.one.filter_length so.id).2 (h.orders.shipped so mem shipped), ?_⟩
    intro one
    by_contra status
    rw [none so mem status] at one
    cases one
  case unshipped => exact none
  case ordered =>
    intro s mem
    obtain ⟨so, memO, id, -⟩ := h.orders.known s mem
    exact ⟨so, memO, id⟩
  case shipDate => exact fun s mem => ⟨h.orders.shipDate s mem, h.ledger.latest (h.orders.shipDate s mem)⟩
  case delivered => exact fun s mem => (h.dated s mem).delivered
  case window => exact fun s mem => (h.dated s mem).window

/-- In every run from an empty operational world whose ticks do not go back and find a carrier, the
shipped orders and the shipments correspond, a tick delivers no later than its day, and a delivered
shipment stays as it is. -/
theorem one_shipment_per_order (clock : SimulationClock) (ticks : List ScheduledTick) (m : Master)
    (labels : List RunLabel) (dates : (tickDates labels).Pairwise (· ≤ ·))
    (carried : Carried (Tx.start ⟨clock, ticks, World.empty m⟩) labels) :
    ((labels.foldl runStep (Tx.start ⟨clock, ticks, World.empty m⟩)).Both fun db =>
      DeliveryLaw db.tables) ∧
    (∀ env d events w,
      scheduledFlow env d
        (labels.foldl runStep (Tx.start ⟨clock, ticks, World.empty m⟩)).pending.tables = .ok events w →
      TickDeliveries d
        (labels.foldl runStep (Tx.start ⟨clock, ticks, World.empty m⟩)).pending.tables w) ∧
    ∀ later : List RunLabel,
      ∀ s ∈ (labels.foldl runStep (Tx.start ⟨clock, ticks, World.empty m⟩)).committed.tables.shipment,
        s.status = .delivered →
        ((labels ++ later).foldl runStep (Tx.start ⟨clock, ticks, World.empty m⟩)).Both fun db =>
          s ∈ db.tables.shipment := by
  obtain ⟨first, dates⟩ := exists_before dates
  have start : (Tx.start (⟨clock, ticks, World.empty m⟩ : Database World)).Both fun db =>
      Delivers first db.tables :=
    ⟨delivers_empty m first, delivers_empty m first⟩
  obtain ⟨last, delivers⟩ := delivers_of_run start dates carried
  have landed : Landed (labels.foldl runStep (Tx.start ⟨clock, ticks, World.empty m⟩)) :=
    landed_of_run (start.imp fun _ h => h.wf) fun _ mem _ => mem
  refine ⟨delivers.imp fun _ h => h.deliveryLaw, ?_, ?_⟩
  · intro env d events w run
    exact (scheduledFlow_shipments env delivers.2.wf run).deliveries
  · intro later s mem delivered
    rw [List.foldl_append]
    refine (delivered_stays delivered ?_).imp fun _ h => h.2
    exact ⟨⟨delivers.1.wf, mem⟩, ⟨delivers.2.wf, landed s mem delivered⟩⟩

/-- Boxes for one customer, and a carrier that is always on time. -/
def boxesCarried : Database World :=
  ⟨⟨monday - 1, .running⟩, [], World.empty { boxesFor ["left"] with carrier := [⟨"swift", 1, 1, .low, 100, true⟩] }⟩

/-- A tick that numbers its purchase order by the day of the week. -/
def tickOn (day : ℕ) : RunLabel :=
  .tick { orderOnMonday with
    purchaseOrderId := fun _ _ => day
    purchaseOrderHex := fun _ _ => toString day } (monday + day)

/-- The order of Monday is shipped on Thursday and delivered by the tick of Saturday. -/
def sixDays : List RunLabel :=
  [tickOn 0, tickOn 1, tickOn 2, tickOn 3, .commit, tickOn 4, tickOn 5, .commit]

/-- The shipment arrives on Friday, as its carrier promises, and Saturday's tick finds that out. -/
theorem one_shipment_per_order_sixDays :
    DeliveryLaw (sixDays.foldl runStep (Tx.start boxesCarried)).committed.tables ∧
      (sixDays.foldl runStep (Tx.start boxesCarried)).committed.tables.shipment.map
        (·.actualDeliveryDate) = [some (monday + 4)] := by
  have carried : Carried (Tx.start boxesCarried) sixDays := by
    refine ⟨?_, ?_, ?_, ?_, trivial, ?_, ?_, trivial, trivial⟩
    all_goals
      change HasCarrier _
      decide +kernel
  exact ⟨(one_shipment_per_order _ _ _ sixDays (by decide +kernel) carried).1.1, by decide +kernel⟩

end MeadowOps.Flow
