import MeadowOps.Flow.Passes
import Mathlib.Logic.Relation

/-!
# What one iteration of the flow can do

`FlowStep A d w w'` lists the changes an iteration of any loop of the flow makes on day `d`, each
with the guards the code has checked by then. Every pass is a sequence of such steps
(`scheduledFlow_steps`), so an invariant of the flow is one case analysis over `FlowStep`. `A` is
a further condition on the orders that are allocated, for what only some runs guarantee.

The keys of the four tables whose rows are updated stay unique along the steps (`Wf`).
-/

namespace MeadowOps.Flow

open Db Lib

/-- A roll of `roll_partial_receipt_fraction`. -/
def FractionRange (fraction : Option ℚ) : Prop := ∀ q ∈ fraction, 1 / 2 ≤ q ∧ q ≤ 9 / 10

/-- The lifecycle events of a transition; none when the status stays. -/
def transitionEvents {S : Type} [DecidableEq S] (id : Uuid) (before after : S) (d : Date) :
    List (LifecycleEvent S) :=
  if after = before then [] else [⟨id, some before, after, d⟩]

/-- No restriction on the orders that are allocated. -/
abbrev AnyAllocation : World → SalesOrder → Prop := fun _ _ => True

/-- Only orders that meet `A` are allocated. -/
inductive FlowStep (A : World → SalesOrder → Prop) (d : Date) (w : World) : World → Prop
  /-- `SUBMITTED` to `CONFIRMED`. -/
  | confirm (po : PurchaseOrder) (mem : po ∈ w.purchaseOrder) (status : po.status = .submitted) :
      FlowStep A d w { w with
        purchaseOrder :=
          modify (·.id) po.id (fun _ => { po with status := .confirmed }) w.purchaseOrder
        purchaseOrderLifecycleEvent := w.purchaseOrderLifecycleEvent ++
          [⟨po.id, some po.status, .confirmed, d⟩] }
  /-- A full or partial receipt of a due order. -/
  | receive (po : PurchaseOrder) (lines : List PurchaseOrderLine) (fraction : Option ℚ)
      (mem : po ∈ w.purchaseOrder)
      (status : po.status = .confirmed ∨ po.status = .partiallyReceived)
      (due : po.expectedDeliveryDate ≤ d) (perm : lines.Perm po.lines)
      (range : FractionRange fraction) :
      FlowStep A d w { w with
        purchaseOrder :=
          modify (·.id) po.id (fun _ => receivedOrder fraction lines po) w.purchaseOrder
        inventoryTransaction :=
          w.inventoryTransaction ++ lines.filterMap (receiptOf d po fraction)
        purchaseOrderLifecycleEvent := w.purchaseOrderLifecycleEvent ++
          transitionEvents po.id po.status (receivedOrder fraction lines po).status d }
  /-- A transfer leaves. -/
  | depart (t : WarehouseTransfer) (mem : t ∈ w.warehouseTransfer) (status : t.status = .pending) :
      FlowStep A d w { w with
        warehouseTransfer :=
          modify (·.id) t.id (fun t => { t with status := .inTransit }) w.warehouseTransfer }
  /-- A transfer arrives and is booked at its destination. -/
  | arrive (t : WarehouseTransfer) (mem : t ∈ w.warehouseTransfer) (status : t.status = .inTransit)
      (due : t.transferDate + warehouseTransferTransitDays ≤ d) :
      FlowStep A d w { w with
        warehouseTransfer :=
          modify (·.id) t.id (fun t => { t with status := .completed }) w.warehouseTransfer
        inventoryTransaction := w.inventoryTransaction ++ [{
          transactionAt := simDatetime d
          productId := t.productId
          warehouseId := t.toWarehouseId
          transactionType := .transferIn
          quantityDelta := t.quantity
          referenceType := some "warehouse_transfer"
          referenceId := some t.id }] }
  /-- A transfer is created and booked out of its donor. -/
  | transfer (t : WarehouseTransfer) (fresh : t.id ∉ w.warehouseTransfer.map (·.id))
      (noOrder : hasOpenPurchaseOrder w t.productId t.toWarehouseId = false)
      (noTransfer : hasOpenInboundTransfer w t.productId t.toWarehouseId = false)
      (distinct : t.fromWarehouseId ≠ t.toWarehouseId) (positive : 0 < t.quantity)
      (deficit : t.quantity ≤ warehouseDeficit
        (currentInventoryPosition w t.productId t.toWarehouseId)
        (avgDailyShippedDemand w t.productId t.toWarehouseId d) reorderSafetyDays)
      (surplus : t.quantity ≤ transferableSurplus
        (currentInventoryPosition w t.productId t.fromWarehouseId)
        (allocatedQuantity w t.productId t.fromWarehouseId)
        (avgDailyShippedDemand w t.productId t.fromWarehouseId d) reorderSafetyDays)
      (date : t.transferDate = d) (status : t.status = .pending) :
      FlowStep A d w { w with
        warehouseTransfer := w.warehouseTransfer ++ [t]
        inventoryTransaction := w.inventoryTransaction ++ [{
          transactionAt := simDatetime d
          productId := t.productId
          warehouseId := t.fromWarehouseId
          transactionType := .transferOut
          quantityDelta := -t.quantity
          referenceType := some "warehouse_transfer"
          referenceId := some t.id }] }
  /-- A purchase order of one line is submitted. -/
  | order (po : PurchaseOrder) (p : String) (quantity : ℤ)
      (fresh : po.id ∉ w.purchaseOrder.map (·.id))
      (lines : po.lines = [⟨p, quantity, 0⟩]) (minimum : minimumReorderQuantity ≤ quantity)
      (noOrder : hasOpenPurchaseOrder w p po.warehouseId = false)
      (noTransfer : hasOpenInboundTransfer w p po.warehouseId = false)
      (date : po.orderDate = d) (expected : d + 1 ≤ po.expectedDeliveryDate)
      (status : po.status = .submitted) :
      FlowStep A d w { w with
        purchaseOrder := w.purchaseOrder ++ [po]
        purchaseOrderLifecycleEvent := w.purchaseOrderLifecycleEvent ++ [⟨po.id, none, .submitted, d⟩] }
  /-- A shipment goes in transit. -/
  | dispatch (s : Shipment) (mem : s ∈ w.shipment) (status : s.status = .pending) :
      FlowStep A d w { w with
        shipment := modify (·.id) s.id (fun s => { s with status := .inTransit }) w.shipment }
  /-- A shipment is delivered, no later than today. -/
  | deliver (s : Shipment) (date : Date) (mem : s ∈ w.shipment) (status : s.status = .inTransit)
      (due : date ≤ d) :
      FlowStep A d w { w with
        shipment := modify (·.id) s.id (fun s => { s with
          status := .delivered, actualDeliveryDate := some date }) w.shipment }
  /-- Stock on hand covers every line of a submitted order. -/
  | allocate (so : SalesOrder) (mem : so ∈ w.salesOrder) (status : so.status = .submitted)
      (available : allAvailable w so so.lines = true) (allowed : A w so) :
      FlowStep A d w { w with
        salesOrder := modify (·.id) so.id (fun so => { so with
          status := .allocated, promisedDate := some (d + genericPromiseDays) }) w.salesOrder
        salesOrderLifecycleEvent := w.salesOrderLifecycleEvent ++
          [⟨so.id, some so.status, .allocated, d⟩] }
  /-- An allocated order ships some of its lines, and may get a shipment. The event of a run whose
  shipment is refused is never written. -/
  | ship (so : SalesOrder) (lines : List SalesOrderLine) (shipments : List Shipment)
      (events : List (LifecycleEvent SalesOrderStatus))
      (mem : so ∈ w.salesOrder) (status : so.status = .allocated ∨ so.status = .partiallyShipped)
      (perm : lines.Perm so.lines)
      (any : (shipLines d so lines w.inventoryTransaction).2.2 = true)
      (shipment : shipments = w.shipment ∨ ∃ s : Shipment, s.salesOrderId = so.id ∧ s.shipDate = d ∧
        s.status = .pending ∧ insert? (·.id) s w.shipment = some shipments)
      (logged : events = [] ∨ events = transitionEvents so.id so.status
        (shippedOrder (shipLines d so lines w.inventoryTransaction).1 so).status d) :
      FlowStep A d w { w with
        salesOrder := modify (·.id) so.id
          (shippedOrder (shipLines d so lines w.inventoryTransaction).1) w.salesOrder
        inventoryTransaction := (shipLines d so lines w.inventoryTransaction).2.1
        shipment := shipments
        salesOrderLifecycleEvent := w.salesOrderLifecycleEvent ++ events }
  /-- A customer orders. -/
  | demand (so : SalesOrder) (fresh : so.id ∉ w.salesOrder.map (·.id))
      (lines : ∀ l ∈ so.lines, 1 ≤ l.quantityOrdered ∧ l.quantityShipped = 0)
      (date : so.orderDate = d) (status : so.status = .submitted) :
      FlowStep A d w { w with
        salesOrder := w.salesOrder ++ [so]
        salesOrderLifecycleEvent := w.salesOrderLifecycleEvent ++ [⟨so.id, none, .submitted, d⟩] }
  /-- The snapshot of the day. -/
  | snapshot (env : TickEnv) : FlowStep A d w (endState (snapshotInventoryPositions env d w))

/-! ## Keys -/

/-- The primary keys of the tables whose rows are updated. -/
structure Wf (w : World) : Prop where
  purchaseOrder : Keyed (·.id) w.purchaseOrder
  salesOrder : Keyed (·.id) w.salesOrder
  shipment : Keyed (·.id) w.shipment
  warehouseTransfer : Keyed (·.id) w.warehouseTransfer

section
variable {A : World → SalesOrder → Prop} {d : Date} {w w' : World}

theorem FlowStep.wf (h : FlowStep A d w w') (hw : Wf w) : Wf w' := by
  cases h with
  | confirm po => exact { hw with purchaseOrder := hw.purchaseOrder.modify fun _ _ => rfl }
  | receive po => exact { hw with purchaseOrder := hw.purchaseOrder.modify fun _ _ => rfl }
  | depart t => exact { hw with warehouseTransfer := hw.warehouseTransfer.modify fun _ h => h }
  | arrive t => exact { hw with warehouseTransfer := hw.warehouseTransfer.modify fun _ h => h }
  | transfer t fresh => exact { hw with warehouseTransfer := hw.warehouseTransfer.append fresh }
  | order po p quantity fresh => exact { hw with purchaseOrder := hw.purchaseOrder.append fresh }
  | dispatch s => exact { hw with shipment := hw.shipment.modify fun _ h => h }
  | deliver s => exact { hw with shipment := hw.shipment.modify fun _ h => h }
  | allocate so => exact { hw with salesOrder := hw.salesOrder.modify fun _ h => h }
  | ship so lines shipments events _ _ _ _ shipment =>
    refine { hw with salesOrder := hw.salesOrder.modify fun _ h => h, shipment := ?_ }
    rcases shipment with rfl | ⟨s, -, -, -, hs⟩
    · exact hw.shipment
    · obtain ⟨rfl, fresh⟩ := insert?_eq_some hs
      exact hw.shipment.append fresh
  | demand so fresh => exact { hw with salesOrder := hw.salesOrder.append fresh }
  | snapshot env => exact { hw with }

end

/-- A run of the loops of one day. -/
abbrev FlowSteps (A : World → SalesOrder → Prop) (d : Date) : World → World → Prop :=
  Relation.ReflTransGen (FlowStep A d)

section
variable {A : World → SalesOrder → Prop} {d : Date} {w w' : World}

theorem FlowSteps.wf (h : FlowSteps A d w w') (hw : Wf w) : Wf w' := by
  induction h with
  | refl => exact hw
  | tail _ h ih => exact h.wf ih

/-- What every step keeps, the loops of a day keep. -/
theorem FlowSteps.invariant {I : World → Prop}
    (step : ∀ w w', FlowStep A d w w' → Wf w → I w → I w') (hw : Wf w) (hI : I w)
    (h : FlowSteps A d w w') : I w' := by
  induction h with
  | refl => exact hI
  | tail steps h ih => exact step _ _ h (FlowSteps.wf steps hw) ih

end

end MeadowOps.Flow
