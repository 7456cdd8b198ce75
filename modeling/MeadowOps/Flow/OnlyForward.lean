import MeadowOps.Flow.AuditTrail
import MeadowOps.Lib.Permuted

/-!
# The operational tables only move forward

What a later state still shows of an earlier one. The ledger and the lifecycle events grow at the end; an
order, a shipment or a transfer keeps what it was created with, moves along its lifecycle, and is never
touched again once it is closed.
-/

namespace MeadowOps.Flow

open Db Lib

/-! ## Rows -/

def ShipmentEdge (s s' : ShipmentStatus) : Prop :=
  (s, s') ∈ [(ShipmentStatus.pending, ShipmentStatus.inTransit), (.inTransit, .delivered)]

def TransferEdge (s s' : TransferStatus) : Prop :=
  (s, s') ∈ [(TransferStatus.pending, TransferStatus.inTransit), (.inTransit, .completed)]

structure PurchaseOrderLine.Forward (l l' : PurchaseOrderLine) : Prop where
  product : l'.productId = l.productId
  ordered : l'.quantityOrdered = l.quantityOrdered
  received : l.quantityReceived ≤ l'.quantityReceived

structure PurchaseOrder.Forward (po po' : PurchaseOrder) : Prop where
  same : po' = { po with status := po'.status, lines := po'.lines }
  status : Relation.ReflTransGen PurchaseEdge po.status po'.status
  lines : Paired PurchaseOrderLine.Forward po.lines po'.lines
  closed : po.status.isOpen = false → po' = po

structure SalesOrderLine.Forward (l l' : SalesOrderLine) : Prop where
  product : l'.productId = l.productId
  ordered : l'.quantityOrdered = l.quantityOrdered
  shipped : l.quantityShipped ≤ l'.quantityShipped

structure SalesOrder.Forward (so so' : SalesOrder) : Prop where
  same : so' = { so with promisedDate := so'.promisedDate, status := so'.status, lines := so'.lines }
  status : Relation.ReflTransGen SalesEdge so.status so'.status
  lines : Paired SalesOrderLine.Forward so.lines so'.lines
  /-- A promise, once given, stands. -/
  promise : so.status ≠ .submitted → so'.promisedDate = so.promisedDate
  closed : so.status.isOpen = false → so' = so

structure Shipment.Forward (s s' : Shipment) : Prop where
  same : s' = { s with actualDeliveryDate := s'.actualDeliveryDate, status := s'.status }
  status : Relation.ReflTransGen ShipmentEdge s.status s'.status
  closed : s.status.inFlight = false → s' = s

structure WarehouseTransfer.Forward (t t' : WarehouseTransfer) : Prop where
  same : t' = { t with status := t'.status }
  status : Relation.ReflTransGen TransferEdge t.status t'.status
  closed : t.status.inFlight = false → t' = t

section Rows

theorem PurchaseOrderLine.Forward.refl (l : PurchaseOrderLine) : PurchaseOrderLine.Forward l l := ⟨rfl, rfl, le_rfl⟩

theorem PurchaseOrderLine.Forward.trans (l l' l'' : PurchaseOrderLine) (h : PurchaseOrderLine.Forward l l')
    (h' : PurchaseOrderLine.Forward l' l'') : PurchaseOrderLine.Forward l l'' :=
  ⟨h'.product.trans h.product, h'.ordered.trans h.ordered, h.received.trans h'.received⟩

theorem PurchaseOrder.Forward.refl (po : PurchaseOrder) : PurchaseOrder.Forward po po :=
  ⟨rfl, .refl, .refl PurchaseOrderLine.Forward.refl _, fun _ => rfl⟩

theorem PurchaseOrder.Forward.trans (po po' po'' : PurchaseOrder) (h : PurchaseOrder.Forward po po')
    (h' : PurchaseOrder.Forward po' po'') : PurchaseOrder.Forward po po'' where
  same := by
    rw [h'.same, h.same]
  status := h.status.trans h'.status
  lines := h.lines.trans PurchaseOrderLine.Forward.trans h'.lines
  closed := by
    intro closed
    obtain rfl := h.closed closed
    exact h'.closed closed

theorem SalesOrderLine.Forward.refl (l : SalesOrderLine) : SalesOrderLine.Forward l l := ⟨rfl, rfl, le_rfl⟩

theorem SalesOrderLine.Forward.trans (l l' l'' : SalesOrderLine) (h : SalesOrderLine.Forward l l')
    (h' : SalesOrderLine.Forward l' l'') : SalesOrderLine.Forward l l'' :=
  ⟨h'.product.trans h.product, h'.ordered.trans h.ordered, h.shipped.trans h'.shipped⟩

theorem SalesOrder.Forward.refl (so : SalesOrder) : SalesOrder.Forward so so :=
  ⟨rfl, .refl, .refl SalesOrderLine.Forward.refl _, fun _ => rfl, fun _ => rfl⟩

/-- No transition leads back to a submitted order. -/
theorem salesEdge_submitted {s s' : SalesOrderStatus} (h : Relation.ReflTransGen SalesEdge s s')
    (later : s ≠ .submitted) : s' ≠ .submitted := by
  induction h with
  | refl => exact later
  | tail _ edge _ =>
    rintro rfl
    simp [SalesEdge] at edge

theorem SalesOrder.Forward.trans (so so' so'' : SalesOrder) (h : SalesOrder.Forward so so')
    (h' : SalesOrder.Forward so' so'') : SalesOrder.Forward so so'' where
  same := by
    rw [h'.same, h.same]
  status := h.status.trans h'.status
  lines := h.lines.trans SalesOrderLine.Forward.trans h'.lines
  promise := by
    intro later
    exact (h'.promise (salesEdge_submitted h.status later)).trans (h.promise later)
  closed := by
    intro closed
    obtain rfl := h.closed closed
    exact h'.closed closed

theorem Shipment.Forward.refl (s : Shipment) : Shipment.Forward s s := ⟨rfl, .refl, fun _ => rfl⟩

theorem Shipment.Forward.trans (s s' s'' : Shipment) (h : Shipment.Forward s s')
    (h' : Shipment.Forward s' s'') : Shipment.Forward s s'' where
  same := by
    rw [h'.same, h.same]
  status := h.status.trans h'.status
  closed := by
    intro closed
    obtain rfl := h.closed closed
    exact h'.closed closed

theorem WarehouseTransfer.Forward.refl (t : WarehouseTransfer) : WarehouseTransfer.Forward t t :=
  ⟨rfl, .refl, fun _ => rfl⟩

theorem WarehouseTransfer.Forward.trans (t t' t'' : WarehouseTransfer) (h : WarehouseTransfer.Forward t t')
    (h' : WarehouseTransfer.Forward t' t'') : WarehouseTransfer.Forward t t'' where
  same := by
    rw [h'.same, h.same]
  status := h.status.trans h'.status
  closed := by
    intro closed
    obtain rfl := h.closed closed
    exact h'.closed closed

end Rows

/-! ## What one step does to a row -/

section Steps

variable {d : Date}

theorem receiveLine_forward (fraction : Option ℚ) (l : PurchaseOrderLine) :
    PurchaseOrderLine.Forward l (receiveLine fraction l) := by
  unfold receiveLine
  dsimp only
  split
  · exact .refl l
  · rename_i waiting
    have most := (receiveQuantity_bounds fraction (not_le.1 waiting)).1
    refine ⟨rfl, rfl, ?_⟩
    dsimp only
    omega

theorem shipLines_paired (so : SalesOrder) {lines : List SalesOrderLine} (perm : lines.Perm so.lines)
    (ledger : List InventoryTransaction) :
    Paired SalesOrderLine.Forward so.lines (shipLines d so lines ledger).1 := by
  refine ⟨lines, perm, ?_⟩
  clear perm
  induction lines generalizing ledger with
  | nil => exact .nil
  | cons l lines ih =>
    rcases shipLines_cons d so l lines ledger with ⟨-, eq⟩ | ⟨wanted, -, eq⟩
    · rw [eq]
      exact .cons (.refl l) (ih ledger)
    · rw [eq]
      refine .cons ⟨rfl, rfl, ?_⟩ (ih _)
      rw [SalesOrderLine.remaining] at wanted
      dsimp only
      omega

theorem confirm_forward {po : PurchaseOrder} (status : po.status = .submitted) :
    PurchaseOrder.Forward po { po with status := .confirmed } where
  same := rfl
  status := .single (by simp [PurchaseEdge, status])
  lines := .refl PurchaseOrderLine.Forward.refl _
  closed := by simp [status, PurchaseOrderStatus.isOpen]

theorem receive_forward {po : PurchaseOrder} {lines : List PurchaseOrderLine} {fraction : Option ℚ}
    (status : po.status = .confirmed ∨ po.status = .partiallyReceived) (perm : lines.Perm po.lines) :
    PurchaseOrder.Forward po (receivedOrder fraction lines po) where
  same := rfl
  status := by
    rw [receivedOrder]
    dsimp only
    rcases status with status | status <;> rw [status] <;> split
    · exact .single (by simp [PurchaseEdge])
    · exact .single (by simp [PurchaseEdge])
    · exact .single (by simp [PurchaseEdge])
    · exact .refl
  lines := .of_map (receiveLine_forward fraction) perm
  closed := by
    rcases status with status | status <;> simp [status, PurchaseOrderStatus.isOpen]

theorem allocate_forward {so : SalesOrder} (status : so.status = .submitted) (promised : Option Date) :
    SalesOrder.Forward so { so with status := .allocated, promisedDate := promised } where
  same := rfl
  status := .single (by simp [SalesEdge, status])
  lines := .refl SalesOrderLine.Forward.refl _
  promise := fun later => absurd status later
  closed := by simp [status, SalesOrderStatus.isOpen]

theorem ship_forward {so : SalesOrder} {lines : List SalesOrderLine} (ledger : List InventoryTransaction)
    (status : so.status = .allocated ∨ so.status = .partiallyShipped) (perm : lines.Perm so.lines) :
    SalesOrder.Forward so (shippedOrder (shipLines d so lines ledger).1 so) where
  same := rfl
  status := by
    rw [shippedOrder]
    dsimp only
    rcases status with status | status <;> rw [status] <;> split
    · exact .single (by simp [SalesEdge])
    · exact .single (by simp [SalesEdge])
    · exact .single (by simp [SalesEdge])
    · exact .refl
  lines := shipLines_paired so perm ledger
  promise := fun _ => rfl
  closed := by
    rcases status with status | status <;> simp [status, SalesOrderStatus.isOpen]

end Steps

/-! ## The tables -/

/-- What a later world shows of an earlier one. -/
structure Later (w w' : World) : Prop where
  ledger : w.inventoryTransaction <+: w'.inventoryTransaction
  purchaseEvents : w.purchaseOrderLifecycleEvent <+: w'.purchaseOrderLifecycleEvent
  salesEvents : w.salesOrderLifecycleEvent <+: w'.salesOrderLifecycleEvent
  purchaseOrders :
    RowSteps (·.id) PurchaseOrder.Forward (fun _ => True) w.purchaseOrder w'.purchaseOrder
  salesOrders : RowSteps (·.id) SalesOrder.Forward (fun _ => True) w.salesOrder w'.salesOrder
  shipments : RowSteps (·.id) Shipment.Forward (fun _ => True) w.shipment w'.shipment
  transfers :
    RowSteps (·.id) WarehouseTransfer.Forward (fun _ => True) w.warehouseTransfer w'.warehouseTransfer

theorem Later.refl {w : World} (hw : Wf w) : Later w w where
  ledger := List.prefix_rfl
  purchaseEvents := List.prefix_rfl
  salesEvents := List.prefix_rfl
  purchaseOrders := .refl PurchaseOrder.Forward.refl hw.purchaseOrder
  salesOrders := .refl SalesOrder.Forward.refl hw.salesOrder
  shipments := .refl Shipment.Forward.refl hw.shipment
  transfers := .refl WarehouseTransfer.Forward.refl hw.warehouseTransfer

theorem Later.trans {w w' w'' : World} (h : Later w w') (h' : Later w' w'') : Later w w'' where
  ledger := h.ledger.trans h'.ledger
  purchaseEvents := h.purchaseEvents.trans h'.purchaseEvents
  salesEvents := h.salesEvents.trans h'.salesEvents
  purchaseOrders := h.purchaseOrders.trans PurchaseOrder.Forward.trans (fun _ _ _ _ => trivial) h'.purchaseOrders
  salesOrders := h.salesOrders.trans SalesOrder.Forward.trans (fun _ _ _ _ => trivial) h'.salesOrders
  shipments := h.shipments.trans Shipment.Forward.trans (fun _ _ _ _ => trivial) h'.shipments
  transfers := h.transfers.trans WarehouseTransfer.Forward.trans (fun _ _ _ _ => trivial) h'.transfers

/-- The ledger of the shipping loop goes on from where it was. -/
theorem shipLines_extends (d : Date) (so : SalesOrder) (lines : List SalesOrderLine)
    (ledger : List InventoryTransaction) : ledger <+: (shipLines d so lines ledger).2.1 := by
  obtain ⟨shipped, appended, -⟩ := shipLines_spec d so lines ledger
  rw [appended]
  exact List.prefix_append _ _

theorem FlowStep.later {A : World → SalesOrder → Prop} {d : Date} {w w' : World} (h : FlowStep A d w w')
    (hw : Wf w) : Later w w' := by
  have start := Later.refl hw
  cases h with
  | confirm po mem status =>
    refine { start with purchaseEvents := List.prefix_append _ _, purchaseOrders := ?_ }
    have own := hw.purchaseOrder.modify_row (f := fun _ => { po with status := .confirmed })
      (g := fun po => { po with status := .confirmed }) mem rfl
    dsimp only
    rw [own]
    exact .modify PurchaseOrder.Forward.refl hw.purchaseOrder mem (fun _ => rfl) (confirm_forward status)
  | receive po lines fraction mem status due perm range =>
    refine { start with
      ledger := List.prefix_append _ _
      purchaseEvents := List.prefix_append _ _
      purchaseOrders := ?_ }
    have own := hw.purchaseOrder.modify_row (f := fun _ => receivedOrder fraction lines po)
      (g := receivedOrder fraction lines) mem rfl
    dsimp only
    rw [own]
    exact .modify PurchaseOrder.Forward.refl hw.purchaseOrder mem (fun _ => rfl) (receive_forward status perm)
  | depart t mem status =>
    refine { start with transfers := ?_ }
    refine .modify WarehouseTransfer.Forward.refl hw.warehouseTransfer mem (fun _ => rfl) ?_
    exact ⟨rfl, .single (by simp [TransferEdge, status]), by simp [status, TransferStatus.inFlight]⟩
  | arrive t mem status due =>
    refine { start with ledger := List.prefix_append _ _, transfers := ?_ }
    refine .modify WarehouseTransfer.Forward.refl hw.warehouseTransfer mem (fun _ => rfl) ?_
    exact ⟨rfl, .single (by simp [TransferEdge, status]), by simp [status, TransferStatus.inFlight]⟩
  | transfer t fresh =>
    exact { start with
      ledger := List.prefix_append _ _
      transfers := .append WarehouseTransfer.Forward.refl hw.warehouseTransfer trivial fresh }
  | order po p quantity fresh =>
    exact { start with
      purchaseEvents := List.prefix_append _ _
      purchaseOrders := .append PurchaseOrder.Forward.refl hw.purchaseOrder trivial fresh }
  | dispatch s mem status =>
    refine { start with shipments := ?_ }
    refine .modify Shipment.Forward.refl hw.shipment mem (fun _ => rfl) ?_
    exact ⟨rfl, .single (by simp [ShipmentEdge, status]), by simp [status, ShipmentStatus.inFlight]⟩
  | deliver s date mem status due =>
    refine { start with shipments := ?_ }
    refine .modify Shipment.Forward.refl hw.shipment mem (fun _ => rfl) ?_
    exact ⟨rfl, .single (by simp [ShipmentEdge, status]), by simp [status, ShipmentStatus.inFlight]⟩
  | allocate so mem status =>
    refine { start with salesEvents := List.prefix_append _ _, salesOrders := ?_ }
    exact .modify SalesOrder.Forward.refl hw.salesOrder mem (fun _ => rfl) (allocate_forward status _)
  | ship so lines shipments events mem status perm any shipment logged =>
    refine { start with
      ledger := shipLines_extends ..
      salesEvents := List.prefix_append _ _
      salesOrders := .modify SalesOrder.Forward.refl hw.salesOrder mem (fun _ => rfl)
        (ship_forward _ status perm)
      shipments := ?_ }
    rcases shipment with rfl | ⟨s, -, -, -, inserted⟩
    · exact start.shipments
    · obtain ⟨rfl, fresh⟩ := insert?_eq_some inserted
      exact .append Shipment.Forward.refl hw.shipment trivial fresh
  | demand so fresh =>
    exact { start with
      salesEvents := List.prefix_append _ _
      salesOrders := .append SalesOrder.Forward.refl hw.salesOrder trivial fresh }
  | snapshot env => exact { start with }

theorem FlowSteps.later {A : World → SalesOrder → Prop} {d : Date} {w w' : World} (h : FlowSteps A d w w')
    (hw : Wf w) : Later w w' := by
  induction h with
  | refl => exact .refl hw
  | tail steps step ih => exact ih.trans (step.later (FlowSteps.wf steps hw))

/-- What a tick that returns leaves of the tables it started with. -/
theorem scheduledFlow_later {env : TickEnv} {d : Date} {w w' : World} {events : ℕ} (hw : Wf w)
    (run : scheduledFlow env d w = .ok events w') : Later w w' := by
  have steps := scheduledFlow_steps env d hw
  rw [run] at steps
  exact steps.later hw

end MeadowOps.Flow
