import MeadowOps.Flow.Reconciliation
import MeadowOps.Flow.SameRows
import MeadowOps.Flow.Shipments

/-!
# The passes that update rows

Purchase orders, transfers and shipments progress each by itself: the state after the pass is the
loaded rows updated, whatever their order, and the ledger and event rows each of them writes.
-/

namespace MeadowOps.Flow

open Db Lib

variable (env env' : TickEnv) (d : Date)

/-! ## Purchase orders -/

/-- An open purchase order after the day's pass. -/
def progressedPurchaseOrder (po : PurchaseOrder) : PurchaseOrder :=
  ((purchaseOrderStep env d po).map Prod.fst).getD po

/-- What the day's pass receives of an open purchase order. -/
def receiptsOf (po : PurchaseOrder) : List InventoryTransaction :=
  ((purchaseOrderStep env d po).map Prod.snd).getD []

def purchaseOrderEvents (po : PurchaseOrder) : List (LifecycleEvent PurchaseOrderStatus) :=
  transitionEvents po.id po.status (progressedPurchaseOrder env d po).status d

theorem progressedPurchaseOrder_id (po : PurchaseOrder) : (progressedPurchaseOrder env d po).id = po.id := by
  unfold progressedPurchaseOrder purchaseOrderStep
  split
  · rfl
  · split <;> rfl

theorem progressPurchaseOrder_eq {w : World} {po : PurchaseOrder} (keyed : Keyed (·.id) w.purchaseOrder)
    (mem : po ∈ w.purchaseOrder) (events : ℕ) :
    progressPurchaseOrder env d events po.id w =
      .ok (events + (purchaseOrderEvents env d po).length) { w with
        purchaseOrder := modify (·.id) po.id (progressedPurchaseOrder env d) w.purchaseOrder
        inventoryTransaction := w.inventoryTransaction ++ receiptsOf env d po
        purchaseOrderLifecycleEvent :=
          w.purchaseOrderLifecycleEvent ++ purchaseOrderEvents env d po } := by
  have found : lookup (·.id) po.id w.purchaseOrder = some po := lookup_of_mem keyed mem
  simp only [progressPurchaseOrder, found]
  cases step : purchaseOrderStep env d po with
  | none =>
    have stays : progressedPurchaseOrder env d po = po := by simp [progressedPurchaseOrder, step]
    have silent : purchaseOrderEvents env d po = [] := by
      simp [purchaseOrderEvents, transitionEvents, stays]
    rw [keyed.modify_stays mem stays, silent]
    simp [receiptsOf, step]
  | some moved =>
    obtain ⟨po', receipts⟩ := moved
    have new : progressedPurchaseOrder env d po = po' := by simp [progressedPurchaseOrder, step]
    rw [← keyed.modify_row mem (f := fun _ => po') new.symm]
    by_cases same : po'.status = po.status
    · simp [purchaseOrderEvents, transitionEvents, new, same, receiptsOf, step]
    · simp [purchaseOrderEvents, transitionEvents, new, same, receiptsOf, step]

/-- The state when the rows of `done` have progressed. -/
def afterPurchaseOrders (w : World) (done : List PurchaseOrder) : World := { w with
  purchaseOrder := updateAll (·.id) (progressedPurchaseOrder env d) done w.purchaseOrder
  inventoryTransaction := w.inventoryTransaction ++ done.flatMap (receiptsOf env d)
  purchaseOrderLifecycleEvent :=
    w.purchaseOrderLifecycleEvent ++ done.flatMap (purchaseOrderEvents env d) }

def openPurchaseOrderRows (w : World) : List PurchaseOrder :=
  env.openPurchaseOrders.rows (w.purchaseOrder.filter (·.status.isOpen))

theorem purchaseOrders_after {w : World} (keyed : Keyed (·.id) w.purchaseOrder) :
    updateAll (·.id) (progressedPurchaseOrder env d) (openPurchaseOrderRows env w) w.purchaseOrder =
      w.purchaseOrder.map fun po => if po.status.isOpen then progressedPurchaseOrder env d po else po :=
  updateAll_eq_map (progressedPurchaseOrder_id env d) keyed (RowOrder.perm _ _)

theorem progressPurchaseOrders_eq {w : World} (keyed : Keyed (·.id) w.purchaseOrder) :
    progressPurchaseOrders env d w =
      .ok ((openPurchaseOrderRows env w).flatMap (purchaseOrderEvents env d)).length
        (afterPurchaseOrders env d w (openPurchaseOrderRows env w)) := by
  have loop := loadedRows_outcome (f := progressPurchaseOrder env d) (P := fun _ => True)
    (v := fun done => (done.flatMap (purchaseOrderEvents env d)).length)
    (s := afterPurchaseOrders env d w)
    (loaded_nodup keyed env.openPurchaseOrders (·.status.isOpen)) trivial (fun _ _ _ => trivial) ?_
  · have start : afterPurchaseOrders env d w [] = w := by simp [afterPurchaseOrders]
    rw [start] at loop
    exact loop.eq_ok trivial
  · intro done po rest split later _
    have loaded : po ∈ env.openPurchaseOrders.rows (w.purchaseOrder.filter (·.status.isOpen)) := by
      rw [split]
      simp
    have mem : po ∈ w.purchaseOrder := by
      rw [RowOrder.mem_rows] at loaded
      exact List.mem_of_mem_filter loaded
    rw [progressPurchaseOrder_eq env d
      (keyed_updateAll (progressedPurchaseOrder_id env d) keyed done) (mem_updateAll mem later)]
    simp only [afterPurchaseOrders, updateAll_append_singleton, List.flatMap_append,
      List.flatMap_cons, List.flatMap_nil, List.append_nil, List.length_append, List.append_assoc]
    exact .returned trivial

variable {env env'} in
/-- Lines in another order receive the same, line by line. -/
theorem purchaseOrderStep_view (draws : SameDraws env env') {po po' : PurchaseOrder}
    (same : purchaseOrderView po = purchaseOrderView po') :
    purchaseOrderView (progressedPurchaseOrder env d po) =
        purchaseOrderView (progressedPurchaseOrder env' d po') ∧
      (receiptsOf env d po).Perm (receiptsOf env' d po') ∧
      purchaseOrderEvents env d po = purchaseOrderEvents env' d po' := by
  obtain ⟨lines, perm, rfl⟩ := purchaseOrderView_eq.1 same
  simp only [purchaseOrderEvents, progressedPurchaseOrder, receiptsOf, purchaseOrderStep, draws.rng]
  by_cases submitted : po.status = .submitted
  · simp only [if_pos submitted, Option.map_some, Option.getD_some, and_true]
    exact ⟨purchaseOrderView_eq.2 ⟨lines, perm, rfl⟩, .refl _⟩
  · by_cases due : po.expectedDeliveryDate ≤ d
    · have shown : ((env.purchaseOrderLines po.id).rows po.lines).Perm
          ((env'.purchaseOrderLines po.id).rows lines) :=
        ((RowOrder.perm _ _).trans perm).trans (RowOrder.perm _ _).symm
      simp only [if_neg submitted, if_pos due, Option.map_some, Option.getD_some, receivedOrder,
        shown.all_eq]
      exact ⟨purchaseOrderView_eq.2 ⟨_, shown.map _, rfl⟩, shown.filterMap _, trivial⟩
    · simp only [if_neg submitted, if_neg due, Option.map_none, Option.getD_none, and_true]
      exact ⟨same, .refl _⟩

variable {env env'} in
theorem progressPurchaseOrders_agrees (draws : SameDraws env env') :
    Agrees Alike (progressPurchaseOrders env d) (progressPurchaseOrders env' d) := by
  intro w w' h
  have status : ∀ po po' : PurchaseOrder, purchaseOrderView po = purchaseOrderView po' →
      po.status.isOpen = po'.status.isOpen := by
    intro po po' same
    obtain ⟨lines, -, rfl⟩ := purchaseOrderView_eq.1 same
    rfl
  have loaded : SameVia purchaseOrderView (openPurchaseOrderRows env w) (openPurchaseOrderRows env' w') :=
    sameVia_loaded env.openPurchaseOrders env'.openPurchaseOrders h.purchaseOrder status
  have events := loaded.flatMap fun po po' same =>
    show (purchaseOrderEvents env d po).Perm (purchaseOrderEvents env' d po') by
      rw [(purchaseOrderStep_view d draws same).2.2]
  have receipts := loaded.flatMap fun po po' same => (purchaseOrderStep_view d draws same).2.1
  have rows : SameVia purchaseOrderView
      (updateAll (·.id) (progressedPurchaseOrder env d) (openPurchaseOrderRows env w) w.purchaseOrder)
      (updateAll (·.id) (progressedPurchaseOrder env' d) (openPurchaseOrderRows env' w')
        w'.purchaseOrder) := by
    rw [purchaseOrders_after env d h.wf.purchaseOrder, purchaseOrders_after env' d h.wf'.purchaseOrder]
    apply h.purchaseOrder.map
    intro po po' same
    rw [← status po po' same]
    split
    · exact (purchaseOrderStep_view d draws same).1
    · exact same
  rw [progressPurchaseOrders_eq env d h.wf.purchaseOrder,
    progressPurchaseOrders_eq env' d h.wf'.purchaseOrder, events.length_eq]
  refine .returned _ ⟨{ h.toSameRows with
    purchaseOrder := rows
    inventoryTransaction := h.inventoryTransaction.append receipts
    purchaseOrderLifecycleEvent := h.purchaseOrderLifecycleEvent.append events }, ?_, h.keyed, h.snapshots⟩
  exact { h.wf with
    purchaseOrder := keyed_updateAll (progressedPurchaseOrder_id env d) h.wf.purchaseOrder _ }

/-! ## Transfers -/

/-- The goods of a transfer are there. -/
def transferDue (t : WarehouseTransfer) : Bool :=
  decide (t.status ≠ .pending ∧ t.transferDate + warehouseTransferTransitDays ≤ d)

/-- A transfer in flight after the day's pass. -/
def progressedTransfer (t : WarehouseTransfer) : WarehouseTransfer :=
  if t.status = .pending then { t with status := .inTransit }
  else if transferDue d t then { t with status := .completed }
  else t

/-- What the day's pass books of a transfer in flight. -/
def arrivalsOf (t : WarehouseTransfer) : List InventoryTransaction :=
  if transferDue d t then [transferIn t d] else []

def transferMoves (t : WarehouseTransfer) : Bool := decide (t.status = .pending) || transferDue d t

theorem progressedTransfer_id (t : WarehouseTransfer) : (progressedTransfer d t).id = t.id := by
  unfold progressedTransfer
  split
  · rfl
  · split <;> rfl

theorem progressWarehouseTransfer_eq {w : World} {t : WarehouseTransfer}
    (keyed : Keyed (·.id) w.warehouseTransfer) (mem : t ∈ w.warehouseTransfer) (events : ℕ) :
    progressWarehouseTransfer d events t.id w =
      .ok (events + if transferMoves d t then 1 else 0) { w with
        warehouseTransfer := modify (·.id) t.id (progressedTransfer d) w.warehouseTransfer
        inventoryTransaction := w.inventoryTransaction ++ arrivalsOf d t } := by
  have found : lookup (·.id) t.id w.warehouseTransfer = some t := lookup_of_mem keyed mem
  simp only [progressWarehouseTransfer, found]
  by_cases pending : t.status = .pending
  · have departed : progressedTransfer d t = { t with status := .inTransit } := if_pos pending
    have notDue : transferDue d t = false := by simp [transferDue, pending]
    rw [if_pos pending, ← keyed.modify_row mem (f := fun t => { t with status := .inTransit }) departed.symm]
    simp [transferMoves, pending, arrivalsOf, notDue]
  · by_cases due : t.transferDate + warehouseTransferTransitDays ≤ d
    · have isDue : transferDue d t = true := decide_eq_true ⟨pending, due⟩
      have arrived : progressedTransfer d t = { t with status := .completed } := by
        rw [progressedTransfer, if_neg pending, if_pos isDue]
      rw [if_neg pending, if_pos due,
        ← keyed.modify_row mem (f := fun t => { t with status := .completed }) arrived.symm]
      simp [transferMoves, isDue, arrivalsOf, transferIn]
    · have notDue : transferDue d t = false := decide_eq_false fun h => due h.2
      have stays : progressedTransfer d t = t := by simp [progressedTransfer, pending, notDue]
      rw [if_neg pending, if_neg due, keyed.modify_stays mem stays]
      simp [transferMoves, pending, notDue, arrivalsOf]

/-- The state when the rows of `done` have progressed. -/
def afterTransfers (w : World) (done : List WarehouseTransfer) : World := { w with
  warehouseTransfer := updateAll (·.id) (progressedTransfer d) done w.warehouseTransfer
  inventoryTransaction := w.inventoryTransaction ++ done.flatMap (arrivalsOf d) }

def inFlightTransferRows (w : World) : List WarehouseTransfer :=
  env.inFlightTransfers.rows (w.warehouseTransfer.filter (·.status.inFlight))

theorem transfers_after {w : World} (keyed : Keyed (·.id) w.warehouseTransfer) :
    updateAll (·.id) (progressedTransfer d) (inFlightTransferRows env w) w.warehouseTransfer =
      w.warehouseTransfer.map fun t => if t.status.inFlight then progressedTransfer d t else t :=
  updateAll_eq_map (progressedTransfer_id d) keyed (RowOrder.perm _ _)

theorem progressWarehouseTransfers_eq {w : World} (keyed : Keyed (·.id) w.warehouseTransfer) :
    progressWarehouseTransfers env d w =
      .ok ((inFlightTransferRows env w).countP (transferMoves d))
        (afterTransfers d w (inFlightTransferRows env w)) := by
  have loop := loadedRows_outcome (f := progressWarehouseTransfer d) (P := fun _ => True)
    (v := fun done => done.countP (transferMoves d)) (s := afterTransfers d w)
    (loaded_nodup keyed env.inFlightTransfers (·.status.inFlight)) trivial (fun _ _ _ => trivial) ?_
  · have start : afterTransfers d w [] = w := by simp [afterTransfers]
    rw [start] at loop
    exact loop.eq_ok trivial
  · intro done t rest split later _
    have loaded : t ∈ env.inFlightTransfers.rows (w.warehouseTransfer.filter (·.status.inFlight)) := by
      rw [split]
      simp
    have mem : t ∈ w.warehouseTransfer := by
      rw [RowOrder.mem_rows] at loaded
      exact List.mem_of_mem_filter loaded
    rw [progressWarehouseTransfer_eq d (keyed_updateAll (progressedTransfer_id d) keyed done)
      (mem_updateAll mem later)]
    simp only [afterTransfers, updateAll_append_singleton, List.flatMap_append, List.flatMap_cons,
      List.flatMap_nil, List.append_nil, List.countP_append, List.countP_singleton, List.append_assoc]
    exact .returned trivial

theorem progressWarehouseTransfers_agrees :
    Agrees Alike (progressWarehouseTransfers env d) (progressWarehouseTransfers env' d) := by
  intro w w' h
  have loaded : (inFlightTransferRows env w).Perm (inFlightTransferRows env' w') :=
    ((RowOrder.perm _ _).trans (h.warehouseTransfer.filter _)).trans (RowOrder.perm _ _).symm
  have rows : (updateAll (·.id) (progressedTransfer d) (inFlightTransferRows env w)
      w.warehouseTransfer).Perm
        (updateAll (·.id) (progressedTransfer d) (inFlightTransferRows env' w') w'.warehouseTransfer) := by
    rw [transfers_after env d h.wf.warehouseTransfer, transfers_after env' d h.wf'.warehouseTransfer]
    exact h.warehouseTransfer.map _
  rw [progressWarehouseTransfers_eq env d h.wf.warehouseTransfer,
    progressWarehouseTransfers_eq env' d h.wf'.warehouseTransfer, loaded.countP_eq]
  refine .returned _ ⟨{ h.toSameRows with
    warehouseTransfer := rows
    inventoryTransaction := h.inventoryTransaction.append (loaded.flatMap_right _) }, ?_, h.keyed, h.snapshots⟩
  exact { h.wf with
    warehouseTransfer := keyed_updateAll (progressedTransfer_id d) h.wf.warehouseTransfer _ }

/-! ## Shipments -/

variable {env env'} in
theorem progressShipments_agrees (draws : SameDraws env env') :
    Agrees Alike (progressShipments env d) (progressShipments env' d) := by
  intro w w' h
  have loaded : (inFlightRows env w).Perm (inFlightRows env' w') :=
    ((RowOrder.perm _ _).trans (h.shipment.filter _)).trans (RowOrder.perm _ _).symm
  have pass := progressShipments_outcome env (d := d) h.wf.shipment
  have pass' := progressShipments_outcome env' (d := d) h.wf'.shipment
  rw [← draws.rng, ← h.master, ← loaded.countP_eq] at pass'
  refine pass.agree pass' ?_ fun _ => ⟨rfl, { h.toSameRows with
    master := rfl
    shipment := h.shipment.map _ }, ?_, h.keyed, h.snapshots⟩
  · exact forall_congr' fun s => imp_congr_left loaded.mem_iff
  · refine { h.wf with shipment := ?_ }
    have ids : (w.shipment.map (advanceShipment env.rng w.master.carrier d)).map (·.id) =
        w.shipment.map (·.id) := by
      rw [List.map_map]
      exact List.map_congr_left fun s _ => advanceShipment_agreed.1
    rw [Keyed, ids]
    exact h.wf.shipment

end MeadowOps.Flow
