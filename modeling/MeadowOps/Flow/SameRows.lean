import MeadowOps.Flow.Simulation
import MeadowOps.Lib.Permuted
import MeadowOps.Lib.Relational
import Mathlib.Data.Multiset.Basic

/-!
# States up to the order of their rows

Two runs of a tick with the same draws may still see the rows of their queries in different orders.
`SameRows w w'` says that nothing but the order of the rows, and of the lines within an order, tells
`w` from `w'`. What the passes ask of a product at a warehouse is collected in `SameAt`.
-/

namespace MeadowOps.Flow

open Db Lib

/-- The same generators and generated ids, and warehouses sorted by the same collation. The orders of
the rows of all other queries may differ. -/
structure SameDraws (env env' : TickEnv) : Prop where
  rng : env.rng = env'.rng
  purchaseOrderId : env.purchaseOrderId = env'.purchaseOrderId
  purchaseOrderHex : env.purchaseOrderHex = env'.purchaseOrderHex
  transferId : env.transferId = env'.transferId
  salesOrderId : env.salesOrderId = env'.salesOrderId
  salesOrderHex : env.salesOrderHex = env'.salesOrderHex
  shipmentId : env.shipmentId = env'.shipmentId
  warehousesById : env.warehousesById = env'.warehousesById

theorem SameDraws.refl (env : TickEnv) : SameDraws env env :=
  ⟨rfl, rfl, rfl, rfl, rfl, rfl, rfl, rfl⟩

theorem SameDraws.symm {env env' : TickEnv} (h : SameDraws env env') : SameDraws env' env :=
  ⟨h.rng.symm, h.purchaseOrderId.symm, h.purchaseOrderHex.symm, h.transferId.symm, h.salesOrderId.symm,
    h.salesOrderHex.symm, h.shipmentId.symm, h.warehousesById.symm⟩

theorem SameDraws.trans {env env' env'' : TickEnv} (h : SameDraws env env') (h' : SameDraws env' env'') :
    SameDraws env env'' :=
  ⟨h.rng.trans h'.rng, h.purchaseOrderId.trans h'.purchaseOrderId, h.purchaseOrderHex.trans h'.purchaseOrderHex,
    h.transferId.trans h'.transferId, h.salesOrderId.trans h'.salesOrderId, h.salesOrderHex.trans h'.salesOrderHex,
    h.shipmentId.trans h'.shipmentId, h.warehousesById.trans h'.warehousesById⟩

/-- A purchase order with its lines as a set of rows. -/
def purchaseOrderView (po : PurchaseOrder) : PurchaseOrder × Multiset PurchaseOrderLine :=
  ({ po with lines := [] }, po.lines)

/-- A sales order with its lines as a set of rows. -/
def salesOrderView (so : SalesOrder) : SalesOrder × Multiset SalesOrderLine :=
  ({ so with lines := [] }, so.lines)

theorem purchaseOrderView_eq {po po' : PurchaseOrder} :
    purchaseOrderView po = purchaseOrderView po' ↔
      ∃ lines, po.lines.Perm lines ∧ po' = { po with lines := lines } := by
  constructor
  · intro h
    have header : { po with lines := [] } = { po' with lines := [] } := congrArg Prod.fst h
    refine ⟨po'.lines, Multiset.coe_eq_coe.1 (congrArg Prod.snd h), ?_⟩
    cases po
    cases po'
    cases header
    rfl
  · rintro ⟨lines, perm, rfl⟩
    exact Prod.ext rfl (Multiset.coe_eq_coe.2 perm)

theorem salesOrderView_eq {so so' : SalesOrder} :
    salesOrderView so = salesOrderView so' ↔
      ∃ lines, so.lines.Perm lines ∧ so' = { so with lines := lines } := by
  constructor
  · intro h
    have header : { so with lines := [] } = { so' with lines := [] } := congrArg Prod.fst h
    refine ⟨so'.lines, Multiset.coe_eq_coe.1 (congrArg Prod.snd h), ?_⟩
    cases so
    cases so'
    cases header
    rfl
  · rintro ⟨lines, perm, rfl⟩
    exact Prod.ext rfl (Multiset.coe_eq_coe.2 perm)

/-- The same state, up to the order of rows and lines. -/
structure SameRows (w w' : World) : Prop where
  master : w.master = w'.master
  purchaseOrder : SameVia purchaseOrderView w.purchaseOrder w'.purchaseOrder
  salesOrder : SameVia salesOrderView w.salesOrder w'.salesOrder
  shipment : w.shipment.Perm w'.shipment
  warehouseTransfer : w.warehouseTransfer.Perm w'.warehouseTransfer
  inventoryTransaction : w.inventoryTransaction.Perm w'.inventoryTransaction
  inventorySnapshot : w.inventorySnapshot.Perm w'.inventorySnapshot
  purchaseOrderLifecycleEvent : w.purchaseOrderLifecycleEvent.Perm w'.purchaseOrderLifecycleEvent
  salesOrderLifecycleEvent : w.salesOrderLifecycleEvent.Perm w'.salesOrderLifecycleEvent

theorem SameRows.refl (w : World) : SameRows w w :=
  ⟨rfl, .refl _, .refl _, .refl _, .refl _, .refl _, .refl _, .refl _, .refl _⟩

/-- The primary keys of the master data. -/
structure KeyedMaster (m : Master) : Prop where
  product : Keyed (·.id) m.product
  warehouse : Keyed (·.id) m.warehouse
  supplier : Keyed (·.id) m.supplier
  carrier : Keyed (·.id) m.carrier

/-- The same rows, under unique keys: what two runs of a pass keep between their states. -/
structure Alike (w w' : World) : Prop extends SameRows w w' where
  wf : Wf w
  keyed : KeyedMaster w.master
  snapshots : Keyed InventorySnapshot.grain w.inventorySnapshot

/-- A loaded selection of the same rows is the same selection. -/
theorem sameVia_loaded {ρ ν : Type} {view : ρ → ν} {rows rows' : List ρ} (o o' : RowOrder ρ)
    (h : SameVia view rows rows') {p : ρ → Bool} (agree : ∀ r r', view r = view r' → p r = p r') :
    SameVia view (o.rows (rows.filter p)) (o'.rows (rows'.filter p)) :=
  ((SameVia.of_perm (o.perm _)).trans (h.filter agree)).trans (.of_perm (o'.perm _).symm)

theorem Alike.keyed' {w w' : World} (h : Alike w w') : KeyedMaster w'.master := h.master ▸ h.keyed

theorem Alike.wf' {w w' : World} (h : Alike w w') : Wf w' where
  purchaseOrder := h.purchaseOrder.keyed h.wf.purchaseOrder fun po po' same => by
    obtain ⟨lines, -, rfl⟩ := purchaseOrderView_eq.1 same
    rfl
  salesOrder := h.salesOrder.keyed h.wf.salesOrder fun so so' same => by
    obtain ⟨lines, -, rfl⟩ := salesOrderView_eq.1 same
    rfl
  shipment := (h.shipment.map _).nodup_iff.1 h.wf.shipment
  warehouseTransfer := (h.warehouseTransfer.map _).nodup_iff.1 h.wf.warehouseTransfer

/-! ## Queries -/

theorem inventoryPosition_perm {ledger ledger' : List InventoryTransaction} (h : ledger.Perm ledger')
    (p wh : String) : inventoryPosition ledger p wh = inventoryPosition ledger' p wh :=
  sumWhere_perm _ _ h

theorem openQuantity_perm {so : SalesOrder} {lines : List SalesOrderLine} (h : so.lines.Perm lines)
    (p : String) : openQuantity p so = openQuantity p { so with lines := lines } :=
  sumWhere_perm _ _ h

/-- What the passes ask of a product at a warehouse has the same answer. -/
structure SameAt (p wh : String) (w w' : World) : Prop where
  openPurchaseOrder : hasOpenPurchaseOrder w p wh = hasOpenPurchaseOrder w' p wh
  inboundTransfer : hasOpenInboundTransfer w p wh = hasOpenInboundTransfer w' p wh
  position : currentInventoryPosition w p wh = currentInventoryPosition w' p wh
  demand : ∀ d, avgDailyShippedDemand w p wh d = avgDailyShippedDemand w' p wh d
  allocated : allocatedQuantity w p wh = allocatedQuantity w' p wh

theorem SameAt.symm {p wh : String} {w w' : World} (h : SameAt p wh w w') : SameAt p wh w' w :=
  ⟨h.openPurchaseOrder.symm, h.inboundTransfer.symm, h.position.symm, fun d => (h.demand d).symm,
    h.allocated.symm⟩

theorem SameRows.at {w w' : World} (h : SameRows w w') (p wh : String) : SameAt p wh w w' where
  openPurchaseOrder := h.purchaseOrder.any fun po po' same => by
    obtain ⟨lines, perm, rfl⟩ := purchaseOrderView_eq.1 same
    rw [perm.any_eq]
  inboundTransfer := h.warehouseTransfer.any_eq
  position := inventoryPosition_perm h.inventoryTransaction p wh
  demand d := by
    rw [avgDailyShippedDemand, avgDailyShippedDemand, sumWhere_perm _ _ h.inventoryTransaction]
  allocated := h.salesOrder.sumWhere fun so so' same => by
    obtain ⟨lines, perm, rfl⟩ := salesOrderView_eq.1 same
    rw [openQuantity_perm perm]

end MeadowOps.Flow
