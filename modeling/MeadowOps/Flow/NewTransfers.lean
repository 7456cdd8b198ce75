import MeadowOps.Flow.Reconciliation
import MeadowOps.Flow.UpdatePasses

/-!
# The transfers of a day

The donor pool of a product is shared by its recipients, which is why the code sorts the warehouses;
the transfers of a product are a function of what is known of it before its turn (`productTransfers`).
Products do not share anything, and the pass adds the transfers of each, in whatever order.
-/

namespace MeadowOps.Flow

open Db Lib

/-- What the loop over the recipients of a product starts from. -/
structure StockView where
  supplied : String → Bool
  position : String → ℤ
  allocated : String → ℤ
  demand : String → ℚ

def stockView (d : Date) (w : World) (p : String) : StockView where
  supplied wh := hasOpenPurchaseOrder w p wh || hasOpenInboundTransfer w p wh
  position := currentInventoryPosition w p
  allocated := allocatedQuantity w p
  demand wh := avgDailyShippedDemand w p wh d

theorem stockView_congr {d : Date} {w w' : World} {p : String} (same : ∀ wh, SameAt p wh w w') :
    stockView d w p = stockView d w' p := by
  unfold stockView
  congr 1 <;> funext wh
  · rw [(same wh).openPurchaseOrder, (same wh).inboundTransfer]
  · exact (same wh).position
  · exact (same wh).allocated
  · exact (same wh).demand d

variable (env env' : TickEnv) (d : Date)

/-- The transfer to one recipient, if it needs one and a donor can spare it. -/
def transferTo (product : Product) (warehouses : List Warehouse) (v : StockView)
    (positions : String → ℤ) (warehouse : Warehouse) : Option WarehouseTransfer :=
  if v.supplied warehouse.id then none
  else
    let deficit :=
      warehouseDeficit (positions warehouse.id) (v.demand warehouse.id) reorderSafetyDays
    if deficit ≤ 0 then none
    else
      match pickTransferDonor
          (donorCandidates warehouses positions v.allocated v.demand warehouse.id) with
      | none => none
      | some (donorId, donorSurplus) =>
        if min deficit donorSurplus ≤ 0 then none
        else some {
          id := env.transferId product.id warehouse.id
          productId := product.id
          fromWarehouseId := donorId
          toWarehouseId := warehouse.id
          quantity := min deficit donorSurplus
          transferDate := d
          status := .pending }

def debit (t : WarehouseTransfer) (positions : String → ℤ) : String → ℤ := fun wh =>
  if wh = t.fromWarehouseId then positions t.fromWarehouseId - t.quantity else positions wh

def withTransfers (w : World) (ts : List WarehouseTransfer) : World := { w with
  warehouseTransfer := w.warehouseTransfer ++ ts
  inventoryTransaction := w.inventoryTransaction ++ ts.map transferOut }

theorem withTransfers_append (w : World) (ts us : List WarehouseTransfer) :
    withTransfers (withTransfers w ts) us = withTransfers w (ts ++ us) := by
  simp only [withTransfers, List.append_assoc, List.map_append]

section
variable {env d} {product : Product} {warehouses : List Warehouse} {v : StockView}
  {positions : String → ℤ} {warehouse : Warehouse} {t : WarehouseTransfer}

theorem transferTo_eq_some (h : transferTo env d product warehouses v positions warehouse = some t) :
    t.productId = product.id ∧ t.toWarehouseId = warehouse.id := by
  unfold transferTo at h
  split at h
  · cases h
  · dsimp only at h
    split at h
    · cases h
    · split at h
      · cases h
      · split at h
        · cases h
        · cases h
          exact ⟨rfl, rfl⟩

/-- One recipient: nothing, or the transfer inserted and the donor debited. -/
theorem createWarehouseTransfer_eq {w : World} (pool : DonorPool)
    (supplied : (hasOpenPurchaseOrder w product.id warehouse.id ||
      hasOpenInboundTransfer w product.id warehouse.id) = v.supplied warehouse.id) :
    createWarehouseTransfer env d product warehouses v.allocated v.demand pool warehouse w =
      match transferTo env d product warehouses v pool.positions warehouse with
      | none => .ok pool w
      | some t =>
        match insert? (·.id) t w.warehouseTransfer with
        | none => .error (.integrityError "warehouse_transfer_pkey") w
        | some rows => .ok ⟨debit t pool.positions, pool.created + 1⟩ { w with
            warehouseTransfer := rows
            inventoryTransaction := w.inventoryTransaction ++ [transferOut t] } := by
  unfold createWarehouseTransfer transferTo
  rw [supplied]
  cases v.supplied warehouse.id with
  | true => rfl
  | false =>
    simp only [Bool.false_eq_true, if_false]
    split
    · rfl
    · cases pickTransferDonor
          (donorCandidates warehouses pool.positions v.allocated v.demand warehouse.id) with
      | none => rfl
      | some donor =>
        obtain ⟨donorId, donorSurplus⟩ := donor
        dsimp only
        split <;> rfl

end

/-! ## The recipients of a product -/

/-- The positions and the transfers when the recipients of `done` have had their turn. -/
def plannedTransfers (product : Product) (warehouses : List Warehouse) (v : StockView)
    (done : List Warehouse) : (String → ℤ) × List WarehouseTransfer :=
  done.foldl (fun acc warehouse =>
    match transferTo env d product warehouses v acc.1 warehouse with
    | none => acc
    | some t => (debit t acc.1, acc.2 ++ [t])) (v.position, [])

theorem plannedTransfers_append_singleton (product : Product) (warehouses : List Warehouse)
    (v : StockView) (done : List Warehouse) (warehouse : Warehouse) :
    plannedTransfers env d product warehouses v (done ++ [warehouse]) =
      match transferTo env d product warehouses v
          (plannedTransfers env d product warehouses v done).1 warehouse with
      | none => plannedTransfers env d product warehouses v done
      | some t => (debit t (plannedTransfers env d product warehouses v done).1,
          (plannedTransfers env d product warehouses v done).2 ++ [t]) := by
  rw [plannedTransfers, List.foldl_append]
  rfl

/-- Later recipients only add transfers. -/
theorem plannedTransfers_append (product : Product) (warehouses : List Warehouse) (v : StockView)
    (done rest : List Warehouse) :
    ∃ more, (plannedTransfers env d product warehouses v (done ++ rest)).2 =
      (plannedTransfers env d product warehouses v done).2 ++ more := by
  induction rest using List.reverseRecOn with
  | nil => exact ⟨[], by simp⟩
  | append_singleton rest warehouse ih =>
    obtain ⟨more, eq⟩ := ih
    rw [← List.append_assoc, plannedTransfers_append_singleton]
    split
    · exact ⟨more, eq⟩
    · exact ⟨more ++ [_], by rw [eq, List.append_assoc]⟩

theorem mem_plannedTransfers {product : Product} {warehouses : List Warehouse} {v : StockView}
    {done : List Warehouse} {t : WarehouseTransfer}
    (h : t ∈ (plannedTransfers env d product warehouses v done).2) :
    t.productId = product.id ∧ t.toWarehouseId ∈ done.map (·.id) := by
  induction done using List.reverseRecOn with
  | nil => cases h
  | append_singleton done warehouse ih =>
    rw [plannedTransfers_append_singleton] at h
    split at h
    · exact (ih h).imp_right fun mem => by simp [List.mem_map.1 mem]
    · rename_i new planned
      rcases List.mem_append.1 h with h | h
      · exact (ih h).imp_right fun mem => by simp [List.mem_map.1 mem]
      · rw [List.mem_singleton.1 h]
        have same := transferTo_eq_some planned
        exact ⟨same.1, by simp [same.2]⟩

def productTransfers (w : World) (warehouses : List Warehouse) (product : Product) :
    List WarehouseTransfer :=
  (plannedTransfers env d product warehouses (stockView d w product.id) warehouses).2

theorem createTransfersOfProduct_outcome {w : World} {warehouses : List Warehouse}
    (distinct : (warehouses.map (·.id)).Nodup) (created : ℕ) (product : Product) :
    Outcome (Fresh (·.id) w.warehouseTransfer (productTransfers env d w warehouses product))
      (created + (productTransfers env d w warehouses product).length)
      (withTransfers w (productTransfers env d w warehouses product))
      (createTransfersOfProduct env d warehouses created product w) := by
  have loop := foldlM_outcome (l := warehouses)
    (f := createWarehouseTransfer env d product warehouses (stockView d w product.id).allocated
      (stockView d w product.id).demand)
    (v := fun done =>
      let plan := plannedTransfers env d product warehouses (stockView d w product.id) done
      DonorPool.mk plan.1 (created + plan.2.length))
    (s := fun done => withTransfers w
      (plannedTransfers env d product warehouses (stockView d w product.id) done).2)
    (P := fun done => Fresh (·.id) w.warehouseTransfer
      (plannedTransfers env d product warehouses (stockView d w product.id) done).2)
    (Fresh.nil _) ?_ ?_
  · have start : withTransfers w [] = w := by simp [withTransfers]
    dsimp only at loop
    rw [show plannedTransfers env d product warehouses (stockView d w product.id) [] =
      ((stockView d w product.id).position, []) from rfl, start] at loop
    exact loop.bind (fun fresh => .returned fresh) id
  · intro done rest fresh
    obtain ⟨more, eq⟩ := plannedTransfers_append env d product warehouses (stockView d w product.id)
      done rest
    rw [eq] at fresh
    exact fresh.initial
  · intro done warehouse rest split fresh
    rw [split, List.map_append, List.map_cons, List.nodup_append] at distinct
    have later : warehouse.id ∉ done.map (·.id) := fun taken =>
      distinct.2.2 _ taken _ List.mem_cons_self rfl
    have inbound : hasOpenInboundTransfer (withTransfers w (plannedTransfers env d product warehouses
        (stockView d w product.id) done).2) product.id warehouse.id =
          hasOpenInboundTransfer w product.id warehouse.id := by
      simp only [hasOpenInboundTransfer, withTransfers, List.any_append]
      rw [Bool.or_eq_left_iff_imp, List.any_eq_true]
      rintro ⟨t, mem, open_⟩
      simp only [Bool.and_eq_true, decide_eq_true_eq] at open_
      exact absurd (open_.1.2 ▸ (mem_plannedTransfers env d mem).2) later
    rw [createWarehouseTransfer_eq (v := stockView d w product.id) _ (by rw [inbound]; rfl)]
    simp only [plannedTransfers_append_singleton]
    cases planned : transferTo env d product warehouses (stockView d w product.id)
        (plannedTransfers env d product warehouses (stockView d w product.id) done).1 warehouse with
    | none => exact .returned fresh
    | some t =>
      dsimp only [withTransfers]
      rcases fresh.insert?_cases t with ⟨eq, clash⟩ | ⟨eq, fresh'⟩
      · rw [eq]
        exact .raised _ _ clash
      · rw [eq, List.append_assoc, List.map_append, List.length_append]
        exact .returned fresh'

/-! ## The products of the pass -/

/-- Transfers of other products are no news. -/
theorem sameAt_withTransfers (w : World) {ts : List WarehouseTransfer} {p : String}
    (others : ∀ t ∈ ts, t.productId ≠ p) (wh : String) : SameAt p wh w (withTransfers w ts) where
  openPurchaseOrder := rfl
  inboundTransfer := by
    have none : ts.any (fun t => decide (t.productId = p ∧ t.toWarehouseId = wh) && t.status.inFlight) =
        false := by
      simp only [List.any_eq_false, Bool.and_eq_true, decide_eq_true_eq]
      exact fun t mem open_ => others t mem open_.1.1
    simp only [hasOpenInboundTransfer, withTransfers, List.any_append, none, Bool.or_false]
  position := by
    have none : sumWhere (fun r : InventoryTransaction => r.productId = p ∧ r.warehouseId = wh)
        (·.quantityDelta) (ts.map transferOut) = 0 := by
      apply sumWhere_eq_zero
      intro r mem at_
      obtain ⟨t, ht, rfl⟩ := List.mem_map.1 mem
      exact others t ht at_.1
    simp only [currentInventoryPosition, inventoryPosition, withTransfers, sumWhere_append, none, add_zero]
  demand day := by
    have none : sumWhere (fun r : InventoryTransaction => r.productId = p ∧ r.warehouseId = wh ∧
        r.transactionType = .shipment ∧ simDatetime (day - demandLookbackDays) ≤ r.transactionAt)
        (fun r => -(r.quantityDelta : ℚ)) (ts.map transferOut) = 0 := by
      apply sumWhere_eq_zero
      intro r mem at_
      obtain ⟨t, ht, rfl⟩ := List.mem_map.1 mem
      exact others t ht at_.1
    simp only [avgDailyShippedDemand, withTransfers, sumWhere_append, none, add_zero]
  allocated := rfl

def transferProductRows (w : World) : List Product :=
  env.transferProducts.rows (w.master.product.filter (·.isActive))

def sortedWarehouses (w : World) : List Warehouse :=
  env.warehousesById.rows (w.master.warehouse.filter (·.isActive))

/-- The transfers the pass creates. -/
def newTransfers (w : World) : List WarehouseTransfer :=
  (transferProductRows env w).flatMap (productTransfers env d w (sortedWarehouses env w))

theorem createWarehouseTransfersIfNeeded_outcome {w : World} (keyed : KeyedMaster w.master) :
    Outcome (Fresh (·.id) w.warehouseTransfer (newTransfers env d w)) (newTransfers env d w).length
      (withTransfers w (newTransfers env d w)) (createWarehouseTransfersIfNeeded env d w) := by
  have products := loaded_nodup keyed.product env.transferProducts (·.isActive)
  have warehouses := loaded_nodup keyed.warehouse env.warehousesById (·.isActive)
  have loop := foldlM_outcome (l := transferProductRows env w)
    (f := createTransfersOfProduct env d (sortedWarehouses env w))
    (v := fun done => (done.flatMap (productTransfers env d w (sortedWarehouses env w))).length)
    (s := fun done =>
      withTransfers w (done.flatMap (productTransfers env d w (sortedWarehouses env w))))
    (P := fun done => Fresh (·.id) w.warehouseTransfer
      (done.flatMap (productTransfers env d w (sortedWarehouses env w))))
    (Fresh.nil _) ?_ ?_
  · have start : withTransfers w [] = w := by simp [withTransfers]
    simp only [List.flatMap_nil, start] at loop
    exact loop
  · intro done rest fresh
    rw [List.flatMap_append] at fresh
    exact fresh.initial
  · intro done product rest split fresh
    rw [show env.transferProducts.rows (w.master.product.filter (·.isActive)) = done ++ product :: rest
      from split, List.map_append, List.map_cons, List.nodup_append] at products
    have others : ∀ t ∈ done.flatMap (productTransfers env d w (sortedWarehouses env w)),
        t.productId ≠ product.id := by
      intro t mem same
      obtain ⟨other, before, planned⟩ := List.mem_flatMap.1 mem
      have taken := (mem_plannedTransfers env d planned).1.symm.trans same
      exact products.2.2 _ (List.mem_map_of_mem before) _ List.mem_cons_self taken
    have plan : productTransfers env d (withTransfers w
        (done.flatMap (productTransfers env d w (sortedWarehouses env w)))) (sortedWarehouses env w)
          product = productTransfers env d w (sortedWarehouses env w) product := by
      rw [productTransfers, ← stockView_congr (sameAt_withTransfers w others)]
      rfl
    have turn := createTransfersOfProduct_outcome env d (w := withTransfers w
      (done.flatMap (productTransfers env d w (sortedWarehouses env w)))) warehouses
      (done.flatMap (productTransfers env d w (sortedWarehouses env w))).length product
    rw [show env.warehousesById.rows (w.master.warehouse.filter (·.isActive)) =
      sortedWarehouses env w from rfl, plan, withTransfers_append] at turn
    refine turn.congr ?_ fun _ => ?_
    · rw [List.flatMap_append, List.flatMap_singleton]
      exact ⟨fun here => Fresh.append.2 ⟨fresh, here⟩, fun all => (Fresh.append.1 all).2⟩
    · rw [List.flatMap_append, List.flatMap_singleton, List.length_append]
      exact ⟨rfl, rfl⟩

variable {env env'} in
theorem createWarehouseTransfersIfNeeded_agrees (draws : SameDraws env env') :
    Agrees Alike (createWarehouseTransfersIfNeeded env d) (createWarehouseTransfersIfNeeded env' d) := by
  intro w w' h
  have warehouses : sortedWarehouses env w = sortedWarehouses env' w' := by
    rw [sortedWarehouses, sortedWarehouses, draws.warehousesById, h.master]
  have products : (transferProductRows env w).Perm (transferProductRows env' w') := by
    rw [transferProductRows, transferProductRows, h.master]
    exact (RowOrder.perm _ _).trans (RowOrder.perm _ _).symm
  have plan : productTransfers env d w (sortedWarehouses env w) =
      productTransfers env' d w' (sortedWarehouses env' w') := by
    funext product
    rw [productTransfers, productTransfers, warehouses, stockView_congr (h.toSameRows.at product.id)]
    simp only [plannedTransfers, transferTo, draws.transferId]
  have new : (newTransfers env d w).Perm (newTransfers env' d w') := by
    rw [newTransfers, newTransfers, plan]
    exact products.flatMap_right _
  refine (createWarehouseTransfersIfNeeded_outcome env d h.keyed).agree
    (createWarehouseTransfersIfNeeded_outcome env' d h.keyed') ?_ fun fresh => ⟨new.length_eq, ?_⟩
  · have ids := h.warehouseTransfer.map (·.id)
    exact ⟨fun fresh => fresh.perm ids new, fun fresh => fresh.perm ids.symm new.symm⟩
  · refine ⟨{ h.toSameRows with
      warehouseTransfer := h.warehouseTransfer.append new
      inventoryTransaction := h.inventoryTransaction.append (new.map transferOut) }, ?_, h.keyed, h.snapshots⟩
    exact { h.wf with warehouseTransfer := fresh.keyed h.wf.warehouseTransfer }

end MeadowOps.Flow
