import MeadowOps.Flow.AuditTrail

/-!
# The events of one tick

A tick that returns appends to the logs of the orders, at most one event for each order: the loop over the open
orders visits an order once, and an order that is created had no events.
-/

namespace MeadowOps.Flow

open Db Lib

section LoggedOnce

variable {S : Type} {ids : World → List Uuid} {events : World → List (LifecycleEvent S)} {w₀ w w' : World}
  {id : Uuid} {rest : List Uuid}

/-- The events since `w₀` belong to distinct orders of `w`, none of which is still to come. -/
def LoggedOnce (ids : World → List Uuid) (events : World → List (LifecycleEvent S)) (w₀ : World)
    (rest : List Uuid) (w : World) : Prop :=
  ∃ new, events w = events w₀ ++ new ∧ (new.map (·.orderId) ++ rest).Nodup ∧ ∀ e ∈ new, e.orderId ∈ ids w

theorem LoggedOnce.start (nodup : rest.Nodup) : LoggedOnce ids events w rest w :=
  ⟨[], (List.append_nil _).symm, nodup, fun _ mem => absurd mem List.not_mem_nil⟩

theorem LoggedOnce.frame (h : LoggedOnce ids events w₀ rest w) (sameIds : ids w' = ids w)
    (sameEvents : events w' = events w) : LoggedOnce ids events w₀ rest w' := by
  rw [LoggedOnce, sameIds, sameEvents]
  exact h

/-- An iteration without an event. -/
theorem LoggedOnce.skip (h : LoggedOnce ids events w₀ (id :: rest) w) (sameIds : ids w' = ids w)
    (sameEvents : events w' = events w) : LoggedOnce ids events w₀ rest w' := by
  obtain ⟨new, logged, nodup, known⟩ := h.frame sameIds sameEvents
  exact ⟨new, logged, nodup.sublist ((List.sublist_cons_self id rest).append_left _), known⟩

/-- An iteration with an event of its order. -/
theorem LoggedOnce.log (h : LoggedOnce ids events w₀ (id :: rest) w) {e : LifecycleEvent S} (own : e.orderId = id)
    (mem : id ∈ ids w) (sameIds : ids w' = ids w) (logged' : events w' = events w ++ [e]) :
    LoggedOnce ids events w₀ rest w' := by
  obtain ⟨new, logged, nodup, known⟩ := h
  refine ⟨new ++ [e], ?_, ?_, ?_⟩
  · rw [logged', logged, List.append_assoc]
  · rw [List.map_append, List.append_assoc]
    show (new.map (·.orderId) ++ e.orderId :: rest).Nodup
    rw [own]
    exact nodup
  · rw [sameIds]
    intro f memF
    rcases List.mem_append.1 memF with old | now
    · exact known f old
    · rw [List.mem_singleton.1 now, own]
      exact mem

/-- The creation of an order, after the loop. -/
theorem LoggedOnce.create (h : LoggedOnce ids events w₀ [] w) {e : LifecycleEvent S} (fresh : e.orderId ∉ ids w)
    (ids' : ids w' = ids w ++ [e.orderId]) (logged' : events w' = events w ++ [e]) :
    LoggedOnce ids events w₀ [] w' := by
  obtain ⟨new, logged, nodup, known⟩ := h
  have unseen : e.orderId ∉ new.map (·.orderId) := by
    intro mem
    obtain ⟨f, memF, same⟩ := List.mem_map.1 mem
    exact fresh (same ▸ known f memF)
  refine ⟨new ++ [e], ?_, ?_, ?_⟩
  · rw [logged', logged, List.append_assoc]
  · rw [List.append_nil] at nodup
    rw [List.append_nil, List.map_append, List.map_singleton]
    exact List.nodup_append.2 ⟨nodup, List.nodup_singleton _, fun x memX y memY same => by
      rw [same, List.mem_singleton.1 memY] at memX
      exact unseen memX⟩
  · rw [ids']
    intro f memF
    rcases List.mem_append.1 memF with old | now
    · exact List.mem_append_left _ (known f old)
    · rw [List.mem_singleton.1 now]
      exact List.mem_append_right _ (List.mem_singleton_self _)

/-- A loop over distinct orders. -/
theorem LoggedOnce.loop {f : ℕ → Uuid → Pass ℕ} {l : List Uuid} {n n' : ℕ} (nodup : l.Nodup)
    (one : ∀ rest id n w n' w', LoggedOnce ids events w₀ (id :: rest) w → f n id w = .ok n' w' →
      LoggedOnce ids events w₀ rest w')
    (run : (l.foldlM f n : Pass ℕ) w₀ = .ok n' w) : LoggedOnce ids events w₀ [] w := by
  have loop := foldlM_inv (f := f) (J := fun rest _ w => LoggedOnce ids events w₀ rest w) (F := fun _ => True)
    ?_ l n w₀ (.start nodup)
  · rw [run] at loop
    exact loop
  · intro id rest n w h
    cases step : f n id w with
    | ok n' w' => exact one rest id n w n' w' h step
    | error e w' => trivial

end LoggedOnce

variable (env : TickEnv) {d : Date} {w₀ w w' : World} {n n' : ℕ}

/-! ## Purchase orders -/

def purchaseIds (w : World) : List Uuid := w.purchaseOrder.map (·.id)

def salesIds (w : World) : List Uuid := w.salesOrder.map (·.id)

abbrev PurchasesOnce (w₀ : World) (rest : List Uuid) (w : World) : Prop :=
  LoggedOnce purchaseIds World.purchaseOrderLifecycleEvent w₀ rest w

abbrev SalesOnce (w₀ : World) (rest : List Uuid) (w : World) : Prop :=
  LoggedOnce salesIds World.salesOrderLifecycleEvent w₀ rest w

theorem purchaseOrderStep_id {po po' : PurchaseOrder} {receipts : List InventoryTransaction}
    (h : purchaseOrderStep env d po = some (po', receipts)) : po'.id = po.id := by
  unfold purchaseOrderStep at h
  split at h
  · cases h
    rfl
  · split at h
    · cases h
      rfl
    · cases h

theorem progressPurchaseOrder_once {rest : List Uuid} {id : Uuid} (h : PurchasesOnce w₀ (id :: rest) w)
    (run : progressPurchaseOrder env d n id w = .ok n' w') : PurchasesOnce w₀ rest w' := by
  unfold progressPurchaseOrder at run
  cases found : lookup PurchaseOrder.id id w.purchaseOrder with
  | none =>
    rw [found] at run
    cases run
    exact h.skip rfl rfl
  | some po =>
    rw [found] at run
    dsimp only at run
    obtain ⟨mem, rfl⟩ := lookup_mem found
    cases step : purchaseOrderStep env d po with
    | none =>
      rw [step] at run
      cases run
      exact h.skip rfl rfl
    | some result =>
      obtain ⟨po', receipts⟩ := result
      rw [step] at run
      dsimp only at run
      have sameIds : (modify PurchaseOrder.id po.id (fun _ => po') w.purchaseOrder).map (·.id) = purchaseIds w :=
        map_key_modify fun _ _ => purchaseOrderStep_id env step
      split at run
      · cases run
        exact h.skip sameIds rfl
      · cases run
        exact h.log (e := ⟨po.id, some po.status, po'.status, d⟩) rfl (List.mem_map_of_mem mem) sameIds rfl

theorem progressPurchaseOrders_once (keyed : Keyed (·.id) w.purchaseOrder)
    (run : progressPurchaseOrders env d w = .ok n w') : PurchasesOnce w [] w' :=
  LoggedOnce.loop (loaded_nodup keyed _ _) (fun _ _ _ _ _ _ h one => progressPurchaseOrder_once env h one)
    (show _ = _ from run)

theorem createPurchaseOrder_once (suppliers : List Supplier) (product : Product) (created : ℕ)
    (warehouse : Warehouse) :
    Keeps (PurchasesOnce w₀ []) (createPurchaseOrder env d suppliers product created warehouse) := by
  intro w h
  unfold createPurchaseOrder
  split
  · exact h
  · dsimp only
    split
    · exact h
    · split
      · exact h
      · split
        · exact h
        · rename_i inserted
          obtain ⟨rfl, fresh⟩ := insertPurchaseOrder?_eq_some inserted
          refine h.create (e := ⟨_, none, .submitted, d⟩) fresh ?_ rfl
          simp only [endState_ok, purchaseIds, List.map_append, List.map_singleton]

theorem createPurchaseOrdersIfNeeded_once : Keeps (PurchasesOnce w₀ []) (createPurchaseOrdersIfNeeded env d) := by
  refine Keeps.get_bind fun w h => Keeps.foldlM (fun created product _ => ?_) 0 w h
  exact Keeps.foldlM (fun created warehouse _ => createPurchaseOrder_once env _ _ _ _) created

/-- The purchase orders and their events are those of `w₀`. -/
structure SamePurchases (w₀ w : World) : Prop where
  orders : w.purchaseOrder = w₀.purchaseOrder
  events : w.purchaseOrderLifecycleEvent = w₀.purchaseOrderLifecycleEvent

theorem PurchasesOnce.same (h : PurchasesOnce w₀ [] w) (same : SamePurchases w w') : PurchasesOnce w₀ [] w' := by
  refine LoggedOnce.frame h ?_ same.events
  rw [purchaseIds, same.orders]
  rfl

theorem progressWarehouseTransfers_purchases :
    Keeps (SamePurchases w₀) (progressWarehouseTransfers env d) := by
  refine Keeps.get_bind fun w same => Keeps.foldlM (fun events id _ w same => ?_) 0 w same
  unfold progressWarehouseTransfer
  split
  · exact same
  · split
    · exact ⟨same.1, same.2⟩
    · split
      · exact ⟨same.1, same.2⟩
      · exact same

theorem createWarehouseTransfersIfNeeded_purchases :
    Keeps (SamePurchases w₀) (createWarehouseTransfersIfNeeded env d) := by
  refine Keeps.get_bind fun w same => Keeps.foldlM (fun created product _ => ?_) 0 w same
  refine Keeps.get_bind fun w same => ?_
  refine Keeps.bind (Keeps.foldlM (fun pool warehouse _ w same => ?_) _) (fun pool => Keeps.pure _) w same
  unfold createWarehouseTransfer
  split
  · exact same
  · dsimp only
    split
    · exact same
    · split
      · exact same
      · split
        · exact same
        · split
          · exact same
          · exact ⟨same.1, same.2⟩

theorem progressShipments_purchases : Keeps (SamePurchases w₀) (progressShipments env d) := by
  refine Keeps.get_bind fun w same => Keeps.foldlM (fun progressed id _ w same => ?_) 0 w same
  unfold progressShipment
  split
  · exact same
  · split
    · exact ⟨same.1, same.2⟩
    · split
      · exact same
      · dsimp only
        split
        · exact ⟨same.1, same.2⟩
        · exact same

theorem progressSalesOrder_purchases (carriers : List Carrier) (events : ℕ) (id : Uuid) :
    Keeps (SamePurchases w₀) (progressSalesOrder env d carriers events id) := by
  intro w same
  unfold progressSalesOrder
  split
  · exact same
  · dsimp only
    split
    · split
      · exact ⟨same.1, same.2⟩
      · exact same
    · split
      · exact same
      · split
        · exact ⟨same.1, same.2⟩
        · split
          · exact ⟨same.1, same.2⟩
          · exact ⟨same.1, same.2⟩

theorem createSalesOrdersIfNeeded_purchases :
    Keeps (SamePurchases w₀) (createSalesOrdersIfNeeded env d) := by
  refine Keeps.get_bind fun w same => Keeps.foldlM (fun created customer _ w same => ?_) 0 w same
  unfold createSalesOrder
  dsimp only
  split
  · exact same
  · split
    · exact same
    · split
      · exact same
      · exact ⟨same.1, same.2⟩

theorem progressSalesOrdersAndShipments_purchases :
    Keeps (SamePurchases w₀) (progressSalesOrdersAndShipments env d) := by
  refine (progressShipments_purchases env).bind fun events => ?_
  exact Keeps.get_bind fun w same =>
    Keeps.foldlM (fun events id _ => progressSalesOrder_purchases env _ events id) events w same

/-! ## Sales orders -/

theorem progressSalesOrder_once {carriers : List Carrier} {rest : List Uuid} {id : Uuid}
    (h : SalesOnce w₀ (id :: rest) w) (run : progressSalesOrder env d carriers n id w = .ok n' w') :
    SalesOnce w₀ rest w' := by
  unfold progressSalesOrder at run
  cases found : lookup SalesOrder.id id w.salesOrder with
  | none =>
    rw [found] at run
    cases run
    exact h.skip rfl rfl
  | some so =>
    rw [found] at run
    dsimp only at run
    obtain ⟨mem, rfl⟩ := lookup_mem found
    have own : so.id ∈ salesIds w := List.mem_map_of_mem mem
    have sameIds : ∀ f : SalesOrder → SalesOrder, (∀ so, (f so).id = so.id) →
        (modify SalesOrder.id so.id f w.salesOrder).map (·.id) = salesIds w :=
      fun f same => map_key_modify fun r key => (same r).trans key
    split at run
    · split at run
      · cases run
        refine h.log (e := ⟨so.id, some so.status, .allocated, d⟩) rfl own ?_ rfl
        exact sameIds _ fun _ => rfl
      · cases run
        exact h.skip rfl rfl
    · split at run
      · cases run
        exact h.skip rfl rfl
      · split at run
        · cases run
        · split at run
          · cases run
            refine h.skip ?_ rfl
            exact sameIds _ fun _ => rfl
          · cases run
            refine h.log (e := ⟨so.id, some so.status, _, d⟩) rfl own ?_ rfl
            exact sameIds _ fun _ => rfl

theorem progressOpenSalesOrders_once (keyed : Keyed (·.id) w.salesOrder)
    (run : progressOpenSalesOrders env d n w = .ok n' w') : SalesOnce w [] w' :=
  LoggedOnce.loop (loaded_nodup keyed _ _) (fun _ _ _ _ _ _ h one => progressSalesOrder_once env h one)
    (show _ = _ from run)

theorem createSalesOrdersIfNeeded_once : Keeps (SalesOnce w₀ []) (createSalesOrdersIfNeeded env d) := by
  refine Keeps.get_bind fun w h => Keeps.foldlM (fun created customer _ w h => ?_) 0 w h
  unfold createSalesOrder
  dsimp only
  split
  · exact h
  · split
    · exact h
    · split
      · exact h
      · rename_i inserted
        obtain ⟨rfl, fresh⟩ := insertSalesOrder?_eq_some inserted
        refine h.create (e := ⟨_, none, .submitted, d⟩) fresh ?_ rfl
        simp only [endState_ok, salesIds, List.map_append, List.map_singleton]

/-! ## A tick -/

/-- What a tick appended to a log. -/
def AppendsOnce {S : Type} (before after : List (LifecycleEvent S)) : Prop :=
  ∃ new, after = before ++ new ∧ (new.map (·.orderId)).Nodup

theorem AppendsOnce.refl {S : Type} (events : List (LifecycleEvent S)) : AppendsOnce events events :=
  ⟨[], (List.append_nil _).symm, List.nodup_nil⟩

theorem AppendsOnce.nodup {S : Type} {events : List (LifecycleEvent S)} (h : AppendsOnce [] events) :
    (events.map (·.orderId)).Nodup := by
  obtain ⟨new, rfl, nodup⟩ := h
  exact nodup

theorem LoggedOnce.appendsOnce {S : Type} {ids : World → List Uuid} {events : World → List (LifecycleEvent S)}
    (h : LoggedOnce ids events w₀ [] w) : AppendsOnce (events w₀) (events w) := by
  obtain ⟨new, logged, nodup, -⟩ := h
  rw [List.append_nil] at nodup
  exact ⟨new, logged, nodup⟩

theorem scheduledFlow_purchasesOnce (wf : Wf w) (run : scheduledFlow env d w = .ok n w') :
    AppendsOnce w.purchaseOrderLifecycleEvent w'.purchaseOrderLifecycleEvent := by
  obtain ⟨passes⟩ := scheduledFlow_passes run
  have progressed := progressPurchaseOrders_once env wf.purchaseOrder passes.receipts
  have same2 := (progressWarehouseTransfers_purchases env).of_ok (SamePurchases.mk rfl rfl) passes.arrivals
  have same3 := (createWarehouseTransfersIfNeeded_purchases env).of_ok same2 passes.transfers
  have ordered := (createPurchaseOrdersIfNeeded_once env).of_ok (PurchasesOnce.same progressed same3) passes.reorders
  have same5 := (progressSalesOrdersAndShipments_purchases env).of_ok (SamePurchases.mk rfl rfl) passes.sales
  have same6 := (createSalesOrdersIfNeeded_purchases env).of_ok same5 passes.demand
  rw [passes.last]
  exact (PurchasesOnce.same ordered same6).appendsOnce

theorem scheduledFlow_salesOnce (wf : Wf w) (run : scheduledFlow env d w = .ok n w') :
    AppendsOnce w.salesOrderLifecycleEvent w'.salesOrderLifecycleEvent := by
  obtain ⟨passes⟩ := salesPasses_of_ok env run
  have same := (progressShipments_orders env).of_ok
    (SameOrders.mk passes.sameBefore.1.1 passes.sameBefore.1.2) passes.shipments
  have keyed : Keyed (·.id) passes.progressed.salesOrder := same.orders ▸ wf.salesOrder
  have progressed := progressOpenSalesOrders_once env keyed passes.orders
  have ordered := (createSalesOrdersIfNeeded_once env).of_ok progressed passes.demand
  rw [passes.snapshot, ← same.events]
  exact ordered.appendsOnce

end MeadowOps.Flow
