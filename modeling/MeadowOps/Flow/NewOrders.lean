import MeadowOps.Flow.NewTransfers

/-!
# The passes that create orders

A purchase order is created for each pair that needs one; pairs do not share anything, so the rows are
the same in whatever order the pairs come.
-/

namespace MeadowOps.Flow

open Db Lib

variable (env env' : TickEnv) (d : Date)

/-! ## Purchase orders -/

/-- Neither ordered nor under way, and below the reorder point. -/
def needsPurchaseOrder (w : World) (p wh : String) : Bool :=
  !(hasOpenPurchaseOrder w p wh || hasOpenInboundTransfer w p wh) &&
    isBelowReorderPoint (currentInventoryPosition w p wh) (avgDailyShippedDemand w p wh d) reorderSafetyDays

theorem needsPurchaseOrder_congr {w w' : World} {p wh : String} (same : SameAt p wh w w') :
    needsPurchaseOrder d w p wh = needsPurchaseOrder d w' p wh := by
  rw [needsPurchaseOrder, needsPurchaseOrder, same.openPurchaseOrder, same.inboundTransfer, same.position,
    same.demand]

def activeSuppliers (w : World) : List Supplier :=
  env.suppliers.rows (w.master.supplier.filter (·.isActive))

/-- The order placed with a supplier. -/
def newPurchaseOrder (w : World) (p wh : String) (supplier : Supplier) : PurchaseOrder where
  id := env.purchaseOrderId p wh
  poNumber := "PO-" ++ env.purchaseOrderHex p wh
  supplierId := supplier.id
  warehouseId := wh
  orderDate := d
  expectedDeliveryDate := d + jitteredLeadTimeDays supplier.baseLeadTimeDays supplier.leadTimeVariability
    (env.rng d (.procurement p wh))
  status := .submitted
  lines := [⟨p, reorderQuantity (avgDailyShippedDemand w p wh d) reorderTargetDaysOfSupply, 0⟩]

/-- The order of a pair, where it needs one and has a supplier. -/
def purchaseOrderFor (w : World) (pair : Product × Warehouse) : Option PurchaseOrder :=
  if needsPurchaseOrder d w pair.1.id pair.2.id then
    (assignSupplier pair.1.category (activeSuppliers env w)).toOption.map
      (newPurchaseOrder env d w pair.1.id pair.2.id)
  else none

def withPurchaseOrders (w : World) (pos : List PurchaseOrder) : World := { w with
  purchaseOrder := w.purchaseOrder ++ pos
  purchaseOrderLifecycleEvent :=
    w.purchaseOrderLifecycleEvent ++ pos.map fun po => ⟨po.id, none, .submitted, d⟩ }

/-- The pairs of the pass. -/
def purchasePairs (w : World) : List (Product × Warehouse) :=
  env.purchaseProducts.rows (w.master.product.filter (·.isActive)) ×ˢ
    env.purchaseWarehouses.rows (w.master.warehouse.filter (·.isActive))

/-- Every pair that needs an order has a supplier. -/
def Supplied (w : World) (pairs : List (Product × Warehouse)) : Prop :=
  ∀ pair ∈ pairs, needsPurchaseOrder d w pair.1.id pair.2.id = true →
    ∃ supplier, assignSupplier pair.1.category (activeSuppliers env w) = .ok supplier

section
variable {env d} {w : World} {pair : Product × Warehouse}

theorem purchaseOrderFor_eq_some {po : PurchaseOrder} (h : purchaseOrderFor env d w pair = some po) :
    po.warehouseId = pair.2.id ∧ po.status = .submitted ∧ ∀ l ∈ po.lines, l.productId = pair.1.id := by
  unfold purchaseOrderFor at h
  split at h
  · obtain ⟨supplier, -, rfl⟩ := Option.map_eq_some_iff.1 h
    exact ⟨rfl, rfl, by simp [newPurchaseOrder]⟩
  · cases h

theorem createPurchaseOrder_eq (created : ℕ) :
    createPurchaseOrder env d (activeSuppliers env w) pair.1 created pair.2 w =
      if needsPurchaseOrder d w pair.1.id pair.2.id then
        match assignSupplier pair.1.category (activeSuppliers env w) with
        | .error e => .error e w
        | .ok supplier =>
          match insertPurchaseOrder? (newPurchaseOrder env d w pair.1.id pair.2.id supplier) w.purchaseOrder with
          | none => .error (.integrityError "purchase_order") w
          | some rows => .ok (created + 1) { w with
              purchaseOrder := rows
              purchaseOrderLifecycleEvent := w.purchaseOrderLifecycleEvent ++
                [⟨env.purchaseOrderId pair.1.id pair.2.id, none, .submitted, d⟩] }
      else .ok created w := by
  unfold createPurchaseOrder needsPurchaseOrder
  cases hasOpenPurchaseOrder w pair.1.id pair.2.id || hasOpenInboundTransfer w pair.1.id pair.2.id with
  | true => rfl
  | false =>
    dsimp only
    cases isBelowReorderPoint (currentInventoryPosition w pair.1.id pair.2.id)
      (avgDailyShippedDemand w pair.1.id pair.2.id d) reorderSafetyDays <;> rfl

/-- Orders of other pairs are no news. -/
theorem sameAt_withPurchaseOrders (w : World) {pos : List PurchaseOrder} {p wh : String}
    (others : ∀ po ∈ pos, po.warehouseId = wh → ∀ l ∈ po.lines, l.productId ≠ p) :
    SameAt p wh w (withPurchaseOrders d w pos) where
  openPurchaseOrder := by
    have none : pos.any (fun po => po.lines.any (·.productId = p) && decide (po.warehouseId = wh) &&
        po.status.isOpen) = false := by
      rw [List.any_eq_false]
      intro po mem here
      simp only [Bool.and_eq_true, decide_eq_true_eq, List.any_eq_true] at here
      obtain ⟨⟨⟨l, line, product⟩, warehouse⟩, -⟩ := here
      exact others po mem warehouse l line product
    simp only [hasOpenPurchaseOrder, withPurchaseOrders, List.any_append, none, Bool.or_false]
  inboundTransfer := rfl
  position := rfl
  demand _ := rfl
  allocated := rfl

variable (env) in
/-- The pairs of the pass are distinct. -/
theorem purchasePairs_nodup (keyed : KeyedMaster w.master) :
    ((purchasePairs env w).map fun pair => (pair.1.id, pair.2.id)).Nodup := by
  have pairs := (loaded_nodup keyed.product env.purchaseProducts (·.isActive)).product
    (loaded_nodup keyed.warehouse env.purchaseWarehouses (·.isActive))
  rwa [← map_product] at pairs

/-- The orders of earlier pairs. -/
def ordersFor (env : TickEnv) (d : Date) (w : World) (done : List (Product × Warehouse)) : List PurchaseOrder :=
  done.filterMap (purchaseOrderFor env d w)

/-- Every pair that needs an order has a supplier, and the database takes the orders. -/
structure Orderable (env : TickEnv) (d : Date) (w : World) (pairs : List (Product × Warehouse)) : Prop where
  supplied : Supplied env d w pairs
  admitted : Admitted (·.id) (·.poNumber) w.purchaseOrder (ordersFor env d w pairs)

theorem createPurchaseOrder_outcome {done : List (Product × Warehouse)} (ready : Orderable env d w done)
    (fresh : (pair.1.id, pair.2.id) ∉ done.map fun pair => (pair.1.id, pair.2.id)) :
    Outcome (Orderable env d w (done ++ [pair])) (ordersFor env d w (done ++ [pair])).length
      (withPurchaseOrders d w (ordersFor env d w (done ++ [pair])))
      (createPurchaseOrder env d (activeSuppliers env w) pair.1 (ordersFor env d w done).length pair.2
        (withPurchaseOrders d w (ordersFor env d w done))) := by
  have same : SameAt pair.1.id pair.2.id w (withPurchaseOrders d w (ordersFor env d w done)) := by
    refine sameAt_withPurchaseOrders w fun po mem warehouse l line product => fresh ?_
    obtain ⟨pair', before, placed⟩ := List.mem_filterMap.1 mem
    have spec := purchaseOrderFor_eq_some placed
    refine List.mem_map.2 ⟨pair', before, ?_⟩
    rw [← product, ← warehouse, spec.1, spec.2.2 l line]
  have suppliers : activeSuppliers env w =
      activeSuppliers env (withPurchaseOrders d w (ordersFor env d w done)) := rfl
  have new : ∀ supplier, newPurchaseOrder env d (withPurchaseOrders d w (ordersFor env d w done))
      pair.1.id pair.2.id supplier = newPurchaseOrder env d w pair.1.id pair.2.id supplier := by
    intro supplier
    rw [newPurchaseOrder, newPurchaseOrder, same.demand]
  have supplied : Supplied env d w (done ++ [pair]) ↔ (needsPurchaseOrder d w pair.1.id pair.2.id = true →
      ∃ supplier, assignSupplier pair.1.category (activeSuppliers env w) = .ok supplier) := by
    constructor
    · exact fun all => all pair (by simp)
    · intro here pair' mem
      rcases List.mem_append.1 mem with mem | mem
      · exact ready.supplied pair' mem
      · rw [List.mem_singleton.1 mem]
        exact here
  rw [suppliers, createPurchaseOrder_eq, ← suppliers, ← needsPurchaseOrder_congr d same]
  have more : ordersFor env d w (done ++ [pair]) =
      ordersFor env d w done ++ (purchaseOrderFor env d w pair).toList := by
    rw [ordersFor, List.filterMap_append]
    rfl
  cases needed : needsPurchaseOrder d w pair.1.id pair.2.id with
  | false =>
    have none : purchaseOrderFor env d w pair = none := by simp [purchaseOrderFor, needed]
    rw [more, none, Option.toList_none, List.append_nil]
    refine .returned ⟨supplied.2 fun h => ?_, ?_⟩
    · rw [needed] at h
      cases h
    · rw [more, none, Option.toList_none, List.append_nil]
      exact ready.admitted
  | true =>
    cases found : assignSupplier pair.1.category (activeSuppliers env w) with
    | error e =>
      refine .raised _ _ fun all => ?_
      obtain ⟨supplier, ok⟩ := supplied.1 all.supplied needed
      rw [found] at ok
      cases ok
    | ok supplier =>
      have some : purchaseOrderFor env d w pair =
          some (newPurchaseOrder env d w pair.1.id pair.2.id supplier) := by
        simp [purchaseOrderFor, needed, found, Except.toOption]
      rw [more, some, Option.toList_some]
      dsimp only
      rw [new]
      have later : Supplied env d w (done ++ [pair]) := supplied.2 fun _ => ⟨supplier, found⟩
      rcases ready.admitted.insert?_cases (newPurchaseOrder env d w pair.1.id pair.2.id supplier) with
        ⟨refused, clash⟩ | ⟨inserted, admitted⟩
      · have none : insertPurchaseOrder? (newPurchaseOrder env d w pair.1.id pair.2.id supplier)
            (withPurchaseOrders d w (ordersFor env d w done)).purchaseOrder = none := refused
        rw [if_pos rfl, none]
        refine .raised _ _ fun all => clash ?_
        have admitted := all.admitted
        rwa [more, some] at admitted
      · have rows : insertPurchaseOrder? (newPurchaseOrder env d w pair.1.id pair.2.id supplier)
            (withPurchaseOrders d w (ordersFor env d w done)).purchaseOrder = Option.some _ := inserted
        rw [if_pos rfl, rows]
        dsimp only [withPurchaseOrders]
        rw [List.length_append, List.append_assoc, List.map_append]
        refine .returned ⟨later, ?_⟩
        rw [more, some]
        exact admitted

theorem createPurchaseOrdersIfNeeded_outcome (keyed : KeyedMaster w.master) :
    Outcome (Orderable env d w (purchasePairs env w)) (ordersFor env d w (purchasePairs env w)).length
      (withPurchaseOrders d w (ordersFor env d w (purchasePairs env w)))
      (createPurchaseOrdersIfNeeded env d w) := by
  have distinct := purchasePairs_nodup env keyed
  have loop := foldlM_outcome (l := purchasePairs env w)
    (f := fun created pair => createPurchaseOrder env d (activeSuppliers env w) pair.1 created pair.2)
    (P := Orderable env d w) (v := fun done => (ordersFor env d w done).length)
    (s := fun done => withPurchaseOrders d w (ordersFor env d w done))
    ⟨fun _ mem => absurd mem List.not_mem_nil, Admitted.nil _⟩ ?_ ?_
  · have start : withPurchaseOrders d w (ordersFor env d w []) = w := by
      simp [withPurchaseOrders, ordersFor]
    rw [start] at loop
    have nested := foldlM_product (σ := World) (ε := FlowError)
      (fun created product warehouse => createPurchaseOrder env d (activeSuppliers env w) product created warehouse)
      (env.purchaseProducts.rows (w.master.product.filter (·.isActive)))
      (env.purchaseWarehouses.rows (w.master.warehouse.filter (·.isActive))) 0
    rw [createPurchaseOrdersIfNeeded, get_bind]
    exact (congrFun nested w) ▸ loop
  · intro done rest ready
    constructor
    · exact fun pair mem => ready.supplied pair (List.mem_append_left _ mem)
    · have admitted := ready.admitted
      rw [ordersFor, List.filterMap_append] at admitted
      exact admitted.initial
  · intro done pair rest split ready
    refine createPurchaseOrder_outcome ready fun taken => ?_
    rw [split, List.map_append, List.map_cons, List.nodup_append] at distinct
    exact distinct.2.2 _ taken _ List.mem_cons_self rfl

theorem assignSupplier_perm {suppliers suppliers' : List Supplier} (h : suppliers.Perm suppliers')
    (distinct : (suppliers.map (·.id)).Nodup) (category : ProductCategory) :
    assignSupplier category suppliers = assignSupplier category suppliers' := by
  unfold assignSupplier
  dsimp only
  rw [firstMin_perm (h.filter _) (distinct.sublist (List.filter_sublist.map _))]

theorem activeSuppliers_perm {env' : TickEnv} {w' : World} (h : Alike w w') :
    (activeSuppliers env w).Perm (activeSuppliers env' w') := by
  rw [activeSuppliers, activeSuppliers, h.master]
  exact (RowOrder.perm _ _).trans (RowOrder.perm _ _).symm

theorem purchaseOrderFor_congr {env' : TickEnv} {w' : World} (draws : SameDraws env env') (h : Alike w w') :
    purchaseOrderFor env d w = purchaseOrderFor env' d w' := by
  funext pair
  have same := h.toSameRows.at pair.1.id pair.2.id
  have new : newPurchaseOrder env d w pair.1.id pair.2.id = newPurchaseOrder env' d w' pair.1.id pair.2.id := by
    funext supplier
    rw [newPurchaseOrder, newPurchaseOrder, same.demand, draws.rng, draws.purchaseOrderId, draws.purchaseOrderHex]
  rw [purchaseOrderFor, purchaseOrderFor, needsPurchaseOrder_congr d same, new,
    assignSupplier_perm (activeSuppliers_perm h) (loaded_nodup h.keyed.supplier env.suppliers (·.isActive))]

theorem createPurchaseOrdersIfNeeded_agrees {env' : TickEnv} (draws : SameDraws env env') :
    Agrees Alike (createPurchaseOrdersIfNeeded env d) (createPurchaseOrdersIfNeeded env' d) := by
  intro w w' h
  have pairs : (purchasePairs env w).Perm (purchasePairs env' w') := by
    rw [purchasePairs, purchasePairs, h.master]
    exact ((RowOrder.perm _ _).trans (RowOrder.perm _ _).symm).product
      ((RowOrder.perm _ _).trans (RowOrder.perm _ _).symm)
  have new : (ordersFor env d w (purchasePairs env w)).Perm (ordersFor env' d w' (purchasePairs env' w')) := by
    rw [ordersFor, ordersFor, purchaseOrderFor_congr draws h]
    exact pairs.filterMap _
  have headers : ∀ po po' : PurchaseOrder, purchaseOrderView po = purchaseOrderView po' →
      po.id = po'.id ∧ po.poNumber = po'.poNumber := by
    intro po po' same
    obtain ⟨lines, -, rfl⟩ := purchaseOrderView_eq.1 same
    exact ⟨rfl, rfl⟩
  have ids := h.purchaseOrder.map_perm fun po po' same => (headers po po' same).1
  have numbers := h.purchaseOrder.map_perm fun po po' same => (headers po po' same).2
  have supplied : Supplied env d w (purchasePairs env w) ↔ Supplied env' d w' (purchasePairs env' w') := by
    refine forall_congr' fun pair => ?_
    rw [pairs.mem_iff, needsPurchaseOrder_congr d (h.toSameRows.at pair.1.id pair.2.id),
      assignSupplier_perm (activeSuppliers_perm h) (loaded_nodup h.keyed.supplier env.suppliers (·.isActive))]
  refine (createPurchaseOrdersIfNeeded_outcome h.keyed).agree (createPurchaseOrdersIfNeeded_outcome h.keyed')
    ?_ fun ready => ⟨new.length_eq, ?_⟩
  · exact ⟨fun ready => ⟨supplied.1 ready.supplied, ready.admitted.perm ids numbers new⟩,
      fun ready => ⟨supplied.2 ready.supplied, ready.admitted.perm ids.symm numbers.symm new.symm⟩⟩
  · refine ⟨{ h.toSameRows with
      purchaseOrder := h.purchaseOrder.append (.of_perm new)
      purchaseOrderLifecycleEvent := h.purchaseOrderLifecycleEvent.append (new.map _) }, ?_, h.keyed, h.snapshots⟩
    exact { h.wf with purchaseOrder := ready.admitted.byKey.keyed h.wf.purchaseOrder }

end

/-! ## Sales orders -/

/-- The order that a customer places, if any. -/
def salesOrderFor (productIds : List String) (customer : Customer) : Option SalesOrder :=
  let rng := env.rng d (.demand customer.id)
  if newOrderProbabilityPerCustomer ≤ rng.random 0 then none
  else
    let chosen := pickDemandProducts rng 1 productIds
    if chosen.isEmpty then none
    else some {
      id := env.salesOrderId customer.id
      soNumber := "SO-" ++ env.salesOrderHex customer.id
      customerId := customer.id
      warehouseId := customer.warehouseId
      orderDate := d
      requestedDate := d + pickRequestedDateOffset rng 3
      promisedDate := none
      status := .submitted
      lines := demandLines rng 4 chosen }

def withSalesOrders (w : World) (sos : List SalesOrder) : World := { w with
  salesOrder := w.salesOrder ++ sos
  salesOrderLifecycleEvent :=
    w.salesOrderLifecycleEvent ++ sos.map fun so => ⟨so.id, none, .submitted, d⟩ }

/-- What a customer orders does not depend on which product comes first: it orders nothing, there is at
most one product, or it takes all of them in equal quantities. -/
def OrderSettled (rng : Rng) (count : ℕ) : Prop :=
  newOrderProbabilityPerCustomer ≤ rng.random 0 ∨ count ≤ 1 ∨
    rng.randint 1 1 (min 3 count) = count ∧
      ∀ i < count, pickDemandQuantity rng (4 + i) = pickDemandQuantity rng 4

section
variable {env env' d} {customer : Customer} {ids ids' : List String}

theorem createSalesOrder_eq (created : ℕ) (w : World) :
    createSalesOrder env d ids created customer w =
      match salesOrderFor env d ids customer with
      | none => .ok created w
      | some so =>
        match insertSalesOrder? so w.salesOrder with
        | none => .error (.integrityError "sales_order") w
        | some rows => .ok (created + 1) { w with
            salesOrder := rows
            salesOrderLifecycleEvent := w.salesOrderLifecycleEvent ++ [⟨so.id, none, .submitted, d⟩] } := by
  unfold createSalesOrder salesOrderFor
  dsimp only
  split
  · rfl
  · split <;> rfl

variable (env d) in
theorem createSalesOrdersIfNeeded_outcome (w : World) :
    let ids := (env.demandProducts.rows (w.master.product.filter (·.isActive))).map (·.id)
    let new := (env.customers.rows (w.master.customer.filter (·.isActive))).filterMap (salesOrderFor env d ids)
    Outcome (Admitted (·.id) (·.soNumber) w.salesOrder new) new.length (withSalesOrders d w new)
      (createSalesOrdersIfNeeded env d w) := by
  intro ids
  have loop := foldlM_outcome (l := env.customers.rows (w.master.customer.filter (·.isActive)))
    (f := createSalesOrder env d ids)
    (P := fun done => Admitted (·.id) (·.soNumber) w.salesOrder (done.filterMap (salesOrderFor env d ids)))
    (v := fun done => (done.filterMap (salesOrderFor env d ids)).length)
    (s := fun done => withSalesOrders d w (done.filterMap (salesOrderFor env d ids)))
    (Admitted.nil _) ?_ ?_
  · have start : withSalesOrders d w [] = w := by simp [withSalesOrders]
    rw [List.filterMap_nil, start] at loop
    exact loop
  · intro done rest admitted
    rw [List.filterMap_append] at admitted
    exact admitted.initial
  · intro done customer rest _ admitted
    have more : (done ++ [customer]).filterMap (salesOrderFor env d ids) =
        done.filterMap (salesOrderFor env d ids) ++ (salesOrderFor env d ids customer).toList := by
      rw [List.filterMap_append]
      rfl
    rw [createSalesOrder_eq, more]
    cases salesOrderFor env d ids customer with
    | none =>
      rw [Option.toList_none, List.append_nil]
      exact .returned admitted
    | some so =>
      rw [Option.toList_some]
      dsimp only
      rcases admitted.insert?_cases so with ⟨refused, clash⟩ | ⟨inserted, admitted'⟩
      · have none : insertSalesOrder? so
            (withSalesOrders d w (done.filterMap (salesOrderFor env d ids))).salesOrder = none := refused
        rw [none]
        exact .raised _ _ clash
      · have rows : insertSalesOrder? so
            (withSalesOrders d w (done.filterMap (salesOrderFor env d ids))).salesOrder = some _ := inserted
        rw [rows]
        dsimp only [withSalesOrders]
        rw [List.length_append, List.append_assoc, List.map_append]
        exact .returned admitted'

/-- Equal quantities are the same whichever product comes first. -/
theorem demandLines_eq_map {rng : Rng} {quantity : ℤ} (k : ℕ) (chosen : List String)
    (equal : ∀ i < chosen.length, pickDemandQuantity rng (k + i) = quantity) :
    demandLines rng k chosen = chosen.map fun p => ⟨p, quantity, 0⟩ := by
  induction chosen generalizing k with
  | nil => rfl
  | cons p chosen ih =>
    rw [demandLines, List.map_cons, ih (k + 1) fun i less => ?_, ← equal 0 (Nat.zero_lt_succ _), Nat.add_zero]
    rw [Nat.add_assoc, Nat.add_comm 1]
    exact equal (i + 1) (Nat.succ_lt_succ less)

/-- All the products, in some order. -/
theorem pickDemandProducts_all {rng : Rng} (many : ids ≠ []) (all : rng.randint 1 1 (min 3 ids.length) = ids.length) :
    (pickDemandProducts rng 1 ids).Perm ids := by
  have count : pickDemandProducts rng 1 ids = rng.sample 2 ids ids.length := by
    rw [pickDemandProducts, if_neg (by simpa using many)]
    dsimp only
    rw [all, Int.toNat_natCast]
  rw [count]
  exact (rng.sample_subperm 2 ids ids.length).perm_of_length_le (rng.sample_length 2 ids ids.length le_rfl).ge

theorem salesOrderFor_view (draws : SameDraws env env') (perm : ids.Perm ids')
    (settled : OrderSettled (env.rng d (.demand customer.id)) ids.length) :
    (salesOrderFor env d ids customer).map salesOrderView =
      (salesOrderFor env' d ids' customer).map salesOrderView := by
  unfold salesOrderFor
  rw [← draws.rng, ← draws.salesOrderId, ← draws.salesOrderHex]
  dsimp only
  rcases settled with nothing | few | ⟨all, equal⟩
  · rw [if_pos nothing, if_pos nothing]
  · obtain rfl : ids = ids' := by
      cases ids with
      | nil => rw [perm.symm.eq_nil]
      | cons p ids =>
        obtain rfl := List.eq_nil_of_length_eq_zero (Nat.le_zero.1 (Nat.le_of_succ_le_succ few))
        exact (List.perm_singleton.1 perm.symm).symm
    rfl
  · split
    · rfl
    · by_cases none : ids = []
      · subst none
        rw [perm.symm.eq_nil]
      · have none' : ids' ≠ [] := fun h => none (h ▸ perm).eq_nil
        have chosen := pickDemandProducts_all none all
        have chosen' := pickDemandProducts_all none' (perm.length_eq ▸ all)
        have same := (chosen.trans perm).trans chosen'.symm
        rw [same.isEmpty_eq]
        split
        · rfl
        · refine congrArg some (salesOrderView_eq.2 ⟨_, ?_, rfl⟩)
          dsimp only
          rw [demandLines_eq_map 4 _ fun i less => equal i (chosen.length_eq ▸ less),
            demandLines_eq_map 4 _ fun i less => equal i (perm.length_eq ▸ chosen'.length_eq ▸ less)]
          exact same.map _

theorem createSalesOrdersIfNeeded_agrees (draws : SameDraws env env') {w w' : World} (h : Alike w w')
    (settled : ∀ customer ∈ w.master.customer, customer.isActive = true →
      OrderSettled (env.rng d (.demand customer.id)) (w.master.product.countP (·.isActive))) :
    Agree Alike (createSalesOrdersIfNeeded env d w) (createSalesOrdersIfNeeded env' d w') := by
  have pass := createSalesOrdersIfNeeded_outcome env d w
  have pass' := createSalesOrdersIfNeeded_outcome env' d w'
  dsimp only at pass pass'
  rw [← h.master] at pass'
  have ids : ((env.demandProducts.rows (w.master.product.filter (·.isActive))).map (·.id)).Perm
      ((env'.demandProducts.rows (w.master.product.filter (·.isActive))).map (·.id)) :=
    ((RowOrder.perm _ _).trans (RowOrder.perm _ _).symm).map _
  have count : ((env.demandProducts.rows (w.master.product.filter (·.isActive))).map (·.id)).length =
      w.master.product.countP (·.isActive) := by
    rw [List.length_map, (RowOrder.perm _ _).length_eq, List.countP_eq_length_filter]
  have new : SameVia salesOrderView
      ((env.customers.rows (w.master.customer.filter (·.isActive))).filterMap (salesOrderFor env d
        ((env.demandProducts.rows (w.master.product.filter (·.isActive))).map (·.id))))
      ((env'.customers.rows (w.master.customer.filter (·.isActive))).filterMap (salesOrderFor env' d
        ((env'.demandProducts.rows (w.master.product.filter (·.isActive))).map (·.id)))) := by
    have customers : (env.customers.rows (w.master.customer.filter (·.isActive))).Perm
        (env'.customers.rows (w.master.customer.filter (·.isActive))) :=
      (RowOrder.perm _ _).trans (RowOrder.perm _ _).symm
    rw [SameVia, List.map_filterMap, List.map_filterMap]
    rw [List.filterMap_congr fun customer mem => ?_]
    · exact customers.filterMap _
    · rw [RowOrder.mem_rows, List.mem_filter] at mem
      exact salesOrderFor_view draws ids (count ▸ settled customer mem.1 mem.2)
  have headers : ∀ so so' : SalesOrder, salesOrderView so = salesOrderView so' →
      so.id = so'.id ∧ so.soNumber = so'.soNumber := by
    intro so so' same
    obtain ⟨lines, -, rfl⟩ := salesOrderView_eq.1 same
    exact ⟨rfl, rfl⟩
  have keys := fun {rows rows'} (same : SameVia salesOrderView rows rows') =>
    same.map_perm fun so so' same => (headers so so' same).1
  have numbers := fun {rows rows'} (same : SameVia salesOrderView rows rows') =>
    same.map_perm fun so so' same => (headers so so' same).2
  have logged := new.map_perm fun so so' same =>
    show (⟨so.id, none, .submitted, d⟩ : LifecycleEvent SalesOrderStatus) = ⟨so'.id, none, .submitted, d⟩ by
      rw [(headers so so' same).1]
  refine pass.agree pass' ?_ fun admitted => ⟨?_, ?_⟩
  · exact ⟨fun admitted => admitted.of_keys (keys h.salesOrder) (numbers h.salesOrder) (keys new) (numbers new),
      fun admitted => admitted.of_keys (keys h.salesOrder).symm (numbers h.salesOrder).symm (keys new).symm
        (numbers new).symm⟩
  · simpa using new.length_eq
  · refine ⟨{ h.toSameRows with
      salesOrder := h.salesOrder.append new
      salesOrderLifecycleEvent := h.salesOrderLifecycleEvent.append logged }, ?_, h.keyed, h.snapshots⟩
    exact { h.wf with salesOrder := admitted.byKey.keyed h.wf.salesOrder }

end

end MeadowOps.Flow
