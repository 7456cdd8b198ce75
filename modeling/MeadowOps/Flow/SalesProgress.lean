import MeadowOps.Flow.Allocation
import MeadowOps.Flow.NewOrders

/-!
# The sales orders of a day

The loop over the open sales orders is the one that shares a stock without sorting its rows. Where no
two of its decisions contest a stock (`Uncontested`), each order fares as if it came first: it is compared
with the stock that the loop starts from.
-/

namespace MeadowOps.Flow

open Db Lib

/-! ## What an order gets of a stock -/

/-- What a line wants is there. -/
def fits (stock : String → String → ℤ) (wh : String) (l : SalesOrderLine) : Bool :=
  decide (0 < SalesOrderLine.remaining l ∧ SalesOrderLine.remaining l ≤ stock l.productId wh)

/-- What the lines of an order that fit want of a product. -/
def fittingQuantity (stock : String → String → ℤ) (p : String) (so : SalesOrder) : ℤ :=
  sumWhere (fun l => l.productId = p ∧ fits stock so.warehouseId l = true) SalesOrderLine.remaining so.lines

/-- What the orders that ship want of a pair, in the lines that fit. -/
def shippable (stock : String → String → ℤ) (p wh : String) (rows : List SalesOrder) : ℤ :=
  sumWhere (fun so => so.warehouseId = wh ∧ so.status.isAllocated = true) (fittingQuantity stock p) rows

/-- Whatever can ship can ship together, and leaves enough for what can be allocated. -/
structure Uncontested (w : World) : Prop where
  shipping : ∀ p wh, 0 < shippable (currentInventoryPosition w) p wh w.salesOrder →
    shippable (currentInventoryPosition w) p wh w.salesOrder ≤ currentInventoryPosition w p wh
  allocating : ∀ so ∈ w.salesOrder, so.status = .submitted → allAvailable w so so.lines = true → ∀ l ∈ so.lines,
    SalesOrderLine.remaining l + shippable (currentInventoryPosition w) l.productId so.warehouseId w.salesOrder ≤
      currentInventoryPosition w l.productId so.warehouseId

def shipLine (stock : String → String → ℤ) (wh : String) (l : SalesOrderLine) : SalesOrderLine :=
  if fits stock wh l then { l with quantityShipped := l.quantityOrdered } else l

section
variable {stock : String → String → ℤ} {so : SalesOrder} {p wh : String}

variable (stock p wh) in
theorem fitting_nonneg (lines : List SalesOrderLine) :
    0 ≤ sumWhere (fun l => l.productId = p ∧ fits stock wh l = true) SalesOrderLine.remaining lines :=
  sumWhere_nonneg fun _ _ here => (of_decide_eq_true here.2).1.le

variable (stock p wh) in
theorem shippable_nonneg (rows : List SalesOrder) : 0 ≤ shippable stock p wh rows :=
  sumWhere_nonneg fun so _ _ => fitting_nonneg stock p so.warehouseId so.lines

variable (stock) in
/-- From a ledger that covers all the lines that fit, those ship and no other. -/
theorem shipLines_eq (d : Date) (so : SalesOrder) (lines : List SalesOrderLine) (ledger : List InventoryTransaction)
    (below : ∀ p, inventoryPosition ledger p so.warehouseId ≤ stock p so.warehouseId)
    (enough : ∀ l ∈ lines, fits stock so.warehouseId l = true →
      sumWhere (fun l' => l'.productId = l.productId ∧ fits stock so.warehouseId l' = true)
        SalesOrderLine.remaining lines ≤ inventoryPosition ledger l.productId so.warehouseId) :
    shipLines d so lines ledger = (lines.map (shipLine stock so.warehouseId),
      ledger ++ (lines.filter (fits stock so.warehouseId)).map (shipmentOf d so),
      lines.any (fits stock so.warehouseId)) := by
  induction lines generalizing ledger with
  | nil => simp [shipLines]
  | cons l lines ih =>
    have rest := fitting_nonneg stock l.productId so.warehouseId lines
    cases fit : fits stock so.warehouseId l with
    | true =>
      have wants := of_decide_eq_true fit
      have here := enough l List.mem_cons_self fit
      rw [sumWhere_cons, if_pos ⟨rfl, fit⟩] at here
      rcases shipLines_cons d so l lines ledger with ⟨stays, -⟩ | ⟨-, -, ships⟩
      · omega
      have moved : ∀ p, inventoryPosition (ledger ++ [shipmentOf d so l]) p so.warehouseId =
          inventoryPosition ledger p so.warehouseId -
            if l.productId = p then SalesOrderLine.remaining l else 0 := by
        intro p
        rw [inventoryPosition_shipmentOf]
        simp
      rw [ships, ih]
      · simp [shipLine, fit]
      · intro p
        have before := below p
        rw [moved]
        split <;> omega
      · intro l' mem fit'
        have later := enough l' (List.mem_cons_of_mem _ mem) fit'
        rw [sumWhere_cons] at later
        rw [moved]
        by_cases same : l.productId = l'.productId
        · rw [if_pos ⟨same, fit⟩] at later
          rw [if_pos same]
          omega
        · rw [if_neg fun both => same both.1, zero_add] at later
          rw [if_neg same]
          omega
    | false =>
      have short : SalesOrderLine.remaining l ≤ 0 ∨
          inventoryPosition ledger l.productId so.warehouseId < SalesOrderLine.remaining l := by
        have short := of_decide_eq_false fit
        have before := below l.productId
        omega
      rcases shipLines_cons d so l lines ledger with ⟨-, stays⟩ | ⟨wants, covers, -⟩
      · rw [stays, ih ledger below]
        · simp [shipLine, fit]
        · intro l' mem fit'
          have later := enough l' (List.mem_cons_of_mem _ mem) fit'
          rwa [sumWhere_cons, if_neg fun both => by simp [fit] at both, zero_add] at later
      · omega

end

variable (env env' : TickEnv) (d : Date) (stock : String → String → ℤ)

def loadedLines (so : SalesOrder) : List SalesOrderLine := (env.salesOrderLines so.id).rows so.lines

/-- An order that may ship has a line that fits. -/
def ships (so : SalesOrder) : Bool :=
  decide (so.status ≠ .submitted) && so.lines.any (fits stock so.warehouseId)

/-- The stock covers every line, as `allAvailable` asks. -/
def covered (so : SalesOrder) : Bool :=
  so.lines.all fun l => decide (SalesOrderLine.remaining l ≤ stock l.productId so.warehouseId)

/-- An open order after the day's loop. -/
def progressedSalesOrder (so : SalesOrder) : SalesOrder :=
  if so.status = .submitted then
    if covered stock so then { so with
      status := .allocated
      promisedDate := some (d + genericPromiseDays) }
    else so
  else if ships stock so then shippedOrder ((loadedLines env so).map (shipLine stock so.warehouseId)) so
  else so

/-- What the day's loop books of an open order. -/
def shipmentsOut (so : SalesOrder) : List InventoryTransaction :=
  if ships stock so then ((loadedLines env so).filter (fits stock so.warehouseId)).map (shipmentOf d so) else []

def salesOrderEvents (so : SalesOrder) : List (LifecycleEvent SalesOrderStatus) :=
  transitionEvents so.id so.status (progressedSalesOrder env d stock so).status d

/-- The shipment of a carrier. -/
def shipmentBy (so : SalesOrder) (carrier : Carrier) : Shipment where
  id := env.shipmentId so.id
  salesOrderId := so.id
  carrierId := carrier.id
  warehouseId := so.warehouseId
  shipDate := d
  promisedDeliveryDate := d + pyRound ((carrier.transitDaysMin + carrier.transitDaysMax) / 2)
  actualDeliveryDate := none
  status := .pending

/-- The shipment of an order that ships in full. -/
def newShipment (carriers : List Carrier) (so : SalesOrder) : Option Shipment :=
  if ships stock so && fullyShipped ((loadedLines env so).map (shipLine stock so.warehouseId)) then
    (pickCarrier carriers so.id).map (shipmentBy env d so)
  else none

section
variable {env d stock} {so : SalesOrder}

theorem addShipment_eq (carriers : List Carrier) (rows : List Shipment) :
    addShipment env d carriers so rows =
      match (pickCarrier carriers so.id).map (shipmentBy env d so) with
      | none => some rows
      | some s => insert? (·.id) s rows := by
  unfold addShipment
  cases pickCarrier carriers so.id <;> rfl

theorem progressedSalesOrder_id : (progressedSalesOrder env d stock so).id = so.id := by
  unfold progressedSalesOrder
  split
  · split <;> rfl
  · split <;> rfl

variable (env d stock) in
/-- What an order books is what its lines that fit want. -/
theorem position_shipmentsOut (isOpen : so.status.isOpen = true) (p wh : String) :
    inventoryPosition (shipmentsOut env d stock so) p wh = -shippable stock p wh [so] := by
  rw [shippable, sumWhere_cons, sumWhere_nil, add_zero, shipmentsOut]
  by_cases submitted : so.status = .submitted
  · simp [ships, submitted, inventoryPosition, SalesOrderStatus.isAllocated]
  · have allocated : so.status.isAllocated = true := by
      revert isOpen submitted
      cases so.status <;> simp [SalesOrderStatus.isOpen, SalesOrderStatus.isAllocated]
    have sum : sumWhere (·.productId = p) SalesOrderLine.remaining
        ((loadedLines env so).filter (fits stock so.warehouseId)) = fittingQuantity stock p so := by
      rw [fittingQuantity, ← sumWhere_perm _ _ (RowOrder.perm (env.salesOrderLines so.id) so.lines)]
      simp only [sumWhere, List.filter_filter, loadedLines]
      simp
    by_cases any : so.lines.any (fits stock so.warehouseId) = true
    · rw [if_pos (by simp [ships, submitted, any]), inventoryPosition_shipments, sum]
      by_cases here : so.warehouseId = wh
      · rw [if_pos here, if_pos ⟨here, allocated⟩]
      · rw [if_neg here, if_neg fun both => here both.1, neg_zero]
    · have none : fittingQuantity stock p so = 0 := by
        refine sumWhere_eq_zero fun l mem fit => any ?_
        exact List.any_eq_true.2 ⟨l, mem, fit.2⟩
      rw [if_neg (by simp [ships, any]), none]
      simp [inventoryPosition]

/-- The stock when the orders of `done` have had their turn. -/
theorem position_done {done : List SalesOrder} (isOpen : ∀ so ∈ done, so.status.isOpen = true)
    (ledger : List InventoryTransaction) (p wh : String) :
    inventoryPosition (ledger ++ done.flatMap (shipmentsOut env d stock)) p wh =
      inventoryPosition ledger p wh - shippable stock p wh done := by
  induction done using List.reverseRecOn with
  | nil => simp [shippable]
  | append_singleton done so ih =>
    have here := position_shipmentsOut env d stock
      (isOpen so (List.mem_append_right _ List.mem_cons_self)) p wh
    rw [List.flatMap_append, ← List.append_assoc, inventoryPosition_append,
      ih fun so mem => isOpen so (List.mem_append_left _ mem), List.flatMap_singleton, here]
    simp only [shippable, sumWhere_append]
    ring

/-- The database takes the shipment of an order, or it has its key already. -/
theorem newShipment_cases (carriers : List Carrier) (rows : List Shipment) (busy : ships stock so = true) :
    ((if fullyShipped ((loadedLines env so).map (shipLine stock so.warehouseId)) then
        addShipment env d carriers so rows else some rows) = none ∧
      ¬ Fresh (·.id) rows (newShipment env d stock carriers so).toList) ∨
    ((if fullyShipped ((loadedLines env so).map (shipLine stock so.warehouseId)) then
        addShipment env d carriers so rows else some rows) =
        some (rows ++ (newShipment env d stock carriers so).toList) ∧
      Fresh (·.id) rows (newShipment env d stock carriers so).toList) := by
  rw [newShipment, busy, Bool.true_and, addShipment_eq]
  split
  · cases (pickCarrier carriers so.id).map (shipmentBy env d so) with
    | none => exact .inr ⟨by simp, Fresh.nil rows⟩
    | some s =>
      have one := (Fresh.nil rows : Fresh (·.id) rows []).insert?_cases s
      rw [List.append_nil, List.nil_append] at one
      exact one
  · exact .inr ⟨by simp, Fresh.nil rows⟩

/-- The stock that an iteration finds says of its order what the loop's first stock says. -/
structure Undisturbed (stock : String → String → ℤ) (w : World) (so : SalesOrder) : Prop where
  below : ∀ p, currentInventoryPosition w p so.warehouseId ≤ stock p so.warehouseId
  enough : so.status ≠ .submitted → ∀ l ∈ so.lines, fits stock so.warehouseId l = true →
    fittingQuantity stock l.productId so ≤ currentInventoryPosition w l.productId so.warehouseId
  available : so.status = .submitted → allAvailable w so so.lines = covered stock so

variable (env d stock) in
/-- One iteration: the order as the first stock would have it. -/
theorem progressSalesOrder_outcome {w : World} (keyed : Keyed (·.id) w.salesOrder) (mem : so ∈ w.salesOrder)
    (same : Undisturbed stock w so) (carriers : List Carrier) (events : ℕ) :
    Outcome (Fresh (·.id) w.shipment (newShipment env d stock carriers so).toList)
      (events + (salesOrderEvents env d stock so).length) { w with
        salesOrder := modify (·.id) so.id (progressedSalesOrder env d stock) w.salesOrder
        inventoryTransaction := w.inventoryTransaction ++ shipmentsOut env d stock so
        shipment := w.shipment ++ (newShipment env d stock carriers so).toList
        salesOrderLifecycleEvent := w.salesOrderLifecycleEvent ++ salesOrderEvents env d stock so }
      (progressSalesOrder env d carriers events so.id w) := by
  have found : lookup (·.id) so.id w.salesOrder = some so := lookup_of_mem keyed mem
  simp only [progressSalesOrder, found]
  -- an order that nothing happens to
  have waits (stays : progressedSalesOrder env d stock so = so) (idle : ships stock so = false) :
      Outcome (ε := FlowError) (Fresh (·.id) w.shipment (newShipment env d stock carriers so).toList)
        (events + (salesOrderEvents env d stock so).length) { w with
          salesOrder := modify (·.id) so.id (progressedSalesOrder env d stock) w.salesOrder
          inventoryTransaction := w.inventoryTransaction ++ shipmentsOut env d stock so
          shipment := w.shipment ++ (newShipment env d stock carriers so).toList
          salesOrderLifecycleEvent := w.salesOrderLifecycleEvent ++ salesOrderEvents env d stock so }
        (.ok events w) := by
    rw [keyed.modify_stays mem stays]
    simp only [newShipment, shipmentsOut, salesOrderEvents, transitionEvents, stays, idle]
    simp
    exact .returned (Fresh.nil _)
  by_cases submitted : so.status = .submitted
  · have idle : ships stock so = false := by simp [ships, submitted]
    have asked : allAvailable w so ((env.salesOrderLines so.id).rows so.lines) = covered stock so := by
      rw [← same.available submitted]
      exact (RowOrder.perm _ _).all_eq
    rw [if_pos submitted, asked]
    cases available : covered stock so with
    | true =>
      have allocated : progressedSalesOrder env d stock so = { so with
          status := .allocated
          promisedDate := some (d + genericPromiseDays) } := by
        rw [progressedSalesOrder, if_pos submitted, if_pos available]
      rw [if_pos rfl, ← keyed.modify_row mem (f := fun so => { so with
        status := .allocated
        promisedDate := some (d + genericPromiseDays) }) allocated.symm]
      simp only [newShipment, shipmentsOut, salesOrderEvents, transitionEvents, allocated, idle, submitted]
      simp
      exact .returned (Fresh.nil _)
    | false =>
      refine waits ?_ idle
      rw [progressedSalesOrder, if_pos submitted, available]
      rfl
  · rw [if_neg submitted]
    have looped := shipLines_eq stock d so (loadedLines env so) w.inventoryTransaction same.below ?_
    · have any : (loadedLines env so).any (fits stock so.warehouseId) = ships stock so := by
        rw [ships, decide_eq_true submitted, Bool.true_and]
        exact (RowOrder.perm _ _).any_eq
      rw [any] at looped
      rw [show (env.salesOrderLines so.id).rows so.lines = loadedLines env so from rfl, looped]
      cases busy : ships stock so with
      | false =>
        refine waits ?_ busy
        rw [progressedSalesOrder, if_neg submitted, busy]
        rfl
      | true =>
        have shipped : progressedSalesOrder env d stock so =
            shippedOrder ((loadedLines env so).map (shipLine stock so.warehouseId)) so := by
          rw [progressedSalesOrder, if_neg submitted, if_pos busy]
        have booked : shipmentsOut env d stock so =
            ((loadedLines env so).filter (fits stock so.warehouseId)).map (shipmentOf d so) := if_pos busy
        rw [if_neg Bool.noConfusion, ← booked, keyed.modify_row mem shipped.symm, ← shipped]
        dsimp only
        rcases newShipment_cases carriers w.shipment busy with ⟨refused, clash⟩ | ⟨added, fresh⟩
        · rw [refused]
          exact .raised _ _ clash
        · rw [added]
          dsimp only
          by_cases moved : so.status = (progressedSalesOrder env d stock so).status
          · rw [if_pos moved, salesOrderEvents, transitionEvents, if_pos moved.symm, List.append_nil]
            exact .returned fresh
          · rw [if_neg moved, salesOrderEvents, transitionEvents, if_neg (Ne.symm moved)]
            exact .returned fresh
    · intro l mem fit
      rw [loadedLines, RowOrder.mem_rows] at mem
      have enough := same.enough submitted l mem fit
      rwa [fittingQuantity, ← sumWhere_perm _ _ (RowOrder.perm (env.salesOrderLines so.id) so.lines)] at enough

end

/-! ## The loop -/

def openSalesOrderRows (w : World) : List SalesOrder :=
  env.openSalesOrders.rows (w.salesOrder.filter (·.status.isOpen))

/-- The state when the orders of `done` have had their turn. -/
def afterSalesOrders (carriers : List Carrier) (w : World) (done : List SalesOrder) : World := { w with
  salesOrder := updateAll (·.id) (progressedSalesOrder env d stock) done w.salesOrder
  inventoryTransaction := w.inventoryTransaction ++ done.flatMap (shipmentsOut env d stock)
  shipment := w.shipment ++ done.filterMap (newShipment env d stock carriers)
  salesOrderLifecycleEvent := w.salesOrderLifecycleEvent ++ done.flatMap (salesOrderEvents env d stock) }

section
variable {env d} {w : World} {so : SalesOrder}

theorem isOpen_of_loaded (mem : so ∈ openSalesOrderRows env w) : so ∈ w.salesOrder ∧ so.status.isOpen = true := by
  rwa [openSalesOrderRows, RowOrder.mem_rows, List.mem_filter] at mem

variable (env w) in
/-- Only open orders ship. -/
theorem shippable_open (p wh : String) : shippable stock p wh (openSalesOrderRows env w) =
    shippable stock p wh w.salesOrder := by
  rw [shippable, openSalesOrderRows, sumWhere_perm _ _ (RowOrder.perm _ _), shippable, sumWhere, sumWhere,
    List.filter_filter]
  congr 2
  refine List.filter_congr fun so _ => ?_
  cases so.status <;> simp [SalesOrderStatus.isAllocated, SalesOrderStatus.isOpen]

theorem undisturbed (calm : Uncontested w) {done rest : List SalesOrder}
    (split : openSalesOrderRows env w = done ++ so :: rest) {x : World}
    (position : ∀ p wh, currentInventoryPosition x p wh =
      currentInventoryPosition w p wh - shippable (currentInventoryPosition w) p wh done) :
    Undisturbed (currentInventoryPosition w) x so := by
  have loaded : so ∈ openSalesOrderRows env w := by simp [split]
  obtain ⟨mem, isOpen⟩ := isOpen_of_loaded loaded
  have total : ∀ p wh, shippable (currentInventoryPosition w) p wh w.salesOrder =
      shippable (currentInventoryPosition w) p wh done + shippable (currentInventoryPosition w) p wh [so] +
        shippable (currentInventoryPosition w) p wh rest := by
    intro p wh
    rw [← shippable_open env _ w, split, List.append_cons]
    simp only [shippable, sumWhere_append]
  have before := fun p wh => shippable_nonneg (currentInventoryPosition w) p wh done
  have own := fun p wh => shippable_nonneg (currentInventoryPosition w) p wh [so]
  have after := fun p wh => shippable_nonneg (currentInventoryPosition w) p wh rest
  constructor
  case below =>
    intro p
    have := before p so.warehouseId
    rw [position]
    omega
  case enough =>
    intro submitted l line fit
    have allocated : so.status.isAllocated = true := by
      revert isOpen submitted
      cases so.status <;> simp [SalesOrderStatus.isOpen, SalesOrderStatus.isAllocated]
    have one : shippable (currentInventoryPosition w) l.productId so.warehouseId [so] =
        fittingQuantity (currentInventoryPosition w) l.productId so := by
      rw [shippable, sumWhere_cons, if_pos ⟨rfl, allocated⟩, sumWhere_nil, add_zero]
    have wants : SalesOrderLine.remaining l ≤ fittingQuantity (currentInventoryPosition w) l.productId so :=
      le_sumWhere_of_mem (fun _ _ here => (of_decide_eq_true here.2).1.le) line ⟨rfl, fit⟩
    have positive := (of_decide_eq_true fit).1
    have all := total l.productId so.warehouseId
    have := before l.productId so.warehouseId
    have := after l.productId so.warehouseId
    have together := calm.shipping l.productId so.warehouseId (by omega)
    rw [position]
    omega
  case available =>
    intro submitted
    cases available : covered (currentInventoryPosition w) so with
    | true =>
      rw [allAvailable, List.all_eq_true]
      intro l line
      have left := calm.allocating so mem submitted available l line
      have all := total l.productId so.warehouseId
      have := own l.productId so.warehouseId
      have := after l.productId so.warehouseId
      rw [position, decide_eq_true_iff]
      omega
    | false =>
      obtain ⟨l, line, short⟩ := List.all_eq_false.1 available
      refine List.all_eq_false.2 ⟨l, line, fun enough => short ?_⟩
      have := before l.productId so.warehouseId
      rw [position, decide_eq_true_iff] at enough
      rw [decide_eq_true_iff]
      omega

variable (env d) in
theorem progressOpenSalesOrders_outcome (keyed : Keyed (·.id) w.salesOrder) (calm : Uncontested w) (events : ℕ) :
    Outcome (Fresh (·.id) w.shipment
        ((openSalesOrderRows env w).filterMap (newShipment env d (currentInventoryPosition w) (activeCarriers env w))))
      (events + ((openSalesOrderRows env w).flatMap (salesOrderEvents env d (currentInventoryPosition w))).length)
      (afterSalesOrders env d (currentInventoryPosition w) (activeCarriers env w) w (openSalesOrderRows env w))
      (progressOpenSalesOrders env d events w) := by
  have loop := loadedRows_outcome (f := progressSalesOrder env d (activeCarriers env w))
    (P := fun done => Fresh (·.id) w.shipment
      (done.filterMap (newShipment env d (currentInventoryPosition w) (activeCarriers env w))))
    (v := fun done => events + (done.flatMap (salesOrderEvents env d (currentInventoryPosition w))).length)
    (s := afterSalesOrders env d (currentInventoryPosition w) (activeCarriers env w) w)
    (loaded_nodup keyed env.openSalesOrders (·.status.isOpen)) (Fresh.nil _) ?_ ?_
  · have start : afterSalesOrders env d (currentInventoryPosition w) (activeCarriers env w) w [] = w := by
      simp [afterSalesOrders]
    rw [start] at loop
    exact loop
  · intro done rest fresh
    rw [List.filterMap_append] at fresh
    exact fresh.initial
  · intro done so rest split later fresh
    have loaded : ∀ so' ∈ done ++ [so], so' ∈ openSalesOrderRows env w := by
      intro so' mem
      rw [show openSalesOrderRows env w = done ++ so :: rest from split, List.append_cons]
      exact List.mem_append_left _ mem
    have mem := (isOpen_of_loaded (loaded so (by simp))).1
    have position : ∀ p wh, currentInventoryPosition
        (afterSalesOrders env d (currentInventoryPosition w) (activeCarriers env w) w done) p wh =
          currentInventoryPosition w p wh - shippable (currentInventoryPosition w) p wh done :=
      position_done (fun so' mem => (isOpen_of_loaded (loaded so' (List.mem_append_left _ mem))).2) _
    have turn := progressSalesOrder_outcome env d (currentInventoryPosition w)
      (w := afterSalesOrders env d (currentInventoryPosition w) (activeCarriers env w) w done)
      (keyed_updateAll (fun _ => progressedSalesOrder_id) keyed done) (mem_updateAll mem later)
      (undisturbed calm split position) (activeCarriers env w)
      (events + (done.flatMap (salesOrderEvents env d (currentInventoryPosition w))).length)
    refine turn.congr ?_ fun _ => ⟨?_, ?_⟩
    · rw [List.filterMap_append, show [so].filterMap _ = (newShipment env d (currentInventoryPosition w)
        (activeCarriers env w) so).toList from rfl]
      exact ⟨fun here => Fresh.append.2 ⟨fresh, here⟩, fun all => (Fresh.append.1 all).2⟩
    · rw [List.flatMap_append, List.flatMap_singleton, List.length_append, Nat.add_assoc]
    · simp only [afterSalesOrders, updateAll_append_singleton, List.flatMap_append, List.flatMap_cons,
        List.flatMap_nil, List.append_nil, List.append_assoc, List.filterMap_append]
      rfl

end

/-! ## Two runs of the loop -/

section
variable {env env' d} {w w' : World}

theorem currentInventoryPosition_congr (h : SameRows w w') :
    currentInventoryPosition w = currentInventoryPosition w' := by
  funext p wh
  exact (h.at p wh).position

theorem shippable_congr (h : SameRows w w') (p wh : String) :
    shippable stock p wh w.salesOrder = shippable stock p wh w'.salesOrder :=
  h.salesOrder.sumWhere fun so so' same => by
    obtain ⟨lines, perm, rfl⟩ := salesOrderView_eq.1 same
    have fitting : fittingQuantity stock p so = fittingQuantity stock p { so with lines := lines } :=
      sumWhere_perm _ _ perm
    rw [fitting]

theorem Uncontested.congr (calm : Uncontested w) (h : SameRows w w') : Uncontested w' where
  shipping p wh := by
    rw [← currentInventoryPosition_congr h, ← shippable_congr _ h]
    exact calm.shipping p wh
  allocating so' mem submitted available l line := by
    obtain ⟨so, memO, same⟩ := List.mem_map.1 (h.salesOrder.mem_iff.2 (List.mem_map_of_mem mem))
    obtain ⟨lines, perm, rfl⟩ := salesOrderView_eq.1 same
    rw [← currentInventoryPosition_congr h, ← shippable_congr _ h]
    refine calm.allocating so memO submitted ?_ l (perm.mem_iff.2 line)
    rw [allAvailable, ← currentInventoryPosition_congr h] at available
    rw [allAvailable, perm.all_eq]
    exact available

variable (d) in
/-- Lines in another order ship the same, line by line. -/
theorem progressedSalesOrder_view (draws : SameDraws env env') {so so' : SalesOrder}
    (same : salesOrderView so = salesOrderView so') :
    salesOrderView (progressedSalesOrder env d stock so) = salesOrderView (progressedSalesOrder env' d stock so') ∧
      (shipmentsOut env d stock so).Perm (shipmentsOut env' d stock so') ∧
      (∀ carriers, newShipment env d stock carriers so = newShipment env' d stock carriers so') ∧
      salesOrderEvents env d stock so = salesOrderEvents env' d stock so' := by
  obtain ⟨lines, perm, rfl⟩ := salesOrderView_eq.1 same
  have loaded : (loadedLines env so).Perm (loadedLines env' { so with lines := lines }) :=
    ((RowOrder.perm _ _).trans perm).trans (RowOrder.perm _ _).symm
  have busy : ships stock so = ships stock { so with lines := lines } := by
    rw [ships, ships, perm.any_eq]
  have shipped := loaded.map (shipLine stock so.warehouseId)
  have full : fullyShipped ((loadedLines env so).map (shipLine stock so.warehouseId)) =
      fullyShipped ((loadedLines env' { so with lines := lines }).map (shipLine stock so.warehouseId)) :=
    shipped.all_eq
  have view : salesOrderView (progressedSalesOrder env d stock so) =
      salesOrderView (progressedSalesOrder env' d stock { so with lines := lines }) := by
    rw [progressedSalesOrder, progressedSalesOrder, ← busy]
    dsimp only
    rw [show covered stock { so with lines := lines } = covered stock so from perm.all_eq.symm]
    split
    · split
      · exact salesOrderView_eq.2 ⟨lines, perm, rfl⟩
      · exact same
    · split
      · refine salesOrderView_eq.2 ⟨_, shipped, ?_⟩
        simp only [shippedOrder, full]
      · exact same
  refine ⟨view, ?_, fun carriers => ?_, ?_⟩
  · rw [shipmentsOut, shipmentsOut, ← busy]
    split
    · exact (loaded.filter _).map _
    · exact .refl _
  · rw [newShipment, newShipment, ← busy, full]
    have by_ : shipmentBy env d so = shipmentBy env' d { so with lines := lines } := by
      funext carrier
      rw [shipmentBy, shipmentBy, draws.shipmentId]
    rw [by_]
  · have status : (progressedSalesOrder env d stock so).status =
        (progressedSalesOrder env' d stock { so with lines := lines }).status :=
      congrArg (fun v => v.1.status) view
    rw [salesOrderEvents, salesOrderEvents, status]

theorem pickCarrier_perm {carriers carriers' : List Carrier} (h : carriers.Perm carriers')
    (distinct : (carriers.map (·.id)).Nodup) (id : Uuid) : pickCarrier carriers id = pickCarrier carriers' id := by
  unfold pickCarrier
  dsimp only
  rw [insertionSort_perm (k := (·.id)) h distinct]

theorem newShipment_carriers {carriers carriers' : List Carrier} (h : carriers.Perm carriers')
    (distinct : (carriers.map (·.id)).Nodup) :
    newShipment env d stock carriers = newShipment env d stock carriers' := by
  funext so
  rw [newShipment, newShipment, pickCarrier_perm h distinct]

theorem progressOpenSalesOrders_agrees (draws : SameDraws env env') (h : Alike w w') (calm : Uncontested w)
    (events : ℕ) :
    Agree Alike (progressOpenSalesOrders env d events w) (progressOpenSalesOrders env' d events w') := by
  have status : ∀ so so' : SalesOrder, salesOrderView so = salesOrderView so' →
      so.status.isOpen = so'.status.isOpen := by
    intro so so' same
    obtain ⟨lines, -, rfl⟩ := salesOrderView_eq.1 same
    rfl
  have loaded : SameVia salesOrderView (openSalesOrderRows env w) (openSalesOrderRows env' w') :=
    sameVia_loaded env.openSalesOrders env'.openSalesOrders h.salesOrder status
  have carriers : newShipment env' d (currentInventoryPosition w) (activeCarriers env w) =
      newShipment env' d (currentInventoryPosition w) (activeCarriers env' w') := by
    refine newShipment_carriers _ ?_ (loaded_nodup h.keyed.carrier env.carriers (·.isActive))
    rw [activeCarriers, activeCarriers, h.master]
    exact (RowOrder.perm _ _).trans (RowOrder.perm _ _).symm
  have views := fun (so so' : SalesOrder) (same : salesOrderView so = salesOrderView so') =>
    progressedSalesOrder_view d (currentInventoryPosition w) draws same
  have shipments : ((openSalesOrderRows env w).filterMap
      (newShipment env d (currentInventoryPosition w) (activeCarriers env w))).Perm
        ((openSalesOrderRows env' w').filterMap
          (newShipment env' d (currentInventoryPosition w) (activeCarriers env' w'))) := by
    rw [← carriers, List.filterMap_eq_flatMap_toList, List.filterMap_eq_flatMap_toList]
    refine loaded.flatMap fun so so' same => ?_
    rw [(views so so' same).2.2.1]
  have out := loaded.flatMap fun so so' same => (views so so' same).2.1
  have logged := loaded.flatMap fun so so' same =>
    show (salesOrderEvents env d (currentInventoryPosition w) so).Perm
        (salesOrderEvents env' d (currentInventoryPosition w) so') by
      rw [(views so so' same).2.2.2]
  have rows : SameVia salesOrderView
      (updateAll (·.id) (progressedSalesOrder env d (currentInventoryPosition w)) (openSalesOrderRows env w)
        w.salesOrder)
      (updateAll (·.id) (progressedSalesOrder env' d (currentInventoryPosition w)) (openSalesOrderRows env' w')
        w'.salesOrder) := by
    rw [openSalesOrderRows, openSalesOrderRows,
      updateAll_eq_map (fun _ => progressedSalesOrder_id) h.wf.salesOrder (RowOrder.perm _ _),
      updateAll_eq_map (fun _ => progressedSalesOrder_id) h.wf'.salesOrder (RowOrder.perm _ _)]
    refine h.salesOrder.map fun so so' same => ?_
    rw [← status so so' same]
    split
    · exact (views so so' same).1
    · exact same
  have pass := progressOpenSalesOrders_outcome env d h.wf.salesOrder calm events
  have pass' := progressOpenSalesOrders_outcome env' d h.wf'.salesOrder
    (calm.congr h.toSameRows) events
  rw [← currentInventoryPosition_congr h.toSameRows] at pass'
  refine pass.agree pass' ?_ fun fresh => ⟨by rw [logged.length_eq], ?_⟩
  · have ids := h.shipment.map (·.id)
    exact ⟨fun fresh => fresh.perm ids shipments, fun fresh => fresh.perm ids.symm shipments.symm⟩
  · refine ⟨{ h.toSameRows with
      salesOrder := ?_
      shipment := h.shipment.append shipments
      inventoryTransaction := ?_
      salesOrderLifecycleEvent := ?_ }, ?_, h.keyed, h.snapshots⟩
    · exact rows
    · exact h.inventoryTransaction.append out
    · exact h.salesOrderLifecycleEvent.append logged
    · exact { h.wf with
        salesOrder := keyed_updateAll (fun _ => progressedSalesOrder_id) h.wf.salesOrder _
        shipment := fresh.keyed h.wf.shipment }

end

end MeadowOps.Flow
