import MeadowOps.Flow.Runs

/-!
# Allocated stock against stock on hand

The availability test of a submitted order reads the ledger sum alone, where `transferable_surplus`
and `days_of_supply.sql` read the sum less what is allocated. Two orders for the same stock can
both pass it. Every other step keeps the allocated quantity within the stock on hand, so that a run
over-allocates only by allocating an order that is not `Covered`. It never does where the loop over the sales
orders starts with stock for all orders that pass the test (`RoomToAllocate`).
-/

namespace MeadowOps.Flow

open Db Lib Scheduler

/-- No more is promised than is on hand. -/
def NoOverAllocation (w : World) : Prop :=
  ∀ p wh, allocatedQuantity w p wh ≤ currentInventoryPosition w p wh

/-- Stock that is not promised to another order covers every line. -/
def Covered (w : World) (so : SalesOrder) : Prop :=
  ∀ l ∈ so.lines, allocatedQuantity w l.productId so.warehouseId + openQuantity l.productId so ≤
    currentInventoryPosition w l.productId so.warehouseId

instance (w : World) (so : SalesOrder) : Decidable (Covered w so) :=
  inferInstanceAs (Decidable (∀ l ∈ so.lines, _))

/-- What an order contributes to the allocated quantity of a pair. -/
def allocationOf (p wh : String) (so : SalesOrder) : ℤ :=
  if so.warehouseId = wh ∧ so.status.isAllocated = true then openQuantity p so else 0

theorem allocatedQuantity_eq_sum (w : World) (p wh : String) :
    allocatedQuantity w p wh = (w.salesOrder.map (allocationOf p wh)).sum :=
  sumWhere_eq_sum _ _ _

/-- An update of one order moves the allocated quantity by that order's contribution. -/
theorem allocatedQuantity_modify {w w' : World} (keyed : Keyed (·.id) w.salesOrder) {so : SalesOrder}
    (mem : so ∈ w.salesOrder) {f : SalesOrder → SalesOrder}
    (orders : w'.salesOrder = modify (·.id) so.id f w.salesOrder) (p wh : String) :
    allocatedQuantity w' p wh =
      allocatedQuantity w p wh - allocationOf p wh so + allocationOf p wh (f so) := by
  rw [allocatedQuantity_eq_sum, allocatedQuantity_eq_sum, orders, sum_map_modify keyed mem]

theorem inventoryPosition_append (xs ys : List InventoryTransaction) (p wh : String) :
    inventoryPosition (xs ++ ys) p wh = inventoryPosition xs p wh + inventoryPosition ys p wh :=
  sumWhere_append _ _ xs ys

theorem inventoryPosition_nonneg {rows : List InventoryTransaction}
    (h : ∀ t ∈ rows, 0 ≤ t.quantityDelta) (p wh : String) : 0 ≤ inventoryPosition rows p wh :=
  sumWhere_nonneg fun t ht _ => h t ht

/-- More stock, the same allocations. -/
theorem NoOverAllocation.credit {w w' : World} (h : NoOverAllocation w)
    {credits : List InventoryTransaction}
    (ledger : w'.inventoryTransaction = w.inventoryTransaction ++ credits)
    (orders : w'.salesOrder = w.salesOrder) (nonneg : ∀ t ∈ credits, 0 ≤ t.quantityDelta) :
    NoOverAllocation w' := by
  intro p wh
  have before := h p wh
  have more := inventoryPosition_nonneg nonneg p wh
  rw [currentInventoryPosition, ledger, inventoryPosition_append]
  simp only [allocatedQuantity, currentInventoryPosition, orders] at before ⊢
  omega

/-- Usable stock, unchanged. -/
theorem NoOverAllocation.of_usable {w w' : World} (h : NoOverAllocation w)
    (usable : ∀ p wh, currentInventoryPosition w' p wh - allocatedQuantity w' p wh =
      currentInventoryPosition w p wh - allocatedQuantity w p wh) : NoOverAllocation w' := by
  intro p wh
  have before := h p wh
  have same := usable p wh
  omega

theorem openQuantity_eq_zero {p : String} {so : SalesOrder} (h : ∀ l ∈ so.lines, l.productId ≠ p) :
    openQuantity p so = 0 :=
  sumWhere_eq_zero h

/-- Promising stock that is free. -/
theorem NoOverAllocation.allocate {w w' : World} (h : NoOverAllocation w)
    (keyed : Keyed (·.id) w.salesOrder) {so : SalesOrder} (mem : so ∈ w.salesOrder)
    (submitted : so.status = .submitted) {f : SalesOrder → SalesOrder}
    (same : (f so).lines = so.lines ∧ (f so).warehouseId = so.warehouseId)
    (ledger : w'.inventoryTransaction = w.inventoryTransaction)
    (orders : w'.salesOrder = modify (·.id) so.id f w.salesOrder) (covered : Covered w so) :
    NoOverAllocation w' := by
  intro p wh
  have before := h p wh
  have none : allocationOf p wh so = 0 := by simp [allocationOf, submitted, SalesOrderStatus.isAllocated]
  have after : allocationOf p wh (f so) ≤ currentInventoryPosition w p wh - allocatedQuantity w p wh := by
    unfold allocationOf
    rw [same.2]
    have lines : openQuantity p (f so) = openQuantity p so := by simp [openQuantity, same.1]
    rw [lines]
    split <;> rename_i at_wh
    · obtain ⟨rfl, -⟩ := at_wh
      by_cases wanted : ∃ l ∈ so.lines, l.productId = p
      · obtain ⟨l, hl, rfl⟩ := wanted
        have := covered l hl
        omega
      · rw [openQuantity_eq_zero fun l hl hp => wanted ⟨l, hl, hp⟩]
        omega
    · omega
  rw [allocatedQuantity_modify keyed mem orders, none, currentInventoryPosition, ledger]
  simp only [currentInventoryPosition] at after
  omega

/-- The stock that a product's shipped lines take out of the order's own warehouse. -/
theorem inventoryPosition_shipments (d : Date) (so : SalesOrder) (shipped : List SalesOrderLine)
    (p wh : String) :
    inventoryPosition (shipped.map (shipmentOf d so)) p wh =
      if so.warehouseId = wh then -sumWhere (·.productId = p) SalesOrderLine.remaining shipped else 0 := by
  rw [inventoryPosition, sumWhere_eq_sum, sumWhere_eq_sum, List.map_map]
  by_cases hwh : so.warehouseId = wh
  · rw [if_pos hwh, List.sum_neg, List.map_map]
    refine congrArg List.sum (List.map_congr_left fun l _ => ?_)
    by_cases hp : l.productId = p <;> simp [shipmentOf, hwh, hp]
  · rw [if_neg hwh]
    refine List.sum_eq_zero fun n hn => ?_
    obtain ⟨l, -, rfl⟩ := List.mem_map.1 hn
    simp [shipmentOf, hwh]

theorem inventoryPosition_shipmentOf (d : Date) (so : SalesOrder) (ledger : List InventoryTransaction)
    (l : SalesOrderLine) (p wh : String) :
    inventoryPosition (ledger ++ [shipmentOf d so l]) p wh = inventoryPosition ledger p wh -
      if so.warehouseId = wh ∧ l.productId = p then SalesOrderLine.remaining l else 0 := by
  have one := inventoryPosition_shipments d so [l] p wh
  rw [List.map_singleton, sumWhere_cons, sumWhere_nil, add_zero] at one
  rw [inventoryPosition_append, one]
  by_cases here : so.warehouseId = wh
  · by_cases product : l.productId = p
    · simp [here, product, sub_eq_add_neg]
    · simp [here, product]
  · simp [here]

/-- A fully shipped order wants nothing. -/
theorem openQuantity_fullyShipped (so : SalesOrder) {lines : List SalesOrderLine}
    (bounded : ∀ l ∈ lines, l.quantityShipped ≤ l.quantityOrdered)
    (full : fullyShipped lines = true) (p : String) : openQuantity p { so with lines := lines } = 0 := by
  refine List.sum_eq_zero fun n hn => ?_
  obtain ⟨l, hl, rfl⟩ := List.mem_map.1 hn
  have mem := List.mem_of_mem_filter hl
  have upper := bounded l mem
  have lower : l.quantityOrdered ≤ l.quantityShipped := by
    simpa using List.all_eq_true.1 full l mem
  omega

/-- What ships leaves the allocation and the stock alike. -/
theorem ship_usable {d : Date} {w w' : World} (keyed : Keyed (·.id) w.salesOrder) {so : SalesOrder}
    (mem : so ∈ w.salesOrder) (status : so.status = .allocated ∨ so.status = .partiallyShipped)
    {lines : List SalesOrderLine} (perm : lines.Perm so.lines)
    (bounded : ∀ l ∈ so.lines, l.quantityShipped ≤ l.quantityOrdered)
    (ledger : w'.inventoryTransaction = (shipLines d so lines w.inventoryTransaction).2.1)
    (orders : w'.salesOrder = modify (·.id) so.id
      (shippedOrder (shipLines d so lines w.inventoryTransaction).1) w.salesOrder) (p wh : String) :
    currentInventoryPosition w' p wh - allocatedQuantity w' p wh =
      currentInventoryPosition w p wh - allocatedQuantity w p wh := by
  obtain ⟨shipped, appended, sums⟩ := shipLines_spec d so lines w.inventoryTransaction
  have shrunk := (sums p).2
  have bounded' := shipLines_lines d so lines w.inventoryTransaction fun l hl =>
    bounded l (perm.mem_iff.1 hl)
  have isAllocated : so.status.isAllocated = true := by
    rcases status with h | h <;> rw [h] <;> rfl
  have before : openQuantity p so = sumWhere (·.productId = p) SalesOrderLine.remaining lines :=
    (sumWhere_perm _ _ perm).symm
  rw [allocatedQuantity_modify keyed mem orders, currentInventoryPosition, ledger, appended,
    inventoryPosition_append, inventoryPosition_shipments]
  generalize (shipLines d so lines w.inventoryTransaction).1 = lines' at shrunk bounded' ⊢
  have after : allocationOf p wh (shippedOrder lines' so) =
      if so.warehouseId = wh then sumWhere (·.productId = p) SalesOrderLine.remaining lines' else 0 := by
    by_cases full : fullyShipped lines' = true
    · have zero : sumWhere (·.productId = p) SalesOrderLine.remaining lines' = 0 :=
        openQuantity_fullyShipped so bounded' full p
      simp [allocationOf, shippedOrder, full, SalesOrderStatus.isAllocated, zero]
    · have isAllocated' : (shippedOrder lines' so).status.isAllocated = true := by
        simp [shippedOrder, full, SalesOrderStatus.isAllocated]
      simp only [allocationOf, isAllocated', and_true]
      rfl
  rw [after]
  simp only [allocationOf, isAllocated, and_true, before, currentInventoryPosition]
  by_cases hwh : so.warehouseId = wh
  · simp only [hwh, if_true]
    omega
  · simp only [hwh, if_false]
    omega

theorem FlowStep.noOverAllocation {d : Date} {w w' : World} (h : FlowStep Covered d w w') (wf : Wf w)
    (stocked : Stocked w) (hw : NoOverAllocation w) : NoOverAllocation w' := by
  cases h with
  | confirm po => exact hw
  | receive po lines fraction => exact hw.credit rfl rfl receipts_nonneg
  | depart t => exact hw
  | arrive t mem =>
    refine hw.credit rfl rfl fun r hr => ?_
    rw [List.mem_singleton] at hr
    subst hr
    exact (stocked.transfers t mem).le
  | transfer t _ _ _ _ positive _ surplus =>
    intro p wh
    have before := hw p wh
    have spare := transferableSurplus_le (lt_of_lt_of_le positive surplus)
    have left : t.quantity + 10 ≤ currentInventoryPosition w t.productId t.fromWarehouseId -
        allocatedQuantity w t.productId t.fromWarehouseId := by omega
    simp only [currentInventoryPosition, allocatedQuantity] at before left ⊢
    rw [inventoryPosition_append]
    by_cases donor : t.productId = p ∧ t.fromWarehouseId = wh
    · obtain ⟨rfl, rfl⟩ := donor
      simp only [inventoryPosition, sumWhere_cons, and_self, if_true, sumWhere_nil] at left ⊢
      omega
    · simp only [inventoryPosition, sumWhere_cons, if_neg donor, sumWhere_nil] at before ⊢
      omega
  | order po => exact hw
  | dispatch s => exact hw
  | deliver s => exact hw
  | allocate so mem submitted _ covered =>
    exact hw.allocate wf.salesOrder mem submitted ⟨rfl, rfl⟩ rfl rfl covered
  | ship so lines _ _ mem status perm =>
    exact hw.of_usable (ship_usable wf.salesOrder mem status perm (stocked.lines so mem) rfl rfl)
  | demand so _ _ _ submitted =>
    intro p wh
    have none : allocationOf p wh so = 0 := by
      simp [allocationOf, submitted, SalesOrderStatus.isAllocated]
    have before := hw p wh
    rw [allocatedQuantity_eq_sum] at before ⊢
    rw [List.map_append, List.sum_append, List.map_singleton, List.sum_singleton, none, add_zero]
    exact before
  | snapshot env => exact hw

/-! ## Stock for all that pass the test -/

/-- The open quantity of a pair in the submitted orders that pass the availability test. -/
def allocatableQuantity (w : World) (p wh : String) : ℤ :=
  sumWhere (fun so => so.warehouseId = wh ∧ so.status = .submitted ∧ allAvailable w so so.lines = true)
    (openQuantity p) w.salesOrder

/-- The stock of every product of a submitted order that passes the test covers what is allocated, and what all
the orders that pass it want. -/
def RoomToAllocate (w : World) : Prop :=
  ∀ so ∈ w.salesOrder, so.status = .submitted → allAvailable w so so.lines = true → ∀ l ∈ so.lines,
    allocatedQuantity w l.productId so.warehouseId + allocatableQuantity w l.productId so.warehouseId ≤
      currentInventoryPosition w l.productId so.warehouseId

instance (w : World) : Decidable (RoomToAllocate w) :=
  inferInstanceAs (Decidable (∀ so ∈ w.salesOrder, _))

/-- What an order contributes to the allocatable quantity of a pair. -/
def allocatableOf (w : World) (p wh : String) (so : SalesOrder) : ℤ :=
  if so.warehouseId = wh ∧ so.status = .submitted ∧ allAvailable w so so.lines = true then openQuantity p so else 0

theorem allocatableQuantity_eq_sum (w : World) (p wh : String) :
    allocatableQuantity w p wh = (w.salesOrder.map (allocatableOf w p wh)).sum :=
  sumWhere_eq_sum _ _ _

section Room

variable {w w' : World} {so : SalesOrder}

theorem openQuantity_nonneg (bounded : ∀ l ∈ so.lines, l.quantityShipped ≤ l.quantityOrdered) (p : String) :
    0 ≤ openQuantity p so :=
  sumWhere_nonneg fun l mem _ => sub_nonneg.2 (bounded l mem)

/-- The order is one of those that there is stock for. -/
theorem RoomToAllocate.covered (room : RoomToAllocate w) (stocked : Stocked w) (mem : so ∈ w.salesOrder)
    (submitted : so.status = .submitted) (available : allAvailable w so so.lines = true) : Covered w so := by
  intro l line
  have all := room so mem submitted available l line
  have own : openQuantity l.productId so ≤ allocatableQuantity w l.productId so.warehouseId := by
    rw [allocatableQuantity_eq_sum]
    have here : allocatableOf w l.productId so.warehouseId so = openQuantity l.productId so :=
      if_pos ⟨rfl, submitted, available⟩
    rw [← here]
    refine List.single_le_sum (fun n mem => ?_) _ (List.mem_map_of_mem mem)
    obtain ⟨other, listed, rfl⟩ := List.mem_map.1 mem
    unfold allocatableOf
    split
    · exact openQuantity_nonneg (stocked.lines other listed) _
    · exact le_rfl
  omega

theorem allAvailable_mono (less : ∀ p wh, currentInventoryPosition w' p wh ≤ currentInventoryPosition w p wh)
    (available : allAvailable w' so so.lines = true) : allAvailable w so so.lines = true := by
  rw [allAvailable, List.all_eq_true] at available ⊢
  intro l line
  have fits := of_decide_eq_true (available l line)
  exact decide_eq_true (fits.trans (less l.productId so.warehouseId))

/-- The room stays where the stock does not grow, no order begins to wait, and the stock loses no more than is
promised of it. -/
theorem RoomToAllocate.step (room : RoomToAllocate w)
    (less : ∀ p wh, currentInventoryPosition w' p wh ≤ currentInventoryPosition w p wh)
    (waiting : ∀ other ∈ w'.salesOrder, other.status = .submitted → other ∈ w.salesOrder)
    (sums : ∀ p wh, allocatedQuantity w' p wh + allocatableQuantity w' p wh - currentInventoryPosition w' p wh ≤
      allocatedQuantity w p wh + allocatableQuantity w p wh - currentInventoryPosition w p wh) :
    RoomToAllocate w' := by
  intro other listed submitted available l line
  have before := room other (waiting other listed submitted) submitted (allAvailable_mono less available) l line
  have after := sums l.productId other.warehouseId
  omega

theorem waiting_modify (keyed : Keyed (·.id) w.salesOrder) (mem : so ∈ w.salesOrder)
    {f : SalesOrder → SalesOrder} (moved : (f so).status ≠ .submitted) :
    ∀ other ∈ modify (·.id) so.id f w.salesOrder, other.status = .submitted → other ∈ w.salesOrder :=
  keyed.forall_modify (P := fun other => other.status = .submitted → other ∈ w.salesOrder)
    (fun _ listed _ => listed) mem fun waits => absurd waits moved

/-- An iteration that allocates an order moves it from those that may be to those that are. -/
theorem RoomToAllocate.allocate (room : RoomToAllocate w) (keyed : Keyed (·.id) w.salesOrder)
    (mem : so ∈ w.salesOrder) (submitted : so.status = .submitted) (available : allAvailable w so so.lines = true)
    {f : SalesOrder → SalesOrder} (allocated : (f so).status = .allocated)
    (same : (f so).lines = so.lines ∧ (f so).warehouseId = so.warehouseId)
    (ledger : w'.inventoryTransaction = w.inventoryTransaction)
    (orders : w'.salesOrder = modify (·.id) so.id f w.salesOrder) : RoomToAllocate w' := by
  have stock : currentInventoryPosition w' = currentInventoryPosition w := by
    funext p wh
    rw [currentInventoryPosition, ledger, currentInventoryPosition]
  refine room.step (fun p wh => (congrFun₂ stock p wh).le) (orders ▸ waiting_modify keyed mem ?_) fun p wh => ?_
  · simp [allocated]
  · have contribution : allocatableOf w' p wh = allocatableOf w p wh := by
      funext other
      have test : allAvailable w' other other.lines = allAvailable w other other.lines := by
        rw [allAvailable, allAvailable, stock]
      rw [allocatableOf, allocatableOf, test]
    have before : allocationOf p wh so = 0 := by simp [allocationOf, submitted, SalesOrderStatus.isAllocated]
    have gone : allocatableOf w p wh (f so) = 0 := by simp [allocatableOf, allocated]
    have wants : openQuantity p (f so) = openQuantity p so := by rw [openQuantity, openQuantity, same.1]
    have moved : allocationOf p wh (f so) = allocatableOf w p wh so := by
      rw [allocationOf, allocatableOf, wants, same.2, allocated, submitted, available]
      simp [SalesOrderStatus.isAllocated]
    rw [stock, allocatedQuantity_modify keyed mem orders, allocatableQuantity_eq_sum w', orders, contribution,
      sum_map_modify keyed mem, ← allocatableQuantity_eq_sum, before, gone, moved]
    omega

theorem shipLines_position_le (d : Date) (so : SalesOrder) (lines : List SalesOrderLine)
    (ledger : List InventoryTransaction) (p wh : String) :
    inventoryPosition (shipLines d so lines ledger).2.1 p wh ≤ inventoryPosition ledger p wh := by
  induction lines generalizing ledger with
  | nil => exact le_rfl
  | cons l lines ih =>
    rcases shipLines_cons d so l lines ledger with ⟨-, stays⟩ | ⟨wants, -, ships⟩
    · rw [stays]
      exact ih ledger
    · rw [ships]
      refine (ih _).trans ?_
      rw [inventoryPosition_shipmentOf]
      split <;> omega

/-- What ships was promised before, and takes stock from the orders that wait. -/
theorem RoomToAllocate.ship {d : Date} {lines : List SalesOrderLine} (room : RoomToAllocate w) (stocked : Stocked w)
    (keyed : Keyed (·.id) w.salesOrder) (mem : so ∈ w.salesOrder)
    (status : so.status = .allocated ∨ so.status = .partiallyShipped) (perm : lines.Perm so.lines)
    (ledger : w'.inventoryTransaction = (shipLines d so lines w.inventoryTransaction).2.1)
    (orders : w'.salesOrder = modify (·.id) so.id
      (shippedOrder (shipLines d so lines w.inventoryTransaction).1) w.salesOrder) : RoomToAllocate w' := by
  have less : ∀ p wh, currentInventoryPosition w' p wh ≤ currentInventoryPosition w p wh := by
    intro p wh
    rw [currentInventoryPosition, ledger]
    exact shipLines_position_le d so lines _ p wh
  have later : (shippedOrder (shipLines d so lines w.inventoryTransaction).1 so).status ≠ .submitted := by
    rw [shippedOrder]
    dsimp only
    split <;> decide
  have before : so.status ≠ .submitted := by
    rcases status with status | status <;> simp [status]
  refine room.step less (orders ▸ waiting_modify keyed mem later) fun p wh => ?_
  have usable := ship_usable keyed mem status perm (stocked.lines so mem) ledger orders p wh
  have fewer : allocatableQuantity w' p wh ≤ allocatableQuantity w p wh := by
    have stays : allocatableOf w' p wh so = 0 := if_neg fun h => before h.2.1
    have gone : allocatableOf w' p wh (shippedOrder (shipLines d so lines w.inventoryTransaction).1 so) = 0 :=
      if_neg fun h => later h.2.1
    rw [allocatableQuantity_eq_sum, orders, sum_map_modify keyed mem, stays, gone, sub_zero, add_zero,
      allocatableQuantity_eq_sum]
    refine List.sum_le_sum fun other listed => ?_
    unfold allocatableOf
    by_cases waits : other.warehouseId = wh ∧ other.status = .submitted ∧ allAvailable w' other other.lines = true
    · rw [if_pos waits, if_pos ⟨waits.1, waits.2.1, allAvailable_mono less waits.2.2⟩]
    · rw [if_neg waits]
      split
      · exact openQuantity_nonneg (stocked.lines other listed) p
      · exact le_rfl
  omega

variable (env : TickEnv) {d : Date}

/-- An iteration of the loop over the sales orders keeps the room, also where it raises. -/
theorem progressSalesOrder_room (wf : Wf w) (stocked : Stocked w) (room : RoomToAllocate w) (mem : so ∈ w.salesOrder)
    (isOpen : so.status.isOpen = true) (carriers : List Carrier) (events : ℕ) :
    RoomToAllocate (endState (progressSalesOrder env d carriers events so.id w)) := by
  have found : lookup (·.id) so.id w.salesOrder = some so := lookup_of_mem wf.salesOrder mem
  have perm := (env.salesOrderLines so.id).perm so.lines
  simp only [progressSalesOrder, found]
  by_cases submitted : so.status = .submitted
  · rw [if_pos submitted]
    split <;> rename_i available
    · have available' : allAvailable w so so.lines = true := by
        rw [allAvailable, List.all_eq_true] at available ⊢
        exact fun l hl => available l (perm.mem_iff.2 hl)
      exact room.allocate wf.salesOrder mem submitted available' rfl ⟨rfl, rfl⟩ rfl rfl
    · exact room
  · have status : so.status = .allocated ∨ so.status = .partiallyShipped := by
      revert isOpen submitted
      cases so.status <;> simp [SalesOrderStatus.isOpen]
    rw [if_neg submitted]
    split
    · exact room
    · split
      · exact room.ship stocked wf.salesOrder mem status perm rfl rfl
      · split <;> exact room.ship stocked wf.salesOrder mem status perm rfl rfl

/-- A loop that starts with the room allocates only covered orders, in whatever order they come. -/
theorem allocatesOnly_of_room (carriers : List Carrier) {ids : List Uuid} (distinct : ids.Nodup) (wf : Wf w)
    (stocked : Stocked w) (room : RoomToAllocate w)
    (loaded : ∀ id ∈ ids, ∃ so ∈ w.salesOrder, so.id = id ∧ so.status.isOpen = true) :
    AllocatesOnly env Covered d carriers ids w := by
  induction ids generalizing w with
  | nil => trivial
  | cons id ids ih =>
    obtain ⟨fresh, rest⟩ := List.nodup_cons.1 distinct
    refine ⟨fun so mem _ submitted available => room.covered stocked mem submitted available, ?_⟩
    obtain ⟨so, mem, rfl, isOpen⟩ := loaded id List.mem_cons_self
    obtain ⟨steps, others⟩ := progressSalesOrder_step env (A := AnyAllocation) (d := d) wf carriers 0 mem isOpen
      fun _ _ => trivial
    refine ih rest (steps.wf wf) ?_ (progressSalesOrder_room env wf stocked room mem isOpen carriers 0) ?_
    · exact FlowSteps.invariant (fun _ _ step _ stocked => step.stocked stocked) wf stocked steps
    · intro id later
      obtain ⟨other, listed, same, isOpen⟩ := loaded id (List.mem_cons_of_mem _ later)
      exact ⟨other, others other listed fun here => fresh (here ▸ same.symm ▸ later), same, isOpen⟩

end Room

/-! ## Runs -/

/-- The condition on a step of a run: where a tick comes to its loop over the sales orders, the stock covers what is
allocated and all submitted orders that pass the test. -/
def StartsWithRoom (t : Tx (Database World)) : RunLabel → Prop
  | .tick env d => ∀ events w, beforeAllocation env d t.pending.tables = .ok events w → RoomToAllocate w
  | _ => True

theorem EmptyWorld.noOverAllocation {w : World} (h : EmptyWorld w) : NoOverAllocation w := by
  intro p wh
  rw [h]
  exact le_refl _

/-- The passes before the loop over the sales orders are steps of the flow. -/
theorem beforeAllocation_steps {env : TickEnv} {d : Date} {w w₁ : World} {events : ℕ} (wf : Wf w)
    (run : beforeAllocation env d w = .ok events w₁) : FlowSteps AnyAllocation d w w₁ := by
  have steps : Moves AnyAllocation d w (beforeAllocation env d) := by
    unfold beforeAllocation
    refine (progressPurchaseOrders_moves env wf).bind fun _ => ?_
    refine (progressWarehouseTransfers_moves env wf).bind fun _ => ?_
    refine (createWarehouseTransfersIfNeeded_moves env).bind fun _ => ?_
    refine (createPurchaseOrdersIfNeeded_moves env).bind fun _ => ?_
    exact (progressShipments_moves env wf).bind fun _ => Keeps.pure _
  have reached := steps w .refl
  rwa [run] at reached

theorem tickAllocatesOnly_of_room {env : TickEnv} {d : Date} {w : World} (wf : Wf w) (stocked : Stocked w)
    (room : ∀ events w₁, beforeAllocation env d w = .ok events w₁ → RoomToAllocate w₁) :
    TickAllocatesOnly env Covered d w := by
  unfold TickAllocatesOnly
  cases run : beforeAllocation env d w with
  | error e w₁ => trivial
  | ok events w₁ =>
    have steps := beforeAllocation_steps wf run
    refine allocatesOnly_of_room env _ (loaded_nodup (steps.wf wf).salesOrder _ _) (steps.wf wf)
      (FlowSteps.invariant (fun _ _ step _ stocked => step.stocked stocked) wf stocked steps) (room events w₁ run) ?_
    intro id listed
    obtain ⟨so, row, rfl⟩ := List.mem_map.1 listed
    obtain ⟨mem, isOpen⟩ := List.mem_filter.1 ((RowOrder.mem_rows _).1 row)
    exact ⟨so, mem, rfl, isOpen⟩

/-- In a run whose loops over the sales orders all start with stock for what is allocated and for all that pass
the test, no state over-allocates. -/
theorem no_over_allocation_of_room {t : Tx (Database World)} (h : (flowRuns EmptyWorld).Reach StartsWithRoom t) :
    NoOverAllocation t.committed.tables ∧ NoOverAllocation t.pending.tables := by
  have inv := flowRuns_invariant (I := fun w => Stocked w ∧ NoOverAllocation w)
    (fun _ h => h.wf) (fun _ h => ⟨h.stockStart.stocked, h.noOverAllocation⟩)
    (fun t env d events w _ room wf hI run => ?_)
    (fun _ _ hI => ⟨{ hI.1 with }, hI.2⟩) h
  · exact ⟨inv.1.2.2, inv.2.2.2⟩
  · have steps := scheduledFlow_steps_of env wf (tickAllocatesOnly_of_room wf hI.1 room)
    rw [run] at steps
    exact FlowSteps.invariant (I := fun w => Stocked w ∧ NoOverAllocation w)
      (fun _ _ step wf hI => ⟨step.stocked hI.1, step.noOverAllocation wf hI.1 hI.2⟩) wf hI steps

/-- Boxes at one warehouse, ordered by `customers`. -/
def boxesFor (customers : List String) : Master where
  product := [⟨"boxes", .corrugatedPackaging, true⟩]
  warehouse := [⟨"main", true⟩]
  supplier := [⟨"acme", "corrugated", 1, .low, true⟩]
  customer := customers.map fun c => ⟨c, "main", true⟩
  carrier := []

theorem zero_in_unit : 0 ≤ (0 : ℚ) ∧ (0 : ℚ) < 1 := by decide +kernel

theorem nine_tenths_in_unit : 0 ≤ (9 / 10 : ℚ) ∧ (9 / 10 : ℚ) < 1 := by decide +kernel

/-- Every customer orders twenty on Monday only, and deliveries arrive in full. -/
def orderOnMonday : TickEnv := TickEnv.inOrder fun d purpose =>
  match purpose with
  | .demand _ =>
    if d = monday then Rng.greatest 0 zero_in_unit else Rng.greatest (9 / 10) nine_tenths_in_unit
  | _ => Rng.greatest (9 / 10) nine_tenths_in_unit

def beforeOrders (customers : List String) : Database World :=
  ⟨⟨monday - 1, .running⟩, [], World.empty (boxesFor customers)⟩

def threeDays : List RunLabel :=
  [.tick orderOnMonday monday, .tick orderOnMonday (monday + 1), .tick orderOnMonday (monday + 2), .commit]

/-- The twenty boxes of Wednesday are room for the order of one customer, and they are promised to it. -/
theorem no_over_allocation_oneCustomer :
    let w := (threeDays.foldl runStep (Tx.start (beforeOrders ["left"]))).committed.tables
    NoOverAllocation w ∧ w.salesOrder.map (·.status) = [.allocated] ∧
      allocatedQuantity w "boxes" "main" = 20 ∧ currentInventoryPosition w "boxes" "main" = 20 := by
  have room : ∀ (d : Date) (w : World),
      RoomToAllocate (endState (beforeAllocation orderOnMonday d w)) →
      ∀ events w₁, beforeAllocation orderOnMonday d w = .ok events w₁ → RoomToAllocate w₁ := by
    intro d w here events w₁ run
    rwa [run] at here
  refine ⟨(no_over_allocation_of_room (.next (.next (.next (.next
    (.start ⟨beforeOrders ["left"], rfl, emptyWorld _⟩)
    (show StartsWithRoom _ (.tick orderOnMonday monday) from room _ _ (by decide +kernel)) rfl)
    (show StartsWithRoom _ (.tick orderOnMonday (monday + 1)) from room _ _ (by decide +kernel)) rfl)
    (show StartsWithRoom _ (.tick orderOnMonday (monday + 2)) from room _ _ (by decide +kernel)) rfl)
    (show StartsWithRoom _ .commit from trivial) rfl)).1, ?_⟩
  decide +kernel

/-- Two customers order twenty each, twenty arrive on Wednesday, and both orders are allocated. -/
theorem over_allocation_twoCustomers :
    ∃ t, (flowRuns EmptyWorld).Reachable t ∧ ¬ NoOverAllocation t.committed.tables :=
  ⟨threeDays.foldl runStep (Tx.start (beforeOrders ["left", "right"])),
    flowRuns_follow (emptyWorld _) threeDays,
    fun h => absurd (h "boxes" "main") (by decide +kernel)⟩

end MeadowOps.Flow
