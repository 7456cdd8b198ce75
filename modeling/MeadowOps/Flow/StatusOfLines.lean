import MeadowOps.Flow.AuditTrail
import MeadowOps.Flow.Shipments

/-!
# What the lines and dates of a document tell of its status

A purchase order has one line, whose received quantity gives the status up to the confirmation; the lines of a
sales order are untouched or shipped in full, and their number gives the status up to the allocation, which the
promise tells. The delivery date tells a delivered shipment from one that is not. Of a document that nothing has
happened to but its first step (a confirmed order, a shipment or a transfer that has left) the row tells no more
than of a new one, and which transfers are completed only the ledger says.
-/

namespace MeadowOps.Flow

open Db Lib Scheduler

/-- The statuses of a purchase order with this line. -/
def PurchaseOrderLine.statuses (l : PurchaseOrderLine) : List PurchaseOrderStatus :=
  if l.quantityReceived = 0 then [.submitted, .confirmed]
  else if l.quantityReceived < l.quantityOrdered then [.partiallyReceived]
  else [.received]

/-- The statuses of a sales order with these lines. -/
def statusesOf (lines : List SalesOrderLine) : List SalesOrderStatus :=
  if lines.all (fun l => decide (l.quantityShipped = 0)) then [.submitted, .allocated]
  else if lines.all (fun l => decide (l.quantityShipped = l.quantityOrdered)) then [.shipped]
  else [.partiallyShipped]

/-- Something is ordered, and no more has come than that. -/
structure PurchaseOrderLine.Legal (l : PurchaseOrderLine) : Prop where
  ordered : 0 < l.quantityOrdered
  least : 0 ≤ l.quantityReceived
  most : l.quantityReceived ≤ l.quantityOrdered

/-- A line ships as a whole. -/
structure SalesOrderLine.Legal (l : SalesOrderLine) : Prop where
  ordered : 0 < l.quantityOrdered
  whole : l.quantityShipped = 0 ∨ l.quantityShipped = l.quantityOrdered

/-- The one line of the order tells its status, except whether it is confirmed. -/
def PurchaseOrder.Told (po : PurchaseOrder) : Prop :=
  ∃ l, po.lines = [l] ∧ PurchaseOrderLine.Legal l ∧ po.status ∈ PurchaseOrderLine.statuses l

/-- The lines of the order and its promised date tell its status. -/
structure SalesOrder.Told (so : SalesOrder) : Prop where
  some : so.lines ≠ []
  lines : ∀ l ∈ so.lines, SalesOrderLine.Legal l
  status : so.status ∈ statusesOf so.lines
  promise : so.promisedDate = none ↔ so.status = .submitted

/-- The delivery date tells whether the shipment has arrived; whether it has left nothing tells. -/
structure Shipment.Told (s : Shipment) : Prop where
  status : s.status = .pending ∨ s.status = .inTransit ∨ s.status = .delivered
  delivery : s.actualDeliveryDate.isSome ↔ s.status = .delivered

/-- The transfer has one of the three statuses that the flow gives, and moves something somewhere else. -/
structure WarehouseTransfer.Told (t : WarehouseTransfer) : Prop where
  status : t.status = .pending ∨ t.status = .inTransit ∨ t.status = .completed
  quantity : 0 < t.quantity
  apart : t.fromWarehouseId ≠ t.toWarehouseId

/-- Every document is told by its lines and dates, as far as they tell it. -/
structure StatusesTold (w : World) : Prop where
  purchaseOrders : ∀ po ∈ w.purchaseOrder, PurchaseOrder.Told po
  salesOrders : ∀ so ∈ w.salesOrder, SalesOrder.Told so
  shipments : ∀ s ∈ w.shipment, Shipment.Told s
  transfers : ∀ t ∈ w.warehouseTransfer, WarehouseTransfer.Told t

/-! ## Purchase orders -/

theorem receiveLine_legal (fraction : Option ℚ) {l : PurchaseOrderLine} (h : PurchaseOrderLine.Legal l) :
    PurchaseOrderLine.Legal (receiveLine fraction l) ∧ 0 < (receiveLine fraction l).quantityReceived ∧
      (fullyReceives fraction l = true ↔
        (receiveLine fraction l).quantityReceived = (receiveLine fraction l).quantityOrdered) := by
  obtain ⟨ordered, least, most⟩ := h
  rw [fullyReceives, Bool.or_eq_true, decide_eq_true_iff, decide_eq_true_iff, receiveLine]
  by_cases finished : PurchaseOrderLine.remaining l ≤ 0
  · rw [if_pos finished]
    rw [PurchaseOrderLine.remaining] at finished
    exact ⟨⟨ordered, least, most⟩, by omega, ⟨fun _ => by omega, fun _ => .inl finished⟩⟩
  · rw [if_neg finished]
    obtain ⟨begun, bounded⟩ := receiveQuantity_bounds fraction (not_le.1 finished)
    simp only [PurchaseOrderLine.remaining] at finished begun bounded ⊢
    generalize receiveQuantity fraction (l.quantityOrdered - l.quantityReceived) = q at begun bounded ⊢
    have least' : 0 ≤ l.quantityReceived + q := by omega
    have most' : l.quantityReceived + q ≤ l.quantityOrdered := by omega
    exact ⟨⟨ordered, least', most'⟩, by omega, by omega⟩

theorem PurchaseOrder.Told.receive {po : PurchaseOrder} (h : PurchaseOrder.Told po)
    {lines : List PurchaseOrderLine} (perm : lines.Perm po.lines) (fraction : Option ℚ) :
    PurchaseOrder.Told (receivedOrder fraction lines po) := by
  obtain ⟨l, single, legal, -⟩ := h
  rw [single, List.perm_singleton] at perm
  subst perm
  obtain ⟨still, begun, full⟩ := receiveLine_legal fraction legal
  refine ⟨receiveLine fraction l, rfl, still, ?_⟩
  rw [PurchaseOrderLine.statuses, if_neg begun.ne', receivedOrder, List.all_cons, List.all_nil, Bool.and_true]
  dsimp only
  by_cases done : fullyReceives fraction l = true
  · rw [if_pos done, if_neg (by rw [full.1 done]; exact lt_irrefl _)]
    exact List.mem_singleton_self _
  · rw [if_neg done, if_pos (lt_of_le_of_ne still.most fun same => done (full.2 same))]
    exact List.mem_singleton_self _

/-- An order that waits has received nothing. -/
theorem PurchaseOrder.Told.confirm {po : PurchaseOrder} (h : PurchaseOrder.Told po)
    (status : po.status = .submitted) : PurchaseOrder.Told { po with status := .confirmed } := by
  obtain ⟨l, single, legal, told⟩ := h
  refine ⟨l, single, legal, ?_⟩
  rw [status] at told
  unfold PurchaseOrderLine.statuses at told ⊢
  split at told
  · simp_all
  · split at told <;> simp at told

/-! ## Sales orders -/

section Sales

variable {d : Date}

theorem shipLines_legal (so : SalesOrder) {lines : List SalesOrderLine} (ledger : List InventoryTransaction)
    (h : ∀ l ∈ lines, SalesOrderLine.Legal l) :
    ∀ l ∈ (shipLines d so lines ledger).1, SalesOrderLine.Legal l :=
  shipLines_forall d so (fun _ legal => ⟨legal.ordered, .inr rfl⟩) lines ledger h

/-- A line has shipped in full where the loop says that one did. -/
theorem shipLines_any (so : SalesOrder) {lines : List SalesOrderLine} (ledger : List InventoryTransaction)
    (any : (shipLines d so lines ledger).2.2 = true) :
    ∃ l ∈ (shipLines d so lines ledger).1, l.quantityShipped = l.quantityOrdered := by
  induction lines generalizing ledger with
  | nil => cases any
  | cons l lines ih =>
    rcases shipLines_cons d so l lines ledger with ⟨-, eq⟩ | ⟨-, -, eq⟩
    · rw [eq] at any ⊢
      obtain ⟨r, mem, full⟩ := ih ledger any
      exact ⟨r, List.mem_cons_of_mem _ mem, full⟩
    · rw [eq]
      exact ⟨_, List.mem_cons_self, rfl⟩

theorem fullyShipped_iff {lines : List SalesOrderLine} (legal : ∀ l ∈ lines, SalesOrderLine.Legal l) :
    fullyShipped lines = lines.all fun l => decide (l.quantityShipped = l.quantityOrdered) := by
  unfold fullyShipped
  rw [Bool.eq_iff_iff, List.all_eq_true, List.all_eq_true]
  refine forall₂_congr fun l mem => ?_
  have whole := (legal l mem).whole
  have ordered := (legal l mem).ordered
  rw [decide_eq_true_iff, decide_eq_true_iff]
  omega

/-- The lines and the status of a sales order. -/
structure LinesTold (so : SalesOrder) : Prop where
  lines : ∀ l ∈ so.lines, SalesOrderLine.Legal l
  status : so.status ∈ statusesOf so.lines

theorem LinesTold.ship {so : SalesOrder} (h : LinesTold so) {lines : List SalesOrderLine}
    (perm : lines.Perm so.lines) (ledger : List InventoryTransaction)
    (any : (shipLines d so lines ledger).2.2 = true) :
    LinesTold (shippedOrder (shipLines d so lines ledger).1 so) := by
  have legal := shipLines_legal (d := d) so ledger fun l mem => h.lines l (perm.mem_iff.1 mem)
  refine ⟨legal, ?_⟩
  obtain ⟨l, mem, full⟩ := shipLines_any so ledger any
  have begun : ¬ ((shipLines d so lines ledger).1.all fun l => decide (l.quantityShipped = 0)) = true := by
    intro none
    have zero := of_decide_eq_true (List.all_eq_true.1 none l mem)
    have ordered := (legal l mem).ordered
    omega
  rw [shippedOrder, statusesOf, if_neg begun, ← fullyShipped_iff legal]
  dsimp only
  split <;> exact List.mem_singleton_self _

theorem LinesTold.allocate {so : SalesOrder} (h : LinesTold so) (status : so.status = .submitted)
    (promised : Option Date) : LinesTold { so with status := .allocated, promisedDate := promised } := by
  refine ⟨h.lines, ?_⟩
  have told := h.status
  rw [status] at told
  unfold statusesOf at told ⊢
  split at told
  · simp_all
  · split at told <;> simp at told

theorem LinesTold.created {so : SalesOrder} (lines : ∀ l ∈ so.lines, 1 ≤ l.quantityOrdered ∧ l.quantityShipped = 0)
    (status : so.status = .submitted) : LinesTold so := by
  refine ⟨fun l mem => ⟨(lines l mem).1, .inl (lines l mem).2⟩, ?_⟩
  have none : so.lines.all (fun l => decide (l.quantityShipped = 0)) = true :=
    List.all_eq_true.2 fun l mem => decide_eq_true (lines l mem).2
  rw [status, statusesOf, if_pos none]
  exact List.mem_cons_self

end Sales

/-! ## Steps -/

/-- What every step keeps. -/
structure StepTold (w : World) : Prop where
  purchaseOrders : ∀ po ∈ w.purchaseOrder, PurchaseOrder.Told po
  salesOrders : ∀ so ∈ w.salesOrder, LinesTold so
  transfers : ∀ t ∈ w.warehouseTransfer, WarehouseTransfer.Told t

theorem FlowStep.stepTold {A : World → SalesOrder → Prop} {d : Date} {w w' : World} (h : FlowStep A d w w')
    (wf : Wf w) (hw : StepTold w) : StepTold w' := by
  cases h with
  | confirm po mem status =>
    exact { hw with
      purchaseOrders := forall_modify hw.purchaseOrders fun _ _ _ => (hw.purchaseOrders po mem).confirm status }
  | receive po lines fraction mem status due perm =>
    exact { hw with
      purchaseOrders := forall_modify hw.purchaseOrders fun _ _ _ =>
        (hw.purchaseOrders po mem).receive perm fraction }
  | depart t mem status =>
    have told := hw.transfers t mem
    exact { hw with
      transfers := wf.warehouseTransfer.forall_modify hw.transfers mem
        ⟨.inr (.inl rfl), told.quantity, told.apart⟩ }
  | arrive t mem status due =>
    have told := hw.transfers t mem
    exact { hw with
      transfers := wf.warehouseTransfer.forall_modify hw.transfers mem
        ⟨.inr (.inr rfl), told.quantity, told.apart⟩ }
  | transfer t fresh noOrder noTransfer distinct positive deficit surplus date status =>
    refine { hw with transfers := fun t' mem => ?_ }
    rcases List.mem_append.1 mem with old | new
    · exact hw.transfers t' old
    · rw [List.mem_singleton.1 new]
      exact ⟨.inl status, positive, distinct⟩
  | order po p quantity fresh lines minimum noOrder noTransfer date expected status =>
    refine { hw with purchaseOrders := fun po' mem => ?_ }
    rcases List.mem_append.1 mem with old | new
    · exact hw.purchaseOrders po' old
    · rw [List.mem_singleton.1 new]
      rw [minimumReorderQuantity] at minimum
      refine ⟨_, lines, ⟨by dsimp only; omega, le_rfl, by dsimp only; omega⟩, ?_⟩
      rw [PurchaseOrderLine.statuses, if_pos rfl, status]
      exact List.mem_cons_self
  | dispatch s => exact { hw with }
  | deliver s => exact { hw with }
  | allocate so mem status =>
    exact { hw with
      salesOrders := wf.salesOrder.forall_modify hw.salesOrders mem
        ((hw.salesOrders so mem).allocate status _) }
  | ship so lines shipments events mem status perm any =>
    exact { hw with
      salesOrders := wf.salesOrder.forall_modify hw.salesOrders mem ((hw.salesOrders so mem).ship perm _ any) }
  | demand so fresh lines date status =>
    refine { hw with salesOrders := fun so' mem => ?_ }
    rcases List.mem_append.1 mem with old | new
    · exact hw.salesOrders so' old
    · rw [List.mem_singleton.1 new]
      exact .created lines status
  | snapshot env => exact { hw with }

/-! ## What only a tick that returns keeps -/

/-- A shipment after the day's pass. -/
theorem Shipment.Told.advance {s : Shipment} (h : Shipment.Told s) (rng : Date → Purpose → Rng)
    (carriers : List Carrier) (d : Date) : Shipment.Told (advanceShipment rng carriers d s) := by
  have delivery := h.delivery
  unfold advanceShipment
  split <;> rename_i status
  · rw [status] at delivery
    exact ⟨.inr (.inl rfl), delivery.trans ⟨nofun, nofun⟩⟩
  · split
    · exact h
    · split
      · exact ⟨.inr (.inr rfl), fun _ => rfl, fun _ => rfl⟩
      · exact h
  · exact h
  · exact h

theorem NewShipment.told {d : Date} {m : Master} {s : Shipment} (h : NewShipment d m s) : Shipment.Told s := by
  refine ⟨.inl h.status, ?_⟩
  rw [h.undelivered, h.status]
  exact ⟨nofun, nofun⟩

/-- The lines and the promise of a sales order. -/
structure Promised (so : SalesOrder) : Prop where
  some : so.lines ≠ []
  promise : so.promisedDate = none ↔ so.status = .submitted

/-- The sales orders of a world with distinct ids. -/
structure AllPromised (w : World) : Prop where
  keyed : Keyed (·.id) w.salesOrder
  orders : ∀ so ∈ w.salesOrder, Promised so

variable (env : TickEnv) {d : Date}

theorem OrderProgress.allPromised {carriers : List Carrier} {so : SalesOrder} {w w' : World}
    (h : OrderProgress env d carriers so w w') (mem : so ∈ w.salesOrder) (hw : AllPromised w) :
    AllPromised w' := by
  have promised := hw.orders so mem
  cases h with
  | waits => exact hw
  | allocated submitted =>
    refine ⟨hw.keyed.modify fun _ same => same, hw.keyed.forall_modify hw.orders mem ?_⟩
    exact ⟨promised.some, nofun, nofun⟩
  | shipped lines shipments status perm =>
    refine ⟨hw.keyed.modify fun _ same => same, hw.keyed.forall_modify hw.orders mem ⟨?_, ?_⟩⟩
    · intro none
      have length := length_shipLines d so lines w.inventoryTransaction
      rw [show (shipLines d so lines w.inventoryTransaction).1 = [] from none, List.length_nil] at length
      have empty := perm.length_eq
      rw [← length, eq_comm, List.length_eq_zero_iff] at empty
      exact promised.some empty
    · have later : so.promisedDate ≠ none := by
        intro none
        rcases status with status | status <;> rw [promised.promise.1 none] at status <;> cases status
      refine ⟨fun none => absurd none later, fun submitted => ?_⟩
      rw [shippedOrder] at submitted
      dsimp only at submitted
      split at submitted <;> cases submitted

/-- The sampled products of a demand are at least one, where the code goes on. -/
theorem createSalesOrder_allPromised (productIds : List String) (created : ℕ) (customer : Customer) :
    Keeps AllPromised (createSalesOrder env d productIds created customer) := by
  intro w hw
  unfold createSalesOrder
  dsimp only
  split
  · exact hw
  · split <;> rename_i chosen
    · exact hw
    · cases inserted : insertSalesOrder? _ w.salesOrder with
      | none => exact hw
      | some rows =>
        obtain ⟨rfl, fresh⟩ := insertSalesOrder?_eq_some inserted
        refine ⟨hw.keyed.append fresh, fun so mem => ?_⟩
        rcases List.mem_append.1 mem with old | new
        · exact hw.orders so old
        · rw [List.mem_singleton.1 new]
          refine ⟨?_, fun _ => rfl, fun _ => rfl⟩
          cases products : pickDemandProducts (env.rng d (.demand customer.id)) 1 productIds with
          | nil =>
            rw [products] at chosen
            exact absurd rfl chosen
          | cons p ps => exact List.cons_ne_nil _ _

theorem createSalesOrdersIfNeeded_allPromised :
    Keeps AllPromised (createSalesOrdersIfNeeded env d) := by
  refine Keeps.get_bind fun w hw => Keeps.foldlM (fun created customer _ => ?_) 0 w hw
  exact createSalesOrder_allPromised env _ created customer

theorem scheduledFlow_allPromised {w w' : World} {events : ℕ}
    (run : scheduledFlow env d w = .ok events w') (hw : AllPromised w) : AllPromised w' := by
  obtain ⟨passes⟩ := salesPasses_of_ok env run
  have same := (progressShipments_orders env).of_ok
    (SameOrders.mk passes.sameBefore.1.1 passes.sameBefore.1.2) passes.shipments
  have before : AllPromised passes.progressed := by
    refine ⟨?_, ?_⟩ <;> rw [same.orders]
    · exact hw.keyed
    · exact hw.orders
  have shipped : AllPromised passes.shipped :=
    progressOpenSalesOrders_ok env (I := AllPromised) (fun _ h => h.keyed)
      (fun so w w' mem step hw => step.allPromised env mem hw) rfl before passes.orders
  have ordered := (createSalesOrdersIfNeeded_allPromised env).of_ok shipped passes.demand
  rw [passes.snapshot]
  exact ⟨ordered.keyed, ordered.orders⟩

/-! ## A tick -/

theorem statusesTold_empty (m : Master) : StatusesTold (World.empty m) := by
  constructor <;> exact fun _ mem => nomatch mem

/-- A tick that returns keeps the statuses and the lines in step. -/
theorem scheduledFlow_statusesTold {w w' : World} {events : ℕ} (wf : Wf w) (hw : StatusesTold w)
    (run : scheduledFlow env d w = .ok events w') : StatusesTold w' := by
  have steps := scheduledFlow_steps env d wf
  rw [run] at steps
  have told : StepTold w' := FlowSteps.invariant (fun _ _ step wf hw => step.stepTold wf hw) wf
    ⟨hw.purchaseOrders, fun so mem => ⟨(hw.salesOrders so mem).lines, (hw.salesOrders so mem).status⟩,
      hw.transfers⟩ steps
  have promised := scheduledFlow_allPromised env run
    ⟨wf.salesOrder, fun so mem => ⟨(hw.salesOrders so mem).some, (hw.salesOrders so mem).promise⟩⟩
  constructor
  case purchaseOrders => exact told.purchaseOrders
  case transfers => exact told.transfers
  case salesOrders =>
    intro so mem
    have lines := told.salesOrders so mem
    have promise := promised.orders so mem
    exact ⟨promise.some, lines.lines, lines.status, promise.promise⟩
  case shipments =>
    intro s mem
    obtain ⟨new, eq, created⟩ := (scheduledFlow_shipments env wf run).shipments
    rw [eq] at mem
    rcases List.mem_append.1 mem with old | added
    · obtain ⟨s, known, rfl⟩ := List.mem_map.1 old
      exact (hw.shipments s known).advance _ _ d
    · exact (created s added).told

end MeadowOps.Flow
