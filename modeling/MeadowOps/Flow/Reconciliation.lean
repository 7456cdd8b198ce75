import MeadowOps.Flow.Runs
import MeadowOps.Lib.Postings

/-!
# The ledger reconciles with the documents

Purchase orders are posted as receipts, sales orders as shipments, and a transfer as one outbound
and, once completed, one inbound movement. Each of the four is an instance of `Lib.Posted`, kept
apart by the type of the movement, so a step of the flow concerns one of them and only appends
unrelated entries for the others. The stock of a product over all warehouses follows by adding the
four up.
-/

namespace MeadowOps.Flow

open Db Lib Scheduler

/-- The document a movement of type `ty` refers to. -/
def refOf (ty : InventoryTransactionType) (t : InventoryTransaction) : Option Uuid :=
  if t.transactionType = ty then t.referenceId else none

/-- The movements of type `ty` of a document. -/
def movements (w : World) (ty : InventoryTransactionType) (id : Uuid) : List InventoryTransaction :=
  entriesOf (refOf ty) id w.inventoryTransaction

/-- What movements add up to for a product. -/
def movedQuantity (p : String) (rows : List InventoryTransaction) : ℤ :=
  sumWhere (·.productId = p) (·.quantityDelta) rows

def receivedQuantity (p : String) (lines : List PurchaseOrderLine) : ℤ :=
  sumWhere (·.productId = p) (·.quantityReceived) lines

def shippedQuantity (p : String) (lines : List SalesOrderLine) : ℤ :=
  sumWhere (·.productId = p) (·.quantityShipped) lines

/-- The movement that a transfer's creation books. -/
def transferOut (t : WarehouseTransfer) : InventoryTransaction where
  transactionAt := simDatetime t.transferDate
  productId := t.productId
  warehouseId := t.fromWarehouseId
  transactionType := .transferOut
  quantityDelta := -t.quantity
  referenceType := some "warehouse_transfer"
  referenceId := some t.id

/-- The movement that a transfer's arrival on day `d` books. -/
def transferIn (t : WarehouseTransfer) (d : Date) : InventoryTransaction where
  transactionAt := simDatetime d
  productId := t.productId
  warehouseId := t.toWarehouseId
  transactionType := .transferIn
  quantityDelta := t.quantity
  referenceType := some "warehouse_transfer"
  referenceId := some t.id

/-- Received by the lines, received by the ledger, never more than ordered. -/
structure ReceiptsMatch (po : PurchaseOrder) (rows : List InventoryTransaction) : Prop where
  moved : ∀ p, movedQuantity p rows = receivedQuantity p po.lines
  lines : ∀ l ∈ po.lines, l.quantityReceived ≤ l.quantityOrdered

structure ShipmentsMatch (so : SalesOrder) (rows : List InventoryTransaction) : Prop where
  moved : ∀ p, movedQuantity p rows = -shippedQuantity p so.lines
  lines : ∀ l ∈ so.lines, l.quantityShipped ≤ l.quantityOrdered

def OutboundMatch (t : WarehouseTransfer) (rows : List InventoryTransaction) : Prop :=
  rows = [transferOut t]

/-- One inbound movement exactly when the transfer is completed. -/
def InboundMatch (t : WarehouseTransfer) (rows : List InventoryTransaction) : Prop :=
  if t.status = .completed then ∃ d, rows = [transferIn t d] else rows = []

/-- The documents of a world and the ledger they are posted to. -/
structure Reconciled (w : World) : Prop where
  receipts : Posted (refOf .receipt) (·.id) ReceiptsMatch w.purchaseOrder w.inventoryTransaction
  shipments : Posted (refOf .shipment) (·.id) ShipmentsMatch w.salesOrder w.inventoryTransaction
  outbound : Posted (refOf .transferOut) (·.id) OutboundMatch w.warehouseTransfer w.inventoryTransaction
  inbound : Posted (refOf .transferIn) (·.id) InboundMatch w.warehouseTransfer w.inventoryTransaction
  types : ∀ t ∈ w.inventoryTransaction, t.referenceId ≠ none ∧
    t.transactionType ∈ [.receipt, .shipment, .transferOut, .transferIn]

theorem refOf_own {ty : InventoryTransactionType} {t : InventoryTransaction} {id : Uuid}
    (type : t.transactionType = ty) (ref : t.referenceId = some id) : refOf ty t = some id := by
  rw [refOf, if_pos type, ref]

theorem refOf_other {ty ty' : InventoryTransactionType} {t : InventoryTransaction}
    (type : t.transactionType = ty') (ne : ty' ≠ ty) : refOf ty t = none := by
  rw [refOf, if_neg (type ▸ ne)]

@[simp] theorem movedQuantity_append (p : String) (xs ys : List InventoryTransaction) :
    movedQuantity p (xs ++ ys) = movedQuantity p xs + movedQuantity p ys :=
  sumWhere_append _ _ xs ys

/-! ## Receiving -/

theorem receiveLine_received (fraction : Option ℚ) (l : PurchaseOrderLine)
    (h : l.quantityReceived ≤ l.quantityOrdered) :
    (receiveLine fraction l).quantityReceived ≤ (receiveLine fraction l).quantityOrdered := by
  unfold receiveLine
  dsimp only
  split <;> rename_i remaining
  · exact h
  · have := (receiveQuantity_bounds fraction (not_le.1 remaining)).2
    simp only [PurchaseOrderLine.remaining] at this ⊢
    omega

/-- The receipts of a delivery are what its lines receive. -/
theorem movedQuantity_receipts (d : Date) (po : PurchaseOrder) (fraction : Option ℚ) (p : String)
    (lines : List PurchaseOrderLine) :
    movedQuantity p (lines.filterMap (receiptOf d po fraction)) =
      receivedQuantity p (lines.map (receiveLine fraction)) - receivedQuantity p lines := by
  induction lines with
  | nil => rfl
  | cons l lines ih =>
    simp only [movedQuantity, receivedQuantity] at ih ⊢
    rw [List.filterMap_cons, List.map_cons, sumWhere_cons, sumWhere_cons]
    by_cases remaining : PurchaseOrderLine.remaining l ≤ 0
    · simp only [receiptOf, receiveLine, if_pos remaining] at ih ⊢
      rw [ih]
      ring
    · simp only [receiptOf, receiveLine, if_neg remaining, sumWhere_cons] at ih ⊢
      rw [ih]
      split <;> ring

theorem receipts_own {d : Date} {po : PurchaseOrder} {fraction : Option ℚ}
    {lines : List PurchaseOrderLine} :
    ∀ t ∈ lines.filterMap (receiptOf d po fraction),
      t.transactionType = .receipt ∧ t.referenceId = some po.id := by
  intro t ht
  obtain ⟨l, -, hl⟩ := List.mem_filterMap.1 ht
  obtain ⟨-, rfl⟩ := receiptOf_eq_some hl
  exact ⟨rfl, rfl⟩

theorem ReceiptsMatch.receive {po : PurchaseOrder} {rows : List InventoryTransaction}
    (h : ReceiptsMatch po rows) {lines : List PurchaseOrderLine} (perm : lines.Perm po.lines)
    (d : Date) (fraction : Option ℚ) :
    ReceiptsMatch (receivedOrder fraction lines po)
      (rows ++ lines.filterMap (receiptOf d po fraction)) where
  moved p := by
    have before : receivedQuantity p lines = receivedQuantity p po.lines := sumWhere_perm _ _ perm
    rw [movedQuantity_append, h.moved, movedQuantity_receipts, before]
    simp only [receivedOrder]
    ring
  lines l hl := by
    obtain ⟨l', hl', rfl⟩ := List.mem_map.1 hl
    exact receiveLine_received fraction l' (h.lines l' (perm.mem_iff.1 hl'))

/-! ## Shipping -/

/-- The movements of the shipping loop: of the order, and as much as its lines have shipped. -/
theorem shipLines_movements (d : Date) (so : SalesOrder) (lines : List SalesOrderLine)
    (ledger : List InventoryTransaction) :
    ∃ rows, (shipLines d so lines ledger).2.1 = ledger ++ rows ∧
      (∀ t ∈ rows, t.transactionType = .shipment ∧ t.referenceId = some so.id) ∧
      ∀ p, movedQuantity p rows =
        shippedQuantity p lines - shippedQuantity p (shipLines d so lines ledger).1 := by
  obtain ⟨shipped, appended, sums⟩ := shipLines_spec d so lines ledger
  refine ⟨shipped.map (shipmentOf d so), appended, ?_, fun p => ?_⟩
  · intro t ht
    obtain ⟨l, -, rfl⟩ := List.mem_map.1 ht
    exact ⟨rfl, rfl⟩
  · have grown := (sums p).1
    have moved : movedQuantity p (shipped.map (shipmentOf d so)) =
        -sumWhere (·.productId = p) SalesOrderLine.remaining shipped := by
      rw [movedQuantity, sumWhere_eq_sum, sumWhere_eq_sum, List.sum_neg, List.map_map, List.map_map]
      refine congrArg List.sum (List.map_congr_left fun l _ => ?_)
      by_cases h : l.productId = p <;> simp [shipmentOf, h]
    simp only [shippedQuantity]
    linarith

theorem ShipmentsMatch.ship {so : SalesOrder} {rows : List InventoryTransaction}
    (h : ShipmentsMatch so rows) {lines : List SalesOrderLine} (perm : lines.Perm so.lines) (d : Date)
    {ledger shipped : List InventoryTransaction}
    (moved : ∀ p, movedQuantity p shipped =
      shippedQuantity p lines - shippedQuantity p (shipLines d so lines ledger).1) :
    ShipmentsMatch (shippedOrder (shipLines d so lines ledger).1 so) (rows ++ shipped) where
  moved p := by
    have before : shippedQuantity p lines = shippedQuantity p so.lines := sumWhere_perm _ _ perm
    rw [movedQuantity_append, h.moved, moved, before]
    simp only [shippedOrder]
    ring
  lines := shipLines_lines d so lines ledger fun l hl => h.lines l (perm.mem_iff.1 hl)

/-! ## Every step -/

/-- Further movements, all of one known type and with a reference. -/
theorem types_append {ledger rows : List InventoryTransaction} {ty : InventoryTransactionType}
    {id : Uuid} (h : ∀ t ∈ ledger, t.referenceId ≠ none ∧
      t.transactionType ∈ [InventoryTransactionType.receipt, .shipment, .transferOut, .transferIn])
    (known : ty ∈ [InventoryTransactionType.receipt, .shipment, .transferOut, .transferIn])
    (own : ∀ t ∈ rows, t.transactionType = ty ∧ t.referenceId = some id) :
    ∀ t ∈ ledger ++ rows, t.referenceId ≠ none ∧
      t.transactionType ∈ [InventoryTransactionType.receipt, .shipment, .transferOut, .transferIn] := by
  intro t ht
  rcases List.mem_append.1 ht with ht | ht
  · exact h t ht
  · obtain ⟨type, ref⟩ := own t ht
    exact ⟨by simp [ref], type ▸ known⟩

/-- Movements of type `ty'` are unrelated to the documents posted under `ty`. -/
theorem posted_append_type {δ : Type} {id : δ → Uuid} {P : δ → List InventoryTransaction → Prop}
    {docs : List δ} {ledger rows : List InventoryTransaction} {ty ty' : InventoryTransactionType}
    {k : Uuid} (h : Posted (refOf ty) id P docs ledger)
    (own : ∀ t ∈ rows, t.transactionType = ty' ∧ t.referenceId = some k) (ne : ty' ≠ ty) :
    Posted (refOf ty) id P docs (ledger ++ rows) :=
  h.append_other fun t ht => refOf_other (own t ht).1 ne

theorem FlowStep.reconciled {A : World → SalesOrder → Prop} {d : Date} {w w' : World}
    (h : FlowStep A d w w') (wf : Wf w)
    (hw : Reconciled w) : Reconciled w' := by
  cases h with
  | confirm po mem =>
    exact { hw with
      receipts := hw.receipts.rewrite wf.purchaseOrder mem (fun _ _ => rfl) fun _ h => ⟨h.moved, h.lines⟩ }
  | receive po lines fraction mem _ _ perm =>
    have own := @receipts_own d po fraction lines
    exact {
      receipts := hw.receipts.update wf.purchaseOrder mem (fun _ _ => rfl)
        (fun t ht => refOf_own (own t ht).1 (own t ht).2) fun h => h.receive perm d fraction
      shipments := posted_append_type hw.shipments own (by decide)
      outbound := posted_append_type hw.outbound own (by decide)
      inbound := posted_append_type hw.inbound own (by decide)
      types := types_append hw.types (by decide) own }
  | depart t mem pending =>
    refine { hw with
      outbound := hw.outbound.rewrite wf.warehouseTransfer mem (fun _ h => h) fun _ h => h
      inbound := hw.inbound.rewrite wf.warehouseTransfer mem (fun _ h => h) fun rows h => ?_ }
    simpa [InboundMatch, pending] using h
  | arrive t mem inTransit =>
    have own : ∀ r ∈ [transferIn t d],
        r.transactionType = .transferIn ∧ r.referenceId = some t.id := by simp [transferIn]
    exact {
      receipts := posted_append_type hw.receipts own (by decide)
      shipments := posted_append_type hw.shipments own (by decide)
      outbound := posted_append_type (hw.outbound.rewrite wf.warehouseTransfer mem (fun _ h => h)
        fun _ h => h) own (by decide)
      inbound := hw.inbound.update wf.warehouseTransfer mem (fun _ h => h)
        (fun r hr => refOf_own (own r hr).1 (own r hr).2) fun h => by
          have none : entriesOf (refOf .transferIn) t.id w.inventoryTransaction = [] := by
            simpa [InboundMatch, inTransit] using h
          refine ⟨d, ?_⟩
          rw [none]
          rfl
      types := types_append hw.types (by decide) own }
  | transfer t fresh _ _ _ _ _ _ date pending =>
    have own : ∀ r ∈ [transferOut t],
        r.transactionType = .transferOut ∧ r.referenceId = some t.id := by simp [transferOut]
    subst date
    exact {
      receipts := posted_append_type hw.receipts own (by decide)
      shipments := posted_append_type hw.shipments own (by decide)
      outbound := hw.outbound.insert fresh (fun r hr => refOf_own (own r hr).1 (own r hr).2) rfl
      inbound := posted_append_type (hw.inbound.insertEmpty fresh (by simp [InboundMatch, pending]))
        own (by decide)
      types := types_append hw.types (by decide) own }
  | order po p quantity fresh lines minimum =>
    refine { hw with receipts := hw.receipts.insertEmpty fresh ⟨fun p' => ?_, fun l hl => ?_⟩ }
    · rw [lines]
      simp [movedQuantity, receivedQuantity]
    · rw [lines, List.mem_singleton] at hl
      subst hl
      simp only [minimumReorderQuantity] at minimum
      dsimp only
      omega
  | dispatch s => exact { hw with }
  | deliver s => exact { hw with }
  | allocate so mem =>
    exact { hw with
      shipments := hw.shipments.rewrite wf.salesOrder mem (fun _ h => h) fun _ h => ⟨h.moved, h.lines⟩ }
  | ship so lines _ _ mem _ perm =>
    obtain ⟨rows, appended, own, moved⟩ := shipLines_movements d so lines w.inventoryTransaction
    rw [appended]
    exact {
      receipts := posted_append_type hw.receipts own (by decide)
      shipments := hw.shipments.update wf.salesOrder mem (fun _ h => h)
        (fun t ht => refOf_own (own t ht).1 (own t ht).2) fun h => h.ship perm d moved
      outbound := posted_append_type hw.outbound own (by decide)
      inbound := posted_append_type hw.inbound own (by decide)
      types := types_append hw.types (by decide) own }
  | demand so fresh lines =>
    refine { hw with shipments := hw.shipments.insertEmpty fresh ⟨fun p => ?_, fun l hl => ?_⟩ }
    · have none : shippedQuantity p so.lines = 0 :=
        List.sum_eq_zero fun n hn => by
          obtain ⟨l, hl, rfl⟩ := List.mem_map.1 hn
          exact (lines l (List.mem_of_mem_filter hl)).2
      rw [none]
      rfl
    · have := lines l hl
      omega
  | snapshot env => exact { hw with }

/-! ## The balance of a product -/

def totalReceived (p : String) (w : World) : ℤ :=
  (w.purchaseOrder.map fun po => receivedQuantity p po.lines).sum

def totalShipped (p : String) (w : World) : ℤ :=
  (w.salesOrder.map fun so => shippedQuantity p so.lines).sum

/-- What is under way between warehouses. -/
def notCompletedQuantity (p : String) (w : World) : ℤ :=
  sumWhere (fun t => t.productId = p ∧ t.status ≠ .completed) (·.quantity) w.warehouseTransfer

/-- The movements of one type, document by document. -/
theorem sum_posted {δ : Type} {id : δ → Uuid} {P : δ → List InventoryTransaction → Prop}
    {docs : List δ} {ledger : List InventoryTransaction} {ty : InventoryTransactionType} (p : String)
    (quantity : δ → ℤ) (h : Posted (refOf ty) id P docs ledger) (keyed : Keyed id docs)
    (hP : ∀ d rows, P d rows → movedQuantity p rows = quantity d) :
    sumWhere (refOf ty · ≠ none) (fun t => if t.productId = p then t.quantityDelta else 0) ledger =
      (docs.map quantity).sum := by
  rw [h.sum_entries keyed]
  refine congrArg List.sum (List.map_congr_left fun d hd => ?_)
  rw [← hP d _ (h.entries d hd), movedQuantity, sumWhere_eq_sum]

/-- Every movement is of one of the four types. -/
theorem movedQuantity_by_type {ledger : List InventoryTransaction}
    (types : ∀ t ∈ ledger, t.referenceId ≠ none ∧
      t.transactionType ∈ [InventoryTransactionType.receipt, .shipment, .transferOut, .transferIn])
    (p : String) :
    let g := fun t : InventoryTransaction => if t.productId = p then t.quantityDelta else 0
    movedQuantity p ledger =
      sumWhere (refOf .receipt · ≠ none) g ledger + sumWhere (refOf .shipment · ≠ none) g ledger +
      sumWhere (refOf .transferOut · ≠ none) g ledger +
      sumWhere (refOf .transferIn · ≠ none) g ledger := by
  induction ledger with
  | nil => simp [movedQuantity]
  | cons t ledger ih =>
    obtain ⟨⟨ref, type⟩, types⟩ := List.forall_mem_cons.1 types
    have rest := ih types
    dsimp only at rest ⊢
    have head : movedQuantity p (t :: ledger) =
        (if t.productId = p then t.quantityDelta else 0) + movedQuantity p ledger :=
      sumWhere_cons _ _ t ledger
    rw [head, rest]
    simp only [List.mem_cons, List.not_mem_nil, or_false] at type
    rcases type with type | type | type | type <;> simp [refOf, type, ref] <;> ring

theorem Reconciled.product_balance {w : World} (h : Reconciled w) (wf : Wf w) (p : String) :
    movedQuantity p w.inventoryTransaction =
      totalReceived p w - totalShipped p w - notCompletedQuantity p w := by
  have received := sum_posted p (fun po => receivedQuantity p po.lines) h.receipts wf.purchaseOrder fun _ _ h => h.moved p
  have shipped := sum_posted p (fun so => -shippedQuantity p so.lines) h.shipments wf.salesOrder fun _ _ h => h.moved p
  have outbound := sum_posted p (fun t => if t.productId = p then -t.quantity else 0) h.outbound
    wf.warehouseTransfer fun t rows (h : rows = [transferOut t]) => by
      simp [h, movedQuantity, transferOut]
  have inbound := sum_posted p
    (fun t => if t.status = .completed ∧ t.productId = p then t.quantity else 0) h.inbound
    wf.warehouseTransfer fun t rows h => by
      unfold InboundMatch at h
      split at h <;> rename_i completed
      · obtain ⟨d, rfl⟩ := h
        simp [movedQuantity, transferIn, completed]
      · simp [h, movedQuantity, completed]
  rw [movedQuantity_by_type h.types p, received, shipped, outbound, inbound]
  have negated : (w.salesOrder.map fun so => -shippedQuantity p so.lines).sum = -totalShipped p w := by
    rw [totalShipped, List.sum_neg, List.map_map]
    rfl
  have underway : (w.warehouseTransfer.map fun t => if t.productId = p then -t.quantity else 0).sum +
      (w.warehouseTransfer.map fun t =>
        if t.status = .completed ∧ t.productId = p then t.quantity else 0).sum =
      -notCompletedQuantity p w := by
    rw [notCompletedQuantity, sumWhere_eq_sum, List.sum_neg, List.map_map, ← List.sum_map_add]
    refine congrArg List.sum (List.map_congr_left fun t _ => ?_)
    by_cases hp : t.productId = p <;> by_cases hc : t.status = .completed <;> simp [hp, hc]
  rw [negated, totalReceived]
  linarith

/-! ## Runs -/

/-- Every document's movements, and the stock of every product over all warehouses. -/
structure LedgerReconciles (w : World) : Prop where
  purchaseOrders : ∀ po ∈ w.purchaseOrder, ∀ p,
    movedQuantity p (movements w .receipt po.id) = receivedQuantity p po.lines ∧
    receivedQuantity p po.lines ≤ sumWhere (·.productId = p) (·.quantityOrdered) po.lines
  salesOrders : ∀ so ∈ w.salesOrder, ∀ p,
    movedQuantity p (movements w .shipment so.id) = -shippedQuantity p so.lines ∧
    shippedQuantity p so.lines ≤ sumWhere (·.productId = p) (·.quantityOrdered) so.lines
  outbound : ∀ t ∈ w.warehouseTransfer, movements w .transferOut t.id = [transferOut t]
  inbound : ∀ t ∈ w.warehouseTransfer,
    if t.status = .completed then ∃ d, movements w .transferIn t.id = [transferIn t d]
    else movements w .transferIn t.id = []
  stock : ∀ p (warehouses : Finset String),
    (∀ t ∈ w.inventoryTransaction, t.productId = p → t.warehouseId ∈ warehouses) →
    ∑ wh ∈ warehouses, currentInventoryPosition w p wh =
      totalReceived p w - totalShipped p w - notCompletedQuantity p w

theorem sum_positions {w : World} {p : String} {warehouses : Finset String}
    (cover : ∀ t ∈ w.inventoryTransaction, t.productId = p → t.warehouseId ∈ warehouses) :
    ∑ wh ∈ warehouses, currentInventoryPosition w p wh = movedQuantity p w.inventoryTransaction := by
  have byPair : ∀ wh, currentInventoryPosition w p wh =
      balance InventoryTransaction.pair (·.quantityDelta) (p, wh) w.inventoryTransaction := fun wh =>
    inventoryPosition_eq_balance _ p wh
  have injective : Set.InjOn (Prod.mk p : String → String × String) warehouses :=
    fun _ _ _ _ h => (Prod.mk.inj h).2
  rw [Finset.sum_congr rfl fun wh _ => byPair wh,
    ← Finset.sum_image (f := fun k => balance InventoryTransaction.pair (·.quantityDelta) k
      w.inventoryTransaction) injective, sum_balance]
  refine sumWhere_congr fun t ht => ?_
  have mem : InventoryTransaction.pair t ∈ warehouses.image (Prod.mk p) ↔ t.productId = p := by
    simp only [Finset.mem_image, InventoryTransaction.pair, Prod.mk.injEq]
    constructor
    · rintro ⟨_, _, h, _⟩
      exact h.symm
    · exact fun h => ⟨t.warehouseId, cover t ht h, h.symm, rfl⟩
  simp only [mem]

theorem Reconciled.ledgerReconciles {w : World} (h : Reconciled w) (wf : Wf w) :
    LedgerReconciles w where
  purchaseOrders po hpo p :=
    have doc := h.receipts.entries po hpo
    ⟨doc.moved p, sumWhere_le_sumWhere doc.lines⟩
  salesOrders so hso p :=
    have doc := h.shipments.entries so hso
    ⟨doc.moved p, sumWhere_le_sumWhere doc.lines⟩
  outbound t ht := h.outbound.entries t ht
  inbound t ht := h.inbound.entries t ht
  stock p warehouses cover := by rw [sum_positions cover, h.product_balance wf p]

theorem EmptyWorld.reconciled {w : World} (h : EmptyWorld w) : Reconciled w := by
  rw [h]
  exact ⟨Posted.nil, Posted.nil, Posted.nil, Posted.nil, by simp [World.empty]⟩

/-- In every run from an empty operational world, the ledger reconciles with the documents. -/
theorem ledger_reconciles {t : Tx (Database World)} (h : (flowRuns EmptyWorld).Reachable t) :
    LedgerReconciles t.committed.tables ∧ LedgerReconciles t.pending.tables := by
  obtain ⟨⟨wf, committed⟩, wf', pending⟩ := flowRuns_step_invariant
    (fun _ h => h.wf) (fun _ h => h.reconciled) (fun _ _ _ step wf hw => step.reconciled wf hw)
    (fun _ _ hw => { hw with }) h
  exact ⟨committed.ledgerReconciles wf, pending.ledgerReconciles wf'⟩

/-- At the end of the week one purchase order is partly in, the shop's order is shipped, and one transfer has
arrived and another is under way. -/
theorem ledger_reconciles_week :
    let w := (week.foldl runStep (Tx.start beforeMonday)).committed.tables
    LedgerReconciles w ∧
    w.purchaseOrder.map (fun po => (po.status, po.lines)) =
      [(.received, [⟨"boxes", 20, 20⟩]), (.received, [⟨"boxes", 20, 20⟩]),
        (.partiallyReceived, [⟨"boxes", 20, 19⟩])] ∧
    w.salesOrder.map (fun so => (so.status, so.lines)) = [(.shipped, [⟨"boxes", 20, 20⟩])] ∧
    w.warehouseTransfer.map (fun t => (t.status, t.quantity)) = [(.completed, 10), (.pending, 9)] ∧
    w.inventoryTransaction.length = 11 :=
  ⟨(ledger_reconciles (@flowRuns_follow _ beforeMonday (emptyWorld shop) week)).1,
    by decide +kernel, by decide +kernel, by decide +kernel, by decide +kernel⟩

end MeadowOps.Flow
