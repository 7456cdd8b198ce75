import MeadowOps.Flow.Simulation
import MeadowOps.Lib.Ledger

/-!
# Stock never goes negative

The stock ledger is solvent (`Lib.Solvent`) on the accounts (product, warehouse): every step of
the flow appends receipts, or a debit that the ledger sum covers at that moment. A donor's debit is
covered because its surplus is what remains after the allocated quantity, which is not negative.
-/

namespace MeadowOps.Flow

open Db Lib

/-- The account a movement is booked on. -/
def InventoryTransaction.pair (t : InventoryTransaction) : String × String :=
  (t.productId, t.warehouseId)

theorem inventoryPosition_eq_balance (ledger : List InventoryTransaction) (p wh : String) :
    inventoryPosition ledger p wh =
      balance InventoryTransaction.pair (·.quantityDelta) (p, wh) ledger := by
  refine sumWhere_congr fun t _ => ?_
  simp [InventoryTransaction.pair]

/-- The stock of every pair is non-negative after every single insert. -/
def NeverNegative (ledger : List InventoryTransaction) : Prop :=
  ∀ n p wh, 0 ≤ inventoryPosition (ledger.take n) p wh

theorem neverNegative_iff_solvent {ledger : List InventoryTransaction} :
    NeverNegative ledger ↔ Solvent InventoryTransaction.pair (·.quantityDelta) ledger := by
  simp only [NeverNegative, Solvent, Prod.forall, inventoryPosition_eq_balance]

/-- What the stock law rests on: the lines never shipped more than was ordered, and transfers
carry a positive quantity (a CHECK of the table). -/
structure Stocked (w : World) : Prop where
  ledger : NeverNegative w.inventoryTransaction
  lines : ∀ so ∈ w.salesOrder, ∀ l ∈ so.lines, l.quantityShipped ≤ l.quantityOrdered
  transfers : ∀ t ∈ w.warehouseTransfer, 0 < t.quantity

theorem NeverNegative.position_nonneg {ledger : List InventoryTransaction} (h : NeverNegative ledger)
    (p wh : String) : 0 ≤ inventoryPosition ledger p wh := by
  rw [inventoryPosition_eq_balance]
  exact (neverNegative_iff_solvent.1 h).balance_nonneg _

theorem NeverNegative.append_credits {ledger credits : List InventoryTransaction}
    (h : NeverNegative ledger) (nonneg : ∀ t ∈ credits, 0 ≤ t.quantityDelta) :
    NeverNegative (ledger ++ credits) :=
  neverNegative_iff_solvent.2 ((neverNegative_iff_solvent.1 h).append_credits nonneg)

theorem NeverNegative.append_covered {ledger : List InventoryTransaction} (h : NeverNegative ledger)
    {t : InventoryTransaction}
    (covered : 0 ≤ inventoryPosition ledger t.productId t.warehouseId + t.quantityDelta) :
    NeverNegative (ledger ++ [t]) := by
  rw [inventoryPosition_eq_balance] at covered
  exact neverNegative_iff_solvent.2 ((neverNegative_iff_solvent.1 h).append_covered covered)

/-! ## Receipts -/

/-- What arrives of a positive remainder: something, and no more than the remainder. -/
theorem receiveQuantity_bounds (fraction : Option ℚ) {remaining : ℤ} (h : 0 < remaining) :
    1 ≤ receiveQuantity fraction remaining ∧ receiveQuantity fraction remaining ≤ remaining := by
  refine ⟨le_min ?_ h, min_le_right _ _⟩
  cases fraction with
  | none => exact h
  | some f => exact le_max_left _ _

theorem receiptOf_eq_some {d : Date} {po : PurchaseOrder} {fraction : Option ℚ}
    {l : PurchaseOrderLine} {t : InventoryTransaction} (h : receiptOf d po fraction l = some t) :
    0 < PurchaseOrderLine.remaining l ∧ t = {
      transactionAt := simDatetime d
      productId := l.productId
      warehouseId := po.warehouseId
      transactionType := .receipt
      quantityDelta := receiveQuantity fraction (PurchaseOrderLine.remaining l)
      referenceType := some "purchase_order"
      referenceId := some po.id } := by
  unfold receiptOf at h
  dsimp only at h
  split at h
  · cases h
  · exact ⟨by omega, (Option.some.inj h).symm⟩

theorem receipts_nonneg {d : Date} {po : PurchaseOrder} {fraction : Option ℚ}
    {lines : List PurchaseOrderLine} :
    ∀ t ∈ lines.filterMap (receiptOf d po fraction), 0 ≤ t.quantityDelta := by
  intro t ht
  obtain ⟨l, -, hl⟩ := List.mem_filterMap.1 ht
  obtain ⟨remaining, rfl⟩ := receiptOf_eq_some hl
  have := (receiveQuantity_bounds fraction remaining).1
  dsimp only
  omega

/-! ## Shipping -/

/-- The movement of a line that ships in full. -/
def shipmentOf (d : Date) (so : SalesOrder) (l : SalesOrderLine) : InventoryTransaction where
  transactionAt := simDatetime d
  productId := l.productId
  warehouseId := so.warehouseId
  transactionType := .shipment
  quantityDelta := -SalesOrderLine.remaining l
  referenceType := some "sales_order"
  referenceId := some so.id

/-- One line of the shipping loop. -/
theorem shipLines_cons (d : Date) (so : SalesOrder) (l : SalesOrderLine) (lines : List SalesOrderLine)
    (ledger : List InventoryTransaction) :
    let remaining := SalesOrderLine.remaining l
    ((remaining ≤ 0 ∨ inventoryPosition ledger l.productId so.warehouseId < remaining) ∧
      shipLines d so (l :: lines) ledger =
        let rest := shipLines d so lines ledger
        (l :: rest.1, rest.2.1, rest.2.2)) ∨
    (0 < remaining ∧ remaining ≤ inventoryPosition ledger l.productId so.warehouseId ∧
      shipLines d so (l :: lines) ledger =
        let rest := shipLines d so lines (ledger ++ [shipmentOf d so l])
        ({ l with quantityShipped := l.quantityOrdered } :: rest.1, rest.2.1, true)) := by
  dsimp only
  rw [shipLines]
  split <;> rename_i h
  · exact .inl ⟨h, rfl⟩
  · exact .inr ⟨by omega, by omega, rfl⟩

/-- Each shipped line is covered by the ledger at the moment it ships. -/
theorem shipLines_neverNegative (d : Date) (so : SalesOrder) (lines : List SalesOrderLine)
    (ledger : List InventoryTransaction) (h : NeverNegative ledger) :
    NeverNegative (shipLines d so lines ledger).2.1 := by
  induction lines generalizing ledger with
  | nil => exact h
  | cons l lines ih =>
    rcases shipLines_cons d so l lines ledger with ⟨-, eq⟩ | ⟨-, covered, eq⟩
    · rw [eq]
      exact ih ledger h
    · rw [eq]
      refine ih _ (h.append_covered ?_)
      dsimp only [shipmentOf]
      omega

theorem shipLines_forall (d : Date) (so : SalesOrder) {P : SalesOrderLine → Prop}
    (ship : ∀ l, P l → P { l with quantityShipped := l.quantityOrdered }) (lines : List SalesOrderLine)
    (ledger : List InventoryTransaction) (h : ∀ l ∈ lines, P l) : ∀ l ∈ (shipLines d so lines ledger).1, P l := by
  induction lines generalizing ledger with
  | nil => exact h
  | cons l lines ih =>
    obtain ⟨hl, hlines⟩ := List.forall_mem_cons.1 h
    rcases shipLines_cons d so l lines ledger with ⟨-, eq⟩ | ⟨-, -, eq⟩
    · rw [eq]
      exact List.forall_mem_cons.2 ⟨hl, ih ledger hlines⟩
    · rw [eq]
      exact List.forall_mem_cons.2 ⟨ship l hl, ih _ hlines⟩

theorem shipLines_lines (d : Date) (so : SalesOrder) (lines : List SalesOrderLine)
    (ledger : List InventoryTransaction) (h : ∀ l ∈ lines, l.quantityShipped ≤ l.quantityOrdered) :
    ∀ l ∈ (shipLines d so lines ledger).1, l.quantityShipped ≤ l.quantityOrdered :=
  shipLines_forall d so (fun _ _ => le_rfl) lines ledger h

theorem length_shipLines (d : Date) (so : SalesOrder) (lines : List SalesOrderLine)
    (ledger : List InventoryTransaction) : (shipLines d so lines ledger).1.length = lines.length := by
  induction lines generalizing ledger with
  | nil => rfl
  | cons l lines ih =>
    rcases shipLines_cons d so l lines ledger with ⟨-, eq⟩ | ⟨-, -, eq⟩
    · rw [eq, List.length_cons, List.length_cons, ih]
    · rw [eq, List.length_cons, List.length_cons, ih]

/-- The movements of the loop are those of the lines that shipped; what a product's lines have
shipped grows, and what they still want shrinks, by the quantity moved. -/
theorem shipLines_spec (d : Date) (so : SalesOrder) (lines : List SalesOrderLine)
    (ledger : List InventoryTransaction) :
    ∃ shipped : List SalesOrderLine,
      (shipLines d so lines ledger).2.1 = ledger ++ shipped.map (shipmentOf d so) ∧
      ∀ p, let moved := sumWhere (·.productId = p) SalesOrderLine.remaining shipped
        sumWhere (·.productId = p) (·.quantityShipped) (shipLines d so lines ledger).1 =
          sumWhere (·.productId = p) (·.quantityShipped) lines + moved ∧
        sumWhere (·.productId = p) SalesOrderLine.remaining (shipLines d so lines ledger).1 =
          sumWhere (·.productId = p) SalesOrderLine.remaining lines - moved := by
  induction lines generalizing ledger with
  | nil => exact ⟨[], by simp [shipLines], fun p => by simp [shipLines]⟩
  | cons l lines ih =>
    rcases shipLines_cons d so l lines ledger with ⟨-, eq⟩ | ⟨-, -, eq⟩
    · obtain ⟨shipped, appended, sums⟩ := ih ledger
      refine ⟨shipped, by rw [eq]; exact appended, fun p => ?_⟩
      obtain ⟨grown, shrunk⟩ := sums p
      dsimp only
      rw [eq, sumWhere_cons, sumWhere_cons, sumWhere_cons, sumWhere_cons, grown, shrunk]
      constructor <;> ring
    · obtain ⟨shipped, appended, sums⟩ := ih (ledger ++ [shipmentOf d so l])
      refine ⟨l :: shipped, by rw [eq]; simpa using appended, fun p => ?_⟩
      obtain ⟨grown, shrunk⟩ := sums p
      dsimp only
      rw [eq]
      simp only [sumWhere_cons]
      rw [grown, shrunk]
      by_cases hp : l.productId = p
      · simp only [hp, if_true, SalesOrderLine.remaining]
        constructor <;> ring
      · simp only [hp, if_false]
        constructor <;> ring

/-! ## Transfers -/

theorem allocatedQuantity_nonneg {w : World}
    (lines : ∀ so ∈ w.salesOrder, ∀ l ∈ so.lines, l.quantityShipped ≤ l.quantityOrdered)
    (p wh : String) : 0 ≤ allocatedQuantity w p wh :=
  sumWhere_nonneg fun so hso _ => sumWhere_nonneg fun l hl _ => by
    have := lines so hso l hl
    omega

/-! ## Every step -/

theorem FlowStep.stocked {A : World → SalesOrder → Prop} {d : Date} {w w' : World}
    (h : FlowStep A d w w') (hw : Stocked w) :
    Stocked w' := by
  cases h with
  | confirm po => exact { hw with }
  | receive po lines fraction =>
    exact { hw with ledger := hw.ledger.append_credits receipts_nonneg }
  | depart t =>
    exact { hw with transfers := forall_modify hw.transfers fun t' ht' _ => hw.transfers t' ht' }
  | arrive t mem =>
    refine { hw with
      ledger := hw.ledger.append_credits fun r hr => ?_
      transfers := forall_modify hw.transfers fun t' ht' _ => hw.transfers t' ht' }
    rw [List.mem_singleton] at hr
    subst hr
    exact (hw.transfers t mem).le
  | transfer t _ _ _ _ positive _ surplus =>
    refine { hw with ledger := hw.ledger.append_covered ?_, transfers := ?_ }
    · -- the surplus leaves the allocated quantity and the donor's threshold in place
      have allocated := allocatedQuantity_nonneg hw.lines t.productId t.fromWarehouseId
      have spare := transferableSurplus_le (lt_of_lt_of_le positive surplus)
      simp only [currentInventoryPosition] at spare surplus
      dsimp only
      omega
    · intro t' ht'
      rcases List.mem_append.1 ht' with h | h
      · exact hw.transfers t' h
      · rw [List.mem_singleton] at h
        exact h ▸ positive
  | order po => exact { hw with }
  | dispatch s => exact { hw with }
  | deliver s => exact { hw with }
  | allocate so =>
    exact { hw with lines := forall_modify hw.lines fun so' hso' _ => hw.lines so' hso' }
  | ship so lines _ _ mem _ perm =>
    refine { hw with
      ledger := shipLines_neverNegative d so lines _ hw.ledger
      lines := forall_modify hw.lines fun _ _ _ => shipLines_lines d so lines _ fun l hl => ?_ }
    exact hw.lines so mem l (perm.mem_iff.1 hl)
  | demand so _ lines =>
    refine { hw with lines := fun so' hso' => ?_ }
    rcases List.mem_append.1 hso' with h | h
    · exact hw.lines so' h
    · rw [List.mem_singleton] at h
      subst h
      intro l hl
      have := lines l hl
      omega
  | snapshot env => exact { hw with }

end MeadowOps.Flow
