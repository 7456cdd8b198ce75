import MeadowOps.Flow.Replenishment
import MeadowOps.Exceptions.Flags
import Mathlib.Data.List.Sort

/-!
# The rule for duplicate purchase orders

`_duplicate_purchase_order_evaluations` groups the lines of the open purchase orders. The flow never has
two open orders for one pair, hence no group of two.
-/

namespace MeadowOps.Exceptions

open Db Lib MeadowOps.Flow Scheduler

/-- A row of the join of open purchase orders and their lines. -/
structure OpenOrderRow where
  id : Uuid
  supplierId : String
  warehouseId : String
  expectedDeliveryDate : Date
  orderDate : Date
  productId : String
  deriving DecidableEq, Repr

def openOrderRowsOf (po : PurchaseOrder) : List OpenOrderRow :=
  po.lines.map fun l =>
    ⟨po.id, po.supplierId, po.warehouseId, po.expectedDeliveryDate, po.orderDate, l.productId⟩

def openOrderRows (w : World) : List OpenOrderRow :=
  (w.purchaseOrder.filter (·.status.isOpen)).flatMap openOrderRowsOf

/-- What the groups are made by. -/
def OpenOrderRow.group (r : OpenOrderRow) : String × String × Date × String :=
  (r.supplierId, r.warehouseId, r.expectedDeliveryDate, r.productId)

def evaluateDuplicatePurchaseOrder (matchingOpenPoCount : ℕ) (thresholdCount : ℤ) : Bool :=
  decide (thresholdCount < matchingOpenPoCount)

/-- `sorted(group_rows)` by order date, then id. -/
def placementOrder (rows : List OpenOrderRow) : List OpenOrderRow :=
  rows.insertionSort fun r s => r.orderDate < s.orderDate ∨ r.orderDate = s.orderDate ∧ r.id ≤ s.id

/-- One group: all but the earliest order are flagged. -/
def evaluateGroup (thresholdCount : ℤ) (evaluations : Dict EntityKey Evaluation)
    (rows : List OpenOrderRow) : Dict EntityKey Evaluation :=
  if evaluateDuplicatePurchaseOrder rows.length thresholdCount then
    (placementOrder rows).tail.foldl (fun evaluations dup => evaluations.set
      { EntityKey.none with purchaseOrderId := some dup.id } ⟨some true, some rows.length⟩) evaluations
  else evaluations

def duplicatePurchaseOrderEvaluations (order : RowOrder OpenOrderRow) (thresholdCount : ℤ) (w : World) :
    Dict EntityKey Evaluation :=
  ((Dict.groupBy OpenOrderRow.group (order.rows (openOrderRows w))).items.map (·.2)).foldl
    (evaluateGroup thresholdCount) Dict.empty

/-! ## Groups of one -/

/-- No group exceeds the threshold. -/
theorem duplicatePurchaseOrderEvaluations_empty (order : RowOrder OpenOrderRow) {thresholdCount : ℤ}
    {w : World} (small : ∀ group,
      ((openOrderRows w).countP fun r => r.group = group : ℤ) ≤ thresholdCount) :
    duplicatePurchaseOrderEvaluations order thresholdCount w = Dict.empty := by
  refine List.foldlRecOn (motive := (· = Dict.empty)) _ _ rfl fun evaluations none rows mem => ?_
  obtain ⟨item, found, rfl⟩ := List.mem_map.1 mem
  have size : item.2.length = (openOrderRows w).countP fun r => r.group = item.1 := by
    rw [Dict.groupBy_items found, ← List.countP_eq_length_filter]
    exact (order.perm _).countP_eq _
  rw [none, evaluateGroup, if_neg]
  rw [evaluateDuplicatePurchaseOrder, decide_eq_true_iff, size]
  exact not_lt.2 (small item.1)

/-- The rows of one group are open orders for one pair. -/
theorem countP_openOrderRows_le (group : String × String × Date × String) {orders : List PurchaseOrder}
    (lines : ∀ po ∈ orders, ∃ l, po.lines = [l]) :
    ((orders.filter (·.status.isOpen)).flatMap openOrderRowsOf).countP (fun r => r.group = group) ≤
      orders.countP (isOpenOrderFor group.2.2.2 group.2.1) := by
  induction orders with
  | nil => exact le_rfl
  | cons po orders ih =>
    obtain ⟨⟨l, one⟩, rest⟩ := List.forall_mem_cons.1 lines
    have later := ih rest
    rw [List.filter_cons, List.countP_cons]
    cases isOpen : po.status.isOpen with
    | false => exact later.trans (Nat.le_add_right _ _)
    | true =>
      rw [if_pos rfl, List.flatMap_cons, List.countP_append, Nat.add_comm]
      refine Nat.add_le_add later ?_
      by_cases counted : isOpenOrderFor group.2.2.2 group.2.1 po = true
      · rw [if_pos counted, openOrderRowsOf, one]
        exact List.countP_le_length
      · rw [if_neg counted, Nat.le_zero, List.countP_eq_zero]
        intro r mem same
        rw [openOrderRowsOf, one] at mem
        apply counted
        rw [← of_decide_eq_true same, List.mem_singleton.1 mem, isOpenOrderFor, one, isOpen]
        simp [OpenOrderRow.group]

/-- In every run at most one order or transfer is under way to a warehouse with a product, and so no duplicates are
found. -/
theorem no_double_replenishment {t : Tx (Database World)} (h : (flowRuns EmptyWorld).Reachable t) :
    t.Both fun db => (∀ p wh, underWay db.tables p wh ≤ 1) ∧
      ∀ order thresholdCount, 1 ≤ thresholdCount →
        duplicatePurchaseOrderEvaluations order thresholdCount db.tables = Dict.empty := by
  refine (replenished_of_run h).imp fun db replenished => ⟨replenished.atMostOne, ?_⟩
  intro order thresholdCount one
  refine duplicatePurchaseOrderEvaluations_empty order fun group => ?_
  have rows := countP_openOrderRows_le group replenished.lines
  have atMostOne := replenished.atMostOne group.2.2.2 group.2.1
  rw [underWay] at atMostOne
  rw [openOrderRows]
  omega

/-- Two committed ticks over one product and one warehouse: an order is placed, and not placed again. -/
theorem no_double_replenishment_twoTicks :
    let m : Master := ⟨[⟨"boxes", .corrugatedPackaging, true⟩], [⟨"main", true⟩],
      [⟨"acme", "corrugated", 1, .low, true⟩], [], []⟩
    let env := TickEnv.inOrder fun _ _ => Rng.least
    let t := [RunLabel.tick env monday, .commit, .tick env (monday + 1), .commit].foldl runStep
      (Tx.start ⟨⟨monday - 1, .running⟩, [], World.empty m⟩)
    underWay t.committed.tables "boxes" "main" = 1 ∧ (∀ p wh, underWay t.committed.tables p wh ≤ 1) ∧
      ∀ order, duplicatePurchaseOrderEvaluations order 1 t.committed.tables = Dict.empty := by
  intro m env t
  have reached : (flowRuns EmptyWorld).Reachable t :=
    @flowRuns_follow _ ⟨⟨monday - 1, .running⟩, [], World.empty m⟩ (emptyWorld m) _
  have run := (no_double_replenishment reached).1
  exact ⟨by decide +kernel, run.1, fun order => run.2 order 1 (le_refl 1)⟩

end MeadowOps.Exceptions
