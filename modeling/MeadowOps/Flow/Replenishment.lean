import MeadowOps.Flow.Runs

/-!
# No double replenishment

Both passes that replenish a pair check that nothing is under way for it, and see what the other has
just written.
-/

namespace MeadowOps.Flow

open Db Lib

/-! ## What is under way for a pair -/

def isOpenOrderFor (p wh : String) (po : PurchaseOrder) : Bool :=
  po.lines.any (·.productId = p) && decide (po.warehouseId = wh) && po.status.isOpen

def isInboundTransferFor (p wh : String) (t : WarehouseTransfer) : Bool :=
  decide (t.productId = p ∧ t.toWarehouseId = wh) && t.status.inFlight

/-- The open purchase orders for the pair, and the transfers on their way to it. -/
def underWay (w : World) (p wh : String) : ℕ :=
  w.purchaseOrder.countP (isOpenOrderFor p wh) + w.warehouseTransfer.countP (isInboundTransferFor p wh)

theorem underWay_eq_zero {w : World} {p wh : String} (noOrder : hasOpenPurchaseOrder w p wh = false)
    (noTransfer : hasOpenInboundTransfer w p wh = false) : underWay w p wh = 0 := by
  have orders : w.purchaseOrder.countP (isOpenOrderFor p wh) = 0 := by
    rw [List.countP_eq_zero]
    exact fun po mem => Bool.not_eq_true _ ▸ List.any_eq_false.1 noOrder po mem
  have transfers : w.warehouseTransfer.countP (isInboundTransferFor p wh) = 0 := by
    rw [List.countP_eq_zero]
    exact fun t mem => Bool.not_eq_true _ ▸ List.any_eq_false.1 noTransfer t mem
  rw [underWay, orders, transfers]

/-- At most one replenishment for every pair; an order has one line. -/
structure Replenished (w : World) : Prop where
  atMostOne : ∀ p wh, underWay w p wh ≤ 1
  lines : ∀ po ∈ w.purchaseOrder, ∃ l, po.lines = [l]

/-- A step that opens nothing. -/
theorem Replenished.of_le {w w' : World} (h : Replenished w)
    (orders : ∀ p wh, w'.purchaseOrder.countP (isOpenOrderFor p wh) ≤
      w.purchaseOrder.countP (isOpenOrderFor p wh))
    (transfers : ∀ p wh, w'.warehouseTransfer.countP (isInboundTransferFor p wh) ≤
      w.warehouseTransfer.countP (isInboundTransferFor p wh))
    (lines : ∀ po ∈ w'.purchaseOrder, ∃ l, po.lines = [l]) : Replenished w' where
  atMostOne := fun p wh => (Nat.add_le_add (orders p wh) (transfers p wh)).trans (h.atMostOne p wh)
  lines := lines

/-- What is opened for one pair, when nothing was under way for it. -/
theorem underWay_opened {w : World} {p wh q v : String} {n : ℕ} (h : Replenished w)
    (noOrder : hasOpenPurchaseOrder w p wh = false) (noTransfer : hasOpenInboundTransfer w p wh = false)
    (other : ¬ (p = q ∧ wh = v) → n = 0) (one : n ≤ 1) : underWay w q v + n ≤ 1 := by
  by_cases same : p = q ∧ wh = v
  · obtain ⟨rfl, rfl⟩ := same
    rw [underWay_eq_zero noOrder noTransfer]
    omega
  · rw [other same]
    exact h.atMostOne q v

theorem receivedOrder_products (fraction : Option ℚ) {lines : List PurchaseOrderLine} {po : PurchaseOrder}
    (perm : lines.Perm po.lines) (p : String) :
    (receivedOrder fraction lines po).lines.any (·.productId = p) = po.lines.any (·.productId = p) := by
  show (lines.map (receiveLine fraction)).any _ = _
  rw [List.any_map, perm.any_eq]
  congr 1
  funext l
  show decide ((receiveLine fraction l).productId = p) = decide (l.productId = p)
  rw [receiveLine]
  split <;> rfl

theorem FlowStep.replenished {A : World → SalesOrder → Prop} {d : Date} {w w' : World}
    (step : FlowStep A d w w') (hw : Wf w) (h : Replenished w) : Replenished w' := by
  have same : ∀ {po po' : PurchaseOrder}, po ∈ w.purchaseOrder → po' ∈ w.purchaseOrder →
      po'.id = po.id → po' = po := fun mem mem' eq => List.inj_on_of_nodup_map hw.purchaseOrder mem' mem eq
  cases step with
  | confirm po mem status =>
    refine h.of_le (fun p wh => countP_modify_le fun po' mem' eq => ?_) (fun _ _ => le_rfl)
      (forall_modify h.lines fun po' mem' eq => same mem mem' eq ▸ h.lines po' mem')
    rw [same mem mem' eq, isOpenOrderFor, isOpenOrderFor, status]
    exact id
  | receive po lines fraction mem status due perm range =>
    refine h.of_le (fun p wh => countP_modify_le fun po' mem' eq => ?_) (fun _ _ => le_rfl)
      (forall_modify h.lines fun po' mem' eq => ?_)
    · have isOpen : po.status.isOpen = true := by
        rcases status with status | status
        · rw [status]
          rfl
        · rw [status]
          rfl
      rw [same mem mem' eq, isOpenOrderFor, isOpenOrderFor, receivedOrder_products fraction perm, isOpen]
      simp only [Bool.and_eq_true]
      exact fun holds => ⟨holds.1, trivial⟩
    · obtain ⟨l, one⟩ := h.lines po mem
      rw [one, List.perm_singleton] at perm
      exact ⟨receiveLine fraction l, by rw [perm]; rfl⟩
  | depart t mem status =>
    refine h.of_le (fun _ _ => le_rfl) (fun p wh => countP_modify_le fun t' mem' eq => ?_) h.lines
    have only : t' = t := List.inj_on_of_nodup_map hw.warehouseTransfer mem' mem eq
    rw [only, isInboundTransferFor, isInboundTransferFor, status]
    exact id
  | arrive t mem status due =>
    refine h.of_le (fun _ _ => le_rfl) (fun p wh => countP_modify_le fun t' mem' eq => ?_) h.lines
    rw [isInboundTransferFor]
    simp [TransferStatus.inFlight]
  | transfer t fresh noOrder noTransfer =>
    refine ⟨fun p wh => ?_, h.lines⟩
    rw [underWay, List.countP_append, ← Nat.add_assoc]
    refine underWay_opened h noOrder noTransfer (fun other => ?_) List.countP_le_length
    rw [List.countP_eq_zero]
    intro t' mem
    rw [List.mem_singleton.1 mem, isInboundTransferFor, decide_eq_false other]
    exact Bool.false_ne_true
  | order po q quantity fresh lines minimum noOrder noTransfer =>
    refine ⟨fun p wh => ?_, ?_⟩
    · rw [underWay, List.countP_append, Nat.add_right_comm]
      refine underWay_opened h noOrder noTransfer (fun other => ?_) List.countP_le_length
      rw [List.countP_eq_zero]
      intro po' mem
      rw [List.mem_singleton.1 mem, isOpenOrderFor, lines]
      simpa using fun product warehouse => absurd ⟨product, warehouse⟩ other
    · intro po' mem
      rcases List.mem_append.1 mem with old | new
      · exact h.lines po' old
      · rw [List.mem_singleton.1 new]
        exact ⟨_, lines⟩
  | dispatch s => exact ⟨h.atMostOne, h.lines⟩
  | deliver s => exact ⟨h.atMostOne, h.lines⟩
  | allocate so => exact ⟨h.atMostOne, h.lines⟩
  | ship so => exact ⟨h.atMostOne, h.lines⟩
  | demand so => exact ⟨h.atMostOne, h.lines⟩
  | snapshot env => exact ⟨h.atMostOne, h.lines⟩

theorem EmptyWorld.replenished {w : World} (h : EmptyWorld w) : Replenished w := by
  rw [h]
  exact ⟨fun _ _ => Nat.zero_le 1, nofun⟩

/-- At most one order or transfer is under way to a warehouse, after every run from an empty world. -/
theorem replenished_of_run {t : Tx (Scheduler.Database World)} (h : (flowRuns EmptyWorld).Reachable t) :
    t.Both fun db => Replenished db.tables := by
  have run := flowRuns_step_invariant (I := Replenished) (fun _ => EmptyWorld.wf)
    (fun _ => EmptyWorld.replenished) (fun _ _ _ step hw => step.replenished hw)
    (fun _ _ h => ⟨h.atMostOne, h.lines⟩) h
  exact ⟨run.1.2, run.2.2⟩

end MeadowOps.Flow
