import MeadowOps.Flow.SalesProgress

/-!
# The loop over the sales orders, in any order

Whatever order the open sales orders come in, lines only ship what fitted the stock that the loop started
from, and what leaves the stock is what the orders no longer want (`Underway`). The first order finds the
stock untouched; the last finds what the others leave.
-/

namespace MeadowOps.Flow

open Db Lib

/-! ## The loop in any order -/

/-- A line stays, or it ships what fitted the first stock. -/
inductive LineMoved (stock : String → String → ℤ) (wh : String) (l : SalesOrderLine) : SalesOrderLine → Prop
  | stays : LineMoved stock wh l l
  | ships (fit : fits stock wh l = true) : LineMoved stock wh l { l with quantityShipped := l.quantityOrdered }

/-- A sales order before the loop, and what has become of it. -/
structure OrderMoved (stock : String → String → ℤ) (so so' : SalesOrder) : Prop where
  id : so'.id = so.id
  warehouse : so'.warehouseId = so.warehouseId
  lines : ∃ lines, lines.Perm so.lines ∧ List.Forall₂ (LineMoved stock so.warehouseId) lines so'.lines
  idle : so.status.isAllocated = false → so'.lines = so.lines

/-- What the orders of a warehouse want of a product. -/
def wanted (p wh : String) (rows : List SalesOrder) : ℤ := sumWhere (·.warehouseId = wh) (openQuantity p) rows

/-- The loop that started in `w₁` has come to `w`. -/
structure Underway (w₁ w : World) : Prop where
  rows : List.Forall₂ (OrderMoved (currentInventoryPosition w₁)) w₁.salesOrder w.salesOrder
  below : ∀ p wh, currentInventoryPosition w p wh ≤ currentInventoryPosition w₁ p wh
  nonneg : ∀ p wh, 0 ≤ currentInventoryPosition w₁ p wh → 0 ≤ currentInventoryPosition w p wh
  conserved : ∀ p wh, currentInventoryPosition w p wh - wanted p wh w.salesOrder =
    currentInventoryPosition w₁ p wh - wanted p wh w₁.salesOrder

section
variable {stock : String → String → ℤ} {d : Date} {so : SalesOrder}

variable (stock d so) in
/-- The shipping loop moves the lines, and takes no more than there is. -/
theorem shipLines_moved (lines : List SalesOrderLine) (ledger : List InventoryTransaction)
    (below : ∀ p, inventoryPosition ledger p so.warehouseId ≤ stock p so.warehouseId) :
    List.Forall₂ (LineMoved stock so.warehouseId) lines (shipLines d so lines ledger).1 ∧
      ∀ p wh, inventoryPosition (shipLines d so lines ledger).2.1 p wh ≤ inventoryPosition ledger p wh ∧
        (0 ≤ inventoryPosition ledger p wh → 0 ≤ inventoryPosition (shipLines d so lines ledger).2.1 p wh) := by
  induction lines generalizing ledger with
  | nil => exact ⟨.nil, fun _ _ => ⟨le_rfl, id⟩⟩
  | cons l lines ih =>
    rcases shipLines_cons d so l lines ledger with ⟨-, stays⟩ | ⟨wants, covers, ships⟩
    · rw [stays]
      obtain ⟨moved, less⟩ := ih ledger below
      exact ⟨.cons .stays moved, less⟩
    · rw [ships]
      dsimp only
      have fit : fits stock so.warehouseId l = true := decide_eq_true ⟨wants, covers.trans (below l.productId)⟩
      obtain ⟨moved, less⟩ := ih (ledger ++ [shipmentOf d so l]) fun p => by
        have before := below p
        rw [inventoryPosition_shipmentOf]
        split <;> omega
      refine ⟨.cons (.ships fit) moved, fun p wh => ?_⟩
      obtain ⟨less, nonneg⟩ := less p wh
      rw [inventoryPosition_shipmentOf] at less nonneg
      split at less <;> rename_i here
      · obtain ⟨rfl, rfl⟩ := here
        rw [if_pos ⟨rfl, rfl⟩] at nonneg
        exact ⟨by omega, fun _ => nonneg (by omega)⟩
      · rw [if_neg here] at nonneg
        exact ⟨by omega, fun before => nonneg (by omega)⟩

theorem wanted_modify {rows : List SalesOrder} (keyed : Keyed (·.id) rows) (mem : so ∈ rows)
    {g : SalesOrder → SalesOrder} (warehouse : (g so).warehouseId = so.warehouseId) (p wh : String) :
    wanted p wh (Lib.modify (·.id) so.id g rows) = wanted p wh rows +
      if so.warehouseId = wh then openQuantity p (g so) - openQuantity p so else 0 := by
  rw [wanted, wanted, sumWhere_eq_sum, sumWhere_eq_sum, sum_map_modify keyed mem, warehouse]
  split <;> ring

end

section
variable {env : TickEnv} {d : Date} {w₁ w w' : World}

theorem Underway.refl (w : World) : Underway w w := by
  refine ⟨?_, fun _ _ => le_rfl, fun _ _ => id, fun _ _ => rfl⟩
  refine List.forall₂_same.2 fun so _ => ⟨rfl, rfl, ⟨so.lines, .refl _, ?_⟩, fun _ => rfl⟩
  exact List.forall₂_same.2 fun l _ => .stays

theorem Underway.keyed (h : Underway w₁ w) (keyed : Keyed (·.id) w₁.salesOrder) : Keyed (·.id) w.salesOrder := by
  rw [Keyed, ← map_eq_of_forall₂ h.rows fun so _ so' _ moved => moved.id.symm]
  exact keyed

/-- The row of an order is replaced by what the loop may make of it. -/
theorem Underway.modify (h : Underway w₁ w) (keyed : Keyed (·.id) w₁.salesOrder) {so : SalesOrder}
    (mem₁ : so ∈ w₁.salesOrder) (mem : so ∈ w.salesOrder) {g : SalesOrder → SalesOrder}
    (moved : OrderMoved (currentInventoryPosition w₁) so (g so)) :
    List.Forall₂ (OrderMoved (currentInventoryPosition w₁)) w₁.salesOrder
      (Lib.modify (·.id) so.id g w.salesOrder) := by
  refine forall₂_modify h.rows fun so₁ hso₁ so' hso' related here => ?_
  obtain rfl : so' = so := List.inj_on_of_nodup_map (h.keyed keyed) hso' mem here
  obtain rfl : so₁ = so' := List.inj_on_of_nodup_map keyed hso₁ mem₁ related.id.symm
  exact moved

/-- An iteration moves its own order along, and conserves the stock with what is wanted of it. -/
theorem Underway.step (h : Underway w₁ w) (keyed : Keyed (·.id) w₁.salesOrder) {carriers : List Carrier}
    {so : SalesOrder} (mem₁ : so ∈ w₁.salesOrder) (mem : so ∈ w.salesOrder)
    (step : OrderProgress env d carriers so w w') : Underway w₁ w' := by
  cases step with
  | waits => exact h
  | allocated submitted =>
    refine ⟨h.modify keyed mem₁ mem ⟨rfl, rfl, ⟨so.lines, .refl _, ?_⟩, fun _ => rfl⟩, h.below, h.nonneg,
      fun p wh => ?_⟩
    · exact List.forall₂_same.2 fun l _ => .stays
    · rw [wanted_modify (h.keyed keyed) mem rfl]
      have same := h.conserved p wh
      simp only [openQuantity, sub_self, ite_self, add_zero]
      exact same
  | shipped lines shipments status perm _ =>
    have moved := shipLines_moved (currentInventoryPosition w₁) d so lines w.inventoryTransaction
      fun p => h.below p so.warehouseId
    have allocated : so.status.isAllocated = true := by
      rcases status with status | status <;> rw [status] <;> rfl
    refine ⟨h.modify keyed mem₁ mem ⟨rfl, rfl, ⟨lines, perm, moved.1⟩, fun idle => ?_⟩, fun p wh => ?_,
      fun p wh => ?_, fun p wh => ?_⟩
    · rw [allocated] at idle
      cases idle
    · exact (moved.2 p wh).1.trans (h.below p wh)
    · exact fun first => (moved.2 p wh).2 (h.nonneg p wh first)
    · obtain ⟨shipped, ledger, sums⟩ := shipLines_spec d so lines w.inventoryTransaction
      have same := h.conserved p wh
      have taken := (sums p).2
      have before : openQuantity p so = sumWhere (·.productId = p) SalesOrderLine.remaining lines :=
        (sumWhere_perm _ _ perm).symm
      have after : openQuantity p (shippedOrder (shipLines d so lines w.inventoryTransaction).1 so) =
          sumWhere (·.productId = p) SalesOrderLine.remaining (shipLines d so lines w.inventoryTransaction).1 := rfl
      rw [wanted_modify (h.keyed keyed) mem rfl, before, after, taken, currentInventoryPosition]
      dsimp only
      rw [ledger, inventoryPosition_append, inventoryPosition_shipments]
      rw [currentInventoryPosition] at same
      split <;> omega

/-- The loop in whatever order. -/
theorem progressOpenSalesOrders_underway {events events' : ℕ} (keyed : Keyed (·.id) w₁.salesOrder)
    (run : progressOpenSalesOrders env d events w₁ = .ok events' w) : Underway w₁ w := by
  refine loadedRows_ok (T := World.salesOrder) (P := fun so => so ∈ w₁.salesOrder ∧ so.status.isOpen = true)
    (fun events so w₁ events' w₂ inv mem first step => ?_) (loaded_nodup keyed _ _) events (Underway.refl w₁)
    (fun so h => by simpa using h) (show _ = _ from run)
  have progress := progressSalesOrder_ok env (inv.keyed keyed) mem first.2 step
  exact ⟨inv.step keyed first.1 mem progress, progress.others⟩

end

/-! ## A stock from which all that fits has shipped -/

section
variable {stock : String → String → ℤ}

variable (stock) in
theorem remaining_shipLines (p wh : String) (lines : List SalesOrderLine) :
    sumWhere (·.productId = p) SalesOrderLine.remaining (lines.map (shipLine stock wh)) =
      sumWhere (·.productId = p) SalesOrderLine.remaining lines -
        sumWhere (fun l => l.productId = p ∧ fits stock wh l = true) SalesOrderLine.remaining lines := by
  induction lines with
  | nil => rfl
  | cons l lines ih =>
    rw [List.map_cons, sumWhere_cons, sumWhere_cons, sumWhere_cons, ih]
    by_cases fit : fits stock wh l = true
    · by_cases product : l.productId = p
      · simp [shipLine, fit, product, SalesOrderLine.remaining]
      · simp [shipLine, fit, product]
    · simp [shipLine, fit]
      ring

/-- Where no line that fits is left, all that fits has shipped. -/
theorem OrderMoved.openQuantity {so so' : SalesOrder} (moved : OrderMoved stock so so')
    (gone : ∀ l ∈ so.lines, fits stock so.warehouseId l = true → l ∉ so'.lines) (p : String) :
    Flow.openQuantity p so' = Flow.openQuantity p so - fittingQuantity stock p so := by
  obtain ⟨lines, perm, related⟩ := moved.lines
  have shipped : lines.map (shipLine stock so.warehouseId) = so'.lines.map fun l => l := by
    refine map_eq_of_forall₂ related fun l hl l' hl' step => ?_
    cases step with
    | stays =>
      cases fit : fits stock so.warehouseId l with
      | true => exact absurd hl' (gone l (perm.mem_iff.1 hl) fit)
      | false => simp [shipLine, fit]
    | ships fit => simp [shipLine, fit]
  rw [List.map_id'] at shipped
  have sum := remaining_shipLines stock p so.warehouseId lines
  rw [shipped, sumWhere_perm _ _ perm, sumWhere_perm _ _ perm] at sum
  exact sum

theorem shippable_eq_zero {p wh : String} (none : stock p wh < 0) (rows : List SalesOrder) :
    shippable stock p wh rows = 0 := by
  rw [shippable, sumWhere_eq_sum]
  refine List.sum_eq_zero fun n mem => ?_
  obtain ⟨so, -, rfl⟩ := List.mem_map.1 mem
  split <;> rename_i here
  · refine sumWhere_eq_zero fun l _ fit => ?_
    have range := of_decide_eq_true fit.2
    rw [fit.1, here.1] at range
    omega
  · rfl

theorem Underway.position {w₁ w : World} (h : Underway w₁ w)
    (gone : ∀ so ∈ w₁.salesOrder, so.status.isAllocated = true → ∀ l ∈ so.lines,
      fits (currentInventoryPosition w₁) so.warehouseId l = true →
      ∀ so' ∈ w.salesOrder, so'.id = so.id → l ∉ so'.lines) (p wh : String) :
    currentInventoryPosition w p wh = currentInventoryPosition w₁ p wh -
      shippable (currentInventoryPosition w₁) p wh w₁.salesOrder := by
  have each := map_eq_of_forall₂ h.rows
    (f := fun so => (if so.warehouseId = wh then Flow.openQuantity p so else 0) -
      if so.warehouseId = wh ∧ so.status.isAllocated = true then
        fittingQuantity (currentInventoryPosition w₁) p so else 0)
    (g := fun so => if so.warehouseId = wh then Flow.openQuantity p so else 0)
    fun so mem so' mem' moved => ?_
  · have sums := congrArg List.sum each
    have same := h.conserved p wh
    rw [wanted, wanted, sumWhere_eq_sum, sumWhere_eq_sum] at same
    rw [shippable, sumWhere_eq_sum]
    have split := List.sum_map_add (l := w₁.salesOrder)
      (f := fun so => (if so.warehouseId = wh then Flow.openQuantity p so else 0) -
        if so.warehouseId = wh ∧ so.status.isAllocated = true then
          fittingQuantity (currentInventoryPosition w₁) p so else 0)
      (g := fun so => if so.warehouseId = wh ∧ so.status.isAllocated = true then
        fittingQuantity (currentInventoryPosition w₁) p so else 0)
    simp only [sub_add_cancel] at split
    omega
  · rw [moved.warehouse]
    by_cases here : so.warehouseId = wh
    · cases allocated : so.status.isAllocated with
      | true =>
        have quantity := moved.openQuantity (gone so mem allocated · · · so' mem' moved.id) p
        simp [here, quantity]
      | false =>
        have same : Flow.openQuantity p so' = Flow.openQuantity p so := by
          rw [Flow.openQuantity, Flow.openQuantity, moved.idle allocated]
        simp [here, same]
    · simp [here]

end

/-! ## The first and the last order of the loop -/

section
variable {env : TickEnv} {d : Date} {w w' : World} {so : SalesOrder} {carriers : List Carrier} {events events' : ℕ}

theorem OrderProgress.keyed (h : OrderProgress env d carriers so w w') (keyed : Keyed (·.id) w.salesOrder) :
    Keyed (·.id) w'.salesOrder := by
  cases h with
  | waits => exact keyed
  | allocated => exact keyed.modify fun _ same => same
  | shipped => exact keyed.modify fun _ same => same

/-- Iterations over other orders leave an order alone. -/
theorem progressSalesOrders_others {rows : List SalesOrder} (distinct : (rows.map (·.id)).Nodup)
    (keyed : Keyed (·.id) w.salesOrder) (loaded : ∀ r ∈ rows, r ∈ w.salesOrder ∧ r.status.isOpen = true)
    (mem : so ∈ w.salesOrder) (other : so.id ∉ rows.map (·.id))
    (run : ((rows.map (·.id)).foldlM (progressSalesOrder env d carriers) events : Pass ℕ) w = .ok events' w') :
    Keyed (·.id) w'.salesOrder ∧ so ∈ w'.salesOrder := by
  refine loadedRows_ok (T := World.salesOrder) (I := fun w => Keyed (·.id) w.salesOrder ∧ so ∈ w.salesOrder)
    (P := fun r => r.status.isOpen = true ∧ so.id ≠ r.id)
    (fun events r w events' w' inv mem first step => ?_) distinct events ⟨keyed, mem⟩ (fun r hr => ?_) run
  · have progress := progressSalesOrder_ok env inv.1 mem first.1 step
    exact ⟨⟨progress.keyed inv.1, progress.others env so inv.2 first.2⟩, progress.others⟩
  · exact ⟨(loaded r hr).1, (loaded r hr).2, fun same => other (same ▸ List.mem_map_of_mem hr)⟩

/-- What becomes of the first order stays. -/
theorem progressOpenSalesOrders_first (run : progressOpenSalesOrders env d events w = .ok events' w')
    (keyed : Keyed (·.id) w.salesOrder) {rest : List SalesOrder} (rows : openSalesOrderRows env w = so :: rest) :
    ∃ events₁ w₁, progressSalesOrder env d (activeCarriers env w) events so.id w = .ok events₁ w₁ ∧
      ∀ so' ∈ w₁.salesOrder, so'.id = so.id → so' ∈ w'.salesOrder := by
  have distinct := loaded_nodup keyed env.openSalesOrders (·.status.isOpen)
  have loaded : ∀ r ∈ so :: rest, r ∈ w.salesOrder ∧ r.status.isOpen = true := by
    rw [← rows]
    exact fun r => isOpen_of_loaded
  change ((openSalesOrderRows env w).map (·.id)).foldlM (progressSalesOrder env d (activeCarriers env w)) events w =
    _ at run
  rw [show env.openSalesOrders.rows (w.salesOrder.filter (·.status.isOpen)) = so :: rest from rows] at distinct
  rw [rows, List.map_cons, List.foldlM_cons] at run
  obtain ⟨events₁, w₁, first, later⟩ := bind_eq_ok run
  obtain ⟨fresh, distinct⟩ := List.nodup_cons.1 distinct
  have here := loaded so List.mem_cons_self
  have progress := progressSalesOrder_ok env keyed here.1 here.2 first
  refine ⟨events₁, w₁, first, fun so' mem same => ?_⟩
  refine (progressSalesOrders_others distinct (progress.keyed keyed) (fun r hr => ?_) mem (same ▸ fresh) later).2
  obtain ⟨mem, isOpen⟩ := loaded r (List.mem_cons_of_mem _ hr)
  exact ⟨progress.others env r mem fun same => fresh (List.mem_map.2 ⟨r, hr, same⟩), isOpen⟩

/-- A line that fits and comes first ships. -/
theorem progressSalesOrder_ships (run : progressSalesOrder env d carriers events so.id w = .ok events' w')
    (keyed : Keyed (·.id) w.salesOrder) (mem : so ∈ w.salesOrder) (status : so.status ≠ .submitted)
    {l : SalesOrderLine} {others : List SalesOrderLine} (lines : loadedLines env so = l :: others)
    (distinct : so.lines.Nodup) (fit : fits (currentInventoryPosition w) so.warehouseId l = true) :
    ∃ so' ∈ w'.salesOrder, so'.id = so.id ∧ l ∉ so'.lines := by
  have found : lookup (·.id) so.id w.salesOrder = some so := lookup_of_mem keyed mem
  obtain ⟨wants, covers⟩ := of_decide_eq_true fit
  have once : l ∉ others := by
    have perm := RowOrder.perm (env.salesOrderLines so.id) so.lines
    rw [show (env.salesOrderLines so.id).rows so.lines = l :: others from lines] at perm
    exact (List.nodup_cons.1 (perm.nodup_iff.2 distinct)).1
  simp only [progressSalesOrder, found] at run
  rw [if_neg status, show (env.salesOrderLines so.id).rows so.lines = l :: others from lines] at run
  rcases shipLines_cons d so l others w.inventoryTransaction with ⟨short, -⟩ | ⟨-, -, ships⟩
  · rw [currentInventoryPosition] at covers
    omega
  rw [ships] at run
  dsimp only at run
  have gone : l ∉ ({ l with quantityShipped := l.quantityOrdered } ::
      (shipLines d so others (w.inventoryTransaction ++ [shipmentOf d so l])).1) := by
    have done : ∀ l' : SalesOrderLine, { l' with quantityShipped := l'.quantityOrdered } ≠ l := by
      rintro l' rfl
      simp [SalesOrderLine.remaining] at wants
    rw [List.mem_cons, not_or]
    refine ⟨(done l).symm, fun here => ?_⟩
    exact shipLines_forall d so (P := (· ≠ l)) (fun l' _ => done l') others _
      (fun l' hl' same => once (same ▸ hl')) l here rfl
  rw [if_neg Bool.noConfusion] at run
  have row : shippedOrder ({ l with quantityShipped := l.quantityOrdered } ::
      (shipLines d so others (w.inventoryTransaction ++ [shipmentOf d so l])).1) so ∈
        Lib.modify (·.id) so.id (shippedOrder ({ l with quantityShipped := l.quantityOrdered } ::
          (shipLines d so others (w.inventoryTransaction ++ [shipmentOf d so l])).1)) w.salesOrder :=
    mem_modify.2 ⟨so, mem, (if_pos rfl).symm⟩
  split at run
  · cases run
  · split at run
    · cases run
      exact ⟨_, row, rfl, gone⟩
    · cases run
      exact ⟨_, row, rfl, gone⟩

/-- A submitted order is allocated if the stock it finds covers it, and else stays. -/
theorem progressSalesOrder_submitted (run : progressSalesOrder env d carriers events so.id w = .ok events' w')
    (keyed : Keyed (·.id) w.salesOrder) (mem : so ∈ w.salesOrder) (status : so.status = .submitted) :
    currentInventoryPosition w' = currentInventoryPosition w ∧
      ∃ so' ∈ w'.salesOrder, so'.id = so.id ∧
        (so'.status = .allocated ∧ allAvailable w so so.lines = true ∨ so'.status = .submitted ∧
          allAvailable w so so.lines = false) := by
  have found : lookup (·.id) so.id w.salesOrder = some so := lookup_of_mem keyed mem
  have asked : allAvailable w so ((env.salesOrderLines so.id).rows so.lines) = allAvailable w so so.lines :=
    (RowOrder.perm _ _).all_eq
  simp only [progressSalesOrder, found] at run
  rw [if_pos status, asked] at run
  cases available : allAvailable w so so.lines with
  | true =>
    rw [available, if_pos rfl] at run
    cases run
    exact ⟨rfl, _, mem_modify.2 ⟨so, mem, (if_pos rfl).symm⟩, rfl, .inl ⟨rfl, rfl⟩⟩
  | false =>
    rw [available, if_neg Bool.noConfusion] at run
    cases run
    exact ⟨rfl, so, mem, rfl, .inr ⟨status, rfl⟩⟩

/-- An order that comes last and is allocated is covered by what the others leave. -/
theorem progressOpenSalesOrders_last (run : progressOpenSalesOrders env d events w = .ok events' w')
    (keyed : Keyed (·.id) w.salesOrder) {rest : List SalesOrder} (rows : openSalesOrderRows env w = rest ++ [so])
    (status : so.status = .submitted)
    (allocated : ∀ so' ∈ w'.salesOrder, so'.id = so.id → so'.status = .allocated) :
    ∀ l ∈ so.lines, SalesOrderLine.remaining l ≤ currentInventoryPosition w' l.productId so.warehouseId := by
  have distinct := loaded_nodup keyed env.openSalesOrders (·.status.isOpen)
  have loaded : ∀ r ∈ rest ++ [so], r ∈ w.salesOrder ∧ r.status.isOpen = true := by
    rw [← rows]
    exact fun r => isOpen_of_loaded
  change ((openSalesOrderRows env w).map (·.id)).foldlM (progressSalesOrder env d (activeCarriers env w)) events w =
    _ at run
  rw [show env.openSalesOrders.rows (w.salesOrder.filter (·.status.isOpen)) = rest ++ [so] from rows, List.map_append,
    List.nodup_append] at distinct
  rw [rows, List.map_append, List.foldlM_append] at run
  obtain ⟨events₁, w₁, others, last⟩ := bind_eq_ok run
  have kept := progressSalesOrders_others distinct.1 keyed (fun r hr => loaded r (List.mem_append_left _ hr))
    (loaded so (by simp)).1 (fun taken => distinct.2.2 _ taken _ (by simp) rfl) others
  rw [List.map_singleton, List.foldlM_cons] at last
  obtain ⟨events₂, w₂, step, done⟩ := bind_eq_ok last
  cases done
  obtain ⟨position, so', mem, id, ⟨-, available⟩ | ⟨stays, -⟩⟩ :=
    progressSalesOrder_submitted step kept.1 kept.2 status
  · intro l line
    rw [position]
    exact of_decide_eq_true (List.all_eq_true.1 available l line)
  · rw [allocated so' mem id] at stays
    cases stays

end

end MeadowOps.Flow
