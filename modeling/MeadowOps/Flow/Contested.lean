import MeadowOps.Flow.RowOrders
import MeadowOps.Flow.SalesLoop

/-!
# Where the order of the rows matters

A tick that returns ends in the same state for every order of its rows only where nothing is contested: a
line that fits the stock ships if its order comes first, an order that is covered is allocated if it does,
and a customer orders other products if two of them change places.
-/

namespace MeadowOps.Flow

open Db Lib Scheduler

/-! ## Ticks that return -/

/-- The orders that the customers place. -/
def dailyOrders (env : TickEnv) (d : Date) (w : World) : List SalesOrder :=
  (env.customers.rows (w.master.customer.filter (·.isActive))).filterMap
    (salesOrderFor env d ((env.demandProducts.rows (w.master.product.filter (·.isActive))).map (·.id)))

/-- A flow from `w` to `x` that returns, with the states before and after its loop over the sales orders. -/
structure Returns (env : TickEnv) (d : Date) (w w₁ w₂ x : World) : Prop where
  before : ∃ events, beforeSalesOrders env d w = .ok events w₁
  loop : ∃ events events', progressOpenSalesOrders env d events w₁ = .ok events' w₂
  first : w₁.salesOrder = w.salesOrder
  last : x.salesOrder = w₂.salesOrder ++ dailyOrders env d w
  keyed : Keyed (·.id) x.salesOrder

theorem returns_of_ok {env : TickEnv} {d : Date} {w x : World} {events : ℕ} (wf : Wf w)
    (run : scheduledFlow env d w = .ok events x) : ∃ w₁ w₂, Returns env d w w₁ w₂ x := by
  obtain ⟨passes⟩ := scheduledFlow_passes run
  obtain ⟨shipped, w₁, shipments, orders⟩ := bind_eq_ok passes.sales
  have same1 := (progressPurchaseOrders_sales env).of_ok (SameSales.refl w) passes.receipts
  have same2 := (progressWarehouseTransfers_sales env).of_ok same1 passes.arrivals
  have same3 := (createWarehouseTransfersIfNeeded_sales env).of_ok same2 passes.transfers
  have same4 := (createPurchaseOrdersIfNeeded_sales env).of_ok same3 passes.reorders
  have same5 := (progressShipments_orders env).of_ok same4.1 shipments
  have demand := createSalesOrdersIfNeeded_outcome env d passes.progressed.2
  rw [passes.demand] at demand
  obtain ⟨-, -, ordered⟩ := demand.of_ok
  have last := passes.last
  rw [ordered] at last
  have master := (scheduledFlow_shipments env wf run).master
  refine ⟨w₁, passes.progressed.2, ⟨shipped, ?_⟩, ⟨shipped, _, orders⟩, same5.orders, ?_, ?_⟩
  · rw [beforeSalesOrders, bind_of_ok passes.receipts, bind_of_ok passes.arrivals, bind_of_ok passes.transfers,
      bind_of_ok passes.reorders]
    exact shipments
  · rw [last] at master
    refine (congrArg World.salesOrder last).trans ?_
    rw [dailyOrders, ← master]
    rfl
  · have steps := scheduledFlow_steps env d wf
    rw [run] at steps
    exact (steps.wf wf).salesOrder

/-- Whatever the orders of the rows, the flow returns from `w`, finds `stock` and leaves the rows of `x`. -/
def OneEnd (env : TickEnv) (d : Date) (stock : String → String → ℤ) (w x : World) : Prop :=
  ∀ env', SameDraws env env' → ∃ w₁ w₂ x', Returns env' d w w₁ w₂ x' ∧ SameRows x x' ∧
    currentInventoryPosition w₁ = stock

/-- A query that returns a row first. -/
def RowOrder.startingWith {α : Type} [DecidableEq α] (a : α) : RowOrder α where
  rows l := if a ∈ l then a :: l.erase a else l
  perm l := by
    split
    · exact (List.perm_cons_erase ‹a ∈ l›).symm
    · exact .refl l

/-- A query that returns a row last. -/
def RowOrder.endingWith {α : Type} [DecidableEq α] (a : α) : RowOrder α where
  rows l := if a ∈ l then l.erase a ++ [a] else l
  perm l := by
    split
    · exact (List.perm_append_singleton a _).trans (List.perm_cons_erase ‹a ∈ l›).symm
    · exact .refl l

theorem RowOrder.startingWith_rows {α : Type} [DecidableEq α] {a : α} {l : List α} (mem : a ∈ l) :
    (RowOrder.startingWith a).rows l = a :: l.erase a := if_pos mem

theorem RowOrder.endingWith_rows {α : Type} [DecidableEq α] {a : α} {l : List α} (mem : a ∈ l) :
    (RowOrder.endingWith a).rows l = l.erase a ++ [a] := if_pos mem

section
variable {env : TickEnv} {d : Date} {stock : String → String → ℤ} {w x : World} {so : SalesOrder}

/-- An order that the loop leaves is in every end with the same rows. -/
theorem Returns.mem_end {env' : TickEnv} {w₁ w₂ x' : World} (run : Returns env' d w w₁ w₂ x')
    (rows : SameRows x x') {s : SalesOrder} (mem : s ∈ w₂.salesOrder) :
    ∃ lines, { s with lines := lines } ∈ x.salesOrder ∧ lines.Perm s.lines := by
  have last : s ∈ x'.salesOrder := by
    rw [run.last]
    exact List.mem_append_left _ mem
  obtain ⟨s', here, view⟩ := List.mem_map.1 (rows.salesOrder.mem_iff.2 (List.mem_map_of_mem last))
  obtain ⟨lines, perm, rfl⟩ := salesOrderView_eq.1 view.symm
  exact ⟨lines, here, perm.symm⟩

/-- Two ends with the same rows agree on the row of an order. -/
theorem SameRows.salesOrder_eq {x x' : World} (h : SameRows x x') (keyed : Keyed (·.id) x'.salesOrder)
    {s s' : SalesOrder} (mem : s ∈ x.salesOrder) (mem' : s' ∈ x'.salesOrder) (same : s.id = s'.id) :
    salesOrderView s = salesOrderView s' := by
  obtain ⟨s'', mem'', view⟩ := List.mem_map.1 (h.salesOrder.mem_iff.1 (List.mem_map_of_mem mem))
  obtain ⟨lines, -, rfl⟩ := salesOrderView_eq.1 view.symm
  obtain rfl := List.inj_on_of_nodup_map keyed mem'' mem' same
  exact view.symm

/-- The first iteration of a loop that comes to `so` first, and what each end then shows of the order. -/
theorem OneEnd.first (h : OneEnd env d stock w x) (wf : Wf w) (mem : so ∈ w.salesOrder)
    (isOpen : so.status.isOpen = true) {env' : TickEnv} (draws : SameDraws env env')
    (front : ∀ rows, so ∈ rows → env'.openSalesOrders.rows rows = so :: rows.erase so) :
    ∃ w₁ y carriers events events₁, currentInventoryPosition w₁ = stock ∧ Keyed (·.id) w₁.salesOrder ∧
      so ∈ w₁.salesOrder ∧ progressSalesOrder env' d carriers events so.id w₁ = .ok events₁ y ∧
      ∀ s' ∈ y.salesOrder, s'.id = so.id →
        ∀ s ∈ x.salesOrder, s.id = so.id → salesOrderView s = salesOrderView s' := by
  obtain ⟨w₁, w₂, x', run, rows, first⟩ := h env' draws
  obtain ⟨events, events', loop⟩ := run.loop
  have keyed : Keyed (·.id) w₁.salesOrder := run.first ▸ wf.salesOrder
  have start : so ∈ w₁.salesOrder := run.first ▸ mem
  obtain ⟨events₁, y, step, stays⟩ :=
    progressOpenSalesOrders_first loop keyed (front _ (List.mem_filter.2 ⟨start, isOpen⟩))
  refine ⟨w₁, y, _, events, events₁, first, keyed, start, step, fun s' mem' id s here same => ?_⟩
  have last : s' ∈ x'.salesOrder := by
    rw [run.last]
    exact List.mem_append_left _ (stays s' mem' id)
  exact rows.salesOrder_eq run.keyed here last (same.trans id.symm)

/-- Every line that fits ships, since it would if it came first. -/
theorem OneEnd.gone (h : OneEnd env d stock w x) (wf : Wf w) (mem : so ∈ w.salesOrder)
    (allocated : so.status.isAllocated = true) (distinct : so.lines.Nodup) {l : SalesOrderLine}
    (line : l ∈ so.lines) (fit : fits stock so.warehouseId l = true) {s : SalesOrder} (here : s ∈ x.salesOrder) (same : s.id = so.id) :
    l ∉ s.lines := by
  have isOpen : so.status.isOpen = true ∧ so.status ≠ .submitted := by
    revert allocated
    cases so.status <;> simp [SalesOrderStatus.isAllocated, SalesOrderStatus.isOpen]
  let env' := { env with openSalesOrders := .startingWith so, salesOrderLines := fun _ => .startingWith l }
  have draws : SameDraws env env' := { SameDraws.refl env with }
  obtain ⟨w₁, y, carriers, events, events₁, rfl, keyed, start, step, shows⟩ :=
    h.first wf mem isOpen.1 draws fun rows => RowOrder.startingWith_rows
  obtain ⟨s', mem', id, gone⟩ := progressSalesOrder_ships step keyed start isOpen.2 (if_pos line) distinct fit
  obtain ⟨lines, perm, rfl⟩ := salesOrderView_eq.1 (shows s' mem' id s here same)
  exact fun line => gone (perm.mem_iff.1 line)

/-- Every order that is covered is allocated, since it would be if it came first. -/
theorem OneEnd.allocated (h : OneEnd env d stock w x) (wf : Wf w) (mem : so ∈ w.salesOrder)
    (submitted : so.status = .submitted) (available : covered stock so = true) {s : SalesOrder}
    (here : s ∈ x.salesOrder) (same : s.id = so.id) : s.status = .allocated := by
  have isOpen : so.status.isOpen = true := by rw [submitted]; rfl
  let env' := { env with openSalesOrders := .startingWith so }
  have draws : SameDraws env env' := { SameDraws.refl env with }
  obtain ⟨w₁, y, carriers, events, events₁, rfl, keyed, start, step, shows⟩ :=
    h.first wf mem isOpen draws fun rows => RowOrder.startingWith_rows
  obtain ⟨-, s', mem', id, ⟨status, -⟩ | ⟨-, short⟩⟩ := progressSalesOrder_submitted step keyed start submitted
  · exact (congrArg (fun v => v.1.status) (shows s' mem' id s here same)).trans status
  · rw [show allAvailable w₁ so so.lines = true from available] at short
    cases short

/-- The stock that any run of the loop leaves. -/
theorem OneEnd.position (h : OneEnd env d stock w x) (wf : Wf w) (distinct : ∀ so ∈ w.salesOrder, so.lines.Nodup)
    {env' : TickEnv} {w₁ w₂ x' : World} (run : Returns env' d w w₁ w₂ x') (rows : SameRows x x')
    (first : currentInventoryPosition w₁ = stock) (p wh : String) :
    currentInventoryPosition w₂ p wh = stock p wh - shippable stock p wh w.salesOrder := by
  subst first
  obtain ⟨events, events', loop⟩ := run.loop
  have underway := progressOpenSalesOrders_underway (run.first ▸ wf.salesOrder) loop
  rw [← run.first] at distinct ⊢
  refine underway.position (fun so mem allocated l line fit so' mem' same => ?_) p wh
  obtain ⟨lines, here, perm⟩ := run.mem_end rows mem'
  have gone := h.gone wf (run.first ▸ mem) allocated (distinct so mem) line fit here same
  exact fun line => gone (perm.mem_iff.2 line)

/-- What can ship does not take more than there is. -/
theorem OneEnd.shipping (h : OneEnd env d stock w x) (wf : Wf w) (distinct : ∀ so ∈ w.salesOrder, so.lines.Nodup)
    {p wh : String} (wants : 0 < shippable stock p wh w.salesOrder) :
    shippable stock p wh w.salesOrder ≤ stock p wh := by
  obtain ⟨w₁, w₂, x', run, rows, first⟩ := h env (.refl env)
  obtain ⟨events, events', loop⟩ := run.loop
  have underway := progressOpenSalesOrders_underway (run.first ▸ wf.salesOrder) loop
  have nonneg := underway.nonneg p wh
  rw [first, h.position wf distinct run rows first p wh] at nonneg
  have here : 0 ≤ stock p wh := by
    by_contra less
    exact wants.ne' (shippable_eq_zero (not_le.1 less) _)
  have := nonneg here
  omega

/-- What can ship leaves enough for an order that is covered, since it is allocated when it comes last, too. -/
theorem OneEnd.allocating (h : OneEnd env d stock w x) (wf : Wf w) (distinct : ∀ so ∈ w.salesOrder, so.lines.Nodup)
    (mem : so ∈ w.salesOrder) (submitted : so.status = .submitted) (available : covered stock so = true)
    {l : SalesOrderLine} (line : l ∈ so.lines) :
    SalesOrderLine.remaining l + shippable stock l.productId so.warehouseId w.salesOrder ≤
      stock l.productId so.warehouseId := by
  have isOpen : so.status.isOpen = true := by rw [submitted]; rfl
  let env' := { env with openSalesOrders := .endingWith so }
  have draws : SameDraws env env' := { SameDraws.refl env with }
  obtain ⟨w₁, w₂, x', run, rows, first⟩ := h env' draws
  obtain ⟨events, events', loop⟩ := run.loop
  have keyed : Keyed (·.id) w₁.salesOrder := run.first ▸ wf.salesOrder
  have listed : so ∈ w₁.salesOrder.filter (·.status.isOpen) := List.mem_filter.2 ⟨run.first ▸ mem, isOpen⟩
  have allocated : ∀ so' ∈ w₂.salesOrder, so'.id = so.id → so'.status = .allocated := by
    intro so' mem' id
    obtain ⟨lines, here, -⟩ := run.mem_end rows mem'
    exact h.allocated (s := { so' with lines := lines }) wf mem submitted available here id
  have left := progressOpenSalesOrders_last loop keyed (RowOrder.endingWith_rows listed) submitted allocated l line
  rw [h.position wf distinct run rows first] at left
  omega

/-- One end for all orders of the rows leaves nothing to contest. -/
theorem OneEnd.uncontested (h : OneEnd env d stock w x) (wf : Wf w)
    (distinct : ∀ so ∈ w.salesOrder, so.lines.Nodup) {w₁ : World} (orders : w₁.salesOrder = w.salesOrder)
    (first : currentInventoryPosition w₁ = stock) : Uncontested w₁ where
  shipping p wh := by
    rw [first, orders]
    exact h.shipping wf distinct
  allocating so mem submitted available l line := by
    rw [first, orders]
    rw [allAvailable, first] at available
    exact h.allocating wf distinct (orders ▸ mem) submitted available line

end

/-! ## The products of an order -/

/-- `random.sample` draws positions, whatever stands there. -/
def SamplesPositions (rng : Rng) : Prop :=
  ∀ (k : ℕ) (l : List String) (n : ℕ) (f : String → String), rng.sample k (l.map f) n = (rng.sample k l n).map f

section
variable {rng : Rng}

theorem getElem?_demandLines (k : ℕ) (chosen : List String) (i : ℕ) :
    (demandLines rng k chosen)[i]? = chosen[i]?.map fun p => ⟨p, pickDemandQuantity rng (k + i), 0⟩ := by
  induction chosen generalizing k i with
  | nil => rfl
  | cons p chosen ih =>
    cases i with
    | zero => rfl
    | succ i =>
      rw [demandLines, List.getElem?_cons_succ, List.getElem?_cons_succ, ih, Nat.add_assoc, Nat.add_comm 1]

theorem demandLines_products (k : ℕ) (chosen : List String) :
    (demandLines rng k chosen).map (·.productId) = chosen := by
  induction chosen generalizing k with
  | nil => rfl
  | cons p chosen ih => rw [demandLines, List.map_cons, ih]

/-- Two products that change places change their quantities. -/
theorem swapped_quantities_differ {k i : ℕ} {picked : List String} (distinct : picked.Nodup)
    (first : 0 < picked.length) (here : i < picked.length)
    (ne : pickDemandQuantity rng (k + i) ≠ pickDemandQuantity rng k) :
    ¬ (demandLines rng k picked).Perm
      (demandLines rng k (picked.map (Equiv.swap picked[0] picked[i]))) := by
  intro same
  have line : (⟨picked[0], pickDemandQuantity rng (k + i), 0⟩ : SalesOrderLine) ∈
      demandLines rng k (picked.map (Equiv.swap picked[0] picked[i])) := by
    rw [List.mem_iff_getElem?]
    refine ⟨i, ?_⟩
    rw [getElem?_demandLines, List.getElem?_map, List.getElem?_eq_getElem here]
    simp
  obtain ⟨j, at_⟩ := List.mem_iff_getElem?.1 (same.mem_iff.2 line)
  rw [getElem?_demandLines, Option.map_eq_some_iff] at at_
  obtain ⟨p, found, eq⟩ := at_
  obtain ⟨rfl, quantity, -⟩ := SalesOrderLine.mk.inj eq
  obtain ⟨small, same₀⟩ := List.getElem?_eq_some_iff.1 found
  obtain rfl : j = 0 := distinct.getElem_inj_iff.1 same₀
  exact ne quantity.symm

/-- A product that was left out takes the place of one that was chosen. -/
theorem swapped_products_differ (k : ℕ) {picked : List String} {a b : String} (chosen : a ∈ picked)
    (out : b ∉ picked) : ¬ (demandLines rng k picked).Perm (demandLines rng k (picked.map (Equiv.swap a b))) := by
  intro same
  have products := same.map (·.productId)
  rw [demandLines_products, demandLines_products] at products
  obtain ⟨c, hc, swapped⟩ := List.mem_map.1 (products.mem_iff.1 chosen)
  obtain rfl : c = b := (Equiv.swap a b).injective (swapped.trans (Equiv.swap_apply_right a b).symm)
  exact out hc

/-- Where the order is not settled, two products can be swapped for other lines. -/
theorem lines_differ {ids : List String} (distinct : ids.Nodup) (many : 1 < ids.length)
    (unsettled : ¬ (rng.randint 1 1 (min 3 ids.length) = ids.length ∧
      ∀ i < ids.length, pickDemandQuantity rng (4 + i) = pickDemandQuantity rng 4)) :
    ∃ a ∈ ids, ∃ b ∈ ids, ¬ (demandLines rng 4 (pickDemandProducts rng 1 ids)).Perm
      (demandLines rng 4 ((pickDemandProducts rng 1 ids).map (Equiv.swap a b))) := by
  have range := rng.randint_range 1 1 (min 3 ids.length) (by omega)
  have some : ids ≠ [] := by
    rintro rfl
    cases many
  have chosen : pickDemandProducts rng 1 ids = rng.sample 2 ids (rng.randint 1 1 (min 3 ids.length)).toNat := by
    rw [pickDemandProducts, if_neg (by simpa using some)]
  have sub : (pickDemandProducts rng 1 ids).Subperm ids := chosen ▸ rng.sample_subperm 2 ids _
  have length : (pickDemandProducts rng 1 ids).length = (rng.randint 1 1 (min 3 ids.length)).toNat := by
    rw [chosen]
    exact rng.sample_length 2 ids _ (by omega)
  generalize pickDemandProducts rng 1 ids = picked at sub length
  have first : 0 < picked.length := by omega
  by_cases all : rng.randint 1 1 (min 3 ids.length) = ids.length
  · have perm : picked.Perm ids := sub.perm_of_length_le (by omega)
    simp only [all, true_and, not_forall] at unsettled
    obtain ⟨i, less, ne⟩ := unsettled
    have here : i < picked.length := by omega
    exact ⟨picked[0], perm.mem_iff.1 (List.getElem_mem first), picked[i], perm.mem_iff.1 (List.getElem_mem here),
      swapped_quantities_differ (perm.nodup_iff.2 distinct) first here ne⟩
  · obtain ⟨b, hb, out⟩ : ∃ b ∈ ids, b ∉ picked := by
      by_contra! none
      have := (distinct.subperm none).length_le
      omega
    exact ⟨picked[0], sub.subset (List.getElem_mem first), b, hb,
      swapped_products_differ 4 (List.getElem_mem first) out⟩

end

/-! ## What one end needs -/

/-- A query whose rows `a` and `b` change places. -/
def RowOrder.swapped {α : Type} [DecidableEq α] (o : RowOrder α) (a b : α) : RowOrder α where
  rows l := if l.Nodup ∧ a ∈ l ∧ b ∈ l then (o.rows l).map (Equiv.swap a b) else o.rows l
  perm l := by
    split
    · rename_i h
      exact (map_swap_perm ((o.perm l).nodup_iff.2 h.1) (o.mem_rows.2 h.2.1) (o.mem_rows.2 h.2.2)).trans (o.perm l)
    · exact o.perm l

section
variable {env env' : TickEnv} {d : Date} {stock : String → String → ℤ} {w x : World} {customer : Customer}

/-- The order of a customer that draws one. -/
theorem salesOrderFor_some (env : TickEnv) {ids : List String}
    (orders : (env.rng d (.demand customer.id)).random 0 < newOrderProbabilityPerCustomer)
    (chosen : pickDemandProducts (env.rng d (.demand customer.id)) 1 ids ≠ []) :
    ∃ so, salesOrderFor env d ids customer = some so ∧ so.id = env.salesOrderId customer.id ∧
      so.lines = demandLines (env.rng d (.demand customer.id)) 4
        (pickDemandProducts (env.rng d (.demand customer.id)) 1 ids) := by
  unfold salesOrderFor
  dsimp only
  rw [if_neg (not_le.2 orders), if_neg (by simpa using chosen)]
  exact ⟨_, rfl, rfl, rfl⟩

theorem pickDemandProducts_map {rng : Rng} (positions : SamplesPositions rng) (k : ℕ) (ids : List String)
    (f : String → String) : pickDemandProducts rng k (ids.map f) = (pickDemandProducts rng k ids).map f := by
  cases ids with
  | nil => rfl
  | cons p ids =>
    simp only [pickDemandProducts, List.isEmpty_cons, List.map_cons, Bool.false_eq_true, if_false]
    rw [← List.map_cons, positions, List.length_map]

theorem ids_swapped {rows : List Product} (o : RowOrder Product) (keyed : Keyed (·.id) rows) {a b : Product}
    (ha : a ∈ rows) (hb : b ∈ rows) :
    ((o.swapped a b).rows rows).map (·.id) = ((o.rows rows).map (·.id)).map (Equiv.swap a.id b.id) := by
  have shown : (o.swapped a b).rows rows = (o.rows rows).map (Equiv.swap a b) :=
    if_pos ⟨keyed.of_map, ha, hb⟩
  rw [shown, List.map_map, List.map_map]
  refine List.map_congr_left fun r mem => ?_
  have here := o.mem_rows.1 mem
  have apart : ∀ r' ∈ rows, r ≠ r' → r.id ≠ r'.id := fun r' mem' ne same =>
    ne (List.inj_on_of_nodup_map keyed here mem' same)
  rw [Function.comp_apply, Function.comp_apply]
  by_cases isA : r = a
  · rw [isA, Equiv.swap_apply_left, Equiv.swap_apply_left]
  · by_cases isB : r = b
    · rw [isB, Equiv.swap_apply_right, Equiv.swap_apply_right]
    · rw [Equiv.swap_apply_of_ne_of_ne isA isB,
        Equiv.swap_apply_of_ne_of_ne (apart a ha isA) (apart b hb isB)]

/-- Two runs with one end give a customer one order. -/
theorem OneEnd.lines_perm (h : OneEnd env d stock w x) (draws : SameDraws env env') {so so' : SalesOrder}
    (mem : so ∈ dailyOrders env d w) (mem' : so' ∈ dailyOrders env' d w) (same : so.id = so'.id) :
    so.lines.Perm so'.lines := by
  obtain ⟨w₁, w₂, x₁, run₁, rows₁, -⟩ := h env (.refl env)
  obtain ⟨w₁', w₂', x₂, run₂, rows₂, -⟩ := h env' draws
  have last : so ∈ x₁.salesOrder := run₁.last ▸ List.mem_append_right _ mem
  have last' : so' ∈ x₂.salesOrder := run₂.last ▸ List.mem_append_right _ mem'
  obtain ⟨s, here, view⟩ := List.mem_map.1 (rows₁.salesOrder.mem_iff.2 (List.mem_map_of_mem last))
  have id : s.id = so.id := congrArg (fun v => v.1.id) view
  have both := view.symm.trans (rows₂.salesOrder_eq run₂.keyed here last' (id.trans same))
  obtain ⟨lines, perm, rfl⟩ := salesOrderView_eq.1 both
  exact perm

/-- A customer whose order hangs on the order of the products orders something else where two of them swap. -/
theorem OneEnd.settled (h : OneEnd env d stock w x) (keyed : KeyedMaster w.master)
    (positions : ∀ purpose, SamplesPositions (env.rng d purpose)) (mem : customer ∈ w.master.customer)
    (active : customer.isActive = true) :
    OrderSettled (env.rng d (.demand customer.id)) (w.master.product.countP (·.isActive)) := by
  have loaded := RowOrder.perm env.demandProducts (w.master.product.filter (·.isActive))
  have distinct := loaded_nodup keyed.product env.demandProducts (·.isActive)
  have length : ((env.demandProducts.rows (w.master.product.filter (·.isActive))).map (·.id)).length =
      w.master.product.countP (·.isActive) := by
    rw [List.length_map, loaded.length_eq, List.countP_eq_length_filter]
  by_contra unsettled
  rw [← length, OrderSettled, not_or, not_or, not_le] at unsettled
  obtain ⟨orders, many, hangs⟩ := unsettled
  obtain ⟨a, ha, b, hb, differ⟩ := lines_differ distinct (not_le.1 many) hangs
  obtain ⟨ra, memA, rfl⟩ := List.mem_map.1 ha
  obtain ⟨rb, memB, rfl⟩ := List.mem_map.1 hb
  have swapped := ids_swapped env.demandProducts (keyed.product.sublist (List.filter_sublist.map _))
    (loaded.mem_iff.1 memA) (loaded.mem_iff.1 memB)
  have chosen := pickDemandProducts_map (positions (.demand customer.id)) 1
    ((env.demandProducts.rows (w.master.product.filter (·.isActive))).map (·.id)) (Equiv.swap ra.id rb.id)
  rw [← swapped] at chosen
  have some : pickDemandProducts (env.rng d (.demand customer.id)) 1
      ((env.demandProducts.rows (w.master.product.filter (·.isActive))).map (·.id)) ≠ [] := by
    intro none
    exact differ (by rw [none]; exact .refl _)
  have some' : pickDemandProducts (env.rng d (.demand customer.id)) 1
      (((env.demandProducts.swapped ra rb).rows (w.master.product.filter (·.isActive))).map (·.id)) ≠ [] := by
    rw [chosen]
    simpa using some
  let env' := { env with demandProducts := env.demandProducts.swapped ra rb }
  have draws : SameDraws env env' := { SameDraws.refl env with }
  obtain ⟨so, placed, id, lines⟩ := salesOrderFor_some env orders some
  obtain ⟨so', placed', id', lines'⟩ := salesOrderFor_some env' orders some'
  have here := env.customers.mem_rows.2 (List.mem_filter.2 ⟨mem, active⟩)
  have perm := h.lines_perm draws (List.mem_filterMap.2 ⟨customer, here, placed⟩)
    (List.mem_filterMap.2 ⟨customer, here, placed'⟩) (id.trans id'.symm)
  rw [lines, lines', chosen] at perm
  exact differ perm

end

/-! ## The tick -/

section
variable {env env' : TickEnv} {d : Date} {w w' : World} {t : Tx (Database World)}

theorem beforeSalesOrders_agrees (draws : SameDraws env env') (d : Date) :
    Agrees Alike (beforeSalesOrders env d) (beforeSalesOrders env' d) := by
  intro w w' h
  refine (progressPurchaseOrders_agrees d draws w w' h).bind fun _ w1 w1' _ _ h1 => ?_
  refine (progressWarehouseTransfers_agrees env env' d w1 w1' h1).bind fun _ w2 w2' _ _ h2 => ?_
  refine (createWarehouseTransfersIfNeeded_agrees d draws w2 w2' h2).bind fun _ w3 w3' _ _ h3 => ?_
  refine (createPurchaseOrdersIfNeeded_agrees draws w3 w3' h3).bind fun _ w4 w4' _ _ h4 => ?_
  exact progressShipments_agrees d draws w4 w4' h4

theorem OrderFree.congr (free : OrderFree env d w) (draws : SameDraws env env') (h : Alike w w) :
    OrderFree env' d w where
  stock events w₁' run' := by
    have before := beforeSalesOrders_agrees draws d w w h
    rw [run'] at before
    generalize run : beforeSalesOrders env d w = r at before
    cases before with
    | returned _ alike => exact (free.stock events _ run).congr alike.toSameRows
  demand customer mem active := draws.rng ▸ free.demand customer mem active

/-- The tick ends in one state, whatever the orders of the rows. -/
def IgnoresRowOrders (env : TickEnv) (d : Date) (t : Tx (Database World)) : Prop :=
  ∀ env₁ env₂, SameDraws env env₁ → SameDraws env env₂ →
    SameSession (endState (tick env₁ d t)) (endState (tick env₂ d t))

/-- The flow raises, whatever the orders of the rows. -/
def AlwaysRaises (env : TickEnv) (d : Date) (w : World) : Prop :=
  ∀ env', SameDraws env env' → ∃ e w', scheduledFlow env' d w = .error e w'

/-- A tick that ends as one that returned has returned, with the same rows. -/
theorem SameSession.returns (same : SameSession (endState (tick env d t)) (endState (tick env' d t))) {events : ℕ}
    (run : scheduledFlow env d t.pending.tables = .ok events w) :
    ∃ events' w', scheduledFlow env' d t.pending.tables = .ok events' w' ∧ SameRows w w' := by
  cases run' : scheduledFlow env' d t.pending.tables with
  | ok events' w' =>
    rw [tick, tick, runScheduledTick_ok _ run, runScheduledTick_ok _ run'] at same
    exact ⟨events', w', rfl, same.pending.tables⟩
  | error e w' =>
    rw [tick, tick, runScheduledTick_ok _ run, runScheduledTick_error _ run'] at same
    have logged := congrArg List.getLast? same.pending.scheduledTick
    simp [endState, addTick] at logged

/-- Where some flow returns and the orders of the rows do not matter, every flow has its end. -/
theorem IgnoresRowOrders.oneEnd (h : IgnoresRowOrders env d t) (alike : Alike t.pending.tables t.pending.tables)
    (draws : SameDraws env env') {events : ℕ} (run : scheduledFlow env' d t.pending.tables = .ok events w) :
    ∃ stock, OneEnd env d stock t.pending.tables w := by
  obtain ⟨w₁, w₂, returns⟩ := returns_of_ok alike.wf run
  refine ⟨currentInventoryPosition w₁, fun env₁ draws₁ => ?_⟩
  obtain ⟨events₁, x, run₁, rows⟩ := (h env' env₁ draws draws₁).returns run
  obtain ⟨w₁', w₂', returns₁⟩ := returns_of_ok alike.wf run₁
  refine ⟨w₁', w₂', x, returns₁, rows, ?_⟩
  obtain ⟨shipped, before⟩ := returns.before
  obtain ⟨shipped₁, before₁⟩ := returns₁.before
  have same := beforeSalesOrders_agrees (draws.symm.trans draws₁) d _ _ alike
  rw [before, before₁] at same
  cases same with
  | returned _ alike => exact (currentInventoryPosition_congr alike.toSameRows).symm

theorem OneEnd.orderFree {stock : String → String → ℤ} (h : OneEnd env d stock w w') (alike : Alike w w)
    (distinct : ∀ so ∈ w.salesOrder, so.lines.Nodup)
    (positions : ∀ purpose, SamplesPositions (env.rng d purpose)) :
    OrderFree env d w where
  stock events w₁ run := by
    obtain ⟨w₁', w₂, x', returns, -, first⟩ := h env (.refl env)
    obtain ⟨shipped, before⟩ := returns.before
    rw [run] at before
    cases before
    exact h.uncontested alike.wf distinct returns.first first
  demand customer mem active := h.settled alike.keyed positions mem active

/-- A tick ends in one state, whatever the orders of the rows, if and only if it raises for all of them, or no
stock is contested and no customer's order hangs on the order of the products. No two lines of an order are
alike: the demand pass takes a product once. -/
theorem ignoresRowOrders_iff (wf : Wf t.pending.tables) (keyed : KeyedMaster t.pending.tables.master)
    (snapshots : Keyed InventorySnapshot.grain t.pending.tables.inventorySnapshot)
    (distinct : ∀ so ∈ t.pending.tables.salesOrder, so.lines.Nodup)
    (positions : ∀ purpose, SamplesPositions (env.rng d purpose)) :
    IgnoresRowOrders env d t ↔ OrderFree env d t.pending.tables ∨ AlwaysRaises env d t.pending.tables := by
  have alike : Alike t.pending.tables t.pending.tables := ⟨SameRows.refl _, wf, keyed, snapshots⟩
  constructor
  · intro h
    by_cases raises : AlwaysRaises env d t.pending.tables
    · exact .inr raises
    · simp only [AlwaysRaises, not_forall] at raises
      obtain ⟨env', draws, returned⟩ := raises
      cases run : scheduledFlow env' d t.pending.tables with
      | error e w' => exact absurd ⟨e, w', run⟩ returned
      | ok events x =>
        obtain ⟨stock, oneEnd⟩ := h.oneEnd alike draws run
        exact .inl (oneEnd.orderFree alike distinct positions)
  · rintro (free | raises) env₁ env₂ draws₁ draws₂
    · exact tick_ignores_row_orders (draws₁.symm.trans draws₂) d t wf keyed snapshots (free.congr draws₁ alike)
    · obtain ⟨e, w₁, run⟩ := raises env₁ draws₁
      obtain ⟨e', w₂, run'⟩ := raises env₂ draws₂
      rw [tick, tick, runScheduledTick_error _ run, runScheduledTick_error _ run']
      exact ⟨.refl _, .refl _, rfl⟩

end

/-- The last open sales order comes first. -/
def TickEnv.backwards (env : TickEnv) : TickEnv :=
  { env with openSalesOrders := ⟨List.reverse, fun l => l.reverse_perm⟩ }

theorem sameDraws_backwards (env : TickEnv) : SameDraws env env.backwards :=
  { SameDraws.refl env with }

/-- Two orders of ten boxes each, both allocated, and twenty boxes. -/
def twoAllocated : World := { World.empty (boxesFor ["left", "right"]) with
  salesOrder := [⟨1, "SO-1", "left", "main", monday, monday + 2, some (monday + 2), .allocated, [⟨"boxes", 10, 0⟩]⟩,
    ⟨2, "SO-2", "right", "main", monday, monday + 2, some (monday + 2), .allocated, [⟨"boxes", 10, 0⟩]⟩]
  inventoryTransaction := [⟨simDatetime monday, "boxes", "main", .receipt, 20, none, none⟩] }

theorem twoAllocated_uncontested {w : World} (orders : w.salesOrder = twoAllocated.salesOrder)
    (ledger : w.inventoryTransaction = twoAllocated.inventoryTransaction) : Uncontested w := by
  have stock : currentInventoryPosition w = currentInventoryPosition twoAllocated := by
    funext p wh
    rw [currentInventoryPosition, ledger]
    rfl
  constructor
  · intro p wh
    rw [stock, orders]
    by_cases boxes : p = "boxes"
    · by_cases main : wh = "main"
      · subst boxes main
        decide +kernel
      · simp [shippable, twoAllocated, Ne.symm main]
    · simp [shippable, fittingQuantity, twoAllocated, Ne.symm boxes]
  · rw [orders]
    intro so mem submitted
    simp only [twoAllocated, List.mem_cons, List.not_mem_nil, or_false] at mem
    rcases mem with rfl | rfl <;> cases submitted

/-- With stock for both orders the rows may come in any order. -/
theorem ignoresRowOrders_enough :
    IgnoresRowOrders orderOnMonday (monday + 3) (Tx.start ⟨⟨monday + 2, .running⟩, [], twoAllocated⟩) := by
  have free : OrderFree orderOnMonday (monday + 3) twoAllocated := by
    constructor
    · intro events w run
      have orders : (endState (beforeSalesOrders orderOnMonday (monday + 3) twoAllocated)).salesOrder =
          twoAllocated.salesOrder := by decide +kernel
      have ledger : (endState (beforeSalesOrders orderOnMonday (monday + 3) twoAllocated)).inventoryTransaction =
          twoAllocated.inventoryTransaction := by decide +kernel
      rw [run] at orders ledger
      exact twoAllocated_uncontested orders ledger
    · intro customer _ _
      left
      show (15 / 100 : ℚ) ≤ 9 / 10
      norm_num
  have positions : ∀ purpose, SamplesPositions (orderOnMonday.rng (monday + 3) purpose) := by
    intro purpose k l n f
    cases purpose <;> exact (List.map_take).symm
  refine (ignoresRowOrders_iff ⟨?_, ?_, ?_, ?_⟩ ⟨?_, ?_, ?_, ?_⟩ ?_ (by decide) positions).2 (.inl free) <;>
    (unfold Keyed; decide)

/-- After the three days the twenty boxes are promised to both customers: the order whose row comes first gets
them, and the other nothing. -/
theorem first_row_ships :
    let t := threeDays.foldl runStep (Tx.start (beforeOrders ["left", "right"]))
    SameDraws orderOnMonday orderOnMonday.backwards ∧
      ¬ SameSession (endState (tick orderOnMonday (monday + 3) t)) (endState (tick orderOnMonday.backwards (monday + 3) t)) := by
  refine ⟨sameDraws_backwards _, fun same => ?_⟩
  have statuses := same.pending.tables.salesOrder.map_perm fun so so' same =>
    show (so.customerId, so.status) = (so'.customerId, so'.status) from
      congrArg (fun v => (v.1.customerId, v.1.status)) same
  exact absurd statuses (by decide +kernel)

end MeadowOps.Flow
