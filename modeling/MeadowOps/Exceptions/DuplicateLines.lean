import MeadowOps.Exceptions.DuplicateOrders

/-!
# Orders and lines in the rule for duplicates

`_duplicate_purchase_order_evaluations` counts the rows of a join, which are order lines. What it should
count are the orders of a group.
-/

namespace MeadowOps.Exceptions

open Db Lib MeadowOps.Flow

/-- Supplier, warehouse, expected delivery date and product. -/
abbrev OrderGroup := String × String × Date × String

/-- `EntityKey(purchase_order_id=id)`. -/
def orderKey (id : Uuid) : EntityKey := { EntityKey.none with purchaseOrderId := some id }

/-- The lines of an order that are for the product of a group. -/
def groupLinesOf (g : OrderGroup) (po : PurchaseOrder) : ℕ := po.lines.countP (·.productId = g.2.2.2)

/-- An open order of a group. -/
def inGroup (g : OrderGroup) (po : PurchaseOrder) : Bool :=
  po.status.isOpen && decide (po.supplierId = g.1 ∧ po.warehouseId = g.2.1 ∧
    po.expectedDeliveryDate = g.2.2.1) && decide (0 < groupLinesOf g po)

def groupOrders (w : World) (g : OrderGroup) : List PurchaseOrder := w.purchaseOrder.filter (inGroup g)

/-- The rows that the join has for a group. -/
def groupLines (w : World) (g : OrderGroup) : ℕ := (openOrderRows w).countP (·.group = g)

/-- By `order_date`, then by `id`. -/
def PlacedBefore (a b : PurchaseOrder) : Prop :=
  a.orderDate < b.orderDate ∨ a.orderDate = b.orderDate ∧ a.id ≤ b.id

instance (a b : PurchaseOrder) : Decidable (PlacedBefore a b) := by
  unfold PlacedBefore
  infer_instance

/-- The first order of a group. -/
def Original (w : World) (g : OrderGroup) (po : PurchaseOrder) : Prop :=
  ∀ other ∈ groupOrders w g, PlacedBefore po other

/-- A later order of a group of more than `thresholdCount` orders. -/
def IsDuplicate (thresholdCount : ℤ) (w : World) (g : OrderGroup) (po : PurchaseOrder) : Prop :=
  thresholdCount < (groupOrders w g).length ∧ po ∈ groupOrders w g ∧ ¬ Original w g po

/-- What the rule is for: the duplicates are flagged, each with the size of a group it is in. -/
structure FlagsDuplicates (thresholdCount : ℤ) (w : World) (evaluations : Dict EntityKey Evaluation) :
    Prop where
  flagged : ∀ key, (evaluations.get? key).isSome = true ↔
    ∃ g po, IsDuplicate thresholdCount w g po ∧ key = orderKey po.id
  measured : ∀ key e, evaluations.get? key = some e → e.isFlagged = some true ∧
    ∃ g, ∃ po ∈ groupOrders w g, key = orderKey po.id ∧
      e.measuredValue = some ((groupOrders w g).length : ℚ)

/-- Where a group of more than `thresholdCount` lines has an order with the product on two lines, every
order on a line that is not the first one is a duplicate in some group, and in a group with as many orders
as there are lines. -/
def LinesStandForOrders (thresholdCount : ℤ) (w : World) : Prop :=
  ∀ g, thresholdCount < groupLines w g → (∃ po ∈ groupOrders w g, 2 ≤ groupLinesOf g po) →
    ∀ po ∈ groupOrders w g, (Original w g po → 2 ≤ groupLinesOf g po) →
      (∃ g', IsDuplicate thresholdCount w g' po) ∧
        ∃ g', po ∈ groupOrders w g' ∧ (groupOrders w g').length = groupLines w g

/-! ## The lines of the orders -/

section Rows
variable {w : World} {g : OrderGroup}

theorem group_openOrderRowsOf (po : PurchaseOrder) (r : OpenOrderRow) :
    r ∈ openOrderRowsOf po ∧ r.group = g ↔
      (po.supplierId = g.1 ∧ po.warehouseId = g.2.1 ∧ po.expectedDeliveryDate = g.2.2.1) ∧
        ∃ l ∈ po.lines, l.productId = g.2.2.2 ∧
          r = ⟨po.id, po.supplierId, po.warehouseId, po.expectedDeliveryDate, po.orderDate, l.productId⟩ := by
  obtain ⟨supplier, warehouse, date, product⟩ := g
  rw [openOrderRowsOf, List.mem_map]
  constructor
  · rintro ⟨⟨l, mem, rfl⟩, same⟩
    simp only [OpenOrderRow.group, Prod.mk.injEq] at same
    exact ⟨⟨same.1, same.2.1, same.2.2.1⟩, l, mem, same.2.2.2, rfl⟩
  · rintro ⟨⟨rfl, rfl, rfl⟩, l, mem, rfl, rfl⟩
    exact ⟨⟨l, mem, rfl⟩, rfl⟩

theorem mem_groupOrders {po : PurchaseOrder} : po ∈ groupOrders w g ↔ po ∈ w.purchaseOrder ∧
    po.status.isOpen = true ∧ (po.supplierId = g.1 ∧ po.warehouseId = g.2.1 ∧
      po.expectedDeliveryDate = g.2.2.1) ∧ 0 < groupLinesOf g po := by
  simp [groupOrders, inGroup, and_assoc]

/-- The rows of a group are the lines of its orders. -/
theorem mem_groupRows {r : OpenOrderRow} : r ∈ openOrderRows w ∧ r.group = g ↔
    ∃ po ∈ groupOrders w g, r = ⟨po.id, g.1, g.2.1, g.2.2.1, po.orderDate, g.2.2.2⟩ := by
  rw [openOrderRows, List.mem_flatMap]
  constructor
  · rintro ⟨⟨po, mem, row⟩, same⟩
    obtain ⟨memPo, isOpen⟩ := List.mem_filter.1 mem
    obtain ⟨columns, l, memL, product, rfl⟩ := (group_openOrderRowsOf po r).1 ⟨row, same⟩
    refine ⟨po, mem_groupOrders.2 ⟨memPo, isOpen, columns, ?_⟩, ?_⟩
    · exact List.countP_pos_iff.2 ⟨l, memL, decide_eq_true product⟩
    · rw [columns.1, columns.2.1, columns.2.2, product]
  · rintro ⟨po, mem, rfl⟩
    obtain ⟨memPo, isOpen, columns, some'⟩ := mem_groupOrders.1 mem
    obtain ⟨l, memL, product⟩ := List.countP_pos_iff.1 some'
    have row := (group_openOrderRowsOf (g := g) po ⟨po.id, g.1, g.2.1, g.2.2.1, po.orderDate, g.2.2.2⟩).2
      ⟨columns, l, memL, of_decide_eq_true product, by
        rw [columns.1, columns.2.1, columns.2.2, of_decide_eq_true product]⟩
    exact ⟨⟨po, List.mem_filter.2 ⟨memPo, isOpen⟩, row.1⟩, row.2⟩

/-- The rows of a group are counted by order. -/
theorem countP_rows (g : OrderGroup) (q : Uuid → Bool) (orders : List PurchaseOrder) :
    ((orders.filter (·.status.isOpen)).flatMap openOrderRowsOf).countP
        (fun r => decide (r.group = g) && q r.id) =
      (((orders.filter (inGroup g)).filter fun po => q po.id).map (groupLinesOf g)).sum := by
  have rows : ∀ po : PurchaseOrder, (openOrderRowsOf po).countP (fun r => decide (r.group = g) && q r.id) =
      if (po.supplierId = g.1 ∧ po.warehouseId = g.2.1 ∧ po.expectedDeliveryDate = g.2.2.1) ∧ q po.id = true
        then groupLinesOf g po else 0 := by
    intro po
    obtain ⟨supplier, warehouse, date, product⟩ := g
    rw [openOrderRowsOf, List.countP_map]
    split
    · rename_i both
      obtain ⟨⟨rfl, rfl, rfl⟩, counted⟩ := both
      apply List.countP_congr
      intro l _
      simp [OpenOrderRow.group, counted]
    · rename_i apart
      rw [List.countP_eq_zero]
      intro l _ counted
      simp only [Function.comp_apply, OpenOrderRow.group, Bool.and_eq_true, decide_eq_true_eq,
        Prod.mk.injEq] at counted
      exact apart ⟨⟨counted.1.1, counted.1.2.1, counted.1.2.2.1⟩, counted.2⟩
  induction orders with
  | nil => rfl
  | cons po orders ih =>
    cases isOpen : po.status.isOpen with
    | false =>
      have out : inGroup g po = false := by simp [inGroup, isOpen]
      simp only [List.filter_cons, isOpen, out, Bool.false_eq_true, if_false]
      exact ih
    | true =>
      rw [List.filter_cons, if_pos isOpen, List.flatMap_cons, List.countP_append, ih, rows]
      by_cases columns : po.supplierId = g.1 ∧ po.warehouseId = g.2.1 ∧ po.expectedDeliveryDate = g.2.2.1
      · by_cases none : groupLinesOf g po = 0
        · have out : inGroup g po = false := by simp [inGroup, none]
          simp [out, none]
        · have inside : inGroup g po = true := by
            simp only [inGroup, isOpen, Bool.true_and, Bool.and_eq_true, decide_eq_true_eq]
            exact ⟨columns, Nat.pos_of_ne_zero none⟩
          by_cases counted : q po.id = true <;> simp [inside, columns, counted]
      · have out : inGroup g po = false := by
          simp only [inGroup, decide_eq_false columns, Bool.and_false, Bool.false_and]
        simp [out, columns]

theorem groupLines_eq : groupLines w g = ((groupOrders w g).map (groupLinesOf g)).sum := by
  have rows := countP_rows g (fun _ => true) w.purchaseOrder
  rw [List.filter_true] at rows
  rw [groupLines, groupOrders, ← rows, openOrderRows]
  exact List.countP_congr fun r _ => by simp

theorem groupLinesOf_pos {po : PurchaseOrder} (mem : po ∈ groupOrders w g) : 1 ≤ groupLinesOf g po :=
  (mem_groupOrders.1 mem).2.2.2

/-- The rows of one order in a group. -/
theorem countP_of_order (keyed : Keyed PurchaseOrder.id w.purchaseOrder) {po : PurchaseOrder}
    (mem : po ∈ groupOrders w g) :
    ((openOrderRows w).filter fun r => r.group = g).countP (fun r => decide (r.id = po.id)) =
      groupLinesOf g po := by
  have inside : Keyed PurchaseOrder.id (groupOrders w g) := keyed.sublist (List.filter_sublist.map _)
  have rows := countP_rows g (fun id => decide (id = po.id)) w.purchaseOrder
  rw [show (w.purchaseOrder.filter (inGroup g)).filter (fun o => decide (o.id = po.id)) = [po] from
    inside.filter_key mem, List.map_singleton, List.sum_singleton] at rows
  rw [← rows, List.countP_filter, openOrderRows]
  exact List.countP_congr fun r _ => by simp [and_comm]

/-- There are at least as many lines as orders, and no more when no order repeats the product. -/
theorem length_le_groupLines : (groupOrders w g).length ≤ groupLines w g := by
  rw [groupLines_eq]
  have one : ∀ n ∈ (groupOrders w g).map (groupLinesOf g), 1 ≤ n := by
    intro n mem
    obtain ⟨po, memPo, rfl⟩ := List.mem_map.1 mem
    exact groupLinesOf_pos memPo
  have bound := List.length_le_sum_of_one_le _ one
  rwa [List.length_map] at bound

theorem groupLines_of_once (once : ∀ po ∈ groupOrders w g, groupLinesOf g po ≤ 1) :
    groupLines w g = (groupOrders w g).length := by
  have same : (groupOrders w g).map (groupLinesOf g) = (groupOrders w g).map fun _ => 1 :=
    List.map_congr_left fun po mem => Nat.le_antisymm (once po mem) (groupLinesOf_pos mem)
  rw [groupLines_eq, same]
  simp

theorem placedBefore_antisymm (keyed : Keyed PurchaseOrder.id w.purchaseOrder) {a b : PurchaseOrder}
    (ha : a ∈ groupOrders w g) (hb : b ∈ groupOrders w g) (h : PlacedBefore a b) (h' : PlacedBefore b a) :
    a = b := by
  apply List.inj_on_of_nodup_map keyed (List.mem_filter.1 ha).1 (List.mem_filter.1 hb).1
  unfold PlacedBefore at *
  unfold Date Uuid at *
  omega

/-- The order of `sorted(group_rows)`. -/
def RowBefore (r s : OpenOrderRow) : Prop :=
  r.orderDate < s.orderDate ∨ r.orderDate = s.orderDate ∧ r.id ≤ s.id

instance (r s : OpenOrderRow) : Decidable (RowBefore r s) := by
  unfold RowBefore
  infer_instance

theorem pairwise_placementOrder (rows : List OpenOrderRow) : (placementOrder rows).Pairwise RowBefore := by
  have total : Std.Total RowBefore := by
    constructor
    intro r s
    unfold RowBefore
    unfold Date Uuid
    omega
  have trans : IsTrans OpenOrderRow RowBefore := by
    constructor
    intro r s t h h'
    unfold RowBefore at *
    unfold Date Uuid at *
    omega
  exact List.pairwise_insertionSort RowBefore rows

/-- The lines that come after the first one of a group: those of its later orders, and a further line of
its first order. -/
theorem mem_tail_placementOrder (keyed : Keyed PurchaseOrder.id w.purchaseOrder) {rows : List OpenOrderRow}
    (perm : rows.Perm ((openOrderRows w).filter fun r => r.group = g)) {po : PurchaseOrder}
    (mem : po ∈ groupOrders w g) : (∃ dup ∈ (placementOrder rows).tail, dup.id = po.id) ↔
      (Original w g po → 2 ≤ groupLinesOf g po) := by
  have sorted := pairwise_placementOrder rows
  have same : (placementOrder rows).Perm ((openOrderRows w).filter fun r => r.group = g) :=
    (List.perm_insertionSort _ rows).trans perm
  have row : ∀ o ∈ groupOrders w g, (⟨o.id, g.1, g.2.1, g.2.2.1, o.orderDate, g.2.2.2⟩ : OpenOrderRow) ∈
      placementOrder rows := by
    intro o memO
    obtain ⟨there, group⟩ := mem_groupRows.2 ⟨o, memO, rfl⟩
    exact same.mem_iff.2 (List.mem_filter.2 ⟨there, decide_eq_true group⟩)
  have lines : (placementOrder rows).countP (fun r => decide (r.id = po.id)) = groupLinesOf g po := by
    rw [same.countP_eq, countP_of_order keyed mem]
  generalize placementOrder rows = ranked at *
  cases ranked with
  | nil => cases row po mem
  | cons first rest =>
    have here := List.mem_filter.1 (same.mem_iff.1 List.mem_cons_self)
    obtain ⟨o, memO, rfl⟩ := mem_groupRows.1 ⟨here.1, of_decide_eq_true here.2⟩
    have original : Original w g o := by
      intro other memOther
      rcases List.mem_cons.1 (row other memOther) with eq | later
      · have both : other.id = o.id ∧ other.orderDate = o.orderDate := by
          simpa using eq
        exact .inr ⟨both.2.symm, both.1.ge⟩
      · exact (List.pairwise_cons.1 sorted).1 _ later
    rw [List.countP_cons] at lines
    constructor
    · rintro ⟨dup, later, id⟩ first'
      obtain rfl := placedBefore_antisymm keyed mem memO (first' o memO) (original po mem)
      have counted : 0 < rest.countP (fun r => decide (r.id = po.id)) :=
        List.countP_pos_iff.2 ⟨dup, later, decide_eq_true id⟩
      simp only [decide_true, if_true] at lines
      omega
    · intro repeats
      by_cases o = po
      · subst o
        have twice := repeats original
        simp only [decide_true, if_true] at lines
        obtain ⟨dup, later, id⟩ := List.countP_pos_iff.1
          (show 0 < rest.countP (fun r => decide (r.id = po.id)) by omega)
        exact ⟨dup, later, of_decide_eq_true id⟩
      · rename_i other
        rcases List.mem_cons.1 (row po mem) with eq | later
        · have id : po.id = o.id := (OpenOrderRow.mk.inj eq).1
          exact absurd (List.inj_on_of_nodup_map keyed (List.mem_filter.1 memO).1 (List.mem_filter.1 mem).1
            id.symm) other
        · exact ⟨_, later, rfl⟩

end Rows

/-! ## What is flagged -/

/-- What a group assigns. -/
def groupPairs (thresholdCount : ℤ) (rows : List OpenOrderRow) : List (EntityKey × Evaluation) :=
  if evaluateDuplicatePurchaseOrder rows.length thresholdCount then
    (placementOrder rows).tail.map fun dup => (orderKey dup.id, ⟨some true, some rows.length⟩)
  else []

theorem evaluateGroup_eq (thresholdCount : ℤ) (evaluations : Dict EntityKey Evaluation)
    (rows : List OpenOrderRow) : evaluateGroup thresholdCount evaluations rows =
      (groupPairs thresholdCount rows).foldl (fun acc kv => acc.set kv.1 kv.2) evaluations := by
  unfold evaluateGroup groupPairs
  split
  · rw [List.foldl_map]
    rfl
  · rfl

theorem duplicatePurchaseOrderEvaluations_eq (order : RowOrder OpenOrderRow) (thresholdCount : ℤ) (w : World) :
    duplicatePurchaseOrderEvaluations order thresholdCount w =
      Dict.ofList ((Dict.groupBy OpenOrderRow.group (order.rows (openOrderRows w))).items.flatMap
        fun item => groupPairs thresholdCount item.2) := by
  rw [duplicatePurchaseOrderEvaluations, Dict.ofList, List.foldl_flatMap, List.foldl_map]
  congr 1
  funext evaluations item
  exact evaluateGroup_eq thresholdCount evaluations item.2

/-- The lines of an order that the rule takes for duplicates. -/
def LineFlagged (thresholdCount : ℤ) (w : World) (g : OrderGroup) (po : PurchaseOrder) : Prop :=
  thresholdCount < groupLines w g ∧ po ∈ groupOrders w g ∧ (Original w g po → 2 ≤ groupLinesOf g po)

section Flagged
variable {thresholdCount : ℤ} {w : World}

theorem mem_groupPairs (keyed : Keyed PurchaseOrder.id w.purchaseOrder) {g : OrderGroup}
    {rows : List OpenOrderRow} (perm : rows.Perm ((openOrderRows w).filter fun r => r.group = g))
    {key : EntityKey} {e : Evaluation} : (key, e) ∈ groupPairs thresholdCount rows ↔
      ∃ po, LineFlagged thresholdCount w g po ∧ key = orderKey po.id ∧
        e = ⟨some true, some (groupLines w g)⟩ := by
  have size : rows.length = groupLines w g := by
    rw [perm.length_eq, groupLines, List.countP_eq_length_filter]
  have lines : evaluateDuplicatePurchaseOrder rows.length thresholdCount = true ↔
      thresholdCount < groupLines w g := by
    rw [evaluateDuplicatePurchaseOrder, size, decide_eq_true_iff]
  unfold groupPairs
  split
  · rename_i many
    rw [List.mem_map]
    constructor
    · rintro ⟨dup, later, eq⟩
      have there := List.mem_filter.1 (perm.mem_iff.1
        ((List.perm_insertionSort _ rows).mem_iff.1 (List.mem_of_mem_tail later)))
      obtain ⟨po, mem, rfl⟩ := mem_groupRows.1 ⟨there.1, of_decide_eq_true there.2⟩
      obtain ⟨rfl, rfl⟩ := Prod.mk.inj eq
      exact ⟨po, ⟨lines.1 many, mem, (mem_tail_placementOrder keyed perm mem).1 ⟨_, later, rfl⟩⟩, rfl, by
        rw [size]⟩
    · rintro ⟨po, ⟨-, mem, flagged⟩, rfl, rfl⟩
      obtain ⟨dup, later, id⟩ := (mem_tail_placementOrder keyed perm mem).2 flagged
      exact ⟨dup, later, by rw [id, size]⟩
  · rename_i few
    constructor
    · intro mem
      cases mem
    · rintro ⟨po, ⟨many, -, -⟩, -, -⟩
      exact absurd (lines.2 many) few

theorem mem_pairs (keyed : Keyed PurchaseOrder.id w.purchaseOrder) (order : RowOrder OpenOrderRow)
    {key : EntityKey} {e : Evaluation} :
    (key, e) ∈ (Dict.groupBy OpenOrderRow.group (order.rows (openOrderRows w))).items.flatMap
        (fun item => groupPairs thresholdCount item.2) ↔
      ∃ g po, LineFlagged thresholdCount w g po ∧ key = orderKey po.id ∧
        e = ⟨some true, some (groupLines w g)⟩ := by
  rw [List.mem_flatMap]
  constructor
  · rintro ⟨item, mem, assigned⟩
    rw [Dict.groupBy_items mem] at assigned
    exact ⟨item.1, (mem_groupPairs keyed ((order.perm _).filter _)).1 assigned⟩
  · rintro ⟨g, po, line, assigned⟩
    obtain ⟨there, group⟩ := mem_groupRows.2 ⟨po, line.2.1, rfl⟩
    have item := Dict.groupBy_mem OpenOrderRow.group (order.mem_rows.2 there)
    rw [group] at item
    exact ⟨_, item, (mem_groupPairs keyed ((order.perm _).filter _)).2 ⟨po, line, assigned⟩⟩

theorem get?_isSome_iff (keyed : Keyed PurchaseOrder.id w.purchaseOrder) (order : RowOrder OpenOrderRow)
    (key : EntityKey) :
    ((duplicatePurchaseOrderEvaluations order thresholdCount w).get? key).isSome = true ↔
      ∃ g po, LineFlagged thresholdCount w g po ∧ key = orderKey po.id := by
  rw [duplicatePurchaseOrderEvaluations_eq, Dict.get?_ofList, List.lookup_isSome_iff]
  constructor
  · rintro ⟨⟨key', e⟩, mem, same⟩
    obtain rfl : key = key' := by simpa using same
    obtain ⟨g, po, line, id, -⟩ := (mem_pairs keyed order).1 (List.mem_reverse.1 mem)
    exact ⟨g, po, line, id⟩
  · rintro ⟨g, po, line, rfl⟩
    exact ⟨_, List.mem_reverse.2 ((mem_pairs keyed order).2 ⟨g, po, line, rfl, rfl⟩), by simp⟩

theorem get?_eq_some (keyed : Keyed PurchaseOrder.id w.purchaseOrder) {order : RowOrder OpenOrderRow}
    {key : EntityKey} {e : Evaluation}
    (found : (duplicatePurchaseOrderEvaluations order thresholdCount w).get? key = some e) :
    ∃ g po, LineFlagged thresholdCount w g po ∧ key = orderKey po.id ∧
      e = ⟨some true, some (groupLines w g)⟩ := by
  rw [duplicatePurchaseOrderEvaluations_eq, Dict.get?_ofList, List.lookup_eq_some_iff] at found
  obtain ⟨before, after, eq, -⟩ := found
  have mem : (key, e) ∈ ((Dict.groupBy OpenOrderRow.group (order.rows (openOrderRows w))).items.flatMap
      fun item => groupPairs thresholdCount item.2).reverse := by
    rw [eq]
    simp
  exact (mem_pairs keyed order).1 (List.mem_reverse.1 mem)

/-- The rows of a group come last. -/
def groupAtEnd (g : OrderGroup) : RowOrder OpenOrderRow where
  rows l := l.filter (fun r => !decide (r.group = g)) ++ l.filter fun r => decide (r.group = g)
  perm l := List.perm_append_comm.trans (List.filter_append_perm _ l)

/-- The last group decides what is measured. -/
theorem get?_groupAtEnd (keyed : Keyed PurchaseOrder.id w.purchaseOrder) {g : OrderGroup} {po : PurchaseOrder}
    (line : LineFlagged thresholdCount w g po) :
    (duplicatePurchaseOrderEvaluations (groupAtEnd g) thresholdCount w).get? (orderKey po.id) =
      some ⟨some true, some (groupLines w g)⟩ := by
  have perm : ((openOrderRows w).filter fun r => decide (r.group = g)).Perm
      ((openOrderRows w).filter fun r => r.group = g) := List.Perm.refl _
  obtain ⟨there, group⟩ := mem_groupRows.2 ⟨po, line.2.1, rfl⟩
  have some' : (openOrderRows w).filter (fun r => decide (r.group = g)) ≠ [] :=
    List.ne_nil_of_mem (List.mem_filter.2 ⟨there, decide_eq_true group⟩)
  have last : (Dict.groupBy OpenOrderRow.group ((groupAtEnd g).rows (openOrderRows w))).items =
      (Dict.groupBy OpenOrderRow.group ((openOrderRows w).filter fun r => !decide (r.group = g))).items ++
        [(g, (openOrderRows w).filter fun r => decide (r.group = g))] :=
    Dict.groupBy_last (fun r mem => by simpa using (List.mem_filter.1 mem).2)
      (fun r mem => of_decide_eq_true (List.mem_filter.1 mem).2) some'
  have assigned : (orderKey po.id, (⟨some true, some (groupLines w g)⟩ : Evaluation)) ∈
      groupPairs thresholdCount ((openOrderRows w).filter fun r => decide (r.group = g)) :=
    (mem_groupPairs keyed perm).2 ⟨po, line, rfl, rfl⟩
  rw [duplicatePurchaseOrderEvaluations_eq, Dict.get?_ofList, last, List.flatMap_append, List.flatMap_singleton,
    List.reverse_append, List.lookup_append]
  have found : (((groupPairs thresholdCount ((openOrderRows w).filter fun r => decide (r.group = g))).reverse.lookup
      (orderKey po.id))).isSome = true :=
    List.lookup_isSome_iff.2 ⟨_, List.mem_reverse.2 assigned, by simp⟩
  obtain ⟨e, value⟩ := Option.isSome_iff_exists.1 found
  obtain ⟨before, after, eq, -⟩ := List.lookup_eq_some_iff.1 value
  have mem : (orderKey po.id, e) ∈ groupPairs thresholdCount
      ((openOrderRows w).filter fun r => decide (r.group = g)) := by
    rw [← List.mem_reverse, eq]
    simp
  obtain ⟨-, -, -, rfl⟩ := (mem_groupPairs keyed perm).1 mem
  rw [value]
  rfl

theorem orderKey_inj (keyed : Keyed PurchaseOrder.id w.purchaseOrder) {g g' : OrderGroup}
    {po po' : PurchaseOrder} (mem : po ∈ groupOrders w g) (mem' : po' ∈ groupOrders w g')
    (same : orderKey po.id = orderKey po'.id) : po = po' := by
  refine List.inj_on_of_nodup_map keyed (List.mem_filter.1 mem).1 (List.mem_filter.1 mem').1 ?_
  simpa [orderKey] using same

theorem IsDuplicate.lineFlagged {g : OrderGroup} {po : PurchaseOrder}
    (h : IsDuplicate thresholdCount w g po) : LineFlagged thresholdCount w g po := by
  obtain ⟨many, mem, later⟩ := h
  have more : (groupOrders w g).length ≤ groupLines w g := length_le_groupLines
  exact ⟨by omega, mem, fun original => absurd original later⟩

/-- What the lines flag, the orders do: in the group itself, or in other groups. -/
theorem LinesStandForOrders.orders (h : LinesStandForOrders thresholdCount w) {g : OrderGroup}
    {po : PurchaseOrder} (line : LineFlagged thresholdCount w g po) :
    (∃ g', IsDuplicate thresholdCount w g' po) ∧
      ∃ g', po ∈ groupOrders w g' ∧ (groupOrders w g').length = groupLines w g := by
  obtain ⟨many, mem, flagged⟩ := line
  by_cases repeats : ∃ po ∈ groupOrders w g, 2 ≤ groupLinesOf g po
  · exact h g many repeats po mem flagged
  · have once : ∀ po ∈ groupOrders w g, groupLinesOf g po ≤ 1 := fun po mem => by
      by_contra more
      exact repeats ⟨po, mem, by omega⟩
    have size := groupLines_of_once once
    rw [size] at many
    refine ⟨⟨g, many, mem, fun original => ?_⟩, g, mem, size.symm⟩
    have twice := flagged original
    have atMost := once po mem
    omega

end Flagged

/-- The rule flags the duplicates, in whichever order its rows come, if and only if lines stand for
orders. -/
theorem duplicates_flagged_iff {w : World} (keyed : Keyed PurchaseOrder.id w.purchaseOrder)
    (thresholdCount : ℤ) :
    (∀ order, FlagsDuplicates thresholdCount w (duplicatePurchaseOrderEvaluations order thresholdCount w)) ↔
      LinesStandForOrders thresholdCount w := by
  constructor
  · intro flags g many _ po mem flagged
    have line : LineFlagged thresholdCount w g po := ⟨many, mem, flagged⟩
    constructor
    · obtain ⟨g', po', duplicate, same⟩ := ((flags .inserted).flagged (orderKey po.id)).1
        ((get?_isSome_iff keyed .inserted _).2 ⟨g, po, line, rfl⟩)
      obtain rfl := orderKey_inj keyed mem duplicate.2.1 same
      exact ⟨g', duplicate⟩
    · obtain ⟨-, g', po', mem', same, size⟩ :=
        (flags (groupAtEnd g)).measured _ _ (get?_groupAtEnd keyed line)
      obtain rfl := orderKey_inj keyed mem mem' same
      refine ⟨g', mem', ?_⟩
      have sizes : ((groupLines w g : ℕ) : ℚ) = ((groupOrders w g').length : ℕ) := Option.some.inj size
      exact_mod_cast sizes.symm
  · intro lines order
    constructor
    · intro key
      rw [get?_isSome_iff keyed order key]
      constructor
      · rintro ⟨g, po, line, rfl⟩
        obtain ⟨⟨g', duplicate⟩, -⟩ := lines.orders line
        exact ⟨g', po, duplicate, rfl⟩
      · rintro ⟨g, po, duplicate, rfl⟩
        exact ⟨g, po, duplicate.lineFlagged, rfl⟩
    · intro key e found
      obtain ⟨g, po, line, rfl, rfl⟩ := get?_eq_some keyed found
      obtain ⟨-, g', mem, size⟩ := lines.orders line
      exact ⟨rfl, g', po, mem, rfl, by rw [size]⟩

/-- An open order of boxes. -/
def boxOrder (id : Uuid) (lines : List PurchaseOrderLine) : PurchaseOrder where
  id := id
  poNumber := "PO"
  supplierId := "acme"
  warehouseId := "main"
  orderDate := 1
  expectedDeliveryDate := 8
  status := .confirmed
  lines := lines

def orderedWorld (orders : List PurchaseOrder) : World :=
  { World.empty ⟨[], [], [], [], []⟩ with purchaseOrder := orders }

/-- Two open orders for boxes are flagged, under the key of one. -/
theorem duplicates_flagged_iff_twoOrders :
    (∀ order, FlagsDuplicates 1 (orderedWorld [boxOrder 1 [⟨"boxes", 20, 0⟩], boxOrder 2 [⟨"boxes", 20, 0⟩]])
      (duplicatePurchaseOrderEvaluations order 1
        (orderedWorld [boxOrder 1 [⟨"boxes", 20, 0⟩], boxOrder 2 [⟨"boxes", 20, 0⟩]]))) ∧
      (duplicatePurchaseOrderEvaluations .inserted 1
        (orderedWorld [boxOrder 1 [⟨"boxes", 20, 0⟩], boxOrder 2 [⟨"boxes", 20, 0⟩]])).items =
          [(orderKey 2, ⟨some true, some 2⟩)] := by
  have keyed : ((orderedWorld [boxOrder 1 [⟨"boxes", 20, 0⟩],
    boxOrder 2 [⟨"boxes", 20, 0⟩]]).purchaseOrder.map PurchaseOrder.id).Nodup := by decide
  refine ⟨(duplicates_flagged_iff keyed 1).2 ?_, by decide +kernel⟩
  rintro g - ⟨po, mem, repeats⟩
  have one : po.lines.length = 1 := by
    have row := (List.mem_filter.1 mem).1
    simp only [orderedWorld, List.mem_cons, List.not_mem_nil, or_false] at row
    rcases row with rfl | rfl <;> rfl
  have atMost : groupLinesOf g po ≤ po.lines.length := List.countP_le_length
  omega

/-- One order with a product on two lines is taken for a duplicate of itself. -/
theorem repeated_line_flagged :
    (duplicatePurchaseOrderEvaluations .inserted 1
      (orderedWorld [boxOrder 1 [⟨"boxes", 20, 0⟩, ⟨"boxes", 5, 0⟩]])).items =
        [(orderKey 1, ⟨some true, some 2⟩)] ∧
      ¬ FlagsDuplicates 1 (orderedWorld [boxOrder 1 [⟨"boxes", 20, 0⟩, ⟨"boxes", 5, 0⟩]])
        (duplicatePurchaseOrderEvaluations .inserted 1
          (orderedWorld [boxOrder 1 [⟨"boxes", 20, 0⟩, ⟨"boxes", 5, 0⟩]])) := by
  refine ⟨by decide +kernel, fun flags => ?_⟩
  obtain ⟨g, po, ⟨many, -⟩, -⟩ := (flags.flagged (orderKey 1)).1 (by decide +kernel)
  have few : (groupOrders (orderedWorld [boxOrder 1 [⟨"boxes", 20, 0⟩, ⟨"boxes", 5, 0⟩]]) g).length ≤ 1 :=
    List.length_filter_le _ _
  omega

end MeadowOps.Exceptions
