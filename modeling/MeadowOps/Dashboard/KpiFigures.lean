import MeadowOps.Dashboard.RecordedDays
import MeadowOps.Flow.Deliveries
import Mathlib.Algebra.BigOperators.Ring.Finset

/-!
# The figures of `sql/kpi`, and the shipments they are about

The queries of the orders delivered in full fold the lines and the shipments of an order. In the states the flow
reaches each of these orders has one shipment and is shipped in full, so what they count is the shipments.
-/

namespace MeadowOps.Dashboard

open Db Lib MeadowOps.Flow Scheduler Kpi

/-! ## The lines, and the days of the orders -/

/-- No line ships more than was ordered, and a shipped order has lines, all of them shipped in full. -/
structure LinesShipped (so : SalesOrder) : Prop where
  range : ∀ l ∈ so.lines, 0 ≤ l.quantityShipped ∧ l.quantityShipped ≤ l.quantityOrdered
  full : so.status = .shipped → so.lines ≠ [] ∧ ∀ l ∈ so.lines, l.quantityOrdered ≤ l.quantityShipped

/-- There is an order of the id, placed on the day or before. -/
def PlacedBy (orders : List SalesOrder) (id : Uuid) (d : Date) : Prop :=
  ∃ so ∈ orders, so.id = id ∧ so.orderDate ≤ d

structure OrderBook (w : World) : Prop where
  lines : ∀ so ∈ w.salesOrder, LinesShipped so
  placed : ∀ s ∈ w.shipment, PlacedBy w.salesOrder s.salesOrderId s.shipDate

section OrderBook

variable {A : World → SalesOrder → Prop} {d : Date} {w w' : World}

theorem PlacedBy.append {orders : List SalesOrder} {id : Uuid} (h : PlacedBy orders id d) (more : List SalesOrder) :
    PlacedBy (orders ++ more) id d := by
  obtain ⟨so, mem, placed⟩ := h
  exact ⟨so, List.mem_append_left _ mem, placed⟩

/-- An update that keeps the id and the day of the order. -/
theorem PlacedBy.modify {orders : List SalesOrder} {id k : Uuid} {f : SalesOrder → SalesOrder}
    (h : PlacedBy orders id d) (kept : ∀ so, (f so).id = so.id ∧ (f so).orderDate = so.orderDate) :
    PlacedBy (modify (·.id) k f orders) id d := by
  obtain ⟨so, mem, of, day⟩ := h
  refine ⟨_, mem_modify.2 ⟨so, mem, rfl⟩, ?_⟩
  split
  · rw [(kept so).1, (kept so).2]
    exact ⟨of, day⟩
  · exact ⟨of, day⟩

theorem LinesShipped.ship {so : SalesOrder} {lines : List SalesOrderLine} {ledger : List InventoryTransaction}
    (h : LinesShipped so) (perm : lines.Perm so.lines) (any : (shipLines d so lines ledger).2.2 = true) (r : SalesOrder) :
    LinesShipped (shippedOrder (shipLines d so lines ledger).1 r) := by
  constructor
  case range =>
    refine shipLines_forall d so (fun l range => ?_) lines ledger fun l mem => h.range l (perm.mem_iff.1 mem)
    exact ⟨range.1.trans range.2, le_rfl⟩
  case full =>
    intro shipped
    have full : fullyShipped (shipLines d so lines ledger).1 = true := by
      by_contra short
      simp [shippedOrder, short] at shipped
    constructor
    · intro none
      have same := length_shipLines d so lines ledger
      rw [show (shipLines d so lines ledger).1 = [] from none] at same
      obtain rfl := List.eq_nil_of_length_eq_zero same.symm
      cases any
    · exact fun l mem => of_decide_eq_true (List.all_eq_true.1 full l mem)

/-- Every step keeps the book, if no order is placed after its day. -/
theorem OrderBook.step (h : OrderBook w) (dated : OrdersDated (· ≤ d) w) (step : FlowStep A d w w') : OrderBook w' := by
  cases step with
  | confirm => exact ⟨h.lines, h.placed⟩
  | receive => exact ⟨h.lines, h.placed⟩
  | depart => exact ⟨h.lines, h.placed⟩
  | arrive => exact ⟨h.lines, h.placed⟩
  | transfer => exact ⟨h.lines, h.placed⟩
  | order => exact ⟨h.lines, h.placed⟩
  | dispatch => exact ⟨h.lines, forall_modify h.placed fun s mem _ => h.placed s mem⟩
  | deliver => exact ⟨h.lines, forall_modify h.placed fun s mem _ => h.placed s mem⟩
  | allocate so =>
    constructor
    case lines =>
      exact forall_modify h.lines fun r mem _ => ⟨(h.lines r mem).range, fun status => SalesOrderStatus.noConfusion status⟩
    case placed => exact fun s mem => (h.placed s mem).modify fun _ => ⟨rfl, rfl⟩
  | ship so lines shipments events mem _ perm any shipment =>
    have old : ∀ s ∈ w.shipment, PlacedBy (modify (·.id) so.id
        (shippedOrder (shipLines d so lines w.inventoryTransaction).1) w.salesOrder) s.salesOrderId s.shipDate :=
      fun s known => (h.placed s known).modify fun _ => ⟨rfl, rfl⟩
    constructor
    case lines => exact forall_modify h.lines fun r _ _ => (h.lines so mem).ship perm any r
    case placed =>
      rcases shipment with rfl | ⟨s, of, day, -, inserted⟩
      · exact old
      · obtain ⟨rfl, -⟩ := insert?_eq_some inserted
        refine forall_mem_append_singleton old ?_
        have placed : PlacedBy w.salesOrder s.salesOrderId s.shipDate :=
          ⟨so, mem, of.symm, (dated.sales so mem).trans day.ge⟩
        exact placed.modify fun _ => ⟨rfl, rfl⟩
  | demand so _ lines _ status =>
    constructor
    case lines =>
      refine forall_mem_append_singleton h.lines ⟨fun l mem => ?_, fun shipped => ?_⟩
      · have line := lines l mem
        omega
      · rw [status] at shipped
        cases shipped
    case placed => exact fun s mem => (h.placed s mem).append _
  | snapshot => exact ⟨h.lines, h.placed⟩

end OrderBook

/-! ## An order and its shipment -/

/-- What the queries count on: one shipment for each shipped order, and nothing for the others. -/
structure Figured (last : Date) (w : World) : Prop where
  recorded : WorldRecorded (· ≤ last) w
  orders : OrderShipments w
  book : OrderBook w

section Figured

variable {last : Date} {w : World}

/-- The order of a shipment is shipped in full, and has no other shipment. -/
structure OneDelivery (w : World) (so : SalesOrder) (s : Shipment) : Prop where
  alone : shipmentsOf w so.id = [s]
  mem : s ∈ w.shipment
  lines : so.lines ≠ []
  full : ∀ l ∈ so.lines, l.quantityOrdered ≤ l.quantityShipped
  placed : so.orderDate ≤ s.shipDate

theorem Figured.oneDelivery (h : Figured last w) {so : SalesOrder} (mem : so ∈ w.salesOrder) :
    shipmentsOf w so.id = [] ∨ ∃ s, OneDelivery w so s := by
  by_cases none : shipmentsOf w so.id = []
  · exact .inl none
  · obtain ⟨s, here⟩ := List.exists_mem_of_ne_nil _ none
    obtain ⟨memS, of⟩ := List.mem_filter.1 here
    replace of : s.salesOrderId = so.id := of_decide_eq_true of
    obtain ⟨known, memK, id, shipped⟩ := h.orders.known s memS
    obtain rfl := List.inj_on_of_nodup_map h.orders.orders memK mem (id.trans of)
    obtain ⟨placed, memP, id', day⟩ := h.book.placed s memS
    obtain rfl := List.inj_on_of_nodup_map h.orders.orders memP mem (id'.trans of)
    obtain ⟨lines, full⟩ := (h.book.lines placed mem).full shipped
    refine .inr ⟨s, ?_, memS, lines, full, day⟩
    rw [shipmentsOf, ← of]
    exact h.orders.one.filter_key memS

/-- The orders of the fold, counted by their shipments. -/
theorem Figured.countP_orderFulfillment (h : Figured last w) {q : Fulfillment → Bool} {p : Shipment → Bool}
    (none : ∀ full, q ⟨full, false, false⟩ = false)
    (one : ∀ s, q ⟨true, deliveredOnTime s, decide (s.status = .delivered)⟩ = p s) :
    (orderFulfillment w).countP q = w.shipment.countP p := by
  have known : ∀ s ∈ w.shipment, s.salesOrderId ∈ w.salesOrder.map SalesOrder.id := by
    intro s mem
    obtain ⟨so, memO, of, -⟩ := h.orders.known s mem
    exact of ▸ List.mem_map_of_mem memO
  rw [← countP_owners h.orders.one h.orders.orders known p, orderFulfillment, List.countP_map, List.countP_filter]
  refine List.countP_congr fun so mem => ?_
  rw [← List.any_filter, ← shipmentsOf]
  rcases h.oneDelivery mem with alone | ⟨s, delivery⟩
  · simp [alone, none]
  · have full : (so.lines.all fun l => decide (l.quantityOrdered ≤ l.quantityShipped)) = true := by
      simpa using delivery.full
    simp [delivery.alone, full, one, delivery.lines]

theorem Figured.countP_delivered (h : Figured last w) :
    (orderFulfillment w).countP (·.isDelivered) = w.shipment.countP fun s => decide (s.status = .delivered) :=
  h.countP_orderFulfillment (fun _ => rfl) fun _ => rfl

theorem Figured.countP_otif (h : Figured last w) :
    ((orderFulfillment w).countP fun f => f.isDelivered && f.isInFull && f.isOnTime) =
      w.shipment.countP fun s => decide (s.status = .delivered) && deliveredOnTime s :=
  h.countP_orderFulfillment (fun _ => by simp) fun _ => by simp

/-! ## What the figures say -/

/-- The share of the deliveries that were on time, in percent. -/
def onTimePct (b : OverviewShipmentBreakdown) : ℚ :=
  roundHalfAway 2 (100 * b.deliveredOnTime / (b.deliveredOnTime + b.deliveredLate : ℕ))

def deliveredOrders (w : World) : List SalesOrder :=
  w.salesOrder.filter fun so => decide (∃ s ∈ w.shipment, s.salesOrderId = so.id ∧ s.status = .delivered)

def roundedMean (days : List ℤ) : Option ℚ :=
  if days = [] then none else some (roundHalfAway 1 (days.sum / days.length))

structure KpiLaw (w : World) : Prop where
  undelivered : (∀ s ∈ w.shipment, s.status ≠ .delivered) → otif w = none ∧ perfectOrderRate w = none
  delivered : (∃ s ∈ w.shipment, s.status = .delivered) →
    ∀ start last, (∀ s ∈ w.shipment, start ≤ s.shipDate ∧ s.shipDate ≤ last) →
      otif w = some (onTimePct (shipmentBreakdown w start last)) ∧
        perfectOrderRate w = some (onTimePct (shipmentBreakdown w start last))
  cycle : ∃ deliveredOn : SalesOrder → Date,
    (∀ so ∈ deliveredOrders w, ∃ s, shipmentsOf w so.id = [s] ∧ s.status = .delivered ∧
      s.actualDeliveryDate = some (deliveredOn so)) ∧
    orderCycleTime w = roundedMean ((deliveredOrders w).map fun so => deliveredOn so - so.orderDate)
  cycleNonneg : ∀ days ∈ orderCycleTime w, 0 ≤ days
  fill : ∀ pct ∈ fillRate w, 0 ≤ pct ∧ pct ≤ 100

theorem onTime_eq_some_true (s : Shipment) : (onTime s = some true) ↔ deliveredOnTime s = true := by
  rw [onTime, deliveredOnTime]
  cases s.actualDeliveryDate with
  | none => simp
  | some date => simp

/-- The deliveries of the breakdown are those there are. -/
theorem breakdown_delivered {start last : Date} (dated : ∀ s ∈ w.shipment, Dated s)
    (covers : ∀ s ∈ w.shipment, start ≤ s.shipDate ∧ s.shipDate ≤ last) :
    (shipmentBreakdown w start last).deliveredOnTime =
        w.shipment.countP (fun s => decide (s.status = .delivered) && deliveredOnTime s) ∧
      (shipmentBreakdown w start last).deliveredOnTime + (shipmentBreakdown w start last).deliveredLate =
        w.shipment.countP fun s => decide (s.status = .delivered) := by
  have all : w.shipment.filter (fun s => between start last s.shipDate) = w.shipment :=
    List.filter_eq_self.2 fun s mem => between_iff.2 (covers s mem)
  unfold shipmentBreakdown
  rw [all]
  constructor
  · refine List.countP_congr fun s _ => ?_
    simp [onTime_eq_some_true]
  · dsimp only
    generalize w.shipment = rows at dated
    induction rows with
    | nil => rfl
    | cons s rows ih =>
      have rest := ih fun r mem => dated r (List.mem_cons_of_mem _ mem)
      have part := one_part (dated s List.mem_cons_self)
      have one : (if s.status = .delivered ∧ onTime s = some true then 1 else 0) +
          (if s.status = .delivered ∧ onTime s = some false then 1 else 0) =
          if s.status = .delivered then 1 else 0 := by
        by_cases delivered : s.status = .delivered
        · simpa [delivered] using part
        · simp [delivered]
      simp only [List.countP_cons, decide_eq_true_eq]
      omega

theorem flatMap_of_alone {α β : Type} {p : α → Bool} {f : α → β} {g : α → List β} {l : List α}
    (alone : ∀ a ∈ l, g a = if p a then [f a] else []) : l.flatMap g = (l.filter p).map f := by
  induction l with
  | nil => rfl
  | cons a l ih =>
    rw [List.flatMap_cons, alone a List.mem_cons_self, ih fun b mem => alone b (List.mem_cons_of_mem _ mem)]
    cases holds : p a with
    | false => simp [holds]
    | true => simp [holds]

/-- The delivery dates of an order's shipments; the first is that of the only one. -/
def deliveredOn (w : World) (so : SalesOrder) : Date :=
  ((shipmentsOf w so.id).filterMap (·.actualDeliveryDate)).headD so.orderDate

theorem Figured.deliveredOrders (h : Figured last w) {so : SalesOrder} (mem : so ∈ deliveredOrders w) :
    ∃ s, OneDelivery w so s ∧ s.status = .delivered ∧ s.actualDeliveryDate = some (deliveredOn w so) := by
  obtain ⟨mem, delivered⟩ := List.mem_filter.1 mem
  obtain ⟨s, memS, of, status⟩ := of_decide_eq_true delivered
  have here : s ∈ shipmentsOf w so.id := List.mem_filter.2 ⟨memS, decide_eq_true of⟩
  rcases h.oneDelivery mem with none | ⟨s', delivery⟩
  · rw [none] at here
    exact absurd here List.not_mem_nil
  · rw [delivery.alone, List.mem_singleton] at here
    subst here
    refine ⟨s, delivery, status, ?_⟩
    obtain ⟨date, actual⟩ := Option.isSome_iff_exists.1 ((h.recorded.shipments s memS).dated status)
    simp [deliveredOn, delivery.alone, actual]

theorem Figured.cycleTimes (h : Figured last w) :
    cycleTimes w = (Dashboard.deliveredOrders w).map fun so => deliveredOn w so - so.orderDate := by
  refine flatMap_of_alone fun so mem => ?_
  by_cases delivered : ∃ s ∈ w.shipment, s.salesOrderId = so.id ∧ s.status = .delivered
  · obtain ⟨s, delivery, status, actual⟩ := h.deliveredOrders (List.mem_filter.2 ⟨mem, decide_eq_true delivered⟩)
    simp [delivered, delivery.alone, status, actual]
  · rw [decide_eq_false delivered, List.filterMap_eq_nil_iff.2]
    · rfl
    · intro s here
      obtain ⟨memS, of⟩ := List.mem_filter.1 here
      exact if_neg fun status => delivered ⟨s, memS, of_decide_eq_true of, status⟩

theorem Figured.cycleTimes_nonneg (h : Figured last w) : ∀ days ∈ Kpi.cycleTimes w, 0 ≤ days := by
  rw [h.cycleTimes, List.forall_mem_map]
  intro so mem
  obtain ⟨s, delivery, -, actual⟩ := h.deliveredOrders mem
  have after := (h.recorded.shipments s delivery.mem).delivered _ actual
  have placed := delivery.placed
  unfold Date at *
  omega

theorem sum_shipped (h : ∀ so ∈ w.salesOrder, LinesShipped so) :
    0 ≤ ((salesOrderLines w).map (·.quantityShipped)).sum ∧
      ((salesOrderLines w).map (·.quantityShipped)).sum ≤ ((salesOrderLines w).map (·.quantityOrdered)).sum := by
  have range : ∀ l ∈ salesOrderLines w, 0 ≤ l.quantityShipped ∧ l.quantityShipped ≤ l.quantityOrdered := by
    intro l mem
    obtain ⟨so, memO, line⟩ := List.mem_flatMap.1 mem
    exact (h so memO).range l line
  exact ⟨List.sum_nonneg (List.forall_mem_map.2 fun l mem => (range l mem).1),
    List.sum_le_sum fun l mem => (range l mem).2⟩

/-- A rounded share of a whole is between none and all of it. -/
theorem roundedRatio_range {part whole : ℤ} (range : 0 ≤ part ∧ part ≤ whole) {digits : ℕ} {pct : ℚ}
    (mem : pct ∈ roundedRatio digits (100 * part) whole) : 0 ≤ pct ∧ pct ≤ 100 := by
  unfold roundedRatio at mem
  split at mem
  · cases mem
  · rename_i nonzero
    obtain rfl := Option.some.inj mem
    have pos : (0 : ℚ) < whole := lt_of_le_of_ne (by exact_mod_cast range.1.trans range.2) (Ne.symm nonzero)
    have low : (0 : ℚ) ≤ part := by exact_mod_cast range.1
    have high : (part : ℚ) ≤ whole := by exact_mod_cast range.2
    have share : ((0 : ℤ) : ℚ) ≤ 100 * part / whole ∧ 100 * part / whole ≤ ((100 : ℤ) : ℚ) := by
      push_cast
      constructor
      · positivity
      · rw [div_le_iff₀ pos]
        linarith
    exact_mod_cast roundHalfAway_range digits share

theorem Figured.kpiLaw (h : Figured last w) : KpiLaw w := by
  have dated : ∀ s ∈ w.shipment, Dated s := fun s mem => (h.recorded.shipments s mem).dated
  constructor
  case undelivered =>
    intro none
    have zero : w.shipment.countP (fun s => decide (s.status = .delivered)) = 0 :=
      List.countP_eq_zero.2 fun s mem => by simpa using none s mem
    have nothing : otif w = Option.none := by
      rw [otif, roundedRatio, h.countP_delivered, zero, if_pos Nat.cast_zero]
    exact ⟨nothing, nothing⟩
  case delivered =>
    rintro ⟨s, mem, status⟩ start last covers
    obtain ⟨onTime, both⟩ := breakdown_delivered dated covers
    have some : w.shipment.countP (fun s => decide (s.status = .delivered)) ≠ 0 :=
      (List.countP_pos_iff.2 ⟨s, mem, decide_eq_true status⟩).ne'
    have rate : otif w = Option.some (onTimePct (shipmentBreakdown w start last)) := by
      rw [otif, roundedRatio, h.countP_delivered, h.countP_otif, if_neg (Nat.cast_ne_zero.2 some), onTimePct, both,
        onTime]
    exact ⟨rate, rate⟩
  case cycle =>
    refine ⟨deliveredOn w, fun so mem => ?_, ?_⟩
    · obtain ⟨s, delivery, delivered⟩ := h.deliveredOrders mem
      exact ⟨s, delivery.alone, delivered⟩
    · rw [orderCycleTime, h.cycleTimes, roundedRatio, roundedMean]
      by_cases none : Dashboard.deliveredOrders w = []
      · simp [none]
      · simp [none]
  case cycleNonneg =>
    intro days mem
    unfold orderCycleTime roundedRatio at mem
    split at mem
    · cases mem
    · obtain rfl := Option.some.inj mem
      have total : (0 : ℚ) ≤ (Kpi.cycleTimes w).sum := by exact_mod_cast List.sum_nonneg h.cycleTimes_nonneg
      have mean : ((0 : ℤ) : ℚ) ≤ (Kpi.cycleTimes w).sum / (Kpi.cycleTimes w).length := by
        rw [Int.cast_zero]
        exact div_nonneg total (Nat.cast_nonneg _)
      have rounded := roundHalfAway_mono 1 mean
      rw [roundHalfAway_intCast] at rounded
      exact_mod_cast rounded
  case fill =>
    intro pct mem
    have ordered : ((salesOrderLines w).map fun l => (l.quantityOrdered : ℚ)).sum =
        (((salesOrderLines w).map (·.quantityOrdered)).sum : ℤ) := by
      rw [Int.cast_list_sum, List.map_map]
      rfl
    rw [fillRate, ordered] at mem
    exact roundedRatio_range (sum_shipped h.book.lines) mem

end Figured

/-! ## Runs -/

section Runs

variable {last d : Date} {w w' : World}

theorem figured_empty {m : Master} (carriers : CarriersTake m) (last : Date) : Figured last (World.empty m) where
  recorded := {
    wf := (emptyWorld m).wf
    carriers := carriers
    orders := by constructor <;> simp [World.empty]
    shipments := by simp [World.empty] }
  orders := (delivers_empty m last).orders
  book := by constructor <;> simp [World.empty]

theorem Figured.mono {last' : Date} (h : Figured last w) (le : last ≤ last') : Figured last' w :=
  ⟨h.recorded.imp fun _ before => before.trans le, h.orders, h.book⟩

theorem Figured.tick {env : TickEnv} {events : ℕ} (h : Figured last w) (le : last ≤ d) (carrier : HasCarrier w.master)
    (run : scheduledFlow env d w = .ok events w') : Figured d w' := by
  have steps := scheduledFlow_steps env d h.recorded.wf
  rw [run] at steps
  have before := h.mono le
  constructor
  case recorded => exact before.recorded.flow le_rfl run
  case orders => exact scheduledFlow_orderShipments env h.recorded.wf carrier h.orders run
  case book =>
    have both := FlowSteps.invariant (I := fun w => OrdersDated (· ≤ d) w ∧ OrderBook w)
      (fun _ _ step _ hI => ⟨hI.1.step step le_rfl, hI.2.step hI.1 step⟩) h.recorded.wf
      ⟨before.recorded.orders, before.book⟩ steps
    exact both.2

theorem Figured.edit {m : Master} (h : Figured last w) (carriers : CarriersTake m) :
    Figured last { w with master := m } where
  recorded := ⟨{ h.recorded.wf with }, carriers, ⟨h.recorded.orders.sales, h.recorded.orders.purchases,
    h.recorded.orders.events⟩, h.recorded.shipments⟩
  orders := h.orders.transfer rfl rfl fun _ => rfl
  book := ⟨h.book.lines, h.book.placed⟩

/-- Every tick finds a carrier, and an edit leaves none that takes less than no time. -/
def Staffed (t : Tx (Database World)) : List RunLabel → Prop
  | [] => True
  | l :: labels =>
    (match l with
      | .tick _ _ => HasCarrier t.pending.tables.master
      | .edit m => CarriersTake m
      | .commit | .rollback => True) ∧ Staffed (runStep t l) labels

/-- A run in the order of its dates keeps what the queries count on. -/
theorem figured_of_run {labels : List RunLabel} {t : Tx (Database World)} (ht : t.Both fun db => Figured last db.tables)
    (dates : (last :: tickDates labels).Pairwise (· ≤ ·)) (staffed : Staffed t labels) :
    ∃ last, (labels.foldl runStep t).Both fun db => Figured last db.tables := by
  refine dated_run (fun t l labels met => met.2) (fun _ _ _ le h => h.mono le) ?_ ?_ ht dates staffed
  · exact fun t env d labels events w met h run => h.tick le_rfl met.1 run
  · exact fun t m labels last met h => h.edit met.1

/-- In every run from an empty operational world whose ticks do not go back and find a carrier, the figures are those of
the shipments. -/
theorem kpi_figures_of_shipments (clock : SimulationClock) (ticks : List ScheduledTick) (m : Master)
    (labels : List RunLabel) (carriers : CarriersTake m) (dates : (tickDates labels).Pairwise (· ≤ ·))
    (staffed : Staffed (Tx.start ⟨clock, ticks, World.empty m⟩) labels) :
    (labels.foldl runStep (Tx.start ⟨clock, ticks, World.empty m⟩)).Both fun db => KpiLaw db.tables := by
  obtain ⟨first, dates⟩ := exists_before dates
  obtain ⟨last, figured⟩ := figured_of_run (t := Tx.start (⟨clock, ticks, World.empty m⟩ : Database World))
    ⟨figured_empty carriers first, figured_empty carriers first⟩ dates staffed
  exact figured.imp fun _ h => h.kpiLaw

/-- Monday's order arrives on Friday, as promised. -/
theorem kpi_figures_sixDays :
    KpiLaw (sixDays.foldl runStep (Tx.start boxesCarried)).committed.tables ∧
      otif (sixDays.foldl runStep (Tx.start boxesCarried)).committed.tables = some 100 ∧
      orderCycleTime (sixDays.foldl runStep (Tx.start boxesCarried)).committed.tables = some 4 := by
  have staffed : Staffed (Tx.start boxesCarried) sixDays := by
    refine ⟨?_, ?_, ?_, ?_, trivial, ?_, ?_, trivial, trivial⟩
    all_goals
      change HasCarrier _
      decide +kernel
  have carriers : CarriersTake { boxesFor ["left"] with carrier := [⟨"swift", 1, 1, .low, 100, true⟩] } := by
    intro c mem
    obtain rfl := List.mem_singleton.1 mem
    exact ⟨zero_le_one, zero_le_one⟩
  exact ⟨(kpi_figures_of_shipments _ _ _ sixDays carriers (by decide +kernel) staffed).1, by decide +kernel⟩

end Runs

end MeadowOps.Dashboard
