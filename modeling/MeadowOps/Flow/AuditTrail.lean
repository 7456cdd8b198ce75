import MeadowOps.Flow.Frames
import MeadowOps.Flow.Reconciliation
import MeadowOps.Lib.Trail

/-!
# The audit trail of the orders

Every status change of a tick that returns is logged in the same iteration. A tick whose shipment is
refused changes an order without an event, but raises and is rolled back.
-/

namespace MeadowOps.Flow

open Db Lib Scheduler

/-! ## Purchase orders -/

/-- The transitions of a purchase order. -/
def PurchaseEdge (s s' : PurchaseOrderStatus) : Prop :=
  (s, s') ∈ [(PurchaseOrderStatus.submitted, PurchaseOrderStatus.confirmed),
    (.confirmed, .partiallyReceived), (.confirmed, .received), (.partiallyReceived, .received)]

/-- The transitions of a sales order. -/
def SalesEdge (s s' : SalesOrderStatus) : Prop :=
  (s, s') ∈ [(SalesOrderStatus.submitted, SalesOrderStatus.allocated),
    (.allocated, .partiallyShipped), (.allocated, .shipped), (.partiallyShipped, .shipped)]

/-- The order an event belongs to. -/
def eventOrder {S : Type} (e : LifecycleEvent S) : Option Uuid := some e.orderId

abbrev EventTrail {S : Type} (initial : S) (edge : S → S → Prop) (events : List (LifecycleEvent S))
    (status : S) : Prop :=
  Trail LifecycleEvent.fromStatus LifecycleEvent.toStatus initial edge events status

/-- What the events of a purchase order and its lines say. -/
structure PurchaseTrail (po : PurchaseOrder) (events : List (LifecycleEvent PurchaseOrderStatus)) :
    Prop where
  trail : EventTrail .submitted PurchaseEdge events po.status
  lines : ∀ l ∈ po.lines, l.quantityReceived ≤ l.quantityOrdered
  full : po.status = .received → ∀ l ∈ po.lines, l.quantityReceived = l.quantityOrdered

structure SalesTrail (so : SalesOrder) (events : List (LifecycleEvent SalesOrderStatus)) : Prop where
  trail : EventTrail .submitted SalesEdge events so.status
  lines : ∀ l ∈ so.lines, l.quantityShipped ≤ l.quantityOrdered
  full : so.status = .shipped → ∀ l ∈ so.lines, l.quantityShipped = l.quantityOrdered

def PurchaseAudited (w : World) : Prop :=
  Posted eventOrder PurchaseOrder.id PurchaseTrail w.purchaseOrder w.purchaseOrderLifecycleEvent

/-- The events of a world, order by order. -/
structure Audited (w : World) : Prop where
  purchaseOrders : PurchaseAudited w
  salesOrders : Posted eventOrder SalesOrder.id SalesTrail w.salesOrder w.salesOrderLifecycleEvent

theorem own_event {S : Type} {id : Uuid} {s : Option S} {s' : S} {d : Date} :
    ∀ e ∈ [(⟨id, s, s', d⟩ : LifecycleEvent S)], eventOrder e = some id := by
  intro e mem
  rw [List.mem_singleton.1 mem]
  rfl

theorem own_transitionEvents {S : Type} [DecidableEq S] {id : Uuid} {s s' : S} {d : Date} :
    ∀ e ∈ transitionEvents id s s' d, eventOrder e = some id := by
  intro e mem
  rw [transitionEvents] at mem
  split at mem
  · cases mem
  · exact own_event e mem

theorem EventTrail.created {S : Type} {initial : S} {edge : S → S → Prop} (id : Uuid) (d : Date) :
    EventTrail initial edge [⟨id, none, initial, d⟩] initial :=
  Trail.single rfl rfl

theorem EventTrail.moved {S : Type} {initial : S} {edge : S → S → Prop}
    {events : List (LifecycleEvent S)} {before after : S} (h : EventTrail initial edge events before)
    (id : Uuid) (d : Date) (he : edge before after) :
    EventTrail initial edge (events ++ [⟨id, some before, after, d⟩]) after :=
  h.append rfl rfl he

/-- A transition is logged, no transition is not. -/
theorem EventTrail.transition {S : Type} [DecidableEq S] {initial : S} {edge : S → S → Prop}
    {events : List (LifecycleEvent S)} {before after : S} (h : EventTrail initial edge events before)
    (id : Uuid) (d : Date) (he : after ≠ before → edge before after) :
    EventTrail initial edge (events ++ transitionEvents id before after d) after := by
  rw [transitionEvents]
  split <;> rename_i same
  · rw [List.append_nil, same]
    exact h
  · exact EventTrail.moved h id d (he same)

/-- A line that is fully received has no remainder. -/
theorem receiveLine_full {fraction : Option ℚ} {l : PurchaseOrderLine}
    (bounded : l.quantityReceived ≤ l.quantityOrdered) (full : fullyReceives fraction l = true) :
    (receiveLine fraction l).quantityReceived = (receiveLine fraction l).quantityOrdered := by
  rw [fullyReceives, Bool.or_eq_true, decide_eq_true_iff, decide_eq_true_iff] at full
  rw [receiveLine]
  by_cases remaining : PurchaseOrderLine.remaining l ≤ 0
  · rw [if_pos remaining]
    simp only [PurchaseOrderLine.remaining] at remaining
    omega
  · rw [if_neg remaining]
    have atLeast := full.resolve_left remaining
    have atMost := (receiveQuantity_bounds fraction (not_le.1 remaining)).2
    simp only [PurchaseOrderLine.remaining] at atLeast atMost ⊢
    omega

theorem PurchaseTrail.receive {po : PurchaseOrder} {events : List (LifecycleEvent PurchaseOrderStatus)}
    (h : PurchaseTrail po events) {lines : List PurchaseOrderLine} {fraction : Option ℚ}
    (perm : lines.Perm po.lines) (status : po.status = .confirmed ∨ po.status = .partiallyReceived)
    (d : Date) :
    PurchaseTrail (receivedOrder fraction lines po)
      (events ++ transitionEvents po.id po.status (receivedOrder fraction lines po).status d) where
  trail := by
    refine EventTrail.transition h.trail po.id d fun change => ?_
    revert change
    rw [receivedOrder]
    rcases status with status | status
    · rw [status]
      dsimp only
      split <;> simp [PurchaseEdge]
    · rw [status]
      dsimp only
      split <;> simp [PurchaseEdge]
  lines := by
    intro l hl
    obtain ⟨l', hl', rfl⟩ := List.mem_map.1 hl
    exact receiveLine_received fraction l' (h.lines l' (perm.mem_iff.1 hl'))
  full := by
    intro received l hl
    obtain ⟨l', hl', rfl⟩ := List.mem_map.1 hl
    rw [receivedOrder] at received
    dsimp only at received
    split at received <;> rename_i all
    · exact receiveLine_full (h.lines l' (perm.mem_iff.1 hl')) (List.all_eq_true.1 all l' hl')
    · cases received

theorem FlowStep.purchaseAudited {A : World → SalesOrder → Prop} {d : Date} {w w' : World}
    (h : FlowStep A d w w') (wf : Wf w)
    (hw : PurchaseAudited w) : PurchaseAudited w' := by
  cases h with
  | confirm po mem status =>
    refine hw.update wf.purchaseOrder mem (fun _ _ => rfl) own_event fun h => ?_
    refine PurchaseTrail.mk ?_ h.lines fun received => by cases received
    refine EventTrail.moved h.trail po.id d ?_
    rw [status]
    simp [PurchaseEdge]
  | receive po lines fraction mem status due perm =>
    exact hw.update wf.purchaseOrder mem (fun _ _ => rfl) own_transitionEvents
      fun h => h.receive perm status d
  | order po p quantity fresh lines minimum _ _ _ _ status =>
    refine hw.insert fresh own_event ?_
    refine PurchaseTrail.mk ?_ ?_ ?_
    · rw [status]
      exact EventTrail.created po.id d
    · intro l hl
      rw [lines, List.mem_singleton] at hl
      rw [hl]
      rw [minimumReorderQuantity] at minimum
      dsimp only
      omega
    · rw [status]
      intro received
      cases received
  | depart t => exact hw
  | arrive t => exact hw
  | transfer t => exact hw
  | dispatch s => exact hw
  | deliver s => exact hw
  | allocate so => exact hw
  | ship so => exact hw
  | demand so => exact hw
  | snapshot env => exact hw

/-! ## Sales orders -/

/-- The sales orders and their events, in a world whose orders have distinct ids. -/
structure SalesAudited (w : World) : Prop where
  keyed : Keyed (·.id) w.salesOrder
  posted : Posted eventOrder SalesOrder.id SalesTrail w.salesOrder w.salesOrderLifecycleEvent

theorem SalesTrail.ship {so : SalesOrder} {events : List (LifecycleEvent SalesOrderStatus)}
    (h : SalesTrail so events) {lines : List SalesOrderLine} (perm : lines.Perm so.lines)
    (status : so.status = .allocated ∨ so.status = .partiallyShipped) (d : Date)
    (ledger : List InventoryTransaction) :
    SalesTrail (shippedOrder (shipLines d so lines ledger).1 so)
      (events ++ transitionEvents so.id so.status
        (shippedOrder (shipLines d so lines ledger).1 so).status d) := by
  have bounded : ∀ l ∈ (shipLines d so lines ledger).1, l.quantityShipped ≤ l.quantityOrdered :=
    shipLines_lines d so lines ledger fun l hl => h.lines l (perm.mem_iff.1 hl)
  constructor
  case trail =>
    refine EventTrail.transition h.trail so.id d fun change => ?_
    revert change
    rw [shippedOrder]
    rcases status with status | status
    · rw [status]
      dsimp only
      split <;> simp [SalesEdge]
    · rw [status]
      dsimp only
      split <;> simp [SalesEdge]
  case lines => exact bounded
  case full =>
    intro shipped l hl
    rw [shippedOrder] at shipped
    dsimp only at shipped
    split at shipped <;> rename_i all
    · have full : l.quantityOrdered ≤ l.quantityShipped :=
        of_decide_eq_true (List.all_eq_true.1 all l hl)
      exact le_antisymm (bounded l hl) full
    · cases shipped

variable (env : TickEnv) {d : Date}

theorem OrderProgress.salesAudited {carriers : List Carrier} {so : SalesOrder} {w w' : World}
    (h : OrderProgress env d carriers so w w') (mem : so ∈ w.salesOrder) (hw : SalesAudited w) :
    SalesAudited w' := by
  cases h with
  | waits => exact hw
  | allocated submitted =>
    refine ⟨hw.keyed.modify fun _ same => same, ?_⟩
    refine hw.posted.update hw.keyed mem (fun _ same => same) own_event fun h => ?_
    refine SalesTrail.mk ?_ h.lines fun shipped => by cases shipped
    refine EventTrail.moved h.trail so.id d ?_
    rw [submitted]
    simp [SalesEdge]
  | shipped lines shipments status perm =>
    refine ⟨hw.keyed.modify fun _ same => same, ?_⟩
    exact hw.posted.update hw.keyed mem (fun _ same => same) own_transitionEvents
      fun h => h.ship perm status d w.inventoryTransaction

theorem createSalesOrder_salesAudited (productIds : List String) (created : ℕ) (customer : Customer) :
    Keeps SalesAudited (createSalesOrder env d productIds created customer) := by
  intro w hw
  unfold createSalesOrder
  dsimp only
  split
  · exact hw
  · split
    · exact hw
    · cases inserted : insertSalesOrder? _ w.salesOrder with
      | none => exact hw
      | some rows =>
        obtain ⟨rfl, fresh⟩ := insertSalesOrder?_eq_some inserted
        have lines := demandLines_spec (env.rng d (.demand customer.id)) 4
          (pickDemandProducts (env.rng d (.demand customer.id)) 1 productIds)
        refine ⟨hw.keyed.append fresh, hw.posted.insert fresh own_event ?_⟩
        refine SalesTrail.mk (EventTrail.created _ d) (fun l hl => ?_) fun shipped => by cases shipped
        have := lines l hl
        omega

theorem createSalesOrdersIfNeeded_salesAudited :
    Keeps SalesAudited (createSalesOrdersIfNeeded env d) := by
  refine Keeps.get_bind fun w hw => Keeps.foldlM (fun created customer _ => ?_) 0 w hw
  exact createSalesOrder_salesAudited env _ created customer

/-- A tick that returns has logged what it did to the sales orders. -/
theorem scheduledFlow_salesAudited {w w' : World} {events : ℕ}
    (run : scheduledFlow env d w = .ok events w') (hw : SalesAudited w) : SalesAudited w' := by
  obtain ⟨passes⟩ := salesPasses_of_ok env run
  have same := (progressShipments_orders env).of_ok
    (SameOrders.mk passes.sameBefore.1.1 passes.sameBefore.1.2) passes.shipments
  have before : SalesAudited passes.progressed := by
    refine ⟨?_, ?_⟩
    · rw [same.orders]
      exact hw.keyed
    · rw [same.orders, same.events]
      exact hw.posted
  have shipped : SalesAudited passes.shipped :=
    progressOpenSalesOrders_ok env (I := SalesAudited) (fun _ h => h.keyed)
      (fun so w w' mem step hw => step.salesAudited env mem hw) rfl before passes.orders
  have ordered := (createSalesOrdersIfNeeded_salesAudited env).of_ok shipped passes.demand
  rw [passes.snapshot]
  exact ⟨ordered.keyed, ordered.posted⟩

/-! ## Dates -/

/-- Events whose dates do not decrease and are not after `last`. -/
structure InOrder {S : Type} (last : Date) (events : List (LifecycleEvent S)) : Prop where
  sorted : (events.map (·.simulationDate)).Pairwise (· ≤ ·)
  bounded : ∀ e ∈ events, e.simulationDate ≤ last

theorem InOrder.mono {S : Type} {last last' : Date} {events : List (LifecycleEvent S)}
    (h : InOrder last events) (le : last ≤ last') : InOrder last' events :=
  ⟨h.sorted, fun e mem => (h.bounded e mem).trans le⟩

/-- Events of the last day. -/
theorem InOrder.append {S : Type} {last : Date} {events new : List (LifecycleEvent S)}
    (h : InOrder last events) (today : ∀ e ∈ new, e.simulationDate = last) :
    InOrder last (events ++ new) where
  sorted := by
    rw [List.map_append, List.pairwise_append]
    have same : ∀ x ∈ new.map (·.simulationDate), x = last := by
      intro x mem
      obtain ⟨e, he, rfl⟩ := List.mem_map.1 mem
      exact today e he
    refine ⟨h.sorted, List.pairwise_of_forall_mem_list fun x hx y hy => ?_, fun x hx y hy => ?_⟩
    · rw [same x hx, same y hy]
    · obtain ⟨e, he, rfl⟩ := List.mem_map.1 hx
      rw [same y hy]
      exact h.bounded e he
  bounded := by
    intro e mem
    rcases List.mem_append.1 mem with old | now
    · exact h.bounded e old
    · exact (today e now).le

theorem today_event {S : Type} {id : Uuid} {s : Option S} {s' : S} :
    ∀ e ∈ [(⟨id, s, s', d⟩ : LifecycleEvent S)], e.simulationDate = d := by
  intro e mem
  rw [List.mem_singleton.1 mem]

theorem today_transitionEvents {S : Type} [DecidableEq S] {id : Uuid} {s s' : S} :
    ∀ e ∈ transitionEvents id s s' d, e.simulationDate = d := by
  intro e mem
  rw [transitionEvents] at mem
  split at mem
  · cases mem
  · exact today_event e mem

structure DatesInOrder (last : Date) (w : World) : Prop where
  purchases : InOrder last w.purchaseOrderLifecycleEvent
  sales : InOrder last w.salesOrderLifecycleEvent

theorem FlowStep.datesInOrder {A : World → SalesOrder → Prop} {w w' : World} (h : FlowStep A d w w')
    (hw : DatesInOrder d w) : DatesInOrder d w' := by
  cases h with
  | confirm po => exact ⟨hw.purchases.append today_event, hw.sales⟩
  | receive po => exact ⟨hw.purchases.append today_transitionEvents, hw.sales⟩
  | order po => exact ⟨hw.purchases.append today_event, hw.sales⟩
  | depart t => exact ⟨hw.purchases, hw.sales⟩
  | arrive t => exact ⟨hw.purchases, hw.sales⟩
  | transfer t => exact ⟨hw.purchases, hw.sales⟩
  | dispatch s => exact ⟨hw.purchases, hw.sales⟩
  | deliver s => exact ⟨hw.purchases, hw.sales⟩
  | allocate so => exact ⟨hw.purchases, hw.sales.append today_event⟩
  | ship so lines shipments events _ _ _ _ _ logged =>
    refine ⟨hw.purchases, hw.sales.append ?_⟩
    rcases logged with rfl | rfl
    · exact fun _ mem => absurd mem List.not_mem_nil
    · exact today_transitionEvents
  | demand so => exact ⟨hw.purchases, hw.sales.append today_event⟩
  | snapshot env => exact ⟨hw.purchases, hw.sales⟩

/-! ## Runs -/

/-- The dates of the ticks of a run. -/
def tickDates (labels : List RunLabel) : List Date :=
  labels.filterMap fun l => match l with
    | .tick _ d => some d
    | _ => none

/-- The rule for runs whose ticks do not go back: what a tick of the last day and an edit keep, and a later
day keeps as well, holds up to some day. `C` is what the rest of a run meets of a condition on its labels. -/
theorem dated_run {I : Date → World → Prop} {C : Tx (Database World) → List RunLabel → Prop}
    (next : ∀ t l labels, C t (l :: labels) → C (runStep t l) labels)
    (mono : ∀ last last' w, last ≤ last' → I last w → I last' w)
    (tick : ∀ t env d labels events w, C t (.tick env d :: labels) → I d t.pending.tables →
      scheduledFlow env d t.pending.tables = .ok events w → I d w)
    (edit : ∀ t m labels last, C t (.edit m :: labels) → I last t.pending.tables →
      I last { t.pending.tables with master := m })
    {labels : List RunLabel} {t : Tx (Database World)} {last : Date} (ht : t.Both fun db => I last db.tables)
    (dates : (last :: tickDates labels).Pairwise (· ≤ ·)) (met : C t labels) :
    ∃ last, (labels.foldl runStep t).Both fun db => I last db.tables := by
  induction labels generalizing t last with
  | nil => exact ⟨last, ht⟩
  | cons l labels ih =>
    have later := next t l labels met
    cases l with
    | tick env d =>
      obtain ⟨first, rest⟩ := List.pairwise_cons.1 dates
      have today : t.Both fun db => I d db.tables :=
        ht.imp fun _ => mono last d _ (first d List.mem_cons_self)
      exact ih (runScheduledTick_both (I := I d) today fun events w => tick t env d labels events w met today.2)
        rest later
    | commit => exact ih ht.commit dates later
    | rollback => exact ih ht.rollback dates later
    | edit m => exact ih ⟨ht.1, edit t m labels last met ht.2⟩ dates later

/-- Ticks in the order of their dates append events in the order of theirs. -/
theorem datesInOrder_of_run {labels : List RunLabel} {t : Tx (Database World)} {last : Date}
    (ht : t.Both fun db => Wf db.tables ∧ DatesInOrder last db.tables)
    (dates : (last :: tickDates labels).Pairwise (· ≤ ·)) :
    ∃ last, (labels.foldl runStep t).Both fun db => Wf db.tables ∧ DatesInOrder last db.tables := by
  refine dated_run (I := fun last w => Wf w ∧ DatesInOrder last w) (C := fun _ _ => True)
    (fun _ _ _ _ => trivial) ?_ ?_ ?_ ht dates trivial
  · exact fun last last' w le h => ⟨h.1, h.2.purchases.mono le, h.2.sales.mono le⟩
  · intro t env d labels events w _ h run
    have steps := scheduledFlow_steps env d h.1
    rw [run] at steps
    exact ⟨steps.wf h.1,
      FlowSteps.invariant (fun _ _ step _ hI => step.datesInOrder hI) h.1 h.2 steps⟩
  · exact fun t m labels last _ h => ⟨{ h.1 with }, h.2.purchases, h.2.sales⟩

/-- The lifecycle of every order, as its events tell it. -/
structure AuditTrail (w : World) : Prop where
  purchaseOrders : ∀ po ∈ w.purchaseOrder,
    PurchaseTrail po (entriesOf eventOrder po.id w.purchaseOrderLifecycleEvent)
  salesOrders : ∀ so ∈ w.salesOrder,
    SalesTrail so (entriesOf eventOrder so.id w.salesOrderLifecycleEvent)
  purchaseChanges : ∀ po ∈ w.purchaseOrder,
    ∀ e ∈ entriesOf eventOrder po.id w.purchaseOrderLifecycleEvent, e.fromStatus ≠ some e.toStatus
  salesChanges : ∀ so ∈ w.salesOrder,
    ∀ e ∈ entriesOf eventOrder so.id w.salesOrderLifecycleEvent, e.fromStatus ≠ some e.toStatus

/-- The dates of each order's events do not decrease. -/
structure DatesNeverDecrease (w : World) : Prop where
  purchaseOrders : ∀ po ∈ w.purchaseOrder,
    ((entriesOf eventOrder po.id w.purchaseOrderLifecycleEvent).map (·.simulationDate)).Pairwise (· ≤ ·)
  salesOrders : ∀ so ∈ w.salesOrder,
    ((entriesOf eventOrder so.id w.salesOrderLifecycleEvent).map (·.simulationDate)).Pairwise (· ≤ ·)

theorem purchaseEdge_ne {s s' : PurchaseOrderStatus} (h : PurchaseEdge s s') : s ≠ s' := by
  rintro rfl
  revert h
  cases s <;> simp [PurchaseEdge]

theorem salesEdge_ne {s s' : SalesOrderStatus} (h : SalesEdge s s') : s ≠ s' := by
  rintro rfl
  revert h
  cases s <;> simp [SalesEdge]

theorem Audited.auditTrail {w : World} (h : Audited w) : AuditTrail w where
  purchaseOrders := h.purchaseOrders.entries
  salesOrders := h.salesOrders.entries
  purchaseChanges po hpo e he same :=
    purchaseEdge_ne ((h.purchaseOrders.entries po hpo).trail.edges e he _ same) rfl
  salesChanges so hso e he same :=
    salesEdge_ne ((h.salesOrders.entries so hso).trail.edges e he _ same) rfl

theorem DatesInOrder.neverDecrease {w : World} {last : Date} (h : DatesInOrder last w) :
    DatesNeverDecrease w where
  purchaseOrders _ _ := h.purchases.sorted.sublist (List.filter_sublist.map _)
  salesOrders _ _ := h.sales.sorted.sublist (List.filter_sublist.map _)

/-- Both event tables tell the statuses after every run from an empty world. -/
theorem audited_of_run {t : Tx (Database World)} (h : (flowRuns EmptyWorld).Reachable t) :
    t.Both fun db => Audited db.tables := by
  have inv := @flowRuns_invariant EmptyWorld (fun w => SalesAudited w ∧ PurchaseAudited w) _
    (fun _ => EmptyWorld.wf) (fun w empty => ?_) (fun t env d events w _ _ wf hI run => ?_)
    (fun _ _ hI => ⟨⟨hI.1.keyed, hI.1.posted⟩, hI.2⟩) t h
  · exact inv.imp fun db hI => ⟨hI.2.2, hI.2.1.posted⟩
  · rw [empty]
    exact ⟨⟨List.nodup_nil, Posted.nil⟩, Posted.nil⟩
  · have steps := scheduledFlow_steps env d wf
    rw [run] at steps
    exact ⟨scheduledFlow_salesAudited env run hI.1,
      FlowSteps.invariant (fun _ _ step wf hw => step.purchaseAudited wf hw) wf hI.2 steps⟩

/-- A date none of the ticks is before. -/
theorem exists_before {dates : List Date} (h : dates.Pairwise (· ≤ ·)) :
    ∃ first, (first :: dates).Pairwise (· ≤ ·) := by
  cases dates with
  | nil => exact ⟨0, List.pairwise_singleton ..⟩
  | cons d dates =>
    refine ⟨d, List.pairwise_cons.2 ⟨fun later mem => ?_, h⟩⟩
    rcases List.mem_cons.1 mem with rfl | mem
    · exact le_rfl
    · exact (List.pairwise_cons.1 h).1 later mem

theorem datesInOrder_empty (m : Master) (last : Date) : DatesInOrder last (World.empty m) :=
  ⟨⟨List.Pairwise.nil, fun _ mem => absurd mem List.not_mem_nil⟩,
    ⟨List.Pairwise.nil, fun _ mem => absurd mem List.not_mem_nil⟩⟩

/-- In every run from an empty operational world each order's events tell its lifecycle, and their dates
do not decrease when those of the ticks do not. -/
theorem audit_trail (clock : SimulationClock) (ticks : List ScheduledTick) (m : Master)
    (labels : List RunLabel) :
    (labels.foldl runStep (Tx.start ⟨clock, ticks, World.empty m⟩)).Both fun db =>
      AuditTrail db.tables ∧
        ((tickDates labels).Pairwise (· ≤ ·) → DatesNeverDecrease db.tables) := by
  have audited := audited_of_run
    (@flowRuns_follow _ ⟨clock, ticks, World.empty m⟩ (emptyWorld m) labels)
  have start : (Tx.start (⟨clock, ticks, World.empty m⟩ : Database World)).Both fun db =>
      Wf db.tables ∧ ∀ last, DatesInOrder last db.tables :=
    ⟨⟨(emptyWorld m).wf, datesInOrder_empty m⟩, ⟨(emptyWorld m).wf, datesInOrder_empty m⟩⟩
  have dated : (tickDates labels).Pairwise (· ≤ ·) →
      (labels.foldl runStep (Tx.start ⟨clock, ticks, World.empty m⟩)).Both fun db =>
        DatesNeverDecrease db.tables := by
    intro dates
    obtain ⟨first, dates⟩ := exists_before dates
    obtain ⟨last, inOrder⟩ :=
      datesInOrder_of_run (start.imp fun _ h => ⟨h.1, h.2 first⟩) dates
    exact inOrder.imp fun _ h => h.2.neverDecrease
  exact ⟨⟨audited.1.auditTrail, fun dates => (dated dates).1⟩,
    ⟨audited.2.auditTrail, fun dates => (dated dates).2⟩⟩

end MeadowOps.Flow
