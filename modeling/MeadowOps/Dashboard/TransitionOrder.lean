import MeadowOps.Dashboard.OrderDetail
import MeadowOps.Flow.TickEvents
import MeadowOps.Simulation.AllOrNothing

/-!
# The events of an order in transition order

A tick writes at most one event for each order, so the times of its events increase from tick to tick. A rebuild
writes the events of many days in one transaction: those of one order share their time, and come back in any
order.
-/

namespace MeadowOps.Dashboard

open Db Lib MeadowOps.Flow Scheduler Simulation

section Log

variable {S : Type} {rows : List (EventRow S)} {events events' : List (LifecycleEvent S)} {start : Instant}

def EventRow.rebuilt (r : EventRow S) : Bool :=
  match r.writer with
  | .tick => false
  | .repopulation _ => true

/-- How a row of a log relates to one before it: it is of a later tick, or of the same transaction, where an
order has several events only in a rebuild of several days. -/
inductive Follows (r r' : EventRow S) : Prop
  | later (before : r.occurredAt < r'.occurredAt) (tick : r'.writer = .tick)
  | together (same : r.occurredAt = r'.occurredAt)
      (days : r.event.orderId = r'.event.orderId →
        ∃ n, 1 < n ∧ r.writer = .repopulation n ∧ r'.writer = .repopulation n)

/-- A log and its rows. -/
structure LogOf (rows : List (EventRow S)) (events : List (LifecycleEvent S)) : Prop where
  events : rows.map (·.event) = events
  follows : rows.Pairwise Follows

theorem LogOf.nil : LogOf ([] : List (EventRow S)) [] := ⟨rfl, List.Pairwise.nil⟩

/-- A tick that starts after the rows were written. -/
theorem LogOf.tick (h : LogOf rows events) (appends : AppendsOnce events events')
    (later : ∀ r ∈ rows, r.occurredAt < start) : LogOf (afterTick start rows events') events' := by
  obtain ⟨new, rfl, nodup⟩ := appends
  have added : (events ++ new).drop rows.length = new := by
    rw [← h.events, ← List.length_map (f := fun r : EventRow S => r.event), List.drop_left]
  rw [afterTick, added]
  constructor
  case events =>
    rw [List.map_append, h.events, List.map_map]
    congr 1
    exact List.map_id _
  case follows =>
    refine List.pairwise_append.2 ⟨h.follows, ?_, fun r mem r' mem' => ?_⟩
    · refine List.pairwise_map.2 ((List.pairwise_map.1 nodup).imp fun ne => ?_)
      exact .together rfl fun same => absurd same ne
    · obtain ⟨e, -, rfl⟩ := List.mem_map.1 mem'
      exact .later (later r mem) rfl

theorem LogOf.repopulation {historyDays : ℤ} (short : historyDays ≤ 1 → (events.map (·.orderId)).Nodup) :
    LogOf (afterRepopulation start historyDays events) events := by
  constructor
  case events =>
    rw [afterRepopulation, List.map_map]
    exact List.map_id _
  case follows =>
    refine List.pairwise_map.2 ?_
    by_cases several : 1 < historyDays
    · refine List.pairwise_of_forall fun e e' => ?_
      exact .together rfl fun _ => ⟨historyDays, several, rfl, rfl⟩
    · refine (List.pairwise_map.1 (short (not_lt.1 several))).imp fun ne => ?_
      exact .together rfl fun same => absurd same ne

/-! ## What a page lists -/

/-- The first event has no status before it, and each later one starts where the one before it ended. -/
abbrev ListedInOrder (events : List (LifecycleEventRead S)) : Prop :=
  TransitionChain LifecycleEventRead.fromStatus LifecycleEventRead.toStatus events

theorem eventRowsOf_events (k : Uuid) :
    (eventRowsOf k rows).map (·.event) = entriesOf eventOrder k (rows.map (·.event)) := by
  rw [entriesOf, List.filter_map]
  congr 1
  refine List.filter_congr fun r _ => ?_
  simp [eventOrder]

variable {initial status : S} {edge : S → S → Prop} {rank : S → ℕ} {k : Uuid}

/-- The rows of one order follow each other. -/
theorem LogOf.followsOf (h : LogOf rows events) (k : Uuid) :
    (eventRowsOf k rows).Pairwise fun r r' => Follows r r' ∧ r.event.orderId = r'.event.orderId := by
  refine (h.follows.sublist List.filter_sublist).imp_of_mem fun mem mem' follows => ⟨follows, ?_⟩
  rw [of_decide_eq_true (List.mem_filter.1 mem).2, of_decide_eq_true (List.mem_filter.1 mem').2]

/-- The events of an order come back in transition order iff at most one of them was written by a rebuild. -/
theorem LogOf.listed_iff (h : LogOf rows events)
    (trail : EventTrail initial edge (entriesOf eventOrder k events) status)
    (climb : ∀ s s', edge s s' → rank s < rank s') :
    (∀ q : OrderedBy (EventRow.occurredAt (S := S)), ListedInOrder ((q.rows (eventRowsOf k rows)).map EventRow.read)) ↔
      ((eventRowsOf k rows).filter EventRow.rebuilt).length ≤ 1 := by
  rw [← h.events, ← eventRowsOf_events] at trail
  have chain := transitionChain_map.1 trail.transitionChain
  have edges : ∀ r ∈ eventRowsOf k rows, ∀ s, r.event.fromStatus = some s → rank s < rank r.event.toStatus :=
    fun r mem s source => climb s _ (trail.edges r.event (List.mem_map_of_mem mem) s source)
  have answers : (∀ q : OrderedBy (EventRow.occurredAt (S := S)),
      ListedInOrder ((q.rows (eventRowsOf k rows)).map EventRow.read)) ↔
      ∀ q : OrderedBy (EventRow.occurredAt (S := S)),
        TransitionChain (fun r => r.event.fromStatus) (fun r => r.event.toStatus) (q.rows (eventRowsOf k rows)) :=
    forall_congr' fun q => transitionChain_map
  rw [answers, transitionChain_iff chain edges, length_filter_le_one]
  constructor
  · intro strict
    refine strict.imp₂ (fun r r' before follows => ?_) (h.followsOf k)
    rintro ⟨-, rebuilt⟩
    rcases follows with ⟨⟨-, tick⟩ | ⟨same, -⟩, -⟩
    · rw [EventRow.rebuilt, tick] at rebuilt
      cases rebuilt
    · exact before.ne same
  · intro few
    refine few.imp₂ (fun r r' one follows => ?_) (h.followsOf k)
    rcases follows with ⟨⟨before, -⟩ | ⟨-, days⟩, sameOrder⟩
    · exact before
    · obtain ⟨n, -, writer, writer'⟩ := days sameOrder
      refine absurd ⟨?_, ?_⟩ one
      · rw [EventRow.rebuilt, writer]
      · rw [EventRow.rebuilt, writer']

/-- Rebuilds of one day write an order at most once. -/
theorem LogOf.rebuilt_le_one (h : LogOf rows events)
    (oneDay : ∀ r ∈ rows, ∀ n, r.writer = .repopulation n → n ≤ 1) (k : Uuid) :
    ((eventRowsOf k rows).filter EventRow.rebuilt).length ≤ 1 := by
  rw [length_filter_le_one]
  refine (h.followsOf k).imp_of_mem fun mem mem' follows => ?_
  rintro ⟨-, rebuilt⟩
  rcases follows with ⟨⟨-, tick⟩ | ⟨-, days⟩, sameOrder⟩
  · rw [EventRow.rebuilt, tick] at rebuilt
    cases rebuilt
  · obtain ⟨n, several, writer, -⟩ := days sameOrder
    exact absurd (oneDay _ (List.mem_filter.1 mem).1 n writer) (not_le.2 several)

end Log

/-! ## The tables -/

/-- The keys and the audit trail of the orders. -/
structure OrdersAudited (w : World) : Prop where
  wf : Wf w
  purchases : PurchaseAudited w
  sales : SalesAudited w

theorem ordersAudited_empty (m : Master) : OrdersAudited (World.empty m) :=
  ⟨(emptyWorld m).wf, Posted.nil, ⟨List.nodup_nil, Posted.nil⟩⟩

theorem OrdersAudited.flow {env : TickEnv} {d : Date} {w w' : World} {n : ℕ} (h : OrdersAudited w)
    (run : scheduledFlow env d w = .ok n w') : OrdersAudited w' := by
  have steps := scheduledFlow_steps env d h.wf
  rw [run] at steps
  exact ⟨steps.wf h.wf,
    FlowSteps.invariant (fun _ _ step wf hw => step.purchaseAudited wf hw) h.wf h.purchases steps,
    scheduledFlow_salesAudited env run h.sales⟩

/-- What a rebuild commits; of one day, it writes an order at most once. -/
theorem repopulatedOrders {env : RepopulateEnv} {today : Date} {historyDays : ℤ} {db : Database Platform}
    {result : RepopulateResult} {t : Tx (Database Platform)}
    (run : repopulateWorld env today historyDays (Tx.start db) = .ok result t) :
    OrdersAudited t.pending.tables.world ∧
      (historyDays ≤ 1 → AppendsOnce [] t.pending.tables.world.purchaseOrderLifecycleEvent ∧
        AppendsOnce [] t.pending.tables.world.salesOrderLifecycleEvent) := by
  constructor
  · refine repopulateWorld_rule (t := Tx.start db) (J := fun db => OrdersAudited db.tables.world)
      (fun _ _ => ordersAudited_empty db.tables.world.master) (fun d s s' h ran => ?_) run
    obtain ⟨events, w, _, _, _, flow, done⟩ := (generateDay_ok ran).tables
    rw [done]
    exact h.flow flow
  · intro le
    obtain ⟨long, count, t₁, prepare, days⟩ := repopulateWorld_calls run
    obtain ⟨-, worldState, scenario, -, pending⟩ := prepareWorld_ok prepare
    have empty : t₁.pending.tables.world = World.empty db.tables.world.master := by
      rw [pending]
      rfl
    have one : window today historyDays = [startDate today historyDays + (0 : ℕ)] := by
      have one : historyDays = 1 := le_antisymm le long
      rw [window, one]
      rfl
    rw [one, List.foldlM_cons] at days
    obtain ⟨_, _, ran, done⟩ := bind_eq_ok days
    cases done
    obtain ⟨events, w, _, _, _, flow, done⟩ := (generateDay_ok ran).tables
    rw [empty] at flow
    have purchases := scheduledFlow_purchasesOnce _ (emptyWorld db.tables.world.master).wf flow
    have sales := scheduledFlow_salesOnce _ (emptyWorld db.tables.world.master).wf flow
    rw [done]
    exact ⟨purchases, sales⟩

/-! ## Runs -/

/-- A tick starts its transaction after the rows it finds were written. -/
def StartsLater (s : CommittedWorld) : CommitLabel → Prop
  | .tick start .. => (∀ r ∈ s.purchaseOrderLifecycleEvent, r.occurredAt < start) ∧
      ∀ r ∈ s.salesOrderLifecycleEvent, r.occurredAt < start
  | _ => True

structure CommittedInv (s : CommittedWorld) : Prop where
  orders : OrdersAudited s.db.tables.world
  purchases : LogOf s.purchaseOrderLifecycleEvent s.db.tables.world.purchaseOrderLifecycleEvent
  sales : LogOf s.salesOrderLifecycleEvent s.db.tables.world.salesOrderLifecycleEvent

theorem Fresh.inv {s : CommittedWorld} (h : Fresh s) : CommittedInv s := by
  constructor
  · rw [h.world]
    exact ordersAudited_empty _
  · rw [h.purchases, h.world]
    exact .nil
  · rw [h.sales, h.world]
    exact .nil

/-- A tick that commits a flow, or leaves the logs as they are. -/
theorem CommittedInv.tick {s : CommittedWorld} (h : CommittedInv s) {start : Instant} {env : DayEnv} {lagDays : ℤ}
    {faults : TickFaults} (later : StartsLater s (.tick start env lagDays faults)) :
    CommittedInv (commitNext s (.tick start env lagDays faults)) := by
  have written : OrdersAudited (tickOf env lagDays faults s.db).tables.world ∧
      AppendsOnce s.db.tables.world.purchaseOrderLifecycleEvent
        (tickOf env lagDays faults s.db).tables.world.purchaseOrderLifecycleEvent ∧
      AppendsOnce s.db.tables.world.salesOrderLifecycleEvent
        (tickOf env lagDays faults s.db).tables.world.salesOrderLifecycleEvent := by
    rcases tickOf_cases env lagDays faults s.db with same | failed | ⟨events, w, done⟩
    · rw [same]
      exact ⟨h.orders, .refl _, .refl _⟩
    · rw [failed]
      exact ⟨h.orders, .refl _, .refl _⟩
    · rw [done.world]
      exact ⟨h.orders.flow done.flow, scheduledFlow_purchasesOnce _ h.orders.wf done.flow,
        scheduledFlow_salesOnce _ h.orders.wf done.flow⟩
  obtain ⟨orders, purchases, sales⟩ := written
  exact ⟨orders, h.purchases.tick purchases later.1, h.sales.tick sales later.2⟩

/-- A rebuild that raises leaves everything, one that returns commits its tables and writes both logs anew. -/
theorem commitNext_repopulate (s : CommittedWorld) (start : Instant) (env : RepopulateEnv) (today : Date)
    (historyDays : ℤ) : commitNext s (.repopulate start env today historyDays) = s ∨
    ∃ result t, repopulateWorld env today historyDays (Tx.start s.db) = .ok result t ∧
      commitNext s (.repopulate start env today historyDays) =
        { db := t.pending
          purchaseOrderLifecycleEvent :=
            afterRepopulation start historyDays t.pending.tables.world.purchaseOrderLifecycleEvent
          salesOrderLifecycleEvent :=
            afterRepopulation start historyDays t.pending.tables.world.salesOrderLifecycleEvent } := by
  rcases repopulateWork_cases env today historyDays s.db with ⟨e, same⟩ | ⟨result, t, run, same⟩
  · left
    rw [commitNext, same]
    rfl
  · refine .inr ⟨result, t, run, ?_⟩
    rw [commitNext, same]
    rfl

theorem CommittedInv.repopulate {s : CommittedWorld} (h : CommittedInv s) (start : Instant) (env : RepopulateEnv)
    (today : Date) (historyDays : ℤ) : CommittedInv (commitNext s (.repopulate start env today historyDays)) := by
  rcases commitNext_repopulate s start env today historyDays with same | ⟨result, t, run, same⟩
  · rw [same]
    exact h
  · rw [same]
    obtain ⟨orders, once⟩ := repopulatedOrders run
    exact ⟨orders, .repopulation fun le => (once le).1.nodup, .repopulation fun le => (once le).2.nodup⟩

/-- The invariant of the committed events, where no tick is overtaken. -/
theorem committedInv_of_run {s : CommittedWorld} (h : committedRuns.Reach StartsLater s) : CommittedInv s := by
  refine h.invariant (fun s fresh => (show Fresh s from fresh).inv) fun s l s' _ inv later step => ?_
  obtain rfl : s' = commitNext s l := step
  cases l with
  | tick start env lagDays faults => exact inv.tick later
  | repopulate start env today historyDays => exact inv.repopulate start env today historyDays
  | edit m => exact ⟨⟨{ inv.orders.wf with }, inv.orders.purchases, ⟨inv.orders.sales.keyed, inv.orders.sales.posted⟩⟩,
      inv.purchases, inv.sales⟩
  | clock c => exact ⟨inv.orders, inv.purchases, inv.sales⟩

/-! ## The pages -/

/-- Every answer for a purchase order lists its events in transition order. -/
def PurchaseListed (s : CommittedWorld) (purchaseOrderId : Uuid) : Prop :=
  ∀ lines events detail, getPurchaseOrderDetail lines events s purchaseOrderId = .ok detail →
    ListedInOrder detail.lifecycleEvents

/-- Every answer for a sales order lists its events in transition order. -/
def SalesListed (s : CommittedWorld) (salesOrderId : Uuid) : Prop :=
  ∀ lines events shipments detail, getSalesOrderDetail lines events shipments s salesOrderId = .ok detail →
    ListedInOrder detail.lifecycleEvents

/-- The events of an order that a rebuild wrote. -/
def rebuiltEvents {S : Type} (orderId : Uuid) (rows : List (EventRow S)) : List (EventRow S) :=
  (eventRowsOf orderId rows).filter EventRow.rebuilt

/-- The rebuilds that wrote the rows of a log were of one day. -/
def RebuiltInOneDay {S : Type} (rows : List (EventRow S)) : Prop :=
  ∀ r ∈ rows, ∀ n, r.writer = .repopulation n → n ≤ 1

structure OrderPagesLaw (s : CommittedWorld) : Prop where
  purchaseOrders : ∀ po ∈ s.db.tables.world.purchaseOrder, PurchaseListed s po.id ↔
    (rebuiltEvents po.id s.purchaseOrderLifecycleEvent).length ≤ 1
  salesOrders : ∀ so ∈ s.db.tables.world.salesOrder, SalesListed s so.id ↔
    (rebuiltEvents so.id s.salesOrderLifecycleEvent).length ≤ 1
  oneDay : RebuiltInOneDay s.purchaseOrderLifecycleEvent → RebuiltInOneDay s.salesOrderLifecycleEvent →
    ∀ id, PurchaseListed s id ∧ SalesListed s id

section Pages

variable {s : CommittedWorld}

theorem purchaseListed_iff {po : PurchaseOrder} (found : lookup PurchaseOrder.id po.id s.db.tables.world.purchaseOrder = some po) :
    PurchaseListed s po.id ↔ ∀ q : OrderedBy EventRow.occurredAt,
      ListedInOrder ((q.rows (eventRowsOf po.id s.purchaseOrderLifecycleEvent)).map EventRow.read) := by
  constructor
  · intro listed q
    refine listed .inserted q ⟨po, isAtRisk po.id s.db.tables.exceptionFlag, po.lines, _⟩ ?_
    rw [getPurchaseOrderDetail, found]
    rfl
  · intro listed lines events detail answer
    rw [getPurchaseOrderDetail, found] at answer
    cases answer
    exact listed events

theorem salesListed_iff {so : SalesOrder} (found : lookup SalesOrder.id so.id s.db.tables.world.salesOrder = some so) :
    SalesListed s so.id ↔ ∀ q : OrderedBy EventRow.occurredAt,
      ListedInOrder ((q.rows (eventRowsOf so.id s.salesOrderLifecycleEvent)).map EventRow.read) := by
  constructor
  · intro listed q
    refine listed .inserted q .inserted
      ⟨so, so.lines, _, (shipmentsOf s.db.tables.world so.id).map shipmentRead⟩ ?_
    rw [getSalesOrderDetail, found]
    rfl
  · intro listed lines events shipments detail answer
    rw [getSalesOrderDetail, found] at answer
    cases answer
    exact listed events

def purchaseRank : PurchaseOrderStatus → ℕ
  | .draft | .submitted | .cancelled => 0
  | .confirmed => 1
  | .partiallyReceived => 2
  | .received => 3

def salesRank : SalesOrderStatus → ℕ
  | .draft | .submitted | .cancelled => 0
  | .allocated => 1
  | .partiallyShipped => 2
  | .shipped => 3

theorem purchaseRank_lt {a b : PurchaseOrderStatus} (edge : PurchaseEdge a b) : purchaseRank a < purchaseRank b := by
  simp only [PurchaseEdge, List.mem_cons, Prod.mk.injEq, List.not_mem_nil, or_false] at edge
  rcases edge with ⟨rfl, rfl⟩ | ⟨rfl, rfl⟩ | ⟨rfl, rfl⟩ | ⟨rfl, rfl⟩ <;> decide

theorem salesRank_lt {a b : SalesOrderStatus} (edge : SalesEdge a b) : salesRank a < salesRank b := by
  simp only [SalesEdge, List.mem_cons, Prod.mk.injEq, List.not_mem_nil, or_false] at edge
  rcases edge with ⟨rfl, rfl⟩ | ⟨rfl, rfl⟩ | ⟨rfl, rfl⟩ | ⟨rfl, rfl⟩ <;> decide

theorem CommittedInv.purchaseListed_iff (h : CommittedInv s) {po : PurchaseOrder}
    (mem : po ∈ s.db.tables.world.purchaseOrder) : PurchaseListed s po.id ↔
      (rebuiltEvents po.id s.purchaseOrderLifecycleEvent).length ≤ 1 := by
  rw [Dashboard.purchaseListed_iff (lookup_of_mem h.orders.wf.purchaseOrder mem)]
  exact h.purchases.listed_iff (h.orders.purchases.entries po mem).trail fun _ _ => purchaseRank_lt

theorem CommittedInv.salesListed_iff (h : CommittedInv s) {so : SalesOrder}
    (mem : so ∈ s.db.tables.world.salesOrder) : SalesListed s so.id ↔
      (rebuiltEvents so.id s.salesOrderLifecycleEvent).length ≤ 1 := by
  rw [Dashboard.salesListed_iff (lookup_of_mem h.orders.wf.salesOrder mem)]
  exact h.sales.listed_iff (h.orders.sales.posted.entries so mem).trail fun _ _ => salesRank_lt

theorem CommittedInv.purchaseListed_oneDay (h : CommittedInv s) (oneDay : RebuiltInOneDay s.purchaseOrderLifecycleEvent)
    (id : Uuid) : PurchaseListed s id := by
  cases found : lookup PurchaseOrder.id id s.db.tables.world.purchaseOrder with
  | none =>
    intro lines events detail answer
    rw [getPurchaseOrderDetail, found] at answer
    cases answer
  | some po =>
    obtain ⟨mem, rfl⟩ := lookup_mem found
    exact (h.purchaseListed_iff mem).2 (h.purchases.rebuilt_le_one oneDay po.id)

theorem CommittedInv.salesListed_oneDay (h : CommittedInv s) (oneDay : RebuiltInOneDay s.salesOrderLifecycleEvent)
    (id : Uuid) : SalesListed s id := by
  cases found : lookup SalesOrder.id id s.db.tables.world.salesOrder with
  | none =>
    intro lines events shipments detail answer
    rw [getSalesOrderDetail, found] at answer
    cases answer
  | some so =>
    obtain ⟨mem, rfl⟩ := lookup_mem found
    exact (h.salesListed_iff mem).2 (h.sales.rebuilt_le_one oneDay so.id)

end Pages

/-- An order is listed in transition order by every answer iff at most one of its events was written by a
rebuild; so is every order when the rebuilds were of one day. -/
theorem order_events_in_transition_order {s : CommittedWorld} (h : committedRuns.Reach StartsLater s) :
    OrderPagesLaw s := by
  have inv := committedInv_of_run h
  constructor
  case purchaseOrders => exact fun po mem => inv.purchaseListed_iff mem
  case salesOrders => exact fun so mem => inv.salesListed_iff mem
  case oneDay => exact fun purchases sales id => ⟨inv.purchaseListed_oneDay purchases id, inv.salesListed_oneDay sales id⟩

/-! ## Runs -/

instance (s : CommittedWorld) : (l : CommitLabel) → Decidable (StartsLater s l)
  | .tick .. => instDecidableAnd
  | .repopulate .. | .edit _ | .clock _ => instDecidableTrue

/-- Boxes at one warehouse, no event yet. -/
def freshBoxes : CommittedWorld := ⟨pausedWorld (boxesFor []) [], [], []⟩

def commitAll (ok : CommittedWorld → CommitLabel → Prop) [∀ s l, Decidable (ok s l)] (labels : List CommitLabel) :
    Option CommittedWorld :=
  labels.foldlM (fun s l => if ok s l then some (commitNext s l) else none) freshBoxes

theorem reach_of_commitAll {ok : CommittedWorld → CommitLabel → Prop} [∀ s l, Decidable (ok s l)]
    {labels : List CommitLabel} {s : CommittedWorld} (ran : commitAll ok labels = some s) :
    committedRuns.Reach ok s :=
  System.Reach.checked (fun _ _ _ step => (Option.some.inj step).symm)
    (.start (show Fresh freshBoxes from ⟨emptyWorld _, rfl, rfl⟩)) ran

def leastTick : TickEnv := TickEnv.inOrder fun _ _ => Rng.least

/-- Two days are rebuilt: the order of the first day is confirmed on the second. -/
def twoDaysRebuilt : List CommitLabel := [.repopulate 1000 (plainRebuild fun _ => leastTick) (monday + 1) 2]

/-- Its two events share their time, and may come back in any order. -/
theorem rebuilt_events_tied : ∃ s, committedRuns.Reach StartsLater s ∧
    ∃ po ∈ s.db.tables.world.purchaseOrder, ¬ PurchaseListed s po.id := by
  have run : (commitAll StartsLater twoDaysRebuilt).any (fun s => s.db.tables.world.purchaseOrder.any fun po =>
      decide ((rebuiltEvents po.id s.purchaseOrderLifecycleEvent).length = 2)) = true := by
    decide +kernel
  obtain ⟨s, ran, tied⟩ := (Option.any_eq_true _ _).1 run
  obtain ⟨po, mem, two⟩ := List.any_eq_true.1 tied
  have reached := reach_of_commitAll ran
  refine ⟨s, reached, po, mem, fun listed => ?_⟩
  have few := ((committedInv_of_run reached).purchaseListed_iff mem).1 listed
  rw [of_decide_eq_true two] at few
  exact absurd few (by decide)

/-- One day is rebuilt, and the next is ticked. -/
def oneDayRebuilt : List CommitLabel :=
  [.repopulate 1000 (plainRebuild fun _ => leastTick) monday 1, .tick 2000 (plainDay leastTick) 2 .none]

/-- Both events of an order are listed as they happened. -/
theorem order_events_in_transition_order_oneDay : ∃ s, OrderPagesLaw s ∧
    ∃ po ∈ s.db.tables.world.purchaseOrder, (eventRowsOf po.id s.purchaseOrderLifecycleEvent).length = 2 ∧
      PurchaseListed s po.id := by
  have run : (commitAll StartsLater oneDayRebuilt).any (fun s => s.db.tables.world.purchaseOrder.any fun po =>
      decide ((eventRowsOf po.id s.purchaseOrderLifecycleEvent).length = 2 ∧
        (rebuiltEvents po.id s.purchaseOrderLifecycleEvent).length ≤ 1)) = true := by
    decide +kernel
  obtain ⟨s, ran, listed⟩ := (Option.any_eq_true _ _).1 run
  obtain ⟨po, mem, counts⟩ := List.any_eq_true.1 listed
  obtain ⟨two, one⟩ := of_decide_eq_true counts
  have law := order_events_in_transition_order (reach_of_commitAll ran)
  exact ⟨s, law, po, mem, two, (law.purchaseOrders po mem).2 one⟩

end MeadowOps.Dashboard
