import MeadowOps.Flow.Deliveries
import MeadowOps.Flow.Snapshots

/-!
# What a tick dates

Every row that a tick of day `d` adds is dated `d`, and a delivery it finds is dated no later.
-/

namespace MeadowOps.Flow

open Db Lib

/-- Nothing in the operational tables happened after `last`. -/
structure DatedBy (last : Date) (w : World) : Prop where
  ledger : ∀ t ∈ w.inventoryTransaction, t.transactionAt ≤ simDatetime last
  purchaseEvents : ∀ e ∈ w.purchaseOrderLifecycleEvent, e.simulationDate ≤ last
  salesEvents : ∀ e ∈ w.salesOrderLifecycleEvent, e.simulationDate ≤ last
  purchaseOrders : ∀ po ∈ w.purchaseOrder, po.orderDate ≤ last
  salesOrders : ∀ so ∈ w.salesOrder, so.orderDate ≤ last
  shipments : ∀ s ∈ w.shipment, s.shipDate ≤ last ∧ ∀ a ∈ s.actualDeliveryDate, a ≤ last
  transfers : ∀ t ∈ w.warehouseTransfer, t.transferDate ≤ last
  snapshots : ∀ s ∈ w.inventorySnapshot, s.snapshotDate ≤ last

theorem DatedBy.empty (last : Date) (m : Master) : DatedBy last (World.empty m) := by
  constructor <;> exact fun _ mem => nomatch mem

theorem DatedBy.mono {last last' : Date} {w : World} (h : DatedBy last w) (le : last ≤ last') :
    DatedBy last' w where
  ledger t mem := (h.ledger t mem).trans (simDatetime_mono le)
  purchaseEvents e mem := (h.purchaseEvents e mem).trans le
  salesEvents e mem := (h.salesEvents e mem).trans le
  purchaseOrders po mem := (h.purchaseOrders po mem).trans le
  salesOrders so mem := (h.salesOrders so mem).trans le
  shipments s mem := by
    obtain ⟨shipped, delivered⟩ := h.shipments s mem
    exact ⟨shipped.trans le, fun a landed => (delivered a landed).trans le⟩
  transfers t mem := (h.transfers t mem).trans le
  snapshots s mem := (h.snapshots s mem).trans le

/-- What holds of the rows of a table and of the new ones holds of all of them. -/
theorem forall_append {ρ : Type} {P : ρ → Prop} {rows new : List ρ} (h : ∀ r ∈ rows, P r)
    (added : ∀ r ∈ new, P r) : ∀ r ∈ rows ++ new, P r :=
  fun r mem => (List.mem_append.1 mem).elim (h r) (added r)

theorem forall_snapshots {P : InventorySnapshot → Prop} {values rows : List InventorySnapshot}
    (update : ∀ s s' : InventorySnapshot, s'.snapshotDate = s.snapshotDate → P s → P s') (h : ∀ s ∈ rows, P s)
    (new : ∀ s ∈ values, P s) : ∀ s ∈ values.foldl upsertSnapshot rows, P s := by
  induction values generalizing rows with
  | nil => exact h
  | cons v values ih =>
    refine ih ?_ fun s mem => new s (List.mem_cons_of_mem _ mem)
    unfold upsertSnapshot
    split
    · exact forall_modify h fun s mem _ => update s _ rfl (h s mem)
    · exact forall_append h fun s mem => List.mem_singleton.1 mem ▸ new v List.mem_cons_self

section

variable {A : World → SalesOrder → Prop} {d last : Date} {w w' : World}

/-- What a step of the day adds to all but the shipments. -/
structure StepDated (last : Date) (w : World) : Prop where
  ledger : ∀ t ∈ w.inventoryTransaction, t.transactionAt ≤ simDatetime last
  purchaseEvents : ∀ e ∈ w.purchaseOrderLifecycleEvent, e.simulationDate ≤ last
  salesEvents : ∀ e ∈ w.salesOrderLifecycleEvent, e.simulationDate ≤ last
  purchaseOrders : ∀ po ∈ w.purchaseOrder, po.orderDate ≤ last
  salesOrders : ∀ so ∈ w.salesOrder, so.orderDate ≤ last
  transfers : ∀ t ∈ w.warehouseTransfer, t.transferDate ≤ last
  snapshots : ∀ s ∈ w.inventorySnapshot, s.snapshotDate ≤ last

theorem DatedBy.step (h : DatedBy last w) : StepDated last w := { h with }

theorem dated_transition {S : Type} [DecidableEq S] {id : Uuid} {s s' : S} (today : d ≤ last) :
    ∀ e ∈ transitionEvents id s s' d, e.simulationDate ≤ last := by
  intro e mem
  unfold transitionEvents at mem
  split at mem
  · cases mem
  · rw [List.mem_singleton.1 mem]
    exact today

theorem dated_event {S : Type} {id : Uuid} {s : Option S} {s' : S} (today : d ≤ last) :
    ∀ e ∈ [(⟨id, s, s', d⟩ : LifecycleEvent S)], e.simulationDate ≤ last := by
  intro e mem
  rw [List.mem_singleton.1 mem]
  exact today

theorem FlowStep.dated (h : FlowStep A d w w') (today : d ≤ last) (hw : StepDated last w) :
    StepDated last w' := by
  have now := simDatetime_mono today
  have booked : ∀ {t : InventoryTransaction}, t.transactionAt = simDatetime d →
      ∀ t' ∈ [t], t'.transactionAt ≤ simDatetime last := by
    intro t at' t' mem
    rw [List.mem_singleton.1 mem, at']
    exact now
  cases h with
  | confirm po mem =>
    exact { hw with
      purchaseOrders := forall_modify hw.purchaseOrders fun _ _ _ => hw.purchaseOrders po mem
      purchaseEvents := forall_append hw.purchaseEvents (dated_event today) }
  | receive po lines fraction mem =>
    refine { hw with
      purchaseOrders := forall_modify hw.purchaseOrders fun _ _ _ => hw.purchaseOrders po mem
      purchaseEvents := forall_append hw.purchaseEvents (dated_transition today)
      ledger := forall_append hw.ledger fun t received => ?_ }
    obtain ⟨l, -, receipt⟩ := List.mem_filterMap.1 received
    obtain ⟨-, rfl⟩ := receiptOf_eq_some receipt
    exact now
  | depart t => exact { hw with transfers := forall_modify hw.transfers fun t mem _ => hw.transfers t mem }
  | arrive t =>
    exact { hw with
      transfers := forall_modify hw.transfers fun t mem _ => hw.transfers t mem
      ledger := forall_append hw.ledger (booked rfl) }
  | transfer t fresh noOrder noTransfer distinct positive deficit surplus date =>
    refine { hw with
      transfers := forall_append hw.transfers fun t' mem => ?_
      ledger := forall_append hw.ledger (booked rfl) }
    rw [List.mem_singleton.1 mem, date]
    exact today
  | order po p quantity fresh lines minimum noOrder noTransfer date =>
    refine { hw with
      purchaseOrders := forall_append hw.purchaseOrders fun po' mem => ?_
      purchaseEvents := forall_append hw.purchaseEvents (dated_event today) }
    rw [List.mem_singleton.1 mem, date]
    exact today
  | dispatch s => exact { hw with }
  | deliver s => exact { hw with }
  | allocate so =>
    exact { hw with
      salesOrders := forall_modify hw.salesOrders fun so mem _ => hw.salesOrders so mem
      salesEvents := forall_append hw.salesEvents (dated_event today) }
  | ship so lines shipments events mem status perm any shipment logged =>
    refine { hw with
      salesOrders := forall_modify hw.salesOrders fun so mem _ => hw.salesOrders so mem
      salesEvents := forall_append hw.salesEvents ?_
      ledger := ?_ }
    · obtain ⟨shipped, appended, -⟩ := shipLines_spec d so lines w.inventoryTransaction
      rw [appended]
      refine forall_append hw.ledger fun t moved => ?_
      obtain ⟨l, -, rfl⟩ := List.mem_map.1 moved
      exact now
    · rcases logged with rfl | rfl
      · exact fun _ mem => nomatch mem
      · exact dated_transition today
  | demand so fresh lines date =>
    refine { hw with
      salesOrders := forall_append hw.salesOrders fun so' mem => ?_
      salesEvents := forall_append hw.salesEvents (dated_event today) }
    rw [List.mem_singleton.1 mem, date]
    exact today
  | snapshot env =>
    refine { hw with snapshots := ?_ }
    refine forall_snapshots (fun s s' same h => same.trans_le h) hw.snapshots fun s mem => ?_
    obtain ⟨p, -, mem⟩ := List.mem_flatMap.1 mem
    obtain ⟨wh, -, rfl⟩ := List.mem_map.1 mem
    exact today

/-- What a tick that returns adds is dated no later than its day. -/
theorem scheduledFlow_dated {env : TickEnv} {events : ℕ} (wf : Wf w) (today : d ≤ last) (hw : DatedBy last w)
    (run : scheduledFlow env d w = .ok events w') : DatedBy last w' := by
  have steps := scheduledFlow_steps env d wf
  rw [run] at steps
  have stepped : StepDated last w' :=
    FlowSteps.invariant (fun _ _ step _ hw => step.dated today hw) wf hw.step steps
  refine { stepped with shipments := ?_ }
  obtain ⟨new, eq, created⟩ := (scheduledFlow_shipments env wf run).shipments
  rw [eq]
  refine forall_append (fun s mem => ?_) fun s mem => ?_
  · obtain ⟨s, known, rfl⟩ := List.mem_map.1 mem
    obtain ⟨shipped, delivered⟩ := hw.shipments s known
    refine ⟨by rwa [advanceShipment_agreed.2.1], ?_⟩
    unfold advanceShipment
    split
    · exact delivered
    · split
      · exact delivered
      · split
        · rename_i landed
          rintro a ⟨⟩
          exact landed.trans today
        · exact delivered
    · exact delivered
    · exact delivered
  · have fresh := created s mem
    refine ⟨fresh.shipDate ▸ today, ?_⟩
    rw [fresh.undelivered]
    exact fun _ none => nomatch none

end

end MeadowOps.Flow
