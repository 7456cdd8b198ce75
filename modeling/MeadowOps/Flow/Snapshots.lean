import MeadowOps.Flow.Runs

/-!
# The daily snapshot

The upsert leaves exactly the row it was given for its day, product and warehouse (`Recorded`).
The grouped query agrees with the per-pair one, and where stock is never negative the clamp has
nothing to do: the row of an active pair holds the ledger sum.
-/

namespace MeadowOps.Flow

open Db Lib Scheduler

/-- `s` is the one row of its grain. -/
def Recorded (rows : List InventorySnapshot) (s : InventorySnapshot) : Prop :=
  s ∈ rows ∧ ∀ r ∈ rows, InventorySnapshot.grain r = InventorySnapshot.grain s → r = s

/-- The upsert replaces the row of the grain. -/
theorem upsertSnapshot_eq_upsert : upsertSnapshot = upsert InventorySnapshot.grain := by
  funext rows s
  have replaced : ∀ r, InventorySnapshot.grain r = InventorySnapshot.grain s →
      { r with quantityOnHand := s.quantityOnHand, quantityAllocated := s.quantityAllocated } = s := by
    intro r same
    simp only [InventorySnapshot.grain, Prod.mk.injEq] at same
    obtain ⟨day, product, warehouse⟩ := same
    cases s
    simp_all
  unfold upsertSnapshot upsert
  rw [modify_congr fun r _ same => replaced r same]
  congr

theorem upsertSnapshot_recorded (rows : List InventorySnapshot) (s : InventorySnapshot) :
    Recorded (upsertSnapshot rows s) s := by
  rw [upsertSnapshot_eq_upsert]
  refine ⟨mem_upsert.2 (.inl rfl), fun r mem same => ?_⟩
  rcases mem_upsert.1 mem with rfl | ⟨-, ne⟩
  · rfl
  · exact absurd same ne

/-- An upsert of another grain keeps the row. -/
theorem Recorded.upsert {rows : List InventorySnapshot} {s s' : InventorySnapshot}
    (h : Recorded rows s) (agree : InventorySnapshot.grain s' = InventorySnapshot.grain s → s' = s) :
    Recorded (upsertSnapshot rows s') s := by
  by_cases same : InventorySnapshot.grain s' = InventorySnapshot.grain s
  · rw [agree same]
    exact upsertSnapshot_recorded rows s
  · rw [upsertSnapshot_eq_upsert]
    refine ⟨mem_upsert.2 (.inr ⟨h.1, Ne.symm same⟩), fun r mem hrs => ?_⟩
    rcases mem_upsert.1 mem with rfl | ⟨there, -⟩
    · exact absurd hrs same
    · exact h.2 r there hrs

/-- The statement's rows are all recorded, when rows of one grain are equal. -/
theorem upsertSnapshots_recorded {values : List InventorySnapshot}
    (agree : ∀ s ∈ values, ∀ s' ∈ values,
      InventorySnapshot.grain s' = InventorySnapshot.grain s → s' = s)
    (rows : List InventorySnapshot) {s : InventorySnapshot}
    (h : s ∈ values ∨ Recorded rows s ∧ ∀ s' ∈ values,
      InventorySnapshot.grain s' = InventorySnapshot.grain s → s' = s) :
    Recorded (values.foldl upsertSnapshot rows) s := by
  induction values generalizing rows with
  | nil =>
    rcases h with h | h
    · cases h
    · exact h.1
  | cons v values ih =>
    rw [List.foldl_cons]
    have agree' : ∀ a ∈ values, ∀ b ∈ values, InventorySnapshot.grain b = InventorySnapshot.grain a →
        b = a := fun a ha b hb => agree a (List.mem_cons_of_mem _ ha) b (List.mem_cons_of_mem _ hb)
    refine ih agree' (upsertSnapshot rows v) ?_
    rcases h with h | h
    · rcases List.mem_cons.1 h with rfl | h
      · exact .inr ⟨upsertSnapshot_recorded rows s, fun a ha =>
          agree s List.mem_cons_self a (List.mem_cons_of_mem _ ha)⟩
      · exact .inl h
    · exact .inr ⟨h.1.upsert (h.2 v List.mem_cons_self), fun a ha =>
        h.2 a (List.mem_cons_of_mem _ ha)⟩

/-- After the pass, the row of every active pair is the one computed from the tables. -/
theorem snapshotInventoryPositions_recorded (env : TickEnv) (d : Date) (w : World) {p wh : String}
    (hp : ∃ a ∈ w.master.product, a.isActive = true ∧ a.id = p)
    (hwh : ∃ a ∈ w.master.warehouse, a.isActive = true ∧ a.id = wh) :
    Recorded (endState (snapshotInventoryPositions env d w)).inventorySnapshot
      (snapshotRow w d p wh) := by
  refine upsertSnapshots_recorded ?_ _ (.inl ?_)
  · intro s hs s' hs' same
    simp only [List.mem_flatMap, List.mem_map] at hs hs'
    obtain ⟨a, -, b, -, rfl⟩ := hs
    obtain ⟨a', -, b', -, rfl⟩ := hs'
    simp only [InventorySnapshot.grain, snapshotRow, Prod.mk.injEq] at same
    obtain ⟨-, rfl, rfl⟩ := same
    rfl
  · simp only [List.mem_flatMap, List.mem_map]
    obtain ⟨a, ha, act, rfl⟩ := hp
    obtain ⟨b, hb, act', rfl⟩ := hwh
    exact ⟨a.id, ⟨a, by simp [ha, act], rfl⟩, b.id, ⟨b, by simp [hb, act'], rfl⟩, rfl⟩

/-- The grouped query and the per-pair query read the same position. -/
theorem positionByKey_eq (w : World) (p wh : String) :
    (positionByKey w).getD (p, wh) 0 = currentInventoryPosition w p wh := by
  rw [positionByKey, Dict.getD_groupSum]
  exact (inventoryPosition_eq_balance w.inventoryTransaction p wh).symm

/-- Each row the pass writes for day `d` holds the ledger sum, and no sum had to be clamped. -/
def SnapshotExact (d : Date) (w : World) : Prop :=
  ∀ p wh, (∃ a ∈ w.master.product, a.isActive = true ∧ a.id = p) →
    (∃ a ∈ w.master.warehouse, a.isActive = true ∧ a.id = wh) →
    0 ≤ (positionByKey w).getD (p, wh) 0 ∧
    ∃ s, Recorded w.inventorySnapshot s ∧ InventorySnapshot.grain s = (d, p, wh) ∧
      s.quantityOnHand = currentInventoryPosition w p wh

/-- The snapshot pass comes last in a flow that returns. -/
theorem scheduledFlow_ok {env : TickEnv} {d : Date} {w w' : World} {events : ℕ}
    (h : scheduledFlow env d w = .ok events w') :
    ∃ w₁, w' = endState (snapshotInventoryPositions env d w₁) := by
  obtain ⟨passes⟩ := scheduledFlow_passes h
  exact ⟨passes.ordered.2, passes.last⟩

theorem snapshotExact_of_neverNegative {env : TickEnv} {d : Date} {w w' : World} {events : ℕ}
    (run : scheduledFlow env d w = .ok events w') (stock : NeverNegative w'.inventoryTransaction) :
    SnapshotExact d w' := by
  obtain ⟨w₁, rfl⟩ := scheduledFlow_ok run
  intro p wh hp hwh
  have nonneg : 0 ≤ currentInventoryPosition w₁ p wh := stock.position_nonneg p wh
  have key := positionByKey_eq w₁ p wh
  refine ⟨key ▸ nonneg, snapshotRow w₁ d p wh,
    snapshotInventoryPositions_recorded env d w₁ hp hwh, rfl, ?_⟩
  show max ((positionByKey w₁).getD (p, wh) 0) 0 = currentInventoryPosition w₁ p wh
  rw [key, max_eq_left nonneg]

/-! ## The pairs of a day -/

/-- A product and a warehouse that are both active. -/
def ActivePair (m : Master) (p wh : String) : Prop :=
  (∃ a ∈ m.product, a.isActive = true ∧ a.id = p) ∧ ∃ a ∈ m.warehouse, a.isActive = true ∧ a.id = wh

/-- The snapshots of `w` and those of day `d`, one for each pair. -/
structure SnapshotsAdded (d : Date) (w w' : World) : Prop where
  master : w'.master = w.master
  keyed : Keyed InventorySnapshot.grain w'.inventorySnapshot
  old : ∀ g ∈ w.inventorySnapshot.map InventorySnapshot.grain,
    g ∈ w'.inventorySnapshot.map InventorySnapshot.grain
  new : ∀ d' p wh, (d', p, wh) ∈ w'.inventorySnapshot.map InventorySnapshot.grain →
    (d', p, wh) ∈ w.inventorySnapshot.map InventorySnapshot.grain ∨ d' = d ∧ ActivePair w.master p wh

theorem SnapshotsAdded.snapshot {d : Date} {w₀ w : World} (h : SnapshotsAdded d w₀ w) (env : TickEnv) :
    SnapshotsAdded d w₀ (endState (snapshotInventoryPositions env d w)) := by
  simp only [snapshotInventoryPositions, endState_ok, upsertSnapshot_eq_upsert]
  constructor
  case master => exact h.master
  case keyed => exact h.keyed.upsertAll
  case old => exact fun g mem => mem_map_key_upsertAll.2 (.inr (h.old g mem))
  case new =>
    intro d' p wh mem
    rcases mem_map_key_upsertAll.1 mem with value | there
    · obtain ⟨s, values, same⟩ := List.mem_map.1 value
      simp only [List.mem_flatMap, List.mem_map, RowOrder.mem_rows, List.mem_filter] at values
      obtain ⟨_, ⟨a, ⟨product, active⟩, rfl⟩, _, ⟨b, ⟨warehouse, active'⟩, rfl⟩, rfl⟩ := values
      simp only [InventorySnapshot.grain, snapshotRow, Prod.mk.injEq] at same
      obtain ⟨rfl, rfl, rfl⟩ := same
      rw [h.master] at product warehouse
      exact .inr ⟨rfl, ⟨a, product, active, rfl⟩, ⟨b, warehouse, active', rfl⟩⟩
    · exact h.new d' p wh there

theorem FlowStep.snapshotsAdded {A : World → SalesOrder → Prop} {d : Date} {w₀ w w' : World}
    (step : FlowStep A d w w') (h : SnapshotsAdded d w₀ w) : SnapshotsAdded d w₀ w' := by
  cases step with
  | snapshot env => exact h.snapshot env
  | confirm po => exact { h with }
  | receive po => exact { h with }
  | order po => exact { h with }
  | depart t => exact { h with }
  | arrive t => exact { h with }
  | transfer t => exact { h with }
  | dispatch s => exact { h with }
  | deliver s => exact { h with }
  | allocate so => exact { h with }
  | ship so => exact { h with }
  | demand so => exact { h with }

/-- A tick that returns adds a snapshot for each active pair, and no other. -/
theorem scheduledFlow_snapshots {env : TickEnv} {d : Date} {w w' : World} {events : ℕ} (wf : Wf w)
    (keyed : Keyed InventorySnapshot.grain w.inventorySnapshot)
    (run : scheduledFlow env d w = .ok events w') : SnapshotsAdded d w w' ∧
      ∀ p wh, ActivePair w.master p wh →
        (d, p, wh) ∈ w'.inventorySnapshot.map InventorySnapshot.grain := by
  have steps := scheduledFlow_steps env d wf
  rw [run] at steps
  have added : SnapshotsAdded d w w' := FlowSteps.invariant (I := SnapshotsAdded d w)
    (fun _ _ step _ h => step.snapshotsAdded h) wf ⟨rfl, keyed, fun _ mem => mem, fun _ _ _ mem => .inl mem⟩
    steps
  refine ⟨added, fun p wh active => ?_⟩
  obtain ⟨w₁, rfl⟩ := scheduledFlow_ok run
  have master : w₁.master = w.master := added.master
  rw [← master] at active
  exact List.mem_map.2 ⟨_, (snapshotInventoryPositions_recorded env d w₁ active.1 active.2).1, rfl⟩

/-! ## The rows of the other days -/

/-- Only the rows of `d` are written. -/
theorem FlowStep.snapshots_otherDays {A : World → SalesOrder → Prop} {d : Date} {w w' : World}
    (step : FlowStep A d w w') :
    w'.inventorySnapshot.filter (·.snapshotDate ≠ d) = w.inventorySnapshot.filter (·.snapshotDate ≠ d) := by
  cases step with
  | snapshot env =>
    simp only [snapshotInventoryPositions, endState_ok, upsertSnapshot_eq_upsert]
    refine filter_upsertAll_of_not fun v value r same => ?_
    simp only [List.mem_flatMap, List.mem_map] at value
    obtain ⟨_, -, _, -, rfl⟩ := value
    have day : r.snapshotDate = d := congrArg Prod.fst same
    simp [day]
  | confirm po => rfl
  | receive po => rfl
  | order po => rfl
  | depart t => rfl
  | arrive t => rfl
  | transfer t => rfl
  | dispatch s => rfl
  | deliver s => rfl
  | allocate so => rfl
  | ship so => rfl
  | demand so => rfl

theorem scheduledFlow_otherDays {env : TickEnv} {d : Date} {w w' : World} {events : ℕ} (wf : Wf w)
    (run : scheduledFlow env d w = .ok events w') :
    w'.inventorySnapshot.filter (·.snapshotDate ≠ d) = w.inventorySnapshot.filter (·.snapshotDate ≠ d) := by
  have steps := scheduledFlow_steps env d wf
  rw [run] at steps
  exact FlowSteps.invariant (I := fun w' => w'.inventorySnapshot.filter (·.snapshotDate ≠ d) =
      w.inventorySnapshot.filter (·.snapshotDate ≠ d))
    (fun _ _ step _ same => step.snapshots_otherDays.trans same) wf rfl steps

/-! ## Runs -/

theorem flowRuns_stocked {t : Tx (Database World)} (h : (flowRuns StockStart).Reachable t) :
    t.Both fun db => Wf db.tables ∧ Stocked db.tables :=
  flowRuns_step_invariant (fun _ h => h.keys) (fun _ h => h.stocked)
    (fun _ _ _ step _ stocked => step.stocked stocked) (fun _ _ stocked => { stocked with }) h

/-- In every run, after every single insert into the ledger, also those of a tick that raises later,
no stock is negative; and a tick that returns has snapshotted the ledger sums. -/
theorem stock_never_negative {t : Tx (Database World)} (h : (flowRuns StockStart).Reachable t) :
    NeverNegative t.committed.tables.inventoryTransaction ∧
    NeverNegative t.pending.tables.inventoryTransaction ∧
    ∀ env d,
      NeverNegative (endState (scheduledFlow env d t.pending.tables)).inventoryTransaction ∧
      ∀ events w, scheduledFlow env d t.pending.tables = .ok events w → SnapshotExact d w := by
  obtain ⟨⟨-, committed⟩, wf, pending⟩ := flowRuns_stocked h
  refine ⟨committed.ledger, pending.ledger, fun env d => ?_⟩
  have after : Stocked (endState (scheduledFlow env d t.pending.tables)) :=
    FlowSteps.invariant (fun _ _ step _ stocked => step.stocked stocked) wf pending
      (scheduledFlow_steps env d wf)
  refine ⟨after.ledger, fun events w run => snapshotExact_of_neverNegative run ?_⟩
  rw [run] at after
  exact after.ledger

/-- The week: boxes are received, in parts at `west`, shipped to the shop, and moved between the warehouses, and
the tick of the next Monday would snapshot the sums. -/
theorem stock_never_negative_week :
    let t := week.foldl runStep (Tx.start beforeMonday)
    NeverNegative t.committed.tables.inventoryTransaction ∧
    t.committed.tables.inventoryTransaction.map
        (fun row => (row.warehouseId, row.transactionType, row.quantityDelta)) =
      [("main", .receipt, 20), ("north", .receipt, 20), ("west", .receipt, 10), ("west", .receipt, 5),
        ("main", .shipment, -20), ("west", .receipt, 2), ("north", .transferOut, -10), ("west", .receipt, 1),
        ("west", .receipt, 1), ("main", .transferIn, 10), ("west", .transferOut, -9)] ∧
    ∃ events w, scheduledFlow (weekEnv 7) (monday + 7) t.pending.tables = .ok events w ∧
      SnapshotExact (monday + 7) w := by
  intro t
  have start : StockStart beforeMonday.tables := (emptyWorld shop).stockStart
  have never := stock_never_negative (@flowRuns_follow _ beforeMonday start week)
  refine ⟨never.1, by decide +kernel, ?_⟩
  have logged : (endState (tick (weekEnv 7) (monday + 7) t)).pending.scheduledTick.getLast?.map (·.status) =
      some .success := by decide +kernel
  cases run : scheduledFlow (weekEnv 7) (monday + 7) t.pending.tables with
  | ok events w => exact ⟨events, w, rfl, (never.2.2 (weekEnv 7) (monday + 7)).2 events w run⟩
  | error e w =>
    rw [tick, runScheduledTick_error _ run] at logged
    simp [endState, addTick] at logged

end MeadowOps.Flow
