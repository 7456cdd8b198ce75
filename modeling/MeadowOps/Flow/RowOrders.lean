import MeadowOps.Flow.Runs
import MeadowOps.Flow.SnapshotPairs
import MeadowOps.Flow.SalesProgress

/-!
# A tick and the order of the rows

Two runs of a tick with the same draws, which see the rows of their queries in different orders, end in the
same state unless they contest a stock or the order of the products decides what a customer orders.
-/

namespace MeadowOps.Flow

open Db Lib Scheduler

variable {env env' : TickEnv} {d : Date} {w w' : World}

/-! ## The snapshot -/

theorem snapshotRow_congr (h : SameRows w w') (p wh : String) : snapshotRow w d p wh = snapshotRow w' d p wh := by
  rw [snapshotRow, snapshotRow, positionByKey_eq, positionByKey_eq, allocatedByKey_eq, allocatedByKey_eq,
    (h.at p wh).position, (h.at p wh).allocated]

theorem snapshotInventoryPositions_agrees :
    Agrees Alike (snapshotInventoryPositions env d) (snapshotInventoryPositions env' d) := by
  intro w w' h
  have keyed := keyed_snapshotsAfter env d h.snapshots
  have keyed' := keyed_snapshotsAfter env' d ((h.inventorySnapshot.map _).nodup_iff.1 h.snapshots)
  have rows : (snapshotsAfter env d w).Perm (snapshotsAfter env' d w') := by
    rw [List.perm_ext_iff_of_nodup keyed.of_map keyed'.of_map]
    intro s
    rw [mem_snapshotsAfter, mem_snapshotsAfter, snapshotRow_congr h.toSameRows, h.master,
      h.inventorySnapshot.mem_iff]
  exact .returned () ⟨{ h.toSameRows with inventorySnapshot := rows }, { h.wf with }, h.keyed, keyed⟩

/-! ## The flow -/

/-- The passes up to the loop over the open sales orders. -/
def beforeSalesOrders (env : TickEnv) (d : Date) : Pass ℕ := do
  let _ ← progressPurchaseOrders env d
  let _ ← progressWarehouseTransfers env d
  let _ ← createWarehouseTransfersIfNeeded env d
  let _ ← createPurchaseOrdersIfNeeded env d
  progressShipments env d

/-- Neither the stock that the loop over the sales orders finds nor an order of the day is contested. -/
structure OrderFree (env : TickEnv) (d : Date) (w : World) : Prop where
  stock : ∀ events w₁, beforeSalesOrders env d w = .ok events w₁ → Uncontested w₁
  demand : ∀ customer ∈ w.master.customer, customer.isActive = true →
    OrderSettled (env.rng d (.demand customer.id)) (w.master.product.countP (·.isActive))

theorem progressOpenSalesOrders_master {events events' : ℕ} (keyed : Keyed (·.id) w.salesOrder)
    (calm : Uncontested w) (run : progressOpenSalesOrders env d events w = .ok events' w') :
    w'.master = w.master := by
  have pass := progressOpenSalesOrders_outcome env d keyed calm events
  rw [run] at pass
  cases pass
  rfl

theorem scheduledFlow_agrees (draws : SameDraws env env') (h : Alike w w') (free : OrderFree env d w) :
    Agree Alike (scheduledFlow env d w) (scheduledFlow env' d w') := by
  refine (progressPurchaseOrders_agrees d draws w w' h).bind fun e1 w1 w1' run1 _ h1 => ?_
  refine (progressWarehouseTransfers_agrees env env' d w1 w1' h1).bind fun e2 w2 w2' run2 _ h2 => ?_
  refine (createWarehouseTransfersIfNeeded_agrees d draws w2 w2' h2).bind fun e3 w3 w3' run3 _ h3 => ?_
  refine (createPurchaseOrdersIfNeeded_agrees draws w3 w3' h3).bind fun e4 w4 w4' run4 _ h4 => ?_
  have calm : ∀ events w₁, progressShipments env d w4 = .ok events w₁ → Uncontested w₁ := by
    intro events w₁ run
    refine free.stock events w₁ ?_
    rw [beforeSalesOrders, bind_of_ok run1, bind_of_ok run2, bind_of_ok run3, bind_of_ok run4]
    exact run
  have sales : Agree Alike (progressSalesOrdersAndShipments env d w4) (progressSalesOrdersAndShipments env' d w4') :=
    (progressShipments_agrees d draws w4 w4' h4).bind fun events w₁ w₁' run _ h' =>
      progressOpenSalesOrders_agrees draws h' (calm events w₁ run) events
  refine sales.bind fun e5 w5 w5' run5 _ h5 => ?_
  have master : w5.master = w.master := by
    obtain ⟨events, w₁, shipments, orders⟩ := bind_eq_ok run5
    have same1 := (progressPurchaseOrders_sales env).of_ok (SameSales.refl w) run1
    have same2 := (progressWarehouseTransfers_sales env).of_ok same1 run2
    have same3 := (createWarehouseTransfersIfNeeded_sales env).of_ok same2 run3
    have same4 := (createPurchaseOrdersIfNeeded_sales env).of_ok same3 run4
    have progressed := progressShipments_ok env h4.wf.shipment shipments
    have last := progressOpenSalesOrders_master (progressed ▸ h4.wf.salesOrder) (calm events w₁ shipments) orders
    rw [last, progressed]
    exact same4.2.master
  have demand := createSalesOrdersIfNeeded_agrees draws h5 (d := d) (by rw [master]; exact free.demand)
  refine demand.bind fun e6 w6 w6' _ _ h6 => ?_
  refine (snapshotInventoryPositions_agrees w6 w6' h6).bind fun _ w7 w7' _ _ h7 => ?_
  exact .returned _ h7

/-! ## The tick -/

/-- The same rows in every table. -/
structure SameDatabase (db db' : Database World) : Prop where
  clock : db.clock = db'.clock
  scheduledTick : db.scheduledTick = db'.scheduledTick
  tables : SameRows db.tables db'.tables

structure SameSession (t t' : Tx (Database World)) : Prop where
  committed : SameDatabase t.committed t'.committed
  pending : SameDatabase t.pending t'.pending
  active : t.active = t'.active

theorem SameDatabase.refl (db : Database World) : SameDatabase db db := ⟨rfl, rfl, .refl _⟩

/-- Where no stock is contested and no customer's order hangs on the order of the products, two runs of a tick
that differ in the orders of the rows end in the same state. -/
theorem tick_ignores_row_orders (draws : SameDraws env env') (d : Date) (t : Tx (Database World))
    (wf : Wf t.pending.tables) (keyed : KeyedMaster t.pending.tables.master)
    (snapshots : Keyed InventorySnapshot.grain t.pending.tables.inventorySnapshot)
    (free : OrderFree env d t.pending.tables) :
    SameSession (endState (tick env d t)) (endState (tick env' d t)) := by
  have flow := scheduledFlow_agrees draws ⟨SameRows.refl _, wf, keyed, snapshots⟩ free
  generalize run : scheduledFlow env d t.pending.tables = r at flow
  generalize run' : scheduledFlow env' d t.pending.tables = r' at flow
  cases flow with
  | returned events alike =>
    rw [tick, tick, runScheduledTick_ok _ run, runScheduledTick_ok _ run']
    exact ⟨.refl _, ⟨rfl, rfl, alike.toSameRows⟩, rfl⟩
  | raised e e' s s' =>
    rw [tick, tick, runScheduledTick_error _ run, runScheduledTick_error _ run']
    exact ⟨.refl _, .refl _, rfl⟩

end MeadowOps.Flow
