import MeadowOps.Flow.Passes
import MeadowOps.Lib.CatchUp
import Mathlib.Data.String.Basic
import Mathlib.Data.Prod.Lex

/-!
# `sync_reporting_layer` of `app/services/reporting_sync.py`

The reporting layer's copy of the inventory snapshots, at a lag behind the simulation date, and
`app/domain/reporting_sync.py`. The session's transaction is the caller's.
-/

namespace MeadowOps.Reporting

open Db Lib MeadowOps.Flow

/-- A row of `reporting.inventory_snapshot`. -/
structure ReportingInventorySnapshot where
  snapshotDate : Date
  productId : String
  warehouseId : String
  quantityOnHand : ℤ
  quantityAllocated : ℤ
  deriving DecidableEq, Repr

/-- The columns of `uq_reporting_inventory_snapshot_grain`. -/
def ReportingInventorySnapshot.grain (r : ReportingInventorySnapshot) : Date × String × String :=
  (r.snapshotDate, r.productId, r.warehouseId)

/-- The row `"default"` of `reporting.sync_state`. -/
structure ReportingSyncState where
  lastSyncedSimulationDate : Option Date
  frozenConflictProductId : Option String
  frozenConflictWarehouseId : Option String
  deriving DecidableEq, Repr

/-- `ReportingSyncState(id=_SYNC_STATE_ID)`. -/
def ReportingSyncState.new : ReportingSyncState := ⟨none, none, none⟩

/-- A pair of ids as the session holds it: the warehouse column is nullable. -/
abbrev ConflictEntity := String × Option String

/-- The tables that the call reads and writes. -/
structure ReportingDb where
  live : List InventorySnapshot
  reporting : List ReportingInventorySnapshot
  syncState : Option ReportingSyncState
  deriving DecidableEq, Repr

structure ReportingSyncResult where
  simulationDate : Date
  targetSyncDate : Date
  lastSyncedSimulationDate : Option Date
  rowsSynced : ℕ
  conflictEntity : Option ConflictEntity
  deriving DecidableEq, Repr

/-! ## `app/domain/reporting_sync.py` -/

/-- `KNOWN_CONFLICT_QTY_OFFSET`. -/
def knownConflictQtyOffset : ℤ := 25

def targetSyncDate (simulationDate lagDays : ℤ) : Date := simulationDate - lagDays

/-- The smallest pair, as Python compares tuples of strings. -/
def pickConflictEntity (candidates : List (String × String)) : Option (String × String) :=
  (candidates.map toLex).min?.map ofLex

theorem pickConflictEntity_mem {candidates : List (String × String)} {e : String × String}
    (h : pickConflictEntity candidates = some e) : e ∈ candidates := by
  obtain ⟨e', least, rfl⟩ := Option.map_eq_some_iff.1 h
  obtain ⟨pair, mem, rfl⟩ := List.mem_map.1 (List.min?_mem least)
  exact mem

theorem pickConflictEntity_isSome {candidates : List (String × String)} (h : candidates ≠ []) :
    ∃ e, pickConflictEntity candidates = some e := by
  cases picked : pickConflictEntity candidates with
  | some e => exact ⟨e, rfl⟩
  | none =>
    rw [pickConflictEntity, Option.map_eq_none_iff, List.min?_eq_none_iff, List.map_eq_nil_iff] at picked
    exact absurd picked h

/-! ## `sync_reporting_layer` -/

/-- The conflict entity of the state's columns. -/
def ReportingSyncState.conflictEntity (s : ReportingSyncState) : Option ConflictEntity :=
  s.frozenConflictProductId.map fun product => (product, s.frozenConflictWarehouseId)

/-- `(row.product_id, row.warehouse_id)`. -/
def entityOf (r : InventorySnapshot) : String × String := (r.productId, r.warehouseId)

/-- The values of a copied row. -/
def copyRow (day : Date) (quantityOnHand : ℤ) (r : InventorySnapshot) : ReportingInventorySnapshot where
  snapshotDate := day
  productId := r.productId
  warehouseId := r.warehouseId
  quantityOnHand := quantityOnHand
  quantityAllocated := r.quantityAllocated

/-- What one live row contributes: the frozen entity only on its designation day. -/
def syncRow (conflictEntity : Option ConflictEntity) (newlyDesignatedThisDay : Bool) (day : Date)
    (r : InventorySnapshot) : Option ReportingInventorySnapshot :=
  if conflictEntity = some (r.productId, some r.warehouseId) then
    if newlyDesignatedThisDay then some (copyRow day (r.quantityOnHand + knownConflictQtyOffset) r)
    else none
  else some (copyRow day r.quantityOnHand r)

/-- The variables of the loop, and what it writes. -/
structure SyncLoop where
  conflictEntity : Option ConflictEntity
  rowsSynced : ℕ
  state : ReportingSyncState
  reporting : List ReportingInventorySnapshot

/-- The designation of a day: nothing when an entity is designated or the day has no rows. -/
def designate (conflictEntity : Option ConflictEntity) (liveRows : List InventorySnapshot) :
    Option (String × String) :=
  if conflictEntity = none then pickConflictEntity (liveRows.map entityOf) else none

/-- The rows of a day are copied. -/
def SyncLoop.copyDay (l : SyncLoop) (newlyDesignatedThisDay : Bool) (day : Date)
    (liveRows : List InventorySnapshot) : SyncLoop :=
  let values := liveRows.filterMap (syncRow l.conflictEntity newlyDesignatedThisDay day)
  { l with
    rowsSynced := l.rowsSynced + values.length
    reporting := insertNew ReportingInventorySnapshot.grain values l.reporting }

/-- One iteration of the `while`. -/
def syncDay (order : RowOrder InventorySnapshot) (live : List InventorySnapshot) (l : SyncLoop)
    (day : Date) : SyncLoop :=
  let liveRows := order.rows (live.filter (·.snapshotDate = day))
  match designate l.conflictEntity liveRows with
  | some (product, warehouse) =>
    SyncLoop.copyDay
      { l with
        conflictEntity := some (product, some warehouse)
        state := { l.state with
          frozenConflictProductId := some product, frozenConflictWarehouseId := some warehouse } }
      true day liveRows
  | none => l.copyDay false day liveRows

/-- `_lock_sync_state`. -/
def lockSyncState (db : ReportingDb) : ReportingSyncState := db.syncState.getD .new

/-- `select(func.min(InventorySnapshot.snapshot_date))`. -/
def earliestLive (live : List InventorySnapshot) : Option Date := (live.map (·.snapshotDate)).min?

/-- The first day to copy, when there is one. -/
def syncStart (state : ReportingSyncState) (live : List InventorySnapshot) (target : Date) :
    Option Date :=
  match state.lastSyncedSimulationDate with
  | some last => if last ≥ target then none else some (last + 1)
  | none =>
    match earliestLive live with
    | none => none
    | some earliest => if earliest > target then none else some earliest

/-- The loop is done: the state advances to the target. -/
def SyncLoop.finish (l : SyncLoop) (simulationDate target : Date) (db : ReportingDb) :
    ReportingSyncResult × ReportingDb :=
  (⟨simulationDate, target, some target, l.rowsSynced, l.conflictEntity⟩,
    { db with
      reporting := l.reporting
      syncState := some { l.state with lastSyncedSimulationDate := some target } })

/-- `sync_reporting_layer(session, simulation_date, lag_days=lag_days)`. -/
def syncReportingLayer (order : RowOrder InventorySnapshot) (simulationDate lagDays : ℤ)
    (db : ReportingDb) : ReportingSyncResult × ReportingDb :=
  let state := lockSyncState db
  let target := targetSyncDate simulationDate lagDays
  match syncStart state db.live target with
  | none =>
    (⟨simulationDate, target, state.lastSyncedSimulationDate, 0, state.conflictEntity⟩,
      { db with syncState := some state })
  | some start =>
    SyncLoop.finish
      ((daysThrough start target).foldl (syncDay order db.live) ⟨state.conflictEntity, 0, state, db.reporting⟩)
      simulationDate target db

end MeadowOps.Reporting
