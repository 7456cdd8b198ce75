import MeadowOps.Exceptions.Engine
import MeadowOps.Scenarios.Service
import MeadowOps.Scheduler.RunTick

/-!
# The steps of a day over one session

The tables of a simulated day, and what `run_scheduled_tick`, `sync_reporting_layer`, `evaluate_exceptions`
and `compute_and_snapshot_kpis` do in the open transaction. None of them commits.
-/

namespace MeadowOps.Simulation

open Db Lib MeadowOps.Flow Scheduler Kpi Reporting Exceptions Scenarios

inductive WorldStateKind where
  | cleanBaseline
  | injectedState
  | snapshot
  | reset
  | controlledEventInjection
  deriving DecidableEq, Repr

/-- A row of `live.world_state`. -/
structure WorldState where
  id : Uuid
  kind : WorldStateKind
  simulationDate : Date
  seed : String
  label : String
  parentId : Option Uuid
  deriving DecidableEq, Repr

/-- The tables beside the log of ticks and the date and status of the clock. -/
structure Platform where
  /-- The third column of the clock. -/
  currentWorldStateId : Option Uuid
  worldState : List WorldState
  scenario : List Scenario
  world : World
  exceptionRuleThreshold : List ExceptionRuleThreshold
  exceptionFlag : List ExceptionFlag
  kpis : KpiTables
  reportingInventorySnapshot : List ReportingInventorySnapshot
  reportingSyncState : Option ReportingSyncState

/-- What is raised; `other` and `database` are any exceptions that no modelled check raises. -/
inductive PlatformError where
  | valueError (message : String)
  | simulationClockNotSeeded (message : String)
  | clock (error : ClockError)
  | attributeError
  | integrityError (constraint : String)
  | scenarioNotFound (scenarioId : Uuid)
  | scenario (error : ScenarioError)
  | flow (error : FlowError)
  | kpiComputationOutOfOrder (error : KpiComputationOutOfOrder)
  | other (message : String)
  | database (message : String)

/-- A database error breaks the transaction. -/
def PlatformError.aborts : PlatformError → Bool
  | .integrityError _ | .database _ => true
  | .flow error => error.aborts
  | _ => false

/-- Statements over the tables of the open transaction. -/
abbrev Statements := EStateM PlatformError (Database Platform)

/-- A program over the session. -/
abbrev SessionM := EStateM PlatformError (Tx (Database Platform))

def execute {α : Type} (x : Statements α) : SessionM α := Tx.onPending PlatformError.aborts x

/-- What one day takes from outside. -/
structure DayEnv where
  tick : TickEnv
  snapshots : RowOrder InventorySnapshot
  engine : EngineEnv
  supplyRows : RowOrder DaysOfSupplyRow

/-- `x` raises the errors of another program as its own. -/
def raising {ε ε' σ α : Type} (wrap : ε → ε') (x : EStateM ε σ α) : EStateM ε' σ α := fun s =>
  match x s with
  | .ok a s => .ok a s
  | .error e s => .error (wrap e) s

/-- The seven passes, over all tables. -/
def flow (env : DayEnv) (d : Date) : EStateM PlatformError Platform ℕ :=
  zoom Platform.world (fun w p => { p with world := w }) (raising .flow (scheduledFlow env.tick d))

/-- `sync_reporting_layer(session, d, lag_days=lag_days)`. -/
def syncReportingLayer (env : DayEnv) (lagDays : ℤ) (d : Date) : Statements Unit :=
  modify fun db =>
    let synced := (Reporting.syncReportingLayer env.snapshots d lagDays
      ⟨db.tables.world.inventorySnapshot, db.tables.reportingInventorySnapshot,
        db.tables.reportingSyncState⟩).2
    { db with tables := { db.tables with
      reportingInventorySnapshot := synced.reporting
      reportingSyncState := synced.syncState } }

def engineTables (p : Platform) : EngineTables :=
  ⟨p.exceptionRuleThreshold, p.world, p.reportingInventorySnapshot, p.reportingSyncState⟩

/-- `evaluate_exceptions(session, d)`. -/
def evaluateExceptions (env : DayEnv) (d : Date) : Statements Unit := do
  let db ← get
  let calls := exceptionCalls env.engine db.clock.simulationDate d (engineTables db.tables)
  match syncAll calls db.tables.exceptionFlag with
  | none => throw (.integrityError "exception_flag")
  | some flags => set { db with tables := { db.tables with exceptionFlag := flags } }

/-- `compute_and_snapshot_kpis(session, d)`. -/
def computeAndSnapshotKpis (env : DayEnv) (d : Date) : Statements Unit := do
  let db ← get
  match Kpi.computeAndSnapshotKpis env.supplyRows db.clock.simulationDate db.tables.world d
    db.tables.kpis with
  | .error e => throw (.kpiComputationOutOfOrder e)
  | .ok kpis => set { db with tables := { db.tables with kpis := kpis } }

/-! ## The clock -/

def clockNotSeeded : PlatformError :=
  .simulationClockNotSeeded ("simulation_clock.current_world_state_id is unset - run " ++
    "seed_initial_world_state_and_clock or repair manually")

/-- `rebase_clock`, with the id that is generated for the new world state. -/
def rebaseClock (id : Uuid) (simulationDate : Date) (label : String) : Statements Uuid := do
  let db ← get
  match db.tables.currentWorldStateId with
  | none => throw clockNotSeeded
  | some current =>
    match lookup WorldState.id current db.tables.worldState with
    | none => throw .attributeError
    | some head =>
      let rebased : WorldState := ⟨id, .reset, simulationDate, head.seed, label, some head.id⟩
      match insert? WorldState.id rebased db.tables.worldState with
      | none => throw (.integrityError "world_state_pkey")
      | some worldState =>
        set { db with
          clock := ⟨simulationDate, .running⟩
          tables := { db.tables with worldState := worldState, currentWorldStateId := some id } }
        return id

/-- `advance_simulation(session)`. -/
def advanceClock : SessionM Date := fun t =>
  match advanceSimulation 1 t with
  | .ok (newDate, t) => .ok newDate t
  | .error e => .error (.clock e) t

/-! ## What the steps leave alone -/

/-- The open transaction is not committed. -/
def Uncommitted {α : Type} (x : SessionM α) : Prop := ∀ db, Keeps (fun t => t.committed = db) x

section
variable {α β : Type}

theorem Uncommitted.pure (a : α) : Uncommitted (pure a) := fun _ => Keeps.pure a

theorem Uncommitted.throw (e : PlatformError) : Uncommitted (throw e : SessionM α) := fun _ _ same => same

theorem Uncommitted.bind {x : SessionM α} {f : α → SessionM β} (hx : Uncommitted x)
    (hf : ∀ a, Uncommitted (f a)) : Uncommitted (x >>= f) :=
  fun db => (hx db).bind fun a => hf a db

theorem Uncommitted.get_bind {f : Tx (Database Platform) → SessionM α} (h : ∀ t, Uncommitted (f t)) :
    Uncommitted (get >>= f) :=
  fun db => Keeps.get_bind fun t same => h t db t same

theorem Uncommitted.foldlM {f : β → α → SessionM β} {l : List α} (h : ∀ b a, Uncommitted (f b a)) (b : β) :
    Uncommitted (l.foldlM f b) :=
  fun db => Keeps.foldlM (fun b a _ => h b a db) b

theorem uncommitted_execute (x : Statements α) : Uncommitted (execute x) := by
  intro db t same
  unfold execute Tx.onPending
  cases x t.pending with
  | ok a s => exact same
  | error e s => exact same

/-- Also the handler that rolls back and leaves a `FAILED` row commits nothing. -/
theorem uncommitted_runScheduledTick (x : EStateM PlatformError Platform ℕ) (d : Date) :
    Uncommitted (runScheduledTick PlatformError.aborts x d) := by
  intro db t same
  cases run : x t.pending.tables with
  | ok events p =>
    rw [runScheduledTick_ok _ run]
    exact same
  | error e p =>
    rw [runScheduledTick_error _ run]
    exact same

end

end MeadowOps.Simulation
