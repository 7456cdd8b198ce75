import MeadowOps.Simulation.Platform

/-!
# `app/services/world_repopulate.py`

The rebuild of a history in one transaction. Any step of any day may fail, with an arbitrary part of its
writes done; the handler of `run_scheduled_tick` then rolls the transaction back and writes a row of its own
into the next one, which nobody commits.
-/

namespace MeadowOps.Simulation

open Db Lib MeadowOps.Flow Scheduler Kpi Reporting Exceptions Scenarios

/-- `GENERATED_TABLES`. -/
inductive GeneratedTable where
  | exceptionFlag
  | shipment
  | salesOrderLifecycleEvent
  | salesOrderLine
  | salesOrder
  | purchaseOrderLifecycleEvent
  | purchaseOrderLine
  | purchaseOrder
  | warehouseTransfer
  | inventoryTransaction
  | inventorySnapshot
  | daysOfSupplySnapshot
  | kpiSnapshot
  | scheduledTick
  | reportingInventorySnapshot
  | reportingSyncState
  deriving DecidableEq, Repr

def generatedTables : List GeneratedTable :=
  [.exceptionFlag, .shipment, .salesOrderLifecycleEvent, .salesOrderLine, .salesOrder,
    .purchaseOrderLifecycleEvent, .purchaseOrderLine, .purchaseOrder, .warehouseTransfer,
    .inventoryTransaction, .inventorySnapshot, .daysOfSupplySnapshot, .kpiSnapshot, .scheduledTick,
    .reportingInventorySnapshot, .reportingSyncState]

/-- DELETE FROM a table that holds operational rows. -/
def GeneratedTable.clearWorld (w : World) : GeneratedTable → World
  | .shipment => { w with shipment := [] }
  | .salesOrderLifecycleEvent => { w with salesOrderLifecycleEvent := [] }
  | .salesOrderLine => { w with salesOrder := w.salesOrder.map fun so => { so with lines := [] } }
  | .salesOrder => { w with salesOrder := [] }
  | .purchaseOrderLifecycleEvent => { w with purchaseOrderLifecycleEvent := [] }
  | .purchaseOrderLine => { w with purchaseOrder := w.purchaseOrder.map fun po => { po with lines := [] } }
  | .purchaseOrder => { w with purchaseOrder := [] }
  | .warehouseTransfer => { w with warehouseTransfer := [] }
  | .inventoryTransaction => { w with inventoryTransaction := [] }
  | .inventorySnapshot => { w with inventorySnapshot := [] }
  | _ => w

/-- `delete(model)`. -/
def GeneratedTable.clear (table : GeneratedTable) (db : Database Platform) : Database Platform :=
  match table with
  | .exceptionFlag => { db with tables := { db.tables with exceptionFlag := [] } }
  | .daysOfSupplySnapshot =>
    { db with tables := { db.tables with kpis := { db.tables.kpis with daysOfSupplySnapshot := [] } } }
  | .kpiSnapshot =>
    { db with tables := { db.tables with kpis := { db.tables.kpis with kpiSnapshot := [] } } }
  | .scheduledTick => { db with scheduledTick := [] }
  | .reportingInventorySnapshot =>
    { db with tables := { db.tables with reportingInventorySnapshot := [] } }
  | .reportingSyncState => { db with tables := { db.tables with reportingSyncState := none } }
  | table => { db with tables := { db.tables with world := table.clearWorld db.tables.world } }

/-- The calls that may fail. -/
inductive RepopulateStep where
  | rebaseClock
  | cancelScenario (scenarioId : Uuid)
  | delete (table : GeneratedTable)
  | flush
  | failedRow (day : Date)
  | runScheduledTick (day : Date)
  | syncReportingLayer (day : Date)
  | evaluateExceptions (day : Date)
  | computeAndSnapshotKpis (day : Date)
  | onProgress (day : Date)
  deriving DecidableEq, Repr

/-- A call that fails: what it has written by then, and what it raises. -/
structure Failure (σ : Type) where
  writes : σ → σ
  error : PlatformError

/-- What the rebuild takes from outside, and which of its calls fail. -/
structure RepopulateEnv where
  worldStateId : Uuid
  scenarios : RowOrder Scenario
  day : Date → DayEnv
  lagDays : ℤ
  fails : RepopulateStep → Option (Failure (Database Platform))
  /-- The passes of a day may fail inside `run_scheduled_tick`. -/
  flowFails : Date → Option (Failure Platform)
  refreshFails : Bool

variable (env : RepopulateEnv)

/-- A call, unless it fails. -/
def attempt {α : Type} (step : RepopulateStep) (x : SessionM α) : SessionM α :=
  match env.fails step with
  | none => x
  | some failure => execute fun db => .error failure.error (failure.writes db)

/-- The passes of a day, unless one fails. -/
def dayFlow (d : Date) : EStateM PlatformError Platform ℕ :=
  match env.flowFails d with
  | none => flow (env.day d) d
  | some failure => fun p => .error failure.error (failure.writes p)

/-- `run_scheduled_tick(session, d)`; the row of the handler may be refused in its turn. -/
def scheduledTick (d : Date) : SessionM ScheduledTick := fun t =>
  match runScheduledTick PlatformError.aborts (dayFlow env d) d t with
  | .ok tick t => .ok tick t
  | .error e t => attempt env (.failedRow d) (throw e) t

/-- The four calls of a day, and the callback. -/
def generateDay (d : Date) : SessionM Unit := do
  let _ ← attempt env (.runScheduledTick d) (scheduledTick env d)
  attempt env (.syncReportingLayer d) (execute (syncReportingLayer (env.day d) env.lagDays d))
  attempt env (.evaluateExceptions d) (execute (evaluateExceptions (env.day d) d))
  attempt env (.computeAndSnapshotKpis d) (execute (computeAndSnapshotKpis (env.day d) d))
  attempt env (.onProgress d) (pure ())

/-- `cancel_scenario`, with its flush. -/
def cancelScenario (scenarioId : Uuid) : Statements Unit := do
  let db ← get
  match lookup Scenario.id scenarioId db.tables.scenario with
  | none => throw (.scenarioNotFound scenarioId)
  | some scenario =>
    let assigned ← liftExcept .scenario (Scenarios.cancelScenario scenario)
    modify fun db => { db with tables := { db.tables with
      scenario := Lib.modify Scenario.id scenarioId (assigned.changes scenario).write db.tables.scenario } }

/-- The rows that `_cancel_live_scenarios` loads. -/
def liveScenarios (db : Database Platform) : List Scenario :=
  env.scenarios.rows (db.tables.scenario.filter fun s => decide (s.status ≠ .cancelled))

/-- `_cancel_live_scenarios`. -/
def cancelLiveScenarios : SessionM ℕ := do
  let t ← get
  let live := liveScenarios env t.pending
  (live.map (·.id)).foldlM (fun _ scenarioId =>
    attempt env (.cancelScenario scenarioId) (execute (cancelScenario scenarioId))) ()
  return live.length

structure RepopulateResult where
  startDate : Date
  endDate : Date
  daysGenerated : ℤ
  scenariosCancelled : ℕ
  deriving DecidableEq, Repr

def startDate (today : Date) (historyDays : ℤ) : Date := today - (historyDays - 1)

/-- The days of the window. -/
def window (today : Date) (historyDays : ℤ) : List Date :=
  (List.range historyDays.toNat).map fun offset : ℕ => startDate today historyDays + offset

/-- What comes before the first day. -/
def prepareWorld (today : Date) : SessionM ℕ := do
  let _ ← attempt env .rebaseClock
    (execute (rebaseClock env.worldStateId today ("Repopulated to " ++ isoformat today)))
  let scenariosCancelled ← cancelLiveScenarios env
  generatedTables.foldlM (fun _ table =>
    attempt env (.delete table) (execute (modify table.clear))) ()
  attempt env .flush (pure ())
  return scenariosCancelled

def repopulateWorld (today : Date) (historyDays : ℤ) : SessionM RepopulateResult :=
  if historyDays < 1 then throw (.valueError "history_days must be at least 1")
  else do
    let scenariosCancelled ← prepareWorld env today
    (window today historyDays).foldlM (fun _ d => generateDay env d) ()
    return ⟨startDate today historyDays, today, historyDays, scenariosCancelled⟩

/-- The message of the job. -/
def outcomeMessage (result : RepopulateResult) : String :=
  let summary := "Rebuilt " ++ toString result.daysGenerated ++ " days of history ending " ++
    isoformat result.endDate ++ ". " ++ toString result.scenariosCancelled ++ " scenario(s) cancelled."
  if env.refreshFails then summary ++ " The sandbox refresh failed - use Refresh sandbox to retry."
  else summary ++ " Sandbox refreshed."

/-- The unit of work of `build_repopulate_work`: what it returns or raises, and what is committed
afterwards. A session that is left without a commit is rolled back. -/
def repopulateWork (today : Date) (historyDays : ℤ) (db : Database Platform) :
    Except PlatformError String × Database Platform :=
  match repopulateWorld env today historyDays (Tx.start db) with
  | .ok result t => (.ok (outcomeMessage env result), t.commit.committed)
  | .error e t => (.error e, t.rollback.committed)

/-! ## Nothing is committed before the end -/

section Uncommitted

variable {env}

theorem uncommitted_attempt {α : Type} {step : RepopulateStep} {x : SessionM α} (h : Uncommitted x) :
    Uncommitted (attempt env step x) := by
  unfold attempt
  split
  · exact h
  · exact uncommitted_execute _

theorem uncommitted_scheduledTick (d : Date) : Uncommitted (scheduledTick env d) := by
  intro db t same
  have ran := uncommitted_runScheduledTick (dayFlow env d) d db t same
  unfold scheduledTick
  cases run : runScheduledTick PlatformError.aborts (dayFlow env d) d t with
  | ok tick t' =>
    rw [run] at ran
    exact ran
  | error e t' =>
    rw [run] at ran
    exact uncommitted_attempt (Uncommitted.throw _) db _ ran

theorem uncommitted_generateDay (d : Date) : Uncommitted (generateDay env d) := by
  refine (uncommitted_attempt (uncommitted_scheduledTick d)).bind fun _ => ?_
  refine (uncommitted_attempt (uncommitted_execute _)).bind fun _ => ?_
  refine (uncommitted_attempt (uncommitted_execute _)).bind fun _ => ?_
  refine (uncommitted_attempt (uncommitted_execute _)).bind fun _ => ?_
  exact uncommitted_attempt (Uncommitted.pure _)

theorem uncommitted_prepareWorld (today : Date) : Uncommitted (prepareWorld env today) := by
  refine (uncommitted_attempt (uncommitted_execute _)).bind fun _ => ?_
  refine Uncommitted.bind ?_ fun _ => ?_
  · refine Uncommitted.get_bind fun t => ?_
    refine Uncommitted.bind (Uncommitted.foldlM (fun _ _ => ?_) _) fun _ => Uncommitted.pure _
    exact uncommitted_attempt (uncommitted_execute _)
  · refine Uncommitted.bind (Uncommitted.foldlM (fun _ _ => ?_) _) fun _ => ?_
    · exact uncommitted_attempt (uncommitted_execute _)
    · exact (uncommitted_attempt (Uncommitted.pure _)).bind fun _ => Uncommitted.pure _

theorem uncommitted_repopulateWorld (today : Date) (historyDays : ℤ) :
    Uncommitted (repopulateWorld env today historyDays) := by
  unfold repopulateWorld
  split
  · exact Uncommitted.throw _
  · refine (uncommitted_prepareWorld today).bind fun _ => ?_
    exact (Uncommitted.foldlM (fun _ d => uncommitted_generateDay d) _).bind fun _ => Uncommitted.pure _

theorem repopulateWork_error {today : Date} {historyDays : ℤ} {db : Database Platform} {e : PlatformError}
    (raised : (repopulateWork env today historyDays db).1 = .error e) :
    (repopulateWork env today historyDays db).2 = db := by
  have kept := @uncommitted_repopulateWorld env today historyDays db (Tx.start db) rfl
  unfold repopulateWork at raised ⊢
  cases run : repopulateWorld env today historyDays (Tx.start db) with
  | ok result t =>
    rw [run] at raised
    cases raised
  | error e t =>
    rw [run] at kept
    exact kept

end Uncommitted

/-! ## Calls that return -/

section Returned

variable {env}

theorem execute_ok {α : Type} {x : Statements α} {t t' : Tx (Database Platform)} {a : α}
    (h : execute x t = .ok a t') : ∃ db, x t.pending = .ok a db ∧ t' = { t with pending := db } := by
  unfold execute Tx.onPending at h
  cases run : x t.pending with
  | ok a db =>
    rw [run] at h
    cases h
    exact ⟨db, rfl, rfl⟩
  | error e db =>
    rw [run] at h
    cases h

theorem attempt_ok {α : Type} {step : RepopulateStep} {x : SessionM α} {t t' : Tx (Database Platform)}
    {a : α} (h : attempt env step x t = .ok a t') : env.fails step = none ∧ x t = .ok a t' := by
  cases fails : env.fails step with
  | none =>
    rw [attempt, fails] at h
    exact ⟨rfl, h⟩
  | some failure =>
    rw [attempt, fails] at h
    cases h

theorem attempt_execute_ok {α : Type} {step : RepopulateStep} {x : Statements α}
    {t t' : Tx (Database Platform)} {a : α} (h : attempt env step (execute x) t = .ok a t') :
    env.fails step = none ∧ ∃ db, x t.pending = .ok a db ∧ t' = { t with pending := db } :=
  ⟨(attempt_ok h).1, execute_ok (attempt_ok h).2⟩

theorem flow_ok {day : DayEnv} {d : Date} {p p' : Platform} {events : ℕ}
    (h : flow day d p = .ok events p') :
    ∃ w, scheduledFlow day.tick d p.world = .ok events w ∧ p' = { p with world := w } := by
  unfold flow zoom raising at h
  cases run : scheduledFlow day.tick d p.world with
  | ok events w =>
    simp only [run] at h
    cases h
    exact ⟨w, rfl, rfl⟩
  | error e w =>
    simp only [run] at h
    cases h

theorem scheduledTick_ok {d : Date} {t t' : Tx (Database Platform)} {tick : ScheduledTick}
    (h : scheduledTick env d t = .ok tick t') : env.flowFails d = none ∧
      ∃ events w, scheduledFlow (env.day d).tick d t.pending.tables.world = .ok events w ∧
        t' = addTick ⟨d, events, .success⟩ { t with pending := { t.pending with
          tables := { t.pending.tables with world := w } } } := by
  unfold scheduledTick at h
  cases run : dayFlow env d t.pending.tables with
  | error e p =>
    rw [runScheduledTick_error _ run] at h
    cases (attempt_ok h).2
  | ok events p =>
    rw [runScheduledTick_ok _ run] at h
    cases h
    cases fails : env.flowFails d with
    | none =>
      rw [dayFlow, fails] at run
      obtain ⟨w, returned, rfl⟩ := flow_ok run
      exact ⟨rfl, events, w, returned, rfl⟩
    | some failure =>
      rw [dayFlow, fails] at run
      cases run

theorem evaluateExceptions_ok {day : DayEnv} {d : Date} {db db' : Database Platform}
    (h : evaluateExceptions day d db = .ok () db') :
    ∃ flags, syncAll (exceptionCalls day.engine db.clock.simulationDate d (engineTables db.tables))
        db.tables.exceptionFlag = some flags ∧
      db' = { db with tables := { db.tables with exceptionFlag := flags } } := by
  obtain ⟨_, _, ⟨⟩, h⟩ := bind_eq_ok h
  dsimp only at h
  cases synced : syncAll (exceptionCalls day.engine db.clock.simulationDate d (engineTables db.tables))
      db.tables.exceptionFlag with
  | none =>
    rw [synced] at h
    cases h
  | some flags =>
    rw [synced] at h
    cases h
    exact ⟨flags, rfl, rfl⟩

theorem computeAndSnapshotKpis_ok {day : DayEnv} {d : Date} {db db' : Database Platform}
    (h : computeAndSnapshotKpis day d db = .ok () db') :
    db' = { db with
      tables := { db.tables with
        kpis := upsertKpis (day.supplyRows.rows (daysOfSupply db.clock.simulationDate db.tables.world))
          db.tables.world d db.tables.kpis } } := by
  obtain ⟨_, _, ⟨⟩, h⟩ := bind_eq_ok h
  dsimp only at h
  cases computed : Kpi.computeAndSnapshotKpis day.supplyRows db.clock.simulationDate db.tables.world d
      db.tables.kpis with
  | error e =>
    rw [computed] at h
    cases h
  | ok kpis =>
    rw [computed] at h
    cases h
    rw [Kpi.computeAndSnapshotKpis_ok computed]

end Returned

end MeadowOps.Simulation
