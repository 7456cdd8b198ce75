import MeadowOps.Simulation.Repopulate

/-!
# `_run_tick` over all tables

The tick of the scheduler with its own calls. Each may fail: the flow and the writers of the flags and of
the KPIs with an arbitrary part of their writes done, `sync_reporting_layer` before its first write or with a
database error. `flag_stale` and `sweep_thread_deadlines` write tables that are not modelled here.
-/

namespace MeadowOps.Simulation

open Db Lib MeadowOps.Flow Scheduler Kpi Reporting Exceptions Scenarios

/-- The calls of a tick that fail. -/
structure TickFaults where
  flow : Option (Failure Platform)
  sync : Option PlatformError
  evaluate : Option (Failure (List ExceptionFlag))
  kpis : Option (Failure KpiTables)
  /-- `flag_stale` or `sweep_thread_deadlines`. -/
  later : Option PlatformError
  /-- The commit. -/
  commit : Bool

def TickFaults.none : TickFaults := ⟨.none, .none, .none, .none, .none, false⟩

/-- A step that reads the clock, and leaves it and the log of ticks alone. -/
def overTables (x : Statements Unit) (clock : SimulationClock) : EStateM PlatformError Platform Unit := fun p =>
  match x ⟨clock, [], p⟩ with
  | .ok _ db => .ok () db.tables
  | .error e db => .error e db.tables

/-- `x`, unless it fails. -/
def orFails {σ α : Type} (failure : Option (Failure σ)) (x : EStateM PlatformError σ α) :
    EStateM PlatformError σ α :=
  match failure with
  | .none => x
  | some failure => fun s => .error failure.error (failure.writes s)

section
variable (env : DayEnv) (lagDays : ℤ) (faults : TickFaults)

def flowStep (d : Date) : EStateM PlatformError Platform ℕ := orFails faults.flow (flow env d)

/-- The tables of the reporting layer. -/
def reportingDb (p : Platform) : ReportingDb :=
  ⟨p.world.inventorySnapshot, p.reportingInventorySnapshot, p.reportingSyncState⟩

def syncStep (d : Date) (clock : SimulationClock) : EStateM PlatformError Platform Unit :=
  match faults.sync with
  | .none => overTables (syncReportingLayer env lagDays d) clock
  | some e => throw e

def evaluateStep (d : Date) (clock : SimulationClock) : EStateM PlatformError Platform Unit :=
  match faults.evaluate with
  | .none => overTables (evaluateExceptions env d) clock
  | some failure => fun p => .error failure.error { p with exceptionFlag := failure.writes p.exceptionFlag }

def kpiStep (d : Date) (clock : SimulationClock) : EStateM PlatformError Platform Unit :=
  match faults.kpis with
  | .none => overTables (computeAndSnapshotKpis env d) clock
  | some failure => fun p => .error failure.error { p with kpis := failure.writes p.kpis }

def laterSteps : EStateM PlatformError Platform Unit :=
  match faults.later with
  | .none => pure ()
  | some e => throw e

def tickSteps : TickSteps PlatformError Platform where
  passes := [flowStep env faults]
  posts := [syncStep env lagDays faults, evaluateStep env faults, kpiStep env faults,
    fun _ _ => laterSteps faults]

/-- What is committed after a tick. -/
def tickOf (db : Database Platform) : Database Platform :=
  if faults.commit then db else runTick PlatformError.aborts (tickSteps env lagDays faults) db

/-- The tables `evaluate_exceptions` finds in a tick; none when the tick ends before. -/
def atEvaluation (db : Database Platform) : Option Platform :=
  if db.clock.status ≠ .running then .none
  else
    let clock := (advanced db).clock
    match (do
      let _ ← flowStep env faults clock.simulationDate
      syncStep env lagDays faults clock.simulationDate clock) db.tables with
    | .ok _ p => some p
    | .error _ _ => .none

end

/-! ## What a tick can do -/

section
variable {env : DayEnv} {lagDays : ℤ} {faults : TickFaults}

/-- The tables after a call of `sync_reporting_layer`. -/
def withSync (env : DayEnv) (lagDays : ℤ) (d : Date) (p : Platform) : Platform :=
  let synced := (Reporting.syncReportingLayer env.snapshots d lagDays (reportingDb p)).2
  { p with reportingInventorySnapshot := synced.reporting, reportingSyncState := synced.syncState }

/-- Only the flags and the KPIs differ. -/
def SameButVerdicts (p p' : Platform) : Prop :=
  ∃ flags kpis, p' = { p with exceptionFlag := flags, kpis := kpis }

theorem SameButVerdicts.refl (p : Platform) : SameButVerdicts p p := ⟨p.exceptionFlag, p.kpis, rfl⟩

theorem SameButVerdicts.world {p p' : Platform} (h : SameButVerdicts p p') : p'.world = p.world := by
  obtain ⟨flags, kpis, rfl⟩ := h
  rfl

theorem endState_overTables (x : Statements Unit) (clock : SimulationClock) (p : Platform) :
    endState (overTables x clock p) = (endState (x ⟨clock, [], p⟩)).tables := by
  unfold overTables
  cases x ⟨clock, [], p⟩ <;> rfl

theorem evaluateExceptions_error {env : DayEnv} {d : Date} {db db' : Database Platform} {e : PlatformError}
    (h : evaluateExceptions env d db = .error e db') :
    syncAll (exceptionCalls env.engine db.clock.simulationDate d (engineTables db.tables))
      db.tables.exceptionFlag = none ∧ db' = db := by
  unfold evaluateExceptions at h
  rw [get_bind] at h
  cases synced : syncAll (exceptionCalls env.engine db.clock.simulationDate d (engineTables db.tables))
      db.tables.exceptionFlag with
  | none =>
    rw [synced] at h
    cases h
    exact ⟨rfl, rfl⟩
  | some flags =>
    rw [synced] at h
    cases h

theorem endState_evaluateExceptions (env : DayEnv) (d : Date) (db : Database Platform) :
    ∃ flags, endState (evaluateExceptions env d db) =
      { db with tables := { db.tables with exceptionFlag := flags } } := by
  cases ran : evaluateExceptions env d db with
  | ok _ db' =>
    obtain ⟨flags, -, rfl⟩ := evaluateExceptions_ok ran
    exact ⟨flags, rfl⟩
  | error e db' =>
    rw [(evaluateExceptions_error ran).2]
    exact ⟨db.tables.exceptionFlag, rfl⟩

theorem computeAndSnapshotKpis_error {env : DayEnv} {d : Date} {db db' : Database Platform} {e : PlatformError}
    (h : computeAndSnapshotKpis env d db = .error e db') : db' = db := by
  unfold computeAndSnapshotKpis at h
  rw [get_bind] at h
  cases computed : Kpi.computeAndSnapshotKpis env.supplyRows db.clock.simulationDate db.tables.world d
      db.tables.kpis with
  | error e =>
    rw [computed] at h
    cases h
    rfl
  | ok kpis =>
    rw [computed] at h
    cases h

theorem endState_computeAndSnapshotKpis (env : DayEnv) (d : Date) (db : Database Platform) :
    ∃ kpis, endState (computeAndSnapshotKpis env d db) =
      { db with tables := { db.tables with kpis := kpis } } := by
  cases ran : computeAndSnapshotKpis env d db with
  | ok _ db' => exact ⟨_, computeAndSnapshotKpis_ok ran⟩
  | error e db' =>
    rw [computeAndSnapshotKpis_error ran]
    exact ⟨db.tables.kpis, rfl⟩

theorem evaluateStep_keeps (p : Platform) (d : Date) (clock : SimulationClock) :
    Keeps (SameButVerdicts p) (evaluateStep env faults d clock) := by
  rintro _ ⟨flags, kpis, rfl⟩
  unfold evaluateStep
  cases faults.evaluate with
  | some failure => exact ⟨failure.writes flags, kpis, rfl⟩
  | none =>
    obtain ⟨flags', ran⟩ := endState_evaluateExceptions env d
      ⟨clock, [], { p with exceptionFlag := flags, kpis := kpis }⟩
    dsimp only
    rw [endState_overTables, ran]
    exact ⟨flags', kpis, rfl⟩

theorem kpiStep_keeps (p : Platform) (d : Date) (clock : SimulationClock) :
    Keeps (SameButVerdicts p) (kpiStep env faults d clock) := by
  rintro _ ⟨flags, kpis, rfl⟩
  unfold kpiStep
  cases faults.kpis with
  | some failure => exact ⟨flags, failure.writes kpis, rfl⟩
  | none =>
    obtain ⟨kpis', ran⟩ := endState_computeAndSnapshotKpis env d
      ⟨clock, [], { p with exceptionFlag := flags, kpis := kpis }⟩
    dsimp only
    rw [endState_overTables, ran]
    exact ⟨flags, kpis', rfl⟩

theorem laterSteps_keeps (p : Platform) : Keeps (SameButVerdicts p) (laterSteps faults) := by
  intro p' same
  unfold laterSteps
  cases faults.later with
  | some e => exact same
  | none => exact same

theorem syncStep_ok {d : Date} {clock : SimulationClock} {p p' : Platform}
    (h : syncStep env lagDays faults d clock p = .ok () p') : p' = withSync env lagDays d p := by
  unfold syncStep at h
  cases fails : faults.sync with
  | some e =>
    rw [fails] at h
    cases h
  | none =>
    rw [fails] at h
    cases h
    rfl

theorem syncStep_error {d : Date} {clock : SimulationClock} {p p' : Platform} {e : PlatformError}
    (h : syncStep env lagDays faults d clock p = .error e p') : p' = p := by
  unfold syncStep at h
  cases fails : faults.sync with
  | some e =>
    rw [fails] at h
    cases h
    rfl
  | none =>
    rw [fails] at h
    cases h

theorem flowStep_ok {d : Date} {p p' : Platform} {events : ℕ}
    (h : flowStep env faults d p = .ok events p') :
    ∃ w, scheduledFlow env.tick d p.world = .ok events w ∧ p' = { p with world := w } := by
  unfold flowStep orFails at h
  cases fails : faults.flow with
  | some failure =>
    rw [fails] at h
    cases h
  | none =>
    rw [fails] at h
    exact flow_ok h

theorem runPosts_eq (d : Date) (clock : SimulationClock) :
    runPosts (tickSteps env lagDays faults).posts d clock = (do
      syncStep env lagDays faults d clock
      evaluateStep env faults d clock
      kpiStep env faults d clock
      laterSteps faults) := by
  simp [runPosts, tickSteps]

theorem runPasses_eq : runPasses (tickSteps env lagDays faults).passes = flowStep env faults := by
  funext d
  simp only [tickSteps, runPasses, List.foldlM_cons, List.foldlM_nil, zero_add, bind_pure]

/-- The later steps leave the tables as they were, or synced, but for the flags and the KPIs. -/
theorem runPosts_tickSteps (d : Date) (clock : SimulationClock) (p : Platform) :
    SameButVerdicts p (endState (runPosts (tickSteps env lagDays faults).posts d clock p)) ∨
    SameButVerdicts (withSync env lagDays d p)
      (endState (runPosts (tickSteps env lagDays faults).posts d clock p)) := by
  rw [runPosts_eq]
  cases synced : syncStep env lagDays faults d clock p with
  | error e p' =>
    rw [bind_of_error synced, syncStep_error synced]
    exact .inl (.refl p)
  | ok _ p' =>
    rw [bind_of_ok synced, syncStep_ok synced]
    refine .inr ?_
    have rest : Keeps (SameButVerdicts (withSync env lagDays d p)) (do
        evaluateStep env faults d clock
        kpiStep env faults d clock
        laterSteps faults) :=
      (evaluateStep_keeps _ d clock).bind fun _ => (kpiStep_keeps _ d clock).bind fun _ => laterSteps_keeps _
    exact rest _ (.refl _)

/-- What a tick commits when its flow returned. -/
structure TickDone (env : DayEnv) (lagDays : ℤ) (db : Database Platform) (events : ℕ) (w : World)
    (db' : Database Platform) : Prop where
  running : db.clock.status = .running
  flow : scheduledFlow env.tick (db.clock.simulationDate + 1) db.tables.world = .ok events w
  clock : db'.clock = (advanced db).clock
  scheduledTick : db'.scheduledTick =
    db.scheduledTick ++ [⟨db.clock.simulationDate + 1, events, .success⟩]
  tables : SameButVerdicts { db.tables with world := w } db'.tables ∨
    SameButVerdicts (withSync env lagDays (db.clock.simulationDate + 1) { db.tables with world := w })
      db'.tables

theorem TickDone.world {env : DayEnv} {lagDays : ℤ} {db db' : Database Platform} {events : ℕ} {w : World}
    (h : TickDone env lagDays db events w db') : db'.tables.world = w :=
  h.tables.elim SameButVerdicts.world SameButVerdicts.world

/-- A tick does nothing, records a failed day, or is done. -/
theorem tickOf_cases (env : DayEnv) (lagDays : ℤ) (faults : TickFaults) (db : Database Platform) :
    tickOf env lagDays faults db = db ∨
    tickOf env lagDays faults db = { db with
      scheduledTick := db.scheduledTick ++ [⟨db.clock.simulationDate + 1, 0, .failed⟩] } ∨
    ∃ events w, TickDone env lagDays db events w (tickOf env lagDays faults db) := by
  unfold tickOf
  split
  · exact .inl rfl
  · rcases runTick_cases PlatformError.aborts (tickSteps env lagDays faults) db with
      same | failed | ⟨events, p, running, passes, done⟩
    · exact .inl same
    · exact .inr (.inl failed)
    · rw [runPasses_eq] at passes
      obtain ⟨w, returned, rfl⟩ := flowStep_ok passes
      refine .inr (.inr ⟨events, w, running, returned, ?_, ?_, ?_⟩)
      · rw [done]
      · rw [done]
      · rw [done]
        exact runPosts_tickSteps _ _ _

theorem atEvaluation_some {db : Database Platform} {p : Platform}
    (h : atEvaluation env lagDays faults db = some p) :
    ∃ events w, scheduledFlow env.tick (db.clock.simulationDate + 1) db.tables.world = .ok events w ∧
      p = withSync env lagDays (db.clock.simulationDate + 1) { db.tables with world := w } := by
  unfold atEvaluation at h
  split at h
  · cases h
  · dsimp only at h
    split at h <;> rename_i ran
    · cases h
      obtain ⟨events, mid, flow, synced⟩ := bind_eq_ok ran
      obtain ⟨w, returned, rfl⟩ := flowStep_ok flow
      exact ⟨events, w, returned, syncStep_ok synced⟩
    · cases h

end

end MeadowOps.Simulation
