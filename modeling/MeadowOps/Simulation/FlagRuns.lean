import MeadowOps.Exceptions.StandingFlags
import MeadowOps.Simulation.OfficeWorlds

/-!
# The open flags after a tick

In every reachable state a tick without a fault from outside leaves open what its rules flag in the tables it
commits, also where the snapshot of the KPIs is refused.
-/

namespace MeadowOps.Simulation

open Db Lib MeadowOps.Flow Scheduler Kpi Exceptions Ledger

section

variable {tick : OfficeTick} {db : Database Office}

/-- The snapshots of a day and a pair are one. -/
theorem snapshotGrains_of_run (reached : officeRuns.Reachable db) :
    Keyed InventorySnapshot.grain db.tables.platform.world.inventorySnapshot :=
  officeRuns_world (I := fun w => Keyed InventorySnapshot.grain w.inventorySnapshot) (fun _ => List.nodup_nil)
    (fun _ _ _ _ _ wf keyed run => (scheduledFlow_snapshots wf keyed run).1.keyed) reached

/-- What a tick evaluates is what it commits. -/
structure Evaluated (tick : OfficeTick) (db db' : Database Office) : Prop where
  clock : db'.clock.simulationDate = db.clock.simulationDate + 1
  flow : ∃ events, scheduledFlow tick.day.tick (db.clock.simulationDate + 1) db.tables.platform.world =
    .ok events db'.tables.platform.world
  flags : syncAll (exceptionCalls tick.day.engine db'.clock.simulationDate db'.clock.simulationDate
    (engineTables db'.tables.platform)) db.tables.platform.exceptionFlag =
      some db'.tables.platform.exceptionFlag

/-- The platform is `p`, but for the KPIs. -/
def SameButKpis (p : Platform) (o : Office) : Prop := ∃ kpis, o.platform = { p with kpis := kpis }

/-- The calls after the evaluation. -/
def lastSteps (tick : OfficeTick) (d : Date) (clock : SimulationClock) : EStateM PlatformError Office Unit := do
  onPlatform (overTables (computeAndSnapshotKpis tick.day d) clock)
  flagStaleStep tick
  sweepStep tick

/-- They do not write what the rules read, nor the flags. -/
theorem lastSteps_same (p : Platform) (d : Date) (clock : SimulationClock) :
    Keeps (SameButKpis p) (lastSteps tick d clock) := by
  refine Keeps.bind ?kpis fun _ => Keeps.bind ?stale fun _ => fun o same => same
  case kpis =>
    rintro o ⟨kpis, same⟩
    obtain ⟨later, ran⟩ := endState_computeAndSnapshotKpis tick.day d ⟨clock, [], o.platform⟩
    refine ⟨later, ?_⟩
    show (endState (zoom Office.platform _ _ o)).platform = _
    rw [endState_zoom]
    show endState (overTables _ clock o.platform) = _
    rw [endState_overTables, ran, same]
  case stale =>
    intro o same
    show SameButKpis p (endState (zoom Office.decisionEvent _ _ o))
    rw [endState_zoom]
    exact same

/-- A refused snapshot is no database error. -/
theorem lastSteps_python (period : (timedeltaDays tick.staleDecisionAfterDays).isSome = true) (o : Office) (d : Date)
    (clock : SimulationClock) : ∀ e ∈ raised? (lastSteps tick d clock o), e.aborts = false := by
  intro e raised
  rw [lastSteps] at raised
  cases computed : Kpi.computeAndSnapshotKpis tick.day.supplyRows clock.simulationDate o.platform.world d
      o.platform.kpis with
  | ok kpis =>
    have first : onPlatform (overTables (computeAndSnapshotKpis tick.day d) clock) o =
        .ok () { o with platform := { o.platform with kpis := kpis } } := by
      simp only [onPlatform, zoom, overTables, computeAndSnapshotKpis, get_bind, computed]
      rfl
    obtain ⟨o', last⟩ := @lastSteps_return tick { o with platform := { o.platform with kpis := kpis } } period
    rw [bind_of_ok first, last] at raised
    cases raised
  | error refused =>
    have first : onPlatform (overTables (computeAndSnapshotKpis tick.day d) clock) o =
        .error (.kpiComputationOutOfOrder refused) o := by
      simp only [onPlatform, zoom, overTables, computeAndSnapshotKpis, get_bind, computed]
      rfl
    rw [bind_of_error first] at raised
    cases raised
    rfl

theorem tick_evaluated (inv : PlatformInv db.tables.platform) (running : db.clock.status = .running)
    (faultless : Faultless tick db.tables) : Evaluated tick db (officeNext db (.tick tick)) := by
  obtain ⟨events, w, run⟩ := scheduledFlow_returns inv.legal inv.wf inv.carriers faultless.rows
    (db.clock.simulationDate + 1)
  have passes : runPasses (officeSteps tick).passes (db.clock.simulationDate + 1) db.tables =
      .ok events { db.tables with platform := { db.tables.platform with world := w } } := by
    rw [runPasses_officeSteps]
    simp only [onPlatform, flow, zoom, raising, run]
  have synced : onPlatform (overTables (syncReportingLayer tick.day tick.reportingLagDays
      (advanced db).clock.simulationDate) (advanced db).clock)
      { db.tables with platform := { db.tables.platform with world := w } } =
      .ok () (afterSync tick db w) := rfl
  have later : PlatformInv (afterSync tick db w).platform := (inv.flow run).of_same rfl rfl
  obtain ⟨distinct, each⟩ := exceptionCalls_spec tick.day.engine (advanced db).clock.simulationDate
    (advanced db).clock.simulationDate (engineTables (afterSync tick db w).platform)
  obtain ⟨flags, evaluated⟩ := syncAll_returns faultless.flags later.flags each distinct
    fun f mem category _ key => faultless.flags.flagId.ne mem (category, key)
  have judged : onPlatform (overTables (evaluateExceptions tick.day (advanced db).clock.simulationDate)
      (advanced db).clock) (afterSync tick db w) =
      .ok () { afterSync tick db w with
        platform := { (afterSync tick db w).platform with exceptionFlag := flags } } := by
    simp only [onPlatform, zoom, overTables, evaluateExceptions, get_bind, evaluated]
    rfl
  have posts : runPosts (officeSteps tick).posts (db.clock.simulationDate + 1) (advanced db).clock
      { db.tables with platform := { db.tables.platform with world := w } } =
      lastSteps tick (advanced db).clock.simulationDate (advanced db).clock { afterSync tick db w with
        platform := { (afterSync tick db w).platform with exceptionFlag := flags } } := by
    rw [runPosts_officeSteps]
    exact (bind_of_ok synced).trans (bind_of_ok judged)
  have ends := runTick_of_passes_ok PlatformError.aborts running passes (by
    rw [posts]
    exact lastSteps_python faultless.period _ _ _)
  rw [posts] at ends
  have ends : officeNext db (.tick tick) = _ := ends
  obtain ⟨kpis, same⟩ := @lastSteps_same tick { (afterSync tick db w).platform with exceptionFlag := flags }
    (advanced db).clock.simulationDate (advanced db).clock
    { afterSync tick db w with platform := { (afterSync tick db w).platform with exceptionFlag := flags } }
    ⟨_, rfl⟩
  have platform : (officeNext db (.tick tick)).tables.platform =
      { (afterSync tick db w).platform with exceptionFlag := flags, kpis := kpis } := by
    rw [ends]
    exact same
  refine ⟨by rw [ends]; rfl, ⟨events, ?_⟩, ?_⟩
  · rw [platform]
    exact run
  · rw [platform, show (officeNext db (.tick tick)).clock = (advanced db).clock by rw [ends]]
    exact evaluated

end

/-- In every reachable state, a tick of the running clock without a fault from outside leaves open, for each
active rule, what the rule flags in the tables the tick commits: low days of supply, overdue orders and
shipments, a stale or wrong reporting layer, duplicate orders. An unknown supply, a missing comparison and an
inactive rule leave the flags as they were. -/
theorem open_flags_tell_the_tables {db db' : Database Office} (reached : officeRuns.Reachable db)
    (running : db.clock.status = .running) (tick : OfficeTick) (faultless : Faultless tick db.tables)
    (next : db' = officeNext db (.tick tick)) :
    FlagsTell db'.clock.simulationDate db'.clock.simulationDate (engineTables db'.tables.platform)
      db.tables.platform.exceptionFlag db'.tables.platform.exceptionFlag := by
  have inv := platformInv_of_run reached
  have evaluated : Evaluated tick db db' := next ▸ tick_evaluated inv running faultless
  have reached' : officeRuns.Reachable db' := .next reached trivial next
  exact exceptionCalls_tell inv.flags (platformInv_of_run reached').wf (snapshotGrains_of_run reached')
    evaluated.flags

/-- The rule for overdue orders is active over a week in which an order stays open, and flagged, from Thursday on;
the tick after the week. -/
theorem open_flags_tell_the_tables_week :
    let db := (.thresholds [⟨atRiskPoCategory, 0, true⟩] :: shopWeek).foldl officeNext shopOffice
    (∃ firstRow firstFlag, FlagsTell (monday + 7) (monday + 7)
      (engineTables (officeNext db (.tick (tickFrom firstRow firstFlag))).tables.platform)
      db.tables.platform.exceptionFlag
      (officeNext db (.tick (tickFrom firstRow firstFlag))).tables.platform.exceptionFlag) ∧
    db.tables.platform.exceptionFlag.map (fun f => (f.category, f.firstDetectedSimulationDate, f.measuredValue)) =
      [(atRiskPoCategory, monday + 3, some 4)] := by
  intro db
  have reached := reachable_follow (.start shopOffice_seeded) (.thresholds [⟨atRiskPoCategory, 0, true⟩] :: shopWeek)
  have clock : db.clock = ⟨monday + 6, .running⟩ := by decide +kernel
  have running : db.clock.status = .running := by rw [clock]
  obtain ⟨firstRow, firstFlag, faultless⟩ := exists_faultless db.tables
  have evaluated := tick_evaluated (platformInv_of_run reached) running faultless
  have tells := open_flags_tell_the_tables reached running _ faultless rfl
  rw [evaluated.clock, clock] at tells
  exact ⟨⟨firstRow, firstFlag, tells⟩, by decide +kernel⟩

end MeadowOps.Simulation
