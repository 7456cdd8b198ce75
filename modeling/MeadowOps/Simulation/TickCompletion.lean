import MeadowOps.Exceptions.Completion
import MeadowOps.Simulation.AllOrNothing
import MeadowOps.Simulation.Office

/-!
# When a tick completes

In every reachable state the five steps that do not look back at earlier days return, wherever the clock stands. The
snapshot of the KPIs is refused exactly when a later day has one: a reset or a rebase moves the clock back, and
leaves the snapshots of the days it has left. The numbers and dates of these steps are unbounded; what the columns
and the calendar of Python do not take is a condition of its own.
-/

namespace MeadowOps.Simulation

open Db Lib MeadowOps.Flow Scheduler Kpi Exceptions Ledger Chat

/-! ## The invariant -/

/-- What the steps of a tick need of the tables. -/
structure PlatformInv (p : Platform) : Prop where
  legal : LegalMaster p.world.master
  wf : Wf p.world
  carriers : ∀ s ∈ p.world.shipment, CarrierThere p.world.master s
  flags : FlagsInv p.exceptionFlag

section Invariant

variable {p p' : Platform}

theorem PlatformInv.of_same (h : PlatformInv p) (world : p'.world = p.world)
    (flags : p'.exceptionFlag = p.exceptionFlag) : PlatformInv p' :=
  ⟨world ▸ h.legal, world ▸ h.wf, world ▸ h.carriers, flags ▸ h.flags⟩

theorem platformInv_empty {m : Master} (legal : LegalMaster m) (world : p.world = World.empty m)
    (flags : p.exceptionFlag = []) : PlatformInv p := by
  refine ⟨?_, ?_, ?_, flags ▸ .nil⟩ <;> rw [world]
  · exact legal
  · exact (emptyWorld m).wf
  · exact fun _ mem => nomatch mem

theorem PlatformInv.flow (h : PlatformInv p) {env : TickEnv} {d : Date} {events : ℕ} {w : World}
    (run : scheduledFlow env d p.world = .ok events w) : PlatformInv { p with world := w } := by
  have steps := scheduledFlow_steps env d h.wf
  rw [run] at steps
  obtain ⟨master, carriers⟩ := scheduledFlow_carriers h.wf h.carriers run
  exact ⟨master ▸ h.legal, steps.wf h.wf, carriers, h.flags⟩

theorem PlatformInv.evaluate (h : PlatformInv p) {env : EngineEnv} {clock d : Date} {t : EngineTables}
    {flags : List ExceptionFlag} (ok : syncAll (exceptionCalls env clock d t) p.exceptionFlag = some flags) :
    PlatformInv { p with exceptionFlag := flags } :=
  ⟨h.legal, h.wf, h.carriers, syncAll_inv h.flags (exceptionCalls_spec env clock d t).2 ok⟩

end Invariant

/-! ## A rebuild -/

section Rebuild

variable {env : RepopulateEnv} {t t' : Tx (Database Platform)}

theorem generateDay_inv {d : Date} (h : PlatformInv t.pending.tables) (ran : generateDay env d t = .ok () t') :
    PlatformInv t'.pending.tables := by
  obtain ⟨-, -, events, w, reporting, syncState, db, run, flagged, snapshot⟩ := generateDay_calls ran
  obtain ⟨flags, evaluated, rfl⟩ := evaluateExceptions_ok flagged
  rw [computeAndSnapshotKpis_ok snapshot]
  exact ((h.flow run).evaluate evaluated).of_same rfl rfl

theorem repopulateWork_inv {db : Database Platform} (h : PlatformInv db.tables) (today : Date) (historyDays : ℤ) :
    PlatformInv (repopulateWork env today historyDays db).2.tables := by
  rcases repopulateWork_cases env today historyDays db with ⟨e, same⟩ | ⟨result, t, run, same⟩
  · rw [same]
    exact h
  · rw [same]
    exact repopulateWorld_rule (t := Tx.start db) (J := fun db => PlatformInv db.tables)
      (fun _ _ => platformInv_empty h.legal rfl rfl) (fun _ _ _ inv ran => generateDay_inv inv ran) run

end Rebuild

/-! ## Ticks -/

section Tick

variable {tick : OfficeTick} {o : Office}

theorem runPasses_officeSteps (d : Date) : runPasses (officeSteps tick).passes d = onPlatform (flow tick.day d) := by
  simp only [officeSteps, runPasses, List.foldlM_cons, List.foldlM_nil, zero_add, bind_pure]

theorem onPlatform_ok {α : Type} {x : EStateM PlatformError Platform α} {a : α} {o' : Office}
    (h : onPlatform x o = .ok a o') : ∃ p, x o.platform = .ok a p ∧ o' = { o with platform := p } := by
  unfold onPlatform zoom at h
  cases run : x o.platform with
  | ok a p =>
    rw [run] at h
    cases h
    exact ⟨p, rfl, rfl⟩
  | error e p =>
    rw [run] at h
    cases h

/-- Over the platform, a step that keeps the tables. -/
theorem keeps_onPlatform {x : EStateM PlatformError Platform Unit} (h : Keeps PlatformInv x) :
    Keeps (fun o => PlatformInv o.platform) (onPlatform x) := by
  intro o inv
  show PlatformInv (endState (zoom Office.platform _ x o)).platform
  rw [endState_zoom]
  exact h o.platform inv

theorem runPosts_inv (d : Date) (clock : SimulationClock) :
    Keeps (fun o => PlatformInv o.platform) (runPosts (officeSteps tick).posts d clock) := by
  unfold runPosts
  refine Keeps.foldlM (fun _ post mem => ?_) ()
  simp only [officeSteps, List.mem_cons, List.not_mem_nil, or_false] at mem
  rcases mem with rfl | rfl | rfl | rfl | rfl
  · exact keeps_onPlatform fun p h => h.of_same rfl rfl
  · refine keeps_onPlatform fun p h => ?_
    rw [endState_overTables]
    cases ran : evaluateExceptions tick.day d ⟨clock, [], p⟩ with
    | ok _ db =>
      obtain ⟨flags, evaluated, rfl⟩ := evaluateExceptions_ok ran
      exact h.evaluate evaluated
    | error e db =>
      rw [(evaluateExceptions_error ran).2]
      exact h
  · refine keeps_onPlatform fun p h => ?_
    obtain ⟨kpis, ran⟩ := endState_computeAndSnapshotKpis tick.day d ⟨clock, [], p⟩
    rw [endState_overTables, ran]
    exact h.of_same rfl rfl
  · intro o h
    show PlatformInv (endState (zoom Office.decisionEvent _ _ o)).platform
    rw [endState_zoom]
    exact h
  · exact fun o h => h

theorem runTick_inv {db : Database Office} (h : PlatformInv db.tables.platform) :
    PlatformInv (runTick PlatformError.aborts (officeSteps tick) db).tables.platform := by
  rcases runTick_cases PlatformError.aborts (officeSteps tick) db with
    same | failed | ⟨events, o, -, passes, done⟩
  · rw [same]
    exact h
  · rw [failed]
    exact h
  · rw [done]
    rw [runPasses_officeSteps] at passes
    obtain ⟨p, flowed, rfl⟩ := onPlatform_ok passes
    obtain ⟨w, run, rfl⟩ := flow_ok flowed
    exact runPosts_inv _ _ _ (h.flow run)

end Tick

theorem ClockOp.commit_tables (op : ClockOp) (db : Database Platform) :
    (op.commit db).tables.world = db.tables.world ∧
      (op.commit db).tables.exceptionFlag = db.tables.exceptionFlag := by
  unfold ClockOp.commit
  split
  · unfold withClockTables
    split <;> exact ⟨rfl, rfl⟩
  · exact ⟨rfl, rfl⟩

/-- The invariant of the tables, after every run of the office. -/
theorem platformInv_of_run {db : Database Office} (h : officeRuns.Reachable db) : PlatformInv db.tables.platform := by
  refine h.invariant (I := fun db => PlatformInv db.tables.platform) (fun db start => ?_) fun db l db' _ inv _ step => ?_
  · have start : SeededOffice db := start
    exact platformInv_empty start.legal start.world start.flags
  · obtain rfl : db' = officeNext db l := step
    cases l with
    | clock op =>
      obtain ⟨world, flags⟩ := op.commit_tables (platformDb db)
      exact inv.of_same world flags
    | repopulate env today historyDays => exact @repopulateWork_inv env (platformDb db) inv today historyDays
    | thresholds rows => exact inv.of_same rfl rfl
    | requests decisionEvent chat => exact inv
    | tick tick => exact runTick_inv inv

/-! ## The calls that return -/

/-- No fault comes from outside: the ids the database generates are new, and it refuses no flag for a constraint
that is not modelled. -/
structure Faultless (tick : OfficeTick) (o : Office) : Prop where
  rows : FreshDraws tick.day.tick o.platform.world
  flags : FlagDraws tick.day.engine o.platform.exceptionFlag
  /-- The setting is a `timedelta`. -/
  period : (timedeltaDays tick.staleDecisionAfterDays).isSome = true

theorem flagDecision_returns {asOf : Instant} {afterDays : ℤ} (period : (timedeltaDays afterDays).isSome = true)
    (flagged : List DecisionEvent) {decision : DecisionEvent} (candidate : staleCandidate decision = true) :
    NeverRaises (flagDecision asOf afterDays flagged decision) := by
  obtain ⟨days, period⟩ := Option.isSome_iff_exists.1 period
  have allowed : validateTransition decision.status .stale = .ok () := by
    rcases (of_decide_eq_true candidate).2 with status | status
    · rw [status]
      rfl
    · rw [status]
      rfl
  intro rows
  rw [flagDecision, isDecisionStale, period, Option.map_some]
  cases decide (days ≤ asOf - decision.proposedAt) with
  | false => exact ⟨_, _, rfl⟩
  | true =>
    dsimp only
    rw [applyTransition, allowed]
    exact ⟨_, _, rfl⟩

/-- No candidate is refused: the statuses it reads are those that may go stale. -/
theorem flagStale_returns (order : RowOrder DecisionEvent) (asOf : Instant) {afterDays : ℤ}
    (period : (timedeltaDays afterDays).isSome = true) : NeverRaises (flagStale order asOf afterDays) := by
  have loop : Triple (fun _ => True) (flagStale order asOf afterDays) (fun _ _ => True) (fun _ => False) := by
    refine .get_bind fun rows _ => .foldlM (fun flagged decision mem => .of_returns fun rows' _ => ?_) []
    rw [RowOrder.mem_rows, List.mem_filter] at mem
    obtain ⟨a, rows'', run⟩ := flagDecision_returns period flagged mem.2 rows'
    exact ⟨a, rows'', run, trivial⟩
  intro rows
  obtain ⟨a, rows', run, -⟩ := loop.returns trivial
  exact ⟨a, rows', run⟩

/-- A snapshot is refused exactly where a later day has one. -/
theorem computeAndSnapshotKpis_returns_iff (order : RowOrder DaysOfSupplyRow) (clock : Date) (w : World)
    {d : Date} {t : KpiTables} : (∃ t', Kpi.computeAndSnapshotKpis order clock w d t = .ok t') ↔
      ∀ k ∈ t.kpiSnapshot, k.simulationDate ≤ d := by
  have dates : (∀ k ∈ t.kpiSnapshot, k.simulationDate ≤ d) ↔
      ∀ date ∈ t.kpiSnapshot.map (·.simulationDate), date ≤ d := by simp
  rw [dates]
  unfold Kpi.computeAndSnapshotKpis
  cases latest : (t.kpiSnapshot.map (·.simulationDate)).max? with
  | none =>
    rw [List.max?_eq_none_iff.1 latest]
    exact ⟨fun _ _ mem => (nomatch mem), fun _ => ⟨_, rfl⟩⟩
  | some last =>
    rw [← List.max?_le_iff latest]
    dsimp only
    by_cases early : d < last
    · rw [if_pos early]
      exact ⟨fun ⟨_, ok⟩ => (nomatch ok), fun le => absurd le (not_le.2 early)⟩
    · rw [if_neg early]
      exact ⟨fun _ => not_lt.1 early, fun _ => ⟨_, rfl⟩⟩

/-! ## The tick -/

section Completion

variable {tick : OfficeTick} {o : Office} {d : Date} {clock : SimulationClock}

/-- The evaluation of the rules does not raise. -/
theorem evaluate_returns (d : Date) (clock : SimulationClock) (inv : PlatformInv o.platform) (draws : FlagDraws tick.day.engine o.platform.exceptionFlag) :
    ∃ flags, onPlatform (overTables (evaluateExceptions tick.day d) clock) o =
      .ok () { o with platform := { o.platform with exceptionFlag := flags } } := by
  obtain ⟨distinct, each⟩ := exceptionCalls_spec tick.day.engine clock.simulationDate d (engineTables o.platform)
  obtain ⟨flags, evaluated⟩ := syncAll_returns draws inv.flags each distinct
    fun f mem category _ key => draws.flagId.ne mem (category, key)
  refine ⟨flags, ?_⟩
  have returned : evaluateExceptions tick.day d ⟨clock, [], o.platform⟩ =
      .ok () ⟨clock, [], { o.platform with exceptionFlag := flags }⟩ := by
    unfold evaluateExceptions
    rw [get_bind]
    dsimp only
    rw [evaluated]
    rfl
  simp only [onPlatform, zoom, overTables, returned]

/-- The guard of the KPIs is the one call that can refuse a day. -/
theorem kpis_cases (tick : OfficeTick) (o : Office) (d : Date) (clock : SimulationClock) :
    ((∀ k ∈ o.platform.kpis.kpiSnapshot, k.simulationDate ≤ d) ∧
      ∃ o', onPlatform (overTables (computeAndSnapshotKpis tick.day d) clock) o = .ok () o') ∨
    (¬ (∀ k ∈ o.platform.kpis.kpiSnapshot, k.simulationDate ≤ d) ∧
      ∃ e o', onPlatform (overTables (computeAndSnapshotKpis tick.day d) clock) o = .error e o') := by
  rw [← computeAndSnapshotKpis_returns_iff tick.day.supplyRows clock.simulationDate o.platform.world]
  simp only [onPlatform, zoom, overTables, computeAndSnapshotKpis, get_bind]
  cases computed : Kpi.computeAndSnapshotKpis tick.day.supplyRows clock.simulationDate o.platform.world d
      o.platform.kpis with
  | ok kpis => exact .inl ⟨⟨kpis, rfl⟩, _, rfl⟩
  | error e =>
    refine .inr ⟨?_, _, _, rfl⟩
    rintro ⟨_, ok⟩
    cases ok

/-- What comes after the snapshot of the KPIs returns. -/
theorem lastSteps_return (period : (timedeltaDays tick.staleDecisionAfterDays).isSome = true) :
    ∃ o', (flagStaleStep tick >>= fun _ => sweepStep tick) o = .ok () o' := by
  obtain ⟨flagged, rows, run⟩ := flagStale_returns tick.decisions tick.asOf period o.decisionEvent
  have discarded : (discard (flagStale tick.decisions tick.asOf tick.staleDecisionAfterDays) : Service PUnit)
      o.decisionEvent = .ok () rows := bind_of_ok run
  have flag : flagStaleStep tick o = .ok () { o with decisionEvent := rows } := by
    simp only [flagStaleStep, zoom, raising, discarded]
  exact ⟨_, bind_of_ok flag⟩

theorem runPosts_officeSteps (tick : OfficeTick) (d : Date) (clock : SimulationClock) :
    runPosts (officeSteps tick).posts d clock = (do
      onPlatform (overTables (syncReportingLayer tick.day tick.reportingLagDays d) clock)
      onPlatform (overTables (evaluateExceptions tick.day d) clock)
      onPlatform (overTables (computeAndSnapshotKpis tick.day d) clock)
      flagStaleStep tick
      sweepStep tick) := by
  simp [runPosts, officeSteps]

/-- The tables after the flow and `sync_reporting_layer`. -/
def afterSync (tick : OfficeTick) (db : Database Office) (w : World) : Office :=
  let synced := withSync tick.day tick.reportingLagDays (advanced db).clock.simulationDate
    { db.tables.platform with world := w }
  { db.tables with platform := synced }

theorem tickCompletes_iff {db : Database Office} (inv : PlatformInv db.tables.platform)
    (faultless : Faultless tick db.tables) : TickCompletes tick db ↔
      ∀ k ∈ db.tables.platform.kpis.kpiSnapshot, k.simulationDate ≤ db.clock.simulationDate + 1 := by
  obtain ⟨events, w, run⟩ := scheduledFlow_returns inv.legal inv.wf inv.carriers faultless.rows
    (db.clock.simulationDate + 1)
  have passes : runPasses (officeSteps tick).passes (db.clock.simulationDate + 1) db.tables =
      .ok events { db.tables with platform := { db.tables.platform with world := w } } := by
    rw [runPasses_officeSteps]
    simp only [onPlatform, flow, zoom, raising, run]
  rw [TickCompletes, tickWrites_of_passes_ok passes, runPosts_officeSteps]
  have synced : onPlatform (overTables (syncReportingLayer tick.day tick.reportingLagDays
      (advanced db).clock.simulationDate) (advanced db).clock)
      { db.tables with platform := { db.tables.platform with world := w } } =
      .ok () (afterSync tick db w) := rfl
  have later : PlatformInv (afterSync tick db w).platform := (inv.flow run).of_same rfl rfl
  obtain ⟨flags, evaluated⟩ := evaluate_returns (o := afterSync tick db w) (advanced db).clock.simulationDate
    (advanced db).clock later faultless.flags
  rw [bind_of_ok synced]
  rw [bind_of_ok evaluated]
  rcases kpis_cases tick _ (advanced db).clock.simulationDate (advanced db).clock with
    ⟨early, o, computed⟩ | ⟨late, e, o, refused⟩
  · obtain ⟨o', last⟩ := lastSteps_return (o := o) faultless.period
    rw [bind_of_ok computed, last]
    exact ⟨fun _ => early, fun _ => rfl⟩
  · rw [bind_of_error refused]
    constructor
    · intro ends
      cases ends
    · exact fun early => absurd early late

end Completion

/-! ## Columns and calendar

A call raises as well where a number does not fit its column, or a date the calendar. -/

/-- `date.min`. -/
def dateMin : Date := 1

/-- `Numeric(precision, scale)` takes a value, which it rounds. -/
def numericHolds (precision scale : ℕ) (value : Option ℚ) : Prop :=
  ∀ q ∈ value, |roundHalfAway scale q| < 10 ^ (precision - scale)

/-- `Integer` takes a value. -/
def integerHolds (n : ℤ) : Prop := -2 ^ 31 ≤ n ∧ n < 2 ^ 31

/-- The dates in the rows of the flow. -/
def storedDates (w : World) : List Date :=
  w.purchaseOrder.map (·.expectedDeliveryDate) ++ w.salesOrder.map (·.requestedDate) ++
    w.salesOrder.filterMap (·.promisedDate) ++ w.shipment.map (·.promisedDeliveryDate)

/-- The quantities in the rows of the flow. -/
def storedQuantities (w : World) : List ℤ :=
  w.purchaseOrder.flatMap (fun po => po.lines.flatMap fun l => [l.quantityOrdered, l.quantityReceived]) ++
    w.salesOrder.flatMap (fun so => so.lines.flatMap fun l => [l.quantityOrdered, l.quantityShipped]) ++
    w.warehouseTransfer.map (·.quantity) ++ w.inventoryTransaction.map (·.quantityDelta) ++
    w.inventorySnapshot.flatMap fun s => [s.quantityOnHand, s.quantityAllocated]

/-- The delivery of a shipment in transit. -/
def computedDelivery (env : TickEnv) (w : World) (s : Shipment) : Option Date :=
  (lookup (·.id) s.carrierId w.master.carrier).map fun carrier =>
    s.shipDate + carrierActualTransitDays (s.promisedDeliveryDate - s.shipDate) carrier.variability
      carrier.reliabilityPct (env.rng s.shipDate (.carrierTransit s.id))

/-- The first day that `sync_reporting_layer` copies, with the snapshots that the flow leaves. -/
def syncStart (state : Option Reporting.ReportingSyncState) (w : World) : Option Date :=
  match state.bind (·.lastSyncedSimulationDate) with
  | some last => some (last + 1)
  | none => (w.inventorySnapshot.map (·.snapshotDate)).min?

/-- The dates that the tick of day `d` computes and does not store: its own, the start of the demand window, the
arrivals of what is on its way, and the days of the reporting layer. -/
def computedDates (tick : OfficeTick) (d : Date) (p : Platform) (w : World) : List Date :=
  [d, d - tick.reportingLagDays] ++
    (if p.world.master.product.any (·.isActive) && p.world.master.warehouse.any (·.isActive) then
      [d - demandLookbackDays] else []) ++
    (p.world.warehouseTransfer.filter fun t => t.status = .inTransit).map
      (·.transferDate + warehouseTransferTransitDays) ++
    (p.world.shipment.filter fun s => s.status = .inTransit).filterMap (computedDelivery tick.day.tick p.world) ++
    if (syncStart p.reportingSyncState w).any (· ≤ d - tick.reportingLagDays) then [d - tick.reportingLagDays + 1]
    else []

/-- What the tick computes from the tables fits: `w` is what its flow leaves. -/
structure Fits (tick : OfficeTick) (db : Database Office) (w : World) : Prop where
  dates : ∀ date ∈ computedDates tick (db.clock.simulationDate + 1) db.tables.platform w ++ storedDates w,
    dateMin ≤ date ∧ date ≤ dateMax
  quantities : ∀ n ∈ storedQuantities w, integerHolds n
  measured : ∀ call ∈ exceptionCalls tick.day.engine (db.clock.simulationDate + 1) (db.clock.simulationDate + 1)
    (engineTables (afterSync tick db w).platform), ∀ item ∈ call.evaluations.items, item.2.isFlagged = some true →
      numericHolds 10 2 item.2.measuredValue
  otifPct : numericHolds 5 2 (otif w)
  fillRatePct : numericHolds 5 2 (fillRate w)
  orderCycleTimeDays : numericHolds 6 1 (orderCycleTime w)
  perfectOrderRatePct : numericHolds 5 2 (perfectOrderRate w)
  supply : ∀ r ∈ daysOfSupply (db.clock.simulationDate + 1) w, numericHolds 8 1 r.daysOfSupply

/-- What the tick of an office computes stays within the columns and the calendar. -/
def WithinLimits (tick : OfficeTick) (db : Database Office) : Prop :=
  Fits tick db (endState (scheduledFlow tick.day.tick (db.clock.simulationDate + 1) db.tables.platform.world))

/-- No call of the tick raises, for lack of room in a column or in the calendar neither. -/
def CompletesWithin (tick : OfficeTick) (db : Database Office) : Prop := TickCompletes tick db ∧ WithinLimits tick db

/-- A tick that draws rows and flags from the numbers. -/
def tickFrom (firstRow firstFlag : ℕ) : OfficeTick where
  day := ⟨.drawnFrom (fun _ _ => Rng.least) firstRow, .inserted, .drawnFrom firstFlag, .inserted⟩
  reportingLagDays := 2
  decisions := .inserted
  asOf := simDatetime 739700
  staleDecisionAfterDays := 30
  sweep := ⟨simDatetime 739700, 24 * 3600000000, .inserted, .inserted⟩

theorem exists_faultless (o : Office) : ∃ firstRow firstFlag, Faultless (tickFrom firstRow firstFlag) o := by
  obtain ⟨firstRow, rows⟩ := exists_freshDraws (fun _ _ => Rng.least) o.platform.world
  obtain ⟨firstFlag, flags⟩ := exists_flagDraws o.platform.exceptionFlag
  exact ⟨firstRow, firstFlag, rows, flags, rfl⟩

/-- One product at one warehouse, on the day of the clean baseline. -/
def baselineOffice : Database Office where
  clock := ⟨ClockOps.cleanBaselineSimulationDate, .running⟩
  scheduledTick := []
  tables :=
    { platform :=
        { currentWorldStateId := some 1
          worldState := [⟨1, .cleanBaseline, ClockOps.cleanBaselineSimulationDate, ClockOps.cleanBaselineSeed,
            ClockOps.cleanBaselineLabel, none⟩]
          scenario := []
          world := World.empty ⟨[⟨"boxes", .corrugatedPackaging, true⟩], [⟨"main", true⟩],
            [⟨"acme", "corrugated", 1, .low, true⟩], [], []⟩
          exceptionRuleThreshold := []
          exceptionFlag := []
          kpis := ⟨[], []⟩
          reportingInventorySnapshot := []
          reportingSyncState := none }
      decisionEvent := []
      chat := ⟨⟨[], [], [], [], [], [], []⟩, ⟨[], List.nodup_nil⟩, []⟩ }

theorem baselineOffice_seeded : SeededOffice baselineOffice := by
  refine ⟨⟨fun p mem _ => ?_, List.nodup_nil⟩, rfl, rfl⟩
  refine ⟨⟨"acme", "corrugated", 1, .low, true⟩, List.mem_singleton_self _, rfl, ?_⟩
  rw [List.mem_singleton.1 mem]
  decide +kernel

theorem reachable_follow {db : Database Office} (h : officeRuns.Reachable db) (labels : List OfficeLabel) :
    officeRuns.Reachable (labels.foldl officeNext db) := by
  induction labels generalizing db with
  | nil => exact h
  | cons l labels ih => exact ih (.next h trivial rfl)

/-- What the flow of the first tick leaves, whatever the numbers of its rows. -/
def afterFirstFlow (firstRow firstFlag : ℕ) : World :=
  endState (scheduledFlow (tickFrom firstRow firstFlag).day.tick (baselineOffice.clock.simulationDate + 1)
    baselineOffice.tables.platform.world)

theorem firstFlow_dates (firstRow firstFlag : ℕ) :
    computedDates (tickFrom firstRow firstFlag) (baselineOffice.clock.simulationDate + 1) baselineOffice.tables.platform
      (afterFirstFlow firstRow firstFlag) ++ storedDates (afterFirstFlow firstRow firstFlag) =
        [739618, 739616, 739604, 739619] := by
  with_unfolding_all rfl

theorem firstFlow_quantities (firstRow firstFlag : ℕ) :
    storedQuantities (afterFirstFlow firstRow firstFlag) = [20, 0, 0, 0] := by
  with_unfolding_all rfl

/-- No order has been closed, and nothing has been used. -/
theorem firstFlow_figures (firstRow firstFlag : ℕ) :
    let w := afterFirstFlow firstRow firstFlag
    otif w = none ∧ fillRate w = none ∧ orderCycleTime w = none ∧ perfectOrderRate w = none ∧
      (daysOfSupply (baselineOffice.clock.simulationDate + 1) w).map (·.daysOfSupply) = [none] := by
  refine ⟨?_, ?_, ?_, ?_, ?_⟩ <;> with_unfolding_all rfl

/-- The first tick orders boxes that arrive within the calendar. -/
theorem baseline_fits (firstRow firstFlag : ℕ) : WithinLimits (tickFrom firstRow firstFlag) baselineOffice := by
  obtain ⟨otif, fillRate, cycle, perfect, supply⟩ := firstFlow_figures firstRow firstFlag
  constructor
  case dates =>
    rw [← afterFirstFlow, firstFlow_dates]
    decide
  case quantities =>
    rw [← afterFirstFlow, firstFlow_quantities]
    unfold integerHolds
    decide
  case measured =>
    intro call mem
    cases mem
  case otifPct =>
    rw [← afterFirstFlow, otif]
    exact nofun
  case fillRatePct =>
    rw [← afterFirstFlow, fillRate]
    exact nofun
  case orderCycleTimeDays =>
    rw [← afterFirstFlow, cycle]
    exact nofun
  case perfectOrderRatePct =>
    rw [← afterFirstFlow, perfect]
    exact nofun
  case supply =>
    intro r mem
    rw [← afterFirstFlow] at mem
    have none : r.daysOfSupply = none := List.mem_singleton.1 (supply ▸ List.mem_map_of_mem mem)
    rw [none]
    exact nofun

/-- The clock advances, a tick runs, and the simulation is reset. -/
def resetAfterTick : List OfficeLabel :=
  [.clock (.advance 1),
    .tick { tickFrom 0 0 with day := { (tickFrom 0 0).day with tick := .inOrder fun _ _ => Rng.least } },
    .clock (.reset 2 "Reset")]

end MeadowOps.Simulation
