import MeadowOps.Simulation.OfficeWorlds

/-!
# What the log of the ticks tells

The `SUCCESS` rows of `scheduled_tick` are the history of the operational tables: they are what the flow of
the logged days, in that order, makes of the master data alone. A snapshot of the KPIs is what the queries say
of one of the states on the way.
-/

namespace MeadowOps.Kpi

open Db Lib MeadowOps.Flow

theorem roundedRatio_percentage {digits : ℕ} {part whole : ℚ} (least : 0 ≤ part) (most : part ≤ whole) :
    ∀ pct ∈ roundedRatio digits (100 * part) whole, 0 ≤ pct ∧ pct ≤ 100 := by
  intro pct mem
  rw [roundedRatio] at mem
  split_ifs at mem with none
  · cases mem
  · obtain rfl := Option.some.inj mem
    have pos : 0 < whole := lt_of_le_of_ne (least.trans most) (Ne.symm none)
    have range : ((0 : ℤ) : ℚ) ≤ 100 * part / whole ∧ 100 * part / whole ≤ ((100 : ℤ) : ℚ) := by
      push_cast
      refine ⟨by positivity, ?_⟩
      rw [div_le_iff₀ pos]
      exact mul_le_mul_of_nonneg_left most (by norm_num)
    exact_mod_cast roundHalfAway_range digits range

theorem otif_percentage (w : World) : ∀ pct ∈ otif w, 0 ≤ pct ∧ pct ≤ 100 := by
  refine roundedRatio_percentage (by positivity) (Nat.cast_le.2 (List.countP_mono_left fun f _ held => ?_))
  simp only [Bool.and_eq_true] at held
  exact held.1.1

theorem fillRate_percentage {w : World} (lines : ∀ l ∈ salesOrderLines w, SalesOrderLine.Legal l) :
    ∀ pct ∈ fillRate w, 0 ≤ pct ∧ pct ≤ 100 := by
  have ordered : ((salesOrderLines w).map fun l => (l.quantityOrdered : ℚ)).sum =
      (((salesOrderLines w).map (·.quantityOrdered)).sum : ℤ) := by
    refine ((map_list_sum (Int.castAddHom ℚ) _).trans ?_).symm
    rw [List.map_map]
    rfl
  rw [fillRate, ordered]
  refine roundedRatio_percentage (Int.cast_nonneg (List.sum_nonneg fun n mem => ?_))
    (Int.cast_le.2 (List.sum_le_sum fun l mem => ?_))
  · obtain ⟨l, line, rfl⟩ := List.mem_map.1 mem
    obtain ⟨ordered, none | whole⟩ := lines l line
    · exact none.ge
    · exact whole ▸ ordered.le
  · obtain ⟨ordered, none | whole⟩ := lines l mem
    · exact none ▸ ordered.le
    · exact whole.le

/-- The order cycle time is no percentage. -/
structure RatesInRange (k : KpiSnapshot) : Prop where
  otif : ∀ pct ∈ k.otifPct, 0 ≤ pct ∧ pct ≤ 100
  fillRate : ∀ pct ∈ k.fillRatePct, 0 ≤ pct ∧ pct ≤ 100
  perfectOrderRate : ∀ pct ∈ k.perfectOrderRatePct, 0 ≤ pct ∧ pct ≤ 100

theorem kpiSnapshotOf_rates {w : World} (told : StatusesTold w) (d : Date) : RatesInRange (kpiSnapshotOf d w) := by
  refine ⟨otif_percentage w, fillRate_percentage fun l mem => ?_, otif_percentage w⟩
  obtain ⟨so, mem, line⟩ := List.mem_flatMap.1 mem
  exact (told.salesOrders so mem).lines l line

end MeadowOps.Kpi

namespace MeadowOps.Simulation

open Db Lib MeadowOps.Flow Scheduler Kpi

/-- The flow of the logged days, one after another, makes the tables from no operational row. -/
inductive FlowTrace (m : Master) : List ScheduledTick → World → Prop where
  | empty : FlowTrace m [] (World.empty m)
  | tick {rows : List ScheduledTick} {w w' : World} {env : TickEnv} {d : Date} {events : ℕ}
    (before : FlowTrace m rows w) (run : scheduledFlow env d w = .ok events w') :
    FlowTrace m (rows ++ [⟨d, events, .success⟩]) w'

/-- The rows of a log whose tick has passed. -/
def passedTicks (rows : List ScheduledTick) : List ScheduledTick :=
  rows.filter fun row => decide (row.status = .success)

theorem passedTicks_append (rows more : List ScheduledTick) :
    passedTicks (rows ++ more) = passedTicks rows ++ passedTicks more := List.filter_append ..

theorem passedTicks_failed {rows : List ScheduledTick} (failed : ∀ row ∈ rows, row.status = .failed) :
    passedTicks rows = [] := by
  rw [passedTicks, List.filter_eq_nil_iff]
  intro row mem
  rw [failed row mem]
  exact of_decide_eq_false rfl

section Trace

variable {m : Master} {rows : List ScheduledTick} {w : World}

theorem FlowTrace.wf (h : FlowTrace m rows w) : Wf w := by
  induction h with
  | empty => exact (emptyWorld m).wf
  | @tick _ w _ env d _ _ run ih =>
    have steps := scheduledFlow_steps env d ih
    rw [run] at steps
    exact steps.wf ih

theorem FlowTrace.statusesTold (h : FlowTrace m rows w) : StatusesTold w := by
  induction h with
  | empty => exact statusesTold_empty m
  | @tick _ w _ env d _ before run ih => exact scheduledFlow_statusesTold env before.wf ih run

/-- Such tables are committed in a run of `run_scheduled_tick`. -/
theorem FlowTrace.reachable (h : FlowTrace m rows w) :
    ∃ t, (flowRuns EmptyWorld).Reachable t ∧ t.committed = t.pending ∧ t.committed.tables = w := by
  induction h with
  | empty => exact ⟨Tx.start ⟨⟨0, .running⟩, [], World.empty m⟩, .start ⟨_, rfl, emptyWorld m⟩, rfl, rfl⟩
  | @tick _ w w' env d events _ run ih =>
    obtain ⟨t, reached, settled, same⟩ := ih
    have ran : scheduledFlow env d t.pending.tables = .ok events w' := by rw [← settled, same, run]
    refine ⟨runStep (runStep t (.tick env d)) .commit, .next (.next reached trivial rfl) trivial rfl, rfl, ?_⟩
    show (endState (Flow.tick env d t)).commit.committed.tables = w'
    rw [Flow.tick, runScheduledTick_ok _ ran]
    rfl

end Trace

/-! ## The snapshots of the KPIs -/

/-- The row is what the queries say of the tables after the last of some first ticks of the log, and the tables
have gone on from there. -/
def Recomputed (m : Master) (log : List ScheduledTick) (w : World) (k : KpiSnapshot) : Prop :=
  ∃ rows tick past, rows ++ [tick] <+: log ∧ tick.simulationDate = k.simulationDate ∧
    FlowTrace m (rows ++ [tick]) past ∧ Later past w ∧ k = kpiSnapshotOf k.simulationDate past

/-- What the log of the ticks tells of the tables. -/
structure Logged (db : Database Platform) : Prop where
  history : FlowTrace db.tables.world.master (passedTicks db.scheduledTick) db.tables.world
  kpis : ∀ k ∈ db.tables.kpis.kpiSnapshot,
    Recomputed db.tables.world.master (passedTicks db.scheduledTick) db.tables.world k

section Step

variable {db db' : Database Platform}

theorem Logged.idle (h : Logged db) (world : db'.tables.world = db.tables.world)
    (kpis : db'.tables.kpis = db.tables.kpis)
    (log : passedTicks db'.scheduledTick = passedTicks db.scheduledTick) : Logged db' := by
  constructor
  · rw [world, log]
    exact h.history
  · rw [world, log, kpis]
    exact h.kpis

/-- A tick that passes, with or without its snapshot of the KPIs. -/
theorem Logged.pass (h : Logged db) {env : TickEnv} {d : Date} {events : ℕ}
    (run : scheduledFlow env d db.tables.world = .ok events db'.tables.world)
    (log : db'.scheduledTick = db.scheduledTick ++ [⟨d, events, .success⟩])
    (kpis : ∀ k ∈ db'.tables.kpis.kpiSnapshot,
      k ∈ db.tables.kpis.kpiSnapshot ∨ k = kpiSnapshotOf d db'.tables.world) : Logged db' := by
  obtain ⟨master, -⟩ := scheduledFlow_shipments env h.history.wf run
  have later := scheduledFlow_later h.history.wf run
  have passed : passedTicks db'.scheduledTick = passedTicks db.scheduledTick ++ [⟨d, events, .success⟩] := by
    rw [log, passedTicks_append]
    rfl
  have history := h.history.tick run
  rw [← passed, ← master] at history
  refine ⟨history, fun k mem => ?_⟩
  rcases kpis k mem with old | rfl
  · obtain ⟨rows, tick, past, first, day, trace, before, same⟩ := h.kpis k old
    refine ⟨rows, tick, past, ?_, day, master ▸ trace, before.trans later, same⟩
    rw [passed]
    exact first.trans (List.prefix_append _ _)
  · refine ⟨passedTicks db.scheduledTick, ⟨d, events, .success⟩, db'.tables.world, ?_, rfl, ?_,
      .refl history.wf, rfl⟩
    · rw [passed]
    · rw [← passed]
      exact history

theorem mem_upsertKpis {rows : List DaysOfSupplyRow} {w : World} {d : Date} {t : KpiTables} {k : KpiSnapshot}
    (mem : k ∈ (upsertKpis rows w d t).kpiSnapshot) : k ∈ t.kpiSnapshot ∨ k = kpiSnapshotOf d w := by
  rcases mem_upsert.1 mem with new | ⟨old, -⟩
  · exact .inr new
  · exact .inl old

end Step

/-! ## A rebuild -/

theorem repopulateWorld_logged {env : RepopulateEnv} {today : Date} {historyDays : ℤ} {result : RepopulateResult}
    {t t' : Tx (Database Platform)} (run : repopulateWorld env today historyDays t = .ok result t') :
    Logged t'.pending := by
  refine repopulateWorld_rule (J := Logged) (fun worldState scenario => ?_) (fun d s s' logged ran => ?_) run
  · exact ⟨.empty, fun _ mem => nomatch mem⟩
  · obtain ⟨events, w, reporting, syncState, flags, flowed, same⟩ := (generateDay_ok ran).tables
    refine logged.pass (d := d) (by rw [same]; exact flowed) (by rw [same]) fun k mem => ?_
    rw [same] at mem ⊢
    exact mem_upsertKpis mem

/-! ## A tick -/

section Tick

variable {tick : OfficeTick}

/-- The calls after the flow write the snapshot of the day, or none. -/
theorem runPosts_kpis (old : List KpiSnapshot) (w : World) (d : Date) (clock : SimulationClock) :
    Keeps (fun o => o.platform.world = w ∧
        ∀ k ∈ o.platform.kpis.kpiSnapshot, k ∈ old ∨ k = kpiSnapshotOf d w)
      (runPosts (officeSteps tick).posts d clock) := by
  unfold runPosts
  refine Keeps.foldlM (fun _ post mem => ?_) ()
  have lifted : ∀ x : Statements Unit,
      (∀ db, (endState (x db)).tables.world = db.tables.world ∧
        ((endState (x db)).tables.kpis = db.tables.kpis ∨ ∃ rows,
          (endState (x db)).tables.kpis = upsertKpis rows db.tables.world d db.tables.kpis)) →
      Keeps (fun o => o.platform.world = w ∧
        ∀ k ∈ o.platform.kpis.kpiSnapshot, k ∈ old ∨ k = kpiSnapshotOf d w)
        (onPlatform (overTables x clock)) := by
    rintro x keep o ⟨world, kpis⟩
    show (endState (zoom Office.platform _ _ o)).platform.world = w ∧ ∀ k ∈
      (endState (zoom Office.platform _ _ o)).platform.kpis.kpiSnapshot, _
    rw [endState_zoom]
    show (endState (overTables x clock o.platform)).world = w ∧ ∀ k ∈
      (endState (overTables x clock o.platform)).kpis.kpiSnapshot, _
    rw [endState_overTables]
    obtain ⟨same, unchanged | ⟨rows, written⟩⟩ := keep ⟨clock, [], o.platform⟩
    · exact ⟨same.trans world, unchanged ▸ kpis⟩
    · refine ⟨same.trans world, fun k mem => ?_⟩
      rw [written] at mem
      rcases mem_upsertKpis mem with before | today
      · exact kpis k before
      · exact .inr (world ▸ today)
  simp only [officeSteps, List.mem_cons, List.not_mem_nil, or_false] at mem
  rcases mem with rfl | rfl | rfl | rfl | rfl
  · exact lifted _ fun db => ⟨rfl, .inl rfl⟩
  · refine lifted _ fun db => ?_
    obtain ⟨flags, ran⟩ := endState_evaluateExceptions tick.day d db
    rw [ran]
    exact ⟨rfl, .inl rfl⟩
  · refine lifted _ fun db => ?_
    cases ran : computeAndSnapshotKpis tick.day d db with
    | ok _ db' =>
      rw [computeAndSnapshotKpis_ok ran]
      exact ⟨rfl, .inr ⟨_, rfl⟩⟩
    | error e db' =>
      rw [computeAndSnapshotKpis_error ran]
      exact ⟨rfl, .inl rfl⟩
  · intro o same
    show (endState (zoom Office.decisionEvent _ _ o)).platform.world = w ∧ ∀ k ∈
      (endState (zoom Office.decisionEvent _ _ o)).platform.kpis.kpiSnapshot, _
    rw [endState_zoom]
    exact same
  · exact fun o same => same

theorem runTick_logged {db : Database Office} (h : Logged (platformDb db)) :
    Logged (platformDb (runTick PlatformError.aborts (officeSteps tick) db)) := by
  rcases runTick_cases PlatformError.aborts (officeSteps tick) db with
    same | failed | ⟨events, o, -, passes, done⟩
  · rw [same]
    exact h
  · rw [failed]
    refine h.idle rfl rfl ?_
    exact (passedTicks_append _ _).trans (List.append_nil _)
  · rw [runPasses_officeSteps] at passes
    obtain ⟨p, flowed, rfl⟩ := onPlatform_ok passes
    obtain ⟨w, run, rfl⟩ := flow_ok flowed
    obtain ⟨world, kpis⟩ := @runPosts_kpis tick db.tables.platform.kpis.kpiSnapshot w
      (db.clock.simulationDate + 1) (advanced db).clock
      { db.tables with platform := { db.tables.platform with world := w } } ⟨rfl, fun _ mem => .inl mem⟩
    rw [done]
    refine h.pass (run.trans (congrArg _ world.symm)) rfl fun k mem => ?_
    rcases kpis k mem with old | today
    · exact .inl old
    · exact .inr (world.symm ▸ today)

end Tick

/-! ## Runs -/

theorem Logged.next {db : Database Office} (h : Logged (platformDb db)) (l : OfficeLabel) :
    Logged (platformDb (officeNext db l)) := by
  cases l with
  | clock op =>
    obtain ⟨clock, worldState, head, same⟩ := op.commit_eq (platformDb db)
    have same : officeNext db (.clock op) = withPlatformDb _ db := congrArg (withPlatformDb · db) same
    rw [same]
    exact h.idle rfl rfl rfl
  | repopulate env today historyDays =>
    show Logged (repopulateWork env today historyDays (platformDb db)).2
    rcases repopulateWork_cases env today historyDays (platformDb db) with ⟨e, same⟩ | ⟨result, t, run, same⟩
    · rw [same]
      exact h
    · rw [same]
      exact repopulateWorld_logged run
  | thresholds rows => exact h.idle rfl rfl rfl
  | requests decisionEvent chat => exact h
  | tick tick => exact runTick_logged h

/-- No tick has been logged yet. -/
structure NewOffice (db : Database Office) : Prop where
  world : EmptyWorld db.tables.platform.world
  log : db.scheduledTick = []
  kpis : db.tables.platform.kpis.kpiSnapshot = []

/-- Every row of the KPIs has its tick, after every run of a new office. -/
theorem logged_of_run {db₀ db : Database Office} (new : NewOffice db₀)
    (run : (officeRuns.after db₀).Reachable db) : Logged (platformDb db) := by
  refine run.invariant (I := fun db => Logged (platformDb db)) (fun db start => ?_)
    fun db l db' _ h _ step => ?_
  · obtain rfl : db = db₀ := start
    constructor
    · show FlowTrace _ (passedTicks db.scheduledTick) db.tables.platform.world
      rw [new.log, new.world]
      exact .empty
    · intro k (mem : k ∈ db.tables.platform.kpis.kpiSnapshot)
      rw [new.kpis] at mem
      cases mem
  · obtain rfl : db' = officeNext db l := step
    exact h.next l

/-- From a fresh office on, whatever ticks pass, fail or are aborted, whatever is rebuilt and wherever the clock
is moved: the `SUCCESS` rows of the log are the history of the operational tables, which are reached by the
flow of these days from the master data alone, and every snapshot of the KPIs is what the queries say of the
tables after one of them. What the office shows has therefore been committed in a run of the flow by itself. -/
theorem log_tells_the_history {db₀ db : Database Office} (new : NewOffice db₀)
    (run : (officeRuns.after db₀).Reachable db) :
    Logged (platformDb db) ∧
      ∃ t, (flowRuns EmptyWorld).Reachable t ∧ t.committed.tables = db.tables.platform.world := by
  have logged := logged_of_run new run
  obtain ⟨t, reached, -, same⟩ := logged.history.reachable
  exact ⟨logged, t, reached, same⟩

/-- After two ticks the log names two days, and each has its snapshot. -/
theorem log_tells_the_history_confirmed :
    let db := [OfficeLabel.tick (leastTick 0), .tick (leastTick 10)].foldl officeNext baselineOffice
    (Logged (platformDb db) ∧
      ∃ t, (flowRuns EmptyWorld).Reachable t ∧ t.committed.tables = db.tables.platform.world) ∧
      (passedTicks db.scheduledTick).map (·.simulationDate) = [739618, 739619] ∧
      db.tables.platform.kpis.kpiSnapshot.map (·.simulationDate) = [739618, 739619] := by
  intro db
  have run : (officeRuns.after baselineOffice).Reachable db :=
    .next (l := .tick (leastTick 10)) (.next (l := .tick (leastTick 0)) (.start rfl) trivial rfl) trivial rfl
  exact ⟨log_tells_the_history ⟨emptyWorld _, rfl, rfl⟩ run, by decide +kernel, by decide +kernel⟩

/-- Every row that is in `kpi_snapshot` at any time shows percentages. -/
theorem recorded_rates_in_range {db₀ db : Database Office} (new : NewOffice db₀)
    (run : (officeRuns.after db₀).Reachable db) :
    ∀ k ∈ db.tables.platform.kpis.kpiSnapshot, RatesInRange k := by
  intro k mem
  obtain ⟨rows, tick, past, -, -, trace, -, same⟩ := (logged_of_run new run).kpis k mem
  rw [same]
  exact kpiSnapshotOf_rates trace.statusesTold _

theorem reachable_after (db₀ : Database Office) (labels : List OfficeLabel) :
    (officeRuns.after db₀).Reachable (labels.foldl officeNext db₀) := by
  induction labels using List.reverseRecOn with
  | nil => exact .start rfl
  | append_singleton labels l ih =>
    rw [List.foldl_append]
    exact .next ih trivial rfl

/-- The order of the shop waits, is shipped on Thursday and is delivered on Saturday. -/
theorem recorded_rates_in_range_week :
    let db := shopWeek.foldl officeNext shopOffice
    (∀ k ∈ db.tables.platform.kpis.kpiSnapshot, RatesInRange k) ∧
      db.tables.platform.kpis.kpiSnapshot.map (fun k => (k.otifPct, k.fillRatePct)) =
        [(none, some 0), (none, some 0), (none, some 0), (none, some 100), (none, some 100),
          (some 100, some 100), (some 100, some 100)] :=
  ⟨recorded_rates_in_range ⟨emptyWorld _, rfl, rfl⟩ (reachable_after shopOffice shopWeek), by decide +kernel⟩

end MeadowOps.Simulation
