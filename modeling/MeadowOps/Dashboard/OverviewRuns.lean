import MeadowOps.Dashboard.RecordedDays
import MeadowOps.Dashboard.TransitionOrder
import MeadowOps.Simulation.ClockOps

/-!
# The overview of a run

Whatever ticks, rebuilds and edits have been committed, the figures of the overview fit together, and its window
keeps every day with data.
-/

namespace MeadowOps.Dashboard

open Db Lib MeadowOps.Flow Scheduler Exceptions Kpi Scenarios Simulation

/-! ## The verdicts of a tick -/

/-- The flags and the KPIs that are written are of the day. -/
structure VerdictsOf (d : Date) (p p' : Platform) : Prop where
  flags : FlagsOfTheDay d p.exceptionFlag p'.exceptionFlag
  kpis : OfTheDay KpiSnapshot.simulationDate d p.kpis.kpiSnapshot p'.kpis.kpiSnapshot

/-- A call that fails has written rows of its day. -/
structure WritesOfTheDay (d : Date) (faults : TickFaults) : Prop where
  flags : ∀ failure ∈ faults.evaluate, ∀ flags, FlagsOfTheDay d flags (failure.writes flags)
  kpis : ∀ failure ∈ faults.kpis, ∀ t : KpiTables,
    OfTheDay KpiSnapshot.simulationDate d t.kpiSnapshot (failure.writes t).kpiSnapshot

section Verdicts

variable {env : DayEnv} {lagDays : ℤ} {faults : TickFaults} {d : Date} {p p₁ p₂ : Platform}

theorem VerdictsOf.refl (p : Platform) : VerdictsOf d p p := ⟨.refl _, .refl _⟩

theorem VerdictsOf.trans (h : VerdictsOf d p p₁) (h' : VerdictsOf d p₁ p₂) : VerdictsOf d p p₂ :=
  ⟨h.flags.trans h'.flags, h.kpis.trans h'.kpis⟩

theorem evaluateExceptions_verdicts : Keeps (fun db => VerdictsOf d p db.tables) (evaluateExceptions env d) := by
  intro db before
  cases ran : evaluateExceptions env d db with
  | ok _ db' =>
    obtain ⟨flags, synced, rfl⟩ := evaluateExceptions_ok ran
    exact before.trans ⟨syncAll_ofTheDay (exceptionCalls_days _ _ _ _) synced, .refl _⟩
  | error e db' =>
    obtain ⟨-, rfl⟩ := evaluateExceptions_error ran
    exact before

theorem computeAndSnapshotKpis_verdicts :
    Keeps (fun db => VerdictsOf d p db.tables) (computeAndSnapshotKpis env d) := by
  intro db before
  cases ran : computeAndSnapshotKpis env d db with
  | ok _ db' =>
    obtain rfl := computeAndSnapshotKpis_ok ran
    exact before.trans ⟨.refl _, .upsert rfl⟩
  | error e db' =>
    obtain rfl := computeAndSnapshotKpis_error ran
    exact before

theorem syncStep_verdicts (clock : SimulationClock) :
    Keeps (VerdictsOf d p) (syncStep env lagDays faults d clock) := by
  intro p₁ before
  cases ran : syncStep env lagDays faults d clock p₁ with
  | ok _ p₂ =>
    obtain rfl := syncStep_ok ran
    exact before.trans ⟨.refl _, .refl _⟩
  | error e p₂ =>
    obtain rfl := syncStep_error ran
    exact before

theorem evaluateStep_verdicts (writes : WritesOfTheDay d faults) (clock : SimulationClock) :
    Keeps (VerdictsOf d p) (evaluateStep env faults d clock) := by
  intro p₁ before
  unfold evaluateStep
  cases fails : faults.evaluate with
  | some failure => exact before.trans ⟨writes.flags failure fails p₁.exceptionFlag, .refl _⟩
  | none =>
    dsimp only
    rw [endState_overTables]
    exact evaluateExceptions_verdicts ⟨clock, [], p₁⟩ before

theorem kpiStep_verdicts (writes : WritesOfTheDay d faults) (clock : SimulationClock) :
    Keeps (VerdictsOf d p) (kpiStep env faults d clock) := by
  intro p₁ before
  unfold kpiStep
  cases fails : faults.kpis with
  | some failure => exact before.trans ⟨.refl _, writes.kpis failure fails p₁.kpis⟩
  | none =>
    dsimp only
    rw [endState_overTables]
    exact computeAndSnapshotKpis_verdicts ⟨clock, [], p₁⟩ before

theorem laterSteps_verdicts : Keeps (VerdictsOf d p) (laterSteps faults) := by
  intro p₁ before
  unfold laterSteps
  cases faults.later with
  | some e => exact before
  | none => exact before

theorem runPosts_verdicts (writes : WritesOfTheDay d faults) (clock : SimulationClock) :
    Keeps (VerdictsOf d p) (runPosts (tickSteps env lagDays faults).posts d clock) := by
  rw [runPosts_eq]
  exact (syncStep_verdicts clock).bind fun _ => (evaluateStep_verdicts writes clock).bind fun _ =>
    (kpiStep_verdicts writes clock).bind fun _ => laterSteps_verdicts

theorem tickOf_verdicts {db : Database Platform} (writes : WritesOfTheDay (db.clock.simulationDate + 1) faults) :
    VerdictsOf (db.clock.simulationDate + 1) db.tables (tickOf env lagDays faults db).tables := by
  unfold tickOf
  split
  · exact .refl _
  · rcases runTick_cases PlatformError.aborts (tickSteps env lagDays faults) db with
      same | failed | ⟨events, p, -, passes, done⟩
    · rw [same]
      exact .refl _
    · rw [failed]
      exact .refl _
    · rw [runPasses_eq] at passes
      obtain ⟨w, -, rfl⟩ := flowStep_ok passes
      rw [done]
      exact runPosts_verdicts writes (advanced db).clock _ ⟨.refl _, .refl _⟩

end Verdicts

/-! ## Recorded rows -/

/-- No row is dated before the first tick. -/
structure Recorded (db : Database Platform) : Prop where
  world : WorldRecorded (RecordedBy db.scheduledTick) db.tables.world
  flags : ∀ f ∈ db.tables.exceptionFlag, RecordedBy db.scheduledTick f.firstDetectedSimulationDate
  kpis : ∀ k ∈ db.tables.kpis.kpiSnapshot, RecordedBy db.scheduledTick k.simulationDate

section Recorded

variable {db db' : Database Platform}

/-- A flow and the verdicts of its day, with the tick that records them. -/
theorem Recorded.written (h : Recorded db) {env : TickEnv} {events : ℕ} {tick : ScheduledTick}
    (ticks : db'.scheduledTick = db.scheduledTick ++ [tick])
    (run : scheduledFlow env tick.simulationDate db.tables.world = .ok events db'.tables.world)
    (verdicts : VerdictsOf tick.simulationDate db.tables db'.tables) : Recorded db' := by
  have today := recordedBy_tick db.scheduledTick tick
  have later : ∀ d, RecordedBy db.scheduledTick d → RecordedBy (db.scheduledTick ++ [tick]) d :=
    fun d recorded => recorded.append [tick]
  rw [← ticks] at today later
  constructor
  case world => exact (h.world.imp later).flow today run
  case flags => exact verdicts.flags.forall today fun f mem => later _ (h.flags f mem)
  case kpis => exact verdicts.kpis.forall today fun k mem => later _ (h.kpis k mem)

/-- A tick more, and nothing written. -/
theorem Recorded.ticked (h : Recorded db) (tick : ScheduledTick) :
    Recorded { db with scheduledTick := db.scheduledTick ++ [tick] } := by
  have later : ∀ d, RecordedBy db.scheduledTick d → RecordedBy (db.scheduledTick ++ [tick]) d :=
    fun d recorded => recorded.append [tick]
  exact ⟨h.world.imp later, fun f mem => later _ (h.flags f mem), fun k mem => later _ (h.kpis k mem)⟩

theorem Recorded.tick (h : Recorded db) {env : DayEnv} {lagDays : ℤ} {faults : TickFaults}
    (writes : WritesOfTheDay (db.clock.simulationDate + 1) faults) : Recorded (tickOf env lagDays faults db) := by
  have verdicts : VerdictsOf (db.clock.simulationDate + 1) db.tables (tickOf env lagDays faults db).tables :=
    tickOf_verdicts writes
  rcases tickOf_cases env lagDays faults db with same | failed | ⟨events, w, done⟩
  · rw [same]
    exact h
  · rw [failed]
    exact h.ticked _
  · have flow := done.flow
    rw [← done.world] at flow
    exact h.written done.scheduledTick flow verdicts

/-- The first state of a rebuild. -/
theorem recorded_emptied (carriers : CarriersTake db.tables.world.master) (today : Date) (id : Uuid)
    (worldState : List WorldState) (scenario : List Scenario) :
    Recorded (emptied db today id worldState scenario) where
  world := {
    wf := (emptyWorld db.tables.world.master).wf
    carriers := carriers
    orders := ⟨fun _ mem => absurd mem List.not_mem_nil, fun _ mem => absurd mem List.not_mem_nil,
      fun _ mem => absurd mem List.not_mem_nil⟩
    shipments := fun _ mem => absurd mem List.not_mem_nil }
  flags := fun _ mem => absurd mem List.not_mem_nil
  kpis := fun _ mem => absurd mem List.not_mem_nil

theorem generateDay_verdicts {env : RepopulateEnv} {d : Date} {t t' : Tx (Database Platform)}
    (h : generateDay env d t = .ok () t') : VerdictsOf d t.pending.tables t'.pending.tables := by
  obtain ⟨-, -, events, w, reporting, syncState, db, -, flagged, snapshot⟩ := generateDay_calls h
  have flags : VerdictsOf d t.pending.tables db.tables := by
    refine evaluateExceptions_verdicts.of_ok ?_ flagged
    exact ⟨.refl _, .refl _⟩
  exact computeAndSnapshotKpis_verdicts.of_ok flags snapshot

theorem Recorded.day {env : RepopulateEnv} {d : Date} {t t' : Tx (Database Platform)} (h : Recorded t.pending)
    (ran : generateDay env d t = .ok () t') : Recorded t'.pending := by
  have verdicts := generateDay_verdicts ran
  obtain ⟨events, w, reporting, syncState, flags, flow, done⟩ := (generateDay_ok ran).tables
  rw [done] at verdicts ⊢
  exact h.written rfl flow verdicts

theorem recorded_of_rebuild {env : RepopulateEnv} {today : Date} {historyDays : ℤ} {result : RepopulateResult}
    {t : Tx (Database Platform)} (carriers : CarriersTake db.tables.world.master)
    (run : repopulateWorld env today historyDays (Tx.start db) = .ok result t) : Recorded t.pending :=
  repopulateWorld_rule (t := Tx.start db) (fun _ _ => recorded_emptied carriers _ _ _ _) (fun _ _ _ h ran => h.day ran) run

end Recorded

/-! ## Runs -/

/-- No operational row, no verdict. -/
structure Unstarted (s : CommittedWorld) : Prop where
  fresh : Fresh s
  flags : s.db.tables.exceptionFlag = []
  kpis : s.db.tables.kpis.kpiSnapshot = []
  carriers : CarriersTake s.db.tables.world.master

def overviewRuns : System CommittedWorld CommitLabel where
  init := Unstarted
  step s l s' := s' = commitNext s l

/-- A call that fails has written rows of its day, and no edit makes a carrier take less than no time. -/
def Sound (s : CommittedWorld) : CommitLabel → Prop
  | .tick _ _ _ faults => WritesOfTheDay (s.db.clock.simulationDate + 1) faults
  | .edit m => CarriersTake m
  | .repopulate .. | .clock _ => True

theorem Unstarted.recorded {s : CommittedWorld} (h : Unstarted s) : Recorded s.db := by
  constructor
  case world =>
    refine ⟨h.fresh.world.wf, h.carriers, ?_, ?_⟩
    · rw [h.fresh.world]
      exact ⟨fun _ mem => absurd mem List.not_mem_nil, fun _ mem => absurd mem List.not_mem_nil,
        fun _ mem => absurd mem List.not_mem_nil⟩
    · rw [h.fresh.world]
      exact fun _ mem => absurd mem List.not_mem_nil
  case flags =>
    rw [h.flags]
    exact fun _ mem => absurd mem List.not_mem_nil
  case kpis =>
    rw [h.kpis]
    exact fun _ mem => absurd mem List.not_mem_nil

theorem Recorded.repopulate {s : CommittedWorld} (h : Recorded s.db) (start : Instant) (env : RepopulateEnv)
    (today : Date) (historyDays : ℤ) : Recorded (commitNext s (.repopulate start env today historyDays)).db := by
  rcases commitNext_repopulate s start env today historyDays with same | ⟨result, t, run, same⟩
  · rw [same]
    exact h
  · rw [same]
    exact recorded_of_rebuild h.world.carriers run

/-- After every run nothing is dated before the first recorded tick. -/
theorem recorded_of_run {s : CommittedWorld} (h : overviewRuns.Reach Sound s) : Recorded s.db := by
  refine h.invariant (I := fun s => Recorded s.db) (fun s fresh => (show Unstarted s from fresh).recorded) ?_
  intro s l s' _ inv sound step
  obtain rfl : s' = commitNext s l := step
  cases l with
  | tick start env lagDays faults => exact inv.tick sound
  | repopulate start env today historyDays => exact inv.repopulate start env today historyDays
  | edit m =>
    exact ⟨⟨{ inv.world.wf with }, sound, ⟨inv.world.orders.sales, inv.world.orders.purchases, inv.world.orders.events⟩,
      inv.world.shipments⟩, inv.flags, inv.kpis⟩
  | clock c => exact ⟨inv.world, inv.flags, inv.kpis⟩

/-! ## The window -/

/-- The page shows a row on the day. -/
inductive HasData (p : Platform) (d : Date) : Prop where
  | ordered (so : SalesOrder) (mem : so ∈ p.world.salesOrder) (date : so.orderDate = d)
  | shipped (s : Shipment) (mem : s ∈ p.world.shipment) (date : s.shipDate = d)
  | delivered (s : Shipment) (mem : s ∈ p.world.shipment) (date : s.actualDeliveryDate = some d)
  | purchased (po : PurchaseOrder) (mem : po ∈ p.world.purchaseOrder) (date : po.orderDate = d)
  | moved (e : LifecycleEvent PurchaseOrderStatus) (mem : e ∈ p.world.purchaseOrderLifecycleEvent)
      (date : e.simulationDate = d)
  | flagged (f : ExceptionFlag) (mem : f ∈ p.exceptionFlag) (date : f.firstDetectedSimulationDate = d)
  | measured (k : KpiSnapshot) (mem : k ∈ p.kpis.kpiSnapshot) (date : k.simulationDate = d)

theorem Recorded.hasData {db : Database Platform} (h : Recorded db) {d : Date} (data : HasData db.tables d) :
    RecordedBy db.scheduledTick d := by
  cases data with
  | ordered so mem date => exact date ▸ h.world.orders.sales so mem
  | shipped s mem date => exact date ▸ (h.world.shipments s mem).shipped
  | delivered s mem date =>
    have row := h.world.shipments s mem
    exact row.shipped.later (row.delivered d date)
  | purchased po mem date => exact date ▸ h.world.orders.purchases po mem
  | moved e mem date => exact date ▸ h.world.orders.events e mem
  | flagged f mem date => exact date ▸ h.flags f mem
  | measured k mem date => exact date ▸ h.kpis k mem

/-- The window is the one that is asked for, or shrinks to the first recorded day. -/
structure KeepsWindow (ticks : List ScheduledTick) (p : Platform) (days : ℤ) (o : OverviewRead) : Prop where
  start_le : o.windowStart ≤ o.asOf
  later : ∀ first, FirstRecorded ticks first → o.asOf - (days - 1) < first → o.windowStart = min first o.asOf
  full : (∀ first, FirstRecorded ticks first → first ≤ o.asOf - (days - 1)) →
    o.windowStart = o.asOf - (days - 1) ∧ o.windowDays = days
  keeps : ∀ d, HasData p d → o.asOf - (days - 1) ≤ d → d ≤ o.asOf → o.windowStart ≤ d

theorem Recorded.keepsWindow {db : Database Platform} (h : Recorded db) {env : OverviewEnv} {clock : Option Date}
    {today : Date} {days : ℤ} {o : OverviewRead}
    (answer : buildOverview env clock today db.scheduledTick db.tables days = .ok o) :
    KeepsWindow db.scheduledTick db.tables days o := by
  obtain ⟨one, -, window⟩ := buildOverview_window answer
  have start := congrArg Prod.fst window
  dsimp only at start
  have later : ∀ first, FirstRecorded db.scheduledTick first → o.asOf - (days - 1) < first →
      o.windowStart = min first o.asOf := by
    intro first recorded starts
    rw [start]
    exact overviewWindow_of_later recorded starts
  have full : (∀ first, FirstRecorded db.scheduledTick first → first ≤ o.asOf - (days - 1)) →
      o.windowStart = o.asOf - (days - 1) ∧ o.windowDays = days :=
    fun early => Prod.mk.inj (window.trans (overviewWindow_of_early early))
  constructor
  case start_le =>
    rw [start]
    exact (overviewWindow_days one).1
  case later => exact later
  case full => exact full
  case keeps =>
    intro d data asked last
    by_cases early : ∀ first, FirstRecorded db.scheduledTick first → first ≤ o.asOf - (days - 1)
    · rw [(full early).1]
      exact asked
    · push Not at early
      obtain ⟨first, recorded, starts⟩ := early
      rw [later first recorded starts]
      obtain ⟨t, mem, before⟩ := h.hasData data
      exact (min_le_left _ _).trans ((recorded.2 ⟨t, mem, rfl⟩).trans before)

/-- In every state of a run the figures fit together over every window that dates can reach, and the window loses
no day with data. -/
theorem overview_reconciles {s : CommittedWorld} (h : overviewRuns.Reach Sound s) (env : OverviewEnv)
    (clock : Option Date) (today : Date) {days : ℤ} (one : 1 ≤ days)
    (reachable : 1 ≤ clock.getD today - (days - 1)) :
    ∃ o, buildOverview env clock today s.db.scheduledTick s.db.tables days = .ok o ∧ o.asOf = clock.getD today ∧
      Reconciled o ∧ KeepsWindow s.db.scheduledTick s.db.tables days o := by
  have recorded := recorded_of_run h
  obtain ⟨o, answer⟩ := @buildOverview_ok env clock today s.db.scheduledTick s.db.tables days one reachable
  refine ⟨o, answer, (buildOverview_window answer).2.1, ?_, recorded.keepsWindow answer⟩
  exact reconciled_of_answer recorded.world.wf (fun row mem => (recorded.world.shipments row mem).dated) answer

/-! ## Two answers -/

def plainOverview : OverviewEnv := ⟨.stable _, .stable _, .inserted, .inserted, .stable _, .inserted⟩

theorem unstarted_freshBoxes : Unstarted freshBoxes where
  fresh := ⟨emptyWorld _, rfl, rfl⟩
  flags := rfl
  kpis := rfl
  carriers := fun _ mem => absurd mem List.not_mem_nil

/-- The shop, no event yet. -/
def freshShop : CommittedWorld := ⟨pausedWorld shop [], [], []⟩

theorem unstarted_freshShop : Unstarted freshShop where
  fresh := ⟨emptyWorld _, rfl, rfl⟩
  flags := rfl
  kpis := rfl
  carriers := by
    intro c mem
    rw [List.mem_singleton.1 mem]
    decide

/-- The days from Monday to Sunday. -/
def weekRebuild : CommitLabel :=
  .repopulate 1000 (plainRebuild fun d => weekEnv (d - monday).toNat) (monday + 6) 7

/-- A week is rebuilt in which the order of the shop is shipped and delivered, and ten days are asked for. -/
theorem overview_reconciles_rebuilt : ∃ s, overviewRuns.Reach Sound s ∧
    FirstRecorded s.db.scheduledTick monday ∧
    s.db.tables.world.shipment.map (fun row => (row.status, row.shipDate)) = [(.delivered, monday + 3)] ∧
    ∃ o, buildOverview plainOverview (some (monday + 6)) 0 s.db.scheduledTick s.db.tables 10 = .ok o ∧
      o.asOf = monday + 6 ∧ Reconciled o ∧ KeepsWindow s.db.scheduledTick s.db.tables 10 o := by
  have reached : overviewRuns.Reach Sound (commitNext freshShop weekRebuild) :=
    .next (l := weekRebuild) (.start unstarted_freshShop) trivial rfl
  refine ⟨_, reached, firstRecorded_iff.1 (by decide +kernel), by decide +kernel, ?_⟩
  exact overview_reconciles reached plainOverview (some (monday + 6)) 0 (by decide) (by decide)

/-- A window that starts before the first date has no answer. -/
theorem window_before_first_date : overviewRuns.Reach Sound freshBoxes ∧
    buildOverview plainOverview (some ClockOps.cleanBaselineSimulationDate) 0 freshBoxes.db.scheduledTick
      freshBoxes.db.tables 739618 = .error .overflowError :=
  ⟨.start unstarted_freshBoxes, buildOverview_overflow (by decide) (by decide)⟩

end MeadowOps.Dashboard
