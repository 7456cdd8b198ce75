import MeadowOps.Flow.Deliveries
import MeadowOps.Kpi.SupplyWindow
import MeadowOps.Simulation.AllOrNothing

/-!
# Rebuilt history and lived history

Both run the same four calls for each day of a window. When a history is lived, the clock shows the day; in
a rebuild it shows the last day of the window from the beginning. A day reads the clock through the query
for the days of supply only.
-/

namespace MeadowOps.Simulation

open Db Lib MeadowOps.Flow Scheduler Kpi Reporting Exceptions Scenarios

/-- The generated tables. -/
structure History where
  scheduledTick : List ScheduledTick
  world : World
  exceptionFlag : List ExceptionFlag
  kpis : KpiTables
  reportingInventorySnapshot : List ReportingInventorySnapshot
  reportingSyncState : Option ReportingSyncState
  deriving DecidableEq

def historyOf (db : Database Platform) : History where
  scheduledTick := db.scheduledTick
  world := db.tables.world
  exceptionFlag := db.tables.exceptionFlag
  kpis := db.tables.kpis
  reportingInventorySnapshot := db.tables.reportingInventorySnapshot
  reportingSyncState := db.tables.reportingSyncState

/-- The same rows in every table, in any order. -/
structure History.SameRows (h h' : History) : Prop where
  scheduledTick : h.scheduledTick.Perm h'.scheduledTick
  salesOrder : h.world.salesOrder.Perm h'.world.salesOrder
  salesOrderLifecycleEvent : h.world.salesOrderLifecycleEvent.Perm h'.world.salesOrderLifecycleEvent
  purchaseOrder : h.world.purchaseOrder.Perm h'.world.purchaseOrder
  purchaseOrderLifecycleEvent :
    h.world.purchaseOrderLifecycleEvent.Perm h'.world.purchaseOrderLifecycleEvent
  shipment : h.world.shipment.Perm h'.world.shipment
  warehouseTransfer : h.world.warehouseTransfer.Perm h'.world.warehouseTransfer
  inventoryTransaction : h.world.inventoryTransaction.Perm h'.world.inventoryTransaction
  inventorySnapshot : h.world.inventorySnapshot.Perm h'.world.inventorySnapshot
  exceptionFlag : h.exceptionFlag.Perm h'.exceptionFlag
  kpiSnapshot : h.kpis.kpiSnapshot.Perm h'.kpis.kpiSnapshot
  daysOfSupplySnapshot : h.kpis.daysOfSupplySnapshot.Perm h'.kpis.daysOfSupplySnapshot
  reportingInventorySnapshot : h.reportingInventorySnapshot.Perm h'.reportingInventorySnapshot
  reportingSyncState : h.reportingSyncState = h'.reportingSyncState

theorem History.SameRows.refl (h : History) : h.SameRows h := by
  constructor
  case reportingSyncState => rfl
  all_goals exact List.Perm.refl _

/-- What a program leaves when it returns. -/
def history? {α : Type} : EStateM.Result PlatformError (Tx (Database Platform)) α → Option History
  | .ok _ t => some (historyOf t.pending)
  | .error _ _ => none

def rebuiltHistory (env : RepopulateEnv) (today : Date) (historyDays : ℤ) (db : Database Platform) :
    Option History :=
  history? (repopulateWorld env today historyDays (Tx.start db))

/-- The clock advances, and the four calls of its new day follow. -/
def liveDay (env : RepopulateEnv) : SessionM Unit := do
  let newDate ← advanceClock
  generateDay env newDate

/-- The emptied tables, with the clock one day before the window. -/
def livedStart (db : Database Platform) (start : Date) : Database Platform :=
  { cleared db with clock := ⟨start - 1, .running⟩ }

def livedHistory (env : RepopulateEnv) (today : Date) (historyDays : ℤ) (db : Database Platform) :
    Option History :=
  history? ((window today historyDays).foldlM (fun (_ : Unit) _ => liveDay env) ()
    (Tx.start (livedStart db (startDate today historyDays))))

/-- No call is made to fail. -/
structure Unfailing (env : RepopulateEnv) : Prop where
  calls : ∀ step, env.fails step = none
  flows : ∀ d, env.flowFails d = none

/-! ## A day as a function of the history -/

def syncedTables (day : DayEnv) (lagDays : ℤ) (d : Date) (w : World)
    (reporting : List ReportingInventorySnapshot) (syncState : Option ReportingSyncState) : ReportingDb :=
  (Reporting.syncReportingLayer day.snapshots d lagDays ⟨w.inventorySnapshot, reporting, syncState⟩).2

/-- The four calls of day `d` under a clock. -/
def dayHistory (day : DayEnv) (lagDays : ℤ) (thresholds : List ExceptionRuleThreshold) (clock d : Date)
    (h : History) : Option History :=
  match scheduledFlow day.tick d h.world with
  | .error _ _ => none
  | .ok events w => do
    let synced := syncedTables day lagDays d w h.reportingInventorySnapshot h.reportingSyncState
    let flags ← syncAll (exceptionCalls day.engine clock d
      ⟨thresholds, w, synced.reporting, synced.syncState⟩) h.exceptionFlag
    let kpis ← (Kpi.computeAndSnapshotKpis day.supplyRows clock w d h.kpis).toOption
    return ⟨h.scheduledTick ++ [⟨d, events, .success⟩], w, flags, kpis, synced.reporting, synced.syncState⟩

section Days

variable {env : RepopulateEnv}

theorem attempt_eq (unfailing : Unfailing env) {α : Type} (step : RepopulateStep) (x : SessionM α) :
    attempt env step x = x := by
  rw [attempt, unfailing.calls]

theorem ok_of_history? {α : Type} {r : EStateM.Result PlatformError (Tx (Database Platform)) α}
    (h : (history? r).isSome = true) : ∃ a t, r = .ok a t := by
  cases r with
  | ok a t => exact ⟨a, t, rfl⟩
  | error e t => cases h

theorem history?_bind_of_ok {α β : Type} {x : SessionM α} {f : α → SessionM β}
    {t t' : Tx (Database Platform)} {a : α} (h : x t = .ok a t') :
    history? ((x >>= f) t) = history? (f a t') := by
  rw [bind_of_ok h]

theorem history?_bind_of_error {α β : Type} {x : SessionM α} {f : α → SessionM β}
    {t t' : Tx (Database Platform)} {e : PlatformError} (h : x t = .error e t') :
    history? ((x >>= f) t) = none := by
  rw [bind_of_error h]
  rfl

theorem history?_bind_pure {α β : Type} (x : SessionM α) (b : β) (t : Tx (Database Platform)) :
    history? ((x >>= fun _ => pure b) t) = history? (x t) := by
  cases run : x t with
  | ok a t' => exact history?_bind_of_ok run
  | error e t' => exact history?_bind_of_error run

theorem execute_of_ok {α : Type} {x : Statements α} {t : Tx (Database Platform)} {a : α}
    {db : Database Platform} (h : x t.pending = .ok a db) :
    execute x t = .ok a { t with pending := db } := by
  rw [execute, Tx.onPending, h]

theorem execute_of_error {α : Type} {x : Statements α} {t : Tx (Database Platform)} {e : PlatformError}
    {db : Database Platform} (h : x t.pending = .error e db) :
    ∃ t', execute x t = .error e t' := by
  rw [execute, Tx.onPending, h]
  exact ⟨_, rfl⟩

variable {β : Type} {t : Tx (Database Platform)} {day : DayEnv} {d : Date}

theorem history?_scheduledTick (unfailing : Unfailing env) (f : ScheduledTick → SessionM β) :
    history? ((scheduledTick env d >>= f) t) =
      match scheduledFlow (env.day d).tick d t.pending.tables.world with
      | .error _ _ => none
      | .ok events w => history? (f ⟨d, events, .success⟩
          (addTick ⟨d, events, .success⟩ { t with pending := { t.pending with
            tables := { t.pending.tables with world := w } } })) := by
  cases run : scheduledFlow (env.day d).tick d t.pending.tables.world with
  | error e w =>
    have flowed : dayFlow env d t.pending.tables =
        .error (.flow e) { t.pending.tables with world := w } := by
      simp only [dayFlow, unfailing.flows, flow, zoom, raising, run]
    have raised : scheduledTick env d t = .error (.flow e) (addTick ⟨d, 0, .failed⟩ t.rollback) := by
      rw [scheduledTick, runScheduledTick_error _ flowed]
      dsimp only
      rw [attempt_eq unfailing]
      rfl
    exact history?_bind_of_error raised
  | ok events w =>
    have flowed : dayFlow env d t.pending.tables = .ok events { t.pending.tables with world := w } := by
      simp only [dayFlow, unfailing.flows, flow, zoom, raising, run]
    refine history?_bind_of_ok ?_
    rw [scheduledTick, runScheduledTick_ok _ flowed]

theorem history?_syncReportingLayer {lagDays : ℤ} (f : Unit → SessionM β) :
    history? ((execute (syncReportingLayer day lagDays d) >>= f) t) =
      let synced := syncedTables day lagDays d t.pending.tables.world
        t.pending.tables.reportingInventorySnapshot t.pending.tables.reportingSyncState
      history? (f () { t with pending := { t.pending with tables := { t.pending.tables with
        reportingInventorySnapshot := synced.reporting
        reportingSyncState := synced.syncState } } }) :=
  rfl

theorem history?_evaluateExceptions (f : Unit → SessionM β) :
    history? ((execute (evaluateExceptions day d) >>= f) t) =
      (syncAll (exceptionCalls day.engine t.pending.clock.simulationDate d (engineTables t.pending.tables))
        t.pending.tables.exceptionFlag).bind fun flags =>
          history? (f () { t with pending := { t.pending with
            tables := { t.pending.tables with exceptionFlag := flags } } }) := by
  cases synced : syncAll (exceptionCalls day.engine t.pending.clock.simulationDate d
      (engineTables t.pending.tables)) t.pending.tables.exceptionFlag with
  | none =>
    have raised : evaluateExceptions day d t.pending = .error (.integrityError "exception_flag") t.pending := by
      unfold evaluateExceptions
      refine (bind_of_ok rfl).trans ?_
      dsimp only
      rw [synced]
      rfl
    obtain ⟨_, raised⟩ := execute_of_error raised
    exact history?_bind_of_error raised
  | some flags =>
    refine history?_bind_of_ok (execute_of_ok ?_)
    unfold evaluateExceptions
    refine (bind_of_ok rfl).trans ?_
    dsimp only
    rw [synced]
    rfl

theorem history?_computeAndSnapshotKpis (f : Unit → SessionM β) :
    history? ((execute (computeAndSnapshotKpis day d) >>= f) t) =
      (Kpi.computeAndSnapshotKpis day.supplyRows t.pending.clock.simulationDate t.pending.tables.world d
        t.pending.tables.kpis).toOption.bind fun kpis =>
          history? (f () { t with pending := { t.pending with
            tables := { t.pending.tables with kpis := kpis } } }) := by
  cases computed : Kpi.computeAndSnapshotKpis day.supplyRows t.pending.clock.simulationDate
      t.pending.tables.world d t.pending.tables.kpis with
  | error e =>
    have raised : computeAndSnapshotKpis day d t.pending =
        .error (.kpiComputationOutOfOrder e) t.pending := by
      unfold computeAndSnapshotKpis
      refine (bind_of_ok rfl).trans ?_
      dsimp only
      rw [computed]
      rfl
    obtain ⟨_, raised⟩ := execute_of_error raised
    exact history?_bind_of_error raised
  | ok kpis =>
    refine history?_bind_of_ok (execute_of_ok ?_)
    unfold computeAndSnapshotKpis
    refine (bind_of_ok rfl).trans ?_
    dsimp only
    rw [computed]
    rfl

theorem generateDay_history (unfailing : Unfailing env) (d : Date) (t : Tx (Database Platform)) :
    history? (generateDay env d t) =
      dayHistory (env.day d) env.lagDays t.pending.tables.exceptionRuleThreshold
        t.pending.clock.simulationDate d (historyOf t.pending) := by
  simp only [generateDay, attempt_eq unfailing]
  rw [history?_scheduledTick unfailing, dayHistory, historyOf]
  dsimp only
  cases scheduledFlow (env.day d).tick d t.pending.tables.world with
  | error e w => rfl
  | ok events w =>
    dsimp only
    rw [history?_syncReportingLayer, history?_evaluateExceptions]
    refine Option.bind_congr fun flags _ => ?_
    rw [history?_computeAndSnapshotKpis]
    rfl

theorem generateDay_context {d : Date} {t t' : Tx (Database Platform)} (h : generateDay env d t = .ok () t') :
    t'.pending.clock = t.pending.clock ∧
      t'.pending.tables.exceptionRuleThreshold = t.pending.tables.exceptionRuleThreshold := by
  obtain ⟨_, _, _, _, _, _, same⟩ := (generateDay_ok h).tables
  rw [same]
  exact ⟨rfl, rfl⟩

theorem advanceClock_running {t : Tx (Database Platform)} {d : Date} (clock : t.pending.clock = ⟨d, .running⟩) :
    advanceClock t = .ok (d + 1) { t with pending := { t.pending with clock := ⟨d + 1, .running⟩ } } := by
  simp [advanceClock, advanceSimulation, advanceDate, clock, bind, Except.bind]

end Days

/-! ## Whole windows -/

/-- The days of a window, each under the date that `clock` gives for it. -/
def runHistory (env : RepopulateEnv) (thresholds : List ExceptionRuleThreshold) (clock : Date → Date)
    (days : List Date) (h : History) : Option History :=
  days.foldlM (fun h d => dayHistory (env.day d) env.lagDays thresholds (clock d) d h) h

def History.empty (m : Master) : History where
  scheduledTick := []
  world := World.empty m
  exceptionFlag := []
  kpis := ⟨[], []⟩
  reportingInventorySnapshot := []
  reportingSyncState := none

/-- The days of a window that pass, each with the tables at its end. -/
def dayWorlds (env : RepopulateEnv) : List Date → World → List (Date × World)
  | [], _ => []
  | d :: days, w =>
    match scheduledFlow (env.day d).tick d w with
    | .error _ _ => []
    | .ok _ w => (d, w) :: dayWorlds env days w

section Windows

variable {env : RepopulateEnv} {thresholds : List ExceptionRuleThreshold}

theorem rebuild_days (unfailing : Unfailing env) {today : Date} {days : List Date}
    {t : Tx (Database Platform)} (clock : t.pending.clock.simulationDate = today)
    (same : t.pending.tables.exceptionRuleThreshold = thresholds) :
    history? (days.foldlM (fun (_ : Unit) d => generateDay env d) () t) =
      runHistory env thresholds (fun _ => today) days (historyOf t.pending) := by
  induction days generalizing t with
  | nil => rfl
  | cons d days ih =>
    have day := generateDay_history unfailing d t
    rw [clock, same] at day
    rw [List.foldlM_cons, runHistory, List.foldlM_cons, ← day]
    cases run : generateDay env d t with
    | error e t' => exact history?_bind_of_error run
    | ok a t' =>
      obtain ⟨clock', same'⟩ := generateDay_context run
      rw [history?_bind_of_ok run]
      exact ih (clock' ▸ clock) (same' ▸ same)

theorem live_days (unfailing : Unfailing env) {start last : Date} {t : Tx (Database Platform)}
    (clock : t.pending.clock = ⟨start - 1, .running⟩)
    (same : t.pending.tables.exceptionRuleThreshold = thresholds) :
    history? ((daysThrough start last).foldlM (fun (_ : Unit) _ => liveDay env) () t) =
      runHistory env thresholds id (daysThrough start last) (historyOf t.pending) := by
  generalize hn : (last + 1 - start).toNat = n
  induction n generalizing start t with
  | zero =>
    rw [daysThrough_nil (by unfold Date at *; omega)]
    rfl
  | succ n ih =>
    have advanced := advanceClock_running clock
    rw [sub_add_cancel] at advanced
    have lived : liveDay env t =
        generateDay env start { t with pending := { t.pending with clock := ⟨start, .running⟩ } } :=
      bind_of_ok advanced
    have day : history? (liveDay env t) =
        dayHistory (env.day start) env.lagDays thresholds start start (historyOf t.pending) := by
      rw [lived, generateDay_history unfailing, ← same]
      rfl
    rw [daysThrough_cons (by unfold Date at *; omega), List.foldlM_cons, runHistory, List.foldlM_cons, id,
      ← day]
    cases run : liveDay env t with
    | error e t' => exact history?_bind_of_error run
    | ok a t' =>
      rw [history?_bind_of_ok run]
      rw [lived] at run
      obtain ⟨clock', same'⟩ := generateDay_context run
      refine ih ?_ (same'.trans same) (by unfold Date at *; omega)
      rw [clock', add_sub_cancel_right]

/-! The worlds of a window do not depend on the clock. -/

theorem dayHistory_ok {day : DayEnv} {lagDays : ℤ} {clock d : Date} {h h' : History}
    (ran : dayHistory day lagDays thresholds clock d h = some h') :
    ∃ events, scheduledFlow day.tick d h.world = .ok events h'.world ∧
      h'.kpis = upsertKpis (day.supplyRows.rows (daysOfSupply clock h'.world)) h'.world d h.kpis := by
  unfold dayHistory at ran
  cases run : scheduledFlow day.tick d h.world with
  | error e w =>
    rw [run] at ran
    cases ran
  | ok events w =>
    rw [run] at ran
    obtain ⟨flags, -, ran⟩ := Option.bind_eq_some_iff.1 ran
    obtain ⟨kpis, computed, ran⟩ := Option.bind_eq_some_iff.1 ran
    cases ran
    refine ⟨events, rfl, Kpi.computeAndSnapshotKpis_ok ?_⟩
    cases result : Kpi.computeAndSnapshotKpis day.supplyRows clock w d h.kpis with
    | error e =>
      rw [result] at computed
      cases computed
    | ok kpis' =>
      rw [result] at computed
      cases computed
      rfl

theorem dayHistory_congr {day : DayEnv} {lagDays : ℤ} {clock clock' d : Date} {h : History}
    (same : ∀ events w, scheduledFlow day.tick d h.world = .ok events w →
      daysOfSupply clock w = daysOfSupply clock' w) :
    dayHistory day lagDays thresholds clock d h = dayHistory day lagDays thresholds clock' d h := by
  unfold dayHistory
  cases run : scheduledFlow day.tick d h.world with
  | error e w => rfl
  | ok events w =>
    have supply := same events w run
    dsimp only
    rw [computeAndSnapshotKpis_congr supply, exceptionCalls_congr supply]

theorem runHistory_cons {clock : Date → Date} {d : Date} {days : List Date} {h : History} :
    runHistory env thresholds clock (d :: days) h =
      (dayHistory (env.day d) env.lagDays thresholds (clock d) d h).bind (runHistory env thresholds clock days) := by
  rw [runHistory, List.foldlM_cons]
  rfl

/-- The clock is immaterial while it does not move the days of supply. -/
theorem runHistory_congr {clock clock' : Date → Date} {days : List Date} {h : History}
    (same : ∀ p ∈ dayWorlds env days h.world,
      daysOfSupply (clock p.1) p.2 = daysOfSupply (clock' p.1) p.2) :
    runHistory env thresholds clock days h = runHistory env thresholds clock' days h := by
  induction days generalizing h with
  | nil => rw [runHistory, runHistory, List.foldlM_nil, List.foldlM_nil]
  | cons d days ih =>
    have today : dayHistory (env.day d) env.lagDays thresholds (clock d) d h =
        dayHistory (env.day d) env.lagDays thresholds (clock' d) d h := by
      refine dayHistory_congr fun events w run => same (d, w) ?_
      rw [dayWorlds, run]
      exact List.mem_cons_self
    rw [runHistory_cons, runHistory_cons, today]
    refine Option.bind_congr fun h' ran => ih fun p mem => same p ?_
    obtain ⟨events, run, -⟩ := dayHistory_ok ran
    rw [dayWorlds, run]
    exact List.mem_cons_of_mem _ mem

theorem supplySnapshots_keyed {order : RowOrder DaysOfSupplyRow} {clock d : Date} {w : World}
    (keyed : Keyed InventorySnapshot.grain w.inventorySnapshot) :
    Keyed DaysOfSupplySnapshot.grain
      ((order.rows (daysOfSupply clock w)).map (daysOfSupplySnapshotOf d)) := by
  have pairs := (latestSnapshots_keyed keyed).map (f := fun p => (d, p)) (fun _ _ same => (Prod.mk.inj same).2)
  refine (((order.perm _).map (daysOfSupplySnapshotOf d)).map DaysOfSupplySnapshot.grain).nodup_iff.2 ?_
  rw [daysOfSupply, List.map_map, List.map_map]
  rw [List.map_map] at pairs
  exact pairs

/-- The days of supply of each day are in the table of the last day. -/
theorem runHistory_supply {clock : Date → Date} {days : List Date} {h h' : History} (nodup : days.Nodup)
    (wf : Wf h.world) (grains : Keyed InventorySnapshot.grain h.world.inventorySnapshot)
    (keyed : Keyed DaysOfSupplySnapshot.grain h.kpis.daysOfSupplySnapshot)
    (ran : runHistory env thresholds clock days h = some h') :
    Keyed DaysOfSupplySnapshot.grain h'.kpis.daysOfSupplySnapshot ∧
    (∀ s ∈ h.kpis.daysOfSupplySnapshot, s.simulationDate ∉ days → s ∈ h'.kpis.daysOfSupplySnapshot) ∧
    ∀ p ∈ dayWorlds env days h.world, ∀ r ∈ daysOfSupply (clock p.1) p.2,
      daysOfSupplySnapshotOf p.1 r ∈ h'.kpis.daysOfSupplySnapshot := by
  induction days generalizing h with
  | nil =>
    cases ran
    exact ⟨keyed, fun s mem _ => mem, fun p mem => absurd mem List.not_mem_nil⟩
  | cons d days ih =>
    rw [runHistory, List.foldlM_cons] at ran
    obtain ⟨h₁, first, rest⟩ := Option.bind_eq_some_iff.1 ran
    obtain ⟨fresh, nodup⟩ := List.nodup_cons.1 nodup
    obtain ⟨events, run, kpis⟩ := dayHistory_ok first
    have steps := scheduledFlow_steps (env.day d).tick d wf
    rw [run] at steps
    have grains₁ := (scheduledFlow_snapshots wf grains run).1.keyed
    have supply : h₁.kpis.daysOfSupplySnapshot = upsertAll DaysOfSupplySnapshot.grain
        (((env.day d).supplyRows.rows (daysOfSupply (clock d) h₁.world)).map (daysOfSupplySnapshotOf d))
        h.kpis.daysOfSupplySnapshot := by
      rw [kpis]
      rfl
    obtain ⟨final, persist, later⟩ := ih nodup (steps.wf wf) grains₁ (supply ▸ keyed.upsertAll) rest
    refine ⟨final, fun s mem other => ?_, fun p mem r row => ?_⟩
    · rw [List.mem_cons, not_or] at other
      refine persist s ?_ other.2
      rw [supply]
      refine mem_upsertAll_of_other mem fun taken => other.1 ?_
      rw [List.map_map, List.mem_map] at taken
      obtain ⟨r, -, same⟩ := taken
      exact (Prod.mk.inj same).1.symm
    · rw [dayWorlds, run] at mem
      rcases List.mem_cons.1 mem with rfl | mem
      · refine persist _ ?_ fresh
        rw [supply]
        refine (mem_upsertAll (supplySnapshots_keyed grains₁)).2 (.inl ?_)
        exact List.mem_map_of_mem (((env.day d).supplyRows.perm _).mem_iff.2 row)
      · exact later p mem r row

/-! In a window of 31 days, the 30 days before each of them reach back to the beginning. -/

/-- Every movement is of one of the days from `start` through `last`. -/
def BookedWithin (start last : Date) (w : World) : Prop :=
  ∀ t ∈ w.inventoryTransaction, simDatetime start ≤ t.transactionAt ∧ t.transactionAt ≤ simDatetime last

theorem bookedWithin_flow {tick : TickEnv} {start d : Date} {w w' : World} {events : ℕ} (le : start ≤ d)
    (wf : Wf w) (h : BookedWithin start (d - 1) w) (run : scheduledFlow tick d w = .ok events w') :
    BookedWithin start d w' := by
  have steps := scheduledFlow_steps tick d wf
  rw [run] at steps
  have before : d - 1 ≤ d := by
    unfold Date at *
    omega
  refine FlowSteps.invariant (I := BookedWithin start d) (fun _ _ step _ hI => ?_) wf ?_ steps
  · obtain ⟨rows, appended, today⟩ := step.ledger_appends
    intro t mem
    rw [appended] at mem
    rcases List.mem_append.1 mem with old | new
    · exact hI t old
    · rw [today t new]
      exact ⟨simDatetime_mono le, le_rfl⟩
  · exact fun t mem => ⟨(h t mem).1, (h t mem).2.trans (simDatetime_mono before)⟩

theorem dayWorlds_bookedWithin {start first last : Date} {w : World} (le : start ≤ first) (wf : Wf w)
    (h : BookedWithin start (first - 1) w) :
    ∀ p ∈ dayWorlds env (daysThrough first last) w, (first ≤ p.1 ∧ p.1 ≤ last) ∧ BookedWithin start p.1 p.2 := by
  generalize hn : (last + 1 - first).toNat = n
  induction n generalizing first w with
  | zero =>
    rw [daysThrough_nil (by unfold Date at *; omega)]
    exact fun p mem => absurd mem List.not_mem_nil
  | succ n ih =>
    intro p mem
    have within : first ≤ last := by
      unfold Date at *
      omega
    rw [daysThrough_cons within, dayWorlds] at mem
    cases run : scheduledFlow (env.day first).tick first w with
    | error e w' =>
      rw [run] at mem
      exact absurd mem List.not_mem_nil
    | ok events w' =>
      rw [run] at mem
      have booked := bookedWithin_flow le wf h run
      rcases List.mem_cons.1 mem with rfl | later
      · exact ⟨⟨le_rfl, within⟩, booked⟩
      · have steps := scheduledFlow_steps (env.day first).tick first wf
        rw [run] at steps
        have previous : first + 1 - 1 = first := add_sub_cancel_right first 1
        have step : start ≤ first + 1 := by
          unfold Date at *
          omega
        obtain ⟨⟨ge, le'⟩, booked'⟩ := ih step (steps.wf wf) (previous.symm ▸ booked)
          (by unfold Date at *; omega) p later
        refine ⟨⟨?_, le'⟩, booked'⟩
        unfold Date at *
        omega

theorem inUsageWindow_of_within {clock start d : Date} {t : InventoryTransaction} (first : clock - 30 ≤ start)
    (last : d ≤ clock) (within : simDatetime start ≤ t.transactionAt ∧ t.transactionAt ≤ simDatetime d) :
    inUsageWindow clock t = true := by
  have begun : simDatetime (clock - 30) ≤ t.transactionAt := (simDatetime_mono first).trans within.1
  have ended : t.transactionAt < simDatetime (clock + 1) := by
    refine (within.2.trans (simDatetime_mono last)).trans_lt ?_
    unfold simDatetime Instant Date at *
    omega
  rw [inUsageWindow, decide_eq_true begun, decide_eq_true ended]
  rfl

/-- On each day of the window the days of supply are the same whether the clock shows the day or today. -/
def SupplyUnmoved (env : RepopulateEnv) (today : Date) (historyDays : ℤ) (m : Master) : Prop :=
  ∀ p ∈ dayWorlds env (window today historyDays) (World.empty m),
    daysOfSupply today p.2 = daysOfSupply p.1 p.2

theorem supplyUnmoved_of_short {today : Date} {historyDays : ℤ} (m : Master) (short : historyDays ≤ 31) :
    SupplyUnmoved env today historyDays m := by
  intro p mem
  rw [window_eq] at mem
  obtain ⟨⟨first, last⟩, booked⟩ := dayWorlds_bookedWithin le_rfl (emptyWorld m).wf
    (fun t mem => absurd mem List.not_mem_nil) p mem
  refine daysOfSupply_congr fun t row => ?_
  have reach : today - 30 ≤ startDate today historyDays := by
    unfold startDate Date at *
    omega
  have reach' : p.1 - 30 ≤ startDate today historyDays := by
    unfold startDate Date at *
    omega
  rw [inUsageWindow_of_within reach last (booked t row), inUsageWindow_of_within reach' le_rfl (booked t row)]

/-! ## The shipments that a rebuild does not see -/

/-- A shipment takes stock away. -/
def ShipmentsTake (ledger : List InventoryTransaction) : Prop :=
  ∀ t ∈ ledger, t.transactionType = .shipment → t.quantityDelta < 0

theorem shipLines_take (d : Date) (so : SalesOrder) (lines : List SalesOrderLine)
    {ledger : List InventoryTransaction} (h : ShipmentsTake ledger) :
    ShipmentsTake (shipLines d so lines ledger).2.1 := by
  induction lines generalizing ledger with
  | nil => exact h
  | cons l lines ih =>
    rcases shipLines_cons d so l lines ledger with ⟨-, eq⟩ | ⟨remains, -, eq⟩
    · rw [eq]
      exact ih h
    · rw [eq]
      refine ih fun t mem type => ?_
      rcases List.mem_append.1 mem with old | new
      · exact h t old type
      · rw [List.mem_singleton.1 new]
        exact neg_lt_zero.2 remains

theorem flowStep_shipmentsTake {A : World → SalesOrder → Prop} {d : Date} {w w' : World}
    (step : FlowStep A d w w') (h : ShipmentsTake w.inventoryTransaction) :
    ShipmentsTake w'.inventoryTransaction := by
  cases step with
  | ship so lines => exact shipLines_take d so lines h
  | receive po lines fraction =>
    intro t mem type
    rcases List.mem_append.1 mem with old | new
    · exact h t old type
    · obtain ⟨l, -, receipt⟩ := List.mem_filterMap.1 new
      obtain ⟨-, rfl⟩ := receiptOf_eq_some receipt
      cases type
  | arrive t | transfer t =>
    intro t' mem type
    rcases List.mem_append.1 mem with old | new
    · exact h t' old type
    · rw [List.mem_singleton.1 new] at type
      cases type
  | _ => exact h

/-- Tables that days have filled. -/
structure Grown (m : Master) (w : World) : Prop where
  wf : Wf w
  master : w.master = m
  keyed : Keyed InventorySnapshot.grain w.inventorySnapshot
  active : ∀ d p wh, (d, p, wh) ∈ w.inventorySnapshot.map InventorySnapshot.grain → ActivePair m p wh
  take : ShipmentsTake w.inventoryTransaction

theorem grown_empty (m : Master) : Grown m (World.empty m) where
  wf := (emptyWorld m).wf
  master := rfl
  keyed := List.nodup_nil
  active := fun _ _ _ mem => absurd mem List.not_mem_nil
  take := fun _ mem => absurd mem List.not_mem_nil

/-- A day that passes: its movements bear its date, and each active pair has a snapshot of it. -/
theorem Grown.day {m : Master} {tick : TickEnv} {d : Date} {w w' : World} {events : ℕ} (h : Grown m w)
    (run : scheduledFlow tick d w = .ok events w') :
    Grown m w' ∧ (∀ p wh, ActivePair m p wh → (d, p, wh) ∈ w'.inventorySnapshot.map InventorySnapshot.grain) ∧
      ∃ rows, w'.inventoryTransaction = w.inventoryTransaction ++ rows ∧
        ∀ t ∈ rows, t.transactionAt = simDatetime d := by
  have steps := scheduledFlow_steps tick d h.wf
  obtain ⟨added, every⟩ := scheduledFlow_snapshots h.wf h.keyed run
  rw [run] at steps
  rw [h.master] at every
  refine ⟨⟨steps.wf h.wf, added.master.trans h.master, added.keyed, fun d' p wh mem => ?_, ?_⟩, every, ?_⟩
  · rcases added.new d' p wh mem with old | ⟨-, active⟩
    · exact h.active d' p wh old
    · exact h.master ▸ active
  · exact FlowSteps.invariant (I := fun w => ShipmentsTake w.inventoryTransaction)
      (fun _ _ step _ take => flowStep_shipmentsTake step take) h.wf h.take steps
  · refine FlowSteps.invariant (I := fun w' => ∃ rows, w'.inventoryTransaction = w.inventoryTransaction ++ rows ∧
      ∀ t ∈ rows, t.transactionAt = simDatetime d) (fun _ _ step _ ⟨rows, eq, today⟩ => ?_) h.wf
      ⟨[], (List.append_nil _).symm, fun _ mem => absurd mem List.not_mem_nil⟩ steps
    obtain ⟨rows', eq', today'⟩ := step.ledger_appends
    refine ⟨rows ++ rows', by rw [eq', eq, List.append_assoc], fun t mem => ?_⟩
    exact (List.mem_append.1 mem).elim (today t) (today' t)

/-- The tables of one day of a window, beside those that the window leaves. -/
structure DayTables (m : Master) (last : World) (p : Date × World) : Prop where
  grown : Grown m p.2
  every : ∀ product wh, ActivePair m product wh →
    (p.1, product, wh) ∈ p.2.inventorySnapshot.map InventorySnapshot.grain
  stays : p.2.inventoryTransaction ⊆ last.inventoryTransaction

theorem runHistory_days {m : Master} {clock : Date → Date} {days : List Date} {h h' : History}
    (grown : Grown m h.world) (ran : runHistory env thresholds clock days h = some h') :
    h.world.inventoryTransaction ⊆ h'.world.inventoryTransaction ∧
    (∀ p ∈ dayWorlds env days h.world, DayTables m h'.world p) ∧
    ∀ t ∈ h'.world.inventoryTransaction, t ∈ h.world.inventoryTransaction ∨
      ∃ p ∈ dayWorlds env days h.world, t ∈ p.2.inventoryTransaction ∧ t.transactionAt = simDatetime p.1 := by
  induction days generalizing h with
  | nil =>
    cases ran
    exact ⟨List.Subset.refl _, fun p mem => absurd mem List.not_mem_nil, fun t mem => .inl mem⟩
  | cons d days ih =>
    rw [runHistory, List.foldlM_cons] at ran
    obtain ⟨h₁, first, rest⟩ := Option.bind_eq_some_iff.1 ran
    obtain ⟨events, run, -⟩ := dayHistory_ok first
    obtain ⟨grown₁, every, rows, booked, today⟩ := grown.day run
    obtain ⟨stays, later, origin⟩ := ih grown₁ rest
    rw [dayWorlds, run]
    refine ⟨fun t mem => stays (booked ▸ List.mem_append_left _ mem), fun p mem => ?_, fun t mem => ?_⟩
    · rcases List.mem_cons.1 mem with rfl | mem
      · exact ⟨grown₁, every, stays⟩
      · exact later p mem
    · rcases origin t mem with here | ⟨p, mem', held⟩
      · rcases List.mem_append.1 (booked ▸ here) with old | new
        · exact .inl old
        · exact .inr ⟨_, List.mem_cons_self, here, today t new⟩
      · exact .inr ⟨p, List.mem_cons_of_mem _ mem', held⟩

theorem runHistory_master {m : Master} {clock : Date → Date} {days : List Date} {h h' : History}
    (grown : Grown m h.world) (ran : runHistory env thresholds clock days h = some h') : h'.world.master = m := by
  induction days generalizing h with
  | nil =>
    cases ran
    exact grown.master
  | cons d days ih =>
    rw [runHistory, List.foldlM_cons] at ran
    obtain ⟨h₁, first, rest⟩ := Option.bind_eq_some_iff.1 ran
    obtain ⟨events, run, -⟩ := dayHistory_ok first
    exact ih (grown.day run).1 rest

/-- An active pair has shipped more than thirty days before today. -/
def ShippedBefore (today : Date) (w : World) : Prop :=
  ∃ t ∈ w.inventoryTransaction, t.transactionType = .shipment ∧ ActivePair w.master t.productId t.warehouseId ∧
    t.transactionAt < simDatetime (today - 30)

/-- On the day of such a shipment the usage of its pair is positive, and the clock of a rebuild hides it. -/
theorem not_shippedBefore_of_unmoved {today : Date} {historyDays : ℤ} {m : Master} {clock : Date → Date} {h : History}
    (ran : runHistory env thresholds clock (window today historyDays) (History.empty m) = some h)
    (unmoved : SupplyUnmoved env today historyDays m) : ¬ ShippedBefore today h.world := by
  rintro ⟨t, mem, type, active, before⟩
  obtain ⟨-, days, origin⟩ := runHistory_days (grown_empty m) ran
  obtain ⟨p, day, here, today_t⟩ := (origin t mem).resolve_left List.not_mem_nil
  have tables := days p day
  have master : h.world.master = m := runHistory_master (grown_empty m) ran
  rw [master] at active
  obtain ⟨s, memS, grain⟩ := List.mem_map.1 (tables.every _ _ active)
  obtain ⟨latest, memLatest, product, warehouse⟩ := exists_latest memS
  simp only [InventorySnapshot.grain, Prod.mk.injEq] at grain
  rw [grain.2.1] at product
  rw [grain.2.2] at warehouse
  have rows := List.map_inj_left.1 (unmoved p day) latest memLatest
  have window : ∀ p' ∈ dayWorlds env (window today historyDays) (World.empty m),
      BookedWithin (startDate today historyDays) p'.1 p'.2 := by
    intro p' mem'
    rw [window_eq] at mem'
    exact (dayWorlds_bookedWithin le_rfl (emptyWorld m).wf (fun t mem => absurd mem List.not_mem_nil) p' mem').2
  have booked := window p day
  -- The shipment is in the window of its own day.
  have own : t ∈ shippedInWindow p.1 p.2 t.productId t.warehouseId := by
    refine List.mem_filter.2 ⟨here, ?_⟩
    have within : inUsageWindow p.1 t = true :=
      inUsageWindow_of_within (le_refl (p.1 - 30)) le_rfl
        ⟨(simDatetime_mono (by unfold Date at *; omega)).trans today_t.ge, today_t.le⟩
    simp [type, within]
  -- No movement of that day is in the window of today.
  have hidden : shippedInWindow today p.2 t.productId t.warehouseId = [] := by
    refine List.filter_eq_nil_iff.2 fun t' mem' => ?_
    have early : t'.transactionAt < simDatetime (today - 30) := ((booked t' mem').2.trans today_t.ge).trans_lt before
    simp [inUsageWindow, not_le.2 early]
  have supplied : (daysOfSupplyRow p.1 p.2 latest).daysOfSupply ≠ none := by
    rw [← product, ← warehouse] at own
    exact daysOfSupplyRow_ne_none own fun t' mem' => by
      obtain ⟨ledger, kind⟩ := List.mem_filter.1 mem'
      refine tables.grown.take t' ledger ?_
      simp only [Bool.and_eq_true, decide_eq_true_eq] at kind
      exact kind.1.1.1
  refine supplied ?_
  rw [← rows, daysOfSupplyRow, avgDailyQty, product, warehouse, hidden]
  rfl

theorem unmoved_of_not_shippedBefore {today : Date} {historyDays : ℤ} {m : Master} {clock : Date → Date} {h : History}
    (ran : runHistory env thresholds clock (window today historyDays) (History.empty m) = some h)
    (recent : ¬ ShippedBefore today h.world) : SupplyUnmoved env today historyDays m := by
  intro p day
  obtain ⟨-, days, -⟩ := runHistory_days (grown_empty m) ran
  have tables := days p day
  rw [window_eq] at day
  obtain ⟨⟨-, last⟩, booked⟩ := dayWorlds_bookedWithin le_rfl (emptyWorld m).wf
    (fun t mem => absurd mem List.not_mem_nil) p day
  refine List.map_congr_left fun s latest => daysOfSupplyRow_congr fun t mem type product warehouse => ?_
  have active : ActivePair h.world.master t.productId t.warehouseId := by
    rw [runHistory_master (grown_empty m) ran, product, warehouse]
    exact tables.grown.active s.snapshotDate _ _ (List.mem_map_of_mem (List.mem_filter.1 latest).1)
  have since : simDatetime (today - 30) ≤ t.transactionAt :=
    not_lt.1 fun before => recent ⟨t, tables.stays mem, type, active, before⟩
  have reach : p.1 - 30 ≤ today - 30 := by
    unfold Date at *
    omega
  rw [inUsageWindow_of_within le_rfl last ⟨since, (booked t mem).2⟩,
    inUsageWindow_of_within reach le_rfl ⟨since, (booked t mem).2⟩]

/-! ## The comparison -/

variable {today : Date} {historyDays : ℤ} {db : Database Platform}

theorem rebuiltHistory_eq (unfailing : Unfailing env) (some_day : 1 ≤ historyDays)
    (prepared : ∃ count t, prepareWorld env today (Tx.start db) = .ok count t) :
    rebuiltHistory env today historyDays db =
      runHistory env db.tables.exceptionRuleThreshold (fun _ => today) (window today historyDays)
        (History.empty db.tables.world.master) := by
  obtain ⟨count, t, prepare⟩ := prepared
  obtain ⟨-, worldState, scenario, -, pending⟩ := prepareWorld_ok prepare
  have empty : historyOf t.pending = History.empty db.tables.world.master := by
    rw [pending]
    rfl
  rw [rebuiltHistory, repopulateWorld, if_neg (by omega), history?_bind_of_ok prepare, history?_bind_pure,
    ← empty]
  refine rebuild_days unfailing ?_ ?_ <;> rw [pending] <;> rfl

theorem livedHistory_eq (unfailing : Unfailing env) :
    livedHistory env today historyDays db =
      runHistory env db.tables.exceptionRuleThreshold id (window today historyDays)
        (History.empty db.tables.world.master) := by
  have empty : historyOf (livedStart db (startDate today historyDays)) =
      History.empty db.tables.world.master := by
    rw [livedStart, cleared_eq]
    rfl
  rw [livedHistory, window_eq, ← empty]
  refine live_days unfailing ?_ ?_
  · rfl
  · rw [livedStart, cleared_eq]
    rfl

theorem rebuilt_eq_lived_of_unmoved (unfailing : Unfailing env) (some_day : 1 ≤ historyDays)
    (prepared : ∃ count t, prepareWorld env today (Tx.start db) = .ok count t)
    (unmoved : SupplyUnmoved env today historyDays db.tables.world.master) :
    rebuiltHistory env today historyDays db = livedHistory env today historyDays db := by
  rw [rebuiltHistory_eq unfailing some_day prepared, livedHistory_eq unfailing]
  exact runHistory_congr unmoved

theorem window_nodup (today : Date) (historyDays : ℤ) : (window today historyDays).Nodup := by
  rw [window]
  refine List.nodup_range.map fun i j eq => ?_
  unfold Date at *
  omega

/-- A lived history keeps what the query gave on each day. -/
theorem lived_supply (unfailing : Unfailing env) {h : History} (lived : livedHistory env today historyDays db = some h) :
    Keyed DaysOfSupplySnapshot.grain h.kpis.daysOfSupplySnapshot ∧
    ∀ p ∈ dayWorlds env (window today historyDays) (World.empty db.tables.world.master), ∀ r ∈ daysOfSupply p.1 p.2,
      daysOfSupplySnapshotOf p.1 r ∈ h.kpis.daysOfSupplySnapshot := by
  rw [livedHistory_eq unfailing] at lived
  obtain ⟨keyed, -, rows⟩ := runHistory_supply (h := History.empty db.tables.world.master)
    (window_nodup today historyDays) (emptyWorld db.tables.world.master).wf List.nodup_nil List.nodup_nil lived
  exact ⟨keyed, rows⟩

/-- A rebuild keeps what the query gives on each day under the clock of today. -/
theorem rebuilt_supply (unfailing : Unfailing env) (some_day : 1 ≤ historyDays)
    (prepared : ∃ count t, prepareWorld env today (Tx.start db) = .ok count t) {h : History}
    (rebuilt : rebuiltHistory env today historyDays db = some h) :
    ∀ p ∈ dayWorlds env (window today historyDays) (World.empty db.tables.world.master), ∀ r ∈ daysOfSupply today p.2,
      daysOfSupplySnapshotOf p.1 r ∈ h.kpis.daysOfSupplySnapshot := by
  rw [rebuiltHistory_eq unfailing some_day prepared] at rebuilt
  exact (runHistory_supply (h := History.empty db.tables.world.master) (window_nodup today historyDays)
    (emptyWorld db.tables.world.master).wf List.nodup_nil List.nodup_nil rebuilt).2.2

/-- The snapshots of each day keep what the query gave on that day under either clock. -/
theorem supplyUnmoved_of_sameRows (unfailing : Unfailing env) (some_day : 1 ≤ historyDays)
    (prepared : ∃ count t, prepareWorld env today (Tx.start db) = .ok count t) {h h' : History}
    (lived : livedHistory env today historyDays db = some h)
    (rebuilt : rebuiltHistory env today historyDays db = some h') (same : h'.SameRows h) :
    SupplyUnmoved env today historyDays db.tables.world.master := by
  obtain ⟨keyed, rows⟩ := lived_supply unfailing lived
  have rows' := rebuilt_supply unfailing some_day prepared rebuilt
  intro p mem
  refine List.map_congr_left fun s latest => ?_
  have row := rows p mem (daysOfSupplyRow p.1 p.2 s) (List.mem_map_of_mem latest)
  have row' := rows' p mem (daysOfSupplyRow today p.2 s) (List.mem_map_of_mem latest)
  refine daysOfSupplySnapshotOf_injective p.1 ?_
  exact List.inj_on_of_nodup_map keyed (same.daysOfSupplySnapshot.mem_iff.1 row') row rfl

/-- A rebuild leaves the rows of the history that was lived exactly when no active pair has shipped more than thirty
days before today, and then it leaves the same tables; in a window of up to 31 days there is no such shipment. -/
theorem rebuilt_as_lived (unfailing : Unfailing env) (some_day : 1 ≤ historyDays)
    (prepared : ∃ count t, prepareWorld env today (Tx.start db) = .ok count t) :
    (∀ h, livedHistory env today historyDays db = some h →
      ((∃ h', rebuiltHistory env today historyDays db = some h' ∧ h'.SameRows h) ↔ ¬ ShippedBefore today h.world) ∧
      (¬ ShippedBefore today h.world → rebuiltHistory env today historyDays db = some h)) ∧
    (historyDays ≤ 31 → rebuiltHistory env today historyDays db = livedHistory env today historyDays db) := by
  refine ⟨fun h lived => ?_, fun short =>
    rebuilt_eq_lived_of_unmoved unfailing some_day prepared (supplyUnmoved_of_short _ short)⟩
  have ran := lived
  rw [livedHistory_eq unfailing] at ran
  have equal : ¬ ShippedBefore today h.world → rebuiltHistory env today historyDays db = some h := by
    intro recent
    rw [rebuilt_eq_lived_of_unmoved unfailing some_day prepared (unmoved_of_not_shippedBefore ran recent), lived]
  refine ⟨⟨?_, fun recent => ⟨h, equal recent, History.SameRows.refl h⟩⟩, equal⟩
  rintro ⟨h', rebuilt, same⟩
  exact not_shippedBefore_of_unmoved ran
    (supplyUnmoved_of_sameRows unfailing some_day prepared lived rebuilt same)

end Windows

theorem unfailing_plainRebuild (tick : Date → TickEnv) : Unfailing (plainRebuild tick) :=
  ⟨fun _ => rfl, fun _ => rfl⟩

/-- Two days are rebuilt as they were lived. -/
theorem rebuilt_as_lived_twoDays :
    let db := pausedWorld (boxesFor []) []
    let env := plainRebuild fun _ => TickEnv.inOrder fun _ _ => Rng.least
    (livedHistory env (monday + 1) 2 db).isSome = true ∧ rebuiltHistory env (monday + 1) 2 db = livedHistory env (monday + 1) 2 db := by
  intro db env
  have prepared : ∃ count t, prepareWorld env (monday + 1) (Tx.start db) = .ok count t :=
    ok_of_history? (by decide +kernel)
  exact ⟨by decide +kernel,
    (@rebuilt_as_lived env (monday + 1) 2 db (unfailing_plainRebuild _) (by decide) prepared).2 (by decide)⟩

/-- An order on Monday, and a new purchase order every time there is none. -/
def restocked (d : Date) : TickEnv :=
  { orderOnMonday with
    purchaseOrderId := fun _ _ => d.toNat
    purchaseOrderHex := fun _ _ => toString d.toNat }

/-- The order ships on Thursday. In a history of 35 days that is lived, the stock of Sunday lasts 64.5 days; a
rebuild looks at the 30 days before its last, and finds no usage. -/
theorem usage_out_of_window :
    let db := pausedWorld boxesCarried.tables.master []
    let env := plainRebuild restocked
    ∃ h h', livedHistory env (monday + 34) 35 db = some h ∧ rebuiltHistory env (monday + 34) 35 db = some h' ∧
      ⟨monday + 6, "boxes", "main", some (129 / 2)⟩ ∈ h.kpis.daysOfSupplySnapshot ∧
      ⟨monday + 6, "boxes", "main", none⟩ ∈ h'.kpis.daysOfSupplySnapshot ∧ ¬ h'.SameRows h := by
  intro db env
  have lived : (livedHistory env (monday + 34) 35 db).any (fun h => decide
      (⟨monday + 6, "boxes", "main", some (129 / 2)⟩ ∈ h.kpis.daysOfSupplySnapshot)) = true := by decide +kernel
  have rebuilt : (rebuiltHistory env (monday + 34) 35 db).any (fun h' => decide
      (⟨monday + 6, "boxes", "main", none⟩ ∈ h'.kpis.daysOfSupplySnapshot ∧
        ⟨monday + 6, "boxes", "main", some (129 / 2)⟩ ∉ h'.kpis.daysOfSupplySnapshot)) = true := by decide +kernel
  obtain ⟨h, livedAs, row⟩ := (Option.any_eq_true _ _).1 lived
  obtain ⟨h', rebuiltAs, rows⟩ := (Option.any_eq_true _ _).1 rebuilt
  obtain ⟨none, lost⟩ := of_decide_eq_true rows
  refine ⟨h, h', livedAs, rebuiltAs, of_decide_eq_true row, none, fun same => lost ?_⟩
  exact same.daysOfSupplySnapshot.mem_iff.2 (of_decide_eq_true row)

end MeadowOps.Simulation
