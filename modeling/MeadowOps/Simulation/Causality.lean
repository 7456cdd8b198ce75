import MeadowOps.Flow.Dated
import MeadowOps.Simulation.OfficeWorlds

/-!
# Nothing is dated after the clock

As long as the clock is only set back by a rebuild, which empties the tables, no row of the simulated world
lies in its future. A failed tick logs the day it did not reach.
-/

namespace MeadowOps.Simulation

open Db Lib MeadowOps.Flow Scheduler Kpi Reporting Exceptions

/-- Nothing in the tables of the simulated world happened after `last`. -/
structure PlatformDated (last : Date) (p : Platform) : Prop where
  world : DatedBy last p.world
  flags : ∀ f ∈ p.exceptionFlag, f.firstDetectedSimulationDate ≤ last ∧ f.simulationDate ≤ last
  kpis : ∀ k ∈ p.kpis.kpiSnapshot, k.simulationDate ≤ last
  supply : ∀ s ∈ p.kpis.daysOfSupplySnapshot, s.simulationDate ≤ last
  reporting : ∀ r ∈ p.reportingInventorySnapshot, r.snapshotDate ≤ last

/-- Nothing is dated after the clock but the day that a failed tick did not reach. -/
structure Causal (db : Database Office) : Prop where
  tables : PlatformDated db.clock.simulationDate db.tables.platform
  ticks : ∀ t ∈ db.scheduledTick, t.simulationDate ≤ db.clock.simulationDate ∨
    t.simulationDate = db.clock.simulationDate + 1 ∧ t.status = .failed

theorem PlatformDated.mono {last last' : Date} {p : Platform} (h : PlatformDated last p) (le : last ≤ last') :
    PlatformDated last' p where
  world := h.world.mono le
  flags f mem := ⟨(h.flags f mem).1.trans le, (h.flags f mem).2.trans le⟩
  kpis k mem := (h.kpis k mem).trans le
  supply s mem := (h.supply s mem).trans le
  reporting r mem := (h.reporting r mem).trans le

theorem PlatformDated.empty {last : Date} {p : Platform} {m : Master} (world : p.world = World.empty m)
    (flags : p.exceptionFlag = []) (kpis : p.kpis = ⟨[], []⟩) (reporting : p.reportingInventorySnapshot = []) :
    PlatformDated last p := by
  constructor
  case world => exact world ▸ DatedBy.empty last m
  case flags => exact flags ▸ fun _ mem => nomatch mem
  case kpis => exact kpis ▸ fun _ mem => nomatch mem
  case supply => exact kpis ▸ fun _ mem => nomatch mem
  case reporting => exact reporting ▸ fun _ mem => nomatch mem

/-! ## The flags -/

section Flags

variable {flags flags' : List ExceptionFlag} {last d : Date}

theorem syncFlags_dated {c : SyncCall} {opened resolved : ℕ} (inv : FlagsInv flags) (today : c.simulationDate ≤ last)
    (h : ∀ f ∈ flags, f.firstDetectedSimulationDate ≤ last ∧ f.simulationDate ≤ last)
    (ok : c.syncFlags flags = some (flags', opened, resolved)) :
    ∀ f ∈ flags', f.firstDetectedSimulationDate ≤ last ∧ f.simulationDate ≤ last := by
  obtain ⟨rfl, -⟩ := c.syncFlags_some inv.coherent ok
  refine forall_append (fun f mem => ?_) fun f mem => ?_
  · obtain ⟨before, found, rfl⟩ := List.mem_map.1 mem
    obtain ⟨first, observed⟩ := h before found
    refine ⟨(c.updated_frozen before).firstDetected ▸ first, ?_⟩
    unfold SyncCall.updated
    split
    · split
      · exact observed
      · exact today
      · exact observed
    · exact observed
  · obtain ⟨key, e, -, -, -, rfl⟩ := c.mem_added.1 mem
    exact ⟨today, today⟩

theorem ruleCall_date {env : EngineEnv} {t : EngineTables} {category : String}
    {evaluations : ℚ → Option (Dict EntityKey Evaluation)} {c : SyncCall}
    (call : ruleCall env d t category evaluations = some c) : c.simulationDate = d := by
  obtain ⟨threshold, -, rest⟩ := Option.bind_eq_some_iff.1 call
  obtain ⟨verdicts, -, made⟩ := Option.bind_eq_some_iff.1 rest
  cases made
  rfl

/-- Every call of a day is dated that day. -/
theorem exceptionCalls_date {env : EngineEnv} {clock : Date} {t : EngineTables} :
    ∀ c ∈ exceptionCalls env clock d t, c.simulationDate = d := by
  intro c mem
  rcases List.mem_append.1 mem with low | other
  · exact ruleCall_date (Option.mem_toList.1 low)
  · obtain ⟨o, mem, rfl⟩ := List.mem_filterMap.1 other
    simp only [List.mem_cons, List.not_mem_nil, or_false] at mem
    rcases mem with call | call | call | call | call <;> exact ruleCall_date call.symm

theorem syncAll_dated {env : EngineEnv} {calls : List SyncCall} (inv : FlagsInv flags)
    (each : ∀ c ∈ calls, RuleCall env c) (today : ∀ c ∈ calls, c.simulationDate ≤ last)
    (h : ∀ f ∈ flags, f.firstDetectedSimulationDate ≤ last ∧ f.simulationDate ≤ last)
    (ok : syncAll calls flags = some flags') :
    ∀ f ∈ flags', f.firstDetectedSimulationDate ≤ last ∧ f.simulationDate ≤ last := by
  induction calls generalizing flags with
  | nil =>
    cases ok
    exact h
  | cons c calls ih =>
    obtain ⟨here, rest⟩ := List.forall_mem_cons.1 each
    obtain ⟨date, dates⟩ := List.forall_mem_cons.1 today
    rw [syncAll, List.foldlM_cons] at ok
    obtain ⟨mid, first, later⟩ := Option.bind_eq_some_iff.1 ok
    obtain ⟨⟨rows, opened, resolved⟩, call, rfl⟩ := Option.map_eq_some_iff.1 first
    exact ih (SyncCall.syncFlags_inv inv here.shaped call) rest dates (syncFlags_dated inv date h call) later

end Flags

/-! ## The calls of a day -/

section Day

variable {last d : Date}

theorem insertNew_dated {values rows : List ReportingInventorySnapshot} (h : ∀ r ∈ rows, r.snapshotDate ≤ last)
    (new : ∀ v ∈ values, v.snapshotDate ≤ last) :
    ∀ r ∈ insertNew ReportingInventorySnapshot.grain values rows, r.snapshotDate ≤ last := by
  unfold insertNew
  induction values generalizing rows with
  | nil => exact h
  | cons v values ih =>
    refine ih ?_ fun v mem => new v (List.mem_cons_of_mem _ mem)
    dsimp only
    split
    · exact h
    · exact forall_append h fun r mem => List.mem_singleton.1 mem ▸ new v List.mem_cons_self

/-- A copied row has the day of a live row. -/
theorem copyDay_dated {l : SyncLoop} {newly : Bool} {rows : List InventorySnapshot}
    (h : ∀ r ∈ l.reporting, r.snapshotDate ≤ last) (today : rows ≠ [] → d ≤ last) :
    ∀ r ∈ (l.copyDay newly d rows).reporting, r.snapshotDate ≤ last := by
  refine insertNew_dated h fun v mem => ?_
  obtain ⟨r, live, copied⟩ := List.mem_filterMap.1 mem
  have date : v.snapshotDate = d := by
    unfold syncRow at copied
    split at copied
    · split at copied
      · cases copied
        rfl
      · cases copied
    · cases copied
      rfl
  rw [date]
  exact today (List.ne_nil_of_mem live)

theorem syncDay_dated {order : RowOrder InventorySnapshot} {live : List InventorySnapshot}
    (dated : ∀ r ∈ live, r.snapshotDate ≤ last) {l : SyncLoop} (h : ∀ r ∈ l.reporting, r.snapshotDate ≤ last)
    (day : Date) : ∀ r ∈ (syncDay order live l day).reporting, r.snapshotDate ≤ last := by
  have today : order.rows (live.filter (·.snapshotDate = day)) ≠ [] → day ≤ last := by
    intro some'
    obtain ⟨r, mem⟩ := List.exists_mem_of_ne_nil _ some'
    obtain ⟨known, here⟩ := List.mem_filter.1 ((RowOrder.mem_rows _).1 mem)
    exact of_decide_eq_true here ▸ dated r known
  unfold syncDay
  dsimp only
  split
  · exact copyDay_dated h today
  · exact copyDay_dated h today

theorem syncReportingLayer_dated {order : RowOrder InventorySnapshot} {lagDays : ℤ} {db : ReportingDb}
    (dated : ∀ r ∈ db.live, r.snapshotDate ≤ last) (h : ∀ r ∈ db.reporting, r.snapshotDate ≤ last) (day : Date) :
    ∀ r ∈ (Reporting.syncReportingLayer order day lagDays db).2.reporting, r.snapshotDate ≤ last := by
  unfold Reporting.syncReportingLayer
  dsimp only
  split
  · exact h
  · unfold SyncLoop.finish
    dsimp only
    refine List.foldlRecOn (motive := fun l : SyncLoop => ∀ r ∈ l.reporting, r.snapshotDate ≤ last) _ _ h ?_
    exact fun l h day _ => syncDay_dated dated h day

theorem forall_upsertAll {ρ κ : Type} [DecidableEq κ] {key : ρ → κ} {P : ρ → Prop} {values rows : List ρ}
    (h : ∀ r ∈ rows, P r) (new : ∀ v ∈ values, P v) : ∀ r ∈ upsertAll key values rows, P r := by
  induction values generalizing rows with
  | nil => exact h
  | cons v values ih =>
    refine ih (fun r mem => ?_) fun v mem => new v (List.mem_cons_of_mem _ mem)
    rcases mem_upsert.1 mem with rfl | ⟨old, -⟩
    · exact new r List.mem_cons_self
    · exact h r old

theorem upsertKpis_dated (rows : List DaysOfSupplyRow) (w : World) {t : KpiTables} (today : d ≤ last)
    (kpis : ∀ k ∈ t.kpiSnapshot, k.simulationDate ≤ last)
    (supply : ∀ s ∈ t.daysOfSupplySnapshot, s.simulationDate ≤ last) :
    (∀ k ∈ (upsertKpis rows w d t).kpiSnapshot, k.simulationDate ≤ last) ∧
      ∀ s ∈ (upsertKpis rows w d t).daysOfSupplySnapshot, s.simulationDate ≤ last := by
  constructor
  · exact forall_upsertAll kpis fun k (mem : k ∈ [kpiSnapshotOf d w]) => by
      rw [List.mem_singleton.1 mem]
      exact today
  · refine forall_upsertAll supply fun s mem => ?_
    obtain ⟨row, -, rfl⟩ := List.mem_map.1 mem
    exact today

variable {p : Platform} {day : DayEnv} {clock : SimulationClock}

theorem PlatformDated.flow (h : PlatformDated last p) (wf : Wf p.world) (today : d ≤ last) {events : ℕ} {w : World}
    (run : scheduledFlow day.tick d p.world = .ok events w) : PlatformDated last { p with world := w } :=
  { h with world := scheduledFlow_dated wf today h.world run }

theorem PlatformDated.sync (h : PlatformDated last p) (day : DayEnv) (lagDays : ℤ) (d : Date) :
    PlatformDated last (withSync day lagDays d p) :=
  { h with reporting := syncReportingLayer_dated h.world.snapshots h.reporting d }

theorem PlatformDated.evaluate (h : PlatformDated last p) (inv : PlatformInv p) (today : d ≤ last)
    {env : EngineEnv} {clock : Date} {t : EngineTables} {flags : List ExceptionFlag}
    (ok : syncAll (exceptionCalls env clock d t) p.exceptionFlag = some flags) :
    PlatformDated last { p with exceptionFlag := flags } :=
  { h with
    flags := syncAll_dated inv.flags (exceptionCalls_spec env clock d t).2
      (fun c mem => (exceptionCalls_date c mem).trans_le today) h.flags ok }

theorem PlatformDated.compute (h : PlatformDated last p) (today : d ≤ last) (rows : List DaysOfSupplyRow) :
    PlatformDated last { p with kpis := upsertKpis rows p.world d p.kpis } := by
  obtain ⟨kpis, supply⟩ := upsertKpis_dated rows p.world today h.kpis h.supply
  exact { h with kpis := kpis, supply := supply }

end Day

/-! ## A rebuild -/

section Rebuild

variable {env : RepopulateEnv} {today d last : Date} {historyDays : ℤ}

/-- The tables while the days through `last` are generated. -/
structure Present (last : Date) (db : Database Platform) : Prop where
  inv : PlatformInv db.tables
  dated : PlatformDated last db.tables
  ticks : ∀ t ∈ db.scheduledTick, t.simulationDate ≤ last

theorem generateDay_present {t t' : Tx (Database Platform)} (h : Present last t.pending) (le : d ≤ last)
    (ran : generateDay env d t = .ok () t') : Present last t'.pending := by
  have inv := generateDay_inv h.inv ran
  obtain ⟨_, _, tick, ran⟩ := bind_eq_ok ran
  obtain ⟨-, tick⟩ := attempt_ok tick
  obtain ⟨-, events, w, run, rfl⟩ := scheduledTick_ok tick
  obtain ⟨_, _, sync, ran⟩ := bind_eq_ok ran
  obtain ⟨-, _, copy, rfl⟩ := attempt_execute_ok sync
  cases copy
  obtain ⟨_, _, evaluate, ran⟩ := bind_eq_ok ran
  obtain ⟨-, db, flagged, rfl⟩ := attempt_execute_ok evaluate
  obtain ⟨flags, evaluated, rfl⟩ := evaluateExceptions_ok flagged
  obtain ⟨_, _, compute, progress⟩ := bind_eq_ok ran
  obtain ⟨-, _, snapshot, rfl⟩ := attempt_execute_ok compute
  obtain ⟨-, same⟩ := attempt_ok progress
  cases same
  dsimp only at inv ⊢
  rw [computeAndSnapshotKpis_ok snapshot] at inv ⊢
  have flowed := (h.dated.flow h.inv.wf le run).sync (env.day d) env.lagDays d
  have flagged := flowed.evaluate ((h.inv.flow run).of_same rfl rfl) le evaluated
  refine ⟨inv, flagged.compute le _, forall_append h.ticks fun t mem => ?_⟩
  rw [List.mem_singleton.1 mem]
  exact le

theorem repopulateWorld_present {result : RepopulateResult} {t t' : Tx (Database Platform)}
    (inv : PlatformInv t.pending.tables) (run : repopulateWorld env today historyDays t = .ok result t') :
    Present today t'.pending ∧ t'.pending.clock.simulationDate = today := by
  obtain ⟨long, count, t₁, prepare, days⟩ := repopulateWorld_calls run
  obtain ⟨-, worldState, scenario, -, pending⟩ := prepareWorld_ok prepare
  have start : Present today t₁.pending ∧ t₁.pending.clock.simulationDate = today := by
    rw [pending]
    refine ⟨⟨platformInv_empty inv.legal rfl rfl, .empty rfl rfl rfl rfl, fun _ mem => nomatch mem⟩, rfl⟩
  have loop := foldlM_inv (f := fun (_ : Unit) d => generateDay env d)
    (J := fun ds _ s => (∀ d ∈ ds, d ≤ today) ∧ Present today s.pending ∧
      s.pending.clock.simulationDate = today)
    (F := fun _ => True) ?_ (window today historyDays) () t₁ ⟨fun d mem => ?_, start⟩
  · rw [days] at loop
    exact loop.2
  · rintro d ds ⟨⟩ s ⟨early, present, clock⟩
    cases ran : generateDay env d s with
    | error e s' => trivial
    | ok _ s' =>
      obtain ⟨le, early⟩ := List.forall_mem_cons.1 early
      obtain ⟨_, _, _, _, _, _, same⟩ := (generateDay_ok ran).tables
      refine ⟨early, generateDay_present present le ran, ?_⟩
      rw [same]
      exact clock
  · rw [window_eq] at mem
    exact (mem_daysThrough.1 mem).2

end Rebuild

/-! ## A tick -/

section Tick

variable {tick : OfficeTick} {last d : Date}

theorem runPosts_present (clock : SimulationClock) (le : d ≤ last) :
    Keeps (fun o => PlatformInv o.platform ∧ PlatformDated last o.platform)
      (runPosts (officeSteps tick).posts d clock) := by
  unfold runPosts
  refine Keeps.foldlM (fun _ post mem => ?_) ()
  have lifted : ∀ x : Statements Unit,
      (∀ p, PlatformInv p ∧ PlatformDated last p →
        PlatformInv (endState (x ⟨clock, [], p⟩)).tables ∧
          PlatformDated last (endState (x ⟨clock, [], p⟩)).tables) →
      Keeps (fun o => PlatformInv o.platform ∧ PlatformDated last o.platform)
        (onPlatform (overTables x clock)) := by
    intro x keep o present
    show PlatformInv (endState (zoom Office.platform _ _ o)).platform ∧
      PlatformDated last (endState (zoom Office.platform _ _ o)).platform
    rw [endState_zoom]
    show PlatformInv (endState (overTables x clock o.platform)) ∧
      PlatformDated last (endState (overTables x clock o.platform))
    rw [endState_overTables]
    exact keep _ present
  simp only [officeSteps, List.mem_cons, List.not_mem_nil, or_false] at mem
  rcases mem with rfl | rfl | rfl | rfl | rfl
  · exact lifted _ fun p present => ⟨present.1.of_same rfl rfl, present.2.sync _ _ _⟩
  · refine lifted _ fun p present => ?_
    obtain ⟨inv, dated⟩ := present
    cases ran : evaluateExceptions tick.day d ⟨clock, [], p⟩ with
    | ok _ db =>
      obtain ⟨flags, evaluated, rfl⟩ := evaluateExceptions_ok ran
      exact ⟨inv.evaluate evaluated, dated.evaluate inv le evaluated⟩
    | error e db =>
      rw [(evaluateExceptions_error ran).2]
      exact ⟨inv, dated⟩
  · refine lifted _ fun p present => ?_
    obtain ⟨inv, dated⟩ := present
    cases ran : computeAndSnapshotKpis tick.day d ⟨clock, [], p⟩ with
    | ok _ db =>
      rw [computeAndSnapshotKpis_ok ran]
      exact ⟨inv.of_same rfl rfl, dated.compute le _⟩
    | error e db =>
      rw [computeAndSnapshotKpis_error ran]
      exact ⟨inv, dated⟩
  · intro o present
    show PlatformInv (endState (zoom Office.decisionEvent _ _ o)).platform ∧
      PlatformDated last (endState (zoom Office.decisionEvent _ _ o)).platform
    rw [endState_zoom]
    exact present
  · exact fun o present => present

theorem Causal.runTick {db : Database Office} (inv : PlatformInv db.tables.platform) (h : Causal db) :
    Causal (Scheduler.runTick PlatformError.aborts (officeSteps tick) db) := by
  rcases runTick_cases PlatformError.aborts (officeSteps tick) db with
    same | failed | ⟨events, o, -, passes, done⟩
  · rw [same]
    exact h
  · rw [failed]
    refine ⟨h.tables, forall_append h.ticks fun t mem => ?_⟩
    rw [List.mem_singleton.1 mem]
    exact .inr ⟨rfl, rfl⟩
  · rw [runPasses_officeSteps] at passes
    obtain ⟨p, flowed, rfl⟩ := onPlatform_ok passes
    obtain ⟨w, run, rfl⟩ := flow_ok flowed
    have le : db.clock.simulationDate ≤ db.clock.simulationDate + 1 := Int.le.intro_sub 1 (by omega)
    rw [done]
    constructor
    case tables =>
      have next : PlatformDated (db.clock.simulationDate + 1) { db.tables.platform with world := w } :=
        (h.tables.mono le).flow inv.wf le_rfl run
      have present := @runPosts_present tick _ _ (advanced db).clock le_rfl
        { db.tables with platform := { db.tables.platform with world := w } } ⟨inv.flow run, next⟩
      exact present.2
    case ticks =>
      refine forall_append (fun t mem => .inl ?_) fun t mem => .inl ?_
      · rcases h.ticks t mem with past | ⟨same, -⟩
        · exact past.trans le
        · exact same.le
      · rw [List.mem_singleton.1 mem]
        exact le_rfl

end Tick

/-! ## Runs -/

/-- The clock is set back by a rebuild only. -/
def Onward (db : Database Office) (l : OfficeLabel) : Prop :=
  l.isRebuild = true ∨ db.clock.simulationDate ≤ (officeNext db l).clock.simulationDate

theorem Causal.next {db : Database Office} {l : OfficeLabel} (inv : PlatformInv db.tables.platform)
    (h : Causal db) (onward : Onward db l) : Causal (officeNext db l) := by
  cases l with
  | clock op =>
    have le := onward.resolve_left Bool.false_ne_true
    obtain ⟨clock, worldState, head, same⟩ := op.commit_eq (platformDb db)
    have same : officeNext db (.clock op) = withPlatformDb _ db := congrArg (withPlatformDb · db) same
    rw [same] at le ⊢
    refine ⟨{ h.tables.mono le with }, fun t mem => ?_⟩
    rcases h.ticks t mem with past | ⟨ahead, failed⟩
    · exact .inl (past.trans le)
    · rcases eq_or_lt_of_le le with here | later
      · exact .inr ⟨ahead.trans (congrArg (· + 1) here), failed⟩
      · exact .inl (ahead.trans_le later)
  | repopulate env today historyDays =>
    rcases repopulateWork_cases env today historyDays (platformDb db) with ⟨e, same⟩ | ⟨result, t, run, same⟩
    · have same : officeNext db (.repopulate env today historyDays) = withPlatformDb (platformDb db) db :=
        congrArg (fun r : Except PlatformError String × _ => withPlatformDb r.2 db) same
      rw [same]
      exact h
    · have same : officeNext db (.repopulate env today historyDays) = withPlatformDb t.pending db :=
        congrArg (fun r : Except PlatformError String × _ => withPlatformDb r.2 db) same
      obtain ⟨present, clock⟩ := repopulateWorld_present (t := Tx.start (platformDb db)) inv run
      rw [same]
      refine ⟨?_, fun t mem => .inl ?_⟩
      · exact clock.symm ▸ present.dated
      · exact clock.symm ▸ present.ticks t mem
  | thresholds rows => exact ⟨{ h.tables with }, h.ticks⟩
  | requests decisionEvent chat => exact ⟨h.tables, h.ticks⟩
  | tick tick => exact h.runTick inv

/-- While the clock is set back by rebuilds only, no row of the simulated world is dated after it: not the
orders, the shipments, the transfers, the ledger, the events and the snapshots, and not the flags, the KPIs and
the reporting layer. The log of the ticks holds past days, and the next one where it has failed. -/
theorem nothing_is_dated_after_the_clock {db db' : Database Office} (reached : officeRuns.Reachable db)
    (causal : Causal db) (rest : (officeRuns.after db).Reach Onward db') : Causal db' := by
  refine (rest.invariant (I := fun db' => officeRuns.Reachable db' ∧ Causal db') (fun db' start => ?_) ?_).2
  · obtain rfl : db' = db := start
    exact ⟨reached, causal⟩
  · intro mid l db'' _ both onward step
    obtain rfl : db'' = officeNext mid l := step
    exact ⟨.next both.1 trivial rfl, both.2.next (platformInv_of_run both.1) onward⟩

/-- Both ticks pass, and the second one confirms the order of the first. -/
theorem nothing_is_dated_after_the_clock_confirmed :
    let labels := [OfficeLabel.tick (leastTick 0), .tick (leastTick 10)]
    let db := labels.foldl officeNext baselineOffice
    Causal db ∧ db.clock.simulationDate = 739619 ∧
      (db.tables.platform.world.purchaseOrderLifecycleEvent.map (·.simulationDate)) = [739618, 739619] := by
  intro labels db
  have causal : Causal baselineOffice := ⟨.empty rfl rfl rfl rfl, fun _ mem => nomatch mem⟩
  have rest : (officeRuns.after baselineOffice).Reach Onward db :=
    .next (l := .tick (leastTick 10))
      (.next (l := .tick (leastTick 0)) (.start rfl) (.inr (by decide +kernel)) rfl) (.inr (by decide +kernel)) rfl
  exact ⟨nothing_is_dated_after_the_clock (.start baselineOffice_seeded) causal rest, by decide +kernel,
    by decide +kernel⟩

end MeadowOps.Simulation
