import MeadowOps.Flow.Snapshots
import MeadowOps.Reporting.Mirror
import MeadowOps.Simulation.AllOrNothing
import MeadowOps.Simulation.Ticks

/-!
# The seeded conflict stays a conflict

Runs of the scheduler's ticks in which the clock only moves forward and the master data changes at will. A
tick writes the snapshots of a day that is not synced yet, so the row behind the frozen copy stays.
-/

namespace MeadowOps.Simulation

open Db Lib MeadowOps.Flow Scheduler Reporting Exceptions

/-! ## The check -/

/-- `check_reporting_conflict` finds the entity, off by the seeded offset. -/
structure Conflicts (e : ConflictEntity) (p : Platform) : Prop where
  designated : conflictEntityOf (reportingDb p) = some e
  check : ∀ toleranceUnits : ℚ, checkReportingConflict toleranceUnits (engineTables p) =
    some (pairKey e.1 e.2, ⟨some (decide (toleranceUnits < 25)), some 25⟩)

/-- The one copy of the frozen entity is its latest. -/
theorem latestCopy_of_single {rows : List ReportingInventorySnapshot} {p wh : String}
    {copy : ReportingInventorySnapshot} (h : rows.filter (·.entity = (p, wh)) = [copy]) :
    latestCopy rows p wh = some copy := by
  have copies : rows.filter (fun r => decide (r.productId = p ∧ r.warehouseId = wh)) = [copy] := by
    rw [← h]
    apply List.filter_congr
    intro r _
    simp [ReportingInventorySnapshot.entity]
  simp only [latestCopy, copies]
  simp

theorem liveQuantity_of_mem {rows : List InventorySnapshot} (keyed : Keyed InventorySnapshot.grain rows)
    {r : InventorySnapshot} (mem : r ∈ rows) :
    liveQuantity rows (InventorySnapshot.grain r) = r.quantityOnHand := by
  rw [liveQuantity, lookup_of_mem keyed mem]
  rfl

/-- The check of a designated entity that has a copy. -/
theorem checkReportingConflict_of {t : EngineTables} {s : ReportingSyncState} {product warehouse : String}
    {copy : ReportingInventorySnapshot} {variance : ℤ} (state : t.syncState = some s)
    (columns : s.conflictEntity = some (product, some warehouse))
    (latest : latestCopy t.reporting product warehouse = some copy)
    (off : |copy.quantityOnHand - liveQuantity t.world.inventorySnapshot copy.grain| = variance)
    (toleranceUnits : ℚ) : checkReportingConflict toleranceUnits t =
      some (pairKey product (some warehouse),
        ⟨some (decide (toleranceUnits < variance)), some (variance : ℚ)⟩) := by
  obtain ⟨product', frozenProduct, same⟩ := Option.map_eq_some_iff.1 columns
  obtain ⟨rfl, frozenWarehouse⟩ := Prod.mk.inj same
  simp only [checkReportingConflict, state, frozenProduct, frozenWarehouse, latest, off, Option.bind_eq_bind,
    Option.bind_some]
  rfl

theorem conflicts_of_mirrored {p : Platform} {last first : Date} {frozen : InventorySnapshot}
    (keyed : Keyed InventorySnapshot.grain p.world.inventorySnapshot)
    (h : Mirrored (reportingDb p) last first frozen) :
    Conflicts (frozen.productId, some frozen.warehouseId) p := by
  refine ⟨h.designated, fun toleranceUnits => ?_⟩
  have designated := h.designated
  cases state : p.reportingSyncState with
  | none =>
    rw [conflictEntityOf, lockSyncState, reportingDb, state] at designated
    cases designated
  | some s =>
    have columns : s.conflictEntity = some (frozen.productId, some frozen.warehouseId) := by
      rw [conflictEntityOf, lockSyncState, reportingDb, state] at designated
      exact designated
    have grain : (copyRow first (frozen.quantityOnHand + 25) frozen).grain = InventorySnapshot.grain frozen := by
      rw [← h.designationDay]
      rfl
    have latest := latestCopy_of_single h.frozenRow
    have off : |(copyRow first (frozen.quantityOnHand + 25) frozen).quantityOnHand -
        liveQuantity p.world.inventorySnapshot (copyRow first (frozen.quantityOnHand + 25) frozen).grain| =
          25 := by
      rw [grain, liveQuantity_of_mem keyed h.live]
      show |frozen.quantityOnHand + 25 - frozen.quantityOnHand| = 25
      rw [add_sub_cancel_left]
      rfl
    exact checkReportingConflict_of (t := engineTables p) state columns latest off toleranceUnits

/-! ## A tick -/

/-- What every committed state keeps. -/
structure ConflictInv (db : Database Platform) : Prop where
  keys : Wf db.tables.world
  synced : Synced (reportingDb db.tables)
  /-- The days that are synced lie behind the next tick. -/
  behind : ∀ last, lastSynced (reportingDb db.tables) = some last → last ≤ db.clock.simulationDate

/-- The flow of a tick writes no day that is synced. -/
theorem settled_flow {env : TickEnv} {d : Date} {w w' : World} {events : ℕ} (keys : Wf w)
    (run : scheduledFlow env d w = .ok events w') {last : Option Date} (behind : ∀ l, last = some l → l < d) :
    Settled last w.inventorySnapshot w'.inventorySnapshot := by
  intro l synced
  have past : ∀ rows : List InventorySnapshot, rows.filter (·.snapshotDate ≤ l) =
      (rows.filter (·.snapshotDate ≠ d)).filter (·.snapshotDate ≤ l) := by
    intro rows
    rw [List.filter_filter]
    apply List.filter_congr
    intro r _
    have before : r.snapshotDate ≤ l → r.snapshotDate ≠ d := fun le => (le.trans_lt (behind l synced)).ne
    by_cases le : r.snapshotDate ≤ l
    · simp [le, before le]
    · simp [le]
  rw [past, past w.inventorySnapshot, scheduledFlow_otherDays keys run]

theorem Synced.flow {env : TickEnv} {d : Date} {p : Platform} {w : World} {events : ℕ} (keys : Wf p.world)
    (h : Synced (reportingDb p)) (behind : ∀ last, lastSynced (reportingDb p) = some last → last < d)
    (run : scheduledFlow env d p.world = .ok events w) : Synced (reportingDb { p with world := w }) :=
  h.edit (scheduledFlow_snapshots keys h.keyed run).1.keyed (settled_flow keys run behind)

theorem reportingDb_withSync (env : DayEnv) (lagDays : ℤ) (d : Date) (p : Platform) :
    reportingDb (withSync env lagDays d p) =
      (Reporting.syncReportingLayer env.snapshots d lagDays (reportingDb p)).2 := by
  have live : (Reporting.syncReportingLayer env.snapshots d lagDays (reportingDb p)).2.live =
      p.world.inventorySnapshot := by
    unfold Reporting.syncReportingLayer
    dsimp only
    split <;> rfl
  show ReportingDb.mk p.world.inventorySnapshot
      (Reporting.syncReportingLayer env.snapshots d lagDays (reportingDb p)).2.reporting
      (Reporting.syncReportingLayer env.snapshots d lagDays (reportingDb p)).2.syncState = _
  generalize (Reporting.syncReportingLayer env.snapshots d lagDays (reportingDb p)).2 = synced at live ⊢
  rw [← live]

/-- The flow writes nothing of the layer. -/
theorem Advanced.of_flow {p : Platform} {w : World} {db' : ReportingDb}
    (h : Advanced (reportingDb { p with world := w }) db') : Advanced (reportingDb p) db' :=
  ⟨h.lastSynced, h.conflict, h.reporting⟩

theorem SameButVerdicts.reportingDb {p p' : Platform} (h : SameButVerdicts p p') :
    reportingDb p' = reportingDb p := by
  obtain ⟨flags, kpis, rfl⟩ := h
  rfl

/-- A tick that commits its flow takes nothing of the layer back. -/
theorem ConflictInv.done {env : DayEnv} {lagDays : ℤ} (nonneg : 0 ≤ lagDays) {db db' : Database Platform}
    {events : ℕ} {w : World} (h : ConflictInv db) (done : TickDone env lagDays db events w db') :
    ConflictInv db' ∧ Advanced (reportingDb db.tables) (reportingDb db'.tables) := by
  have later : ∀ last, lastSynced (reportingDb db.tables) = some last → last < db.clock.simulationDate + 1 :=
    fun last synced => (h.behind last synced).trans_lt (lt_add_one _)
  have steps := scheduledFlow_steps env.tick (db.clock.simulationDate + 1) h.keys
  rw [done.flow] at steps
  have keys : Wf w := steps.wf h.keys
  have flowed := Synced.flow h.keys h.synced later done.flow
  have day : db'.clock.simulationDate = db.clock.simulationDate + 1 := by
    rw [done.clock]
    rfl
  rcases done.tables with same | same
  · refine ⟨⟨same.world ▸ keys, same.reportingDb ▸ flowed, ?_⟩, same.reportingDb ▸ ?_⟩
    · rw [same.reportingDb, day]
      exact fun last synced => (later last synced).le
    · exact ⟨fun last was => ⟨last, was, le_rfl⟩, fun _ was => was, List.prefix_rfl⟩
  · have call := syncReportingLayer_spec env.snapshots (db.clock.simulationDate + 1) lagDays flowed
    rw [← reportingDb_withSync, ← same.reportingDb] at call
    refine ⟨⟨same.world ▸ keys, call.synced, ?_⟩, Advanced.of_flow call.advanced⟩
    rw [day]
    intro last synced
    rcases call.through with before | target
    · exact (later last (before.symm.trans synced)).le
    · rw [synced, Option.some.injEq] at target
      rw [target, targetSyncDate]
      exact sub_le_self _ nonneg

/-- The verdict of a state, once an entity is designated in it. -/
theorem conflicts_of_synced {p : Platform} (synced : Synced (reportingDb p)) {e : ConflictEntity}
    (designated : conflictEntityOf (reportingDb p) = some e) : Conflicts e p := by
  cases last : lastSynced (reportingDb p) with
  | none =>
    rw [(synced.unsynced last).1] at designated
    cases designated
  | some l =>
    obtain ⟨first, frozen, earliest, started, here⟩ := synced.synced l last
    have conflicts := conflicts_of_mirrored synced.keyed (here.mirrored synced.keyed earliest started)
    rw [conflicts.designated, Option.some.injEq] at designated
    exact designated ▸ conflicts

/-- What `evaluate_exceptions` finds in a tick. -/
theorem ConflictInv.atEvaluation {env : DayEnv} {lagDays : ℤ} {faults : TickFaults} {db : Database Platform}
    {p : Platform} (h : ConflictInv db) (found : atEvaluation env lagDays faults db = some p) :
    Synced (reportingDb p) ∧ Advanced (reportingDb db.tables) (reportingDb p) := by
  obtain ⟨events, w, run, rfl⟩ := atEvaluation_some found
  have flowed := Synced.flow h.keys h.synced
    (fun last synced => (h.behind last synced).trans_lt (lt_add_one _)) run
  have call := syncReportingLayer_spec env.snapshots (db.clock.simulationDate + 1) lagDays flowed
  rw [← reportingDb_withSync] at call
  exact ⟨call.synced, Advanced.of_flow call.advanced⟩

/-! ## Runs -/

inductive ForwardLabel where
  | tick (env : DayEnv) (faults : TickFaults)
  /-- Any edit of the master data. -/
  | edit (m : Master)
  /-- The clock is paused, resumed or advanced. -/
  | clock (c : SimulationClock)

def ForwardStep (lagDays : ℤ) (db : Database Platform) (l : ForwardLabel) (db' : Database Platform) : Prop :=
  match l with
  | .tick env faults => db' = tickOf env lagDays faults db
  | .edit m => db' = { db with tables := { db.tables with world := { db.tables.world with master := m } } }
  | .clock c => db.clock.simulationDate ≤ c.simulationDate ∧ db' = { db with clock := c }

/-- Any tables whose reporting layer was never synced. -/
structure Unsynced (db : Database Platform) : Prop where
  keys : Wf db.tables.world
  keyed : Keyed InventorySnapshot.grain db.tables.world.inventorySnapshot
  state : db.tables.reportingSyncState = none ∨ db.tables.reportingSyncState = some .new
  reporting : db.tables.reportingInventorySnapshot = []

/-- The runs with a lag. -/
def forwardRuns (lagDays : ℤ) : System (Database Platform) ForwardLabel := ⟨Unsynced, ForwardStep lagDays⟩

theorem Unsynced.inv {db : Database Platform} (h : Unsynced db) : ConflictInv db := by
  have start : SessionInv 0 ⟨reportingDb db.tables, []⟩ :=
    NeverSynced.inv ⟨h.keyed, h.state, h.reporting, rfl⟩
  refine ⟨h.keys, start.synced, fun last synced => ?_⟩
  obtain ⟨r, called, -⟩ := start.called last synced
  cases called

/-- A label keeps the seeded conflict, and the reporting layer only advances. -/
theorem ConflictInv.step {lagDays : ℤ} (nonneg : 0 ≤ lagDays) {db db' : Database Platform} {l : ForwardLabel}
    (h : ConflictInv db) (step : ForwardStep lagDays db l db') :
    ConflictInv db' ∧ Advanced (reportingDb db.tables) (reportingDb db'.tables) := by
  cases l with
  | tick env faults =>
    have step : db' = tickOf env lagDays faults db := step
    rcases tickOf_cases env lagDays faults db with same | failed | ⟨events, w, done⟩
    · rw [step, same]
      exact ⟨h, .refl _⟩
    · rw [step, failed]
      exact ⟨⟨h.keys, h.synced, h.behind⟩, .refl _⟩
    · rw [step]
      exact h.done nonneg done
  | edit m =>
    have step : db' = { db with tables := { db.tables with world := { db.tables.world with master := m } } } := step
    subst step
    exact ⟨⟨{ h.keys with }, h.synced, h.behind⟩, .refl _⟩
  | clock c =>
    obtain ⟨le, rfl⟩ := step
    exact ⟨⟨h.keys, h.synced, fun last synced => (h.behind last synced).trans le⟩, .refl _⟩

/-- By induction over the labels. -/
theorem conflictInv_of_run {lagDays : ℤ} (nonneg : 0 ≤ lagDays) {db : Database Platform}
    (h : (forwardRuns lagDays).Reachable db) : ConflictInv db := by
  refine h.invariant (I := ConflictInv) (fun _ start => ?_) (fun _ _ _ _ inv _ step => ?_)
  · exact Unsynced.inv start
  · exact (inv.step nonneg step).1

/-- Until an entity is designated there is nothing to evaluate; from the tick on that designates it, its
verdict is the same in every later state and in every later tick. -/
structure StaysConflict (lagDays : ℤ) (db : Database Platform) : Prop where
  undesignated : conflictEntityOf (reportingDb db.tables) = none →
    ∀ toleranceUnits, checkReportingConflict toleranceUnits (engineTables db.tables) = none
  designating : ∀ env faults p e, atEvaluation env lagDays faults db = some p →
    conflictEntityOf (reportingDb p) = some e → Conflicts e p
  designated : ∀ e, conflictEntityOf (reportingDb db.tables) = some e →
    ∀ db', ((forwardRuns lagDays).after db).Reachable db' → Conflicts e db'.tables ∧
      ∀ env faults p, atEvaluation env lagDays faults db' = some p → Conflicts e p

/-- In every run without a rebuild: before the conflict is seeded nothing conflicts, and from then on the same pair
conflicts at every evaluation. -/
theorem seeded_conflict_stays {lagDays : ℤ} (nonneg : 0 ≤ lagDays) {db : Database Platform}
    (h : (forwardRuns lagDays).Reachable db) : StaysConflict lagDays db := by
  constructor
  case undesignated =>
    intro none toleranceUnits
    cases state : db.tables.reportingSyncState with
    | none => simp [checkReportingConflict, engineTables, state]
    | some s =>
      have product : s.frozenConflictProductId = .none := by
        simpa [conflictEntityOf, lockSyncState, reportingDb, state, ReportingSyncState.conflictEntity] using none
      simp [checkReportingConflict, engineTables, state, product]
  case designating =>
    intro env faults p e found designated
    exact conflicts_of_synced ((conflictInv_of_run nonneg h).atEvaluation found).1 designated
  case designated =>
    intro e designated db' later
    have ran := System.Reach.later (R := fun db db' => Advanced (reportingDb db.tables) (reportingDb db'.tables))
      (fun db => .refl _) (fun _ _ _ => Advanced.trans)
      (fun db l db' reached _ step => ((conflictInv_of_run nonneg reached).step nonneg step).2) h later
    obtain ⟨reached, advanced⟩ := ran
    have inv := conflictInv_of_run nonneg reached
    have here := advanced.conflict e designated
    refine ⟨conflicts_of_synced inv.synced here, fun env faults p found => ?_⟩
    obtain ⟨synced, advanced⟩ := inv.atEvaluation found
    exact conflicts_of_synced synced (advanced.conflict e here)

/-- Boxes at one warehouse and no lag: the first tick designates them. The warehouse is closed, and the next
tick fails after its synchronisation. -/
theorem seeded_conflict_stays_closedWarehouse :
    let env := plainDay (TickEnv.inOrder fun _ _ => Rng.least)
    let db := { pausedWorld (boxesFor []) [] with clock := ⟨monday - 1, .running⟩ }
    let db₁ := tickOf env 0 .none db
    let closed := { boxesFor [] with warehouse := [⟨"main", false⟩] }
    let db₂ := { db₁ with tables := { db₁.tables with world := { db₁.tables.world with master := closed } } }
    Conflicts ("boxes", some "main")
      (tickOf env 0 { TickFaults.none with kpis := some ⟨id, .other "boom"⟩ } db₂).tables := by
  intro env db db₁ closed db₂
  have start : Unsynced db := ⟨(emptyWorld (boxesFor [])).wf, List.nodup_nil, .inl rfl, rfl⟩
  have first : (forwardRuns 0).Reachable db₁ := .next (l := .tick env .none) (.start start) trivial rfl
  have designated : conflictEntityOf (reportingDb db₁.tables) = some ("boxes", some "main") := by
    decide +kernel
  refine ((seeded_conflict_stays le_rfl first).designated _ designated _ ?_).1
  have edited : ((forwardRuns 0).after db₁).Reachable db₂ := .next (l := .edit closed) (.start rfl) trivial rfl
  exact .next (l := .tick env { TickFaults.none with kpis := some ⟨id, .other "boom"⟩ }) edited trivial rfl

end MeadowOps.Simulation
