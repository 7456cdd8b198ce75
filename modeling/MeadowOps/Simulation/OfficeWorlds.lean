import MeadowOps.Flow.OnlyForward
import MeadowOps.Flow.StatusOfLines
import MeadowOps.Simulation.TickCompletion

/-!
# The operational tables of the office

A label of a run leaves the operational tables alone, runs the flow of one day, or rebuilds them from
nothing. So what the flow keeps holds in every reachable state (`officeRuns_world`), and between two states
without a rebuild the tables only move forward.
-/

namespace MeadowOps.Simulation

open Db Lib MeadowOps.Flow Scheduler

section Tick

variable {tick : OfficeTick}

/-- The calls after the flow do not write the operational tables. -/
theorem runPosts_world (w : World) (d : Date) (clock : SimulationClock) :
    Keeps (fun o => o.platform.world = w) (runPosts (officeSteps tick).posts d clock) := by
  unfold runPosts
  refine Keeps.foldlM (fun _ post mem => ?_) ()
  have lifted : ∀ x : Statements Unit, (∀ db, (endState (x db)).tables.world = db.tables.world) →
      Keeps (fun o => o.platform.world = w) (onPlatform (overTables x clock)) := by
    intro x keep o same
    show (endState (zoom Office.platform _ _ o)).platform.world = w
    rw [endState_zoom]
    show (endState (overTables x clock o.platform)).world = w
    rw [endState_overTables]
    exact (keep _).trans same
  simp only [officeSteps, List.mem_cons, List.not_mem_nil, or_false] at mem
  rcases mem with rfl | rfl | rfl | rfl | rfl
  · exact lifted _ fun db => rfl
  · refine lifted _ fun db => ?_
    obtain ⟨flags, ran⟩ := endState_evaluateExceptions tick.day d db
    rw [ran]
  · refine lifted _ fun db => ?_
    obtain ⟨kpis, ran⟩ := endState_computeAndSnapshotKpis tick.day d db
    rw [ran]
  · intro o same
    show (endState (zoom Office.decisionEvent _ _ o)).platform.world = w
    rw [endState_zoom]
    exact same
  · exact fun o same => same

/-- The operational tables are those of `db`; no `SUCCESS` is logged. -/
structure Idle (db db' : Database Office) : Prop where
  world : db'.tables.platform.world = db.tables.platform.world
  log : ∃ rows, db'.scheduledTick = db.scheduledTick ++ rows ∧ ∀ row ∈ rows, row.status = .failed

/-- The flow of a day has run and is logged. -/
structure Passed (env : TickEnv) (d : Date) (db db' : Database Office) : Prop where
  run : ∃ events, scheduledFlow env d db.tables.platform.world = .ok events db'.tables.platform.world ∧
    db'.scheduledTick = db.scheduledTick ++ [⟨d, events, .success⟩]

theorem idle_same {db db' : Database Office} (world : db'.tables.platform.world = db.tables.platform.world)
    (log : db'.scheduledTick = db.scheduledTick) : Idle db db' :=
  ⟨world, [], log.trans (List.append_nil _).symm, fun _ mem => nomatch mem⟩

/-- A tick leaves the operational tables alone, or runs the flow of the next day over them. -/
theorem runTick_world (tick : OfficeTick) (db : Database Office) :
    Idle db (runTick PlatformError.aborts (officeSteps tick) db) ∨
    Passed tick.day.tick (db.clock.simulationDate + 1) db (runTick PlatformError.aborts (officeSteps tick) db) := by
  rcases runTick_cases PlatformError.aborts (officeSteps tick) db with
    same | failed | ⟨events, o, -, passes, done⟩
  · exact .inl (idle_same (by rw [same]) (by rw [same]))
  · refine .inl ⟨by rw [failed], [⟨db.clock.simulationDate + 1, 0, .failed⟩], by rw [failed], fun row mem => ?_⟩
    rw [List.mem_singleton.1 mem]
  · rw [runPasses_officeSteps] at passes
    obtain ⟨p, flowed, rfl⟩ := onPlatform_ok passes
    obtain ⟨w, run, rfl⟩ := flow_ok flowed
    refine .inr ⟨events, ?_, by rw [done]⟩
    rw [run, done]
    exact congrArg _ (runPosts_world w _ _ _ rfl).symm

end Tick

/-! ## Labels -/

/-- An operation on the clock writes the clock and the world states. -/
theorem ClockOp.commit_eq (op : ClockOp) (db : Database Platform) : ∃ clock worldState head,
    op.commit db = { db with
      clock := clock
      tables := { db.tables with worldState := worldState, currentWorldStateId := head } } := by
  unfold ClockOp.commit
  split
  · unfold withClockTables
    split
    · exact ⟨_, _, _, rfl⟩
    · exact ⟨_, _, _, rfl⟩
  · exact ⟨_, _, _, rfl⟩

def OfficeLabel.isRebuild : OfficeLabel → Bool
  | .repopulate .. => true
  | _ => false

/-- What a label other than a rebuild does. -/
theorem officeNext_world (db : Database Office) {l : OfficeLabel} (other : l.isRebuild = false) :
    Idle db (officeNext db l) ∨ ∃ env d, Passed env d db (officeNext db l) := by
  cases l with
  | clock op =>
    refine .inl (idle_same (op.commit_tables (platformDb db)).1 ?_)
    show (op.commit (platformDb db)).scheduledTick = db.scheduledTick
    unfold ClockOp.commit
    split
    · unfold withClockTables
      split <;> rfl
    · rfl
  | repopulate env today historyDays => cases other
  | thresholds rows => exact .inl (idle_same rfl rfl)
  | requests decisionEvent chat => exact .inl (idle_same rfl rfl)
  | tick tick =>
    rcases runTick_world tick db with idle | passed
    · exact .inl idle
    · exact .inr ⟨_, _, passed⟩

/-- What the days of a rebuild keep, the rebuild keeps. -/
theorem repopulateWork_world {I : World → Prop} (empty : ∀ m, I (World.empty m))
    (flow : ∀ env d events w w', Wf w → I w → scheduledFlow env d w = .ok events w' → I w')
    {env : RepopulateEnv} {db : Database Platform} (hI : I db.tables.world) (inv : PlatformInv db.tables)
    (today : Date) (historyDays : ℤ) : I (repopulateWork env today historyDays db).2.tables.world := by
  rcases repopulateWork_cases env today historyDays db with ⟨e, same⟩ | ⟨result, t, run, same⟩
  · rw [same]
    exact hI
  · rw [same]
    refine (repopulateWorld_rule (t := Tx.start db)
      (J := fun db => PlatformInv db.tables ∧ I db.tables.world) (fun _ _ => ?_) (fun d s s' both ran => ?_) run).2
    · exact ⟨platformInv_empty inv.legal rfl rfl, empty _⟩
    · refine ⟨generateDay_inv both.1 ran, ?_⟩
      obtain ⟨-, -, events, w, _, _, _, flowed, flagged, snapshot⟩ := generateDay_calls ran
      obtain ⟨flags, -, rfl⟩ := evaluateExceptions_ok flagged
      rw [computeAndSnapshotKpis_ok snapshot]
      exact flow _ d events _ w both.1.wf both.2 flowed

/-- What the flow keeps holds of the operational tables in every reachable state. -/
theorem officeRuns_world {I : World → Prop} (empty : ∀ m, I (World.empty m))
    (flow : ∀ env d events w w', Wf w → I w → scheduledFlow env d w = .ok events w' → I w')
    {db : Database Office} (h : officeRuns.Reachable db) : I db.tables.platform.world := by
  refine h.invariant (I := fun db => I db.tables.platform.world) (fun db start => ?_)
    fun db l db' reached hI _ step => ?_
  · have start : SeededOffice db := start
    have same : db.tables.platform.world = World.empty db.tables.platform.world.master := start.world
    rw [same]
    exact empty _
  · obtain rfl : db' = officeNext db l := step
    have inv := platformInv_of_run reached
    by_cases rebuild : l.isRebuild = true
    · cases l with
      | repopulate env today historyDays =>
        exact @repopulateWork_world I empty flow env (platformDb db) hI inv today historyDays
      | _ => cases rebuild
    · rcases officeNext_world db (eq_false_of_ne_true rebuild) with idle | ⟨env, d, events, run, -⟩
      · rw [idle.world]
        exact hI
      · exact flow env d events _ _ inv.wf hI run

/-- Between two states without a rebuild the ledger and the lifecycle events grow at the end, every order,
shipment and transfer is still there and has moved along its lifecycle only, and what was closed is as it was. -/
theorem history_only_moves_forward {db db' : Database Office} (reached : officeRuns.Reachable db)
    (rest : (officeRuns.after db).Reach (fun _ l => l.isRebuild = false) db') :
    Later db.tables.platform.world db'.tables.platform.world := by
  refine (rest.invariant (I := fun db' => officeRuns.Reachable db' ∧
    Later db.tables.platform.world db'.tables.platform.world) (fun db' start => ?_) ?_).2
  · obtain rfl : db' = db := start
    exact ⟨reached, .refl (platformInv_of_run reached).wf⟩
  · intro mid l db'' _ both other step
    obtain rfl : db'' = officeNext mid l := step
    refine ⟨.next both.1 trivial rfl, both.2.trans ?_⟩
    have wf := (platformInv_of_run both.1).wf
    rcases officeNext_world mid other with idle | ⟨env, d, events, run, -⟩
    · rw [idle.world]
      exact .refl wf
    · exact scheduledFlow_later wf run

/-- A tick of the least draws. -/
def leastTick (firstFlag : ℕ) : OfficeTick :=
  { tickFrom 0 firstFlag with day := { (tickFrom 0 firstFlag).day with tick := .inOrder fun _ _ => Rng.least } }

/-- The order of the first day is confirmed on the second, after a pause. -/
theorem history_only_moves_forward_confirmed :
    let db := officeNext baselineOffice (.tick (leastTick 0))
    let db' := [OfficeLabel.clock .pause, .clock .resume, .tick (leastTick 10)].foldl officeNext db
    Later db.tables.platform.world db'.tables.platform.world ∧
      db.tables.platform.world.purchaseOrder.map (·.status) = [.submitted] ∧
      db'.tables.platform.world.purchaseOrder.map (·.status) = [.confirmed] := by
  intro db db'
  have reached : officeRuns.Reachable db := .next (.start baselineOffice_seeded) trivial rfl
  have rest : (officeRuns.after db).Reach (fun _ l => l.isRebuild = false) db' :=
    .next (l := .tick (leastTick 10))
      (.next (l := .clock .resume) (.next (l := .clock .pause) (.start rfl) rfl rfl) rfl rfl) rfl rfl
  exact ⟨history_only_moves_forward reached rest, by decide +kernel, by decide +kernel⟩

/-- After every run of the office the rows tell the statuses. -/
theorem statusesTold_of_run {db : Database Office} (reached : officeRuns.Reachable db) :
    StatusesTold db.tables.platform.world :=
  officeRuns_world statusesTold_empty (fun env _ _ _ _ wf told run => scheduledFlow_statusesTold env wf told run)
    reached

/-- A rebuild and the ticks leave movements for the documents that they leave, and for no others. -/
theorem reconciled_of_run {db : Database Office} (reached : officeRuns.Reachable db) :
    Reconciled db.tables.platform.world := by
  refine officeRuns_world (fun m => (emptyWorld m).reconciled) (fun env d events w w' wf hw run => ?_) reached
  have steps := scheduledFlow_steps env d wf
  rw [run] at steps
  exact FlowSteps.invariant (fun _ _ step wf hw => step.reconciled wf hw) wf hw steps

/-- The office of the shop, before Monday. -/
def shopOffice : Database Office :=
  { baselineOffice with
    clock := ⟨monday - 1, .running⟩
    tables :=
      { baselineOffice.tables with
        platform := { baselineOffice.tables.platform with world := World.empty shop } } }

theorem shopOffice_seeded : SeededOffice shopOffice := by
  refine ⟨⟨fun p mem _ => ?_, List.nodup_singleton _⟩, rfl, rfl⟩
  refine ⟨⟨"acme", "corrugated", 1, .low, true⟩, List.mem_singleton_self _, rfl, ?_⟩
  rw [List.mem_singleton.1 mem]
  decide +kernel

/-- The ticks of the week, the flags of which are numbered by the day. -/
def shopWeek : List OfficeLabel :=
  (List.range 7).map fun day =>
    .tick { tickFrom 0 (100 * day) with day := { (tickFrom 0 (100 * day)).day with tick := weekEnv day } }

end MeadowOps.Simulation
