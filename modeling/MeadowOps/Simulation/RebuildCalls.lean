import MeadowOps.Scheduler.LockedTick
import MeadowOps.Simulation.AllOrNothing

/-!
# The calls of a rebuild, one by one

`repopulate_world` as the list of its calls over the open transaction. A rebuild that fails in a day gives the lock
up in the handler of `run_scheduled_tick`; nobody commits what it writes after that.
-/

namespace MeadowOps.Simulation

open Db Lib MeadowOps.Flow Scheduler Kpi Reporting Exceptions Scenarios OneLock

variable (env : RepopulateEnv)

/-! ## The list -/

/-- A call over the open transaction, unless it fails. -/
def attempted (step : RepopulateStep) (x : Statements Unit) : Statements Unit :=
  match env.fails step with
  | none => x
  | some failure => throw failure.error

/-- `run_scheduled_tick(session, d)`, when it returns. -/
def tickCall (d : Date) : Statements Unit := fun v =>
  match dayFlow env d v.tables with
  | .ok events p => .ok () (addRow ⟨d, events, .success⟩ { v with tables := p })
  | .error e _ => .error e v

def dayCalls (d : Date) : List (Statements Unit) := [
  attempted env (.runScheduledTick d) (tickCall env d),
  attempted env (.syncReportingLayer d) (syncReportingLayer (env.day d) env.lagDays d),
  attempted env (.evaluateExceptions d) (evaluateExceptions (env.day d) d),
  attempted env (.computeAndSnapshotKpis d) (computeAndSnapshotKpis (env.day d) d),
  attempted env (.onProgress d) (pure ())]

/-- The UPDATEs of `_cancel_live_scenarios`, on the rows that its SELECT has read. -/
def cancelCalls : Statements Unit := do
  let db ← get
  ((liveScenarios env db).map (·.id)).foldlM (fun _ scenarioId =>
    attempted env (.cancelScenario scenarioId) (cancelScenario scenarioId)) ()

/-- The calls of `repopulate_world`, in their order. -/
def rebuildCalls (today : Date) (historyDays : ℤ) : List (Statements Unit) :=
  [attempted env .rebaseClock (discard (rebaseClock env.worldStateId today ("Repopulated to " ++ isoformat today))),
    cancelCalls env] ++
  generatedTables.map (fun table => attempted env (.delete table) (modify table.clear)) ++
  [attempted env .flush (pure ())] ++
  (window today historyDays).flatMap (dayCalls env)

def runCalls (calls : List (Statements Unit)) : Statements Unit := calls.foldlM (fun _ x => x) ()

theorem runCalls_append (calls more : List (Statements Unit)) :
    runCalls (calls ++ more) = runCalls calls >>= fun _ => runCalls more := by
  rw [runCalls, List.foldlM_append]
  rfl

theorem runCalls_cons (x : Statements Unit) (calls : List (Statements Unit)) :
    runCalls (x :: calls) = x >>= fun _ => runCalls calls := List.foldlM_cons

/-! ## The list is the program -/

/-- The program `x` of the session does on an intact transaction what `y` does with its pending tables. -/
def Follows {α : Type} (x : SessionM α) (y : Statements Unit) : Prop := ∀ c v,
  match y v with
  | .ok _ v' => ∃ a, x ⟨c, v, true⟩ = .ok a ⟨c, v', true⟩
  | .error _ _ => ∃ e t, x ⟨c, v, true⟩ = .error e t

section Follows

variable {env} {α β : Type}

theorem follows_pure (a : α) : Follows (pure a) (pure ()) := fun _ _ => ⟨a, rfl⟩

theorem follows_execute (x : Statements α) : Follows (execute x) (discard x) := by
  intro c v
  cases ran : x v with
  | ok a v' =>
    have left : discard x v = .ok () v' := bind_of_ok ran
    have right : execute x ⟨c, v, true⟩ = .ok a ⟨c, v', true⟩ := by rw [execute, Tx.onPending, ran]
    rw [left]
    exact ⟨a, right⟩
  | error e v' =>
    have left : discard x v = .error e v' := bind_of_error ran
    have right : execute x ⟨c, v, true⟩ = .error e ⟨c, v', !PlatformError.aborts e⟩ := by
      rw [execute, Tx.onPending, ran]
    rw [left]
    exact ⟨e, _, right⟩

theorem Follows.execute_unit (x : Statements Unit) : Follows (execute x) x := by
  have same : discard x = x := by
    funext v
    cases ran : x v with
    | ok a v' => exact bind_of_ok ran
    | error e v' => exact bind_of_error ran
  have follows := follows_execute x
  rwa [same] at follows

theorem Follows.bind {x : SessionM α} {y z : Statements Unit} {f : α → SessionM β} (hx : Follows x y)
    (hf : ∀ a, Follows (f a) z) : Follows (x >>= f) (y >>= fun _ => z) := by
  intro c v
  have first := hx c v
  cases ran : y v with
  | ok _ v' =>
    rw [ran] at first
    obtain ⟨a, first⟩ := first
    rw [bind_of_ok ran, bind_of_ok first]
    exact hf a c v'
  | error e v' =>
    rw [ran] at first
    obtain ⟨e', t, first⟩ := first
    rw [bind_of_error ran, bind_of_error first]
    exact ⟨e', t, rfl⟩

/-- What comes after the last statement. -/
theorem Follows.value {x : SessionM α} {y : Statements Unit} (hx : Follows x y) (g : α → β) :
    Follows (x >>= fun a => pure (g a)) y := by
  intro c v
  have first := hx c v
  cases ran : y v with
  | ok _ v' =>
    rw [ran] at first
    obtain ⟨a, first⟩ := first
    rw [bind_of_ok first]
    exact ⟨g a, rfl⟩
  | error e v' =>
    rw [ran] at first
    obtain ⟨e', t, first⟩ := first
    rw [bind_of_error first]
    exact ⟨e', t, rfl⟩

theorem follows_attempt {x : SessionM α} {y : Statements Unit} (h : Follows x y) (step : RepopulateStep) :
    Follows (attempt env step x) (attempted env step y) := by
  unfold attempt attempted
  cases env.fails step with
  | none => exact h
  | some failure =>
    intro c v
    exact ⟨failure.error, ⟨c, failure.writes v, !PlatformError.aborts failure.error⟩, rfl⟩

theorem follows_foldlM {γ : Type} {f : Unit → γ → SessionM Unit} {g : γ → Statements Unit}
    (h : ∀ u a, Follows (f u a) (g a)) (l : List γ) (u : Unit) :
    Follows (l.foldlM f u) (l.foldlM (fun _ a => g a) u) := by
  induction l generalizing u with
  | nil => exact follows_pure ()
  | cons a l ih =>
    rw [List.foldlM_cons, List.foldlM_cons]
    show Follows _ (g a >>= fun _ => l.foldlM (fun _ a => g a) ())
    exact (h u a).bind fun _ => ih ()

theorem follows_scheduledTick (d : Date) : Follows (scheduledTick env d) (tickCall env d) := by
  intro c v
  cases ran : dayFlow env d v.tables with
  | ok events p =>
    have left : tickCall env d v = .ok () (addRow ⟨d, events, .success⟩ { v with tables := p }) := by
      rw [tickCall, ran]
    have right := runScheduledTick_ok PlatformError.aborts (d := d) (t := ⟨c, v, true⟩) ran
    rw [left]
    refine ⟨⟨d, events, .success⟩, ?_⟩
    rw [scheduledTick, right]
    rfl
  | error e p =>
    have left : tickCall env d v = .error e v := by rw [tickCall, ran]
    have right := runScheduledTick_error PlatformError.aborts (d := d) (t := ⟨c, v, true⟩) ran
    rw [left]
    have failed : ∀ t, ∃ e' t', attempt env (.failedRow d) (throw e : SessionM ScheduledTick) t = .error e' t' := by
      intro t
      unfold attempt
      cases env.fails (.failedRow d) with
      | none => exact ⟨e, t, rfl⟩
      | some failure => exact ⟨failure.error, _, rfl⟩
    rw [scheduledTick, right]
    exact failed _

theorem follows_generateDay (d : Date) : Follows (generateDay env d) (runCalls (dayCalls env d)) := by
  rw [dayCalls, runCalls_cons, runCalls_cons, runCalls_cons, runCalls_cons, runCalls_cons]
  refine (follows_attempt (follows_scheduledTick d) _).bind fun _ => ?_
  refine (follows_attempt (.execute_unit _) _).bind fun _ => ?_
  refine (follows_attempt (.execute_unit _) _).bind fun _ => ?_
  refine (follows_attempt (.execute_unit _) _).bind fun _ => ?_
  have last : attempted env (.onProgress d) (pure ()) >>= (fun _ => runCalls []) =
      attempted env (.onProgress d) (pure ()) := bind_pure _
  rw [last]
  exact follows_attempt (follows_pure ()) _

theorem follows_cancelLiveScenarios : Follows (cancelLiveScenarios env) (cancelCalls env) := by
  intro c v
  have loop := follows_foldlM
    (f := fun _ scenarioId => attempt env (.cancelScenario scenarioId) (execute (cancelScenario scenarioId)))
    (g := fun scenarioId => attempted env (.cancelScenario scenarioId) (cancelScenario scenarioId))
    (fun _ _ => follows_attempt (.execute_unit _) _) ((liveScenarios env v).map (·.id)) ()
  exact loop.value (fun _ => (liveScenarios env v).length) c v

theorem runCalls_map {γ : Type} (g : γ → Statements Unit) (l : List γ) :
    runCalls (l.map g) = l.foldlM (fun _ a => g a) () := List.foldlM_map ..

theorem runCalls_flatMap {γ : Type} (g : γ → List (Statements Unit)) (l : List γ) :
    runCalls (l.flatMap g) = l.foldlM (fun _ a => runCalls (g a)) () := by
  induction l with
  | nil => rfl
  | cons a l ih =>
    rw [List.flatMap_cons, runCalls_append, List.foldlM_cons, ih]

/-- The calls one after another are the rebuild. -/
theorem follows_repopulateWorld {today : Date} {historyDays : ℤ} (long : 1 ≤ historyDays) :
    Follows (repopulateWorld env today historyDays) (runCalls (rebuildCalls env today historyDays)) := by
  have split : runCalls (rebuildCalls env today historyDays) = (do
      (do
        attempted env .rebaseClock
          (discard (rebaseClock env.worldStateId today ("Repopulated to " ++ isoformat today)))
        cancelCalls env
        generatedTables.foldlM (fun _ table => attempted env (.delete table) (modify table.clear)) ()
        attempted env .flush (pure ()))
      (window today historyDays).foldlM (fun _ d => runCalls (dayCalls env d)) ()) := by
    rw [rebuildCalls, runCalls_append, runCalls_append, runCalls_append, runCalls_cons, runCalls_cons, runCalls_cons,
      runCalls_map, runCalls_flatMap]
    simp only [bind_assoc]
    rfl
  rw [split]
  unfold repopulateWorld
  rw [if_neg (not_lt.2 long)]
  refine Follows.bind ?_ fun count => ?_
  · unfold prepareWorld
    refine (follows_attempt (follows_execute _) _).bind fun _ => ?_
    refine follows_cancelLiveScenarios.bind fun count => ?_
    refine (follows_foldlM (fun _ table => follows_attempt (.execute_unit (modify table.clear)) _) _ ()).bind
      fun _ => ?_
    exact (follows_attempt (follows_pure ()) _).value fun _ => count
  · exact (follows_foldlM (fun _ d => follows_generateDay d) _ ()).value _

end Follows

/-! ## The transaction -/

/-- The rebuild, from the row of the clock to its commit. -/
def rebuildTxn (today : Date) (historyDays : ℤ) : Txn (Database Platform) :=
  .inOrder (rebuildCalls env today historyDays)

theorem repopulateWork_calls {today : Date} {historyDays : ℤ} (long : 1 ≤ historyDays) (db : Database Platform) :
    (repopulateWork env today historyDays db).2 =
      match runCalls (rebuildCalls env today historyDays) db with
      | .ok _ db' => db'
      | .error _ _ => db := by
  have whole : Follows (repopulateWorld env today historyDays) (runCalls (rebuildCalls env today historyDays)) :=
    follows_repopulateWorld long
  have follows := whole db db
  cases ran : runCalls (rebuildCalls env today historyDays) db with
  | ok _ db' =>
    rw [ran] at follows
    obtain ⟨result, returned⟩ := follows
    rw [repopulateWork, show Tx.start db = ⟨db, db, true⟩ from rfl, returned]
    rfl
  | error e db' =>
    rw [ran] at follows
    obtain ⟨e', t, raised⟩ := follows
    refine repopulateWork_error (e := e') ?_
    rw [repopulateWork, show Tx.start db = ⟨db, db, true⟩ from rfl, raised]

/-! ## Up to the rows of failed ticks -/

section Noise

variable {env}

/-- Two databases that differ in the log alone. -/
theorem sameButFailed_cases {v v' : Database Platform} (same : SameButFailed v v') :
    ∃ ticks, v' = { v with scheduledTick := ticks } ∧
      ticks.filter (·.status ≠ .failed) = v.scheduledTick.filter (·.status ≠ .failed) := by
  obtain ⟨clock, tables, ticks⟩ := same
  obtain ⟨clock', log, tables'⟩ := v'
  cases clock
  cases tables
  exact ⟨log, rfl, ticks⟩

theorem respects_attempted {x : Statements Unit} (h : Txn.Respects SameButFailed x) (step : RepopulateStep) :
    Txn.Respects SameButFailed (attempted env step x) := by
  unfold attempted
  cases env.fails step with
  | none => exact h
  | some failure => exact Txn.respects_throw failure.error

theorem respects_rebaseClock (id : Uuid) (today : Date) (label : String) :
    Txn.Respects SameButFailed (rebaseClock id today label) := by
  intro v v' same
  obtain ⟨ticks, rfl, filtered⟩ := sameButFailed_cases same
  unfold rebaseClock
  rw [get_bind, get_bind]
  dsimp only
  cases v.tables.currentWorldStateId with
  | none => exact ⟨rfl, same⟩
  | some current =>
    dsimp only
    cases lookup WorldState.id current v.tables.worldState with
    | none => exact ⟨rfl, same⟩
    | some head =>
      dsimp only
      cases insert? WorldState.id ⟨id, .reset, today, head.seed, label, some head.id⟩ v.tables.worldState with
      | none => exact ⟨rfl, same⟩
      | some worldState => exact ⟨rfl, rfl, rfl, filtered⟩

theorem respects_cancelScenario (id : Uuid) : Txn.Respects SameButFailed (cancelScenario id) := by
  intro v v' same
  obtain ⟨ticks, rfl, filtered⟩ := sameButFailed_cases same
  unfold cancelScenario
  rw [get_bind, get_bind]
  dsimp only
  cases lookup Scenario.id id v.tables.scenario with
  | none => exact ⟨rfl, same⟩
  | some scenario =>
    dsimp only
    cases Scenarios.cancelScenario scenario with
    | error e => exact ⟨rfl, same⟩
    | ok assigned => exact ⟨rfl, rfl, rfl, filtered⟩

theorem respects_cancelCalls : Txn.Respects SameButFailed (cancelCalls env) := by
  intro v v' same
  have loaded : liveScenarios env v' = liveScenarios env v := by rw [liveScenarios, liveScenarios, same.tables]
  unfold cancelCalls
  rw [get_bind, get_bind, loaded]
  exact Txn.Respects.foldlM (fun _ id => respects_attempted (respects_cancelScenario id) _) _ () v v' same

theorem respects_clear (table : GeneratedTable) :
    Txn.Respects SameButFailed (modify table.clear : Statements Unit) := by
  intro v v' same
  obtain ⟨ticks, rfl, filtered⟩ := sameButFailed_cases same
  refine ⟨rfl, ?_⟩
  cases table
  case scheduledTick => exact ⟨rfl, rfl, rfl⟩
  all_goals exact ⟨rfl, rfl, filtered⟩

theorem respects_tickCall (d : Date) : Txn.Respects SameButFailed (tickCall env d) := by
  intro v v' same
  unfold tickCall
  rw [same.tables]
  cases dayFlow env d v.tables with
  | ok events p => exact ⟨rfl, sameButFailed_addRow _ ⟨same.clock, rfl, same.ticks⟩⟩
  | error e p => exact ⟨rfl, same⟩

theorem respects_evaluateExceptions (day : DayEnv) (d : Date) :
    Txn.Respects SameButFailed (evaluateExceptions day d) := by
  intro v v' same
  obtain ⟨ticks, rfl, filtered⟩ := sameButFailed_cases same
  unfold evaluateExceptions
  rw [get_bind, get_bind]
  dsimp only
  cases syncAll (exceptionCalls day.engine v.clock.simulationDate d (engineTables v.tables)) v.tables.exceptionFlag with
  | none => exact ⟨rfl, same⟩
  | some flags => exact ⟨rfl, rfl, rfl, filtered⟩

theorem respects_computeAndSnapshotKpis (day : DayEnv) (d : Date) :
    Txn.Respects SameButFailed (computeAndSnapshotKpis day d) := by
  intro v v' same
  obtain ⟨ticks, rfl, filtered⟩ := sameButFailed_cases same
  unfold computeAndSnapshotKpis
  rw [get_bind, get_bind]
  dsimp only
  cases Kpi.computeAndSnapshotKpis day.supplyRows v.clock.simulationDate v.tables.world d v.tables.kpis with
  | error e => exact ⟨rfl, same⟩
  | ok kpis => exact ⟨rfl, rfl, rfl, filtered⟩

theorem respects_syncReportingLayer (day : DayEnv) (lagDays : ℤ) (d : Date) :
    Txn.Respects SameButFailed (syncReportingLayer day lagDays d) := by
  intro v v' same
  obtain ⟨ticks, rfl, filtered⟩ := sameButFailed_cases same
  exact ⟨rfl, rfl, rfl, filtered⟩

theorem respects_rebuildCalls (today : Date) (historyDays : ℤ) :
    ∀ x ∈ rebuildCalls env today historyDays, Txn.Respects SameButFailed x := by
  intro x mem
  simp only [rebuildCalls, List.mem_append, List.mem_cons, List.not_mem_nil, or_false, List.mem_map,
    List.mem_flatMap] at mem
  rcases mem with (((rfl | rfl) | ⟨table, -, rfl⟩) | rfl) | ⟨d, -, mem⟩
  · exact respects_attempted ((respects_rebaseClock _ _ _).bind fun _ => Txn.respects_pure ()) _
  · exact respects_cancelCalls
  · exact respects_attempted (respects_clear table) _
  · exact respects_attempted (Txn.respects_pure ()) _
  · simp only [dayCalls, List.mem_cons, List.not_mem_nil, or_false] at mem
    rcases mem with rfl | rfl | rfl | rfl | rfl
    · exact respects_attempted (respects_tickCall d) _
    · exact respects_attempted (respects_syncReportingLayer _ _ d) _
    · exact respects_attempted (respects_evaluateExceptions _ d) _
    · exact respects_attempted (respects_computeAndSnapshotKpis _ d) _
    · exact respects_attempted (Txn.respects_pure ()) _

end Noise

end MeadowOps.Simulation
