import MeadowOps.Flow.Allocation
import MeadowOps.Flow.Snapshots
import MeadowOps.Simulation.Repopulate

/-!
# Repopulating is all or nothing

A rebuild that raises anywhere commits nothing. One that returns has gone through every call, and leaves one
row for each day of the window in each of the daily tables.
-/

namespace MeadowOps.Simulation

open Db Lib MeadowOps.Flow Scheduler Kpi Reporting Exceptions Scenarios

/-! ## One row a day -/

/-- One row for each day from `start` through `last`. -/
structure OnePerDay {ρ : Type} (date : ρ → Date) (start last : Date) (rows : List ρ) : Prop where
  keyed : Keyed date rows
  days : ∀ d, d ∈ rows.map date ↔ start ≤ d ∧ d ≤ last

section OnePerDay

variable {ρ : Type} {date : ρ → Date} {start d : Date} {rows : List ρ}

theorem onePerDay_nil : OnePerDay date start (start - 1) ([] : List ρ) := by
  refine ⟨List.nodup_nil, fun d => ?_⟩
  rw [List.map_nil, iff_false_intro List.not_mem_nil, false_iff]
  unfold Date at *
  omega

theorem OnePerDay.fresh (h : OnePerDay date start (d - 1) rows) : d ∉ rows.map date := by
  rw [h.days]
  unfold Date at *
  omega

theorem OnePerDay.append (h : OnePerDay date start (d - 1) rows) (le : start ≤ d) {r : ρ}
    (today : date r = d) : OnePerDay date start d (rows ++ [r]) where
  keyed := h.keyed.append (today ▸ h.fresh)
  days := by
    intro d'
    rw [List.map_append, List.mem_append, h.days, List.map_singleton, List.mem_singleton, today]
    unfold Date at *
    omega

theorem OnePerDay.upsert (h : OnePerDay date start (d - 1) rows) (le : start ≤ d) {r : ρ}
    (today : date r = d) : OnePerDay date start d (upsert date rows r) := by
  rw [Lib.upsert, if_neg (today ▸ h.fresh)]
  exact h.append le today

theorem OnePerDay.count {last : Date} (h : OnePerDay date start last rows) (d : Date) :
    (rows.filter fun r => date r = d).length = if start ≤ d ∧ d ≤ last then 1 else 0 := by
  by_cases within : start ≤ d ∧ d ≤ last
  · rw [if_pos within]
    obtain ⟨r, mem, same⟩ := List.mem_map.1 ((h.days d).2 within)
    exact (h.keyed.filter_length d).2 ⟨r, mem, same⟩
  · rw [if_neg within, List.length_eq_zero_iff, List.filter_eq_nil_iff]
    intro r mem same
    exact within ((h.days d).1 (of_decide_eq_true same ▸ List.mem_map_of_mem mem))

end OnePerDay

/-! ## Before the first day -/

section Prepared

variable {env : RepopulateEnv}

theorem rebaseClock_ok {id id' : Uuid} {today : Date} {label : String} {db db' : Database Platform}
    (h : rebaseClock id today label db = .ok id' db') :
    ∃ worldState, db' = { db with
      clock := ⟨today, .running⟩
      tables := { db.tables with worldState := worldState, currentWorldStateId := some id } } := by
  obtain ⟨_, _, ⟨⟩, h⟩ := bind_eq_ok h
  dsimp only at h
  cases current : db.tables.currentWorldStateId with
  | none =>
    rw [current] at h
    cases h
  | some head =>
    rw [current] at h
    dsimp only at h
    cases found : lookup WorldState.id head db.tables.worldState with
    | none =>
      rw [found] at h
      cases h
    | some head =>
      rw [found] at h
      dsimp only at h
      cases inserted : insert? WorldState.id ⟨id, .reset, today, head.seed, label, some head.id⟩
          db.tables.worldState with
      | none =>
        rw [inserted] at h
        cases h
      | some worldState =>
        rw [inserted] at h
        cases h
        exact ⟨worldState, rfl⟩

theorem write_cancelled {scenario : Scenario} (live : scenario.status ≠ .cancelled) (row : Scenario) :
    ((Assigned.changes { status := some .cancelled } scenario).write row).status = .cancelled := by
  have differs : decide (ScenarioStatus.cancelled ≠ scenario.status) = true := decide_eq_true live.symm
  simp only [Assigned.changes, Assigned.write, Option.filter, differs, if_true, Option.getD_some]

/-- The scenario and whatever shares its id are cancelled, and nothing else changes. -/
theorem cancelScenario_ok {id : Uuid} {db db' : Database Platform} (h : cancelScenario id db = .ok () db') :
    ∃ rows, db' = { db with tables := { db.tables with scenario := rows } } ∧
      ∀ s ∈ rows, s.status = .cancelled ∨ s ∈ db.tables.scenario ∧ s.id ≠ id := by
  obtain ⟨_, _, ⟨⟩, h⟩ := bind_eq_ok h
  dsimp only at h
  cases found : lookup Scenario.id id db.tables.scenario with
  | none =>
    rw [found] at h
    cases h
  | some scenario =>
    rw [found] at h
    obtain ⟨assigned, _, lifted, h⟩ := bind_eq_ok h
    obtain ⟨cancelled, rfl⟩ := liftExcept_eq_ok lifted
    cases h
    refine ⟨_, rfl, fun s mem => ?_⟩
    obtain ⟨s₀, mem₀, rfl⟩ := mem_modify.1 mem
    by_cases same : s₀.id = id
    · left
      obtain ⟨_, allowed, assigned⟩ := ok_of_bind cancelled
      cases assigned
      have live : scenario.status ≠ .cancelled := by
        intro status
        rw [requireTransition, status] at allowed
        cases allowed
      rw [if_pos same]
      exact write_cancelled live s₀
    · right
      rw [if_neg same]
      exact ⟨mem₀, same⟩

/-- The loop over the live scenarios: the ones to come are the only ones that are not cancelled. -/
theorem cancelLiveScenarios_ok {t t' : Tx (Database Platform)} {count : ℕ}
    (h : cancelLiveScenarios env t = .ok count t') :
    (∀ s ∈ liveScenarios env t.pending, env.fails (.cancelScenario s.id) = none) ∧
    ∃ rows, t'.pending = { t.pending with tables := { t.pending.tables with scenario := rows } } ∧
      ∀ s ∈ rows, s.status = .cancelled := by
  obtain ⟨_, _, ⟨⟩, h⟩ := bind_eq_ok h
  obtain ⟨_, _, loop, h⟩ := bind_eq_ok h
  cases h
  constructor
  · intro s mem
    obtain ⟨_, _, _, _, ran⟩ := foldlM_ok_mem loop (List.mem_map_of_mem (f := (·.id)) mem)
    exact (attempt_ok ran).1
  · have inv := foldlM_inv (F := fun _ => True)
      (f := fun (_ : Unit) scenarioId =>
        attempt env (.cancelScenario scenarioId) (execute (cancelScenario scenarioId)))
      (J := fun ids _ t₁ => ∃ rows,
        t₁.pending = { t.pending with tables := { t.pending.tables with scenario := rows } } ∧
          ∀ s ∈ rows, s.status = .cancelled ∨ s.id ∈ ids) ?_
      ((liveScenarios env t.pending).map (·.id)) () t ⟨t.pending.tables.scenario, rfl, ?_⟩
    · rw [loop] at inv
      obtain ⟨rows, pending, cancelled⟩ := inv
      exact ⟨rows, pending, fun s mem => (cancelled s mem).resolve_right List.not_mem_nil⟩
    · rintro id ids ⟨⟩ t₁ ⟨rows, pending, cancelled⟩
      cases run : attempt env (.cancelScenario id) (execute (cancelScenario id)) t₁ with
      | error e t₂ => trivial
      | ok a t₂ =>
        obtain ⟨-, db, cancel, rfl⟩ := attempt_execute_ok run
        obtain ⟨rows', rfl, others⟩ := cancelScenario_ok cancel
        refine ⟨rows', by rw [pending], fun s mem => ?_⟩
        rw [pending] at others
        rcases others s mem with done | ⟨old, other⟩
        · exact .inl done
        · exact (cancelled s old).imp_right fun later => (List.mem_cons.1 later).resolve_left other
    · intro s mem
      by_cases status : s.status = .cancelled
      · exact .inl status
      · right
        rw [liveScenarios, List.mem_map]
        exact ⟨s, by simp [mem, status], rfl⟩

/-- The database without a generated row. -/
def cleared (db : Database Platform) : Database Platform :=
  generatedTables.foldl (fun db table => table.clear db) db

theorem cleared_eq (db : Database Platform) : cleared db = { db with
    scheduledTick := []
    tables := { db.tables with
      world := World.empty db.tables.world.master
      exceptionFlag := []
      kpis := ⟨[], []⟩
      reportingInventorySnapshot := []
      reportingSyncState := none } } := by
  simp only [cleared, generatedTables, List.foldl_cons, List.foldl_nil, GeneratedTable.clear,
    GeneratedTable.clearWorld, World.empty]

theorem deletes_ok {tables : List GeneratedTable} {t t' : Tx (Database Platform)}
    (h : tables.foldlM (fun (_ : Unit) table =>
      attempt env (.delete table) (execute (modify table.clear))) () t = .ok () t') :
    t'.pending = tables.foldl (fun db table => table.clear db) t.pending := by
  induction tables generalizing t with
  | nil =>
    cases h
    rfl
  | cons table tables ih =>
    rw [List.foldlM_cons] at h
    obtain ⟨_, _, first, rest⟩ := bind_eq_ok h
    obtain ⟨-, _, ⟨⟩, rfl⟩ := attempt_execute_ok first
    exact ih rest

/-- The calls before the first day. -/
def preparingSteps (env : RepopulateEnv) (db : Database Platform) : List RepopulateStep :=
  .rebaseClock :: ((liveScenarios env db).map fun s => .cancelScenario s.id) ++
    generatedTables.map .delete ++ [.flush]

/-- The calls of a day. -/
def dailySteps (d : Date) : List RepopulateStep :=
  [.runScheduledTick d, .syncReportingLayer d, .evaluateExceptions d, .computeAndSnapshotKpis d,
    .onProgress d]

/-- The tables when the days through `last` are generated. -/
structure Rebuilding (m : Master) (today start last : Date) (db : Database Platform) : Prop where
  clock : db.clock = ⟨today, .running⟩
  scenarios : ∀ s ∈ db.tables.scenario, s.status = .cancelled
  master : db.tables.world.master = m
  wf : Wf db.tables.world
  ticks : OnePerDay ScheduledTick.simulationDate start last db.scheduledTick
  success : ∀ tick ∈ db.scheduledTick, tick.status = .success
  kpis : OnePerDay KpiSnapshot.simulationDate start last db.tables.kpis.kpiSnapshot
  grains : Keyed InventorySnapshot.grain db.tables.world.inventorySnapshot
  snapshots : ∀ d p wh, (d, p, wh) ∈ db.tables.world.inventorySnapshot.map InventorySnapshot.grain ↔
    (start ≤ d ∧ d ≤ last) ∧ ActivePair m p wh

/-- The world of the first day. -/
def emptied (db : Database Platform) (today : Date) (id : Uuid) (worldState : List WorldState)
    (scenario : List Scenario) : Database Platform where
  clock := ⟨today, .running⟩
  scheduledTick := []
  tables := { db.tables with
    currentWorldStateId := some id
    worldState := worldState
    scenario := scenario
    world := World.empty db.tables.world.master
    exceptionFlag := []
    kpis := ⟨[], []⟩
    reportingInventorySnapshot := []
    reportingSyncState := none }

theorem prepareWorld_ok {today : Date} {t t' : Tx (Database Platform)} {count : ℕ}
    (h : prepareWorld env today t = .ok count t') :
    (∀ step ∈ preparingSteps env t.pending, env.fails step = none) ∧
      ∃ worldState scenario, (∀ s ∈ scenario, s.status = .cancelled) ∧
        t'.pending = emptied t.pending today env.worldStateId worldState scenario := by
  obtain ⟨_, _, rebase, h⟩ := bind_eq_ok h
  obtain ⟨rebased, _, clock, rfl⟩ := attempt_execute_ok rebase
  obtain ⟨worldState, rfl⟩ := rebaseClock_ok clock
  obtain ⟨_, t₁, cancel, h⟩ := bind_eq_ok h
  obtain ⟨cancels, rows, pending, cancelled⟩ := cancelLiveScenarios_ok cancel
  obtain ⟨_, t₂, delete, h⟩ := bind_eq_ok h
  obtain ⟨_, t₃, flush, h⟩ := bind_eq_ok h
  obtain ⟨flushed, same⟩ := attempt_ok flush
  cases same
  cases h
  refine ⟨?_, worldState, rows, cancelled, ?_⟩
  · intro step mem
    simp only [preparingSteps, List.mem_append, List.mem_cons, List.mem_map, List.not_mem_nil,
      or_false] at mem
    rcases mem with ((rfl | ⟨s, live, rfl⟩) | ⟨table, generated, rfl⟩) | rfl
    · exact rebased
    · exact cancels s live
    · obtain ⟨_, _, _, _, ran⟩ := foldlM_ok_mem delete generated
      exact (attempt_ok ran).1
    · exact flushed
  · have deleted : t'.pending = cleared t₁.pending := deletes_ok delete
    rw [deleted, pending, cleared_eq, emptied]

theorem rebuilding_emptied (db : Database Platform) {today start : Date} {id : Uuid}
    {worldState : List WorldState} {scenario : List Scenario} (cancelled : ∀ s ∈ scenario, s.status = .cancelled) :
    Rebuilding db.tables.world.master today start (start - 1) (emptied db today id worldState scenario) where
  clock := rfl
  scenarios := cancelled
  master := rfl
  wf := (emptyWorld db.tables.world.master).wf
  ticks := onePerDay_nil
  success := fun _ mem => absurd mem List.not_mem_nil
  kpis := onePerDay_nil
  grains := List.nodup_nil
  snapshots := by
    intro d p wh
    constructor
    · exact fun mem => absurd mem List.not_mem_nil
    · rintro ⟨within, -⟩
      unfold Date at *
      omega

end Prepared

/-! ## The days -/

section Days

variable {env : RepopulateEnv}

/-- What a day that returns has run, and what it leaves. -/
structure DayReturned (env : RepopulateEnv) (d : Date) (db db' : Database Platform) : Prop where
  steps : ∀ step ∈ dailySteps d, env.fails step = none
  flow : env.flowFails d = none
  tables : ∃ events w reporting syncState flags,
    scheduledFlow (env.day d).tick d db.tables.world = .ok events w ∧
    db' = { db with
      scheduledTick := db.scheduledTick ++ [⟨d, events, .success⟩]
      tables := { db.tables with
        world := w
        reportingInventorySnapshot := reporting
        reportingSyncState := syncState
        exceptionFlag := flags
        kpis := upsertKpis ((env.day d).supplyRows.rows (daysOfSupply db.clock.simulationDate w)) w d
          db.tables.kpis } }

/-- The calls of a day that returns: its verdicts are on the tables that the flow and the reporting layer left. -/
theorem generateDay_calls {d : Date} {t t' : Tx (Database Platform)} (h : generateDay env d t = .ok () t') :
    (∀ step ∈ dailySteps d, env.fails step = none) ∧ env.flowFails d = none ∧
    ∃ events w reporting syncState db,
      scheduledFlow (env.day d).tick d t.pending.tables.world = .ok events w ∧
      evaluateExceptions (env.day d) d { t.pending with
        scheduledTick := t.pending.scheduledTick ++ [⟨d, events, .success⟩]
        tables := { t.pending.tables with
          world := w
          reportingInventorySnapshot := reporting
          reportingSyncState := syncState } } = .ok () db ∧
      computeAndSnapshotKpis (env.day d) d db = .ok () t'.pending := by
  obtain ⟨_, _, tick, h⟩ := bind_eq_ok h
  obtain ⟨ticked, tick⟩ := attempt_ok tick
  obtain ⟨flow, events, w, run, rfl⟩ := scheduledTick_ok tick
  obtain ⟨_, _, sync, h⟩ := bind_eq_ok h
  obtain ⟨synced, _, copy, rfl⟩ := attempt_execute_ok sync
  cases copy
  obtain ⟨_, _, evaluate, h⟩ := bind_eq_ok h
  obtain ⟨evaluated, db, flagged, rfl⟩ := attempt_execute_ok evaluate
  obtain ⟨_, _, compute, progress⟩ := bind_eq_ok h
  obtain ⟨computed, _, snapshot, rfl⟩ := attempt_execute_ok compute
  obtain ⟨progressed, same⟩ := attempt_ok progress
  cases same
  refine ⟨?_, flow, events, w, _, _, db, run, flagged, snapshot⟩
  intro step mem
  simp only [dailySteps, List.mem_cons, List.not_mem_nil, or_false] at mem
  rcases mem with rfl | rfl | rfl | rfl | rfl
  · exact ticked
  · exact synced
  · exact evaluated
  · exact computed
  · exact progressed

theorem generateDay_ok {d : Date} {t t' : Tx (Database Platform)} (h : generateDay env d t = .ok () t') :
    DayReturned env d t.pending t'.pending := by
  obtain ⟨steps, unfailing, events, w, reporting, syncState, db, run, flagged, snapshot⟩ := generateDay_calls h
  obtain ⟨flags, -, rfl⟩ := evaluateExceptions_ok flagged
  exact ⟨steps, unfailing, events, w, reporting, syncState, flags, run, computeAndSnapshotKpis_ok snapshot⟩

/-- A day that returns adds its rows. -/
theorem Rebuilding.day {m : Master} {today start d : Date} {db db' : Database Platform} (le : start ≤ d)
    (h : Rebuilding m today start (d - 1) db) (returned : DayReturned env d db db') :
    Rebuilding m today start d db' := by
  obtain ⟨events, w, reporting, syncState, flags, run, rfl⟩ := returned.tables
  have steps := scheduledFlow_steps (env.day d).tick d h.wf
  rw [run] at steps
  obtain ⟨added, pairs⟩ := scheduledFlow_snapshots h.wf h.grains run
  constructor
  case clock => exact h.clock
  case scenarios => exact h.scenarios
  case master => exact added.master.trans h.master
  case wf => exact steps.wf h.wf
  case ticks => exact h.ticks.append le rfl
  case success =>
    intro tick mem
    rcases List.mem_append.1 mem with old | new
    · exact h.success tick old
    · rw [List.mem_singleton.1 new]
  case kpis => exact h.kpis.upsert le rfl
  case grains => exact added.keyed
  case snapshots =>
    intro d' p wh
    rw [← h.master]
    have before := h.snapshots d' p wh
    rw [← h.master] at before
    constructor
    · intro mem
      rcases added.new d' p wh mem with old | ⟨rfl, active⟩
      · obtain ⟨within, active⟩ := before.1 old
        refine ⟨?_, active⟩
        unfold Date at *
        omega
      · exact ⟨⟨le, le_rfl⟩, active⟩
    · rintro ⟨⟨first, last⟩, active⟩
      rcases last.eq_or_lt with rfl | earlier
      · exact pairs p wh active
      · refine added.old _ (before.2 ⟨⟨first, ?_⟩, active⟩)
        unfold Date at *
        omega

end Days

/-! ## The unit of work -/

theorem window_eq {today : Date} {historyDays : ℤ} :
    window today historyDays = daysThrough (startDate today historyDays) today := by
  have length : (today + 1 - startDate today historyDays).toNat = historyDays.toNat := by
    unfold startDate Date at *
    omega
  rw [window, daysThrough, length]

/-- The world that a rebuild commits. -/
structure Repopulated (today : Date) (historyDays : ℤ) (db : Database Platform) : Prop where
  clock : db.clock = ⟨today, .running⟩
  scenarios : ∀ s ∈ db.tables.scenario, s.status = .cancelled
  ticks : ∀ d, (db.scheduledTick.filter fun tick => tick.simulationDate = d).length =
    if d ∈ window today historyDays then 1 else 0
  success : ∀ tick ∈ db.scheduledTick, tick.status = .success
  kpis : ∀ d, (db.tables.kpis.kpiSnapshot.filter fun s => s.simulationDate = d).length =
    if d ∈ window today historyDays then 1 else 0
  snapshots : ∀ d p wh, ActivePair db.tables.world.master p wh →
    (db.tables.world.inventorySnapshot.filter fun s => InventorySnapshot.grain s = (d, p, wh)).length =
      if d ∈ window today historyDays then 1 else 0
  otherSnapshots : ∀ s ∈ db.tables.world.inventorySnapshot,
    s.snapshotDate ∈ window today historyDays ∧ ActivePair db.tables.world.master s.productId s.warehouseId

theorem Rebuilding.repopulated {m : Master} {today : Date} {historyDays : ℤ} {db : Database Platform}
    (h : Rebuilding m today (startDate today historyDays) today db) : Repopulated today historyDays db := by
  have within : ∀ d, d ∈ window today historyDays ↔ startDate today historyDays ≤ d ∧ d ≤ today := by
    intro d
    rw [window_eq, mem_daysThrough]
  constructor
  case clock => exact h.clock
  case scenarios => exact h.scenarios
  case ticks =>
    intro d
    simp only [within]
    exact h.ticks.count d
  case success => exact h.success
  case kpis =>
    intro d
    simp only [within]
    exact h.kpis.count d
  case snapshots =>
    intro d p wh active
    rw [h.master] at active
    simp only [within]
    by_cases inside : startDate today historyDays ≤ d ∧ d ≤ today
    · rw [if_pos inside]
      exact (h.grains.filter_length _).2 (List.mem_map.1 ((h.snapshots d p wh).2 ⟨inside, active⟩))
    · rw [if_neg inside, List.length_eq_zero_iff, List.filter_eq_nil_iff]
      intro s mem same
      have grain := (h.snapshots d p wh).1 (of_decide_eq_true same ▸ List.mem_map_of_mem mem)
      exact inside grain.1
  case otherSnapshots =>
    intro s mem
    rw [within, h.master]
    exact (h.snapshots _ _ _).1 (List.mem_map_of_mem mem)

section Work

variable {env : RepopulateEnv} {today : Date} {historyDays : ℤ} {db : Database Platform}

theorem repopulateWorld_calls {result : RepopulateResult} {t t' : Tx (Database Platform)}
    (run : repopulateWorld env today historyDays t = .ok result t') : 1 ≤ historyDays ∧ ∃ count t₁,
      prepareWorld env today t = .ok count t₁ ∧
      (window today historyDays).foldlM (fun (_ : Unit) d => generateDay env d) () t₁ = .ok () t' := by
  unfold repopulateWorld at run
  split at run
  · cases run
  · rename_i long
    obtain ⟨count, t₁, prepare, run⟩ := bind_eq_ok run
    obtain ⟨_, t₂, days, run⟩ := bind_eq_ok run
    cases run
    exact ⟨not_lt.1 long, count, t₁, prepare, days⟩

/-- What holds of the emptied tables and is kept by each day holds when a rebuild returns. -/
theorem repopulateWorld_rule {J : Database Platform → Prop} {result : RepopulateResult}
    {t t' : Tx (Database Platform)}
    (empty : ∀ worldState scenario, J (emptied t.pending today env.worldStateId worldState scenario))
    (day : ∀ d s s', J s.pending → generateDay env d s = .ok () s' → J s'.pending)
    (run : repopulateWorld env today historyDays t = .ok result t') : J t'.pending := by
  obtain ⟨-, count, t₁, prepare, days⟩ := repopulateWorld_calls run
  obtain ⟨-, worldState, scenario, -, pending⟩ := prepareWorld_ok prepare
  have start : J t₁.pending := pending ▸ empty worldState scenario
  have loop := foldlM_inv (f := fun (_ : Unit) d => generateDay env d) (J := fun _ _ s => J s.pending)
    (F := fun _ => True) ?_ (window today historyDays) () t₁ start
  · rw [days] at loop
    exact loop
  · intro d _ _ s h
    cases ran : generateDay env d s with
    | error e s' => trivial
    | ok _ s' => exact day d s s' h ran

/-- The job leaves the tables alone, or commits a rebuild that returned. -/
theorem repopulateWork_cases (env : RepopulateEnv) (today : Date) (historyDays : ℤ) (db : Database Platform) :
    (∃ e, repopulateWork env today historyDays db = (.error e, db)) ∨
    ∃ result t, repopulateWorld env today historyDays (Tx.start db) = .ok result t ∧
      repopulateWork env today historyDays db = (.ok (outcomeMessage env result), t.pending) := by
  cases run : repopulateWorld env today historyDays (Tx.start db) with
  | error e t =>
    have raised : (repopulateWork env today historyDays db).1 = .error e := by rw [repopulateWork, run]
    exact .inl ⟨e, Prod.ext raised (repopulateWork_error raised)⟩
  | ok result t =>
    refine .inr ⟨result, t, rfl, ?_⟩
    rw [repopulateWork, run]
    rfl

/-- A rebuild that returns has run every call. -/
theorem repopulateWorld_ok {result : RepopulateResult} {t : Tx (Database Platform)}
    (run : repopulateWorld env today historyDays (Tx.start db) = .ok result t) :
    (∀ step ∈ preparingSteps env db ++ (window today historyDays).flatMap dailySteps,
      env.fails step = none) ∧
    (∀ d ∈ window today historyDays, env.flowFails d = none) ∧
    Repopulated today historyDays t.pending := by
  obtain ⟨long, count, t₁, prepare, days⟩ := repopulateWorld_calls run
  obtain ⟨prepared, worldState, scenario, cancelled, pending⟩ := prepareWorld_ok prepare
  have start : Rebuilding db.tables.world.master today (startDate today historyDays)
      (startDate today historyDays - 1) t₁.pending := by
    rw [pending]
    exact rebuilding_emptied db cancelled
  have returned : ∀ d ∈ window today historyDays, ∃ db db', DayReturned env d db db' := by
    intro d mem
    obtain ⟨_, s₁, ⟨⟩, s₂, ran⟩ := foldlM_ok_mem days mem
    exact ⟨_, _, generateDay_ok ran⟩
  refine ⟨?_, ?_, ?_⟩
  · intro step mem
    rcases List.mem_append.1 mem with before | daily
    · exact prepared step before
    · obtain ⟨d, day, call⟩ := List.mem_flatMap.1 daily
      obtain ⟨_, _, ran⟩ := returned d day
      exact ran.steps step call
  · intro d mem
    obtain ⟨_, _, ran⟩ := returned d mem
    exact ran.flow
  · rw [window_eq] at days
    refine Rebuilding.repopulated (m := db.tables.world.master) ?_
    refine foldlM_daysThrough_ok (I := fun d t => Rebuilding db.tables.world.master today
      (startDate today historyDays) d t.pending) ?_ start ?_ days
    · intro d s s' first last h ran
      exact h.day first (generateDay_ok ran)
    · unfold startDate Date at *
      omega

/-- A rebuild commits all of its work or none: none when it raises, whichever call of whichever day fails,
and the whole window when it returns. -/
theorem repopulate_all_or_nothing (env : RepopulateEnv) (today : Date) (historyDays : ℤ)
    (db : Database Platform) :
    (∀ e, (repopulateWork env today historyDays db).1 = .error e →
      (repopulateWork env today historyDays db).2 = db) ∧
    (∀ step ∈ preparingSteps env db ++ (window today historyDays).flatMap dailySteps,
      env.fails step ≠ none → (repopulateWork env today historyDays db).2 = db) ∧
    (∀ d ∈ window today historyDays, env.flowFails d ≠ none →
      (repopulateWork env today historyDays db).2 = db) ∧
    ∀ message, (repopulateWork env today historyDays db).1 = .ok message →
      Repopulated today historyDays (repopulateWork env today historyDays db).2 := by
  have raised : ∀ e, (repopulateWork env today historyDays db).1 = .error e →
      (repopulateWork env today historyDays db).2 = db := fun e => repopulateWork_error
  cases run : repopulateWorld env today historyDays (Tx.start db) with
  | error e t =>
    have failed : (repopulateWork env today historyDays db).1 = .error e := by
      rw [repopulateWork, run]
    refine ⟨raised, fun _ _ _ => raised e failed, fun _ _ _ => raised e failed, fun message returned => ?_⟩
    rw [failed] at returned
    cases returned
  | ok result t =>
    obtain ⟨steps, flows, repopulated⟩ := repopulateWorld_ok run
    refine ⟨raised, fun step mem fails => absurd (steps step mem) fails,
      fun d mem fails => absurd (flows d mem) fails, fun message returned => ?_⟩
    rw [repopulateWork, run]
    exact repopulated

end Work

def plainDay (tick : TickEnv) : DayEnv where
  tick := tick
  snapshots := .inserted
  engine := ⟨fun _ => ⟨.inserted, 0, fun _ => 0, fun _ => false⟩, .inserted, .inserted, .inserted, .inserted⟩
  supplyRows := .inserted

/-- No call fails. -/
def plainRebuild (tick : Date → TickEnv) : RepopulateEnv where
  worldStateId := 2
  scenarios := .inserted
  day d := plainDay (tick d)
  lagDays := 2
  fails _ := none
  flowFails _ := none
  refreshFails := false

/-- A paused clock on the clean baseline, a live scenario, and master data. -/
def pausedWorld (m : Master) (thresholds : List ExceptionRuleThreshold) : Database Platform where
  clock := ⟨monday - 1, .paused⟩
  scheduledTick := []
  tables := {
    currentWorldStateId := some 1
    worldState := [⟨1, .cleanBaseline, monday - 1, "baseline-v1", "Clean Baseline", none⟩]
    scenario := [⟨1, .stakeholderRequest, .communication, .standard, .manual, none, Dict.empty, .active,
      none, none⟩]
    world := World.empty m
    exceptionRuleThreshold := thresholds
    exceptionFlag := []
    kpis := ⟨[], []⟩
    reportingInventorySnapshot := []
    reportingSyncState := none }

/-- Boxes at one warehouse: two days are rebuilt, unless the evaluation of the second fails. -/
theorem repopulate_all_or_nothing_twoDays :
    let db := pausedWorld (boxesFor []) []
    let env := plainRebuild fun _ => TickEnv.inOrder fun _ _ => Rng.least
    let boom : Failure (Database Platform) := ⟨id, .other "boom"⟩
    let broken : RepopulateEnv := { env with
      fails := fun step => if step = .evaluateExceptions (monday + 1) then some boom else none }
    Repopulated (monday + 1) 2 (repopulateWork env (monday + 1) 2 db).2 ∧
      (repopulateWork broken (monday + 1) 2 db).2 = db := by
  intro db env boom broken
  have returned : (repopulateWork env (monday + 1) 2 db).1.toOption.isSome = true := by decide +kernel
  cases result : (repopulateWork env (monday + 1) 2 db).1 with
  | error e =>
    rw [result] at returned
    cases returned
  | ok message =>
    refine ⟨(repopulate_all_or_nothing env (monday + 1) 2 db).2.2.2 message result, ?_⟩
    have fails : broken.fails (.evaluateExceptions (monday + 1)) = some boom := rfl
    have called : RepopulateStep.evaluateExceptions (monday + 1) ∈
        preparingSteps broken db ++ (window (monday + 1) 2).flatMap dailySteps := by decide +kernel
    exact (repopulate_all_or_nothing broken (monday + 1) 2 db).2.1 _ called (by simp [fails])

end MeadowOps.Simulation
