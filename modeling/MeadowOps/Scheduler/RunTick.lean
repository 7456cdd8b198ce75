import MeadowOps.Scheduler.Tick
import MeadowOps.Flow.Runs

/-!
# `_run_tick`

One tick of the scheduler: the clock advances, `run_scheduled_tick` runs its passes and the later
steps follow, all in one transaction that is committed in the end. Two handlers see an exception.
The one of `run_scheduled_tick` rolls the session back whatever the exception is, and that discards
the advance of the clock; the one of `_run_tick` rolls back only after a database error. The passes
and the later steps are arbitrary programs over the tables, that may raise anywhere.
-/

namespace MeadowOps.Scheduler

open Db Lib

inductive ClockError where
  | simulationPaused (message : String)
  | valueError (message : String)
  deriving DecidableEq, Repr

section
variable {ε σ : Type}

/-- `advance_date`. -/
def advanceDate (current : Date) (days : ℤ) : Except ClockError Date :=
  if days ≤ 0 then .error (.valueError ("days must be positive, got " ++ toString days))
  else .ok (current + days)

def advanceSimulation (days : ℤ) (t : Tx (Database σ)) :
    Except ClockError (Date × Tx (Database σ)) :=
  if t.pending.clock.status ≠ .running then
    .error (.simulationPaused "cannot advance the simulation clock while paused")
  else do
    let newDate ← advanceDate t.pending.clock.simulationDate days
    .ok (newDate, { t with pending :=
      { t.pending with clock := { t.pending.clock with simulationDate := newDate } } })

/-- What a tick runs: the passes, each with the number of its events, and the later steps, which
may read the clock. -/
structure TickSteps (ε σ : Type) where
  passes : List (Date → EStateM ε σ ℕ)
  posts : List (Date → SimulationClock → EStateM ε σ Unit)

def runPasses (passes : List (Date → EStateM ε σ ℕ)) (d : Date) : EStateM ε σ ℕ :=
  passes.foldlM (fun events pass => do
    let e ← pass d
    pure (events + e)) 0

def runPosts (posts : List (Date → SimulationClock → EStateM ε σ Unit)) (d : Date)
    (clock : SimulationClock) : EStateM ε σ Unit :=
  posts.foldlM (fun _ post => post d clock) ()

variable (aborts : ε → Bool) (steps : TickSteps ε σ)

/-- The calls between the advance of the clock and the commit. -/
def tickBody (d : Date) : EStateM ε (Tx (Database σ)) Unit := do
  let _ ← runScheduledTick aborts (runPasses steps.passes d) d
  let t ← get
  onTables aborts (runPosts steps.posts d t.pending.clock)

/-- What is committed after `_run_tick`. -/
def runTick (db : Database σ) : Database σ :=
  match advanceSimulation 1 (Tx.start db) with
  | .error _ => (Tx.start db).rollback.committed
  | .ok (newDate, t) =>
    match tickBody aborts steps newDate t with
    | .ok _ t => t.commit.committed
    | .error _ t => (if t.active then t else t.rollback).commit.committed

variable {steps}

/-- The clock of a tick on a running clock. -/
def advanced (db : Database σ) : Database σ :=
  { db with clock := { db.clock with simulationDate := db.clock.simulationDate + 1 } }

theorem advanceSimulation_running {db : Database σ} (running : db.clock.status = .running) :
    advanceSimulation 1 (Tx.start db) =
      .ok (db.clock.simulationDate + 1, { Tx.start db with pending := advanced db }) := by
  simp [advanceSimulation, advanceDate, Tx.start, running, advanced, bind, Except.bind]

/-- A pass raised: everything is rolled back but the `FAILED` row. -/
theorem runTick_of_pass_error {db : Database σ} (running : db.clock.status = .running) {e : ε} {s : σ}
    (raised : runPasses steps.passes (db.clock.simulationDate + 1) db.tables = .error e s) :
    runTick aborts steps db = { db with
      scheduledTick := db.scheduledTick ++ [⟨db.clock.simulationDate + 1, 0, .failed⟩] } := by
  have body : tickBody aborts steps (db.clock.simulationDate + 1)
      { Tx.start db with pending := advanced db } =
      .error e (addTick ⟨db.clock.simulationDate + 1, 0, .failed⟩ (Tx.start db)) := by
    have run := runScheduledTick_error aborts (d := db.clock.simulationDate + 1)
      (t := { Tx.start db with pending := advanced db }) raised
    simp only [tickBody, bind, EStateM.bind, run]
    rfl
  simp only [runTick, advanceSimulation_running running, body]
  rfl

/-- The passes returned: what the later steps wrote is kept, unless a database error broke the
transaction. -/
theorem runTick_of_passes_ok {db : Database σ} (running : db.clock.status = .running) {events : ℕ}
    {s : σ} (returned : runPasses steps.passes (db.clock.simulationDate + 1) db.tables = .ok events s)
    (python : ∀ e ∈ raised? (runPosts steps.posts (db.clock.simulationDate + 1) (advanced db).clock s),
      aborts e = false) :
    runTick aborts steps db = { advanced db with
      scheduledTick := db.scheduledTick ++ [⟨db.clock.simulationDate + 1, events, .success⟩]
      tables := endState (runPosts steps.posts (db.clock.simulationDate + 1) (advanced db).clock s) } := by
  have run := runScheduledTick_ok aborts (d := db.clock.simulationDate + 1)
    (t := { Tx.start db with pending := advanced db }) returned
  have body : tickBody aborts steps (db.clock.simulationDate + 1)
      { Tx.start db with pending := advanced db } =
      onTables aborts (runPosts steps.posts (db.clock.simulationDate + 1) (advanced db).clock)
        (addTick ⟨db.clock.simulationDate + 1, events, .success⟩
          { Tx.start db with pending := { advanced db with tables := s } }) := by
    simp only [tickBody, bind, EStateM.bind, run]
    rfl
  simp only [runTick, advanceSimulation_running running, body, onTables, Tx.onPending, zoom, addTick]
  cases posts : runPosts steps.posts (db.clock.simulationDate + 1) (advanced db).clock s with
  | ok _ s' => rfl
  | error e s' =>
    rw [posts] at python
    simp only [python e rfl]
    rfl

theorem runTick_paused {db : Database σ} (paused : db.clock.status ≠ .running) :
    runTick aborts steps db = db := by
  have refused : advanceSimulation 1 (Tx.start db) =
      .error (.simulationPaused "cannot advance the simulation clock while paused") := if_pos paused
  simp only [runTick, refused]
  rfl

/-- A later step broke the transaction. -/
theorem runTick_of_abort {db : Database σ} (running : db.clock.status = .running) {events : ℕ} {s s' : σ}
    {e : ε} (returned : runPasses steps.passes (db.clock.simulationDate + 1) db.tables = .ok events s)
    (raised : runPosts steps.posts (db.clock.simulationDate + 1) (advanced db).clock s = .error e s')
    (broken : aborts e = true) : runTick aborts steps db = db := by
  have run := runScheduledTick_ok aborts (d := db.clock.simulationDate + 1)
    (t := { Tx.start db with pending := advanced db }) returned
  have body := bind_of_ok (f := fun _ => get >>= fun t : Tx (Database σ) =>
    onTables aborts (runPosts steps.posts (db.clock.simulationDate + 1) t.pending.clock)) run
  rw [get_bind] at body
  simp only [runTick, advanceSimulation_running running, tickBody, body]
  simp only [onTables, Tx.onPending, zoom, addTick, raised, broken]
  rfl

/-- The ways a tick ends: nothing is committed, a pass raised, or its writes are committed. -/
theorem runTick_cases (steps : TickSteps ε σ) (db : Database σ) :
    runTick aborts steps db = db ∨
    runTick aborts steps db = { db with
      scheduledTick := db.scheduledTick ++ [⟨db.clock.simulationDate + 1, 0, .failed⟩] } ∨
    ∃ events s, db.clock.status = .running ∧
      runPasses steps.passes (db.clock.simulationDate + 1) db.tables = .ok events s ∧
      runTick aborts steps db = { advanced db with
        scheduledTick := db.scheduledTick ++ [⟨db.clock.simulationDate + 1, events, .success⟩]
        tables := endState (runPosts steps.posts (db.clock.simulationDate + 1) (advanced db).clock s) } := by
  by_cases running : db.clock.status = .running
  · cases passes : runPasses steps.passes (db.clock.simulationDate + 1) db.tables with
    | error e s => exact .inr (.inl (runTick_of_pass_error aborts running passes))
    | ok events s =>
      cases posts : runPosts steps.posts (db.clock.simulationDate + 1) (advanced db).clock s with
      | ok _ s' =>
        refine .inr (.inr ⟨events, s, running, rfl, ?_⟩)
        exact runTick_of_passes_ok aborts running passes (by simp [posts])
      | error e s' =>
        by_cases broken : aborts e = true
        · exact .inl (runTick_of_abort aborts running passes posts broken)
        · refine .inr (.inr ⟨events, s, running, rfl, ?_⟩)
          refine runTick_of_passes_ok aborts running passes fun e' same => ?_
          rw [posts, raised?_error, Option.mem_some_iff] at same
          rw [← same]
          exact eq_false_of_ne_true broken
  · exact .inl (runTick_paused aborts running)

/-! ## Exactly one day -/

/-- The writes of a tick, as far as its passes and later steps ran. -/
def tickWrites (steps : TickSteps ε σ) (db : Database σ) : EStateM ε σ Unit := do
  let _ ← runPasses steps.passes (advanced db).clock.simulationDate
  runPosts steps.posts (advanced db).clock.simulationDate (advanced db).clock

/-- The row a tick is to leave: `FAILED` with no events when a pass raised, else `SUCCESS`. -/
def tickRow (steps : TickSteps ε σ) (db : Database σ) : ScheduledTick :=
  let d := (advanced db).clock.simulationDate
  match runPasses steps.passes d db.tables with
  | .ok events _ => ⟨d, events, .success⟩
  | .error _ _ => ⟨d, 0, .failed⟩

/-- The clock is one day on, the writes are kept, and the new day has one row. -/
structure MovesOnce (steps : TickSteps ε σ) (db db' : Database σ) : Prop where
  clock : db'.clock = (advanced db).clock
  writes : db'.tables = endState (tickWrites steps db db.tables)
  row : db'.scheduledTick.filter (·.simulationDate = (advanced db).clock.simulationDate) =
    [tickRow steps db]

/-- A later step raised what the whole tick raises. -/
theorem tickWrites_of_passes_ok {db : Database σ} {events : ℕ} {s : σ}
    (returned : runPasses steps.passes (advanced db).clock.simulationDate db.tables = .ok events s) :
    tickWrites steps db db.tables =
      runPosts steps.posts (advanced db).clock.simulationDate (advanced db).clock s := by
  simp [tickWrites, bind, EStateM.bind, returned]

/-- On a running clock, and when no database error is raised, a tick moves the clock exactly one day,
keeps its writes and leaves one row for the new day if and only if none of the passes raised and the
new day had no row before. -/
theorem movesOnce_iff {db : Database σ} (running : db.clock.status = .running)
    (python : ∀ e ∈ raised? (tickWrites steps db db.tables), aborts e = false) :
    MovesOnce steps db (runTick aborts steps db) ↔
      raised? (runPasses steps.passes (db.clock.simulationDate + 1) db.tables) = none ∧
      ∀ tick ∈ db.scheduledTick, tick.simulationDate ≠ db.clock.simulationDate + 1 := by
  cases passes : runPasses steps.passes (db.clock.simulationDate + 1) db.tables with
  | error e s =>
    refine ⟨fun moves => ?_, fun h => nomatch h.1⟩
    have stays := moves.clock
    rw [runTick_of_pass_error aborts running passes] at stays
    have day : db.clock.simulationDate = db.clock.simulationDate + 1 :=
      congrArg SimulationClock.simulationDate stays
    exact absurd day (lt_add_one _).ne
  | ok events s =>
    have ran := tickWrites_of_passes_ok passes
    have row : tickRow steps db = ⟨db.clock.simulationDate + 1, events, .success⟩ := by
      simp only [tickRow, advanced, passes]
    rw [ran] at python
    have committed := runTick_of_passes_ok aborts running passes python
    have old : (db.scheduledTick.filter fun tick =>
        tick.simulationDate = db.clock.simulationDate + 1) = [] ↔
        ∀ tick ∈ db.scheduledTick, tick.simulationDate ≠ db.clock.simulationDate + 1 := by
      simp [List.filter_eq_nil_iff]
    have split : (db.scheduledTick ++
        [(⟨db.clock.simulationDate + 1, events, .success⟩ : ScheduledTick)]).filter (fun tick =>
          tick.simulationDate = db.clock.simulationDate + 1) =
        (db.scheduledTick.filter fun tick => tick.simulationDate = db.clock.simulationDate + 1) ++
          [⟨db.clock.simulationDate + 1, events, .success⟩] := by
      rw [List.filter_append]
      simp
    rw [← old, committed]
    constructor
    · intro moves
      have rows := moves.row
      rw [row] at rows
      exact ⟨rfl, List.append_left_eq_self.1 (split.symm.trans rows)⟩
    · rintro ⟨-, none⟩
      refine ⟨rfl, by rw [ran]; rfl, ?_⟩
      rw [row]
      exact split.trans (List.append_left_eq_self.2 none)

/-- When the passes raise on the tables of a day, every further tick finds the same day again. -/
theorem runTick_stuck {db : Database σ} (running : db.clock.status = .running) {e : ε} {s : σ}
    (raised : runPasses steps.passes (db.clock.simulationDate + 1) db.tables = .error e s) (n : ℕ) :
    ((runTick aborts steps)^[n] db).clock = db.clock ∧
      ((runTick aborts steps)^[n] db).tables = db.tables := by
  induction n with
  | zero => exact ⟨rfl, rfl⟩
  | succ n ih =>
    rw [Function.iterate_succ_apply']
    generalize (runTick aborts steps)^[n] db = db' at ih
    obtain ⟨clock, tables⟩ := ih
    rw [runTick_of_pass_error aborts (clock ▸ running) (e := e) (s := s)
      (by rw [clock, tables]; exact raised)]
    exact ⟨clock, tables⟩

end

/-! ## The passes of the flow -/

open MeadowOps.Flow

/-- The seven passes, in the order of their calls. -/
def flowPasses (env : TickEnv) : List (Date → Pass ℕ) :=
  [progressPurchaseOrders env, progressWarehouseTransfers env, createWarehouseTransfersIfNeeded env,
    createPurchaseOrdersIfNeeded env, progressSalesOrdersAndShipments env,
    createSalesOrdersIfNeeded env, fun d => do
      snapshotInventoryPositions env d
      pure 0]

theorem runPasses_flowPasses (env : TickEnv) (d : Date) :
    runPasses (flowPasses env) d = scheduledFlow env d := by
  simp [runPasses, flowPasses, scheduledFlow]

/-- Boxes at one warehouse, before the tick of Monday. -/
def boxesOnSunday (suppliers : List Supplier) : Database World :=
  ⟨⟨monday - 1, .running⟩, [], World.empty
    ⟨[⟨"boxes", .corrugatedPackaging, true⟩], [⟨"main", true⟩], suppliers, [], []⟩⟩

def leastFlow : List (Date → Pass ℕ) := flowPasses (TickEnv.inOrder fun _ _ => Rng.least)

/-- A later step that raises: the day is kept. -/
theorem movesOnce_lateFailure :
    let steps : TickSteps FlowError World := ⟨leastFlow, [fun _ _ => throw .attributeError]⟩
    let db := boxesOnSunday [⟨"acme", "corrugated", 1, .low, true⟩]
    MovesOnce steps db (runTick FlowError.aborts steps db) :=
  (movesOnce_iff FlowError.aborts rfl (by decide +kernel)).2
    ⟨by decide +kernel, fun _ h => nomatch h⟩

/-- No supplier matches the product: a Python exception of a pass undoes the advance of the clock. -/
theorem not_movesOnce_noSupplier :
    let steps : TickSteps FlowError World := ⟨leastFlow, []⟩
    (∀ e ∈ raised? (tickWrites steps (boxesOnSunday []) (boxesOnSunday []).tables), FlowError.aborts e = false) ∧
    ¬ MovesOnce steps (boxesOnSunday []) (runTick FlowError.aborts steps (boxesOnSunday [])) :=
  ⟨by decide +kernel, fun moves => absurd moves.clock (by decide +kernel)⟩

end MeadowOps.Scheduler
