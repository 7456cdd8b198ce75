import MeadowOps.Lib.OneLock
import MeadowOps.Scheduler.RunTick

/-!
# `_run_tick` behind the row of the clock

`_lock_clock` is the first statement of a tick. The passes and the later steps each see what is committed when
they run. A rollback gives the lock up, and so the `FAILED` row is written without it: it may come at any time
later, in between the statements of other transactions.
-/

namespace MeadowOps.Scheduler

open Db Lib OneLock

variable {ε σ : Type}

/-- Only `FAILED` rows of the log differ. -/
structure SameButFailed (db db' : Database σ) : Prop where
  clock : db'.clock = db.clock
  tables : db'.tables = db.tables
  ticks : db'.scheduledTick.filter (·.status ≠ .failed) = db.scheduledTick.filter (·.status ≠ .failed)

theorem sameButFailed_equivalence : Equivalence (SameButFailed (σ := σ)) where
  refl _ := ⟨rfl, rfl, rfl⟩
  symm h := ⟨h.clock.symm, h.tables.symm, h.ticks.symm⟩
  trans h h' := ⟨h'.clock.trans h.clock, h'.tables.trans h.tables, h'.ticks.trans h.ticks⟩

/-! ## The statements of a tick -/

/-- A row of the log. -/
def addRow (row : ScheduledTick) (db : Database σ) : Database σ :=
  { db with scheduledTick := db.scheduledTick ++ [row] }

/-- The handler of `run_scheduled_tick`: the row comes after the rollback. -/
def failedRow (d : Date) : Database σ → Database σ := addRow ⟨d, 0, .failed⟩

theorem sameButFailed_failedRow (d : Date) (db : Database σ) : SameButFailed db (failedRow d db) := by
  refine ⟨rfl, rfl, ?_⟩
  rw [failedRow, addRow, List.filter_append]
  simp

def onTablesOf {α : Type} (x : EStateM ε σ α) : EStateM ε (Database σ) α :=
  zoom Database.tables (fun s db => { db with tables := s }) x

theorem respects_onTablesOf {α : Type} (x : EStateM ε σ α) :
    Txn.Respects SameButFailed (onTablesOf x) := by
  intro v v' same
  unfold onTablesOf zoom
  rw [same.tables]
  cases x v.tables with
  | ok a s => exact ⟨rfl, same.clock, rfl, same.ticks⟩
  | error e s => exact ⟨rfl, same.clock, rfl, same.ticks⟩

/-- The passes still to run, and what follows on the number of events. -/
def passesTxn (d : Date) (then' : ℕ → Txn (Database σ)) :
    List (Date → EStateM ε σ ℕ) → ℕ → Txn (Database σ)
  | [], events => then' events
  | pass :: passes, events =>
    .run (onTablesOf (pass d)) (fun e => passesTxn d then' passes (events + e)) fun _ => .rollbackThen (failedRow d)

/-- The later steps. Only a database error loses what they have written. -/
def postsTxn (aborts : ε → Bool) (d : Date) (clock : SimulationClock) :
    List (Date → SimulationClock → EStateM ε σ Unit) → Txn (Database σ)
  | [] => .commit
  | post :: posts =>
    .run (onTablesOf (post d clock)) (fun _ => postsTxn aborts d clock posts) fun e =>
      if aborts e then .rollback else .commit

def tickTxn (aborts : ε → Bool) (steps : TickSteps ε σ) : Txn (Database σ) :=
  .turn (fun v => if v.clock.status = .running then advanced v else v) fun v =>
    if v.clock.status = .running then
      let d := (advanced v).clock.simulationDate
      passesTxn d (fun events => .turn (addRow ⟨d, events, .success⟩) fun w =>
        postsTxn aborts d w.clock steps.posts) steps.passes 0
    else .rollback

/-! ## Alone -/

section Alone

variable {aborts : ε → Bool} {d : Date} (s₀ v : Database σ)

theorem alone_passesTxn (then' : ℕ → Txn (Database σ)) (passes : List (Date → EStateM ε σ ℕ)) (events : ℕ) :
    (passesTxn d then' passes events).alone s₀ v =
      match (passes.foldlM (fun events pass => do
        let e ← pass d
        pure (events + e)) events : EStateM ε σ ℕ) v.tables with
      | .ok events s => (then' events).alone s₀ { v with tables := s }
      | .error _ _ => failedRow d s₀ := by
  induction passes generalizing v events with
  | nil => rfl
  | cons pass passes ih =>
    rw [passesTxn, Txn.alone_run, List.foldlM_cons, onTablesOf, zoom, bind_assoc]
    cases ran : pass d v.tables with
    | ok e s =>
      dsimp only
      rw [ih, bind_of_ok ran]
      rfl
    | error e s =>
      dsimp only
      rw [bind_of_error ran]
      rfl

theorem alone_postsTxn (clock : SimulationClock) (posts : List (Date → SimulationClock → EStateM ε σ Unit)) :
    (postsTxn aborts d clock posts).alone s₀ v =
      match runPosts posts d clock v.tables with
      | .ok _ s => { v with tables := s }
      | .error e s => if aborts e then s₀ else { v with tables := s } := by
  unfold runPosts
  induction posts generalizing v with
  | nil => rfl
  | cons post posts ih =>
    rw [postsTxn, Txn.alone_run, List.foldlM_cons, onTablesOf, zoom]
    cases ran : post d clock v.tables with
    | ok _ s =>
      dsimp only
      rw [ih, bind_of_ok ran]
    | error e s =>
      dsimp only
      rw [bind_of_error ran]
      dsimp only
      split <;> rfl

/-- Alone, the transaction is the tick. -/
theorem alone_tickTxn (steps : TickSteps ε σ) (db : Database σ) :
    (tickTxn aborts steps).alone db db = runTick aborts steps db := by
  rw [tickTxn, Txn.alone]
  by_cases running : db.clock.status = .running
  · rw [if_pos running, if_pos running, alone_passesTxn]
    cases passes : runPasses steps.passes (db.clock.simulationDate + 1) db.tables with
    | error e s =>
      rw [runTick_of_pass_error aborts running passes]
      unfold runPasses at passes
      rw [show (advanced db).tables = db.tables from rfl,
        show (advanced db).clock.simulationDate = db.clock.simulationDate + 1 from rfl, passes]
      rfl
    | ok events s =>
      have ran := passes
      unfold runPasses at ran
      rw [show (advanced db).tables = db.tables from rfl,
        show (advanced db).clock.simulationDate = db.clock.simulationDate + 1 from rfl, ran]
      dsimp only
      rw [Txn.alone, alone_postsTxn]
      show (match runPosts steps.posts (db.clock.simulationDate + 1) (advanced db).clock s with
        | .ok _ s => _
        | .error e s => _) = _
      cases posts : runPosts steps.posts (db.clock.simulationDate + 1) (advanced db).clock s with
      | ok _ s' =>
        rw [runTick_of_passes_ok aborts running passes (by simp [posts]), posts]
        rfl
      | error e s' =>
        by_cases broken : aborts e = true
        · rw [runTick_of_abort aborts running passes posts broken]
          exact if_pos broken
        · rw [runTick_of_passes_ok aborts running passes fun e' same => ?_, posts]
          · exact if_neg broken
          · rw [posts, raised?_error, Option.mem_some_iff] at same
            rw [← same]
            exact eq_false_of_ne_true broken
  · rw [if_neg running, if_neg running, runTick_paused aborts running]
    rfl

end Alone

/-! ## Up to the rows of failed ticks -/

section Noise

variable {aborts : ε → Bool} {d : Date}

theorem same_passesTxn {then₁ then₂ : ℕ → Txn (Database σ)}
    (same : ∀ events, Txn.Same SameButFailed (then₁ events) (then₂ events))
    (passes : List (Date → EStateM ε σ ℕ)) (events : ℕ) :
    Txn.Same SameButFailed (passesTxn d then₁ passes events) (passesTxn d then₂ passes events) := by
  induction passes generalizing events with
  | nil => exact same events
  | cons pass passes ih =>
    exact .run (respects_onTablesOf (pass d)) (fun e => ih (events + e)) fun _ =>
      .rollbackThen (sameButFailed_failedRow d) (sameButFailed_failedRow d)

theorem same_postsTxn (clock : SimulationClock) (posts : List (Date → SimulationClock → EStateM ε σ Unit)) :
    Txn.Same SameButFailed (postsTxn aborts d clock posts) (postsTxn aborts d clock posts) := by
  induction posts with
  | nil => exact .commit
  | cons post posts ih =>
    refine .run (respects_onTablesOf (post d clock)) (fun _ => ih) fun e => ?_
    split
    · exact .rollback
    · exact .commit

theorem sameButFailed_advanced {v v' : Database σ} (same : SameButFailed v v') :
    SameButFailed (advanced v) (advanced v') := by
  refine ⟨?_, same.tables, same.ticks⟩
  rw [advanced, advanced, same.clock]

theorem sameButFailed_addRow (row : ScheduledTick) {v v' : Database σ} (same : SameButFailed v v') :
    SameButFailed (addRow row v) (addRow row v') := by
  refine ⟨same.clock, same.tables, ?_⟩
  rw [addRow, addRow, List.filter_append, List.filter_append, same.ticks]

theorem same_tickTxn (steps : TickSteps ε σ) :
    Txn.Same SameButFailed (tickTxn aborts steps) (tickTxn aborts steps) := by
  refine .turn (fun v v' same => ?_) (fun v v' same => ?_)
  · rw [same.clock]
    split
    · exact sameButFailed_advanced same
    · exact same
  · rw [advanced, advanced, same.clock]
    split
    · refine same_passesTxn (fun events => ?_) steps.passes 0
      refine .turn (fun w w' => sameButFailed_addRow _) fun w w' same => ?_
      rw [same.clock]
      exact same_postsTxn w.clock steps.posts
    · exact .rollback

end Noise

end MeadowOps.Scheduler
