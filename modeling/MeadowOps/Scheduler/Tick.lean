import MeadowOps.Db.World
import MeadowOps.Lib.Program

/-!
# `run_scheduled_tick` as a transaction

The tables a tick works on are a parameter `σ`, and so is what its passes do to them: any program
that may write and then raise an `ε`. The clock and the log of ticks are outside their reach.
-/

namespace MeadowOps.Scheduler

open Db Lib

inductive ClockStatus where
  | running
  | paused
  deriving DecidableEq, Repr

/-- The singleton row of `simulation_clock`. -/
structure SimulationClock where
  simulationDate : Date
  status : ClockStatus
  deriving DecidableEq, Repr

structure Database (σ : Type) where
  clock : SimulationClock
  scheduledTick : List ScheduledTick
  tables : σ

section
variable {ε σ α : Type} (aborts : ε → Bool)

/-- A program over the tables, in the session's transaction. -/
def onTables (x : EStateM ε σ α) : EStateM ε (Tx (Database σ)) α :=
  Tx.onPending aborts (zoom Database.tables (fun s db => { db with tables := s }) x)

def addTick (tick : ScheduledTick) (t : Tx (Database σ)) : Tx (Database σ) :=
  { t with pending := { t.pending with scheduledTick := t.pending.scheduledTick ++ [tick] } }

/-- `flow` is the seven passes, and returns the number of events. An exception rolls the session
back, leaves a `FAILED` row and is raised again. -/
def runScheduledTick (flow : EStateM ε σ ℕ) (d : Date) : EStateM ε (Tx (Database σ)) ScheduledTick :=
  fun t =>
    match onTables aborts flow t with
    | .ok events t =>
      let tick : ScheduledTick := ⟨d, events, .success⟩
      .ok tick (addTick tick t)
    | .error e t => .error e (addTick ⟨d, 0, .failed⟩ t.rollback)

theorem runScheduledTick_ok {flow : EStateM ε σ ℕ} {d : Date} {t : Tx (Database σ)} {events : ℕ} {s : σ}
    (h : flow t.pending.tables = .ok events s) :
    runScheduledTick aborts flow d t = .ok ⟨d, events, .success⟩
      (addTick ⟨d, events, .success⟩ { t with pending := { t.pending with tables := s } }) := by
  simp [runScheduledTick, onTables, Tx.onPending, zoom, h]

theorem runScheduledTick_error {flow : EStateM ε σ ℕ} {d : Date} {t : Tx (Database σ)} {e : ε} {s : σ}
    (h : flow t.pending.tables = .error e s) :
    runScheduledTick aborts flow d t = .error e (addTick ⟨d, 0, .failed⟩ t.rollback) := by
  simp [runScheduledTick, onTables, Tx.onPending, zoom, h, Tx.rollback]

variable {aborts}

/-- What a flow that returns keeps of the tables, a tick keeps, committed and pending. -/
theorem runScheduledTick_both {I : σ → Prop} {flow : EStateM ε σ ℕ} {d : Date} {t : Tx (Database σ)}
    (ht : t.Both fun db => I db.tables)
    (keep : ∀ events s, flow t.pending.tables = .ok events s → I s) :
    (endState (runScheduledTick aborts flow d t)).Both fun db => I db.tables := by
  cases run : flow t.pending.tables with
  | ok events s =>
    rw [runScheduledTick_ok aborts run]
    exact ⟨ht.1, keep events s run⟩
  | error e s =>
    rw [runScheduledTick_error aborts run]
    exact ⟨ht.1, ht.1⟩

end

end MeadowOps.Scheduler
