import MeadowOps.Lib.Lineage
import MeadowOps.Lib.Runs
import MeadowOps.Simulation.Platform

/-!
# `app/services/simulation_clock_ops.py`

The operations on the clock over its two tables. All but the seed leave the commit to their caller.
-/

namespace MeadowOps.Simulation

open Db Lib Scheduler

/-- The row of `live.simulation_clock`. -/
structure ClockRow where
  simulationDate : Date
  status : ClockStatus
  currentWorldStateId : Option Uuid
  deriving DecidableEq, Repr

/-- `live.world_state`, in the order of the inserts, and the clock. -/
structure ClockTables where
  worldState : List WorldState
  simulationClock : Option ClockRow
  deriving DecidableEq, Repr

inductive ClockOpError where
  | clock (error : ClockError)
  | overflowError
  | invalidClockTransition (message : String)
  | simulationClockNotSeeded (message : String)
  | noResultFound
  | multipleResultsFound
  | attributeError
  | integrityError (constraint : String)
  deriving DecidableEq, Repr

def ClockOpError.aborts : ClockOpError → Bool
  | .integrityError _ => true
  | _ => false

/-- Statements over the two tables. -/
abbrev ClockM := EStateM ClockOpError ClockTables

/-! ## `app/domain/simulation_clock.py` -/

/-- The `value` of a status. -/
def statusValue : ClockStatus → String
  | .running => "running"
  | .paused => "paused"

def validateClockTransition (fromStatus toStatus : ClockStatus) : Except ClockOpError Unit :=
  if fromStatus = toStatus then
    .error (.invalidClockTransition ("cannot transition simulation clock from '" ++ statusValue fromStatus ++
      "' to '" ++ statusValue toStatus ++ "'"))
  else .ok ()

/-- The ordinal of `date.max`. -/
def dateMax : Date := 3652059

/-- `advance_date`; a day after `date.max` is no date. -/
def advanceDateChecked (current : Date) (days : ℤ) : Except ClockOpError Date :=
  match advanceDate current days with
  | .error e => .error (.clock e)
  | .ok newDate => if dateMax < newDate then .error .overflowError else .ok newDate

namespace ClockOps

/-! ## The operations -/

/-- The ordinal of `CLEAN_BASELINE_SIMULATION_DATE`. -/
def cleanBaselineSimulationDate : Date := 739617
def cleanBaselineSeed : String := "baseline-v1"
def cleanBaselineLabel : String := "Clean Baseline"

/-- `_lock_clock`. -/
def lockClock : ClockM ClockRow := do
  let t ← get
  match t.simulationClock with
  | none => throw .noResultFound
  | some clock => return clock

/-- The assigned columns of the clock are flushed. -/
def saveClock (clock : ClockRow) : ClockM Unit := modify fun t => { t with simulationClock := some clock }

/-- `session.add(row)` and the flush. -/
def addWorldState (row : WorldState) : ClockM Unit := do
  let t ← get
  match insert? WorldState.id row t.worldState with
  | none => throw (.integrityError "world_state_pkey")
  | some worldState => set { t with worldState := worldState }

/-- `seed_initial_world_state_and_clock`, up to its commit: whether it has seeded. -/
def seedRows (id : Uuid) : ClockM Bool := do
  let t ← get
  if t.worldState ≠ [] then return false
  addWorldState ⟨id, .cleanBaseline, cleanBaselineSimulationDate, cleanBaselineSeed, cleanBaselineLabel, none⟩
  let t ← get
  match t.simulationClock with
  | some _ => throw (.integrityError "simulation_clock_pkey")
  | none =>
    saveClock ⟨cleanBaselineSimulationDate, .running, some id⟩
    return true

def advanceSimulation (days : ℤ) : ClockM Date := do
  let clock ← lockClock
  if clock.status ≠ .running then
    throw (.clock (.simulationPaused "cannot advance the simulation clock while paused"))
  let newDate ← liftExcept id (advanceDateChecked clock.simulationDate days)
  saveClock { clock with simulationDate := newDate }
  return newDate

def pauseSimulation : ClockM Unit := do
  let clock ← lockClock
  liftExcept id (validateClockTransition clock.status .paused)
  saveClock { clock with status := .paused }

def resumeSimulation : ClockM Unit := do
  let clock ← lockClock
  liftExcept id (validateClockTransition clock.status .running)
  saveClock { clock with status := .running }

/-- `session.get(WorldState, clock.current_world_state_id)`, after the check that the column is set. -/
def currentHead (clock : ClockRow) : ClockM (Option WorldState) := do
  match clock.currentWorldStateId with
  | none => throw (.simulationClockNotSeeded ("simulation_clock.current_world_state_id is unset - run " ++
      "seed_initial_world_state_and_clock or repair manually"))
  | some current =>
    let t ← get
    return lookup WorldState.id current t.worldState

/-- The columns of the row that `session.get` gave. -/
def rowOf : Option WorldState → ClockM WorldState
  | none => throw .attributeError
  | some w => return w

/-- The clean baseline: the one row of its kind without a parent. -/
def cleanBaseline : ClockM WorldState := do
  let t ← get
  match t.worldState.filter fun w => decide (w.kind = .cleanBaseline ∧ w.parentId = none) with
  | [] => throw .noResultFound
  | [root] => return root
  | _ :: _ :: _ => throw .multipleResultsFound

/-- `snapshot_simulation`, with the generated id of its row. -/
def snapshotSimulation (id : Uuid) (label : String) : ClockM Uuid := do
  let clock ← lockClock
  let head ← rowOf (← currentHead clock)
  addWorldState ⟨id, .snapshot, clock.simulationDate, head.seed, label, some head.id⟩
  saveClock { clock with currentWorldStateId := some id }
  return id

def resetSimulation (id : Uuid) (label : String) : ClockM Uuid := do
  let clock ← lockClock
  let found ← currentHead clock
  let root ← cleanBaseline
  let head ← rowOf found
  addWorldState ⟨id, .reset, root.simulationDate, root.seed, label, some head.id⟩
  saveClock ⟨root.simulationDate, .running, some id⟩
  return id

def rebaseClock (id : Uuid) (simulationDate : Date) (label : String) : ClockM Uuid := do
  let clock ← lockClock
  let head ← rowOf (← currentHead clock)
  addWorldState ⟨id, .reset, simulationDate, head.seed, label, some head.id⟩
  saveClock ⟨simulationDate, .running, some id⟩
  return id

end ClockOps

inductive ClockOp where
  | seed (id : Uuid)
  | advance (days : ℤ)
  | pause
  | resume
  | snapshot (id : Uuid) (label : String)
  | reset (id : Uuid) (label : String)
  | rebase (id : Uuid) (simulationDate : Date) (label : String)
  deriving DecidableEq, Repr

/-- The statements of an operation; true if it commits in the end. -/
def ClockOp.statements : ClockOp → ClockM Bool
  | .seed id => ClockOps.seedRows id
  | .advance days => do
    let _ ← ClockOps.advanceSimulation days
    return false
  | .pause => do
    ClockOps.pauseSimulation
    return false
  | .resume => do
    ClockOps.resumeSimulation
    return false
  | .snapshot id label => do
    let _ ← ClockOps.snapshotSimulation id label
    return false
  | .reset id label => do
    let _ ← ClockOps.resetSimulation id label
    return false
  | .rebase id simulationDate label => do
    let _ ← ClockOps.rebaseClock id simulationDate label
    return false

/-- A call of an operation over the session. -/
def ClockOp.call (op : ClockOp) : EStateM ClockOpError (Tx ClockTables) Unit := fun t =>
  match Tx.onPending ClockOpError.aborts op.statements t with
  | .ok true t => .ok () t.commit
  | .ok false t => .ok () t
  | .error e t => .error e t

end MeadowOps.Simulation
