import MeadowOps.Chat.Notifications
import MeadowOps.Flow.Completion
import MeadowOps.Ledger.Decisions
import MeadowOps.Simulation.ClockOps
import MeadowOps.Simulation.Ticks

/-!
# All that moves the clock, and the whole tick

Operations on the clock, repopulations, edits of the thresholds, requests to the ledger and the chat, and the ticks
of the scheduler, each committed before the next one starts. A tick here makes all of its calls: `flag_stale` and
`sweep_thread_deadlines` work on the ledger and the chat.
-/

namespace MeadowOps.Simulation

open Db Lib MeadowOps.Flow Scheduler Exceptions Ledger Chat

structure Office where
  platform : Platform
  decisionEvent : List DecisionEvent
  chat : NotificationStore

/-- What one tick takes from outside, and its settings. -/
structure OfficeTick where
  day : DayEnv
  reportingLagDays : ℤ
  decisions : RowOrder DecisionEvent
  /-- `datetime.now` at the call of `flag_stale`. -/
  asOf : Instant
  staleDecisionAfterDays : ℤ
  sweep : SweepCall

/-! ## The tick -/

def onPlatform {α : Type} (x : EStateM PlatformError Platform α) : EStateM PlatformError Office α :=
  zoom Office.platform (fun p o => { o with platform := p }) x

def ledgerError : LedgerError → PlatformError
  | .decisionEventNotFound message | .decisionTransition message | .dataError message => .other message
  | .overflowError => .other "OverflowError"
  | .integrityError => .integrityError "decision_event"

section

variable (tick : OfficeTick)

def flagStaleStep : EStateM PlatformError Office Unit :=
  zoom Office.decisionEvent (fun rows o => { o with decisionEvent := rows })
    (raising ledgerError (discard (flagStale tick.decisions tick.asOf tick.staleDecisionAfterDays)))

def sweepStep : EStateM PlatformError Office Unit :=
  modify fun o => { o with chat := (sweepThreadDeadlines tick.sweep o.chat).2 }

/-- The calls of `_run_tick` after the advance of the clock. -/
def officeSteps : TickSteps PlatformError Office where
  passes := [fun d => onPlatform (flow tick.day d)]
  posts := [
    fun d clock => onPlatform (overTables (syncReportingLayer tick.day tick.reportingLagDays d) clock),
    fun d clock => onPlatform (overTables (evaluateExceptions tick.day d) clock),
    fun d clock => onPlatform (overTables (computeAndSnapshotKpis tick.day d) clock),
    fun _ _ => flagStaleStep tick,
    fun _ _ => sweepStep tick]

/-- None of the six calls raises. -/
def TickCompletes (db : Database Office) : Prop :=
  raised? (tickWrites (officeSteps tick) db db.tables) = none

instance (db : Database Office) : Decidable (TickCompletes tick db) :=
  match run : raised? (tickWrites (officeSteps tick) db db.tables) with
  | none => isTrue run
  | some _ => isFalse fun completes => nomatch run.symm.trans completes

end

/-! ## The operations -/

/-- The two tables of the clock. -/
def clockTables (db : Database Platform) : ClockTables where
  worldState := db.tables.worldState
  simulationClock := some ⟨db.clock.simulationDate, db.clock.status, db.tables.currentWorldStateId⟩

def withClockTables (t : ClockTables) (db : Database Platform) : Database Platform :=
  match t.simulationClock with
  | none => db
  | some row => { db with
    clock := ⟨row.simulationDate, row.status⟩
    tables := { db.tables with
      worldState := t.worldState
      currentWorldStateId := row.currentWorldStateId } }

/-- An operation and the commit of its caller; one that raises is rolled back. -/
def ClockOp.commit (op : ClockOp) (db : Database Platform) : Database Platform :=
  match op.statements (clockTables db) with
  | .ok _ t => withClockTables t db
  | .error _ _ => db

/-- Requests leave any rows of the ledger and of the chat. -/
inductive OfficeLabel where
  | clock (op : ClockOp)
  | repopulate (env : RepopulateEnv) (today : Date) (historyDays : ℤ)
  | thresholds (rows : List ExceptionRuleThreshold)
  | requests (decisionEvent : List DecisionEvent) (chat : NotificationStore)
  | tick (tick : OfficeTick)

def platformDb (db : Database Office) : Database Platform := ⟨db.clock, db.scheduledTick, db.tables.platform⟩

def withPlatformDb (p : Database Platform) (db : Database Office) : Database Office :=
  ⟨p.clock, p.scheduledTick, { db.tables with platform := p.tables }⟩

def officeNext (db : Database Office) : OfficeLabel → Database Office
  | .clock op => withPlatformDb (op.commit (platformDb db)) db
  | .repopulate env today historyDays => withPlatformDb (repopulateWork env today historyDays (platformDb db)).2 db
  | .thresholds rows => { db with tables := { db.tables with
      platform := { db.tables.platform with exceptionRuleThreshold := rows } } }
  | .requests decisionEvent chat => { db with tables := { db.tables with
      decisionEvent := decisionEvent
      chat := chat } }
  | .tick tick => runTick PlatformError.aborts (officeSteps tick) db

/-- Legal master data, and no operational row and no flag yet. -/
structure SeededOffice (db : Database Office) : Prop where
  legal : LegalMaster db.tables.platform.world.master
  world : EmptyWorld db.tables.platform.world
  flags : db.tables.platform.exceptionFlag = []

def officeRuns : System (Database Office) OfficeLabel where
  init := SeededOffice
  step db l db' := db' = officeNext db l

end MeadowOps.Simulation
