import MeadowOps.Lib.Runs
import MeadowOps.Lib.Session
import MeadowOps.Query.Classifier
import MeadowOps.Sandbox.Refresh

/-!
# `app/services/query_execution.py`

A submission on its connection, between the transactions of refreshes. The server's answers are arbitrary: any
statement may fail, be cancelled by the timer or lose its connection, and what a text makes the server do is a
parameter. `read_only` only adds refusals. The columns and rows of the result are left out.
-/

namespace MeadowOps.Query

open Lib Sandbox

/-- The values of the status that `execute_submission` returns. -/
inductive QuerySubmissionStatus where
  | success
  | error
  | timedOut
  deriving DecidableEq, Repr

/-- `psycopg.Error`, and the subclass that has its own handler. -/
inductive QueryError where
  | queryCanceled
  | other
  deriving DecidableEq, Repr

/-- The `except` clauses. -/
def statusOf : QueryError → QuerySubmissionStatus
  | .queryCanceled => .timedOut
  | .other => .error

/-- How a request to the server ends; what a failed statement did outside of its transaction may stay. -/
inductive Reply where
  | ok
  | raises (error : QueryError) (lasts : Bool)
  deriving DecidableEq, Repr

/-- The catalog, and the step at which a refresh that holds the lock stands. -/
structure Shared (R : Type) where
  catalog : Catalog R
  refresh : Option RefreshStep

/-- Where `execute_submission` stands. -/
inductive Phase (R : Type) where
  /-- It has raised `QueryConfirmationRequiredError`. -/
  | confirmationRequired
  | connecting (texts : List (List Char))
  /-- `SELECT pg_advisory_lock_shared(...)`. -/
  | locking (texts : List (List Char))
  | next (texts : List (List Char))
  /-- The server works on the commands of a text. -/
  | serving (commands : List (TxCommand (Catalog R))) (texts : List (List Char))
  | ended (status : QuerySubmissionStatus)

structure Execution (R : Type) where
  shared : Shared R
  session : DbSession (Catalog R)
  phase : Phase R

variable {R : Type}

/-! ## Refreshes -/

/-- The steps of a refresh, one transaction each. -/
def refreshTransaction (env : RefreshEnv R) : RefreshStep → RefreshM R Unit
  | .lock => transaction env .lock [.pinSearchPath, .advisoryLock]
  | .cleanupStaleOldSchema => Sandbox.cleanupStaleOldSchema env
  | .rebuildStaging => Sandbox.rebuildStaging env (liveTableNames env.metadata)
  | .swapSchemas => Sandbox.swapSchemas env (liveTableNames env.metadata)
  | .cleanupOldSchema => Sandbox.cleanupOldSchema env

def nextStep : RefreshStep → Option RefreshStep
  | .lock => some .cleanupStaleOldSchema
  | .cleanupStaleOldSchema => some .rebuildStaging
  | .rebuildStaging => some .swapSchemas
  | .swapSchemas => some .cleanupOldSchema
  | .cleanupOldSchema => none

/-- The next transaction of the refresh, or the first of a new one. A refresh that fails gives up the lock. -/
def refreshStep (env : RefreshEnv R) (live : Live R) (w : Shared R) : Shared R :=
  match refreshTransaction env (w.refresh.getD .lock) ⟨Tx.start w.catalog, [], live, [live]⟩ with
  | .ok _ s => ⟨s.tx.committed, nextStep (w.refresh.getD .lock)⟩
  | .error _ s => ⟨s.tx.committed, none⟩

/-! ## The submission -/

def Execution.finish (s : Execution R) (status : QuerySubmissionStatus) : Execution R :=
  { s with session := s.session.closed, phase := .ended status }

/-- What of a failed command stays. -/
def remains (lasts : Bool) (command : TxCommand (Catalog R)) (c : Catalog R) : Catalog R :=
  match lasts, command with
  | true, .work w => w.lasting c
  | _, _ => c

/-- The start of `execute_submission`. -/
def submit (lib : Library) (sql : List Char) (confirmed : Bool) (shared : Shared R) : Execution R where
  shared := shared
  session := ⟨none, 0, 0, []⟩
  phase :=
    if lib.requiresConfirmation sql && !confirmed then .confirmationRequired
    else .connecting (lib.splitStatements sql)

/-- The next request of the submission and its answer. psycopg opens a transaction before a statement when the
connection is in none. -/
def advance (commands : List Char → List (TxCommand (Catalog R))) (s : Execution R) (reply : Reply) :
    Execution R :=
  match s.phase with
  | .confirmationRequired | .ended _ => s
  | .connecting texts =>
    match reply with
    | .ok => { s with phase := .locking texts }
    | .raises e _ => s.finish (statusOf e)
  | .locking texts =>
    match reply with
    | .ok => { s with session := { s.session.opened with holds := 1 }, phase := .next texts }
    | .raises e _ => s.finish (statusOf e)
  | .next (text :: texts) =>
    match reply with
    | .ok =>
      { s with
        session := if s.session.transaction.isSome then s.session else s.session.opened
        phase := .serving (commands text) texts }
    | .raises e _ => s.finish (statusOf e)
  | .serving (command :: rest) texts =>
    match reply with
    | .ok =>
      match s.session.run s.shared.catalog command with
      | none => s.finish .error
      | some (catalog, session) =>
        ⟨{ s.shared with catalog := catalog }, session, .serving rest texts⟩
    | .raises e lasts =>
      { s with shared := { s.shared with catalog := remains lasts command s.shared.catalog } }.finish (statusOf e)
  | .serving [] texts =>
    -- The end of the message, and the client loads the rows.
    let ended := s.session.endMessage s.shared.catalog
    let s := ⟨{ s.shared with catalog := ended.1 }, ended.2, .next texts⟩
    match reply with
    | .ok => s
    | .raises e _ => s.finish (statusOf e)
  | .next [] =>
    -- `conn.commit()`, which asks nothing of the server outside a transaction.
    match s.session.transaction, reply with
    | none, _ => s.finish .success
    | some tx, .ok => { s with shared := { s.shared with catalog := tx.pending s.shared.catalog } }.finish .success
    | some _, .raises e _ => s.finish (statusOf e)

inductive QueryLabel (R : Type) where
  | submission (reply : Reply)
  | refresh (env : RefreshEnv R) (live : Live R)

/-- The advisory lock: who takes it waits for a refresh that has it, and a refresh for the submission. -/
def QueryStep (commands : List Char → List (TxCommand (Catalog R))) (s : Execution R) (l : QueryLabel R)
    (s' : Execution R) : Prop :=
  match l with
  | .submission reply =>
    s' = advance commands s reply ∧ (s.session.holds = 0 → 0 < s'.session.holds → s.shared.refresh = none)
  | .refresh env live =>
    s' = { s with shared := refreshStep env live s.shared } ∧ (s.shared.refresh = none → s.session.holds = 0)

/-- The runs of a submission from what it finds. -/
def queryRuns (lib : Library) (commands : List Char → List (TxCommand (Catalog R))) (sql : List Char)
    (confirmed : Bool) (shared : Shared R) : System (Execution R) (QueryLabel R) where
  init s := s = submit lib sql confirmed shared
  step := QueryStep commands

end MeadowOps.Query
