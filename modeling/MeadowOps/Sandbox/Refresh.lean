import MeadowOps.Lib.Program
import MeadowOps.Lib.Table
import Mathlib.Data.List.Sort
import Mathlib.Data.String.Basic

/-!
# `app/services/sandbox_refresh.py`

A refresh over the catalog of schemas. PostgreSQL's DDL is transactional: a statement changes the catalog of
the open transaction or raises, and every step of the run has its own transaction. Whether a statement or a
commit fails beyond what the catalog decides is the environment's choice, and so are the transactions that
other sessions commit on the schema `live` before a statement starts. What a table holds is a parameter.
-/

namespace MeadowOps.Sandbox

open Lib

inductive SandboxRefreshStatus where
  | complete
  | failed
  deriving DecidableEq, Repr

/-- The steps of a run, each a transaction. -/
inductive RefreshStep where
  | lock
  | cleanupStaleOldSchema
  | rebuildStaging
  | swapSchemas
  | cleanupOldSchema
  deriving DecidableEq, Repr

inductive Statement where
  /-- `SET search_path`, which names no schema of these. -/
  | pinSearchPath
  | advisoryLock
  | setLockTimeout (seconds : ℕ)
  /-- `DROP SCHEMA IF EXISTS ... CASCADE`. -/
  | dropSchema (name : String)
  | createSchema (name : String)
  /-- `CREATE TABLE schema."name" AS SELECT * FROM live."name"`. -/
  | createTableAs (schema name : String)
  | grantTables (schema : String)
  | alterDefaultPrivileges (schema : String)
  | grantSchema (schema : String)
  | renameSchema (name newName : String)
  deriving DecidableEq, Repr

inductive PgError where
  | lockNotAvailable
  | other (message : String)
  deriving DecidableEq, Repr

section
variable {R : Type}

/-- A row of `pg_namespace`, with the tables in it. -/
structure Schema (R : Type) where
  oid : ℕ
  nspname : String
  tables : List (String × R)
  deriving DecidableEq, Repr

/-- The schemas, and the next object id. -/
structure Catalog (R : Type) where
  schemas : List (Schema R)
  nextOid : ℕ
  deriving DecidableEq, Repr

/-- The tables of `live`. -/
abbrev Live (R : Type) := String → Option R

def stagingSchema : String := "sandbox_staging"
def liveSandboxSchema : String := "sandbox"
def oldSchema : String := "sandbox_old"

/-- `SANDBOX_MIRRORED_TABLES`. -/
def sandboxMirroredTables : List String :=
  ["carrier", "customer", "date_dim", "days_of_supply_snapshot", "decision_event", "exception_flag",
    "exception_rule_threshold", "inventory_snapshot", "inventory_transaction", "kpi_snapshot", "product",
    "purchase_order", "purchase_order_lifecycle_event", "purchase_order_line", "sales_order",
    "sales_order_lifecycle_event", "sales_order_line", "scheduled_tick", "shipment", "simulation_clock",
    "supplier", "warehouse", "warehouse_transfer", "world_state"]

/-- A table of the metadata: its schema, if it names one, and its name. -/
abbrev MetadataTable := Option String × String

/-- `_live_table_names(metadata)`. -/
def liveTableNames (metadata : List MetadataTable) : List String :=
  ((metadata.filter fun t => t.1.getD "live" = "live" && sandboxMirroredTables.contains t.2).map
    (·.2)).insertionSort (· ≤ ·)

/-! ## Statements -/

def Catalog.find (c : Catalog R) (name : String) : Option (Schema R) := lookup Schema.nspname name c.schemas

def Catalog.alter (c : Catalog R) (name : String) (f : Schema R → Schema R) : Catalog R :=
  { c with schemas := modify Schema.nspname name f c.schemas }

/-- The statement needs the schema. -/
def Catalog.require (c : Catalog R) (name : String) : Except PgError (Catalog R) :=
  match c.find name with
  | none => .error (.other "invalid_schema_name")
  | some _ => .ok c

/-- What a statement does to the catalog when nothing from outside fails it. -/
def Statement.apply (live : Live R) (c : Catalog R) : Statement → Except PgError (Catalog R)
  | .pinSearchPath | .advisoryLock | .setLockTimeout _ => .ok c
  | .dropSchema name => .ok { c with schemas := c.schemas.filter (·.nspname ≠ name) }
  | .createSchema name =>
    match insert? Schema.nspname ⟨c.nextOid, name, []⟩ c.schemas with
    | none => .error (.other "duplicate_schema")
    | some schemas => .ok ⟨schemas, c.nextOid + 1⟩
  | .createTableAs schema name =>
    match c.find schema, live name with
    | none, _ => .error (.other "invalid_schema_name")
    | some _, none => .error (.other "undefined_table")
    | some s, some rows =>
      if name ∈ s.tables.map (·.1) then .error (.other "duplicate_table")
      else .ok (c.alter schema fun s => { s with tables := s.tables ++ [(name, rows)] })
  | .grantTables schema | .alterDefaultPrivileges schema | .grantSchema schema => c.require schema
  | .renameSchema name newName =>
    match c.find name, c.find newName with
    | none, _ => .error (.other "invalid_schema_name")
    | some _, some _ => .error (.other "duplicate_schema")
    | some _, none => .ok (c.alter name fun s => { s with nspname := newName })

/-! ## The session -/

/-- What becomes of a commit: done, refused, or done with its answer lost. -/
inductive CommitReply where
  | committed
  | refused (error : PgError)
  | lost (error : PgError)

/-- What a run takes from outside. -/
structure RefreshEnv (R : Type) where
  metadata : List MetadataTable
  /-- The transactions that are committed on `live` before the statement starts. -/
  commits : RefreshStep → Statement → List (Live R → Live R)
  /-- The statement fails, or the connection is lost. -/
  fails : RefreshStep → Statement → Option PgError
  commit : RefreshStep → CommitReply
  rollbackFails : RefreshStep → Option PgError
  connectFails : Option PgError
  /-- The commit that leaving the `with` block makes. -/
  closeFails : Option PgError

/-- The connection of a run: its transaction, the catalogs it has committed, and the states of `live` so far
with the present one last. -/
structure RefreshSession (R : Type) where
  tx : Tx (Catalog R)
  points : List (Catalog R)
  live : Live R
  moments : List (Live R)

abbrev RefreshM (R : Type) := EStateM PgError (RefreshSession R)

/-- Another session commits. -/
def RefreshSession.liveCommit (s : RefreshSession R) (change : Live R → Live R) : RefreshSession R :=
  { s with live := change s.live, moments := s.moments ++ [change s.live] }

variable (env : RefreshEnv R)

/-- `cur.execute`. -/
def execute (step : RefreshStep) (statement : Statement) : RefreshM R Unit := fun s =>
  let s := (env.commits step statement).foldl RefreshSession.liveCommit s
  match env.fails step statement with
  | some e => .error e s
  | none =>
    match statement.apply s.live s.tx.pending with
    | .error e => .error e s
    | .ok catalog => .ok () { s with tx := { s.tx with pending := catalog } }

/-- `conn.commit()`. -/
def commit (step : RefreshStep) : RefreshM R Unit := fun s =>
  let done := { s with tx := s.tx.commit, points := s.points ++ [s.tx.pending] }
  match env.commit step with
  | .committed => .ok () done
  | .refused e => .error e s
  | .lost e => .error e done

/-- `conn.rollback()`. -/
def rollback (step : RefreshStep) : RefreshM R Unit := fun s =>
  match env.rollbackFails step with
  | none => .ok () { s with tx := s.tx.rollback }
  | some e => .error e s

/-- Statements and the commit. -/
def transaction (step : RefreshStep) (statements : List Statement) : RefreshM R Unit := do
  statements.forM (execute env step)
  commit env step

/-- The two cleanups: a lock timeout of the `DROP` is no failure. -/
def cleanup (step : RefreshStep) (seconds : ℕ) : RefreshM R Unit := do
  execute env step .pinSearchPath
  execute env step (.setLockTimeout seconds)
  fun s =>
    match execute env step (.dropSchema oldSchema) s with
    | .ok _ s => commit env step s
    | .error .lockNotAvailable s => rollback env step s
    | .error e s => .error e s

/-! ## The steps -/

def cleanupStaleOldSchema : RefreshM R Unit := cleanup env .cleanupStaleOldSchema 2

def rebuildStaging (tableNames : List String) : RefreshM R Unit :=
  transaction env .rebuildStaging
    ([.pinSearchPath, .dropSchema stagingSchema, .createSchema stagingSchema] ++
      tableNames.map (.createTableAs stagingSchema))

def swapSchemas (tableNames : List String) : RefreshM R Unit :=
  transaction env .swapSchemas
    ([.pinSearchPath] ++ (if tableNames.isEmpty then [] else [.grantTables stagingSchema]) ++
      [.alterDefaultPrivileges stagingSchema, .grantSchema stagingSchema,
        .renameSchema liveSandboxSchema oldSchema, .renameSchema stagingSchema liveSandboxSchema])

def cleanupOldSchema : RefreshM R Unit := cleanup env .cleanupOldSchema 5

/-- The body of the `with` block. -/
def refresh : RefreshM R Unit := do
  transaction env .lock [.pinSearchPath, .advisoryLock]
  cleanupStaleOldSchema env
  rebuildStaging env (liveTableNames env.metadata)
  swapSchemas env (liveTableNames env.metadata)
  cleanupOldSchema env

/-- A run: its status, and the session as it is closed. -/
def refreshSandbox (c : Catalog R) (live : Live R) : SandboxRefreshStatus × RefreshSession R :=
  let s : RefreshSession R := ⟨Tx.start c, [], live, [live]⟩
  match env.connectFails with
  | some _ => (.failed, s)
  | none =>
    match refresh env s with
    | .error _ s => (.failed, { s with tx := s.tx.rollback })
    | .ok _ s => (if env.closeFails.isSome then .failed else .complete, { s with tx := s.tx.rollback })

end

/-- A run in which nothing fails and nobody else commits. -/
def undisturbed {R : Type} (metadata : List MetadataTable) : RefreshEnv R where
  metadata := metadata
  commits _ _ := []
  fails _ _ := none
  commit _ := .committed
  rollbackFails _ := none
  connectFails := none
  closeFails := none

end MeadowOps.Sandbox
