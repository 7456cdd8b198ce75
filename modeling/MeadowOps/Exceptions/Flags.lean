import MeadowOps.Db.World
import MeadowOps.Flow.Rng
import MeadowOps.Lib.Dict

/-!
# `_sync_flags` of `app/services/exception_engine.py`

The flags of one category are reconciled with the verdicts of a call. Rows that the session adds
are inserted when it is flushed, which the database may refuse: a primary key that is taken, an open
flag with the same entry in `ux_exception_flag_open_entity`, or another constraint. Then the call
raises and its transaction is lost.
-/

namespace MeadowOps.Exceptions

open Db Lib MeadowOps.Flow

structure EntityKey where
  productId : Option String
  warehouseId : Option String
  purchaseOrderId : Option Uuid
  shipmentId : Option Uuid
  deriving DecidableEq, Repr

/-- `EntityKey()`. -/
def EntityKey.none : EntityKey := ⟨.none, .none, .none, .none⟩

/-- A verdict: flagged, not flagged, or inconclusive (`none`), and what was measured. -/
structure Evaluation where
  isFlagged : Option Bool
  measuredValue : Option ℚ
  deriving DecidableEq, Repr

structure ExceptionFlag where
  id : Uuid
  category : String
  productId : Option String
  warehouseId : Option String
  purchaseOrderId : Option Uuid
  shipmentId : Option Uuid
  simulationDate : Date
  firstDetectedSimulationDate : Date
  measuredValue : Option ℚ
  thresholdValue : ℚ
  resolvedAt : Option Instant
  deriving DecidableEq, Repr

namespace ExceptionFlag

def entityKey (f : ExceptionFlag) : EntityKey :=
  ⟨f.productId, f.warehouseId, f.purchaseOrderId, f.shipmentId⟩

/-- `resolved_at IS NULL`. -/
def isOpen (f : ExceptionFlag) : Bool := f.resolvedAt.isNone

/-- `row.resolved_at = func.now()`. -/
def resolve (now : Instant) (f : ExceptionFlag) : ExceptionFlag := { f with resolvedAt := some now }

/-- A flag that is observed again. -/
def observe (d : Date) (measured : Option ℚ) (f : ExceptionFlag) : ExceptionFlag :=
  { f with measuredValue := measured, simulationDate := d }

/-- The columns of `ux_exception_flag_open_entity`. -/
def openEntity (f : ExceptionFlag) : String × String × String × Option Uuid × Option Uuid :=
  (f.category, f.productId.getD "", f.warehouseId.getD "", f.purchaseOrderId, f.shipmentId)

end ExceptionFlag

/-- The arguments of a call, and what the database decides: the order of the rows, the time of the
transaction, the generated keys, and which rows break a constraint that is not modelled. -/
structure SyncCall where
  category : String
  simulationDate : Date
  thresholdValue : ℚ
  evaluations : Dict EntityKey Evaluation
  rows : RowOrder ExceptionFlag
  now : Instant
  newId : EntityKey → Uuid
  refuses : ExceptionFlag → Bool

namespace SyncCall
variable (c : SyncCall)

/-- The open flags of the category. -/
def openRows (flags : List ExceptionFlag) : List ExceptionFlag :=
  flags.filter fun f => decide (f.category = c.category) && f.isOpen

def existing (flags : List ExceptionFlag) : Dict EntityKey Uuid :=
  Dict.ofList ((c.rows.rows (c.openRows flags)).map fun f => (f.entityKey, f.id))

/-- `evaluations.get(key, Evaluation(False, None))`. -/
def evaluation (key : EntityKey) : Evaluation := c.evaluations.getD key ⟨some false, none⟩

/-- One existing flag: resolved when the verdict is a confident no. -/
def resolveStep (acc : List ExceptionFlag × List EntityKey) (item : EntityKey × Uuid) :
    List ExceptionFlag × List EntityKey :=
  match (c.evaluation item.1).isFlagged with
  | none | some true => acc
  | some false =>
    (modify (·.id) item.2 (ExceptionFlag.resolve c.now) acc.1, acc.2 ++ [item.1])

/-- The row the session adds for a newly flagged entity. -/
def newFlag (key : EntityKey) (measured : Option ℚ) : ExceptionFlag where
  id := c.newId key
  category := c.category
  productId := key.productId
  warehouseId := key.warehouseId
  purchaseOrderId := key.purchaseOrderId
  shipmentId := key.shipmentId
  simulationDate := c.simulationDate
  firstDetectedSimulationDate := c.simulationDate
  measuredValue := measured
  thresholdValue := c.thresholdValue
  resolvedAt := none

/-- One evaluated entity: an open flag is observed again, else a flag is added. -/
def evaluateStep (existing : Dict EntityKey Uuid) (resolvedKeys : List EntityKey)
    (acc : List ExceptionFlag × List ExceptionFlag) (item : EntityKey × Evaluation) :
    List ExceptionFlag × List ExceptionFlag :=
  if item.2.isFlagged ≠ some true then acc
  else
    match existing.get? item.1 with
    | some id =>
      if item.1 ∉ resolvedKeys then
        (modify (·.id) id (ExceptionFlag.observe c.simulationDate item.2.measuredValue) acc.1, acc.2)
      else (acc.1, acc.2 ++ [c.newFlag item.1 item.2.measuredValue])
    | none => (acc.1, acc.2 ++ [c.newFlag item.1 item.2.measuredValue])

/-- INSERT of one flag. -/
def insertFlag? (flags : List ExceptionFlag) (f : ExceptionFlag) : Option (List ExceptionFlag) :=
  if c.refuses f || (flags.any fun g => g.isOpen && decide (g.openEntity = f.openEntity)) then none
  else insert? (·.id) f flags

/-- The flags after the call and its flush, with the counts it returns; `none` when it raises. -/
def syncFlags (flags : List ExceptionFlag) : Option (List ExceptionFlag × ℕ × ℕ) :=
  let existing := c.existing flags
  let resolved := existing.items.foldl c.resolveStep (flags, [])
  let evaluated := c.evaluations.items.foldl (c.evaluateStep existing resolved.2) (resolved.1, [])
  match evaluated.2.foldlM c.insertFlag? evaluated.1 with
  | none => none
  | some flags => some (flags, evaluated.2.length, resolved.2.length)

end SyncCall

end MeadowOps.Exceptions
