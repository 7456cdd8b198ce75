import MeadowOps.Exceptions.Flags
import MeadowOps.Lib.Json
import MeadowOps.Lib.PyText

/-!
# `app/domain/scenario.py`

The state machine of a scenario, the check before approval and the ground truth that is read off an
exception flag. A `ground_truth` is a dictionary of JSON values.
-/

namespace MeadowOps.Scenarios

open Db Lib Exceptions

/-- `scenario.ground_truth`. -/
abbrev GroundTruth := Dict String Json

/-! ## The state machine -/

/-- `VALID_TRANSITIONS`. -/
def validTransitions : List (String × String) :=
  [("draft", "approved"), ("draft", "cancelled"), ("approved", "active"),
    ("approved", "cancelled"), ("active", "cancelled")]

def canTransition (fromStatus toStatus : String) : Bool :=
  decide ((fromStatus, toStatus) ∈ validTransitions)

/-! ## The check before approval -/

/-- `REQUIRED_GROUND_TRUTH_FIELDS`. -/
def requiredGroundTruthFields : List String :=
  ["known_cause", "evidence", "supporting_signals", "distractors", "expected_considerations",
    "acceptable_conclusions", "unacceptable_conclusions", "uncertainty"]

/-- A dictionary that is not empty. -/
def isFilledObject : Option Json → Bool
  | some (.object items) => !items.isEmpty
  | _ => false

/-- A text that is not blank. -/
def isFilledText : Option Json → Bool
  | some (.string s) => !isBlank s
  | _ => false

/-- A list that is not empty. -/
def isFilledList : Option Json → Bool
  | some (.array items) => !items.isEmpty
  | _ => false

/-- What is wrong with one required field. -/
def fieldError (groundTruth : GroundTruth) (field : String) : Option String :=
  let value := groundTruth.get? field
  if field = "evidence" then
    if isFilledObject value then none
    else some ("ground_truth." ++ field ++ " must be a non-empty object")
  else if field = "known_cause" ∨ field = "uncertainty" then
    if isFilledText value then none
    else some ("ground_truth." ++ field ++ " must be a non-empty string")
  else
    if isFilledList value then none
    else some ("ground_truth." ++ field ++ " must be a non-empty list")

/-- `not tier`. -/
def isMissing (tag : Option String) : Bool := tag.all (· == "")

def validateForApproval (groundTruth : GroundTruth) (difficultyTier competencyCluster : Option String) :
    List String :=
  requiredGroundTruthFields.filterMap (fieldError groundTruth) ++
    (if isMissing difficultyTier then ["difficulty_tier is required"] else []) ++
    (if isMissing competencyCluster then ["competency_cluster is required"] else [])

/-- The check reads the required fields only. -/
theorem validateForApproval_congr {g h : GroundTruth} (tier cluster : Option String)
    (same : ∀ field ∈ requiredGroundTruthFields, g.get? field = h.get? field) :
    validateForApproval g tier cluster = validateForApproval h tier cluster := by
  have fields : requiredGroundTruthFields.filterMap (fieldError g) =
      requiredGroundTruthFields.filterMap (fieldError h) := by
    apply List.filterMap_congr
    intro field hfield
    rw [fieldError, fieldError, same field hfield]
  rw [validateForApproval, validateForApproval, fields]

/-! ## The ground truth of a flag -/

structure ExceptionFlagSnapshot where
  id : String
  category : String
  productId : Option String
  warehouseId : Option String
  purchaseOrderId : Option String
  shipmentId : Option String
  simulationDate : Date
  firstDetectedSimulationDate : Date
  measuredValue : Option ℚ
  thresholdValue : ℚ
  resolvedAt : Option Instant

/-- `ExceptionFlagNotOpenError`, with the flag and when it was resolved. -/
structure ExceptionFlagNotOpen where
  id : String
  resolvedAt : Instant

def optionalText : Option String → Json
  | none => .null
  | some s => .string s

/-- `entity_desc`. -/
def entityDesc (flag : ExceptionFlagSnapshot) : String :=
  let bits := [("product_id", flag.productId), ("warehouse_id", flag.warehouseId),
    ("purchase_order_id", flag.purchaseOrderId), ("shipment_id", flag.shipmentId)].filterMap
      fun e => e.2.map fun value => e.1 ++ "=" ++ value
  if bits.isEmpty then "no linked entity" else ", ".intercalate bits

def knownCause (flag : ExceptionFlagSnapshot) : String :=
  "A '" ++ flag.category ++ "' exception was detected (" ++ entityDesc flag ++ "): measured value " ++
    (flag.measuredValue.map decimalText).getD "None" ++ " against threshold " ++
    decimalText flag.thresholdValue ++ ", first observed " ++
    isoformat flag.firstDetectedSimulationDate ++ ", still open as of " ++
    isoformat flag.simulationDate ++ "."

def evidence (flag : ExceptionFlagSnapshot) : Json :=
  .object
    [("source_exception_flag_id", .string flag.id),
     ("category", .string flag.category),
     ("product_id", optionalText flag.productId),
     ("warehouse_id", optionalText flag.warehouseId),
     ("purchase_order_id", optionalText flag.purchaseOrderId),
     ("shipment_id", optionalText flag.shipmentId),
     ("simulation_date", .string (isoformat flag.simulationDate)),
     ("first_detected_simulation_date", .string (isoformat flag.firstDetectedSimulationDate)),
     ("measured_value", optionalText (flag.measuredValue.map decimalText)),
     ("threshold_value", .string (decimalText flag.thresholdValue))]

def buildGroundTruthFromExceptionFlag (flag : ExceptionFlagSnapshot) :
    Except ExceptionFlagNotOpen GroundTruth :=
  match flag.resolvedAt with
  | some resolvedAt => .error ⟨flag.id, resolvedAt⟩
  | none => .ok (Dict.ofList
      [("known_cause", .string (knownCause flag)), ("evidence", evidence flag),
       ("supporting_signals", .array []), ("distractors", .array []),
       ("expected_considerations", .array []), ("acceptable_conclusions", .array []),
       ("unacceptable_conclusions", .array []), ("uncertainty", .string "")])

/-- `_snapshot_from_flag`. -/
def snapshotFromFlag (flag : ExceptionFlag) : ExceptionFlagSnapshot where
  id := uuidText flag.id
  category := flag.category
  productId := flag.productId
  warehouseId := flag.warehouseId
  purchaseOrderId := flag.purchaseOrderId.map uuidText
  shipmentId := flag.shipmentId.map uuidText
  simulationDate := flag.simulationDate
  firstDetectedSimulationDate := flag.firstDetectedSimulationDate
  measuredValue := flag.measuredValue
  thresholdValue := flag.thresholdValue
  resolvedAt := flag.resolvedAt

end MeadowOps.Scenarios
