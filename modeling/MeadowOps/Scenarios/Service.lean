import MeadowOps.Scenarios.Package
import MeadowOps.Lib.RowTx

/-!
# `app/services/scenario_service.py`

A service function reads the row of its scenario and assigns to columns of the object, or raises. The
session then writes the assigned columns whose value is not the one it read, compared by Python's
`==`, in one UPDATE, or issues none. What the functions learn elsewhere (the source flag, the
answer of the Claude client, another scenario that is still active, the time) comes with the call.
-/

namespace MeadowOps.Scenarios

open Db Lib Exceptions

inductive ScenarioType where
  | stakeholderRequest
  | dataQualityIssue
  | rootCauseInvestigation
  | supplierVendorDecision
  | processBreakdown
  | executiveReporting
  deriving DecidableEq, Repr

def ScenarioType.value : ScenarioType → String
  | .stakeholderRequest => "stakeholder_request"
  | .dataQualityIssue => "data_quality_issue"
  | .rootCauseInvestigation => "root_cause_investigation"
  | .supplierVendorDecision => "supplier_vendor_decision"
  | .processBreakdown => "process_breakdown"
  | .executiveReporting => "executive_reporting"

inductive CompetencyCluster where
  | analysisDiagnosis
  | judgmentDelivery
  | communication
  deriving DecidableEq, Repr

def CompetencyCluster.value : CompetencyCluster → String
  | .analysisDiagnosis => "analysis_diagnosis"
  | .judgmentDelivery => "judgment_delivery"
  | .communication => "communication"

inductive DifficultyTier where
  | foundational
  | standard
  | stretch
  deriving DecidableEq, Repr

def DifficultyTier.value : DifficultyTier → String
  | .foundational => "foundational"
  | .standard => "standard"
  | .stretch => "stretch"

inductive ScenarioSource where
  | exceptionFlag
  | manual
  deriving DecidableEq, Repr

inductive ScenarioStatus where
  | draft
  | approved
  | active
  | cancelled
  deriving DecidableEq, Repr

def ScenarioStatus.value : ScenarioStatus → String
  | .draft => "draft"
  | .approved => "approved"
  | .active => "active"
  | .cancelled => "cancelled"

/-- The columns of `engine.scenario` that a service function reads or writes. -/
structure Scenario where
  id : Uuid
  scenarioType : ScenarioType
  competencyCluster : CompetencyCluster
  difficultyTier : DifficultyTier
  source : ScenarioSource
  sourceExceptionFlagId : Option Uuid
  groundTruth : GroundTruth
  status : ScenarioStatus
  approvedAt : Option Instant
  activatedAt : Option Instant

/-- An id in `referenced_entity_ids` that is not found, or that is not a UUID. -/
inductive ReferenceError where
  | unknown (key label id : String)
  | notAnId (key id : String)
  deriving DecidableEq, Repr

inductive ScenarioError where
  | transition (message : String)
  | validation (errors : List String)
  | exceptionFlagNotFound (message : String)
  | exceptionFlagNotOpen (flag : ExceptionFlagNotOpen)
  | generationFailed
  | generationValidation (errors : List ReferenceError)

/-- What the Claude client answers to `generate_scenario_narrative`. -/
structure ScenarioNarrative where
  supportingSignals : List String
  distractors : List String
  expectedConsiderations : List String
  acceptableConclusions : List String
  unacceptableConclusions : List String
  uncertainty : String
  referencedEntityIds : Dict String (List String)
  narrative : String
  expectedQuery : String

/-- What `regenerate_scenario` learns: the flags, the client's answer (`none` when the generation
fails), the rows that exist by their table, and which texts are UUIDs. -/
structure Regeneration where
  exceptionFlag : Uuid → Option ExceptionFlag
  answer : Option ScenarioNarrative
  known : String → String → Bool
  knownUuid : String → Uuid → Bool
  parseUuid : String → Option Uuid

/-- One call of a service function on the scenario. -/
inductive Call where
  | updateGroundTruth (updates : GroundTruth)
  | regenerateScenario (env : Regeneration)
  | regenerateNarrative (answer : Option String)
  | regenerateExpectedQuery (answer : Option String)
  | approveScenario (now : Instant)
  | activateScenario (blocking : Option Uuid) (now : Instant)
  | cancelScenario

/-! ## The functions -/

/-- The columns of the object that a function assigns to. -/
structure Assigned where
  groundTruth : Option GroundTruth := none
  status : Option ScenarioStatus := none
  approvedAt : Option Instant := none
  activatedAt : Option Instant := none

/-- `_require_transition`. -/
def requireTransition (scenario : Scenario) (toStatus : ScenarioStatus) : Except ScenarioError Unit :=
  if canTransition scenario.status.value toStatus.value then .ok ()
  else .error (.transition ("cannot move scenario " ++ uuidText scenario.id ++ " from " ++
    scenario.status.value ++ " to " ++ toStatus.value))

/-- `BUILDER_NOTE_KEYS`. -/
def builderNoteKeys : List String := ["narrative", "expected_query"]

/-- `_may_edit_builder_notes`. -/
def mayEditBuilderNotes (scenario : Scenario) (updates : GroundTruth) : Bool :=
  decide (scenario.status ≠ .cancelled) && !updates.items.isEmpty &&
    updates.items.all fun e => decide (e.1 ∈ builderNoteKeys)

def updateGroundTruth (scenario : Scenario) (updates : GroundTruth) :
    Except ScenarioError Assigned :=
  if scenario.status ≠ .draft ∧ mayEditBuilderNotes scenario updates = false then
    .error (.transition ("scenario " ++ uuidText scenario.id ++
      " ground_truth can only be edited while in draft (currently " ++ scenario.status.value ++ ")"))
  else .ok { groundTruth := some (scenario.groundTruth.update updates) }

/-- `_STRING_ID_ENTITY_TYPES`, with the label. -/
def stringIdEntityTypes : List (String × String) :=
  [("product_ids", "product"), ("warehouse_ids", "warehouse"), ("supplier_ids", "supplier")]

/-- `_UUID_ID_ENTITY_TYPES`, with the label. -/
def uuidIdEntityTypes : List (String × String) :=
  [("purchase_order_ids", "purchase order"), ("shipment_ids", "shipment")]

/-- The error of one referenced id. -/
def referenceError (env : Regeneration) (key id : String) : Option ReferenceError :=
  match stringIdEntityTypes.lookup key, uuidIdEntityTypes.lookup key with
  | some label, _ => if env.known label id then none else some (.unknown key label id)
  | none, some label =>
    match env.parseUuid id with
    | none => some (.notAnId key id)
    | some parsed => if env.knownUuid label parsed then none else some (.unknown key label id)
  | none, none => none

def validateReferencedEntityIds (env : Regeneration) (ids : Dict String (List String)) :
    List ReferenceError :=
  ids.items.flatMap fun e => e.2.filterMap (referenceError env e.1)

/-- A list of texts as a JSON list. -/
def texts (l : List String) : Json := .array (l.map .string)

/-- The package that `regenerate_scenario` assigns. -/
def regeneratedPackage (fresh : GroundTruth) (narrative : ScenarioNarrative) : GroundTruth :=
  Dict.ofList
    [("known_cause", fresh.getD "known_cause" .null),
     ("evidence", fresh.getD "evidence" .null),
     ("supporting_signals", texts narrative.supportingSignals),
     ("distractors", texts narrative.distractors),
     ("expected_considerations", texts narrative.expectedConsiderations),
     ("acceptable_conclusions", texts narrative.acceptableConclusions),
     ("unacceptable_conclusions", texts narrative.unacceptableConclusions),
     ("uncertainty", .string narrative.uncertainty),
     ("referenced_entity_ids", .object (narrative.referencedEntityIds.items.map fun e =>
       (e.1, texts e.2))),
     ("narrative", .string narrative.narrative),
     ("expected_query", .string narrative.expectedQuery)]

/-- The flag a scenario is regenerated from. -/
def sourceFlag (scenario : Scenario) (env : Regeneration) : Except ScenarioError ExceptionFlag :=
  if scenario.status ≠ .draft then
    .error (.transition ("scenario " ++ uuidText scenario.id ++
      " can only be regenerated while in draft (currently " ++ scenario.status.value ++ ")"))
  else
    match scenario.source, scenario.sourceExceptionFlagId with
    | .exceptionFlag, some flagId =>
      match env.exceptionFlag flagId with
      | none => .error (.exceptionFlagNotFound ("exception flag " ++ uuidText flagId ++ " not found"))
      | some flag => .ok flag
    | _, _ => .error (.transition ("scenario " ++ uuidText scenario.id ++
        " has no source exception flag to regenerate from"))

/-- The package from a flag and the client's answer. -/
def generatedPackage (env : Regeneration) (flag : ExceptionFlag) : Except ScenarioError GroundTruth :=
  match buildGroundTruthFromExceptionFlag (snapshotFromFlag flag), env.answer with
  | .error e, _ => .error (.exceptionFlagNotOpen e)
  | .ok _, none => .error .generationFailed
  | .ok fresh, some narrative =>
    let errors := validateReferencedEntityIds env narrative.referencedEntityIds
    if errors.isEmpty then .ok (regeneratedPackage fresh narrative)
    else .error (.generationValidation errors)

def regenerateScenario (scenario : Scenario) (env : Regeneration) : Except ScenarioError Assigned := do
  let flag ← sourceFlag scenario env
  let package ← generatedPackage env flag
  return { groundTruth := some package }

/-- `_scenario_for_builder_note`. -/
def scenarioForBuilderNote (scenario : Scenario) : Except ScenarioError Unit :=
  if scenario.status = .cancelled then
    .error (.transition ("scenario " ++ uuidText scenario.id ++ " is cancelled"))
  else .ok ()

/-- `regenerate_narrative` and `regenerate_expected_query`: a new text under one key. -/
def regenerateBuilderNote (key : String) (scenario : Scenario) (answer : Option String) :
    Except ScenarioError Assigned := do
  scenarioForBuilderNote scenario
  match answer with
  | none => .error .generationFailed
  | some text =>
    let note := Dict.ofList [(key, Json.string text)]
    return { groundTruth := some (scenario.groundTruth.update note) }

def regenerateNarrative : Scenario → Option String → Except ScenarioError Assigned :=
  regenerateBuilderNote "narrative"

def regenerateExpectedQuery : Scenario → Option String → Except ScenarioError Assigned :=
  regenerateBuilderNote "expected_query"

def approveScenario (scenario : Scenario) (now : Instant) : Except ScenarioError Assigned := do
  requireTransition scenario .approved
  let errors := validateForApproval scenario.groundTruth (some scenario.difficultyTier.value)
    (some scenario.competencyCluster.value)
  if errors.isEmpty then return { status := some .approved, approvedAt := some now }
  else .error (.validation errors)

def activateScenario (scenario : Scenario) (blocking : Option Uuid) (now : Instant) :
    Except ScenarioError Assigned := do
  requireTransition scenario .active
  match blocking with
  | some other => .error (.transition ("cannot activate " ++ uuidText scenario.id ++ ": scenario " ++
      uuidText other ++ " is still active"))
  | none => return { status := some .active, activatedAt := some now }

def cancelScenario (scenario : Scenario) : Except ScenarioError Assigned := do
  requireTransition scenario .cancelled
  return { status := some .cancelled }

def Call.service (scenario : Scenario) : Call → Except ScenarioError Assigned
  | .updateGroundTruth updates => Scenarios.updateGroundTruth scenario updates
  | .regenerateScenario env => Scenarios.regenerateScenario scenario env
  | .regenerateNarrative answer => Scenarios.regenerateNarrative scenario answer
  | .regenerateExpectedQuery answer => Scenarios.regenerateExpectedQuery scenario answer
  | .approveScenario now => Scenarios.approveScenario scenario now
  | .activateScenario blocking now => Scenarios.activateScenario scenario blocking now
  | .cancelScenario => Scenarios.cancelScenario scenario

/-- Two steps that return. -/
theorem ok_of_bind {ε α β : Type} {x : Except ε α} {f : α → Except ε β} {b : β}
    (h : (x >>= f) = .ok b) : ∃ a, x = .ok a ∧ f a = .ok b := by
  cases x with
  | error e => cases h
  | ok a => exact ⟨a, rfl, h⟩

/-! ## The flush -/

/-- The two packages are equal to Python. -/
def samePackage (g h : GroundTruth) : Bool := Json.pyEq (.object g.items) (.object h.items)

/-- The assigned columns that differ from the copy. -/
def Assigned.changes (assigned : Assigned) (copy : Scenario) : Assigned where
  groundTruth := assigned.groundTruth.filter fun g => !samePackage g copy.groundTruth
  status := assigned.status.filter (· ≠ copy.status)
  approvedAt := assigned.approvedAt.filter (some · ≠ copy.approvedAt)
  activatedAt := assigned.activatedAt.filter (some · ≠ copy.activatedAt)

/-- UPDATE of those columns. -/
def Assigned.write (changes : Assigned) (row : Scenario) : Scenario :=
  { row with
    groundTruth := changes.groundTruth.getD row.groundTruth
    status := changes.status.getD row.status
    approvedAt := changes.approvedAt.or row.approvedAt
    activatedAt := changes.activatedAt.or row.activatedAt }

/-- There is nothing to write. -/
def Assigned.isEmpty (changes : Assigned) : Bool :=
  changes.groundTruth.isNone && changes.status.isNone && changes.approvedAt.isNone &&
    changes.activatedAt.isNone

/-- A call on the copy its transaction read. -/
def outcome (call : Call) (copy : Scenario) : RowTx.Outcome Scenario :=
  match call.service copy with
  | .error _ => .raises
  | .ok assigned =>
    if (assigned.changes copy).isEmpty then .keeps else .writes (assigned.changes copy).write

theorem write_of_isEmpty {changes : Assigned} (row : Scenario) (h : changes.isEmpty = true) :
    changes.write row = row := by
  simp only [Assigned.isEmpty, Bool.and_eq_true, Option.isNone_iff_eq_none] at h
  obtain ⟨⟨⟨package, status⟩, approved⟩, activated⟩ := h
  simp [Assigned.write, package, status, approved, activated]

/-- A call that returns: the committed row after its commit. -/
theorem applied_eq {call : Call} {copy : Scenario} {assigned : Assigned}
    (h : call.service copy = .ok assigned) (row : Scenario) :
    RowTx.applied outcome call copy row = (assigned.changes copy).write row := by
  by_cases same : (assigned.changes copy).isEmpty = true
  · simp [RowTx.applied, outcome, h, same, write_of_isEmpty row same]
  · simp [RowTx.applied, outcome, h, same]

theorem service_of_returned {call : Call} {copy : Scenario} (h : outcome call copy ≠ .raises) :
    ∃ assigned, call.service copy = .ok assigned := by
  cases service : call.service copy with
  | error e => exact absurd (by simp [outcome, service]) h
  | ok assigned => exact ⟨assigned, rfl⟩

/-- A builder note is one key of the package. -/
theorem builderNote_ok {key : String} {copy : Scenario} {answer : Option String} {assigned : Assigned}
    (ok : regenerateBuilderNote key copy answer = .ok assigned) : ∃ text, answer = some text ∧
      assigned = { groundTruth := some (copy.groundTruth.update
        (Dict.ofList [(key, Json.string text)])) } := by
  obtain ⟨_, _, ok⟩ := ok_of_bind ok
  cases answer with
  | none => cases ok
  | some text =>
    cases ok
    exact ⟨text, rfl, rfl⟩

/-- A package that is assigned, in the row: written unless it equals the copy's. -/
theorem write_package (package : GroundTruth) (copy row : Scenario) :
    (Assigned.changes { groundTruth := some package } copy).write row =
      { row with groundTruth :=
        if samePackage package copy.groundTruth then row.groundTruth else package } := by
  by_cases same : samePackage package copy.groundTruth = true
  · simp [Assigned.changes, Assigned.write, Option.filter, same]
  · simp [Assigned.changes, Assigned.write, Option.filter, same]

end MeadowOps.Scenarios
