import MeadowOps.Db.World
import MeadowOps.Flow.Rng
import MeadowOps.Lib.Program
import MeadowOps.Lib.PyText
import Mathlib.Data.List.Sort

/-!
# The decision ledger: `app/domain/ledger.py` and `app/services/ledger.py`

A program works on the rows of `live.decision_event`. `now` is what `datetime.now` answers inside
the call. A transition fetches its row under a lock, moves the status along `allowedTransitions` and
stamps what belongs to the new status; `flag_stale` does so for every old row it finds. `created_at`
and the listing that sorts by it are left out.
-/

namespace MeadowOps.Ledger

open Db Lib MeadowOps.Flow

inductive DecisionEventStatus where
  | proposed
  | clarificationRequested
  | accepted
  | rejected
  | implemented
  | partiallyImplemented
  | outcomeObserved
  | stale
  deriving DecidableEq, Repr

def DecisionEventStatus.value : DecisionEventStatus → String
  | .proposed => "proposed"
  | .clarificationRequested => "clarification_requested"
  | .accepted => "accepted"
  | .rejected => "rejected"
  | .implemented => "implemented"
  | .partiallyImplemented => "partially_implemented"
  | .outcomeObserved => "outcome_observed"
  | .stale => "stale"

/-- `_ALLOWED_TRANSITIONS`. -/
def allowedTransitions : DecisionEventStatus → List DecisionEventStatus
  | .proposed => [.clarificationRequested, .accepted, .rejected, .stale]
  | .clarificationRequested => [.proposed, .accepted, .rejected, .stale]
  | .stale => [.accepted, .rejected]
  | .accepted => [.implemented, .partiallyImplemented]
  | .rejected => []
  | .implemented => [.outcomeObserved]
  | .partiallyImplemented => [.outcomeObserved]
  | .outcomeObserved => []

structure InvalidTransitionError where
  fromState : DecisionEventStatus
  toState : DecisionEventStatus
  deriving DecidableEq, Repr

def InvalidTransitionError.message (e : InvalidTransitionError) : String :=
  "cannot transition Decision & Event record from '" ++ e.fromState.value ++ "' to '" ++
    e.toState.value ++ "'"

def validateTransition (fromState toState : DecisionEventStatus) : Except InvalidTransitionError Unit :=
  if toState ∈ allowedTransitions fromState then .ok () else .error ⟨fromState, toState⟩

/-- `timedelta(days=days)` in microseconds; outside its range the constructor raises. -/
def timedeltaDays (days : ℤ) : Option ℤ :=
  if -999999999 ≤ days ∧ days ≤ 999999999 then some (days * 86400000000) else none

/-- `none` where the period is no `timedelta`. -/
def isDecisionStale (proposedAt asOf : Instant) (afterDays : ℤ) : Option Bool :=
  (timedeltaDays afterDays).map fun period => decide (period ≤ asOf - proposedAt)

inductive RecordType where
  | operationalEvent
  | decision
  deriving DecidableEq, Repr

inductive ApprovalAuthority where
  | manager
  | procurementOperations
  | informationalOnly
  deriving DecidableEq, Repr

inductive DecisionOutcome where
  | succeeded
  | partiallySucceeded
  | failed
  | unintendedConsequence
  | insufficientEvidence
  deriving DecidableEq, Repr

inductive EntityType where
  | supplier
  | warehouse
  | product
  | customer
  | carrier
  deriving DecidableEq, Repr

structure DecisionEvent where
  id : Uuid
  recordType : RecordType
  status : DecisionEventStatus
  scenarioId : Option Uuid
  entityType : EntityType
  entityId : String
  title : String
  summary : String
  proposedAt : Instant
  approvalAuthority : Option ApprovalAuthority
  decidedAt : Option Instant
  decidedBy : Option String
  implementedAt : Option Instant
  outcome : Option DecisionOutcome
  outcomeRecordedAt : Option Instant
  outcomeNotes : Option String
  staleFlaggedAt : Option Instant
  supersedesId : Option Uuid
  deriving DecidableEq, Repr

inductive LedgerError where
  | decisionEventNotFound (message : String)
  | decisionTransition (message : String)
  /-- The primary key, the foreign key of `supersedes_id` or `ck_decision_event_no_self_supersede`. -/
  | integrityError
  | overflowError
  | dataError (message : String)
  deriving DecidableEq, Repr

/-- A service call on the rows of the ledger. -/
abbrev Service := EStateM LedgerError (List DecisionEvent)

/-- `session.get`, with or without the lock. -/
def getDecision (decisionId : Uuid) : Service DecisionEvent := fun rows =>
  match lookup (·.id) decisionId rows with
  | none => .error (.decisionEventNotFound ("decision event " ++ uuidText decisionId ++ " not found")) rows
  | some decision => .ok decision rows

/-- The row with its new status. -/
def applyTransition (decision : DecisionEvent) (toStatus : DecisionEventStatus) :
    Except InvalidTransitionError DecisionEvent :=
  match validateTransition decision.status toStatus with
  | .error e => .error e
  | .ok () => .ok { decision with status := toStatus }

/-- The UPDATE of a row. -/
def flush (decision : DecisionEvent) : Service Unit := fun rows =>
  .ok () (Lib.modify (·.id) decision.id (fun _ => decision) rows)

/-- Fetch a row, move its status and stamp it. -/
def transition (decisionId : Uuid) (toStatus : DecisionEventStatus)
    (stamp : DecisionEvent → DecisionEvent) : Service DecisionEvent := do
  let decision ← getDecision decisionId
  let moved ← Lib.liftExcept (fun e => .decisionTransition e.message) (applyTransition decision toStatus)
  flush (stamp moved)
  pure (stamp moved)

/-- `id` is what the database generates. -/
def proposeDecision (now : Instant) (id : Uuid) (entityType : EntityType)
    (entityId title summary : String) (recordType : RecordType) (scenarioId : Option Uuid)
    (approvalAuthority : Option ApprovalAuthority) (supersedesId : Option Uuid) :
    Service DecisionEvent := fun rows =>
  let decision : DecisionEvent := {
    id := id
    recordType := recordType
    status := .proposed
    scenarioId := scenarioId
    entityType := entityType
    entityId := entityId
    title := title
    summary := summary
    proposedAt := now
    approvalAuthority := approvalAuthority
    decidedAt := none
    decidedBy := none
    implementedAt := none
    outcome := none
    outcomeRecordedAt := none
    outcomeNotes := none
    staleFlaggedAt := none
    supersedesId := supersedesId }
  if supersedesId.all (fun old => decide (old ≠ id ∧ old ∈ rows.map (·.id))) then
    match insert? (·.id) decision rows with
    | none => .error .integrityError rows
    | some rows => .ok decision rows
  else .error .integrityError rows

def requestClarification (decisionId : Uuid) : Service DecisionEvent :=
  transition decisionId .clarificationRequested id

/-- Leaves `proposed_at` as it is. -/
def resubmitDecision (decisionId : Uuid) : Service DecisionEvent :=
  transition decisionId .proposed id

def acceptDecision (now : Instant) (decisionId : Uuid) (decidedBy : String)
    (approvalAuthority : Option ApprovalAuthority) : Service DecisionEvent :=
  transition decisionId .accepted fun decision => { decision with
    decidedAt := some now
    decidedBy := some decidedBy
    approvalAuthority := approvalAuthority.or decision.approvalAuthority }

def rejectDecision (now : Instant) (decisionId : Uuid) (decidedBy : String) : Service DecisionEvent :=
  transition decisionId .rejected fun decision => { decision with
    decidedAt := some now
    decidedBy := some decidedBy }

def markImplemented (now : Instant) (decisionId : Uuid) : Service DecisionEvent :=
  transition decisionId .implemented fun decision => { decision with implementedAt := some now }

def markPartiallyImplemented (now : Instant) (decisionId : Uuid) : Service DecisionEvent :=
  transition decisionId .partiallyImplemented fun decision => { decision with
    implementedAt := some now }

def recordOutcome (now : Instant) (decisionId : Uuid) (outcome : DecisionOutcome)
    (notes : Option String) : Service DecisionEvent :=
  transition decisionId .outcomeObserved fun decision => { decision with
    outcome := some outcome
    outcomeNotes := notes
    outcomeRecordedAt := some now }

/-- The WHERE clause of `flag_stale`. -/
def staleCandidate (decision : DecisionEvent) : Bool :=
  decide (decision.recordType = .decision ∧
    (decision.status = .proposed ∨ decision.status = .clarificationRequested))

/-- One iteration of `flag_stale`. -/
def flagDecision (asOf : Instant) (afterDays : ℤ) (flagged : List DecisionEvent)
    (decision : DecisionEvent) : Service (List DecisionEvent) :=
  match isDecisionStale decision.proposedAt asOf afterDays with
  | none => throw .overflowError
  | some false => pure flagged
  | some true => do
    let moved ← Lib.liftExcept (fun e => .decisionTransition e.message) (applyTransition decision .stale)
    let moved := { moved with staleFlaggedAt := some asOf }
    flush moved
    pure (flagged ++ [moved])

def flagStale (order : RowOrder DecisionEvent) (asOf : Instant) (afterDays : ℤ) :
    Service (List DecisionEvent) := do
  let rows ← get
  (order.rows (rows.filter staleCandidate)).foldlM (flagDecision asOf afterDays) []

/-- `_CALLBACK_ELIGIBLE_STATUSES`. -/
def callbackEligibleStatuses : List DecisionEventStatus :=
  [.implemented, .partiallyImplemented, .outcomeObserved]

/-- The WHERE clause of `find_callback_candidates`. -/
def callbackEligible (entityType : EntityType) (entityId : String) (decision : DecisionEvent) : Bool :=
  decide (decision.recordType = .decision ∧ decision.entityType = entityType ∧
    decision.entityId = entityId ∧ decision.status ∈ callbackEligibleStatuses)

/-- `ORDER BY decided_at DESC`: a null comes first. -/
def DecidedBefore (a b : DecisionEvent) : Prop :=
  match a.decidedAt, b.decidedAt with
  | none, _ => True
  | some _, none => False
  | some s, some t => t ≤ s

instance (a b : DecisionEvent) : Decidable (DecidedBefore a b) := by
  unfold DecidedBefore
  split <;> infer_instance

/-- `order` also settles the places of equal instants. -/
def findCallbackCandidates (order : RowOrder DecisionEvent) (entityType : EntityType)
    (entityId : String) (limit : ℤ) (rows : List DecisionEvent) :
    Except LedgerError (List DecisionEvent) :=
  if limit < 0 then .error (.dataError "LIMIT must not be negative")
  else
    let eligible := order.rows (rows.filter (callbackEligible entityType entityId))
    .ok ((eligible.insertionSort DecidedBefore).take limit.toNat)

/-! ## Sequences of calls -/

inductive Operation where
  | proposeDecision (id : Uuid) (entityType : EntityType) (entityId title summary : String)
    (recordType : RecordType) (scenarioId : Option Uuid)
    (approvalAuthority : Option ApprovalAuthority) (supersedesId : Option Uuid)
  | requestClarification (decisionId : Uuid)
  | resubmitDecision (decisionId : Uuid)
  | acceptDecision (decisionId : Uuid) (decidedBy : String)
    (approvalAuthority : Option ApprovalAuthority)
  | rejectDecision (decisionId : Uuid) (decidedBy : String)
  | markImplemented (decisionId : Uuid)
  | markPartiallyImplemented (decisionId : Uuid)
  | recordOutcome (decisionId : Uuid) (outcome : DecisionOutcome) (notes : Option String)
  | flagStale (order : RowOrder DecisionEvent) (asOf : Instant) (afterDays : ℤ)

structure Call where
  now : Instant
  operation : Operation

def Call.perform (call : Call) : Service Unit :=
  match call.operation with
  | .proposeDecision id entityType entityId title summary recordType scenarioId authority supersedesId =>
    discard (Ledger.proposeDecision call.now id entityType entityId title summary recordType scenarioId
      authority supersedesId)
  | .requestClarification id => discard (Ledger.requestClarification id)
  | .resubmitDecision id => discard (Ledger.resubmitDecision id)
  | .acceptDecision id decidedBy authority =>
    discard (Ledger.acceptDecision call.now id decidedBy authority)
  | .rejectDecision id decidedBy => discard (Ledger.rejectDecision call.now id decidedBy)
  | .markImplemented id => discard (Ledger.markImplemented call.now id)
  | .markPartiallyImplemented id => discard (Ledger.markPartiallyImplemented call.now id)
  | .recordOutcome id outcome notes => discard (Ledger.recordOutcome call.now id outcome notes)
  | .flagStale order asOf afterDays => discard (Ledger.flagStale order asOf afterDays)

/-- The rows after a sequence of calls on an empty ledger. -/
def ledgerAfter (calls : List Call) : List DecisionEvent :=
  calls.foldl (fun rows call => endState (call.perform rows)) []

theorem ledgerAfter_append_singleton (calls : List Call) (call : Call) :
    ledgerAfter (calls ++ [call]) = endState (call.perform (ledgerAfter calls)) := by
  rw [ledgerAfter, List.foldl_append]
  rfl

end MeadowOps.Ledger
