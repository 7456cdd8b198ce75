import MeadowOps.Generation.Prompts
import MeadowOps.Generation.Responses
import MeadowOps.Scenarios.OneLive

/-!
# The records of a training: `app/services/evaluation.py`, `human_review.py` and `portfolio.py`

The evaluations with all their columns, the reviews of them and the reflections of the Analyst, beside the
tables of the chat and of the scenarios. A request is one transaction: it commits, or it leaves the tables as
they were.
-/

namespace MeadowOps.Records

open Db Lib MeadowOps.Flow Scenarios Chat

open Generation (DifficultyRecommendation)

/-! ## The tables -/

/-- A row of `engine.evaluation`: the answer that was stored, and the columns beside it. -/
structure EvaluationRow where
  id : Uuid
  createdAt : Instant
  evaluation : Evaluation
  difficultyRecommendation : DifficultyRecommendation

def EvaluationRow.threadId (e : EvaluationRow) : Uuid := e.evaluation.threadId

/-- `_PROMPT_VERSION`. -/
def promptVersion : String :=
  Generation.evaluationTemplate.name ++ "/" ++ Generation.evaluationTemplate.version

inductive HumanReviewVerdict where
  | agree
  | override
  deriving DecidableEq, Repr

def HumanReviewVerdict.value : HumanReviewVerdict → String
  | .agree => "agree"
  | .override => "override"

structure HumanReview where
  id : Uuid
  evaluationId : Uuid
  submittedByUserId : Uuid
  reviewerName : String
  verdict : HumanReviewVerdict
  tierAssessmentNotes : String
  overriddenRecommendation : Option DifficultyRecommendation
  createdAt : Instant

/-- The seven answers. -/
structure Reflection where
  whatHappened : String
  initialThought : String
  evidenceThatMattered : String
  whatMissed : String
  whatChangedAfterPushback : String
  whatDifferently : String
  skillImproved : String

structure PortfolioArtifact where
  id : Uuid
  threadId : Uuid
  submittedByUserId : Uuid
  reflection : Reflection
  createdAt : Instant

structure RecordStore where
  chat : ChatStore
  /-- The titles of the scenarios. No function writes one again. -/
  title : Uuid → String
  evaluation : List EvaluationRow
  humanReview : List HumanReview
  portfolioArtifact : List PortfolioArtifact

inductive RecordError where
  | operation (e : OperationError)
  | noEvaluation (thread : Uuid)
  | evaluationNotFound (evaluation : Uuid)
  | humanReviewAlreadyExists (evaluation : Uuid)
  | invalidVerdictPairing (message : String)
  | threadNotCompleted (thread : Uuid)
  | portfolioArtifactAlreadyExists (thread : Uuid)
  | scenarioNotFound (scenario : Uuid)
  | evaluationMissingForCompletedThread (thread : Uuid)
  /-- A constraint of the database. -/
  | integrity

abbrev RecordTx := EStateM RecordError RecordStore

/-! ## Reading -/

section Read

variable (store : RecordStore)

/-- `get_thread`. -/
def findThread (threadId : Uuid) : Except RecordError ThreadRow :=
  match lookup ThreadRow.id threadId store.chat.threads with
  | none => .error (.operation (.chat (.threadNotFound threadId)))
  | some row =>
    match getThread row.thread with
    | .error e => .error (.operation (.chat e))
    | .ok _ => .ok row

def getEvaluationForThread (threadId : Uuid) : Option EvaluationRow :=
  lookup EvaluationRow.threadId threadId store.evaluation

def getHumanReviewForEvaluation (evaluationId : Uuid) : Option HumanReview :=
  lookup HumanReview.evaluationId evaluationId store.humanReview

def getPortfolioArtifactForThread (threadId : Uuid) : Option PortfolioArtifact :=
  lookup PortfolioArtifact.threadId threadId store.portfolioArtifact

/-- `_get_evaluation_or_404`. -/
def getEvaluationOr404 (threadId : Uuid) : Except RecordError EvaluationRow := do
  let _ ← findThread store threadId
  match getEvaluationForThread store threadId with
  | none => .error (.noEvaluation threadId)
  | some evaluation => return evaluation

/-! ## The difficulty of a cluster -/

/-- `MINIMUM_OBSERVATIONS`. -/
def minimumObservations : ℕ := 2

/-- `_RECENT_RECOMMENDATIONS_LIMIT`. -/
def recentRecommendationsLimit : ℕ := 5

/-- `resolve_cluster_tier`: the most recent one comes first. -/
def resolveClusterTier (recentRecommendations : List DifficultyRecommendation) : DifficultyRecommendation :=
  if recentRecommendations.length < minimumObservations then .hold
  else
    let sample := recentRecommendations.take minimumObservations
    if sample.dedup.length ≠ 1 then .hold else sample.head?.getD .hold

/-- The joins through the thread to a scenario of the cluster. -/
def ofCluster (cluster : CompetencyCluster) (e : EvaluationRow) : Bool :=
  match lookup ThreadRow.id e.threadId store.chat.threads with
  | none => false
  | some row =>
    match lookup Scenario.id row.thread.scenarioId store.chat.scenarios with
    | none => false
    | some scenario => decide (scenario.competencyCluster = cluster)

/-- `resolve_difficulty_for_cluster`; rows of one instant come in any order. -/
def resolveDifficultyForCluster (order : RowOrder EvaluationRow) (cluster : CompetencyCluster) :
    DifficultyRecommendation :=
  let rows := (order.rows (store.evaluation.filter (ofCluster store cluster))).insertionSort
    fun e f => f.createdAt ≤ e.createdAt
  resolveClusterTier ((rows.take recentRecommendationsLimit).map (·.difficultyRecommendation))

/-! ## The export -/

structure PortfolioMessage where
  senderRole : String
  body : String
  sentAt : Instant

/-- `_evaluation_export_fields`: the raw response is left out. -/
structure PortfolioEvaluation where
  id : Uuid
  promptVersion : String
  strengths : String
  gaps : String
  evidence : String
  seniorAnalystPushback : String
  finalVerdict : String
  suggestedNextSkillFocus : String
  difficultyRecommendation : DifficultyRecommendation
  createdAt : Instant

def evaluationExportFields (e : EvaluationRow) : PortfolioEvaluation where
  id := e.id
  promptVersion := promptVersion
  strengths := e.evaluation.result.strengths
  gaps := e.evaluation.result.gaps
  evidence := e.evaluation.result.evidence
  seniorAnalystPushback := e.evaluation.result.seniorAnalystPushback
  finalVerdict := e.evaluation.result.finalVerdict
  suggestedNextSkillFocus := e.evaluation.result.suggestedNextSkillFocus
  difficultyRecommendation := e.difficultyRecommendation
  createdAt := e.createdAt

structure PortfolioHumanReview where
  reviewerName : String
  verdict : HumanReviewVerdict
  tierAssessmentNotes : String
  overriddenRecommendation : Option DifficultyRecommendation
  createdAt : Instant

/-- `_human_review_export_fields`. -/
def humanReviewExportFields (review : HumanReview) : PortfolioHumanReview where
  reviewerName := review.reviewerName
  verdict := review.verdict
  tierAssessmentNotes := review.tierAssessmentNotes
  overriddenRecommendation := review.overriddenRecommendation
  createdAt := review.createdAt

/-- `_reflection_export_fields`. -/
def reflectionExportFields (artifact : PortfolioArtifact) : Reflection × Instant :=
  (artifact.reflection, artifact.createdAt)

structure PortfolioScenario where
  title : String
  scenarioType : String
  competencyCluster : String

structure PortfolioExport where
  scenario : PortfolioScenario
  trigger : Option String
  messages : List PortfolioMessage
  evaluation : PortfolioEvaluation
  humanReview : Option PortfolioHumanReview
  reflection : Option (Reflection × Instant)

def buildPortfolioExport (scenario : PortfolioScenario) (messages : List PortfolioMessage)
    (evaluation : PortfolioEvaluation) (humanReview : Option PortfolioHumanReview)
    (reflection : Option (Reflection × Instant)) : PortfolioExport :=
  ⟨scenario, messages.head?.map (·.body), messages, evaluation, humanReview, reflection⟩

def portfolioMessage (m : ChatMessage) : PortfolioMessage := ⟨m.senderRole.value, m.body, m.sentAt⟩

def portfolioScenario (scenario : Scenario) : PortfolioScenario :=
  ⟨store.title scenario.id, scenario.scenarioType.value, scenario.competencyCluster.value⟩

def getPortfolioExport (order : RowOrder ChatMessage) (threadId : Uuid) :
    Except RecordError PortfolioExport := do
  let row ← findThread store threadId
  if row.thread.status ≠ .completed then .error (.threadNotCompleted threadId)
  else
    match lookup Scenario.id row.thread.scenarioId store.chat.scenarios with
    | none => .error (.scenarioNotFound row.thread.scenarioId)
    | some scenario =>
      match getEvaluationForThread store threadId with
      | none => .error (.evaluationMissingForCompletedThread threadId)
      | some evaluation =>
        let messages := (listMessages order (store.chat.messagesOf threadId)).map portfolioMessage
        let humanReview := getHumanReviewForEvaluation store evaluation.id
        let reflection := getPortfolioArtifactForThread store threadId
        return (buildPortfolioExport (portfolioScenario store scenario) messages
          (evaluationExportFields evaluation) (humanReview.map humanReviewExportFields)
          (reflection.map reflectionExportFields))

end Read

/-! ## Writing -/

/-- A field of a request that is neither empty nor too long. -/
structure Text (maxLength : ℕ) where
  text : String
  some : 1 ≤ text.length
  most : text.length ≤ maxLength

def maxReviewerNameLength : ℕ := 200

def maxTierAssessmentNotesLength : ℕ := 5000

def maxReflectionAnswerLength : ℕ := 5000

/-- An override carries its own call, an agreement none. -/
def Pairs (verdict : HumanReviewVerdict) (overridden : Option DifficultyRecommendation) : Prop :=
  overridden.isSome = true ↔ verdict = .override

instance (verdict : HumanReviewVerdict) (overridden : Option DifficultyRecommendation) :
    Decidable (Pairs verdict overridden) := inferInstanceAs (Decidable (_ ↔ _))

/-- A body that the schema lets through. -/
structure HumanReviewCreate where
  reviewerName : Text maxReviewerNameLength
  verdict : HumanReviewVerdict
  tierAssessmentNotes : Text maxTierAssessmentNotesLength
  overriddenRecommendation : Option DifficultyRecommendation
  pairs : Pairs verdict overriddenRecommendation

structure PortfolioReflectionCreate where
  whatHappened : Text maxReflectionAnswerLength
  initialThought : Text maxReflectionAnswerLength
  evidenceThatMattered : Text maxReflectionAnswerLength
  whatMissed : Text maxReflectionAnswerLength
  whatChangedAfterPushback : Text maxReflectionAnswerLength
  whatDifferently : Text maxReflectionAnswerLength
  skillImproved : Text maxReflectionAnswerLength

/-- `record_human_review`, with the generated id. -/
def recordHumanReview (review : HumanReview) : RecordTx Unit := do
  let store ← get
  if (lookup EvaluationRow.id review.evaluationId store.evaluation).isNone then
    throw (.evaluationNotFound review.evaluationId)
  else if (getHumanReviewForEvaluation store review.evaluationId).isSome then
    throw (.humanReviewAlreadyExists review.evaluationId)
  else if review.verdict = .agree ∧ review.overriddenRecommendation.isSome then
    throw (.invalidVerdictPairing "overridden_recommendation must be omitted when verdict is 'agree'")
  else if review.verdict = .override ∧ review.overriddenRecommendation.isNone then
    throw (.invalidVerdictPairing "overridden_recommendation is required when verdict is 'override'")
  else
    match insert? HumanReview.id review store.humanReview with
    | none => throw .integrity
    | some humanReview => set { store with humanReview := humanReview }

/-- `record_human_review_route`. -/
def recordHumanReviewRoute (threadId submittedByUserId : Uuid) (payload : HumanReviewCreate) (id : Uuid)
    (now : Instant) : RecordTx Unit := do
  let store ← get
  let evaluation ← liftExcept (fun e => e) (getEvaluationOr404 store threadId)
  recordHumanReview
    { id := id
      evaluationId := evaluation.id
      submittedByUserId := submittedByUserId
      reviewerName := payload.reviewerName.text
      verdict := payload.verdict
      tierAssessmentNotes := payload.tierAssessmentNotes.text
      overriddenRecommendation := payload.overriddenRecommendation
      createdAt := now }

def PortfolioReflectionCreate.reflection (payload : PortfolioReflectionCreate) : Reflection :=
  ⟨payload.whatHappened.text, payload.initialThought.text, payload.evidenceThatMattered.text,
    payload.whatMissed.text, payload.whatChangedAfterPushback.text, payload.whatDifferently.text,
    payload.skillImproved.text⟩

/-- `create_portfolio_reflection`. -/
def createPortfolioReflection (artifact : PortfolioArtifact) : RecordTx Unit := do
  let store ← get
  let row ← liftExcept (fun e => e) (findThread store artifact.threadId)
  if row.thread.status ≠ .completed then throw (.threadNotCompleted artifact.threadId)
  else if (getPortfolioArtifactForThread store artifact.threadId).isSome then
    throw (.portfolioArtifactAlreadyExists artifact.threadId)
  else
    match insert? PortfolioArtifact.id artifact store.portfolioArtifact with
    | none => throw .integrity
    | some portfolioArtifact => set { store with portfolioArtifact := portfolioArtifact }

/-- A call of the two services below. -/
def onChat (call : ServiceCall) : RecordTx Unit := do
  let store ← get
  match call.perform store.chat with
  | .error e _ => throw (.operation e)
  | .ok _ chat => set { store with chat := chat }

/-- The other columns of the evaluation that a completion has inserted. The column of the recommendation
takes the members of the enumeration. -/
def insertEvaluationRow (id : Uuid) (now : Instant) (evaluation : Evaluation) : RecordTx Unit := do
  let store ← get
  match DifficultyRecommendation.ofValue evaluation.result.difficultyRecommendation with
  | none => throw .integrity
  | some recommendation =>
    match insert? EvaluationRow.id ⟨id, now, evaluation, recommendation⟩ store.evaluation with
    | none => throw .integrity
    | some rows => set { store with evaluation := rows }

/-- `complete_thread_and_generate_evaluation`, with the generated id. -/
def completeThreadRecorded (threadId : Uuid) (order : RowOrder ChatMessage)
    (answer : String → Option EvaluationResult) (id : Uuid) (now : Instant) : RecordTx Unit := do
  onChat (.chat (.completeThread threadId order answer) now)
  let store ← get
  match lookup Evaluation.threadId threadId store.chat.evaluations with
  | none => pure ()
  | some evaluation => insertEvaluationRow id now evaluation

/-! ## Requests -/

/-- `evaluationId` is the id that is generated for an evaluation. -/
inductive Request where
  | scenario (call : ScenarioCall)
  | chat (operation : Operation) (evaluationId : Uuid)
  | humanReview (threadId submittedByUserId : Uuid) (payload : HumanReviewCreate) (id : Uuid)
  | reflection (threadId submittedByUserId : Uuid) (payload : PortfolioReflectionCreate) (id : Uuid)

/-- The request in a transaction that starts at `now`. -/
def Request.perform (now : Instant) : Request → RecordTx Unit
  | .scenario call => onChat (.scenario call)
  | .chat (.completeThread threadId order answer) evaluationId =>
    completeThreadRecorded threadId order answer evaluationId now
  | .chat operation _ => onChat (.chat operation now)
  | .humanReview threadId submittedByUserId payload id =>
    recordHumanReviewRoute threadId submittedByUserId payload id now
  | .reflection threadId submittedByUserId payload id =>
    createPortfolioReflection ⟨id, threadId, submittedByUserId, payload.reflection, now⟩

/-- A request that raises is rolled back. -/
def Request.commit (request : Request) (now : Instant) (store : RecordStore) : RecordStore :=
  match request.perform now store with
  | .ok _ store' => store'
  | .error _ _ => store

/-- Requests one after another, each at its time. -/
def commitAll (requests : List (Request × Instant)) (store : RecordStore) : RecordStore :=
  requests.foldl (fun store request => request.1.commit request.2 store) store

end MeadowOps.Records
