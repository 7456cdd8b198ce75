import MeadowOps.Generation.Prompts

/-!
# What reaches the client: `app/services/persona_chat.py`, `evaluation.py`, `scenario_service.py`

A service reads the thread, its messages and the scenario, and asks the client. Two runs whose scenarios
differ only in what a prompt may not know send the same requests.
-/

namespace MeadowOps.Generation

open Db Lib MeadowOps.Flow Scenarios Chat

/-! ## Requests -/

/-- What `create_message` is called with. -/
structure Request where
  model : String
  system : String
  messages : List (String × String)
  maxTokens : ℕ
  deriving DecidableEq, Repr

/-- What the client does at a call, by the requests it has got, this one included. -/
abbrev Client := List Request → Except AttemptError String

/-- What is sent to the client, and what comes of it. -/
structure Exchange (V : Type) where
  requests : List Request
  result : Except GenerationError V

/-- One user message. -/
def request (system prompt : String) (maxTokens : ℕ) : Request :=
  ⟨"claude-sonnet-4-5", system, [("user", prompt)], maxTokens⟩

/-- Every attempt sends the same request. -/
def exchange {V : Type} (generation : ClaudeClient → Generated V) (client : Client) (asked : Request) :
    Exchange V :=
  let generated := generation fun made => client (List.replicate (made + 1) asked)
  ⟨List.replicate generated.calls asked, generated.result⟩

/-- What a service raises before it asks the client. -/
inductive ServiceError where
  | chat (e : ChatError)
  | scenario (e : ScenarioError)
  | scenarioNotFound (scenario : Uuid)
  | scenarioCancelled (scenario : Uuid)
  | noAnalystMessageYet (thread : Uuid)
  | threadAlreadyHasMessages (thread : Uuid)
  | maxPushbackRoundsExceeded (thread : Uuid)
  | prompt (e : PromptRenderError)

/-- The prompt is rendered before the client is asked. -/
def ask {V : Type} (generation : ClaudeClient → Generated V) (client : Client) (system : String)
    (maxTokens : ℕ) (prompt : Except PromptRenderError String) : Except ServiceError (Exchange V) :=
  match prompt with
  | .error e => .error (.prompt e)
  | .ok text => .ok (exchange generation client (request system text maxTokens))

/-- What a service has sent. -/
def requestsOf {V : Type} : Except ServiceError (Exchange V) → List Request
  | .error _ => []
  | .ok exchange => exchange.requests

/-! ## Reading -/

/-- `get_thread`. -/
def findThread (store : ChatStore) (threadId : Uuid) : Except ServiceError ThreadRow :=
  match lookup ThreadRow.id threadId store.threads with
  | none => .error (.chat (.threadNotFound threadId))
  | some row =>
    match getThread row.thread with
    | .error e => .error (.chat e)
    | .ok _ => .ok row

/-- `_load_thread_and_active_scenario`. -/
def loadThreadAndActiveScenario (store : ChatStore) (threadId : Uuid) :
    Except ServiceError (ThreadRow × Scenario) := do
  let row ← findThread store threadId
  match lookup Scenario.id row.thread.scenarioId store.scenarios with
  | none => .error (.scenarioNotFound row.thread.scenarioId)
  | some scenario =>
    if scenario.status = .cancelled then .error (.scenarioCancelled scenario.id)
    else return (row, scenario)

def analystMessages (messages : List ChatMessage) : List ChatMessage :=
  messages.filter fun m => m.senderRole = .analyst

/-- `_latest_analyst_message`: of messages of one instant, any. -/
def latestAnalystMessage (order : RowOrder ChatMessage) (messages : List ChatMessage) :
    Option ChatMessage :=
  ((order.rows (analystMessages messages)).insertionSort fun m n => n.sentAt ≤ m.sentAt).head?

/-- `_conversation_history_text`. -/
def conversationHistoryText (messages : List ChatMessage) (excludeMessageId : Uuid) : String :=
  "\n".intercalate ((messages.filter fun m => m.id ≠ excludeMessageId).map fun m =>
    m.senderRole.value ++ ": " ++ m.body)

def maxPushbackRounds : ℕ := 5

/-- The system prompt of `_generate_persona_message`. -/
def personaSystem (persona : StakeholderPersona) : String :=
  "You roleplay " ++ (personaProfile persona).name ++ ", a stakeholder in a supply-chain scenario. " ++
    "Reply in character, in plain text - no JSON, no markdown."

def sufficiencySystem : String :=
  "You grade an Analyst trainee's message against ground truth. You respond with JSON only, never prose."

def evaluationSystem : String :=
  "You are a senior analyst drafting a DRAFT, NOT AUTHORITATIVE evaluation of a trainee Analyst's " ++
    "performance on a supply-chain scenario. You respond with JSON only, never prose."

def narrativeSystem : String :=
  "You write concise, factual supply-chain scenario narratives. Plain text only."

def expectedQuerySystem : String :=
  "You write a single PostgreSQL SELECT statement. SQL only, no prose."

/-! ## The services -/

/-- What the services take from elsewhere: the client, `sqlparse`, `json.loads`, the texts of numbers, the
tables of the sandbox in words, and the orders in which rows are read. -/
structure Environment where
  client : Client
  sql : SqlParse
  loads : String → Except String Json
  numberText : ℚ → String
  schemaSummary : String
  latestOrder : RowOrder ChatMessage
  listOrder : RowOrder ChatMessage

section

variable (env : Environment) (store : ChatStore)

def suggestThreadPushback (threadId : Uuid) (attitude : Attitude) :
    Except ServiceError (Exchange String) := do
  let (row, scenario) ← loadThreadAndActiveScenario store threadId
  let messages := store.messagesOf threadId
  match latestAnalystMessage env.latestOrder messages with
  | none => .error (.noAnalystMessageYet threadId)
  | some latest =>
    if maxPushbackRounds ≤ (analystMessages messages).length then
      .error (.maxPushbackRoundsExceeded threadId)
    else
      ask suggestPushbackMessage env.client (personaSystem row.persona) 1024
        (buildPushbackPrompt env.numberText row.persona attitude
          (buildKnownInformation scenario.groundTruth)
          (conversationHistoryText (listMessages env.listOrder messages) latest.id) latest.body)

def suggestThreadOpening (threadId : Uuid) (attitude : Attitude) : Except ServiceError (Exchange String) := do
  let (row, scenario) ← loadThreadAndActiveScenario store threadId
  if listMessages env.listOrder (store.messagesOf threadId) ≠ [] then
    .error (.threadAlreadyHasMessages threadId)
  else
    ask suggestOpeningMessage env.client (personaSystem row.persona) 1024
      (buildOpeningPrompt env.numberText row.persona attitude
        (buildKnownInformation scenario.groundTruth))

def checkThreadSufficiency (threadId : Uuid) : Except ServiceError (Exchange SufficiencyVerdict) := do
  let (_, scenario) ← loadThreadAndActiveScenario store threadId
  match latestAnalystMessage env.latestOrder (store.messagesOf threadId) with
  | none => .error (.noAnalystMessageYet threadId)
  | some latest =>
    ask (runSufficiencyCheck env.loads) env.client sufficiencySystem 1024
      (buildSufficiencyPrompt env.numberText (withoutBuilderOnlyKeys scenario.groundTruth) latest.body)

/-- `stakeholder_context` in `complete_thread_and_generate_evaluation`. -/
def stakeholderContext (persona : StakeholderPersona) : String :=
  let profile := personaProfile persona
  profile.name ++ " (" ++ profile.priorities ++ "; " ++ profile.style ++ ")"

/-- The call of `generate_evaluation`. -/
def askEvaluation (persona : StakeholderPersona) (scenario : Scenario) (analystResponses : String) :
    Except ServiceError (Exchange EvaluationResult) :=
  ask (generateEvaluation env.loads) env.client evaluationSystem 2048
    (buildEvaluationPrompt env.numberText (withoutBuilderOnlyKeys scenario.groundTruth)
      (buildKnownInformation scenario.groundTruth) (stakeholderContext persona)
      (expectedClusterBehaviors scenario.competencyCluster) analystResponses
      (buildOutcome scenario.groundTruth))

/-- `complete_thread_and_generate_evaluation`, up to the INSERT. -/
def completeThreadAndGenerateEvaluation (threadId : Uuid) :
    Except ServiceError (Exchange EvaluationResult) := do
  let row ← findThread store threadId
  let messages := listMessages env.listOrder (store.messagesOf threadId)
  if row.thread.status = .completed then .error (.chat (.threadAlreadyCompleted row.thread.id))
  else if messages.getLast?.all fun m => decide (m.senderRole ≠ .analyst) then
    .error (.chat (.latestMessageNotFromAnalyst row.thread.id))
  else
    match lookup Scenario.id row.thread.scenarioId store.scenarios with
    | none => .error (.scenarioNotFound row.thread.scenarioId)
    | some scenario =>
      if scenario.status = .cancelled then .error (.scenarioCancelled scenario.id)
      else askEvaluation env row.persona scenario (analystResponsesText messages)

/-- `_scenario_for_builder_note`, with the lookup. -/
def findScenarioForBuilderNote (scenarioId : Uuid) : Except ServiceError Scenario :=
  match lookup Scenario.id scenarioId store.scenarios with
  | none => .error (.scenarioNotFound scenarioId)
  | some scenario =>
    match scenarioForBuilderNote scenario with
    | .error e => .error (.scenario e)
    | .ok () => .ok scenario

/-- `regenerate_narrative`, up to the assignment. -/
def regenerateNarrative (scenarioId : Uuid) : Except ServiceError (Exchange String) := do
  let scenario ← findScenarioForBuilderNote store scenarioId
  ask generateNarrativeText env.client narrativeSystem 1024
    (buildNarrativePrompt env.numberText scenario.scenarioType.value scenario.difficultyTier.value
      scenario.competencyCluster.value scenario.groundTruth)

/-- `regenerate_expected_query`, up to the assignment. -/
def regenerateExpectedQuery (scenarioId : Uuid) : Except ServiceError (Exchange String) := do
  let scenario ← findScenarioForBuilderNote store scenarioId
  ask (generateExpectedQuery env.sql) env.client expectedQuerySystem 1024
    (buildExpectedQueryPrompt env.numberText scenario.scenarioType.value scenario.difficultyTier.value
      scenario.competencyCluster.value scenario.groundTruth env.schemaSummary)

end

/-! ## The evaluation that is stored -/

/-- `DifficultyRecommendation.value`. -/
def DifficultyRecommendation.value : DifficultyRecommendation → String
  | .foundational => "foundational"
  | .standard => "standard"
  | .stretch => "stretch"
  | .hold => "hold"

/-- The columns of the row, from the result. -/
def EvaluationResult.columns (r : EvaluationResult) : Chat.EvaluationResult :=
  ⟨r.strengths, r.gaps, r.evidence, r.seniorAnalystPushback, r.finalVerdict, r.suggestedNextSkillFocus,
    r.difficultyRecommendation.value, r.rawResponse⟩

/-- What comes of an evaluation that was asked for. -/
def answerOf : Except ServiceError (Exchange EvaluationResult) → Option Chat.EvaluationResult
  | .error _ => none
  | .ok exchange =>
    match exchange.result with
    | .error _ => none
    | .ok result => some result.columns

/-- The evaluation that a completion inserts is the one that this service got. -/
theorem stored_of_completed {env : Environment} {store : ChatStore} {threadId : Uuid} {row : ThreadRow}
    {scenario : Scenario} {evaluation : Evaluation} (found : findThread store threadId = .ok row)
    (hasScenario : lookup Scenario.id row.thread.scenarioId store.scenarios = some scenario)
    (completed : Chat.completeThreadAndGenerateEvaluation
      ⟨some scenario, fun responses => answerOf (askEvaluation env row.persona scenario responses)⟩
      row.thread (listMessages env.listOrder (store.messagesOf threadId)) = .ok evaluation) :
    ∃ exchange result, completeThreadAndGenerateEvaluation env store threadId = .ok exchange ∧
      exchange.result = .ok result ∧ evaluation.result = result.columns := by
  obtain ⟨same, live, completed⟩ := ok_of_bind completed
  have eq : same = row.thread := by
    unfold getThread at live
    split at live
    · cases live
    · exact (Except.ok.inj live).symm
  subst eq
  rw [completeThreadAndGenerateEvaluation, found]
  simp only [bind, Except.bind, hasScenario]
  split at completed
  · cases completed
  · rename_i isOpen
    rw [if_neg isOpen]
    split at completed
    · cases completed
    · rename_i answered
      rw [if_neg answered]
      dsimp only at completed
      split at completed
      · cases completed
      · rename_i notCancelled
        rw [if_neg notCancelled]
        cases asked : askEvaluation env row.persona scenario
            (analystResponsesText (listMessages env.listOrder (store.messagesOf threadId))) with
        | error e =>
          rw [asked] at completed
          cases completed
        | ok exchange =>
          rw [asked, answerOf] at completed
          cases result : exchange.result with
          | error e =>
            rw [result] at completed
            cases completed
          | ok r =>
            rw [result] at completed
            exact ⟨exchange, r, rfl, result, by rw [← Except.ok.inj completed]⟩

/-! ## Two stores -/

/-- The same scenario, with packages that `R` relates. -/
def SameApart (R : GroundTruth → GroundTruth → Prop) (scenario scenario' : Scenario) : Prop :=
  ∃ package, R scenario.groundTruth package ∧ scenario' = { scenario with groundTruth := package }

/-- The same threads and messages, and scenarios that are the same apart from their packages. -/
structure AgreeApart (R : GroundTruth → GroundTruth → Prop) (store store' : ChatStore) : Prop where
  scenarios : List.Forall₂ (SameApart R) store.scenarios store'.scenarios
  threads : store'.threads = store.threads
  messages : store'.messages = store.messages

namespace AgreeApart

variable {R : GroundTruth → GroundTruth → Prop} {store store' : ChatStore}

theorem messagesOf (h : AgreeApart R store store') (threadId : Uuid) :
    store'.messagesOf threadId = store.messagesOf threadId := by
  rw [ChatStore.messagesOf, ChatStore.messagesOf, h.messages]

theorem findThread (h : AgreeApart R store store') (threadId : Uuid) :
    findThread store' threadId = findThread store threadId := by
  rw [Generation.findThread, Generation.findThread, h.threads]

/-- The same scenario is found, or none. -/
theorem scenario (h : AgreeApart R store store') (scenarioId : Uuid) :
    (lookup Scenario.id scenarioId store.scenarios = none ∧
      lookup Scenario.id scenarioId store'.scenarios = none) ∨
    ∃ scenario package, R scenario.groundTruth package ∧
      lookup Scenario.id scenarioId store.scenarios = some scenario ∧
      lookup Scenario.id scenarioId store'.scenarios = some { scenario with groundTruth := package } := by
  have sameId : ∀ s s', SameApart R s s' → s.id = s'.id := by
    rintro s _ ⟨package, -, rfl⟩
    rfl
  rcases lookup_forall₂ sameId scenarioId h.scenarios with missing | ⟨s, _, ⟨package, agree, rfl⟩, found⟩
  · exact .inl missing
  · exact .inr ⟨s, package, agree, found⟩

/-- A service that reads a thread and its scenario, and then does the same with related packages. -/
theorem service {V : Type} (h : AgreeApart R store store') (threadId : Uuid)
    {f : ThreadRow × Scenario → Except ServiceError (Exchange V)}
    (same : ∀ row scenario package, R scenario.groundTruth package →
      f (row, scenario) = f (row, { scenario with groundTruth := package })) :
    (loadThreadAndActiveScenario store threadId >>= f) =
      loadThreadAndActiveScenario store' threadId >>= f := by
  rw [loadThreadAndActiveScenario, loadThreadAndActiveScenario, h.findThread]
  cases Generation.findThread store threadId with
  | error e => rfl
  | ok row =>
    simp only [bind, Except.bind]
    rcases h.scenario row.thread.scenarioId with ⟨none, none'⟩ | ⟨scenario, package, agree, found, found'⟩
    · rw [none, none']
    · rw [found, found']
      by_cases cancelled : scenario.status = .cancelled
      · simp [cancelled]
      · simpa [cancelled, pure, Except.pure] using same row scenario package agree

/-- A service that reads a scenario for a note. -/
theorem note {V : Type} (h : AgreeApart R store store') (scenarioId : Uuid)
    {f : Scenario → Except ServiceError (Exchange V)}
    (same : ∀ scenario package, R scenario.groundTruth package →
      f scenario = f { scenario with groundTruth := package }) :
    (findScenarioForBuilderNote store scenarioId >>= f) =
      findScenarioForBuilderNote store' scenarioId >>= f := by
  rw [findScenarioForBuilderNote, findScenarioForBuilderNote]
  rcases h.scenario scenarioId with ⟨none, none'⟩ | ⟨scenario, package, agree, found, found'⟩
  · rw [none, none']
  · rw [found, found']
    by_cases cancelled : scenario.status = .cancelled
    · simp [scenarioForBuilderNote, cancelled, bind, Except.bind]
    · simpa [scenarioForBuilderNote, cancelled, bind, Except.bind] using same scenario package agree

end AgreeApart

/-! ## What differs is not sent -/

theorem AgreeOn.mono {p q : String → Prop} {g h : GroundTruth} (agree : AgreeOn q g h)
    (sub : ∀ key, p key → q key) : AgreeOn p g h := fun key mem => agree key (sub key mem)

section

variable (env : Environment) {store store' : ChatStore}

theorem suggestThreadPushback_congr (h : AgreeApart (AgreeOn (· ∈ knownInformationKeys)) store store')
    (threadId : Uuid) (attitude : Attitude) :
    suggestThreadPushback env store threadId attitude =
      suggestThreadPushback env store' threadId attitude := by
  rw [suggestThreadPushback, suggestThreadPushback, h.messagesOf]
  apply h.service
  intro row scenario package agree
  have known : buildKnownInformation scenario.groundTruth = buildKnownInformation package :=
    projection_congr agree
  dsimp only
  rw [known]

theorem suggestThreadOpening_congr (h : AgreeApart (AgreeOn (· ∈ knownInformationKeys)) store store')
    (threadId : Uuid) (attitude : Attitude) :
    suggestThreadOpening env store threadId attitude =
      suggestThreadOpening env store' threadId attitude := by
  rw [suggestThreadOpening, suggestThreadOpening, h.messagesOf]
  apply h.service
  intro row scenario package agree
  have known : buildKnownInformation scenario.groundTruth = buildKnownInformation package :=
    projection_congr agree
  dsimp only
  rw [known]

theorem checkThreadSufficiency_congr (h : AgreeApart (AgreeOn (· ∉ builderOnlyKeys)) store store')
    (threadId : Uuid) :
    checkThreadSufficiency env store threadId = checkThreadSufficiency env store' threadId := by
  rw [checkThreadSufficiency, checkThreadSufficiency, h.messagesOf]
  apply h.service
  intro row scenario package agree
  dsimp only
  simp only [buildSufficiencyPrompt, dumps_withoutBuilderOnlyKeys_congr env.numberText agree]

/-- The evaluation is asked for with the facts, the known information and the outcome. -/
theorem askEvaluation_congr (persona : StakeholderPersona) (scenario : Scenario) (responses : String)
    {package : GroundTruth} (agree : AgreeOn (· ∉ builderOnlyKeys) scenario.groundTruth package) :
    askEvaluation env persona scenario responses =
      askEvaluation env persona { scenario with groundTruth := package } responses := by
  have known : buildKnownInformation scenario.groundTruth = buildKnownInformation package :=
    projection_congr (agree.mono (by decide))
  have outcome : buildOutcome scenario.groundTruth = buildOutcome package :=
    projection_congr (agree.mono (by decide))
  rw [askEvaluation, askEvaluation, buildEvaluationPrompt, buildEvaluationPrompt,
    dumps_withoutBuilderOnlyKeys_congr env.numberText agree, known, outcome]

theorem completeThreadAndGenerateEvaluation_congr
    (h : AgreeApart (AgreeOn (· ∉ builderOnlyKeys)) store store') (threadId : Uuid) :
    completeThreadAndGenerateEvaluation env store threadId =
      completeThreadAndGenerateEvaluation env store' threadId := by
  rw [completeThreadAndGenerateEvaluation, completeThreadAndGenerateEvaluation, h.messagesOf,
    h.findThread]
  cases findThread store threadId with
  | error e => rfl
  | ok row =>
    simp only [bind, Except.bind]
    rcases h.scenario row.thread.scenarioId with ⟨none, none'⟩ | ⟨scenario, package, agree, found, found'⟩
    · rw [none, none']
    · rw [found, found']
      dsimp only
      rw [askEvaluation_congr env row.persona scenario _ agree]

theorem regenerateNarrative_congr (h : AgreeApart (AgreeOn (· ∉ builderOnlyKeys)) store store')
    (scenarioId : Uuid) :
    regenerateNarrative env store scenarioId = regenerateNarrative env store' scenarioId := by
  apply h.note
  intro scenario package agree
  simp only [buildNarrativePrompt, renderedFacts, dumps_withoutBuilderOnlyKeys_congr env.numberText agree]

theorem regenerateExpectedQuery_congr (h : AgreeApart (AgreeOn (· ∉ builderOnlyKeys)) store store')
    (scenarioId : Uuid) :
    regenerateExpectedQuery env store scenarioId = regenerateExpectedQuery env store' scenarioId := by
  apply h.note
  intro scenario package agree
  simp only [buildExpectedQueryPrompt, renderedFacts,
    dumps_withoutBuilderOnlyKeys_congr env.numberText agree]

end

/-- The persona's prompts depend on `known_cause` and `evidence` alone; those of the graders and of the
notes do not depend on the narrative and the expected query. -/
theorem withheld_keys_never_sent (env : Environment) (store store' : ChatStore) :
    (AgreeApart (AgreeOn (· ∈ knownInformationKeys)) store store' → ∀ threadId attitude,
      requestsOf (suggestThreadPushback env store threadId attitude) =
        requestsOf (suggestThreadPushback env store' threadId attitude) ∧
      requestsOf (suggestThreadOpening env store threadId attitude) =
        requestsOf (suggestThreadOpening env store' threadId attitude)) ∧
    (AgreeApart (AgreeOn (· ∉ builderOnlyKeys)) store store' →
      (∀ threadId,
        requestsOf (checkThreadSufficiency env store threadId) =
          requestsOf (checkThreadSufficiency env store' threadId) ∧
        requestsOf (completeThreadAndGenerateEvaluation env store threadId) =
          requestsOf (completeThreadAndGenerateEvaluation env store' threadId)) ∧
      ∀ scenarioId,
        requestsOf (regenerateNarrative env store scenarioId) =
          requestsOf (regenerateNarrative env store' scenarioId) ∧
        requestsOf (regenerateExpectedQuery env store scenarioId) =
          requestsOf (regenerateExpectedQuery env store' scenarioId)) := by
  constructor
  · intro agree threadId attitude
    rw [suggestThreadPushback_congr env agree, suggestThreadOpening_congr env agree]
    exact ⟨rfl, rfl⟩
  · intro agree
    constructor
    · intro threadId
      rw [checkThreadSufficiency_congr env agree, completeThreadAndGenerateEvaluation_congr env agree]
      exact ⟨rfl, rfl⟩
    · intro scenarioId
      rw [regenerateNarrative_congr env agree, regenerateExpectedQuery_congr env agree]
      exact ⟨rfl, rfl⟩

/-- A live scenario with one question and one answer, whose package has this conclusion and narrative. -/
def lateTruck (conclusion narrative : String) : ChatStore where
  scenarios := [⟨2, .dataQualityIssue, .communication, .standard, .manual, none,
    Dict.ofList [("known_cause", .string "late truck"), ("acceptable_conclusions", .string conclusion),
      ("narrative", .string narrative)], .active, none, none⟩]
  threads := [⟨⟨1, 2, .open, none, false, false, none⟩, .cfo, 0⟩]
  messages := [⟨10, 1, 6, .admin, "what happened?", none, 100⟩, ⟨11, 1, 7, .analyst, "the carrier", none, 200⟩]
  attachments := []
  drafts := []
  readStates := []
  evaluations := []

/-- A client that always answers the same. -/
def sayingFine : Environment where
  client _ := .ok "fine"
  sql := ⟨⟨fun _ => [], fun _ => none, fun _ => false⟩, id, fun _ => false, fun _ => false, fun _ => false⟩
  loads _ := .error "Expecting value"
  numberText n := toString n.num
  schemaSummary := "orders(id)"
  latestOrder := RowOrder.inserted
  listOrder := RowOrder.inserted

/-- Two answer keys and two narratives. -/
theorem withheld_keys_never_sent_lateTruck :
    (requestsOf (suggestThreadPushback sayingFine (lateTruck "blame the dock" "n") 1 .neutral)).length = 1 ∧
    requestsOf (suggestThreadPushback sayingFine (lateTruck "blame the dock" "n") 1 .neutral) =
      requestsOf (suggestThreadPushback sayingFine (lateTruck "blame the carrier" "n") 1 .neutral) ∧
    (requestsOf (checkThreadSufficiency sayingFine (lateTruck "c" "it was the dock") 1)).length = 2 ∧
    requestsOf (checkThreadSufficiency sayingFine (lateTruck "c" "it was the dock") 1) =
      requestsOf (checkThreadSufficiency sayingFine (lateTruck "c" "it was the carrier") 1) := by
  have known : AgreeApart (AgreeOn (· ∈ knownInformationKeys)) (lateTruck "blame the dock" "n")
      (lateTruck "blame the carrier" "n") := by
    refine ⟨.cons ⟨_, ?_, rfl⟩ .nil, rfl, rfl⟩
    intro key mem
    simp only [knownInformationKeys, List.mem_cons, List.not_mem_nil, or_false] at mem
    rcases mem with rfl | rfl <;> rfl
  have graded : AgreeApart (AgreeOn (· ∉ builderOnlyKeys)) (lateTruck "c" "it was the dock")
      (lateTruck "c" "it was the carrier") := by
    refine ⟨.cons ⟨_, ?_, rfl⟩ .nil, rfl, rfl⟩
    intro key notNote
    have other : (key == "narrative") = false := beq_false_of_ne fun same => notNote (by rw [same]; decide)
    simp [Dict.get?_ofList, List.lookup_cons, other]
  refine ⟨by decide +kernel, ?_, by decide +kernel, ?_⟩
  · exact ((withheld_keys_never_sent sayingFine _ _).1 known 1 .neutral).1
  · exact (((withheld_keys_never_sent sayingFine _ _).2 graded).1 1).1

end MeadowOps.Generation
