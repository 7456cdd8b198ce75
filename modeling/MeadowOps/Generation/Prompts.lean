import MeadowOps.Chat.Service
import MeadowOps.Generation.Endings
import MeadowOps.Lib.JsonText

/-!
# The prompts: `app/domain/prompt_templates.py` and the functions that fill them

A template is a list of texts and placeholders. What a prompt knows of a scenario is what its builder
takes from the ground truth.
-/

namespace MeadowOps.Generation

open Db Lib Scenarios Chat

/-! ## Templates -/

inductive Piece where
  | text (s : String)
  | field (name : String)
  deriving DecidableEq, Repr

structure PromptTemplate where
  name : String
  version : String
  requiredContext : List String
  template : List Piece

inductive PromptRenderError where
  | missing (name version : String) (context : List String)
  /-- The template has a placeholder that is not in the context. -/
  | mismatch (name version : String)
  deriving DecidableEq, Repr

def Piece.fill (context : List (String × String)) : Piece → Option String
  | .text s => some s
  | .field name => context.lookup name

def PromptTemplate.render (t : PromptTemplate) (context : List (String × String)) :
    Except PromptRenderError String :=
  let missing := t.requiredContext.filter fun key => (context.lookup key).isNone
  if missing ≠ [] then .error (.missing t.name t.version missing)
  else
    match t.template.mapM (Piece.fill context) with
    | none => .error (.mismatch t.name t.version)
    | some parts => .ok (String.join parts)

def stakeholderRoleplayTemplate : PromptTemplate where
  name := "stakeholder_roleplay"
  version := "v1"
  requiredContext :=
    ["analyst_message", "conversation_history", "known_information", "persona_name",
     "persona_priorities", "persona_style"]
  template :=
    [.text "You are roleplaying ", .field "persona_name",
     .text ", a stakeholder in a supply-chain scenario. Your priorities: ",
     .field "persona_priorities", .text ". Your communication style: ", .field "persona_style",
     .text ".\n\nYou know only the following - do not reveal or reference anything outside ",
     .text "it; this information asymmetry is intentional:\n", .field "known_information",
     .text "\n\nConversation so far:\n", .field "conversation_history",
     .text "\n\nThe Analyst just said:\n", .field "analyst_message",
     .text "\n\nReply in character, as ", .field "persona_name", .text " would, using only what ",
     .field "persona_name", .text " knows."]

def stakeholderOpeningTemplate : PromptTemplate where
  name := "stakeholder_opening"
  version := "v1"
  requiredContext := ["known_information", "persona_name", "persona_priorities", "persona_style"]
  template :=
    [.text "You are roleplaying ", .field "persona_name",
     .text ", a stakeholder in a supply-chain scenario. Your priorities: ",
     .field "persona_priorities", .text ". Your communication style: ", .field "persona_style",
     .text ".\n\nYou know only the following - do not reveal or reference anything outside ",
     .text "it; this information asymmetry is intentional:\n", .field "known_information",
     .text "\n\nYou are opening a new conversation with an Analyst who hasn't heard from you ",
     .text "yet on this - there is no prior conversation to continue. Write the opening ",
     .text "message you would send them, in character, as ", .field "persona_name",
     .text " would, using only what ", .field "persona_name", .text " knows."]

def sufficiencyCheckTemplate : PromptTemplate where
  name := "sufficiency_check"
  version := "v1"
  requiredContext := ["analyst_message", "ground_truth_package"]
  template :=
    [.text "You are grading whether an Analyst trainee's latest message to a stakeholder is ",
     .text "sufficient, against this scenario's ground truth (the Analyst never sees this):\n",
     .field "ground_truth_package", .text "\n\nThe Analyst's latest message:\n",
     .field "analyst_message",
     .text "\n\nThis is a recommendation only, distinct from a final evaluation - you never ",
     .text "grade the Analyst's overall performance here, only whether this one message ",
     .text "engages the evidence enough to move the conversation forward, or needs pushback ",
     .text "first.\n\nNever state a specific ground-truth fact (a supporting signal, ",
     .text "distractor, expected consideration, or conclusion) directly in suggested_pushback ",
     .text "- a Builder may paste it straight into the thread the Analyst is meant to ",
     .text "investigate independently. Phrase it only as a Socratic nudge that prompts ",
     .text "further investigation.\n\nRespond with ONLY a single JSON object (no prose, no ",
     .text "markdown fences) with exactly these keys: \"verdict\" (either \"sufficient\" or ",
     .text "\"insufficient\") and \"suggested_pushback\" (a string with a suggested pushback ",
     .text "message when verdict is \"insufficient\", or null when verdict is \"sufficient\")."]

def evaluationTemplate : PromptTemplate where
  name := "draft_evaluation"
  version := "v1"
  requiredContext :=
    ["analyst_responses", "evidence_package", "expected_cluster_behaviors",
     "ground_truth_package", "outcome", "stakeholder_context"]
  template :=
    [.text "DRAFT - NOT AUTHORITATIVE. This evaluation is a draft input to human review, ",
     .text "never the final word.\n\nGround truth:\n", .field "ground_truth_package",
     .text "\n\nEvidence package:\n", .field "evidence_package", .text "\n\nStakeholder context:\n",
     .field "stakeholder_context", .text "\n\nExpected cluster behaviors:\n",
     .field "expected_cluster_behaviors", .text "\n\nAnalyst's responses:\n",
     .field "analyst_responses", .text "\n\nOutcome:\n", .field "outcome",
     .text "\n\nProduce a structured evaluation with exactly these sections: Strengths, Gaps, ",
     .text "Evidence, Senior Analyst Pushback, Final Verdict, Suggested Next Skill Focus, and ",
     .text "a Difficulty Recommendation per competency cluster. No single number is the sole ",
     .text "representation of performance. Use only the evidence package above - you do not ",
     .text "have access to the full database."]

def narrativeTextTemplate : PromptTemplate where
  name := "scenario_narrative_text"
  version := "v1"
  requiredContext :=
    ["competency_cluster", "difficulty_tier", "ground_truth_package", "scenario_type"]
  template :=
    [.text "You are writing the Builder-only narrative for a supply-chain work scenario (type ",
     .field "scenario_type", .text ", difficulty tier ", .field "difficulty_tier", .text ", ",
     .field "competency_cluster",
     .text " competency cluster). The narrative tells the Builder, in plain language, what is ",
     .text "going on in this scenario so they can follow the Analyst's work and help if she ",
     .text "is stuck. It is never shown to the Analyst.\n\nScenario facts (do not exceed or ",
     .text "contradict these; reference only identifiers that appear here):\n",
     .field "ground_truth_package",
     .text "\n\nWrite two to four short paragraphs. State what happened, why it matters to ",
     .text "the business, and what a good analysis would uncover. Do not invent numbers or ",
     .text "identifiers. Respond with the narrative text only - no heading, no markdown ",
     .text "fences."]

def expectedQueryTemplate : PromptTemplate where
  name := "scenario_expected_query"
  version := "v1"
  requiredContext :=
    ["competency_cluster", "difficulty_tier", "ground_truth_package", "scenario_type",
     "schema_summary"]
  template :=
    [.text "You are writing the Builder-only expected query for a supply-chain work scenario ",
     .text "(type ", .field "scenario_type", .text ", difficulty tier ", .field "difficulty_tier",
     .text ", ", .field "competency_cluster",
     .text " competency cluster): a SQL query that would let an Analyst find the answer, so ",
     .text "the Builder can check her work.\n\nScenario facts:\n", .field "ground_truth_package",
     .text "\n\nTables the Analyst can query (PostgreSQL, schema sandbox):\n",
     .field "schema_summary",
     .text "\n\nWrite exactly ONE read-only SELECT statement using only the tables and ",
     .text "columns listed above, each table referenced as sandbox.<table_name>. No INSERT, ",
     .text "UPDATE, DELETE or DDL, and no second statement. Respond with the SQL only - no ",
     .text "explanation, no markdown fences."]

/-! ## What a prompt may know -/

/-- `_KNOWN_INFORMATION_KEYS`. -/
def knownInformationKeys : List String := ["known_cause", "evidence"]

/-- `_BUILDER_ONLY_KEYS`. -/
def builderOnlyKeys : List String := ["narrative", "expected_query"]

/-- `_OUTCOME_KEYS`. -/
def outcomeKeys : List String := ["acceptable_conclusions", "unacceptable_conclusions", "uncertainty"]

/-- `{key: ground_truth[key] for key in keys if key in ground_truth}`. -/
def projection (keys : List String) (groundTruth : GroundTruth) : GroundTruth :=
  Dict.ofList (keys.filterMap fun key => (groundTruth.get? key).map (key, ·))

def buildKnownInformation : GroundTruth → GroundTruth := projection knownInformationKeys

def buildOutcome : GroundTruth → GroundTruth := projection outcomeKeys

def withoutBuilderOnlyKeys (groundTruth : GroundTruth) : GroundTruth :=
  groundTruth.filterKeys fun key => decide (key ∉ builderOnlyKeys)

/-- The two packages have the same values under these keys. -/
def AgreeOn (keys : String → Prop) (g h : GroundTruth) : Prop := ∀ key, keys key → g.get? key = h.get? key

theorem projection_congr {keys : List String} {g h : GroundTruth} (agree : AgreeOn (· ∈ keys) g h) :
    projection keys g = projection keys h := by
  have pairs : keys.filterMap (fun key => (g.get? key).map (key, ·)) =
      keys.filterMap fun key => (h.get? key).map (key, ·) := by
    apply List.filterMap_congr
    intro key mem
    rw [agree key mem]
  rw [projection, projection, pairs]

/-- Their texts for the grader are the same. -/
theorem dumps_withoutBuilderOnlyKeys_congr (numberText : ℚ → String) {g h : GroundTruth}
    (agree : AgreeOn (· ∉ builderOnlyKeys) g h) :
    Json.dumpsDict numberText (withoutBuilderOnlyKeys g) =
      Json.dumpsDict numberText (withoutBuilderOnlyKeys h) := by
  apply Json.dumpsDict_congr
  intro key
  rw [withoutBuilderOnlyKeys, withoutBuilderOnlyKeys, Dict.get?_filterKeys, Dict.get?_filterKeys]
  by_cases builderOnly : key ∈ builderOnlyKeys
  · simp [builderOnly]
  · simp only [builderOnly, not_false_eq_true, decide_true, if_true]
    exact agree key builderOnly

/-! ## Personas -/

inductive Attitude where
  | neutral
  | frustrated
  | urgent
  | skeptical
  | appreciative
  deriving DecidableEq, Repr

/-- `_ATTITUDE_DESCRIPTIONS`. -/
def attitudeDescription : Attitude → String
  | .neutral => "matter-of-fact, no strong emotion"
  | .frustrated => "visibly frustrated and impatient"
  | .urgent => "conveying real time pressure, wants a fast answer"
  | .skeptical => "doubtful, questioning the Analyst's claims"
  | .appreciative => "positive, appreciative of the Analyst's work so far"

/-- `_OPENING_ATTITUDE_DESCRIPTIONS`. -/
def openingAttitudeDescription : Attitude → String
  | .skeptical => "already doubtful this situation will get a good resolution"
  | .appreciative => "positive, opening on a constructive, collaborative note"
  | attitude => attitudeDescription attitude

structure PersonaProfile where
  name : String
  priorities : String
  style : String

/-- `PERSONA_PROFILES`. -/
def personaProfile : StakeholderPersona → PersonaProfile
  | .operationsManager => ⟨"Operations Manager", "Service level, throughput, warehouse execution",
      "Operational, concrete, impatient with abstraction"⟩
  | .procurementManager => ⟨"Procurement Manager",
      "Price, supplier reliability, lead time, contract risk", "Cost-focused, comparative"⟩
  | .warehouseManager => ⟨"Warehouse Manager", "Inventory accuracy, workload, practical execution",
      "Operational, may resist workload-increasing changes"⟩
  | .itManager => ⟨"IT Manager", "Data integrity, system behavior, feasibility, risk",
      "Technical, scope-conscious"⟩
  | .operationsDirector => ⟨"Operations Director / VP",
      "Business outcomes, service level, risk, decisions", "Concise, outcome-focused"⟩
  | .cfo => ⟨"CFO", "Financial impact, cost, risk, measurable outcomes",
      "Concise, financially oriented"⟩

/-- `EXPECTED_CLUSTER_BEHAVIORS`. -/
def expectedClusterBehaviors : CompetencyCluster → String
  | .analysisDiagnosis => "KPI interpretation, data investigation/SQL literacy, root-cause " ++
      "analysis, data-quality awareness"
  | .judgmentDelivery => "Requirements elicitation, decision-making, process improvement, " ++
      "technical delivery/UAT"
  | .communication => "Stakeholder and executive/business communication"

/-! ## The prompts -/

section

variable (numberText : ℚ → String)

def buildPushbackPrompt (persona : StakeholderPersona) (attitude : Attitude)
    (knownInformation : GroundTruth) (conversationHistory analystMessage : String) :
    Except PromptRenderError String := do
  let profile := personaProfile persona
  let rendered ← stakeholderRoleplayTemplate.render
    [("persona_name", profile.name), ("persona_priorities", profile.priorities),
     ("persona_style", profile.style),
     ("known_information", Json.dumpsDict numberText knownInformation),
     ("conversation_history", conversationHistory), ("analyst_message", analystMessage)]
  return rendered ++ "\n\nAdopt this attitude while replying: " ++ attitudeDescription attitude

def buildOpeningPrompt (persona : StakeholderPersona) (attitude : Attitude)
    (knownInformation : GroundTruth) : Except PromptRenderError String := do
  let profile := personaProfile persona
  let rendered ← stakeholderOpeningTemplate.render
    [("persona_name", profile.name), ("persona_priorities", profile.priorities),
     ("persona_style", profile.style),
     ("known_information", Json.dumpsDict numberText knownInformation)]
  return rendered ++ "\n\nAdopt this attitude while writing: " ++ openingAttitudeDescription attitude

/-- The prompt of `run_sufficiency_check`. -/
def buildSufficiencyPrompt (groundTruth : GroundTruth) (analystMessage : String) :
    Except PromptRenderError String :=
  sufficiencyCheckTemplate.render
    [("ground_truth_package", Json.dumpsDict numberText groundTruth), ("analyst_message", analystMessage)]

/-- `_RESPONSE_FORMAT_INSTRUCTIONS`. -/
def responseFormatInstructions : String :=
  "\n\nRespond with ONLY a single JSON object (no prose, no markdown fences) with exactly these " ++
  "keys, every value a non-empty string: \"strengths\", \"gaps\", \"evidence\", " ++
  "\"senior_analyst_pushback\", \"final_verdict\", \"suggested_next_skill_focus\", and " ++
  "\"difficulty_recommendation\" (one of \"foundational\", \"standard\", \"stretch\", or \"hold\" - " ++
  "\"hold\" when the evidence in this one thread is not enough on its own to recommend a tier). " ++
  "Never state a specific ground-truth fact (a supporting signal, distractor, expected " ++
  "consideration, or conclusion) directly in senior_analyst_pushback - a Builder may paste it " ++
  "straight into the thread the Analyst is meant to investigate independently. Phrase it only as " ++
  "a Socratic nudge."

def buildEvaluationPrompt (groundTruthPackage evidencePackage : GroundTruth)
    (stakeholderContext expectedBehaviors analystResponses : String) (outcome : GroundTruth) :
    Except PromptRenderError String := do
  let rendered ← evaluationTemplate.render
    [("ground_truth_package", Json.dumpsDict numberText groundTruthPackage),
     ("evidence_package", Json.dumpsDict numberText evidencePackage),
     ("stakeholder_context", stakeholderContext),
     ("expected_cluster_behaviors", expectedBehaviors), ("analyst_responses", analystResponses),
     ("outcome", Json.dumpsDict numberText outcome)]
  return rendered ++ responseFormatInstructions

/-- `_rendered_facts`. -/
def renderedFacts (groundTruth : GroundTruth) : String :=
  Json.dumpsDict numberText (withoutBuilderOnlyKeys groundTruth)

def buildNarrativePrompt (scenarioType difficultyTier competencyCluster : String)
    (groundTruth : GroundTruth) : Except PromptRenderError String :=
  narrativeTextTemplate.render
    [("scenario_type", scenarioType), ("difficulty_tier", difficultyTier),
     ("competency_cluster", competencyCluster),
     ("ground_truth_package", renderedFacts numberText groundTruth)]

def buildExpectedQueryPrompt (scenarioType difficultyTier competencyCluster : String)
    (groundTruth : GroundTruth) (schemaSummary : String) : Except PromptRenderError String :=
  expectedQueryTemplate.render
    [("scenario_type", scenarioType), ("difficulty_tier", difficultyTier),
     ("competency_cluster", competencyCluster),
     ("ground_truth_package", renderedFacts numberText groundTruth), ("schema_summary", schemaSummary)]

end

/-! ## Every template gets what it asks for -/

/-- The placeholders of a piece. -/
def Piece.names : Piece → List String
  | .text _ => []
  | .field name => [name]

/-- Each placeholder is in the context that is required. -/
def PromptTemplate.IsCovered (t : PromptTemplate) : Prop :=
  ∀ name ∈ t.template.flatMap Piece.names, name ∈ t.requiredContext

instance (t : PromptTemplate) : Decidable t.IsCovered :=
  inferInstanceAs (Decidable (∀ name ∈ _, _ ∈ _))

def templates : List PromptTemplate :=
  [stakeholderRoleplayTemplate, stakeholderOpeningTemplate, sufficiencyCheckTemplate,
    evaluationTemplate, narrativeTextTemplate, expectedQueryTemplate]

theorem templates_covered : ∀ t ∈ templates, t.IsCovered := by decide

theorem mapM_fill {context : List (String × String)} {pieces : List Piece}
    (h : ∀ piece ∈ pieces, ∃ s, piece.fill context = some s) :
    ∃ parts, pieces.mapM (Piece.fill context) = some parts := by
  induction pieces with
  | nil => exact ⟨[], rfl⟩
  | cons piece pieces ih =>
    obtain ⟨s, first⟩ := h piece List.mem_cons_self
    obtain ⟨parts, rest⟩ := ih fun p mem => h p (List.mem_cons_of_mem _ mem)
    exact ⟨s :: parts, by simp [List.mapM_cons, first, rest]⟩

/-- A template whose placeholders are required is rendered from every context that has what is required. -/
theorem PromptTemplate.IsCovered.render {t : PromptTemplate} (h : t.IsCovered)
    {context : List (String × String)}
    (has : ∀ key ∈ t.requiredContext, (context.lookup key).isSome = true) :
    ∃ text, t.render context = .ok text := by
  have none : t.requiredContext.filter (fun key => (context.lookup key).isNone) = [] := by
    rw [List.filter_eq_nil_iff]
    intro key mem absent
    have there := has key mem
    rw [Option.isNone_iff_eq_none.1 absent] at there
    cases there
  obtain ⟨parts, filled⟩ : ∃ parts, t.template.mapM (Piece.fill context) = some parts := by
    apply mapM_fill
    intro piece mem
    cases piece with
    | text s => exact ⟨s, rfl⟩
    | field name =>
      have named : name ∈ t.template.flatMap Piece.names :=
        List.mem_flatMap.2 ⟨_, mem, List.mem_singleton_self name⟩
      exact Option.isSome_iff_exists.1 (has name (h name named))
  refine ⟨String.join parts, ?_⟩
  rw [PromptTemplate.render, none, filled]
  rfl

end MeadowOps.Generation
