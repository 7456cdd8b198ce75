import MeadowOps.Generation.Checks

/-!
# How a generation ends

Every generation calls the client at most `_MAX_ATTEMPTS` times and checks what it answers. The client is
any sequence of outcomes of `create_message`.
-/

namespace MeadowOps.Generation

open Db Lib Scenarios Query

/-- The errors of the generations, with the last error of an attempt. -/
inductive GenerationError where
  | scenarioGenerationFailed (last : AttemptError)
  | personaMessageGenerationFailed (last : AttemptError) (kind : String)
  | sufficiencyCheckFailed (last : AttemptError)
  | evaluationGenerationFailed (last : AttemptError)
  | other (error : PythonError)
  deriving DecidableEq, Repr

/-- The number of calls of the client, and what the generation returns or raises. -/
structure Generated (V : Type) where
  calls : ℕ
  result : Except GenerationError V

/-- What `create_message` does at each call. -/
abbrev ClaudeClient := ℕ → Except AttemptError String

/-- `_MAX_ATTEMPTS`. -/
def maxAttempts : ℕ := 2

/-- What is raised after the loop. -/
def finish {V : Type} (failure : AttemptError → GenerationError) :
    Ended V AttemptError PythonError → Except GenerationError V
  | .returned v => .ok v
  | .failed (some last) => .error (failure last)
  | .failed none => .error (.other .assertion)
  | .raised error => .error (.other error)

/-- The loop of a generation. -/
def generate {V : Type} (failure : AttemptError → GenerationError) (check : String → Parse V)
    (client : ClaudeClient) : Generated V :=
  let session := retry check client maxAttempts 0 none
  ⟨session.calls, finish failure session.ended⟩

section

variable (sql : SqlParse) (loads : String → Except String Json) (client : ClaudeClient)

def generateScenarioNarrative : Generated ScenarioNarrative :=
  generate .scenarioGenerationFailed (parseNarrativeResponse sql loads) client

/-- `_generate_text_with_retry`. -/
def generateTextWithRetry (parse : String → Parse String) : Generated String :=
  generate .scenarioGenerationFailed parse client

def generateNarrativeText : Generated String := generateTextWithRetry client parseNarrativeText

def generateExpectedQuery : Generated String := generateTextWithRetry client (parseExpectedQuery sql)

/-- `_generate_persona_message`. -/
def generatePersonaMessage (kind : String) : Generated String :=
  generate (fun last => .personaMessageGenerationFailed last kind) checkPersonaMessage client

def suggestPushbackMessage : Generated String := generatePersonaMessage client "pushback suggestion"

def suggestOpeningMessage : Generated String :=
  generatePersonaMessage client "opening message generation"

def runSufficiencyCheck : Generated SufficiencyVerdict :=
  generate .sufficiencyCheckFailed (parseSufficiencyResponse loads) client

def generateEvaluation : Generated EvaluationResult :=
  generate .evaluationGenerationFailed (parseEvaluationResponse loads) client

end

/-! ## All of them -/

inductive Pipeline where
  | scenarioNarrative
  | narrativeText
  | expectedQuery
  | personaMessage (kind : String)
  | sufficiencyCheck
  | evaluation
  deriving DecidableEq, Repr

namespace Pipeline

abbrev Value : Pipeline → Type
  | scenarioNarrative => ScenarioNarrative
  | narrativeText => String
  | expectedQuery => String
  | personaMessage _ => String
  | sufficiencyCheck => SufficiencyVerdict
  | evaluation => EvaluationResult

/-- What a value that is returned must satisfy. -/
def Schema : (p : Pipeline) → p.Value → Prop
  | scenarioNarrative => NarrativeSchema
  | narrativeText => fun text => isBlank text = false
  | expectedQuery => fun text => isBlank text = false
  | personaMessage _ => fun text => isBlank text = false
  | sufficiencyCheck => SufficiencySchema
  | evaluation => EvaluationSchema

/-- The error of the pipeline. -/
def failure : Pipeline → AttemptError → GenerationError
  | scenarioNarrative | narrativeText | expectedQuery => .scenarioGenerationFailed
  | personaMessage kind => fun last => .personaMessageGenerationFailed last kind
  | sufficiencyCheck => .sufficiencyCheckFailed
  | evaluation => .evaluationGenerationFailed

variable (sql : SqlParse) (loads : String → Except String Json)

def check : (p : Pipeline) → String → Parse p.Value
  | scenarioNarrative => parseNarrativeResponse sql loads
  | narrativeText => parseNarrativeText
  | expectedQuery => parseExpectedQuery sql
  | personaMessage _ => checkPersonaMessage
  | sufficiencyCheck => parseSufficiencyResponse loads
  | evaluation => parseEvaluationResponse loads

def run (client : ClaudeClient) : (p : Pipeline) → Generated p.Value
  | scenarioNarrative => generateScenarioNarrative sql loads client
  | narrativeText => generateNarrativeText client
  | expectedQuery => generateExpectedQuery sql client
  | personaMessage kind => generatePersonaMessage client kind
  | sufficiencyCheck => runSufficiencyCheck loads client
  | evaluation => generateEvaluation loads client

/-- The answers that no attempt handles: an evaluation whose recommendation cannot be hashed, and a
query on which `sqlparse` raises. -/
def Trap : Pipeline → String → Prop
  | scenarioNarrative => NarrativeTrap sql loads
  | expectedQuery => fun content => Raises (sql.normalizeExpectedQuery (stripCodeFence content.toList))
  | evaluation => EvaluationTrap loads
  | narrativeText | personaMessage _ | sufficiencyCheck => fun _ => False

/-- The generation ends cleanly. -/
structure EndsCleanly (client : ClaudeClient) (p : Pipeline) : Prop where
  atMostTwice : (p.run sql loads client).calls ≤ 2
  /-- The second call comes after a failed one or a rejected answer. -/
  second : 2 ≤ (p.run sql loads client).calls → Unusable (p.check sql loads) (client 0)
  result : (∃ v, (p.run sql loads client).result = .ok v ∧ p.Schema v) ∨
    ∃ last, (p.run sql loads client).result = .error (p.failure last)

variable {sql loads} {client : ClaudeClient}

theorem run_eq (p : Pipeline) :
    p.run sql loads client = generate p.failure (p.check sql loads) client := by
  cases p <;> rfl

theorem schema_of_check (p : Pipeline) {content : String} {v : p.Value}
    (h : p.check sql loads content = .ok v) : p.Schema v := by
  cases p with
  | scenarioNarrative => exact narrativeSchema_of_parse h
  | narrativeText => exact parseNarrativeText_ok h
  | expectedQuery => exact parseExpectedQuery_ok h
  | personaMessage kind => exact checkPersonaMessage_ok h
  | sufficiencyCheck => exact sufficiencySchema_of_parse h
  | evaluation => exact evaluationSchema_of_parse h

theorem raises_check_iff (p : Pipeline) {content : String} :
    Raises (p.check sql loads content) ↔ p.Trap sql loads content := by
  cases p with
  | scenarioNarrative => exact raises_parseNarrativeResponse_iff
  | narrativeText => exact iff_of_false not_raises_parseNarrativeText id
  | expectedQuery => exact raises_parseExpectedQuery_iff
  | personaMessage kind => exact iff_of_false not_raises_checkPersonaMessage id
  | sufficiencyCheck => exact iff_of_false not_raises_parseSufficiencyResponse id
  | evaluation => exact raises_parseEvaluationResponse_iff

theorem failure_ne_other (p : Pipeline) (last : AttemptError) (error : PythonError) :
    p.failure last ≠ .other error := by
  cases p <;> exact GenerationError.noConfusion

/-- A generation ends cleanly exactly when no check raises. -/
theorem endsCleanly_iff (p : Pipeline) : p.EndsCleanly sql loads client ↔
    ¬ ∃ error, (retry (p.check sql loads) client maxAttempts 0 none).ended = .raised error := by
  constructor
  · rintro clean ⟨error, ended⟩
    have result : (p.run sql loads client).result = .error (.other error) := by
      rw [run_eq, generate, ended]
      rfl
    rcases clean.result with ⟨v, ok, -⟩ | ⟨last, failed⟩
    · rw [result] at ok
      cases ok
    · rw [result] at failed
      exact p.failure_ne_other last error (Except.error.inj failed).symm
  · intro clean
    constructor
    case atMostTwice =>
      rw [run_eq]
      exact retry_calls_le maxAttempts 0 none
    case second =>
      intro again
      rw [run_eq] at again
      exact retry_unusable (Nat.zero_le 0) again
    case result =>
      rw [run_eq]
      cases ended : (retry (p.check sql loads) client maxAttempts 0 none).ended with
      | returned v =>
        obtain ⟨content, valid⟩ := retry_returned ended
        refine .inl ⟨v, ?_, p.schema_of_check valid⟩
        rw [generate, ended]
        rfl
      | failed last =>
        cases last with
        | none => exact absurd (retry_failed (.inr (Nat.zero_lt_two)) ended) (by simp)
        | some last =>
          refine .inr ⟨last, ?_⟩
          rw [generate, ended]
          rfl
      | raised error => exact absurd ⟨error, ended⟩ clean

end Pipeline

/-- A generation ends cleanly if and only if no answer that it reads is a trap. -/
theorem generation_ends_cleanly_iff (sql : SqlParse) (loads : String → Except String Json)
    (client : ClaudeClient) (p : Pipeline) : p.EndsCleanly sql loads client ↔
      ∀ k < 2, (∀ j < k, Unusable (p.check sql loads) (client j)) →
        ∀ content, client k = .ok content → ¬ p.Trap sql loads content := by
  rw [Pipeline.endsCleanly_iff, retry_raised_iff]
  constructor
  · intro clean k below before content answered trap
    obtain ⟨error, raised⟩ := p.raises_check_iff.2 trap
    refine clean ⟨k, Nat.zero_le k, ?_, fun j _ => before j, content, error, answered, raised⟩
    rw [Nat.zero_add]
    exact below
  · rintro clean ⟨k, -, below, before, content, error, answered, raised⟩
    rw [Nat.zero_add] at below
    exact clean k below (fun j => before j (Nat.zero_le j)) content answered
      (p.raises_check_iff.1 ⟨error, raised⟩)

/-! ## A list where a word is asked for -/

/-- An evaluation that recommends two tiers at once. -/
def twoTiers : String :=
  "\x7b\"strengths\": \"a\", \"gaps\": \"b\", \"evidence\": \"c\", \"senior_analyst_pushback\": \"d\", " ++
  "\"final_verdict\": \"e\", \"suggested_next_skill_focus\": \"f\", " ++
  "\"difficulty_recommendation\": [\"standard\", \"stretch\"]\x7d"

/-- What `json.loads` makes of it. -/
def twoTiersLoaded : List (String × Json) :=
  [("strengths", .string "a"), ("gaps", .string "b"), ("evidence", .string "c"),
    ("senior_analyst_pushback", .string "d"), ("final_verdict", .string "e"),
    ("suggested_next_skill_focus", .string "f"),
    ("difficulty_recommendation", .array [.string "standard", .string "stretch"])]

/-- `json.loads`, as far as this text is concerned. -/
def loadsTwoTiers (content : String) : Except String Json :=
  if content = twoTiers then .ok (.object twoTiersLoaded) else .error "Expecting value"

/-- A list is no key of a table of tiers, and the error is not caught. -/
theorem generation_escapes :
    ¬ ∀ (sql : SqlParse) (loads : String → Except String Json) (client : ClaudeClient) (p : Pipeline),
      p.EndsCleanly sql loads client := by
  intro clean
  let sql : SqlParse := ⟨⟨fun _ => [], fun _ => none, fun _ => false⟩, id, fun _ => false,
    fun _ => false, fun _ => false⟩
  have ends := Pipeline.endsCleanly_iff .evaluation |>.1
    (clean sql loadsTwoTiers (fun _ => .ok twoTiers) .evaluation)
  apply ends
  rw [retry_raised_iff]
  refine ⟨0, Nat.le_refl 0, by decide, fun j _ below => absurd below (Nat.not_lt_zero j), twoTiers,
    .typeError "unhashable type: 'list'", rfl, ?_⟩
  have loaded : loadObject loadsTwoTiers twoTiers = .ok twoTiersLoaded := by
    rw [loadObject_ok_iff, loadsTwoTiers, if_pos rfl]
  show parseEvaluationResponse loadsTwoTiers twoTiers = _
  rw [parseEvaluationResponse, loaded]
  decide +kernel

end MeadowOps.Generation
