import MeadowOps.Scenarios.Service
import MeadowOps.Query.Classifier
import MeadowOps.Lib.Retry

/-!
# What the client may answer: `app/domain/evaluation.py`, `persona_chat.py`, `scenario_generation.py`

The parsers of the answers. `loads` is `json.loads`: a value, or the text of the error it is caught with.
`sqlparse` may raise on a text.
-/

namespace MeadowOps.Generation

open Db Lib Scenarios Query

/-- The errors that lead to the second attempt. -/
inductive AttemptError where
  | claudeApi (message : String)
  | schema (message : String)
  deriving DecidableEq, Repr

/-- An exception that no attempt handles. -/
inductive PythonError where
  | typeError (message : String)
  | sqlParse
  | assertion
  deriving DecidableEq, Repr

abbrev Parse := Check AttemptError PythonError

def reject {α : Type} (message : String) : Parse α := throw (.rejected (.schema message))

def raise {α : Type} (error : PythonError) : Parse α := throw (.raised error)

/-- The object in an answer. -/
def loadObject (loads : String → Except String Json) (content : String) : Parse (List (String × Json)) :=
  match loads content with
  | .error message => reject ("response is not valid JSON: " ++ message)
  | .ok (.object payload) => pure payload
  | .ok _ => reject "response JSON must be an object"

def requireText (payload : List (String × Json)) (key : String) : Parse String :=
  match payload.lookup key with
  | some (.string s) =>
    if isBlank s then reject ("\"" ++ key ++ "\" must be a non-empty string") else pure s
  | _ => reject ("\"" ++ key ++ "\" must be a non-empty string")

/-! ## Evaluations -/

inductive DifficultyRecommendation where
  | foundational
  | standard
  | stretch
  | hold
  deriving DecidableEq, Repr

/-- `DifficultyRecommendation(value)`. -/
def DifficultyRecommendation.ofValue : String → Option DifficultyRecommendation
  | "foundational" => some .foundational
  | "standard" => some .standard
  | "stretch" => some .stretch
  | "hold" => some .hold
  | _ => none

structure EvaluationResult where
  strengths : String
  gaps : String
  evidence : String
  seniorAnalystPushback : String
  finalVerdict : String
  suggestedNextSkillFocus : String
  difficultyRecommendation : DifficultyRecommendation
  rawResponse : String
  deriving DecidableEq, Repr

/-- `value in _VALID_DIFFICULTY_RECOMMENDATIONS`, and the member: a set hashes what it is asked for. -/
def difficultyRecommendation : Json → Parse DifficultyRecommendation
  | .array _ => raise (.typeError "unhashable type: 'list'")
  | .object _ => raise (.typeError "unhashable type: 'dict'")
  | .string s =>
    match DifficultyRecommendation.ofValue s with
    | some d => pure d
    | none => reject notOneOf
  | _ => reject notOneOf
where
  notOneOf : String := "\"difficulty_recommendation\" must be one of " ++
    "['foundational', 'hold', 'standard', 'stretch']"

def parseEvaluationResponse (loads : String → Except String Json) (content : String) :
    Parse EvaluationResult := do
  let payload ← loadObject loads content
  let strengths ← requireText payload "strengths"
  let gaps ← requireText payload "gaps"
  let evidence ← requireText payload "evidence"
  let pushback ← requireText payload "senior_analyst_pushback"
  let verdict ← requireText payload "final_verdict"
  let focus ← requireText payload "suggested_next_skill_focus"
  let difficulty ← difficultyRecommendation ((payload.lookup "difficulty_recommendation").getD .null)
  return ⟨strengths, gaps, evidence, pushback, verdict, focus, difficulty, content⟩

/-! ## Personas -/

inductive Verdict where
  | sufficient
  | insufficient
  deriving DecidableEq, Repr

structure SufficiencyVerdict where
  verdict : Verdict
  suggestedPushback : Option String
  deriving DecidableEq, Repr

/-- The check of `verdict`. -/
def verdictOf : Option Json → Parse Verdict
  | some (.string "sufficient") => pure .sufficient
  | some (.string "insufficient") => pure .insufficient
  | _ => reject "\"verdict\" must be \"sufficient\" or \"insufficient\""

/-- The check of `suggested_pushback`. -/
def pushbackOf : Option Json → Parse (Option String)
  | none | some .null => pure none
  | some (.string s) => pure (some s)
  | _ => reject "\"suggested_pushback\" must be a string or null"

def parseSufficiencyResponse (loads : String → Except String Json) (content : String) :
    Parse SufficiencyVerdict := do
  let payload ← loadObject loads content
  let verdict ← verdictOf (payload.lookup "verdict")
  let suggestedPushback ← pushbackOf (payload.lookup "suggested_pushback")
  match verdict with
  | .sufficient => return ⟨.sufficient, none⟩
  | .insufficient =>
    if suggestedPushback.all isBlank then
      reject "\"suggested_pushback\" must be a non-empty string when verdict is \"insufficient\""
    else return ⟨.insufficient, suggestedPushback⟩

/-- The check of `_generate_persona_message`. -/
def checkPersonaMessage (content : String) : Parse String :=
  if isBlank content then throw (.rejected (.claudeApi "empty response content")) else pure content

/-! ## Scenarios -/

def maxListItems : ℕ := 50

def maxNarrativeChars : ℕ := 4000

def maxExpectedQueryChars : ℕ := 4000

def entityIdKeys : List String :=
  ["product_ids", "warehouse_ids", "supplier_ids", "purchase_order_ids", "shipment_ids"]

def text? : Json → Option String
  | .string s => some s
  | _ => none

/-- A list of strings, of at most `_MAX_LIST_ITEMS`, under the name it has in the errors. -/
def stringList (name : String) : Option Json → Parse (List String)
  | some (.array items) =>
    match items.mapM text? with
    | none => reject ("\"" ++ name ++ "\" must be a list of strings")
    | some texts =>
      if texts.length > maxListItems then
        reject ("\"" ++ name ++ "\" must not exceed " ++ toString maxListItems ++ " items (got " ++
          toString texts.length ++ ")")
      else pure texts
  | _ => reject ("\"" ++ name ++ "\" must be a list of strings")

def requireStringList (payload : List (String × Json)) (fieldName : String) : Parse (List String) :=
  stringList fieldName (payload.lookup fieldName)

def optionalString (payload : List (String × Json)) (fieldName : String) : Parse String :=
  match payload.lookup fieldName with
  | none => pure ""
  | some (.string s) => pure s
  | some _ => reject ("\"" ++ fieldName ++ "\" must be a string")

/-- The loop over `raw_entity_ids.items()`. -/
def entityIds : List (String × Json) → Dict String (List String) → Parse (Dict String (List String))
  | [], ids => pure ids
  | (key, value) :: items, ids =>
    if key ∉ entityIdKeys then
      reject ("\"referenced_entity_ids." ++ key ++ "\" is not a recognized entity type")
    else do
      let texts ← stringList ("referenced_entity_ids." ++ key) (some value)
      entityIds items (ids.set key texts)

def referencedEntityIds (payload : List (String × Json)) : Parse (Dict String (List String)) :=
  match payload.lookup "referenced_entity_ids" with
  | none => pure Dict.empty
  | some (.object items) => entityIds items Dict.empty
  | some _ => reject "\"referenced_entity_ids\" must be an object"

def normalizeNarrative (value : List Char) : Parse (List Char) :=
  if value.length > maxNarrativeChars then
    reject ("\"narrative\" must not exceed " ++ toString maxNarrativeChars ++ " characters")
  else pure (strip value)

/-- `sqlparse`: what it reports, and the texts on which it raises. -/
structure SqlParse extends Library where
  /-- `sqlparse.format` that strips the comments. -/
  stripComments : List Char → List Char
  splitRaises : List Char → Bool
  parseRaises : List Char → Bool
  formatRaises : List Char → Bool

/-- `s.rstrip()`. -/
def rstrip (s : List Char) : List Char := s.rdropWhile isSpace

namespace SqlParse
variable (sql : SqlParse)

/-- The text that `classify_statement` gives to `sqlparse.parse`, to a depth of calls. -/
def parsedText : ℕ → List Char → Option (List Char)
  | 0, _ => none
  | n + 1, text =>
    let stripped := strip text
    if stripped = [] then none
    else if (sql.explainKeyword stripped).isSome then
      let header := sql.explainHeader stripped
      if header.1 then parsedText n header.2 else none
    else some stripped

/-- `classify_statement`, where `sqlparse.parse` may raise. -/
def classify (text : List Char) : Parse StatementType :=
  if (sql.parsedText (text.length + 1) text).any sql.parseRaises then raise .sqlParse
  else pure (sql.classifyStatement text)

/-- `sqlparse.format`. -/
def format (text : List Char) : Parse (List Char) :=
  if sql.formatRaises text then raise .sqlParse else pure (sql.stripComments text)

/-- Whether a statement is more than comments and semicolons. -/
def isStatement (stmt : List Char) : Parse Bool := do
  let text := strip (← sql.format stmt)
  return strip ((text.dropWhile (· = ';')).rdropWhile (· = ';')) ≠ []

/-- The statements of a text that are more than comments. -/
def statements (value : List Char) : Parse (List (List Char)) :=
  if sql.splitRaises value then raise .sqlParse
  else (sql.splitStatements value).filterM sql.isStatement

def normalizeExpectedQuery (value : List Char) : Parse (List Char) := do
  if value.length > maxExpectedQueryChars then
    reject ("\"expected_query\" must not exceed " ++ toString maxExpectedQueryChars ++ " characters")
  else
    match ← sql.statements value with
    | [] => return []
    | [statement] =>
      if (← sql.classify statement) ≠ .read then reject "\"expected_query\" must be a read-only SELECT"
      else
        let statement := rstrip statement
        let withoutComments := strip (← sql.format statement)
        -- "SELECT 1; -- note": drop the semicolon and the comment after it.
        if withoutComments.getLast? = some ';' then return rstrip withoutComments.dropLast
        else return rstrip (statement.rdropWhile (· = ';'))
    | _ => reject "\"expected_query\" must be a single statement"

end SqlParse

/-- What `parse_narrative_response` has read before it normalizes the query. -/
structure NarrativeFields where
  lists : ScenarioNarrative
  expectedQuery : String

/-- `parse_narrative_response`, up to the query. -/
def narrativeFields (loads : String → Except String Json) (content : String) :
    Parse NarrativeFields := do
  let payload ← loadObject loads content
  let supportingSignals ← requireStringList payload "supporting_signals"
  let distractors ← requireStringList payload "distractors"
  let expectedConsiderations ← requireStringList payload "expected_considerations"
  let acceptableConclusions ← requireStringList payload "acceptable_conclusions"
  let unacceptableConclusions ← requireStringList payload "unacceptable_conclusions"
  let uncertainty ← requireText payload "uncertainty"
  let entityIds ← referencedEntityIds payload
  let narrative ← optionalString payload "narrative"
  let expectedQuery ← optionalString payload "expected_query"
  let narrative ← normalizeNarrative narrative.toList
  return ⟨{
    supportingSignals := supportingSignals
    distractors := distractors
    expectedConsiderations := expectedConsiderations
    acceptableConclusions := acceptableConclusions
    unacceptableConclusions := unacceptableConclusions
    uncertainty := uncertainty
    referencedEntityIds := entityIds
    narrative := String.ofList narrative
    expectedQuery := "" }, expectedQuery⟩

def parseNarrativeResponse (sql : SqlParse) (loads : String → Except String Json) (content : String) :
    Parse ScenarioNarrative := do
  let fields ← narrativeFields loads content
  let query ← sql.normalizeExpectedQuery fields.expectedQuery.toList
  return { fields.lists with expectedQuery := String.ofList query }

/-- Three backticks. -/
def fence : List Char := List.replicate 3 (Char.ofNat 0x60)

/-- `_strip_code_fence`: `_CODE_FENCE_RE` takes the letters and the spaces after the first fence. -/
def stripCodeFence (text : List Char) : List Char :=
  let stripped := strip text
  let inside := (stripped.drop 3).take (stripped.length - 6)
  if stripped.take 3 = fence ∧ 6 ≤ stripped.length ∧ stripped.drop (stripped.length - 3) = fence then
    strip ((inside.dropWhile isLetter).dropWhile isSpace)
  else stripped

/-- `_parse_narrative_text`. -/
def parseNarrativeText (content : String) : Parse String := do
  let text ← normalizeNarrative (stripCodeFence content.toList)
  if text = [] then reject "the narrative came back empty" else return String.ofList text

/-- `_parse_expected_query`. -/
def parseExpectedQuery (sql : SqlParse) (content : String) : Parse String := do
  let query ← sql.normalizeExpectedQuery (stripCodeFence content.toList)
  if query = [] then reject "the expected query came back empty" else return String.ofList query

end MeadowOps.Generation
