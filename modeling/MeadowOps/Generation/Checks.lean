import MeadowOps.Generation.Responses

/-!
# What the checks of the answers do

For each parser: the answers on which it raises, and what it has made sure of when it returns.
-/

namespace MeadowOps.Generation

open Db Lib Scenarios Query

/-! ## Checks that raise -/

/-- The check runs into an exception that no attempt handles. -/
def Raises {α : Type} (x : Parse α) : Prop := ∃ error, x = .error (.raised error)

section

variable {α β : Type}

theorem raises_bind_iff (x : Parse α) (f : α → Parse β) :
    Raises (x >>= f) ↔ Raises x ∨ ∃ a, x = .ok a ∧ Raises (f a) := by
  cases x with
  | ok a =>
    constructor
    · exact fun h => .inr ⟨a, rfl, h⟩
    · rintro (⟨error, h⟩ | ⟨a', ⟨⟩, h⟩)
      · cases h
      · exact h
  | error problem =>
    constructor
    · rintro ⟨error, h⟩
      cases h
      exact .inl ⟨error, rfl⟩
    · rintro (⟨error, ⟨⟩⟩ | ⟨a', h, -⟩)
      · exact ⟨error, rfl⟩
      · cases h

theorem not_raises_pure (a : α) : ¬ Raises (pure a : Parse α) := nofun

theorem not_raises_reject (message : String) : ¬ Raises (reject message : Parse α) := nofun

theorem reject_ne_ok {message : String} {a : α} : (reject message : Parse α) ≠ .ok a := nofun

/-- Two steps that do not raise. -/
theorem not_raises_bind {x : Parse α} {f : α → Parse β} (hx : ¬ Raises x) (hf : ∀ a, ¬ Raises (f a)) :
    ¬ Raises (x >>= f) := by
  rw [raises_bind_iff]
  rintro (h | ⟨a, -, h⟩)
  · exact hx h
  · exact hf a h

/-- A first step that does not raise. -/
theorem raises_bind_of_not {x : Parse α} (hx : ¬ Raises x) (f : α → Parse β) :
    Raises (x >>= f) ↔ ∃ a, x = .ok a ∧ Raises (f a) := by
  rw [raises_bind_iff, or_iff_right hx]

/-- A last step that only packs the value. -/
theorem raises_bind_pure (x : Parse α) (g : α → β) : Raises (x >>= fun a => pure (g a)) ↔ Raises x := by
  rw [raises_bind_iff]
  refine or_iff_left ?_
  rintro ⟨a, -, h⟩
  exact not_raises_pure _ h

end

variable {loads : String → Except String Json} {content : String} {payload : List (String × Json)}

theorem not_raises_loadObject : ¬ Raises (loadObject loads content) := by
  unfold loadObject
  split <;> nofun

theorem loadObject_ok_iff : loadObject loads content = .ok payload ↔ loads content = .ok (.object payload) := by
  unfold loadObject
  split
  · simp [*, reject, throw, throwThe, MonadExceptOf.throw]
  · rename_i found
    rw [found]
    constructor
    · rintro ⟨⟩
      rfl
    · rintro ⟨⟩
      rfl
  · rename_i other found
    rw [found]
    constructor
    · rintro ⟨⟩
    · rintro ⟨⟩
      exact absurd rfl (other payload)

theorem not_raises_requireText {key : String} : ¬ Raises (requireText payload key) := by
  unfold requireText
  split
  · split <;> nofun
  · nofun

theorem requireText_ok_iff {key s : String} :
    requireText payload key = .ok s ↔ payload.lookup key = some (.string s) ∧ isBlank s = false := by
  unfold requireText
  split
  · rename_i text found
    rw [found]
    cases blank : isBlank text
    · constructor
      · rintro ⟨⟩
        exact ⟨rfl, blank⟩
      · rintro ⟨⟨⟩, -⟩
        rfl
    · constructor
      · rintro ⟨⟩
      · rintro ⟨⟨⟩, notBlank⟩
        rw [blank] at notBlank
        cases notBlank
  · rename_i other
    constructor
    · rintro ⟨⟩
    · rintro ⟨found, -⟩
      exact absurd found (other s)

/-! ## Evaluations -/

/-- `_REQUIRED_STRING_KEYS`. -/
def requiredStringKeys : List String :=
  ["strengths", "gaps", "evidence", "senior_analyst_pushback", "final_verdict",
    "suggested_next_skill_focus"]

/-- A value without a hash. -/
def Unhashable : Json → Prop
  | .array _ | .object _ => True
  | _ => False

/-- An evaluation whose texts are there and whose recommendation is a list or an object. -/
def EvaluationTrap (loads : String → Except String Json) (content : String) : Prop :=
  ∃ payload, loads content = .ok (.object payload) ∧
    (∀ key ∈ requiredStringKeys, ∃ s, payload.lookup key = some (.string s) ∧ isBlank s = false) ∧
    ∃ value, payload.lookup "difficulty_recommendation" = some value ∧ Unhashable value

theorem raises_difficultyRecommendation {value : Json} :
    Raises (difficultyRecommendation value) ↔ Unhashable value := by
  cases value with
  | array items => exact ⟨fun _ => trivial, fun _ => ⟨_, rfl⟩⟩
  | object items => exact ⟨fun _ => trivial, fun _ => ⟨_, rfl⟩⟩
  | string s =>
    refine ⟨fun h => absurd h ?_, False.elim⟩
    unfold difficultyRecommendation
    dsimp only
    cases DifficultyRecommendation.ofValue s with
    | some d => exact not_raises_pure d
    | none => exact not_raises_reject _
  | null => exact ⟨nofun, False.elim⟩
  | bool b => exact ⟨nofun, False.elim⟩
  | number n => exact ⟨nofun, False.elim⟩

theorem raises_parseEvaluationResponse_iff :
    Raises (parseEvaluationResponse loads content) ↔ EvaluationTrap loads content := by
  unfold parseEvaluationResponse
  -- the texts are required one after another, and only the last step raises
  simp only [raises_bind_of_not not_raises_loadObject, raises_bind_of_not not_raises_requireText,
    raises_bind_pure, raises_difficultyRecommendation, loadObject_ok_iff, requireText_ok_iff]
  have hashed : ∀ value : Option Json,
      Unhashable (value.getD .null) ↔ ∃ v, value = some v ∧ Unhashable v := by
    intro value
    cases value with
    | none => simp [Unhashable]
    | some v => simp
  simp only [hashed]
  constructor
  · rintro ⟨payload, loaded, s₁, h₁, s₂, h₂, s₃, h₃, s₄, h₄, s₅, h₅, s₆, h₆, value, found, unhashable⟩
    refine ⟨payload, loaded, ?_, value, found, unhashable⟩
    simp only [requiredStringKeys, List.forall_mem_cons]
    exact ⟨⟨s₁, h₁⟩, ⟨s₂, h₂⟩, ⟨s₃, h₃⟩, ⟨s₄, h₄⟩, ⟨s₅, h₅⟩, ⟨s₆, h₆⟩, nofun⟩
  · rintro ⟨payload, loaded, texts, value, found, unhashable⟩
    simp only [requiredStringKeys, List.forall_mem_cons] at texts
    obtain ⟨⟨s₁, h₁⟩, ⟨s₂, h₂⟩, ⟨s₃, h₃⟩, ⟨s₄, h₄⟩, ⟨s₅, h₅⟩, ⟨s₆, h₆⟩, -⟩ := texts
    exact ⟨payload, loaded, s₁, h₁, s₂, h₂, s₃, h₃, s₄, h₄, s₅, h₅, s₆, h₆, value, found, unhashable⟩

/-- Every text of an evaluation is there. -/
def EvaluationSchema (r : EvaluationResult) : Prop :=
  ∀ s ∈ [r.strengths, r.gaps, r.evidence, r.seniorAnalystPushback, r.finalVerdict,
    r.suggestedNextSkillFocus], isBlank s = false

theorem evaluationSchema_of_parse {r : EvaluationResult}
    (h : parseEvaluationResponse loads content = .ok r) : EvaluationSchema r := by
  obtain ⟨payload, -, h⟩ := ok_of_bind h
  obtain ⟨s₁, h₁, h⟩ := ok_of_bind h
  obtain ⟨s₂, h₂, h⟩ := ok_of_bind h
  obtain ⟨s₃, h₃, h⟩ := ok_of_bind h
  obtain ⟨s₄, h₄, h⟩ := ok_of_bind h
  obtain ⟨s₅, h₅, h⟩ := ok_of_bind h
  obtain ⟨s₆, h₆, h⟩ := ok_of_bind h
  obtain ⟨d, -, h⟩ := ok_of_bind h
  cases h
  simp only [EvaluationSchema, List.forall_mem_cons]
  exact ⟨(requireText_ok_iff.1 h₁).2, (requireText_ok_iff.1 h₂).2, (requireText_ok_iff.1 h₃).2,
    (requireText_ok_iff.1 h₄).2, (requireText_ok_iff.1 h₅).2, (requireText_ok_iff.1 h₆).2, nofun⟩

/-! ## Personas -/

theorem not_raises_verdictOf (value : Option Json) : ¬ Raises (verdictOf value) := by
  unfold verdictOf
  split
  · exact not_raises_pure _
  · exact not_raises_pure _
  · exact not_raises_reject _

theorem not_raises_pushbackOf (value : Option Json) : ¬ Raises (pushbackOf value) := by
  unfold pushbackOf
  split
  · exact not_raises_pure _
  · exact not_raises_pure _
  · exact not_raises_pure _
  · exact not_raises_reject _

theorem not_raises_parseSufficiencyResponse : ¬ Raises (parseSufficiencyResponse loads content) := by
  refine not_raises_bind not_raises_loadObject fun payload => ?_
  refine not_raises_bind (not_raises_verdictOf _) fun verdict => ?_
  refine not_raises_bind (not_raises_pushbackOf _) fun pushback => ?_
  cases verdict with
  | sufficient => exact not_raises_pure _
  | insufficient =>
    dsimp only
    split
    · exact not_raises_reject _
    · exact not_raises_pure _

/-- Who is told that the message is insufficient is told why. -/
def SufficiencySchema (v : SufficiencyVerdict) : Prop :=
  (v.verdict = .sufficient → v.suggestedPushback = none) ∧
    (v.verdict = .insufficient → ∃ s, v.suggestedPushback = some s ∧ isBlank s = false)

theorem sufficiencySchema_of_parse {v : SufficiencyVerdict}
    (h : parseSufficiencyResponse loads content = .ok v) : SufficiencySchema v := by
  obtain ⟨payload, -, h⟩ := ok_of_bind h
  obtain ⟨verdict, -, h⟩ := ok_of_bind h
  obtain ⟨pushback, -, h⟩ := ok_of_bind h
  cases verdict with
  | sufficient =>
    cases h
    exact ⟨fun _ => rfl, nofun⟩
  | insufficient =>
    dsimp only at h
    split at h
    · cases h
    · rename_i notBlank
      cases h
      refine ⟨nofun, fun _ => ?_⟩
      cases pushback with
      | none => exact absurd rfl notBlank
      | some s => exact ⟨s, rfl, by simpa using notBlank⟩

theorem not_raises_checkPersonaMessage : ¬ Raises (checkPersonaMessage content) := by
  unfold checkPersonaMessage
  split
  · nofun
  · exact not_raises_pure _

theorem checkPersonaMessage_ok {message : String} (h : checkPersonaMessage content = .ok message) :
    isBlank message = false := by
  unfold checkPersonaMessage at h
  split at h
  · cases h
  · cases h
    exact Bool.eq_false_iff.2 ‹_›

/-! ## Scenarios -/

theorem not_raises_stringList (name : String) (value : Option Json) : ¬ Raises (stringList name value) := by
  unfold stringList
  split
  · split
    · exact not_raises_reject _
    · split
      · exact not_raises_reject _
      · exact not_raises_pure _
  · exact not_raises_reject _

theorem stringList_ok {name : String} {value : Option Json} {texts : List String}
    (h : stringList name value = .ok texts) : texts.length ≤ maxListItems := by
  unfold stringList at h
  split at h
  · split at h
    · cases h
    · split at h
      · cases h
      · cases h
        exact Nat.le_of_not_lt ‹_›
  · cases h

theorem not_raises_optionalString (key : String) : ¬ Raises (optionalString payload key) := by
  unfold optionalString
  split
  · exact not_raises_pure _
  · exact not_raises_pure _
  · exact not_raises_reject _

theorem not_raises_normalizeNarrative (value : List Char) : ¬ Raises (normalizeNarrative value) := by
  unfold normalizeNarrative
  split
  · exact not_raises_reject _
  · exact not_raises_pure _

theorem normalizeNarrative_ok {value text : List Char} (h : normalizeNarrative value = .ok text) :
    text = strip value ∧ value.length ≤ maxNarrativeChars := by
  unfold normalizeNarrative at h
  split at h
  · cases h
  · cases h
    exact ⟨rfl, Nat.le_of_not_lt ‹_›⟩

theorem not_raises_entityIds (items : List (String × Json)) (ids : Dict String (List String)) :
    ¬ Raises (entityIds items ids) := by
  induction items generalizing ids with
  | nil => exact not_raises_pure _
  | cons item items ih =>
    rw [entityIds]
    split
    · exact not_raises_reject _
    · exact not_raises_bind (not_raises_stringList _ _) fun texts => ih _

/-- Every item of `referenced_entity_ids` has a key that is known, and not too many ids. -/
def EntityIdsSchema (ids : Dict String (List String)) : Prop :=
  ∀ e ∈ ids.items, e.1 ∈ entityIdKeys ∧ e.2.length ≤ maxListItems

theorem entityIds_ok {items : List (String × Json)} {ids ids' : Dict String (List String)}
    (h : entityIds items ids = .ok ids') (before : EntityIdsSchema ids) : EntityIdsSchema ids' := by
  induction items generalizing ids with
  | nil =>
    cases h
    exact before
  | cons item items ih =>
    rw [entityIds] at h
    split at h
    · cases h
    · rename_i known
      obtain ⟨texts, list, h⟩ := ok_of_bind h
      refine ih h fun e mem => ?_
      rcases Dict.mem_assign mem with rfl | old
      · exact ⟨not_not.1 known, stringList_ok list⟩
      · exact before e old

theorem not_raises_referencedEntityIds : ¬ Raises (referencedEntityIds payload) := by
  unfold referencedEntityIds
  split
  · exact not_raises_pure _
  · exact not_raises_entityIds _ _
  · exact not_raises_reject _

theorem referencedEntityIds_ok {ids : Dict String (List String)}
    (h : referencedEntityIds payload = .ok ids) : EntityIdsSchema ids := by
  unfold referencedEntityIds at h
  split at h
  · cases h
    nofun
  · exact entityIds_ok h nofun
  · cases h

structure NarrativeSchema (n : ScenarioNarrative) : Prop where
  lists : ∀ l ∈ [n.supportingSignals, n.distractors, n.expectedConsiderations, n.acceptableConclusions,
    n.unacceptableConclusions], l.length ≤ maxListItems
  uncertainty : isBlank n.uncertainty = false
  entityIds : EntityIdsSchema n.referencedEntityIds
  narrative : n.narrative.length ≤ maxNarrativeChars

theorem not_raises_narrativeFields : ¬ Raises (narrativeFields loads content) := by
  refine not_raises_bind not_raises_loadObject fun payload => ?_
  refine not_raises_bind (not_raises_stringList _ _) fun _ => ?_
  refine not_raises_bind (not_raises_stringList _ _) fun _ => ?_
  refine not_raises_bind (not_raises_stringList _ _) fun _ => ?_
  refine not_raises_bind (not_raises_stringList _ _) fun _ => ?_
  refine not_raises_bind (not_raises_stringList _ _) fun _ => ?_
  refine not_raises_bind not_raises_requireText fun _ => ?_
  refine not_raises_bind not_raises_referencedEntityIds fun _ => ?_
  refine not_raises_bind (not_raises_optionalString _) fun _ => ?_
  refine not_raises_bind (not_raises_optionalString _) fun _ => ?_
  exact not_raises_bind (not_raises_normalizeNarrative _) fun _ => not_raises_pure _

theorem narrativeFields_ok {fields : NarrativeFields} (h : narrativeFields loads content = .ok fields) :
    NarrativeSchema fields.lists := by
  obtain ⟨payload, -, h⟩ := ok_of_bind h
  obtain ⟨l₁, h₁, h⟩ := ok_of_bind h
  obtain ⟨l₂, h₂, h⟩ := ok_of_bind h
  obtain ⟨l₃, h₃, h⟩ := ok_of_bind h
  obtain ⟨l₄, h₄, h⟩ := ok_of_bind h
  obtain ⟨l₅, h₅, h⟩ := ok_of_bind h
  obtain ⟨uncertainty, notBlank, h⟩ := ok_of_bind h
  obtain ⟨ids, known, h⟩ := ok_of_bind h
  obtain ⟨narrative, -, h⟩ := ok_of_bind h
  obtain ⟨query, -, h⟩ := ok_of_bind h
  obtain ⟨text, normal, h⟩ := ok_of_bind h
  cases h
  constructor
  case lists =>
    simp only [List.forall_mem_cons]
    exact ⟨stringList_ok h₁, stringList_ok h₂, stringList_ok h₃, stringList_ok h₄, stringList_ok h₅, nofun⟩
  case uncertainty => exact (requireText_ok_iff.1 notBlank).2
  case entityIds => exact referencedEntityIds_ok known
  case narrative =>
    obtain ⟨rfl, short⟩ := normalizeNarrative_ok normal
    show (String.ofList _).length ≤ _
    rw [String.length_ofList]
    exact (strip_length _).trans short

/-- The query of an answer that is otherwise in order makes `sqlparse` raise. -/
def NarrativeTrap (sql : SqlParse) (loads : String → Except String Json) (content : String) : Prop :=
  ∃ fields, narrativeFields loads content = .ok fields ∧
    Raises (sql.normalizeExpectedQuery fields.expectedQuery.toList)

theorem raises_parseNarrativeResponse_iff {sql : SqlParse} :
    Raises (parseNarrativeResponse sql loads content) ↔ NarrativeTrap sql loads content := by
  unfold parseNarrativeResponse
  simp only [raises_bind_of_not not_raises_narrativeFields, raises_bind_pure]
  exact Iff.rfl

theorem narrativeSchema_of_parse {sql : SqlParse} {n : ScenarioNarrative}
    (h : parseNarrativeResponse sql loads content = .ok n) : NarrativeSchema n := by
  obtain ⟨fields, read, h⟩ := ok_of_bind h
  obtain ⟨query, -, h⟩ := ok_of_bind h
  cases h
  have schema := narrativeFields_ok read
  exact ⟨schema.lists, schema.uncertainty, schema.entityIds, schema.narrative⟩

/-! ## Texts -/

/-- A text whose last character is no space is not blank. -/
theorem isBlank_rdropWhile {text : List Char} (h : text.rdropWhile isSpace ≠ []) :
    isBlank (String.ofList (text.rdropWhile isSpace)) = false := by
  rw [isBlank, String.toList_ofList, Bool.eq_false_iff]
  intro blank
  have last := List.all_eq_true.1 blank _ (List.getLast_mem h)
  exact List.rdropWhile_last_not isSpace text h last

theorem not_raises_parseNarrativeText : ¬ Raises (parseNarrativeText content) := by
  refine not_raises_bind (not_raises_normalizeNarrative _) fun text => ?_
  split
  · exact not_raises_reject _
  · exact not_raises_pure _

theorem parseNarrativeText_ok {text : String} (h : parseNarrativeText content = .ok text) :
    isBlank text = false := by
  obtain ⟨normal, read, h⟩ := ok_of_bind h
  obtain ⟨rfl, -⟩ := normalizeNarrative_ok read
  split at h
  · exact absurd h reject_ne_ok
  · rename_i nonempty
    rw [← Except.ok.inj h]
    exact isBlank_rdropWhile nonempty

theorem raises_parseExpectedQuery_iff {sql : SqlParse} : Raises (parseExpectedQuery sql content) ↔
    Raises (sql.normalizeExpectedQuery (stripCodeFence content.toList)) := by
  unfold parseExpectedQuery
  rw [raises_bind_iff]
  refine or_iff_left ?_
  rintro ⟨query, -, h⟩
  split at h
  · exact not_raises_reject _ h
  · exact not_raises_pure _ h

theorem normalizeExpectedQuery_ok {sql : SqlParse} {value query : List Char}
    (h : sql.normalizeExpectedQuery value = .ok query) (nonempty : query ≠ []) :
    isBlank (String.ofList query) = false := by
  unfold SqlParse.normalizeExpectedQuery at h
  split at h
  · cases h
  · obtain ⟨statements, -, h⟩ := ok_of_bind h
    split at h
    · cases h
      exact absurd rfl nonempty
    · obtain ⟨type, -, h⟩ := ok_of_bind h
      split at h
      · cases h
      · obtain ⟨formatted, -, h⟩ := ok_of_bind h
        dsimp only at h
        split at h
        · cases h
          exact isBlank_rdropWhile nonempty
        · cases h
          exact isBlank_rdropWhile nonempty
    · cases h

theorem parseExpectedQuery_ok {sql : SqlParse} {query : String}
    (h : parseExpectedQuery sql content = .ok query) : isBlank query = false := by
  obtain ⟨text, read, h⟩ := ok_of_bind h
  split at h
  · cases h
  · cases h
    exact normalizeExpectedQuery_ok read ‹_›

end MeadowOps.Generation
