import MeadowOps.Lib.PyText
import Mathlib.Data.List.Basic

/-!
# `app/domain/query_classifier.py`

The patterns for EXPLAIN are functions on texts that return the groups and the text after the match.
What `sqlparse` reports, and which characters beyond ASCII are letters or digits to Python, is a
`Library`.
-/

namespace MeadowOps.Query

open Lib

inductive StatementType where
  | read
  | write
  | unknown
  deriving DecidableEq, Repr

/-- The token types the classifier asks for. -/
inductive TokenType where
  | dml
  | ddl
  | keyword
  | other
  deriving DecidableEq, Repr

/-- A token of `stmt.flatten()`, with `tok.value.upper()`. -/
structure ParsedToken where
  ttype : TokenType
  upper : String
  deriving DecidableEq, Repr

/-- A statement, with its `get_type()`. -/
structure Parsed where
  type : String
  tokens : List ParsedToken
  deriving DecidableEq, Repr

structure Library where
  /-- `sqlparse.split`. -/
  split : List Char → List (List Char)
  /-- The first statement of `sqlparse.parse`. -/
  parse : List Char → Option Parsed
  /-- `str.isalnum` of a character beyond ASCII. -/
  isAlnum : Char → Bool

/-! ## The patterns -/

/-- A capital letter of a pattern under `re.IGNORECASE`: three letters beyond ASCII count as I or S. -/
def sameLetter (k c : Char) : Bool :=
  c.toNat = k.toNat || c.toNat = k.toNat + 0x20 ||
    (k = 'I' && (c.toNat = 0x130 || c.toNat = 0x131)) || (k = 'S' && c.toNat = 0x17f)

/-- The text after a sequence of letters. -/
def matchLetters : List (Char → Bool) → List Char → Option (List Char)
  | [], s => some s
  | _ :: _, [] => none
  | p :: ps, c :: s => if p c then matchLetters ps s else none

def explainLetters : List (Char → Bool) := "EXPLAIN".toList.map sameLetter

/-- `ANALY[SZ]E`. -/
def analyzeLetters : List (Char → Bool) :=
  "ANALY".toList.map sameLetter ++ [fun c => sameLetter 'S' c || sameLetter 'Z' c, sameLetter 'E']

/-- `_EXPLAIN_PAREN_OPTIONS_RE.match`: the group and what follows the match. -/
def explainParenOptions (s : List Char) : Option (List Char × List Char) :=
  (matchLetters explainLetters (s.dropWhile isSpace)).bind fun rest =>
    match rest.dropWhile isSpace with
    | '(' :: body =>
      if ')' ∈ body then some (body.takeWhile (· ≠ ')'), (body.dropWhile (· ≠ ')')).tail) else none
    | _ => none

namespace Library
variable (lib : Library)

/-- `\w`. -/
def isWord (c : Char) : Bool :=
  if c.toNat < 0x80 then isLetter c || isDecimal c || c.toNat = 0x5f else lib.isAlnum c

/-- `\b` after a letter. -/
def endsWord (rest : List Char) : Bool := rest.head?.all fun c => !lib.isWord c

/-- `_EXPLAIN_KEYWORD_RE.match`. -/
def explainKeyword (s : List Char) : Option (List Char) :=
  (matchLetters explainLetters (s.dropWhile isSpace)).filter lib.endsWord

/-- `_EXPLAIN_BARE_ANALYZE_RE.match`. -/
def explainBareAnalyze (s : List Char) : Option (List Char) :=
  (matchLetters explainLetters (s.dropWhile isSpace)).bind fun rest =>
    if rest.head?.any isSpace then
      (matchLetters analyzeLetters (rest.dropWhile isSpace)).filter lib.endsWord
    else none

/-- `_ANALYZE_WORD_RE.search`, after a character that is part of a word or not. -/
def searchAnalyze (afterWord : Bool) : List Char → Bool
  | [] => false
  | c :: s => (!afterWord && (matchLetters analyzeLetters (c :: s)).any lib.endsWord) ||
      searchAnalyze (lib.isWord c) s

/-- `_ANALYZE_WORD_RE.search`. -/
def analyzeWord (s : List Char) : Bool := lib.searchAnalyze false s

/-! ## The classification -/

/-- Whether EXPLAIN analyzes, and the remainder, in `_classify_explain`. -/
def explainHeader (stripped : List Char) : Bool × List Char :=
  match explainParenOptions stripped with
  | some (options, remainder) => (lib.analyzeWord options, remainder)
  | none =>
    match lib.explainBareAnalyze stripped with
    | some remainder => (true, remainder)
    | none => (false, (lib.explainKeyword stripped).getD [])

/-- The part of `classify_statement` after EXPLAIN is ruled out. -/
def classifyParsed : Option Parsed → StatementType
  | none => .unknown
  | some stmt =>
    let dmlDdlValues := (stmt.tokens.filter fun t => t.ttype = .dml || t.ttype = .ddl).map (·.upper)
    let hasSelectInto := stmt.type = "SELECT" &&
      stmt.tokens.any fun t => t.ttype = .keyword && t.upper = "INTO"
    if stmt.type = "SELECT" && (dmlDdlValues.all fun v => v = "SELECT") && !hasSelectInto then .read
    else if stmt.type = "UNKNOWN" && dmlDdlValues.isEmpty then .unknown
    else .write

/-- `classify_statement`, to a depth of calls. -/
def classifyTo : ℕ → List Char → StatementType
  | 0, _ => .unknown
  | n + 1, sql =>
    let stripped := strip sql
    if stripped = [] then .unknown
    else if (lib.explainKeyword stripped).isSome then
      let header := lib.explainHeader stripped
      if header.1 then classifyTo n header.2 else .read
    else classifyParsed (lib.parse stripped)

/-- `classify_statement`. Each call of itself is on a shorter text, so this depth is enough. -/
def classifyStatement (sql : List Char) : StatementType := lib.classifyTo (sql.length + 1) sql

def splitStatements (sql : List Char) : List (List Char) :=
  ((lib.split sql).map strip).filter fun stmt => stmt ≠ [] && stmt ≠ [';']

def classifySubmission (sql : List Char) : List (List Char × StatementType) :=
  (lib.splitStatements sql).map fun stmt => (stmt, lib.classifyStatement stmt)

def requiresConfirmation (sql : List Char) : Bool :=
  (lib.classifySubmission sql).any fun classified => classified.2 ≠ .read

/-! ## The depth is enough -/

theorem length_of_matchLetters {ps : List (Char → Bool)} {s rest : List Char}
    (h : matchLetters ps s = some rest) : rest.length + ps.length = s.length := by
  fun_induction matchLetters ps s with
  | case1 s =>
    cases h
    rfl
  | case2 => cases h
  | case3 p ps c s _ ih =>
    have := ih h
    simp only [List.length_cons]
    omega
  | case4 => cases h

theorem header_shorter {stripped : List Char} (h : (lib.explainHeader stripped).1 = true) :
    (lib.explainHeader stripped).2.length < stripped.length := by
  have skip : ∀ s : List Char, (s.dropWhile isSpace).length ≤ s.length :=
    fun s => (List.dropWhile_sublist _).length_le
  have letters : explainLetters.length = 7 := rfl
  have lead := skip stripped
  unfold explainHeader at h ⊢
  cases paren : explainParenOptions stripped with
  | some match' =>
    obtain ⟨rest, found, body⟩ := Option.bind_eq_some_iff.1 paren
    have seven := length_of_matchLetters found
    have blank := skip rest
    split at body
    · rename_i body' opened
      split at body
      · cases body
        have tail : (body'.dropWhile (· ≠ ')')).tail.length ≤ body'.length :=
          ((List.tail_sublist _).trans (List.dropWhile_sublist _)).length_le
        rw [opened, List.length_cons] at blank
        simp only
        omega
      · cases body
    · cases body
  | none =>
    rw [paren] at h
    cases bare : lib.explainBareAnalyze stripped with
    | some remainder =>
      obtain ⟨rest, found, analyze⟩ := Option.bind_eq_some_iff.1 bare
      have seven := length_of_matchLetters found
      have blank := skip rest
      split at analyze
      · have more := length_of_matchLetters (Option.filter_eq_some_iff.1 analyze).1
        simp only
        omega
      · cases analyze
    | none =>
      rw [bare] at h
      cases h

theorem classifyTo_of_lt {n m : ℕ} {sql : List Char} (hn : sql.length < n) (hm : sql.length < m) :
    lib.classifyTo n sql = lib.classifyTo m sql := by
  induction n generalizing m sql with
  | zero => omega
  | succ n ih =>
    cases m with
    | zero => omega
    | succ m =>
      rw [classifyTo, classifyTo]
      dsimp only
      split
      · rfl
      split
      · split
        · rename_i analyzes
          have shorter := lib.header_shorter analyzes
          have short := strip_length sql
          apply ih <;> omega
        · rfl
      · rfl

/-- An EXPLAIN is a read, or what is left of it is classified. -/
theorem classify_explain {sql : List Char} (h : (lib.explainKeyword (strip sql)).isSome) :
    lib.classifyStatement sql =
      if (lib.explainHeader (strip sql)).1 then
        lib.classifyStatement (lib.explainHeader (strip sql)).2
      else .read := by
  have nonempty : strip sql ≠ [] := by
    intro empty
    rw [empty] at h
    cases h
  have short := strip_length sql
  rw [classifyStatement, classifyTo]
  simp only [nonempty, if_false, h, if_true]
  split
  · rename_i analyzes
    have shorter := lib.header_shorter analyzes
    exact lib.classifyTo_of_lt (by omega) (by omega)
  · rfl

theorem classify_blank {sql : List Char} (h : strip sql = []) :
    lib.classifyStatement sql = .unknown := by
  rw [classifyStatement, classifyTo]
  simp [h]

/-- A text that is not an EXPLAIN. -/
theorem classify_other {sql : List Char} (nonempty : strip sql ≠ [])
    (h : lib.explainKeyword (strip sql) = none) :
    lib.classifyStatement sql = classifyParsed (lib.parse (strip sql)) := by
  rw [classifyStatement, classifyTo]
  simp [nonempty, h]

/-- What `classifyParsed` asks of a read. -/
theorem classifyParsed_read_iff {stmt : Parsed} : classifyParsed (some stmt) = .read ↔
    stmt.type = "SELECT" ∧
      (∀ t ∈ stmt.tokens, t.ttype = .dml ∨ t.ttype = .ddl → t.upper = "SELECT") ∧
      ∀ t ∈ stmt.tokens, t.ttype = .keyword → t.upper ≠ "INTO" := by
  have plain : (stmt.type = "SELECT" &&
      (((stmt.tokens.filter fun t => t.ttype = .dml || t.ttype = .ddl).map (·.upper)).all
        fun v => v = "SELECT") &&
      !(stmt.type = "SELECT" && stmt.tokens.any fun t => t.ttype = .keyword && t.upper = "INTO"))
        = true ↔
      stmt.type = "SELECT" ∧
        (∀ t ∈ stmt.tokens, t.ttype = .dml ∨ t.ttype = .ddl → t.upper = "SELECT") ∧
        ∀ t ∈ stmt.tokens, t.ttype = .keyword → t.upper ≠ "INTO" := by
    simp only [Bool.and_eq_true, decide_eq_true_eq, List.all_eq_true, List.mem_map, List.mem_filter,
      Bool.or_eq_true, Bool.not_eq_true', Bool.and_eq_false_iff, decide_eq_false_iff_not,
      List.any_eq_false, not_and]
    constructor
    · rintro ⟨⟨select, dml⟩, into⟩
      refine ⟨select, ?_, into.resolve_left (fun no => no select)⟩
      intro t mem type
      exact dml t.upper ⟨t, ⟨mem, type⟩, rfl⟩
    · rintro ⟨select, dml, into⟩
      refine ⟨⟨select, ?_⟩, .inr into⟩
      rintro _ ⟨t, ⟨mem, type⟩, rfl⟩
      exact dml t mem type
  rw [← plain]
  unfold classifyParsed
  dsimp only
  split
  · rename_i yes
    exact ⟨fun _ => yes, fun _ => rfl⟩
  · rename_i no
    constructor
    · intro read
      split at read <;> cases read
    · exact fun yes => absurd yes no

end Library

end MeadowOps.Query
