import MeadowOps.Query.Headers

/-!
# The soft boundary

A submission runs without confirmation when every statement of it classifies as a read. The classifier
reads the header of EXPLAIN with patterns on characters; where a comment, a quoted name or a parenthesis
in a comment stands in the header, PostgreSQL can read another one.
-/

namespace MeadowOps.Query

open Lib

/-! ## What is assumed of the library -/

/-- The keywords of a data-modifying statement, and the token values that report them. -/
def dmlKeywords : List (String × String) :=
  [("insert", "INSERT"), ("update", "UPDATE"), ("delete", "DELETE"), ("merge", "MERGE")]

/-- The library reports the type and the keywords of the text as PostgreSQL reads them. -/
structure Agrees (lib : Library) (text : List Char) : Prop where
  select : ∀ stmt, lib.parse text = some stmt → stmt.type = "SELECT" → IsQuery (lex text)
  dml : ∀ stmt, lib.parse text = some stmt → ∀ k ∈ dmlKeywords, keyword k.1 ∈ lex text →
    ∃ t ∈ stmt.tokens, t.ttype = .dml ∧ t.upper = k.2
  into : ∀ stmt, lib.parse text = some stmt → keyword "into" ∈ lex text →
    ∃ t ∈ stmt.tokens, t.ttype = .keyword ∧ t.upper = "INTO"

/-- The text ends the statement at the end of one of its tokens. -/
def EndsAtToken (stmt text : List Char) : Prop := text <:+ stmt ∧ lex text <:+ lex stmt

/-- The library splits the submission into single statements and agrees with PostgreSQL on each, also
on what is left of it after a token. -/
structure Faithful (lib : Library) (sql : List Char) : Prop where
  one : ∀ stmt ∈ lib.splitStatements sql, OneStatement (lex stmt)
  agrees : ∀ stmt ∈ lib.splitStatements sql, ∀ text, EndsAtToken stmt text → Agrees lib text

/-! ## What the boundary promises -/

/-- Without confirmation nothing modifies, and no EXPLAIN that modifies is a read. -/
structure SoftBoundary (lib : Library) (server : PostgreSQL) (sql : List Char) : Prop where
  safe : lib.requiresConfirmation sql = false →
    ∀ stmt ∈ lib.splitStatements sql, ¬ server.modifies (lex stmt)
  explain : ∀ stmt ∈ lib.splitStatements sql, (lex stmt).head? = some (keyword "explain") →
    server.modifies (lex stmt) → lib.classifyStatement stmt ≠ .read

/-! ## Headers that hide the statement -/

/-- The option list ends for PostgreSQL where it does for the pattern. -/
def ListEnds (stmt remainder : List Char) : Prop :=
  ∃ options, lex stmt =
    keyword "explain" :: .symbol '(' :: (options ++ .symbol ')' :: lex remainder) ∧
      .symbol ')' ∉ options

/-- A text that passes for a read: a SELECT to the library, an EXPLAIN to the patterns without ANALYZE,
or one with ANALYZE in front of such a text. -/
inductive PassesForRead (lib : Library) : List Char → Prop
  | select {text : List Char} {stmt : Parsed} (nonempty : strip text ≠ [])
      (other : lib.explainKeyword (strip text) = none) (parsed : lib.parse (strip text) = some stmt)
      (type : stmt.type = "SELECT")
      (dml : ∀ t ∈ stmt.tokens, t.ttype = .dml ∨ t.ttype = .ddl → t.upper = "SELECT")
      (into : ∀ t ∈ stmt.tokens, t.ttype = .keyword → t.upper ≠ "INTO") : PassesForRead lib text
  | plan {text : List Char} (explain : (lib.explainKeyword (strip text)).isSome = true)
      (plain : (lib.explainHeader (strip text)).1 = false) : PassesForRead lib text
  | analyze {text : List Char} (explain : (lib.explainKeyword (strip text)).isSome = true)
      (analyzes : (lib.explainHeader (strip text)).1 = true)
      (remainder : PassesForRead lib (lib.explainHeader (strip text)).2) : PassesForRead lib text

/-- A header of EXPLAIN that can hide a statement from the patterns. -/
inductive Hidden (lib : Library) (stmt : List Char) : Prop
  /-- A comment right after EXPLAIN. -/
  | comment {rest : List Char} (explain : lib.explainKeyword stmt = some rest)
      (opens : OpensComment (rest.dropWhile pgSpace))
  /-- An option list in which the word ANALYZE is not spelled. -/
  | unnamed {rest options remainder : List Char} (explain : lib.explainKeyword stmt = some rest)
      (list : explainParenOptions stmt = some (options, remainder))
      (unnamed : lib.analyzeWord options = false)
  /-- An option list that PostgreSQL ends elsewhere, and what follows the first parenthesis passes for
  a read. -/
  | cut {rest options remainder : List Char} (explain : lib.explainKeyword stmt = some rest)
      (list : explainParenOptions stmt = some (options, remainder))
      (ends : ¬ ListEnds stmt remainder) (passes : PassesForRead lib remainder)

/-- These are the texts that the classifier takes for a read. -/
theorem passesForRead_iff {lib : Library} {text : List Char} :
    PassesForRead lib text ↔ lib.classifyStatement text = .read := by
  constructor
  · intro passes
    induction passes with
    | select nonempty other parsed type dml into =>
      rw [lib.classify_other nonempty other, parsed]
      exact Library.classifyParsed_read_iff.2 ⟨type, dml, into⟩
    | plan explain plain =>
      rw [lib.classify_explain explain, plain]
      rfl
    | analyze explain analyzes _ ih =>
      rw [lib.classify_explain explain, analyzes]
      exact ih
  · intro read
    generalize length : text.length = n
    induction n using Nat.strongRecOn generalizing text with
    | _ n ih =>
      by_cases nonempty : strip text = []
      · rw [lib.classify_blank nonempty] at read
        cases read
      cases explain : lib.explainKeyword (strip text) with
      | none =>
        rw [lib.classify_other nonempty explain] at read
        cases parsed : lib.parse (strip text) with
        | none =>
          rw [parsed] at read
          cases read
        | some stmt =>
          rw [parsed] at read
          obtain ⟨type, dml, into⟩ := Library.classifyParsed_read_iff.1 read
          exact .select nonempty explain parsed type dml into
      | some rest =>
        have isExplain : (lib.explainKeyword (strip text)).isSome = true := by
          rw [explain]
          rfl
        rw [lib.classify_explain isExplain] at read
        cases analyzes : (lib.explainHeader (strip text)).1 with
        | false => exact .plan isExplain analyzes
        | true =>
          rw [analyzes] at read
          have shorter := lib.header_shorter analyzes
          have short := strip_length text
          exact .analyze isExplain analyzes (ih _ (by omega) read rfl)

/-! ## The header of an EXPLAIN that is run -/

/-- The letters of EXPLAIN in front of a keyword are the keyword EXPLAIN. -/
theorem lex_explain {keywords : List String} {text rest : List Char}
    (matched : matchLetters explainLetters text = some rest)
    (starts : StartsWith keywords (lex text)) (ascii : ∀ k ∈ keywords, Ascii k.toList)
    (only : ∀ k ∈ keywords, "explain".toList <+: k.toList → k = "explain") :
    "explain" ∈ keywords ∧ lex text = keyword "explain" :: lex rest ∧
      rest.head?.all (fun c => !identChar c) = true := by
  rcases starts with paren | ⟨k, mem, head⟩
  · obtain ⟨w, rfl, each⟩ := matchLetters_some.1 matched
    rw [lex_letters identStart_of_explainLetters (by decide +kernel) each] at paren
    cases paren
  · obtain rfl := only k mem (explain_opens matched head (ascii k mem))
    exact ⟨mem, lex_keyword identStart_of_explainLetters (by decide +kernel) matched head (by decide +kernel)⟩

theorem matchLetters_of_explainKeyword {lib : Library} {text rest : List Char}
    (h : lib.explainKeyword text = some rest) :
    matchLetters explainLetters (text.dropWhile isSpace) = some rest :=
  (Option.filter_eq_some_iff.1 h).1

/-- A statement that the library takes for a SELECT without data-modifying keywords modifies nothing. -/
theorem not_modifies_of_select {lib : Library} {server : PostgreSQL} {text : List Char} {stmt : Parsed}
    (agrees : Agrees lib text) (one : OneStatement (lex text)) (parsed : lib.parse text = some stmt)
    (type : stmt.type = "SELECT")
    (dml : ∀ t ∈ stmt.tokens, t.ttype = .dml ∨ t.ttype = .ddl → t.upper = "SELECT")
    (into : ∀ t ∈ stmt.tokens, t.ttype = .keyword → t.upper ≠ "INTO") :
    ¬ server.modifies (lex text) := by
  intro modifies
  obtain ⟨k, writes, mem⟩ := server.query one (agrees.select stmt parsed type) modifies
  have reported : ∀ k ∈ writingKeywords,
      k = "into" ∨ ∃ entry ∈ dmlKeywords, entry.1 = k ∧ entry.2 ≠ "SELECT" := by decide
  rcases reported k writes with rfl | ⟨entry, known, rfl, other⟩
  · obtain ⟨t, found, ttype, upper⟩ := agrees.into stmt parsed mem
    exact into t found ttype upper
  · obtain ⟨t, found, ttype, upper⟩ := agrees.dml stmt parsed entry known mem
    apply other
    rw [← upper]
    exact dml t found (.inl ttype)

/-- What is left of a statement after a token does not pass for a read when it starts with a keyword
other than EXPLAIN and modifies if it is a query. -/
theorem not_passes {lib : Library} {server : PostgreSQL} {keywords : List String}
    {raw text : List Char} (one : OneStatement (lex (strip raw)))
    (agrees : ∀ text, EndsAtToken (strip raw) text → Agrees lib text)
    (ends : EndsAtToken (strip raw) text) (starts : StartsWith keywords (lex text))
    (ascii : ∀ k ∈ keywords, Ascii k.toList)
    (noExplain : ∀ k ∈ keywords, ¬ "explain".toList <+: k.toList)
    (query : IsQuery (lex text) → server.modifies (lex text)) : ¬ PassesForRead lib text := by
  obtain ⟨ending, tokens⟩ := ends
  have stripped : strip text = text.dropWhile isSpace := strip_of_suffix ending
  have same : lex (strip text) = lex text := by rw [stripped, lex_dropSpace ascii starts]
  have noKeyword : lib.explainKeyword (strip text) = none := by
    rw [Option.eq_none_iff_forall_ne_some]
    intro rest explain
    have matched := matchLetters_of_explainKeyword explain
    rw [dropWhile_strip] at matched
    rw [← same] at starts
    obtain ⟨mem, _⟩ := lex_explain matched starts ascii fun k mem pre => absurd pre (noExplain k mem)
    exact noExplain _ mem (List.prefix_refl _)
  intro passes
  cases passes with
  | select nonempty other parsed type dml into =>
    have agree : Agrees lib (strip text) := by
      apply agrees
      refine ⟨?_, ?_⟩
      · rw [stripped]
        exact (List.dropWhile_suffix _).trans ending
      · rw [same]
        exact tokens
    have one' : OneStatement (lex (strip text)) := by
      obtain ⟨front, whole⟩ := tokens
      intro mem
      apply one
      rw [same] at mem
      rw [← whole, List.dropLast_append_of_ne_nil (by rintro none; rw [none] at mem; cases mem)]
      exact List.mem_append_right _ mem
    have harmless : ¬ server.modifies (lex (strip text)) :=
      not_modifies_of_select agree one' parsed type dml into
    have isQuery := agree.select _ parsed type
    rw [same] at harmless isQuery
    exact harmless (query isQuery)
  | plan explain | analyze explain =>
    rw [noKeyword] at explain
    cases explain

theorem commandKeywords_texts : ∀ k ∈ commandKeywords,
    Ascii k.toList ∧ ("explain".toList <+: k.toList → k = "explain") := by decide +kernel

theorem explainable_isCommand : ∀ k ∈ explainableKeywords, k ∈ commandKeywords ∧ k ≠ "explain" := by decide

theorem explainable_keywords (k : String) (mem : k ∈ explainableKeywords) :
    Ascii k.toList ∧ ¬ "explain".toList <+: k.toList := by
  obtain ⟨command, other⟩ := explainable_isCommand k mem
  obtain ⟨ascii, explain⟩ := commandKeywords_texts k command
  exact ⟨ascii, fun pre => other (explain pre)⟩

/-- A statement that EXPLAIN runs does not pass for a read where it starts at the end of a token. -/
theorem inner_not_passes {lib : Library} {server : PostgreSQL} {raw text : List Char}
    (one : OneStatement (lex (strip raw)))
    (agrees : ∀ text, EndsAtToken (strip raw) text → Agrees lib text)
    (ends : EndsAtToken (strip raw) text) (starts : StartsWith explainableKeywords (lex text))
    (modifies : server.modifies (lex text)) : ¬ PassesForRead lib text :=
  not_passes one agrees ends starts (fun k mem => (explainable_keywords k mem).1)
    (fun k mem => (explainable_keywords k mem).2) fun _ => modifies

/-- An EXPLAIN passes for a read when its header does not analyze or what follows passes. -/
theorem passes_explain {lib : Library} {text : List Char}
    (explain : (lib.explainKeyword (strip text)).isSome = true) : PassesForRead lib text ↔
      ((lib.explainHeader (strip text)).1 = true →
        PassesForRead lib (lib.explainHeader (strip text)).2) := by
  constructor
  · intro passes analyzes
    cases passes with
    | select nonempty other =>
      rw [other] at explain
      cases explain
    | plan _ plain =>
      rw [plain] at analyzes
      cases analyzes
    | analyze _ _ remainder => exact remainder
  · intro remainder
    cases analyzes : (lib.explainHeader (strip text)).1 with
    | false => exact .plan explain analyzes
    | true => exact .analyze explain analyzes (remainder analyzes)

/-- The statement behind an option list that ends where the pattern's does. -/
theorem Executed.inner_of_list {options remainder inner : List Token}
    (closed : .symbol ')' ∉ options)
    (executed : Executed (.symbol '(' :: (options ++ .symbol ')' :: remainder)) inner) :
    inner = remainder := by
  generalize whole : Token.symbol '(' :: (options ++ .symbol ')' :: remainder) = tokens at executed
  cases executed with
  | bare h | verbose h => cases whole
  | options closed' =>
    have behind : ∀ {front back : List Token}, .symbol ')' ∉ front →
        (front ++ .symbol ')' :: back).dropWhile (· ≠ .symbol ')') = .symbol ')' :: back := by
      intro front back free
      rw [List.dropWhile_append_of_pos, List.dropWhile_cons_of_neg (by simp)]
      rintro t mem
      rw [decide_eq_true_eq]
      rintro rfl
      exact free mem
    have same := congrArg (List.dropWhile (· ≠ .symbol ')')) (List.cons.inj whole).2
    rw [behind closed, behind closed'] at same
    exact (List.cons.inj same).2.symm

/-- The statement behind ANALYZE without a list. -/
theorem Executed.inner_of_word {k : String} {tokens inner : List Token}
    (executed : Executed (keyword k :: tokens) inner) :
    inner = tokens ∨ tokens = keyword "verbose" :: inner := by
  generalize whole : keyword k :: tokens = all at executed
  cases executed with
  | bare h => exact .inl (List.cons.inj whole).2.symm
  | verbose h => exact .inr (List.cons.inj whole).2
  | options closed => cases whole

/-- What is left after ANALYZE without a list does not pass for a read. -/
theorem analyzed_not_passes {lib : Library} {server : PostgreSQL} {raw rest remainder : List Char}
    {inner : List Token} (one : OneStatement (lex (strip raw)))
    (agrees : ∀ text, EndsAtToken (strip raw) text → Agrees lib text)
    (lexed : lex (strip raw) = keyword "explain" :: lex rest) (ending : rest <:+ strip raw)
    (executed : Executed (lex rest) inner) (starts : StartsWith explainableKeywords inner)
    (modifies : server.modifies inner)
    (matched : matchLetters analyzeLetters (rest.dropWhile isSpace) = some remainder) :
    ¬ PassesForRead lib remainder := by
  have same : lex (rest.dropWhile isSpace) = lex rest :=
    lex_dropSpace ascii_analyze executed.startsWith
  have letters : lex rest = keyword "analyze" :: lex remainder ∨
      lex rest = keyword "analyse" :: lex remainder := by
    have front := executed.startsWith
    rw [← same] at front ⊢
    rcases front with paren | ⟨k, mem, head⟩
    · obtain ⟨w, whole, each⟩ := matchLetters_some.1 matched
      rw [whole, lex_letters identStart_of_analyzeLetters (by decide) each] at paren
      cases paren
    · rcases List.mem_pair.1 mem with rfl | rfl
      · exact .inl (lex_keyword identStart_of_analyzeLetters (by decide) matched head (by decide)).1
      · exact .inr (lex_keyword identStart_of_analyzeLetters (by decide) matched head (by decide)).1
  have ends : EndsAtToken (strip raw) remainder := by
    constructor
    · obtain ⟨w, whole, -⟩ := matchLetters_some.1 matched
      exact (List.suffix_append w remainder).trans
        (whole ▸ (List.dropWhile_suffix _).trans ending)
    · rw [lexed]
      rcases letters with letters | letters <;>
      · rw [letters]
        exact (List.suffix_cons _ _).trans (List.suffix_cons _ _)
  have after : inner = lex remainder ∨ lex remainder = keyword "verbose" :: inner := by
    rcases letters with letters | letters <;>
    · rw [letters] at executed
      exact executed.inner_of_word
  rcases after with rfl | verbose
  · exact inner_not_passes one agrees ends starts modifies
  · have noQuery : IsQuery (lex remainder) → server.modifies (lex remainder) := by
      rintro ⟨k, mem, head⟩
      rw [verbose] at head
      have other : ∀ k ∈ ["select", "with"], keyword "verbose" ≠ keyword k := by decide
      exact absurd (Option.some.inj head) (other k mem)
    have front : StartsWith ["verbose"] (lex remainder) := by
      rw [verbose]
      exact .inr ⟨_, List.mem_cons_self, rfl⟩
    exact not_passes one agrees ends front (by decide) (by decide) noQuery

/-- Where the option list and what follows it stand. -/
theorem explainParenOptions_some {text rest options remainder : List Char}
    (matched : matchLetters explainLetters (text.dropWhile isSpace) = some rest)
    (h : explainParenOptions text = some (options, remainder)) :
    ∃ body, rest.dropWhile isSpace = '(' :: body ∧ remainder <:+ body := by
  rw [explainParenOptions, matched, Option.bind_some] at h
  split at h
  · rename_i body paren
    split at h
    · cases h
      exact ⟨body, paren, (List.tail_suffix _).trans (List.dropWhile_suffix _)⟩
    · cases h
  · cases h

theorem explainBareAnalyze_some {lib : Library} {text rest remainder : List Char}
    (matched : matchLetters explainLetters (text.dropWhile isSpace) = some rest)
    (h : lib.explainBareAnalyze text = some remainder) :
    matchLetters analyzeLetters (rest.dropWhile isSpace) = some remainder := by
  rw [Library.explainBareAnalyze, matched, Option.bind_some] at h
  split at h
  · exact (Option.filter_eq_some_iff.1 h).1
  · cases h

/-- A statement that modifies and passes for a read has a header that hides it. -/
theorem hidden_of_passes {lib : Library} {server : PostgreSQL} {raw : List Char}
    (one : OneStatement (lex (strip raw)))
    (agrees : ∀ text, EndsAtToken (strip raw) text → Agrees lib text)
    (modifies : server.modifies (lex (strip raw))) (passes : PassesForRead lib (strip raw)) :
    Hidden lib (strip raw) := by
  cases explain : lib.explainKeyword (strip raw) with
  | none =>
    have whole : EndsAtToken (strip raw) (strip raw) := ⟨List.suffix_refl _, List.suffix_refl _⟩
    cases passes with
    | select nonempty other parsed type dml into =>
      rw [strip_strip] at parsed
      exact absurd modifies (not_modifies_of_select (agrees _ whole) one parsed type dml into)
    | plan isExplain | analyze isExplain =>
      rw [strip_strip, explain] at isExplain
      cases isExplain
  | some rest =>
    have found := matchLetters_of_explainKeyword explain
    have matched := found
    rw [dropWhile_strip] at matched
    obtain ⟨-, lexed, stops⟩ := lex_explain matched (server.command one modifies)
      (fun k mem => (commandKeywords_texts k mem).1) fun k mem => (commandKeywords_texts k mem).2
    have ending : rest <:+ strip raw := by
      obtain ⟨w, whole, -⟩ := matchLetters_some.1 matched
      exact ⟨w, whole.symm⟩
    rw [lexed] at modifies
    obtain ⟨inner, executed, starts, writes⟩ := server.explain (lexed ▸ one) modifies
    have isExplain : (lib.explainKeyword (strip (strip raw))).isSome = true := by
      rw [strip_strip, explain]
      rfl
    have remainder := (passes_explain isExplain).1 passes
    rw [strip_strip, Library.explainHeader] at remainder
    cases list : explainParenOptions (strip raw) with
    | some found =>
      obtain ⟨options, remaining⟩ := found
      rw [list] at remainder
      cases named : lib.analyzeWord options with
      | false => exact .unnamed explain list named
      | true =>
        by_cases ends : ListEnds (strip raw) remaining
        · obtain ⟨tokens, whole, closed⟩ := ends
          have behind := whole
          rw [lexed, List.cons.injEq] at behind
          rw [behind.2] at executed
          obtain rfl := executed.inner_of_list closed
          have ends : EndsAtToken (strip raw) remaining := by
            obtain ⟨body, paren, suffix⟩ := explainParenOptions_some found list
            have inside : body <:+ rest := by
              refine List.IsSuffix.trans ?_ (List.dropWhile_suffix isSpace)
              rw [paren]
              exact List.suffix_cons _ _
            refine ⟨suffix.trans (inside.trans ending), ?_⟩
            rw [whole]
            exact ((List.suffix_cons _ _).trans (List.suffix_append _ _)).trans
              ((List.suffix_cons _ _).trans (List.suffix_cons _ _))
          exact absurd (remainder named) (inner_not_passes one agrees ends starts writes)
        · exact .cut explain list ends (remainder named)
    | none =>
      rw [list] at remainder
      cases bare : lib.explainBareAnalyze (strip raw) with
      | some remaining =>
        rw [bare] at remainder
        exact absurd (remainder rfl) (analyzed_not_passes one agrees lexed ending executed starts
          writes (explainBareAnalyze_some found bare))
      | none =>
        rcases executed_header lib stops executed with opens | ⟨body, paren, closes⟩ | bareAnalyze
        · exact .comment explain opens
        · rw [explainParenOptions, found, Option.bind_some, paren] at list
          simp [closes] at list
        · obtain ⟨blank, remaining, ends, letters⟩ := bareAnalyze
          rw [Library.explainBareAnalyze, found, Option.bind_some, if_pos blank, letters] at bare
          simp [ends] at bare

/-- A header that hides a statement passes for a read. -/
theorem passes_of_hidden {lib : Library} {raw : List Char} (hidden : Hidden lib (strip raw)) :
    PassesForRead lib (strip raw) := by
  have isExplain : ∀ {rest}, lib.explainKeyword (strip raw) = some rest →
      (lib.explainKeyword (strip (strip raw))).isSome = true := by
    intro rest explain
    rw [strip_strip, explain]
    rfl
  cases hidden with
  | @comment rest explain opens =>
    rw [passes_explain (isExplain explain), strip_strip]
    have found := matchLetters_of_explainKeyword explain
    -- after the blanks stands a sign, which neither pattern takes
    have sign : ∃ c s, rest.dropWhile isSpace = c :: s ∧ (c = '-' ∨ c = '/') := by
      rcases opens with ⟨s, line⟩ | ⟨s, block⟩
      · exact ⟨_, _, dropWhile_isSpace_of_pgSpace line.symm (by decide +kernel), .inl rfl⟩
      · exact ⟨_, _, dropWhile_isSpace_of_pgSpace block.symm (by decide +kernel), .inr rfl⟩
    obtain ⟨c, s, text, sign⟩ := sign
    have noLetter : ∀ s, matchLetters analyzeLetters (c :: s) = none := by
      intro s
      rcases sign with rfl | rfl <;> rfl
    have noList : explainParenOptions (strip raw) = none := by
      rw [explainParenOptions, found, Option.bind_some, text]
      rcases sign with rfl | rfl <;> rfl
    have noAnalyze : lib.explainBareAnalyze (strip raw) = none := by
      rw [Library.explainBareAnalyze, found, Option.bind_some, text, noLetter]
      exact ite_self none
    intro analyzes
    rw [Library.explainHeader, noList, noAnalyze] at analyzes
    cases analyzes
  | unnamed explain list unnamed =>
    rw [passes_explain (isExplain explain), strip_strip, Library.explainHeader, list]
    intro analyzes
    have named : lib.analyzeWord _ = true := analyzes
    rw [unnamed] at named
    cases named
  | cut explain list ends passes =>
    rw [passes_explain (isExplain explain), strip_strip, Library.explainHeader, list]
    exact fun _ => passes

/-- A submission keeps the soft boundary exactly when no statement of it that modifies has a header that
hides it. -/
theorem soft_boundary_iff {lib : Library} (server : PostgreSQL) {sql : List Char}
    (faithful : Faithful lib sql) : SoftBoundary lib server sql ↔
      ∀ stmt ∈ lib.splitStatements sql, server.modifies (lex stmt) → ¬ Hidden lib stmt := by
  have stripped : ∀ stmt ∈ lib.splitStatements sql, ∃ raw, stmt = strip raw := by
    intro stmt mem
    obtain ⟨raw, -, rfl⟩ := List.mem_map.1 (List.mem_filter.1 mem).1
    exact ⟨raw, rfl⟩
  constructor
  · intro boundary stmt mem modifies hidden
    obtain ⟨raw, rfl⟩ := stripped stmt mem
    have passes := passes_of_hidden hidden
    have head : (lex (strip raw)).head? = some (keyword "explain") := by
      have explain : ∃ rest, lib.explainKeyword (strip raw) = some rest := by
        cases hidden with
        | comment explain | unnamed explain | cut explain => exact ⟨_, explain⟩
      obtain ⟨rest, explain⟩ := explain
      have found := matchLetters_of_explainKeyword explain
      rw [dropWhile_strip] at found
      obtain ⟨-, lexed, -⟩ := lex_explain found (server.command (faithful.one _ mem) modifies)
        (fun k mem => (commandKeywords_texts k mem).1) fun k mem => (commandKeywords_texts k mem).2
      rw [lexed]
      rfl
    exact boundary.explain _ mem head modifies (passesForRead_iff.1 passes)
  · intro unhidden
    have notRead : ∀ stmt ∈ lib.splitStatements sql, server.modifies (lex stmt) →
        lib.classifyStatement stmt ≠ .read := by
      intro stmt mem modifies read
      have passes := passesForRead_iff.2 read
      obtain ⟨raw, rfl⟩ := stripped stmt mem
      exact unhidden _ mem modifies
        (hidden_of_passes (faithful.one _ mem) (faithful.agrees _ mem) modifies passes)
    constructor
    · intro quiet stmt mem modifies
      apply notRead stmt mem modifies
      have each := List.any_eq_false.1 quiet _ (List.mem_map_of_mem mem)
      simpa using each
    · exact fun stmt mem _ modifies => notRead stmt mem modifies

/-! ## A library and a server -/

/-- The type of a statement, by its first word. -/
def statementTypes : List (String × String) := ("select", "SELECT") :: dmlKeywords

/-- A library that reads a single statement with PostgreSQL's lexer. -/
def byLexer : Library where
  split sql := [sql]
  parse text := some {
    type := ((statementTypes.find? fun k => (lex text).head? = some (keyword k.1)).map (·.2)).getD
      "UNKNOWN"
    tokens :=
      ((statementTypes.filter fun k => keyword k.1 ∈ lex text).map fun k => ⟨.dml, k.2⟩) ++
        if keyword "into" ∈ lex text then [⟨.keyword, "INTO"⟩] else [] }
  isAlnum _ := false

theorem byLexer_agrees (text : List Char) : Agrees byLexer text where
  select := by
    rintro _ ⟨⟩ type
    cases found : statementTypes.find? fun k => (lex text).head? = some (keyword k.1) with
    | none =>
      simp only [found] at type
      exact absurd type (by decide)
    | some k =>
      simp only [found] at type
      have head := List.find?_some found
      have mem := List.mem_of_find?_eq_some found
      have only : ∀ k ∈ statementTypes, k.2 = "SELECT" → k.1 = "select" := by decide
      rw [only k mem type] at head
      exact ⟨"select", List.mem_cons_self, by simpa using head⟩
  dml := by
    rintro _ ⟨⟩ k known mem
    refine ⟨⟨.dml, k.2⟩, List.mem_append_left _ (List.mem_map.2 ⟨k, ?_, rfl⟩), rfl, rfl⟩
    exact List.mem_filter.2 ⟨List.mem_cons_of_mem _ known, by simpa using mem⟩
  into := by
    rintro _ ⟨⟩ mem
    refine ⟨⟨.keyword, "INTO"⟩, List.mem_append_right _ ?_, rfl, rfl⟩
    rw [if_pos mem]
    exact List.mem_singleton_self _

theorem byLexer_faithful {sql : List Char}
    (one : ∀ stmt ∈ byLexer.splitStatements sql, OneStatement (lex stmt)) : Faithful byLexer sql where
  one := one
  agrees _ _ text _ := byLexer_agrees text

def deleteOrders : List Token := [keyword "delete", keyword "from", keyword "sales_order"]

/-- A server on which the one statement that modifies deletes the sales orders. -/
def orderServer : PostgreSQL where
  modifies tokens :=
    tokens = deleteOrders ∨ tokens = keyword "explain" :: keyword "analyze" :: deleteOrders
  command := by
    rintro _ - (rfl | rfl)
    · exact .inr ⟨"delete", by decide, rfl⟩
    · exact .inr ⟨"explain", by decide, rfl⟩
  query := by
    rintro _ - ⟨k, mem, head⟩ (rfl | rfl)
    · exact absurd (Option.some.inj head) (by revert k; decide)
    · exact absurd (Option.some.inj head) (by revert k; decide)
  explain := by
    rintro rest - (same | same)
    · exact absurd (List.cons.inj same).1 (by decide)
    · rw [(List.cons.inj same).2]
      exact ⟨deleteOrders, .bare (.inl rfl), .inr ⟨"delete", by decide, rfl⟩, .inl rfl⟩

/-- The boundary holds for an EXPLAIN without a comment. -/
theorem soft_boundary_iff_plainHeader :
    SoftBoundary byLexer orderServer "EXPLAIN ANALYZE DELETE FROM sales_order".toList ↔
      ∀ stmt ∈ byLexer.splitStatements "EXPLAIN ANALYZE DELETE FROM sales_order".toList,
        orderServer.modifies (lex stmt) → ¬ Hidden byLexer stmt :=
  soft_boundary_iff orderServer (byLexer_faithful (by decide +kernel))

/-- With a comment after EXPLAIN the orders are deleted without confirmation. -/
theorem soft_boundary_missed : ¬ ∀ (lib : Library) (server : PostgreSQL) (sql : List Char),
    Faithful lib sql → SoftBoundary lib server sql := by
  intro boundary
  have faithful : Faithful byLexer "EXPLAIN /* plan */ ANALYZE DELETE FROM sales_order".toList :=
    byLexer_faithful (by decide +kernel)
  have safe := (boundary byLexer orderServer _ faithful).safe
  apply safe (by decide +kernel) "EXPLAIN /* plan */ ANALYZE DELETE FROM sales_order".toList
    (by decide +kernel)
  right
  decide +kernel

end MeadowOps.Query
