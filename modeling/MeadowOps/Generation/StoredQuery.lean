import MeadowOps.Generation.Checks
import MeadowOps.Query.SoftBoundary
import MeadowOps.Query.Tails

/-!
# The stored expected query

`normalize_expected_query` classifies a statement with its comments and may store it without them.
-/

namespace MeadowOps.Generation

open Lib Query Scenarios

/-- A statement without the semicolons at its end. -/
def bare (s : List Char) : List Char := rstrip (s.rdropWhile (· = ';'))

namespace SqlParse
variable (sql : SqlParse)

/-- The statement without its comments. -/
def commentFree (s : List Char) : List Char := strip (sql.stripComments s)

/-- `s` is the read that `normalize_expected_query` finds in `value`. -/
structure Accepts (value s : List Char) : Prop where
  short : value.length ≤ maxExpectedQueryChars
  only : sql.statements value = .ok [s]
  read : sql.classify s = .ok .read

/-- What is stored of it. -/
def storedText (s : List Char) : List Char :=
  if (sql.commentFree s).getLast? = some ';' then rstrip (sql.commentFree s).dropLast else bare s

/-- What is stored is one read, and is stored as it is when it is validated again. -/
def StoredAsRead (value : List Char) : Prop :=
  ∀ q, sql.normalizeExpectedQuery value = .ok q → q ≠ [] →
    (sql.splitStatements q).length = 1 ∧ sql.classify q = .ok .read ∧
      sql.normalizeExpectedQuery q = .ok q

/-- The header of an EXPLAIN holds a comment: after the word, or in the option list, where any character but
those of words, blanks and commas may open one or a quotation. -/
def HeaderMarks (text : List Char) : Prop :=
  (∃ rest, sql.explainKeyword text = some rest ∧ ∃ c ∈ (rest.dropWhile isSpace).head?, c ∈ ['-', '/', '#']) ∨
    ∃ options remainder, explainParenOptions text = some (options, remainder) ∧
      ∃ c ∈ options, (sql.isWord c || isSpace c || c = ',') = false

/-- A comment in a header, possibly behind headers that have none, takes a statement that is run out of the
classifier's sight: without comments the header has ANALYZE, and what it leaves does not pass for a read. -/
inductive Disguised : List Char → Prop
  | here {text : List Char} (explain : (sql.explainKeyword (strip text)).isSome)
      (marks : sql.HeaderMarks (strip text)) (analyzes : (sql.explainHeader (sql.commentFree text)).1 = true)
      (run : PassesForRead sql.toLibrary (sql.explainHeader (sql.commentFree text)).2 →
        (sql.parsedText ((sql.explainHeader (sql.commentFree text)).2.length + 1)
          (sql.explainHeader (sql.commentFree text)).2).any sql.parseRaises = true) : Disguised text
  | behind {text : List Char} (explain : (sql.explainKeyword (strip text)).isSome)
      (plain : ¬ sql.HeaderMarks (strip text)) (analyzes : (sql.explainHeader (strip text)).1 = true)
      (inner : Disguised (sql.explainHeader (strip text)).2) : Disguised text

/-- No comment of the statement disguises what an EXPLAIN runs, and none hides a semicolon from the end. -/
structure ReadsWithout (s : List Char) : Prop where
  comments : (sql.commentFree s).getLast? = some ';' →
    ¬ sql.Disguised s ∧ (rstrip (sql.commentFree s).dropLast).getLast? ≠ some ';'
  semicolons : (sql.commentFree s).getLast? ≠ some ';' → (bare s).getLast? ≠ some ';'

/-- What `sqlparse` does: it splits a text into single statements, comments give way to blanks, the semicolons
that end a statement, or its last comment, can be left out, and what it reports of a statement, or of the end of
one, does not hang on comments. -/
structure Documented : Prop where
  split : ∀ v, ∀ s ∈ sql.splitStatements v, s.length ≤ v.length ∧ sql.splitStatements s = [s]
  comments : ∀ s, sql.splitStatements s = [s] → sql.commentFree s ≠ [] → sql.commentFree s ≠ [';'] →
    sql.splitStatements (sql.commentFree s) = [sql.commentFree s] ∧
      (sql.commentFree s).length ≤ s.length ∧ sql.commentFree (sql.commentFree s) = sql.commentFree s ∧
      (sql.formatRaises s = false → sql.formatRaises (sql.commentFree s) = false)
  semicolons : ∀ s, sql.splitStatements s = [s] →
    sql.commentFree s = s ∨ (sql.commentFree s).getLast? ≠ some ';' →
    bare s ≠ [] → (bare s).getLast? ≠ some ';' →
    sql.splitStatements (bare s) = [bare s] ∧ sql.commentFree (bare s) = bare (sql.commentFree s) ∧
      (sql.formatRaises s = false → sql.splitRaises (bare s) = false ∧ sql.formatRaises (bare s) = false)
  parse : ∀ s tail, EndsText s → IsTail tail →
    (Library.classifyParsed (sql.parse (s ++ tail)) = .read ∧ sql.parseRaises (s ++ tail) = false ↔
      s ≠ [] ∧ Library.classifyParsed (sql.parse s) = .read ∧ sql.parseRaises s = false)
  words : sql.BlanksEndWords
  reports : ∀ s, sql.splitStatements s = [s] → ∀ text, text <:+ s →
    Library.classifyParsed (sql.parse (sql.commentFree text)) = Library.classifyParsed (sql.parse (strip text)) ∧
      (sql.parseRaises (strip text) = false → sql.parseRaises (sql.commentFree text) = false)
  explain : ∀ text, (sql.explainKeyword text).isSome → Library.classifyParsed (sql.parse text) ≠ .read
  keyword : ∀ s, sql.splitStatements s = [s] → ∀ text, text <:+ s → (sql.explainKeyword (strip text)).isSome →
    (sql.explainKeyword (sql.commentFree text)).isSome
  header : ∀ s, sql.splitStatements s = [s] → ∀ text, text <:+ s → (sql.explainKeyword (strip text)).isSome →
    ¬ sql.HeaderMarks (strip text) →
    (sql.explainHeader (sql.commentFree text)).1 = (sql.explainHeader (strip text)).1 ∧
      ((sql.explainHeader (strip text)).1 = true →
        strip (sql.explainHeader (sql.commentFree text)).2 = sql.commentFree (sql.explainHeader (strip text)).2)

/-! ## The classification -/

theorem parsedText_of_lt {n m : ℕ} {text : List Char} (hn : text.length < n) (hm : text.length < m) :
    sql.parsedText n text = sql.parsedText m text := by
  induction n generalizing m text with
  | zero => omega
  | succ n ih =>
    cases m with
    | zero => omega
    | succ m =>
      rw [parsedText, parsedText]
      dsimp only
      split
      · rfl
      split
      · split
        · rename_i analyzes
          have shorter := sql.header_shorter analyzes
          have short := strip_length text
          apply ih <;> omega
        · rfl
      · rfl

/-- What has been read. -/
theorem classify_eq_read_iff {text : List Char} : sql.classify text = .ok .read ↔
    (sql.parsedText (text.length + 1) text).any sql.parseRaises = false ∧
      sql.classifyStatement text = .read := by
  unfold classify
  split
  · rename_i raises
    rw [raises]
    exact ⟨nofun, nofun⟩
  · rename_i quiet
    rw [Bool.not_eq_true] at quiet
    exact ⟨fun h => ⟨quiet, Except.ok.inj h⟩, fun h => congrArg Except.ok h.2⟩

theorem reads_blank {text : List Char} (blank : strip text = []) : sql.classify text ≠ .ok .read := by
  rw [Ne, classify_eq_read_iff, sql.classify_blank blank]
  exact nofun

theorem reads_other {text : List Char} (nonempty : strip text ≠ []) (other : sql.explainKeyword (strip text) = none) :
    sql.classify text = .ok .read ↔
      Library.classifyParsed (sql.parse (strip text)) = .read ∧ sql.parseRaises (strip text) = false := by
  have parsed : sql.parsedText (text.length + 1) text = some (strip text) := by
    rw [parsedText, if_neg nonempty, other]
    rfl
  rw [classify_eq_read_iff, parsed, sql.classify_other nonempty other]
  exact and_comm

theorem reads_explain {text : List Char} (explain : (sql.explainKeyword (strip text)).isSome) :
    sql.classify text = .ok .read ↔ ((sql.explainHeader (strip text)).1 = true →
      sql.classify (sql.explainHeader (strip text)).2 = .ok .read) := by
  have nonempty : strip text ≠ [] := by
    intro empty
    rw [empty] at explain
    cases explain
  rw [classify_eq_read_iff, sql.classify_explain explain, parsedText, if_neg nonempty, if_pos explain]
  dsimp only
  split
  · rename_i analyzes
    have shorter := sql.header_shorter analyzes
    have short := strip_length text
    rw [classify_eq_read_iff, sql.parsedText_of_lt (by omega) (Nat.lt_succ_self _)]
    exact ⟨fun h _ => h, fun h => h analyzes⟩
  · rename_i plain
    exact ⟨fun _ analyzes => absurd analyzes plain, fun _ => ⟨rfl, rfl⟩⟩

variable {sql}

/-- No statement. -/
theorem Documented.not_reads_tail (doc : sql.Documented) {tail : List Char} (isTail : IsTail tail) :
    sql.classify tail ≠ .ok .read := by
  by_cases blank : strip tail = []
  · exact sql.reads_blank blank
  · have inner : IsTail (strip tail) := by
      intro c mem
      have front : c ∈ tail.dropWhile isSpace := (List.rdropWhile_prefix isSpace _).sublist.mem mem
      exact isTail c ((List.dropWhile_sublist _).mem front)
    have other : sql.explainKeyword (strip tail) = none := by
      have none := matchLetters_append inner (fun c tail => explainLetters_tail tail) []
      rw [List.nil_append] at none
      rw [Library.explainKeyword, dropWhile_strip, none]
      rfl
    intro reads
    have empty : EndsText [] := by simp [EndsText]
    have parsed := (doc.parse [] (strip tail) empty inner).1 ((sql.reads_other blank other).1 reads)
    exact parsed.1 rfl

/-- Semicolons and blanks at the end are not part of what is classified. -/
theorem Documented.classify_append (doc : sql.Documented) {s tail : List Char} (ends : EndsText s)
    (isTail : IsTail tail) : sql.classify (s ++ tail) = .ok .read ↔ sql.classify s = .ok .read := by
  induction length : s.length using Nat.strong_induction_on generalizing s tail with
  | _ n ih =>
    by_cases empty : s = []
    · rw [empty, List.nil_append]
      have blank : strip [] = [] := rfl
      exact iff_of_false (doc.not_reads_tail isTail) (sql.reads_blank blank)
    · have tail' : IsTail (tail.rdropWhile isSpace) :=
        fun c mem => isTail c ((List.rdropWhile_prefix isSpace tail).sublist.mem mem)
      have split := strip_append_tail ends empty tail
      have nonempty : strip s ≠ [] := by
        show (s.dropWhile isSpace).rdropWhile isSpace ≠ []
        rw [(ends.suffix (List.dropWhile_suffix _)).rdropWhile_eq]
        exact dropWhile_ne_nil ends empty
      have nonempty' : strip (s ++ tail) ≠ [] := by
        rw [split]
        exact List.append_ne_nil_of_left_ne_nil nonempty _
      have keyword := sql.explainKeyword_append doc.words (endsText_strip s) nonempty tail'
      have header := sql.explainHeader_append doc.words (endsText_strip s) nonempty tail'
      rw [← split] at keyword header
      cases explain : sql.explainKeyword (strip s) with
      | none =>
        rw [explain] at keyword
        rw [sql.reads_other nonempty explain, sql.reads_other nonempty' keyword, split,
          doc.parse _ _ (endsText_strip s) tail']
        exact and_iff_right nonempty
      | some rest =>
        rw [explain] at keyword
        have isExplain : (sql.explainKeyword (strip s)).isSome := by rw [explain]; rfl
        have isExplain' : (sql.explainKeyword (strip (s ++ tail))).isSome := by rw [keyword]; rfl
        rw [sql.reads_explain isExplain, sql.reads_explain isExplain', header.1]
        refine imp_congr_right fun analyzes => ?_
        obtain ⟨remainder, part⟩ := header.2 analyzes
        have shorter := sql.header_shorter analyzes
        have short := strip_length s
        rw [remainder]
        exact ih _ (by omega) ((endsText_strip s).suffix part) tail' rfl

/-! ## Without the comments -/

theorem noTail : IsTail [] := fun _ mem => nomatch mem

theorem reads_strip (text : List Char) : sql.classify (strip text) = .ok .read ↔ sql.classify text = .ok .read := by
  by_cases blank : strip text = []
  · exact iff_of_false (sql.reads_blank (by rw [strip_strip, blank])) (sql.reads_blank blank)
  cases explain : sql.explainKeyword (strip text) with
  | none =>
    have again : strip (strip text) ≠ [] := by rwa [strip_strip]
    have none' : sql.explainKeyword (strip (strip text)) = none := by rwa [strip_strip]
    rw [sql.reads_other blank explain, sql.reads_other again none', strip_strip]
  | some rest =>
    have isExplain : (sql.explainKeyword (strip text)).isSome := by rw [explain]; rfl
    have again : (sql.explainKeyword (strip (strip text))).isSome := by rwa [strip_strip]
    rw [sql.reads_explain isExplain, sql.reads_explain again, strip_strip]

/-- What does not pass for a read, or is too deep for the parser, is not read. -/
theorem not_reads_iff {text : List Char} : ¬ sql.classify text = .ok .read ↔
    (PassesForRead sql.toLibrary text →
      (sql.parsedText (text.length + 1) text).any sql.parseRaises = true) := by
  rw [classify_eq_read_iff, ← passesForRead_iff, not_and', Bool.not_eq_false]

/-- Without its comments a text that is read is read, unless it is disguised. -/
theorem Documented.reads_commentFree (doc : sql.Documented) {s : List Char} (single : sql.splitStatements s = [s])
    (ends : EndsText s) {text : List Char} (part : text <:+ s) (read : sql.classify text = .ok .read) :
    sql.classify (sql.commentFree text) = .ok .read ↔ ¬ sql.Disguised text := by
  induction length : text.length using Nat.strong_induction_on generalizing text with
  | _ n ih =>
    have nonempty : strip text ≠ [] := fun blank => sql.reads_blank blank read
    have same : strip (sql.commentFree text) = sql.commentFree text := strip_strip _
    cases explain : sql.explainKeyword (strip text) with
    | none =>
      -- the same report, and no report of an EXPLAIN is a read
      obtain ⟨parsed, quiet⟩ := doc.reports s single text part
      have reported := (sql.reads_other nonempty explain).1 read
      rw [← parsed] at reported
      have other : sql.explainKeyword (strip (sql.commentFree text)) = none := by
        rw [same, ← Option.not_isSome_iff_eq_none]
        exact fun found => doc.explain _ found reported.1
      have nonempty' : strip (sql.commentFree text) ≠ [] := by
        rw [same]
        intro empty
        have none := doc.parse [] [] (by simp [EndsText]) (fun _ mem => nomatch mem)
        rw [empty] at reported quiet
        exact (none.1 ⟨reported.1, quiet reported.2⟩).1 rfl
      refine iff_of_true ((sql.reads_other nonempty' other).2 ?_) ?_
      · rw [same]
        exact ⟨reported.1, quiet reported.2⟩
      · rintro (⟨found, -, -, -⟩ | ⟨found, -, -, -⟩) <;> rw [explain] at found <;> cases found
    | some rest =>
      have isExplain : (sql.explainKeyword (strip text)).isSome := by rw [explain]; rfl
      have isExplain' := doc.keyword s single text part isExplain
      rw [← same] at isExplain'
      rw [sql.reads_explain isExplain', same]
      by_cases marks : sql.HeaderMarks (strip text)
      · constructor
        · rintro reads (⟨-, -, analyzes, run⟩ | ⟨-, plain, -, -⟩)
          · exact sql.not_reads_iff.2 run (reads analyzes)
          · exact plain marks
        · intro honest analyzes
          by_contra runs
          exact honest (.here isExplain marks analyzes (sql.not_reads_iff.1 runs))
      · obtain ⟨flag, left⟩ := doc.header s single text part isExplain marks
        rw [flag]
        by_cases analyzes : (sql.explainHeader (strip text)).1 = true
        · have inner := (sql.reads_explain isExplain).1 read analyzes
          have remainder := ((sql.explainHeader_append doc.words (endsText_strip text) nonempty
            noTail).2 analyzes).2
          have shorter := sql.header_shorter analyzes
          have short := strip_length text
          have trimmed : strip text = text.dropWhile isSpace :=
            ((ends.suffix part).suffix (List.dropWhile_suffix _)).rdropWhile_eq
          have part' : (sql.explainHeader (strip text)).2 <:+ s :=
            remainder.trans (trimmed ▸ (List.dropWhile_suffix _).trans part)
          have step := ih _ (by omega) part' inner rfl
          rw [← left analyzes, sql.reads_strip] at step
          rw [forall_prop_of_true analyzes, step, not_iff_not]
          refine ⟨fun disguised => .behind isExplain marks analyzes disguised, ?_⟩
          rintro (⟨-, marked, -, -⟩ | ⟨-, -, -, inner⟩)
          · exact absurd marked marks
          · exact inner
        · refine iff_of_true (fun yes => absurd yes analyzes) ?_
          rintro (⟨-, marked, -, -⟩ | ⟨-, -, yes, -⟩)
          · exact marks marked
          · exact analyzes yes

/-! ## Cutting semicolons off -/

end SqlParse

theorem endsText_bare (s : List Char) : EndsText (bare s) := endsText_rdropWhile _

/-- Only semicolons and blanks are cut off. -/
theorem bare_append (s : List Char) : ∃ tail, IsTail tail ∧ s = bare s ++ tail := by
  refine ⟨(s.rdropWhile (· = ';')).rtakeWhile isSpace ++ s.rtakeWhile (· = ';'), ?_, ?_⟩
  · intro c mem
    rcases List.mem_append.1 mem with blank | semicolon
    · exact .inr (List.mem_rtakeWhile_imp blank)
    · exact .inl (by simpa using List.mem_rtakeWhile_imp semicolon)
  · rw [← List.append_assoc, bare, rstrip, List.rdropWhile_append_rtakeWhile, List.rdropWhile_append_rtakeWhile]

theorem bare_length (s : List Char) : (bare s).length ≤ s.length := by
  obtain ⟨tail, -, whole⟩ := bare_append s
  have length := congrArg List.length whole
  rw [List.length_append] at length
  omega

theorem bare_eq_self {s : List Char} (ends : EndsText s) (last : s.getLast? ≠ some ';') : bare s = s := by
  have noSemicolon : s.rdropWhile (· = ';') = s := by
    rw [List.rdropWhile_eq_self_iff]
    intro nonempty semicolon
    rw [List.getLast?_eq_some_getLast nonempty] at last
    exact last (congrArg some (of_decide_eq_true semicolon))
  rw [bare, noSemicolon, rstrip, ends.rdropWhile_eq]

/-- A statement that is not cut ends in no semicolon. -/
theorem getLast_of_bare {s : List Char} (same : bare s = s) : s.getLast? ≠ some ';' := by
  intro last
  obtain ⟨t, rfl⟩ := List.getLast?_eq_some_iff.1 last
  have shorter : (bare (t ++ [';'])).length ≤ t.length := by
    rw [bare, List.rdropWhile_concat_pos _ _ _ (by simp)]
    exact (List.rdropWhile_prefix _ _).length_le.trans (List.rdropWhile_prefix _ _).length_le
  rw [same, List.length_append, List.length_singleton] at shorter
  omega

/-- One semicolon cut off, when there is one only. -/
theorem rstrip_dropLast {s : List Char} (last : s.getLast? = some ';')
    (one : (rstrip s.dropLast).getLast? ≠ some ';') : rstrip s.dropLast = bare s := by
  obtain ⟨t, rfl⟩ := List.getLast?_eq_some_iff.1 last
  rw [List.dropLast_concat] at one ⊢
  have noSemicolon : t.getLast? ≠ some ';' := by
    intro another
    apply one
    obtain ⟨u, rfl⟩ := List.getLast?_eq_some_iff.1 another
    rw [rstrip, List.rdropWhile_concat_neg _ _ _ (by decide)]
    exact List.getLast?_concat
  have kept : t.rdropWhile (· = ';') = t := by
    rw [List.rdropWhile_eq_self_iff]
    intro nonempty semicolon
    rw [List.getLast?_eq_some_getLast nonempty] at noSemicolon
    exact noSemicolon (congrArg some (of_decide_eq_true semicolon))
  rw [bare, List.rdropWhile_concat_pos _ _ _ (by simp), kept]

namespace SqlParse
variable {sql : SqlParse}

theorem Documented.classify_bare (doc : sql.Documented) (s : List Char) :
    sql.classify s = .ok .read ↔ sql.classify (bare s) = .ok .read := by
  obtain ⟨tail, isTail, whole⟩ := bare_append s
  have cut := doc.classify_append (endsText_bare s) isTail
  rw [← whole] at cut
  exact cut

/-! ## The statement that is accepted -/

theorem isStatement_eq_true_iff {s : List Char} : sql.isStatement s = .ok true ↔ sql.formatRaises s = false ∧
    strip (((sql.commentFree s).dropWhile (· = ';')).rdropWhile (· = ';')) ≠ [] := by
  unfold isStatement format
  cases sql.formatRaises s with
  | true => exact ⟨nofun, nofun⟩
  | false =>
    refine ⟨fun h => ⟨rfl, of_decide_eq_true (Except.ok.inj h)⟩, fun h => ?_⟩
    exact congrArg Except.ok (decide_eq_true h.2)

theorem mem_filterM {ε α : Type} {f : α → Except ε Bool} {l l' : List α} (h : l.filterM f = .ok l') {a : α}
    (mem : a ∈ l') : a ∈ l ∧ f a = .ok true := by
  have loop : ∀ l acc l', List.filterAuxM f l acc = .ok l' → a ∈ l' → a ∈ acc ∨ a ∈ l ∧ f a = .ok true := by
    intro l
    induction l with
    | nil =>
      intro acc l' h mem
      obtain rfl := Except.ok.inj h
      exact .inl mem
    | cons b l ih =>
      intro acc l' h mem
      obtain ⟨keep, kept, h⟩ := ok_of_bind h
      rcases ih _ _ h mem with here | ⟨later, yes⟩
      · cases keep with
        | false => exact .inl here
        | true =>
          rcases List.mem_cons.1 here with rfl | here
          · exact .inr ⟨List.mem_cons_self, kept⟩
          · exact .inl here
      · exact .inr ⟨List.mem_cons_of_mem _ later, yes⟩
  obtain ⟨reversed, run, ends⟩ := ok_of_bind h
  obtain rfl := Except.ok.inj ends
  rcases loop l [] reversed run (List.mem_reverse.1 mem) with none | found
  · cases none
  · exact found

theorem mem_statements {value s : List Char} {statements : List (List Char)}
    (h : sql.statements value = .ok statements) (mem : s ∈ statements) :
    s ∈ sql.splitStatements value ∧ sql.isStatement s = .ok true := by
  unfold SqlParse.statements at h
  split at h
  · cases h
  · exact mem_filterM h mem

theorem statements_one {q : List Char} (quiet : sql.splitRaises q = false) (single : sql.splitStatements q = [q])
    (here : sql.isStatement q = .ok true) : sql.statements q = .ok [q] := by
  rw [SqlParse.statements, if_neg (by simp [quiet]), single, List.filterM, List.filterAuxM, here]
  rfl

/-- What is stored of the statement that is accepted. -/
theorem Accepts.normalize {value s : List Char} (accepts : sql.Accepts value s) (ends : EndsText s) :
    sql.normalizeExpectedQuery value = .ok (sql.storedText s) := by
  have quiet := (isStatement_eq_true_iff.1 (mem_statements accepts.only List.mem_cons_self).2).1
  have trimmed : rstrip s = s := ends.rdropWhile_eq
  unfold normalizeExpectedQuery
  rw [if_neg (not_lt.2 accepts.short), accepts.only]
  dsimp only [bind, Except.bind]
  rw [accepts.read]
  dsimp only
  rw [if_neg (fun no => no rfl), trimmed, format, quiet]
  unfold storedText
  show (if (sql.commentFree s).getLast? = some ';' then _ else _) = _
  split <;> rfl

theorem accepts_of_normalize {value q : List Char} (h : sql.normalizeExpectedQuery value = .ok q)
    (nonempty : q ≠ []) : ∃ s, sql.Accepts value s := by
  unfold normalizeExpectedQuery at h
  split at h
  · cases h
  · rename_i short
    obtain ⟨statements, only, h⟩ := ok_of_bind h
    split at h
    · cases h
      exact absurd rfl nonempty
    · obtain ⟨type, read, h⟩ := ok_of_bind h
      split at h
      · cases h
      · rename_i isRead
        rw [ne_eq, not_not] at isRead
        rw [isRead] at read
        exact ⟨_, not_lt.1 short, only, read⟩
    · cases h

theorem mem_splitStatements {value s : List Char} (mem : s ∈ sql.splitStatements value) :
    EndsText s ∧ s ≠ [] ∧ s ≠ [';'] := by
  obtain ⟨stripped, kept⟩ := List.mem_filter.1 mem
  obtain ⟨raw, -, rfl⟩ := List.mem_map.1 stripped
  simp only [Bool.and_eq_true, decide_eq_true_eq] at kept
  exact ⟨endsText_strip raw, kept⟩

/-- A text that ends in no semicolon is more than semicolons. -/
theorem isStatement_of_commentFree {q : List Char} (quiet : sql.formatRaises q = false)
    (nonempty : sql.commentFree q ≠ []) (last : (sql.commentFree q).getLast? ≠ some ';') :
    sql.isStatement q = .ok true := by
  refine isStatement_eq_true_iff.2 ⟨quiet, ?_⟩
  have part := List.dropWhile_suffix (· = ';') (l := sql.commentFree q)
  have ends : EndsText ((sql.commentFree q).dropWhile (· = ';')) := (endsText_strip _).suffix part
  have nonempty' : (sql.commentFree q).dropWhile (· = ';') ≠ [] := by
    intro all
    have semicolon := List.dropWhile_eq_nil_iff.1 all _ (List.getLast_mem nonempty)
    rw [List.getLast?_eq_some_getLast nonempty] at last
    exact last (congrArg some (of_decide_eq_true semicolon))
  have kept : ((sql.commentFree q).dropWhile (· = ';')).rdropWhile (· = ';') =
      (sql.commentFree q).dropWhile (· = ';') := by
    rw [List.rdropWhile_eq_self_iff]
    intro _ semicolon
    rw [part.getLast nonempty'] at semicolon
    rw [List.getLast?_eq_some_getLast nonempty] at last
    exact last (congrArg some (of_decide_eq_true semicolon))
  rw [kept]
  show (_ : List Char).rdropWhile isSpace ≠ []
  rw [(ends.suffix (List.dropWhile_suffix _)).rdropWhile_eq]
  exact dropWhile_ne_nil ends nonempty'

/-- A statement is more than a semicolon. -/
theorem commentFree_of_isStatement {s : List Char} (h : sql.isStatement s = .ok true) :
    sql.commentFree s ≠ [] ∧ sql.commentFree s ≠ [';'] := by
  have more := (isStatement_eq_true_iff.1 h).2
  constructor
  · intro empty
    rw [empty] at more
    exact more rfl
  · intro semicolon
    rw [semicolon] at more
    exact more (by decide)

/-- Before the semicolon of a statement there is a text. -/
theorem rstrip_dropLast_ne_nil {s : List Char} (h : sql.isStatement s = .ok true)
    (last : (sql.commentFree s).getLast? = some ';') : rstrip (sql.commentFree s).dropLast ≠ [] := by
  intro empty
  obtain ⟨t, whole⟩ := List.getLast?_eq_some_iff.1 last
  rw [whole, List.dropLast_concat] at empty
  have blank : ∀ c ∈ t, isSpace c = true := by simpa [rstrip] using empty
  have front : (sql.commentFree s).dropWhile isSpace = sql.commentFree s := dropWhile_strip _
  have semicolon : sql.commentFree s = [';'] := by
    rw [← front, whole, List.dropWhile_append_of_pos blank]
    rfl
  exact (commentFree_of_isStatement h).2 semicolon

/-- A statement without a semicolon at its end is stored as it is. -/
theorem normalize_self {q : List Char} (short : q.length ≤ maxExpectedQueryChars)
    (quiet : sql.splitRaises q = false ∧ sql.formatRaises q = false) (single : sql.splitStatements q = [q])
    (read : sql.classify q = .ok .read) (ends : EndsText q) (last : q.getLast? ≠ some ';')
    (free : sql.commentFree q ≠ []) (freeLast : (sql.commentFree q).getLast? ≠ some ';') :
    sql.normalizeExpectedQuery q = .ok q := by
  have accepts : sql.Accepts q q :=
    ⟨short, statements_one quiet.1 single (isStatement_of_commentFree quiet.2 free freeLast), read⟩
  rw [accepts.normalize ends, storedText, if_neg freeLast, bare_eq_self ends last]

/-- What is stored again as it is ends in no semicolon. -/
theorem Documented.getLast_of_normalize (doc : sql.Documented) {q : List Char} (nonempty : q ≠ [])
    (again : sql.normalizeExpectedQuery q = .ok q) : q.getLast? ≠ some ';' := by
  obtain ⟨s, accepts⟩ := accepts_of_normalize again nonempty
  obtain ⟨mem, statement⟩ := mem_statements accepts.only List.mem_cons_self
  obtain ⟨short, single⟩ := doc.split q s mem
  obtain ⟨free, notSemicolon⟩ := commentFree_of_isStatement statement
  have same := Except.ok.inj ((accepts.normalize (mem_splitStatements mem).1).symm.trans again)
  rw [storedText] at same
  split at same
  · -- a semicolon was cut off, so the text would be shorter
    have less := (doc.comments s single free notSemicolon).2.1
    have cut : (rstrip (sql.commentFree s).dropLast).length ≤ (sql.commentFree s).length - 1 := by
      rw [← List.length_dropLast]
      exact (List.rdropWhile_prefix _ _).length_le
    have pos := List.length_pos_of_ne_nil free
    rw [same] at cut
    omega
  · have shorter := bare_length s
    obtain ⟨tail, -, whole⟩ := bare_append s
    have length := congrArg List.length whole
    rw [List.length_append] at length
    rw [same] at shorter length whole
    have noTail : tail = [] := List.eq_nil_of_length_eq_zero (by omega)
    rw [noTail, List.append_nil] at whole
    rw [whole] at same
    exact getLast_of_bare same

end SqlParse

/-! ## A statement whose ANALYZE is hidden -/

def hiddenAnalyze : List Char := "EXPLAIN /* costs */ ANALYZE DELETE FROM product;".toList

/-- `sqlparse` on single statements; one of them has a comment. -/
def oneStatement : SqlParse where
  split v := if v = hiddenAnalyze ∨ '/' ∉ v then [v] else []
  parse s :=
    match s.head? with
    | some 'S' => some ⟨"SELECT", [⟨.dml, "SELECT"⟩]⟩
    | some 'D' => some ⟨"DELETE", [⟨.dml, "DELETE"⟩]⟩
    | _ => some ⟨"UNKNOWN", []⟩
  isAlnum _ := false
  stripComments s := if s = hiddenAnalyze then "EXPLAIN   ANALYZE DELETE FROM product;".toList else s
  splitRaises _ := false
  parseRaises _ := false
  formatRaises _ := false

theorem oneStatement_splitStatements {s : List Char} : oneStatement.splitStatements s = [s] ↔
    (s = hiddenAnalyze ∨ '/' ∉ s) ∧ strip s = s ∧ s ≠ [] ∧ s ≠ [';'] := by
  show (((if s = hiddenAnalyze ∨ '/' ∉ s then [s] else []).map strip).filter
    fun stmt => stmt ≠ [] && stmt ≠ [';']) = [s] ↔ _
  by_cases splits : s = hiddenAnalyze ∨ '/' ∉ s
  · rw [if_pos splits, List.map_singleton]
    constructor
    · intro single
      have mem : s ∈ [strip s].filter fun stmt => stmt ≠ [] && stmt ≠ [';'] := by
        rw [single]
        exact List.mem_cons_self
      obtain ⟨same, kept⟩ := List.mem_filter.1 mem
      exact ⟨splits, (List.mem_singleton.1 same).symm, by simpa using kept⟩
    · rintro ⟨-, same, kept⟩
      rw [same, List.filter_eq_self]
      simpa using kept
  · rw [if_neg splits]
    exact ⟨nofun, fun both => absurd both.1 splits⟩

theorem mem_oneStatement {v s : List Char} (mem : s ∈ oneStatement.splitStatements v) :
    (v = hiddenAnalyze ∨ '/' ∉ v) ∧ s = strip v ∧ s ≠ [] ∧ s ≠ [';'] := by
  obtain ⟨stripped, kept⟩ := List.mem_filter.1 mem
  obtain ⟨raw, found, rfl⟩ := List.mem_map.1 stripped
  change raw ∈ (if v = hiddenAnalyze ∨ '/' ∉ v then [v] else []) at found
  split at found
  · rename_i splits
    obtain rfl := List.mem_singleton.1 found
    exact ⟨splits, rfl, by simpa using kept⟩
  · cases found

theorem oneStatement_reads {s : List Char} :
    Library.classifyParsed (oneStatement.parse s) = .read ↔ s.head? = some 'S' := by
  constructor
  · intro read
    simp only [oneStatement] at read
    split at read
    · assumption
    · exact absurd read (by decide)
    · exact absurd read (by decide)
  · intro select
    simp only [oneStatement, select]
    rfl

theorem oneStatement_commentFree {s : List Char} (other : s ≠ hiddenAnalyze) :
    oneStatement.commentFree s = strip s := by
  show strip (if s = hiddenAnalyze then _ else s) = strip s
  rw [if_neg other]

/-- Nothing behind a header is the statement with the comment. -/
theorem behind_ne_hiddenAnalyze {s text : List Char} (plain : s = hiddenAnalyze ∨ '/' ∉ s) (part : text <:+ s)
    (analyzes : (oneStatement.explainHeader (strip text)).1 = true) :
    (oneStatement.explainHeader (strip text)).2 ≠ hiddenAnalyze := by
  intro hidden
  have shorter := oneStatement.header_shorter analyzes
  have short := strip_length text
  have less := part.length_le
  rcases plain with rfl | free
  · rw [hidden] at shorter
    omega
  · have nonempty : strip text ≠ [] := by
      intro empty
      rw [empty] at shorter
      cases shorter
    have inText := ((oneStatement.explainHeader_append (fun _ _ => rfl) (endsText_strip text) nonempty
      SqlParse.noTail).2 analyzes).2
    rw [hidden] at inText
    have inStrip : '/' ∈ strip text := inText.subset (by decide)
    have inSource : '/' ∈ text := (List.dropWhile_sublist _).mem ((List.rdropWhile_prefix _ _).sublist.mem inStrip)
    exact free (part.subset inSource)

theorem oneStatement_documented : oneStatement.Documented := by
  constructor
  case split =>
    intro v s mem
    obtain ⟨splits, rfl, kept⟩ := mem_oneStatement mem
    refine ⟨strip_length v, oneStatement_splitStatements.2 ⟨?_, strip_strip v, kept⟩⟩
    rcases splits with rfl | free
    · exact .inl (by decide +kernel)
    · exact .inr fun here => free ((List.dropWhile_sublist _).mem ((List.rdropWhile_prefix _ _).sublist.mem here))
  case comments =>
    intro s single _ _
    obtain ⟨splits, trimmed, kept⟩ := oneStatement_splitStatements.1 single
    by_cases hidden : s = hiddenAnalyze
    · subst hidden
      decide +kernel
    · have same : oneStatement.commentFree s = s := (oneStatement_commentFree hidden).trans trimmed
      rw [same]
      exact ⟨single, le_refl _, same, fun _ => rfl⟩
  case semicolons =>
    intro s single premise nonempty last
    obtain ⟨splits, trimmed, kept⟩ := oneStatement_splitStatements.1 single
    have visible : s ≠ hiddenAnalyze := by
      rintro rfl
      rcases premise with same | noSemicolon
      · exact absurd same (by decide +kernel)
      · exact noSemicolon (by decide +kernel)
    have visible' : bare s ≠ hiddenAnalyze := by
      intro hidden
      rw [hidden] at last
      exact last (by decide +kernel)
    obtain ⟨tail, -, whole⟩ := bare_append s
    have free : '/' ∉ bare s := by
      intro mem
      refine splits.resolve_left visible ?_
      rw [whole]
      exact List.mem_append_left tail mem
    have trimmed' : strip (bare s) = bare s := by
      have front : s.dropWhile isSpace = s := by
        rw [← trimmed]
        exact dropWhile_strip s
      rw [whole, dropWhile_append_tail (endsText_bare s) nonempty] at front
      show ((bare s).dropWhile isSpace).rdropWhile isSpace = bare s
      rw [List.append_cancel_right front, (endsText_bare s).rdropWhile_eq]
    have notSemicolon : bare s ≠ [';'] := by
      intro semicolon
      rw [semicolon] at last
      exact last rfl
    rw [oneStatement_commentFree visible, oneStatement_commentFree visible', trimmed, trimmed']
    exact ⟨oneStatement_splitStatements.2 ⟨.inr free, trimmed', nonempty, notSemicolon⟩, rfl,
      fun _ => ⟨rfl, rfl⟩⟩
  case parse =>
    intro s tail _ isTail
    rw [oneStatement_reads, oneStatement_reads]
    cases s with
    | nil =>
      refine iff_of_false (fun both => ?_) (fun both => both.1 rfl)
      rcases isTail 'S' (List.mem_of_mem_head? both.1) with semicolon | blank
      · cases semicolon
      · cases blank
    | cons c s =>
      exact ⟨fun both => ⟨List.cons_ne_nil c s, both⟩, fun both => both.2⟩
  case words => exact fun _ _ => rfl
  case reports =>
    intro s _ text _
    by_cases hidden : text = hiddenAnalyze
    · subst hidden
      exact ⟨by decide +kernel, fun _ => rfl⟩
    · rw [oneStatement_commentFree hidden]
      exact ⟨rfl, fun _ => rfl⟩
  case explain =>
    intro text found read
    cases text with
    | nil => cases found
    | cons c text =>
      obtain rfl : c = 'S' := Option.some.inj (oneStatement_reads.1 read)
      cases found
  case keyword =>
    intro s _ text _ found
    by_cases hidden : text = hiddenAnalyze
    · subst hidden
      decide +kernel
    · rwa [oneStatement_commentFree hidden]
  case header =>
    intro s single text part found plain
    obtain ⟨splits, -⟩ := oneStatement_splitStatements.1 single
    have visible : text ≠ hiddenAnalyze := by
      rintro rfl
      exact plain (.inl ⟨" /* costs */ ANALYZE DELETE FROM product;".toList, by decide +kernel, '/', by decide +kernel,
        by decide⟩)
    rw [oneStatement_commentFree visible]
    refine ⟨rfl, fun analyzes => ?_⟩
    rw [oneStatement_commentFree (behind_ne_hiddenAnalyze splits part analyzes)]

end MeadowOps.Generation
