import MeadowOps.Lib.PyText
import MeadowOps.Lib.Scanner

/-!
# How PostgreSQL reads a statement

The lexical structure of PostgreSQL (blanks, nested comments, quoted names, the forms of string
constants, dollar quotes), the header of EXPLAIN, and what the documentation says of statements that
modify data or schema. Which statements do is the server's: `PostgreSQL.modifies`.
-/

namespace MeadowOps.Query

open Lib

inductive Token where
  /-- A keyword or a name without quotes, in lower case. -/
  | word (folded : List Char)
  /-- A name in quotes, also in the form `U&"..."`. -/
  | quoted (name : List Char)
  | string (text : List Char)
  | number (text : List Char)
  | symbol (c : Char)
  /-- A comment or quote that is not closed. -/
  | error
  deriving DecidableEq, Repr

def keyword (s : String) : Token := .word s.toList

/-! ## Characters -/

/-- `space` of the scanner. -/
def pgSpace (c : Char) : Bool := (0x09 ≤ c.toNat && c.toNat ≤ 0x0d) || c.toNat = 0x20

/-- `ident_start`: a letter, an underscore, or any character beyond ASCII. -/
def identStart (c : Char) : Bool := isLetter c || c.toNat = 0x5f || 0x80 ≤ c.toNat

/-- `ident_cont`: also a digit or a dollar sign. -/
def identChar (c : Char) : Bool := identStart c || isDecimal c || c.toNat = 0x24

/-- A character of a dollar-quote tag. -/
def tagChar (c : Char) : Bool := identStart c || isDecimal c

/-- An ASCII capital as a small letter. -/
def lower (c : Char) : Char :=
  if 0x41 ≤ c.toNat ∧ c.toNat ≤ 0x5a then Char.ofNat (c.toNat + 0x20) else c

def fold (s : List Char) : List Char := s.map lower

/-! ## Lexemes -/

/-- The text after a block comment that is `depth` levels below the outermost. -/
def skipBlock : ℕ → List Char → Option (List Char)
  | _, [] => none
  | depth, '*' :: '/' :: s => if depth = 0 then some s else skipBlock (depth - 1) s
  | depth, '/' :: '*' :: s => skipBlock (depth + 1) s
  | depth, _ :: s => skipBlock depth s

/-- The text up to the closing quote, in which a doubled quote stands for one, and what follows. -/
def closeQuote (q : Char) : List Char → Option (List Char × List Char)
  | [] => none
  | [c] => if c = q then some ([], []) else none
  | c :: d :: s =>
    if c = q then
      if d = q then (closeQuote q s).map fun e => (q :: e.1, e.2)
      else some ([], d :: s)
    else (closeQuote q (d :: s)).map fun e => (c :: e.1, e.2)

/-- The same for `E'...'`: a backslash takes the next character along. -/
def closeEscaped : List Char → Option (List Char × List Char)
  | [] => none
  | [c] => if c = '\'' then some ([], []) else none
  | c :: d :: s =>
    if c = '\\' then (closeEscaped s).map fun e => (c :: d :: e.1, e.2)
    else if c = '\'' then
      if d = '\'' then (closeEscaped s).map fun e => ('\'' :: e.1, e.2)
      else some ([], d :: s)
    else (closeEscaped (d :: s)).map fun e => (c :: e.1, e.2)

/-- The text up to a dollar-quote delimiter, and what follows. -/
def closeDollar (delimiter : List Char) : List Char → Option (List Char × List Char)
  | [] => none
  | c :: s =>
    if delimiter.isPrefixOf (c :: s) then some ([], (c :: s).drop delimiter.length)
    else (closeDollar delimiter s).map fun e => (c :: e.1, e.2)

/-- A constant or a name in quotes, or an unclosed one. -/
def quotedLexeme (token : List Char → Token) :
    Option (List Char × List Char) → Option Token × List Char
  | some (text, rest) => (some (token text), rest)
  | none => (some .error, [])

/-- A letter: a string constant with a prefix, a `U&` constant or name, or a word. -/
def wordLexeme (c : Char) (s : List Char) : Option Token × List Char :=
  if s.head? = some '\'' ∧ lower c = 'e' then quotedLexeme .string (closeEscaped s.tail)
  else if s.head? = some '\'' ∧ lower c ∈ ['b', 'x', 'n'] then
    quotedLexeme .string (closeQuote '\'' s.tail)
  else if lower c = 'u' ∧ s.take 2 = ['&', '"'] then
    quotedLexeme .quoted (closeQuote '"' (s.drop 2))
  else if lower c = 'u' ∧ s.take 2 = ['&', '\''] then
    quotedLexeme .string (closeQuote '\'' (s.drop 2))
  else (some (.word (fold (c :: s.takeWhile identChar))), s.dropWhile identChar)

/-- A comment, a constant or name in quotes, a number, or a symbol. -/
def otherLexeme (c : Char) (s : List Char) : Option Token × List Char :=
  if c = '-' ∧ s.head? = some '-' then (none, s.dropWhile fun d => d ≠ '\n' && d ≠ '\r')
  else if c = '/' ∧ s.head? = some '*' then ((skipBlock 0 s.tail).elim (some .error, []) fun rest => (none, rest))
  else if c = '"' then quotedLexeme .quoted (closeQuote '"' s)
  else if c = '\'' then quotedLexeme .string (closeQuote '\'' s)
  else if c = '$' ∧ (s.dropWhile tagChar).head? = some '$' ∧ isDecimal (s.headD ' ') = false then
    quotedLexeme .string
      (closeDollar ('$' :: s.takeWhile tagChar ++ ['$']) (s.dropWhile tagChar).tail)
  else if isDecimal c ∨ ((c = '.' ∨ c = '$') ∧ isDecimal (s.headD ' ')) then
    (some (.number (c :: s.takeWhile fun d => identChar d || d = '.')),
      s.dropWhile fun d => identChar d || d = '.')
  else (some (.symbol c), s)

/-- One lexeme of a text. -/
def lexeme (c : Char) (s : List Char) : Option Token × List Char :=
  if pgSpace c then (none, s)
  else if identStart c then wordLexeme c s
  else otherLexeme c s

/-! What follows a lexeme is the end of the text. -/

theorem skipBlock_suffix {depth : ℕ} {s rest : List Char} (h : skipBlock depth s = some rest) :
    rest <:+ s := by
  fun_induction skipBlock depth s with
  | case1 => cases h
  | case2 s =>
    cases h
    exact List.suffix_append ['*', '/'] _
  | case3 depth s here ih => exact (ih h).trans (List.suffix_append ['*', '/'] s)
  | case4 depth s ih => exact (ih h).trans (List.suffix_append ['/', '*'] s)
  | case5 depth c s _ _ ih => exact (ih h).trans (List.suffix_cons c s)

theorem closeQuote_suffix {q : Char} {s : List Char} {e : List Char × List Char}
    (h : closeQuote q s = some e) : e.2 <:+ s := by
  fun_induction closeQuote q s generalizing e with
  | case1 => cases h
  | case2 =>
    cases h
    exact List.nil_suffix
  | case3 => cases h
  | case4 s ih =>
    obtain ⟨e', found, rfl⟩ := Option.map_eq_some_iff.1 h
    exact (ih found).trans (List.suffix_append [q, q] s)
  | case5 d s _ =>
    cases h
    exact List.suffix_cons q (d :: s)
  | case6 c d s _ ih =>
    obtain ⟨e', found, rfl⟩ := Option.map_eq_some_iff.1 h
    exact (ih found).trans (List.suffix_cons c (d :: s))

theorem closeEscaped_suffix {s : List Char} {e : List Char × List Char}
    (h : closeEscaped s = some e) : e.2 <:+ s := by
  fun_induction closeEscaped s generalizing e with
  | case1 => cases h
  | case2 =>
    cases h
    exact List.nil_suffix
  | case3 => cases h
  | case4 d s ih =>
    obtain ⟨e', found, rfl⟩ := Option.map_eq_some_iff.1 h
    exact (ih found).trans (List.suffix_append ['\\', d] s)
  | case5 s _ ih =>
    obtain ⟨e', found, rfl⟩ := Option.map_eq_some_iff.1 h
    exact (ih found).trans (List.suffix_append ['\'', '\''] s)
  | case6 d s _ _ =>
    cases h
    exact List.suffix_cons _ _
  | case7 c d s _ _ ih =>
    obtain ⟨e', found, rfl⟩ := Option.map_eq_some_iff.1 h
    exact (ih found).trans (List.suffix_cons c (d :: s))

theorem closeDollar_suffix {delimiter s : List Char} {e : List Char × List Char}
    (h : closeDollar delimiter s = some e) : e.2 <:+ s := by
  induction s generalizing e with
  | nil => cases h
  | cons c s ih =>
    rw [closeDollar] at h
    split at h
    · cases h
      exact List.drop_suffix _ _
    · obtain ⟨e', found, rfl⟩ := Option.map_eq_some_iff.1 h
      exact (ih found).trans (List.suffix_cons c s)

theorem quotedLexeme_suffix {token : List Char → Token} {found : Option (List Char × List Char)}
    {s : List Char} (h : ∀ e, found = some e → e.2 <:+ s) : (quotedLexeme token found).2 <:+ s := by
  cases found with
  | none => exact List.nil_suffix
  | some e => exact h e rfl

theorem wordLexeme_suffix (c : Char) (s : List Char) : (wordLexeme c s).2 <:+ s := by
  unfold wordLexeme
  split
  · exact quotedLexeme_suffix fun _ found => (closeEscaped_suffix found).trans (List.tail_suffix s)
  split
  · exact quotedLexeme_suffix fun _ found => (closeQuote_suffix found).trans (List.tail_suffix s)
  split
  · exact quotedLexeme_suffix fun _ found => (closeQuote_suffix found).trans (List.drop_suffix 2 s)
  split
  · exact quotedLexeme_suffix fun _ found => (closeQuote_suffix found).trans (List.drop_suffix 2 s)
  · exact List.dropWhile_suffix _

theorem otherLexeme_suffix (c : Char) (s : List Char) : (otherLexeme c s).2 <:+ s := by
  unfold otherLexeme
  split
  · exact List.dropWhile_suffix _
  split
  · cases skipped : skipBlock 0 s.tail with
    | none => exact List.nil_suffix
    | some rest => exact (skipBlock_suffix skipped).trans (List.tail_suffix s)
  split
  · exact quotedLexeme_suffix fun _ found => closeQuote_suffix found
  split
  · exact quotedLexeme_suffix fun _ found => closeQuote_suffix found
  split
  · exact quotedLexeme_suffix fun _ found => (closeDollar_suffix found).trans
      ((List.tail_suffix _).trans (List.dropWhile_suffix _))
  split
  · exact List.dropWhile_suffix _
  · exact List.suffix_refl s

theorem lexeme_suffix (c : Char) (s : List Char) : (lexeme c s).2 <:+ s := by
  unfold lexeme
  split
  · exact List.suffix_refl s
  split
  · exact wordLexeme_suffix c s
  · exact otherLexeme_suffix c s

def scanner : Scanner Char Token where
  next := lexeme
  shorter c s := (lexeme_suffix c s).length_le

/-- The tokens of a text. -/
def lex (s : List Char) : List Token := scanner.tokens s

/-! ## The header of EXPLAIN -/

/-- The tokens after EXPLAIN can ask for the statement `inner` to be executed. -/
inductive Executed : List Token → List Token → Prop
  | bare {inner : List Token} {analyze : String} (h : analyze = "analyze" ∨ analyze = "analyse") :
      Executed (keyword analyze :: inner) inner
  | verbose {inner : List Token} {analyze : String} (h : analyze = "analyze" ∨ analyze = "analyse") :
      Executed (keyword analyze :: keyword "verbose" :: inner) inner
  | options {options inner : List Token} (closed : .symbol ')' ∉ options) :
      Executed (.symbol '(' :: (options ++ .symbol ')' :: inner)) inner

/-! ## What modifies -/

/-- The words a command can start with. -/
def commandKeywords : List String :=
  ["abort", "alter", "analyse", "analyze", "begin", "call", "checkpoint", "close", "cluster",
    "comment", "commit", "copy", "create", "deallocate", "declare", "delete", "discard", "do", "drop",
    "end", "execute", "explain", "fetch", "grant", "import", "insert", "listen", "load", "lock",
    "merge", "move", "notify", "prepare", "reassign", "refresh", "reindex", "release", "reset",
    "revoke", "rollback", "savepoint", "security", "select", "set", "show", "start", "table",
    "truncate", "unlisten", "update", "vacuum", "values", "with"]

/-- The words a statement can start with that EXPLAIN takes. -/
def explainableKeywords : List String :=
  ["create", "declare", "delete", "execute", "insert", "merge", "refresh", "select", "table",
    "update", "values", "with"]

/-- The words without one of which a query only reads. -/
def writingKeywords : List String := ["insert", "update", "delete", "merge", "into"]

/-- The first token is one of the keywords, or a parenthesis. -/
def StartsWith (keywords : List String) (tokens : List Token) : Prop :=
  tokens.head? = some (.symbol '(') ∨ ∃ k ∈ keywords, tokens.head? = some (keyword k)

/-- A query: SELECT, or WITH. -/
def IsQuery (tokens : List Token) : Prop :=
  ∃ k ∈ ["select", "with"], tokens.head? = some (keyword k)

/-- No semicolon but at the end. -/
def OneStatement (tokens : List Token) : Prop := .symbol ';' ∉ tokens.dropLast

instance (tokens : List Token) : Decidable (OneStatement tokens) :=
  inferInstanceAs (Decidable (¬ _))

/-- The server: which statements modify data or schema, functions called in a SELECT aside. -/
structure PostgreSQL where
  modifies : List Token → Prop
  /-- Every command starts with a keyword of its own; anything else is a syntax error. -/
  command : ∀ {tokens}, OneStatement tokens → modifies tokens → StartsWith commandKeywords tokens
  /-- A query writes through a data-modifying WITH or through INTO. -/
  query : ∀ {tokens}, OneStatement tokens → IsQuery tokens → modifies tokens →
    ∃ k ∈ writingKeywords, keyword k ∈ tokens
  /-- EXPLAIN only runs a statement when it is asked to ANALYZE, and takes no EXPLAIN. -/
  explain : ∀ {rest}, OneStatement (keyword "explain" :: rest) →
    modifies (keyword "explain" :: rest) →
    ∃ inner, Executed rest inner ∧ StartsWith explainableKeywords inner ∧ modifies inner

/-! ## Reading a text -/

@[simp] theorem lex_nil : lex [] = [] := rfl

theorem lex_space {c : Char} (h : pgSpace c = true) (s : List Char) : lex (c :: s) = lex s :=
  scanner.tokens_of_skip (by simp [scanner, lexeme, h])

theorem not_identStart_of_pgSpace {c : Char} (h : pgSpace c = true) : identStart c = false := by
  simp only [pgSpace, identStart, isLetter, Bool.or_eq_true, Bool.and_eq_true, decide_eq_true_eq,
    Bool.or_eq_false_iff, Bool.and_eq_false_iff, decide_eq_false_iff_not] at *
  omega

theorem toNat_lower (c : Char) : (lower c).toNat =
    if 0x41 ≤ c.toNat ∧ c.toNat ≤ 0x5a then c.toNat + 0x20 else c.toNat := by
  unfold lower
  split
  · rename_i capital
    have valid : (c.toNat + 0x20).isValidChar := Or.inl (by omega)
    rw [Char.ofNat, dif_pos valid]
    rfl
  · rfl

/-- A letter that does not open a string or a `U&` name starts a word. -/
theorem lex_word {c : Char} {s : List Char} (start : identStart c = true)
    (noQuote : s.head? = some '\'' → lower c ∉ ['e', 'b', 'x', 'n'])
    (noUnicode : lower c = 'u' → s.head? ≠ some '&') :
    lex (c :: s) = .word (fold (c :: s.takeWhile identChar)) :: lex (s.dropWhile identChar) := by
  apply scanner.tokens_of_token
  have notSpace : ¬ pgSpace c = true := by
    intro space
    rw [not_identStart_of_pgSpace space] at start
    cases start
  have noPair : ∀ q, ¬ (lower c = 'u' ∧ s.take 2 = ['&', q]) := by
    rintro q ⟨isU, pair⟩
    cases s with
    | nil => cases pair
    | cons d s =>
      rw [List.take_succ_cons, List.cons.injEq] at pair
      apply noUnicode isU
      rw [pair.1]
      rfl
  have noEscape : ¬ (s.head? = some '\'' ∧ lower c = 'e') := by
    rintro ⟨quote, isE⟩
    apply noQuote quote
    rw [isE]
    exact List.mem_cons_self
  have noPrefix : ¬ (s.head? = some '\'' ∧ lower c ∈ ['b', 'x', 'n']) := by
    rintro ⟨quote, mem⟩
    exact noQuote quote (List.mem_cons_of_mem _ mem)
  show lexeme c s = _
  rw [lexeme, if_neg notSpace, if_pos start, wordLexeme, if_neg noEscape, if_neg noPrefix,
    if_neg (noPair _), if_neg (noPair _)]

/-- A symbol that opens nothing is a token of its own. -/
theorem lex_symbol {c : Char}
    (h : c.toNat = 0x28 ∨ c.toNat = 0x29 ∨ (0x1c ≤ c.toNat ∧ c.toNat ≤ 0x1f)) (s : List Char) :
    lex (c :: s) = .symbol c :: lex s := by
  apply scanner.tokens_of_token
  have ne : ∀ d : Char, ¬ (d.toNat = 0x28 ∨ d.toNat = 0x29 ∨ (0x1c ≤ d.toNat ∧ d.toNat ≤ 0x1f)) →
      c ≠ d := by
    rintro d no rfl
    exact no h
  have notSpace : ¬ pgSpace c = true := by
    simp only [pgSpace, Bool.or_eq_true, Bool.and_eq_true, decide_eq_true_eq]
    omega
  have notStart : ¬ identStart c = true := by
    simp only [identStart, isLetter, Bool.or_eq_true, Bool.and_eq_true, decide_eq_true_eq]
    omega
  have notDecimal : ¬ isDecimal c = true := by
    simp only [isDecimal, Bool.and_eq_true, decide_eq_true_eq]
    omega
  show lexeme c s = _
  rw [lexeme, if_neg notSpace, if_neg notStart, otherLexeme,
    if_neg fun h => ne '-' (by decide) h.1, if_neg fun h => ne '/' (by decide) h.1,
    if_neg (ne '"' (by decide)), if_neg (ne '\'' (by decide)),
    if_neg fun h => ne '$' (by decide) h.1, if_neg]
  rintro (decimal | ⟨dot | dollar, _⟩)
  · exact notDecimal decimal
  · exact ne '.' (by decide) dot
  · exact ne '$' (by decide) dollar

/-- A token that is no word and no symbol. -/
inductive Inert : Token → Prop
  | quoted (name : List Char) : Inert (.quoted name)
  | string (text : List Char) : Inert (.string text)
  | number (text : List Char) : Inert (.number text)
  | error : Inert .error

theorem quotedLexeme_inert {token : List Char → Token} (inert : ∀ text, Inert (token text))
    (found : Option (List Char × List Char)) : ∃ t, (quotedLexeme token found).1 = some t ∧ Inert t := by
  cases found with
  | none => exact ⟨_, rfl, .error⟩
  | some e => exact ⟨_, rfl, inert e.1⟩

/-- A letter opens a quoted token, or is the first of a word. -/
theorem wordLexeme_cases (c : Char) (s : List Char) : (∃ t, (wordLexeme c s).1 = some t ∧ Inert t) ∨
    wordLexeme c s = (some (.word (fold (c :: s.takeWhile identChar))), s.dropWhile identChar) := by
  unfold wordLexeme
  split
  · exact .inl (quotedLexeme_inert .string _)
  split
  · exact .inl (quotedLexeme_inert .string _)
  split
  · exact .inl (quotedLexeme_inert .quoted _)
  split
  · exact .inl (quotedLexeme_inert .string _)
  · exact .inr rfl

/-- The text starts with a comment. -/
def OpensComment (s : List Char) : Prop := ['-', '-'] <+: s ∨ ['/', '*'] <+: s

instance (s : List Char) : Decidable (OpensComment s) := inferInstanceAs (Decidable (_ ∨ _))

theorem prefix_of_pair {a c d : Char} {s : List Char} (first : a = c) (head : s.head? = some d) : [c, d] <+: a :: s := by
  subst first
  cases s with
  | nil => cases head
  | cons b s =>
    cases head
    exact ⟨s, rfl⟩

/-- Any other character opens a comment, is part of a token that is no word, or is a symbol. -/
theorem otherLexeme_cases (c : Char) (s : List Char) : ((otherLexeme c s).1 = none ∧ OpensComment (c :: s)) ∨
    (∃ t, (otherLexeme c s).1 = some t ∧ Inert t) ∨ (otherLexeme c s).1 = some (.symbol c) := by
  unfold otherLexeme
  split
  · rename_i line
    exact .inl ⟨rfl, .inl (prefix_of_pair line.1 line.2)⟩
  split
  · rename_i block
    cases skipBlock 0 s.tail with
    | none => exact .inr (.inl ⟨_, rfl, .error⟩)
    | some rest => exact .inl ⟨rfl, .inr (prefix_of_pair block.1 block.2)⟩
  split
  · exact .inr (.inl (quotedLexeme_inert .quoted _))
  split
  · exact .inr (.inl (quotedLexeme_inert .string _))
  split
  · exact .inr (.inl (quotedLexeme_inert .string _))
  split
  · exact .inr (.inl ⟨_, rfl, .number _⟩)
  · exact .inr (.inr rfl)

/-- A symbol is the character it is read from. -/
theorem lexeme_symbol {a c : Char} {s : List Char} (h : (lexeme a s).1 = some (.symbol c)) :
    c = a := by
  unfold lexeme at h
  split at h
  · cases h
  split at h
  · rcases wordLexeme_cases a s with ⟨t, read, inert⟩ | read
    · rw [read] at h
      cases h
      cases inert
    · rw [read] at h
      cases h
  · rcases otherLexeme_cases a s with ⟨none, -⟩ | ⟨t, read, inert⟩ | read
    · rw [none] at h
      cases h
    · rw [read] at h
      cases h
      cases inert
    · rw [read] at h
      cases h
      rfl

/-- A word is an identifier up to its last character. -/
theorem lexeme_word {a : Char} {s w : List Char} (h : (lexeme a s).1 = some (.word w)) :
    identStart a = true ∧ w = fold (a :: s.takeWhile identChar) ∧
      (lexeme a s).2 = s.dropWhile identChar := by
  unfold lexeme at h ⊢
  split at h
  · cases h
  rename_i notSpace
  rw [if_neg notSpace]
  split at h
  · rename_i start
    rw [if_pos start]
    rcases wordLexeme_cases a s with ⟨t, read, inert⟩ | read
    · rw [read] at h
      cases h
      cases inert
    · rw [read] at h ⊢
      cases h
      exact ⟨start, rfl, rfl⟩
  · rcases otherLexeme_cases a s with ⟨none, -⟩ | ⟨t, read, inert⟩ | read
    · rw [none] at h
      cases h
    · rw [read] at h
      cases h
      cases inert
    · rw [read] at h
      cases h

/-- A lexeme that is no token is a blank or a comment. -/
theorem lexeme_none {a : Char} {s : List Char} (h : (lexeme a s).1 = none)
    (notSpace : pgSpace a = false) : OpensComment (a :: s) := by
  unfold lexeme at h
  rw [if_neg (by rw [notSpace]; exact Bool.false_ne_true)] at h
  split at h
  · rcases wordLexeme_cases a s with ⟨t, read, -⟩ | read
    · exact absurd (read.symm.trans h) (Option.some_ne_none t)
    · rw [read] at h
      cases h
  · rcases otherLexeme_cases a s with ⟨-, opens⟩ | ⟨t, read, -⟩ | read
    · exact opens
    · exact absurd (read.symm.trans h) (Option.some_ne_none t)
    · exact absurd (read.symm.trans h) (Option.some_ne_none _)

theorem lex_cons {a : Char} {s : List Char} {t : Token} (h : (lexeme a s).1 = some t) :
    lex (a :: s) = t :: lex (lexeme a s).2 :=
  scanner.tokens_of_token (Prod.ext h rfl)

theorem mem_of_symbol_mem_lex {s : List Char} {c : Char} (h : .symbol c ∈ lex s) : c ∈ s := by
  refine scanner.forall_tokens (P := fun s t => ∀ c, t = .symbol c → c ∈ s) ?_ ?_ s _ h c rfl
  · intro a s t read c same
    subst same
    rw [lexeme_symbol read]
    exact List.mem_cons_self
  · intro a s t later c same
    exact List.mem_cons_of_mem a ((lexeme_suffix a s).subset (later c same))

end MeadowOps.Query
