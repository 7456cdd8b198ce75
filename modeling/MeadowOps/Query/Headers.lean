import MeadowOps.Query.Classifier
import MeadowOps.Query.Postgres

/-!
# What the EXPLAIN patterns match, in tokens

The patterns read characters and PostgreSQL reads tokens. A letter sequence that a pattern matches is
the front of a word; blanks that a pattern skips are blanks to PostgreSQL too, or the text after them
starts with nothing PostgreSQL knows.
-/

namespace MeadowOps.Query

open Lib

/-! ## Letters -/

/-- Every character of the keyword is ASCII. -/
def Ascii (s : List Char) : Prop := ∀ c ∈ s, c.toNat < 0x80

instance (s : List Char) : Decidable (Ascii s) := List.decidableBAll _ s

def Capital (k : Char) : Prop := 0x41 ≤ k.toNat ∧ k.toNat ≤ 0x5a

instance (k : Char) : Decidable (Capital k) := inferInstanceAs (Decidable (_ ∧ _))

def Capitals (s : List Char) : Prop := ∀ k ∈ s, Capital k

instance (s : List Char) : Decidable (Capitals s) := List.decidableBAll _ s

/-- A letter matched without regard to case is the same small letter, or beyond ASCII. -/
theorem lower_of_sameLetter {k c : Char} (capital : Capital k) (h : sameLetter k c = true)
    (ascii : (lower c).toNat < 0x80) : lower c = lower k := by
  obtain ⟨low, high⟩ := capital
  rw [← Char.toNat_inj]
  simp only [sameLetter, Bool.or_eq_true, Bool.and_eq_true, decide_eq_true_eq] at h
  rw [toNat_lower] at ascii
  rw [toNat_lower, toNat_lower, if_pos (⟨low, high⟩ : 0x41 ≤ k.toNat ∧ k.toNat ≤ 0x5a)]
  split at ascii
  · rename_i upper
    rw [if_pos upper]
    omega
  · rename_i notUpper
    rw [if_neg notUpper]
    omega

theorem sameLetter_of_lower {k c : Char} (capital : Capital k) (h : lower c = lower k) :
    sameLetter k c = true := by
  obtain ⟨low, high⟩ := capital
  have same : (lower c).toNat = (lower k).toNat := by rw [h]
  rw [toNat_lower, toNat_lower, if_pos (⟨low, high⟩ : 0x41 ≤ k.toNat ∧ k.toNat ≤ 0x5a)] at same
  simp only [sameLetter, Bool.or_eq_true, decide_eq_true_eq]
  split at same <;> omega

theorem identStart_of_sameLetter {k c : Char} (capital : Capital k) (h : sameLetter k c = true) :
    identStart c = true := by
  obtain ⟨low, high⟩ := capital
  simp only [sameLetter, Bool.or_eq_true, Bool.and_eq_true, decide_eq_true_eq] at h
  simp only [identStart, isLetter, Bool.or_eq_true, Bool.and_eq_true, decide_eq_true_eq]
  omega

theorem identChar_of_identStart {c : Char} (h : identStart c = true) : identChar c = true := by
  simp [identChar, h]

/-- What `\w` matches continues an identifier. -/
theorem Library.identChar_of_isWord {lib : Library} {c : Char} (h : lib.isWord c = true) :
    identChar c = true := by
  unfold Library.isWord at h
  split at h
  · simp only [Bool.or_eq_true] at h
    simp only [identChar, identStart, Bool.or_eq_true]
    tauto
  · simp only [identChar, identStart, Bool.or_eq_true, decide_eq_true_eq]
    omega

/-! ## Letter sequences -/

theorem matchLetters_some {ps : List (Char → Bool)} {s rest : List Char} :
    matchLetters ps s = some rest ↔
      ∃ w, s = w ++ rest ∧ List.Forall₂ (fun p c => p c = true) ps w := by
  constructor
  · intro h
    fun_induction matchLetters ps s with
    | case1 s =>
      cases h
      exact ⟨[], rfl, .nil⟩
    | case2 => cases h
    | case3 p ps c s here ih =>
      obtain ⟨w, rfl, matched⟩ := ih h
      exact ⟨c :: w, rfl, .cons here matched⟩
    | case4 => cases h
  · rintro ⟨w, rfl, matched⟩
    induction matched with
    | nil => rfl
    | cons here _ ih =>
      rw [List.cons_append, matchLetters, if_pos here, ih]

/-- The letters of a pattern open a word of PostgreSQL. -/
theorem lex_letters {ps : List (Char → Bool)} {w rest : List Char}
    (letters : ∀ p ∈ ps, ∀ c, p c = true → identStart c = true) (long : 2 ≤ ps.length)
    (matched : List.Forall₂ (fun p c => p c = true) ps w) :
    lex (w ++ rest) =
      .word (fold (w ++ rest.takeWhile identChar)) :: lex (rest.dropWhile identChar) := by
  have starts : ∀ c ∈ w, identStart c = true := by
    intro c mem
    obtain ⟨i, bound, rfl⟩ := List.getElem_of_mem mem
    have bound' : i < ps.length := by
      rw [matched.length_eq]
      exact bound
    exact letters _ (List.getElem_mem bound') _ (List.forall₂_iff_get.1 matched |>.2 i bound' bound)
  have chars : ∀ c ∈ w, identChar c = true := fun c mem => identChar_of_identStart (starts c mem)
  have length := matched.length_eq
  cases w with
  | nil =>
    rw [List.length_nil] at length
    omega
  | cons c w =>
    cases w with
    | nil =>
      rw [List.length_singleton] at length
      omega
    | cons d w =>
      have second := starts d (by simp)
      have tail : ∀ e ∈ d :: w, identChar e = true := fun e mem => chars e (List.mem_cons_of_mem c mem)
      rw [List.cons_append, lex_word (starts c List.mem_cons_self), List.takeWhile_append_of_pos tail,
        List.dropWhile_append_of_pos tail, List.cons_append]
      · rfl
      · intro quote
        rw [Option.some.inj quote] at second
        cases second
      · intro _ ampersand
        rw [Option.some.inj ampersand] at second
        cases second

/-- Where the letters are as many as the keyword's, they are the whole word. -/
theorem lex_keyword {ps : List (Char → Bool)} {s rest : List Char} {k : String}
    (letters : ∀ p ∈ ps, ∀ c, p c = true → identStart c = true) (long : 2 ≤ ps.length)
    (matched : matchLetters ps s = some rest) (head : (lex s).head? = some (keyword k))
    (length : k.toList.length = ps.length) :
    lex s = keyword k :: lex rest ∧ rest.head?.all (fun c => !identChar c) = true := by
  obtain ⟨w, rfl, each⟩ := matchLetters_some.1 matched
  rw [lex_letters letters long each] at head ⊢
  have word : fold (w ++ rest.takeWhile identChar) = k.toList := by
    simpa [keyword] using head
  have short : (rest.takeWhile identChar).length = 0 := by
    have total : w.length + (rest.takeWhile identChar).length = k.toList.length := by
      rw [← word, fold, List.length_map, List.length_append]
    have front := each.length_eq
    omega
  have whole : rest.dropWhile identChar = rest := by
    have split := List.takeWhile_append_dropWhile (p := identChar) (l := rest)
    rwa [List.length_eq_zero_iff.1 short, List.nil_append] at split
  refine ⟨by rw [word, whole]; rfl, ?_⟩
  cases rest with
  | nil => rfl
  | cons c rest =>
    show (!identChar c) = true
    rw [Bool.not_eq_true']
    by_contra continues
    rw [List.takeWhile_cons_of_pos (by simpa using continues)] at short
    cases short

theorem identStart_of_explainLetters :
    ∀ p ∈ explainLetters, ∀ c, p c = true → identStart c = true := by
  intro p mem c matched
  obtain ⟨k, letter, rfl⟩ := List.mem_map.1 mem
  have capital : Capitals "EXPLAIN".toList := by decide
  exact identStart_of_sameLetter (capital k letter) matched

theorem identStart_of_analyzeLetters :
    ∀ p ∈ analyzeLetters, ∀ c, p c = true → identStart c = true := by
  intro p mem c matched
  rcases List.mem_append.1 mem with front | back
  · obtain ⟨k, letter, rfl⟩ := List.mem_map.1 front
    have capital : Capitals "ANALY".toList := by decide
    exact identStart_of_sameLetter (capital k letter) matched
  · simp only [List.mem_cons, List.not_mem_nil, or_false] at back
    rcases back with rfl | rfl
    · rcases Bool.or_eq_true_iff.1 matched with s | z
      · exact identStart_of_sameLetter (by decide) s
      · exact identStart_of_sameLetter (by decide) z
    · exact identStart_of_sameLetter (by decide) matched

theorem fold_of_sameLetter {capitals w : List Char} (capital : Capitals capitals)
    (each : List.Forall₂ (fun k c => sameLetter k c = true) capitals w) (ascii : Ascii (fold w)) :
    fold w = fold capitals := by
  induction each with
  | nil => rfl
  | cons here _ ih =>
    have first := lower_of_sameLetter (capital _ List.mem_cons_self) here
      (ascii _ List.mem_cons_self)
    have others := ih (fun k mem => capital k (List.mem_cons_of_mem _ mem))
      fun c mem => ascii c (List.mem_cons_of_mem _ mem)
    show lower _ :: fold _ = lower _ :: fold _
    rw [first, others]

/-- A keyword that the letters of EXPLAIN open starts with them. -/
theorem explain_opens {s rest : List Char} {k : String}
    (matched : matchLetters explainLetters s = some rest)
    (head : (lex s).head? = some (keyword k)) (ascii : Ascii k.toList) :
    "explain".toList <+: k.toList := by
  obtain ⟨w, rfl, each⟩ := matchLetters_some.1 matched
  rw [lex_letters identStart_of_explainLetters (by decide) each] at head
  have word : fold w ++ fold (rest.takeWhile identChar) = k.toList := by
    simpa [keyword, fold] using head
  have ascii' : Ascii (fold w) := by
    intro c mem
    apply ascii
    rw [← word]
    exact List.mem_append_left _ mem
  have capital : Capitals "EXPLAIN".toList := by decide
  have small : fold w = fold "EXPLAIN".toList :=
    fold_of_sameLetter capital (List.forall₂_map_left_iff.1 each) ascii'
  have folded : fold "EXPLAIN".toList = "explain".toList := by decide
  rw [← word, small, folded]
  exact List.prefix_append _ _

/-! ## Blanks -/

theorem isSpace_of_pgSpace {c : Char} (h : pgSpace c = true) : isSpace c = true := by
  simp only [pgSpace, isSpace, Bool.or_eq_true, Bool.and_eq_true, decide_eq_true_eq] at *
  omega

/-- A blank of Python's that is none to PostgreSQL is a symbol or beyond ASCII. -/
theorem isSpace_cases {c : Char} (h : isSpace c = true) :
    pgSpace c = true ∨ (0x1c ≤ c.toNat ∧ c.toNat ≤ 0x1f) ∨ 0x80 ≤ c.toNat := by
  simp only [pgSpace, isSpace, Bool.or_eq_true, Bool.and_eq_true, decide_eq_true_eq] at *
  omega

/-- A character beyond ASCII starts a word, which is no keyword. -/
theorem lex_beyond {c : Char} (h : 0x80 ≤ c.toNat) (s : List Char) :
    ∃ w rest, lex (c :: s) = .word w :: rest ∧ ¬ Ascii w := by
  have same : lower c = c := by
    unfold lower
    rw [if_neg (by omega)]
  have not : ∀ d : Char, d.toNat < 0x80 → lower c ≠ d := by
    rintro d small rfl
    rw [same] at small
    omega
  have start : identStart c = true := by
    simp only [identStart, Bool.or_eq_true, decide_eq_true_eq]
    omega
  have noQuote : lower c ∉ ['e', 'b', 'x', 'n'] := by
    intro mem
    have small : Ascii ['e', 'b', 'x', 'n'] := by decide
    exact not _ (small _ mem) rfl
  refine ⟨_, _, lex_word start (fun _ => noQuote) fun u => absurd u (not 'u' (by decide)), ?_⟩
  intro ascii
  have small := ascii (lower c) List.mem_cons_self
  rw [same] at small
  omega

/-- Before a keyword or a parenthesis, the blanks a pattern skips are PostgreSQL's. -/
theorem lex_dropSpace {keywords : List String} {s : List Char}
    (ascii : ∀ k ∈ keywords, Ascii k.toList) (h : StartsWith keywords (lex s)) :
    lex (s.dropWhile isSpace) = lex s := by
  induction s with
  | nil => rfl
  | cons c s ih =>
    by_cases space : isSpace c = true
    · rw [List.dropWhile_cons_of_pos space]
      rcases isSpace_cases space with blank | symbol | beyond
      · rw [lex_space blank] at h ⊢
        exact ih h
      · rw [lex_symbol (.inr (.inr symbol))] at h
        rcases h with paren | ⟨k, _, word⟩
        · cases paren
          exact absurd symbol (by decide)
        · cases word
      · obtain ⟨w, rest, lexed, notAscii⟩ := lex_beyond beyond s
        rw [lexed] at h
        rcases h with paren | ⟨k, mem, word⟩
        · cases paren
        · cases word
          exact absurd (ascii k mem) notAscii
    · rw [List.dropWhile_cons_of_neg space]

/-- What PostgreSQL's blanks precede is what a pattern finds after its own. -/
theorem dropWhile_isSpace_of_pgSpace {s u : List Char} {c : Char}
    (h : s.dropWhile pgSpace = c :: u) (notSpace : isSpace c = false) :
    s.dropWhile isSpace = c :: u := by
  induction s with
  | nil => cases h
  | cons d s ih =>
    by_cases blank : pgSpace d = true
    · rw [List.dropWhile_cons_of_pos blank] at h
      rw [List.dropWhile_cons_of_pos (isSpace_of_pgSpace blank), ih h]
    · rw [List.dropWhile_cons_of_neg blank] at h
      cases h
      exact List.dropWhile_cons_of_neg (by rw [notSpace]; exact Bool.false_ne_true)

theorem lex_dropWhile_pgSpace (s : List Char) : lex (s.dropWhile pgSpace) = lex s := by
  induction s with
  | nil => rfl
  | cons c s ih =>
    by_cases blank : pgSpace c = true
    · rw [List.dropWhile_cons_of_pos blank, lex_space blank, ih]
    · rw [List.dropWhile_cons_of_neg blank]

/-! ## The rest of a header -/

theorem Executed.startsWith {rest inner : List Token} (h : Executed rest inner) :
    StartsWith ["analyze", "analyse"] rest := by
  cases h with
  | bare h | verbose h =>
    rcases h with rfl | rfl
    · exact .inr ⟨_, List.mem_cons_self, rfl⟩
    · exact .inr ⟨_, List.mem_cons_of_mem _ List.mem_cons_self, rfl⟩
  | options closed => exact .inl rfl

theorem ascii_analyze : ∀ k ∈ ["analyze", "analyse"], Ascii k.toList := by decide

/-- The letters of a word that folds to a pattern's match it. -/
theorem sameLetter_of_fold {capitals w : List Char} (capital : Capitals capitals)
    (h : fold w = fold capitals) :
    List.Forall₂ (fun k c => sameLetter k c = true) capitals w := by
  induction capitals generalizing w with
  | nil =>
    obtain rfl : w = [] := List.map_eq_nil_iff.1 h
    exact .nil
  | cons k capitals ih =>
    obtain ⟨c, rest, rfl, same, others⟩ := List.map_eq_cons_iff.1 h
    exact .cons (sameLetter_of_lower (capital k List.mem_cons_self) same)
      (ih (fun k mem => capital k (List.mem_cons_of_mem _ mem)) others)

/-- The pattern takes a word that is either spelling of ANALYZE. -/
theorem matchLetters_analyze {w rest : List Char}
    (h : w = "analyze".toList ∨ w = "analyse".toList) {v : List Char} (folded : w = fold v) :
    matchLetters analyzeLetters (v ++ rest) = some rest := by
  apply matchLetters_some.2
  refine ⟨v, rfl, ?_⟩
  have spelled : ∃ z, (∀ c, sameLetter z c = true → sameLetter 'S' c || sameLetter 'Z' c) ∧
      List.Forall₂ (fun k c => sameLetter k c = true) ("ANALY".toList ++ [z, 'E']) v := by
    rcases h with h | h
    · refine ⟨'Z', fun c z => by rw [z, Bool.or_true], sameLetter_of_fold (by decide) ?_⟩
      rw [← folded, h]
      decide
    · refine ⟨'S', fun c s => by rw [s, Bool.true_or], sameLetter_of_fold (by decide) ?_⟩
      rw [← folded, h]
      decide
  obtain ⟨z, either, each⟩ := spelled
  rcases each with _ | ⟨a, _ | ⟨n, _ | ⟨a', _ | ⟨l, _ | ⟨y, _ | ⟨here, _ | ⟨e, _ | _⟩⟩⟩⟩⟩⟩⟩
  exact .cons a (.cons n (.cons a' (.cons l (.cons y (.cons (either _ here) (.cons e .nil))))))

/-- A word that starts with an ASCII letter starts with no blank. -/
theorem isSpace_of_identStart {c : Char} (start : identStart c = true)
    (small : (lower c).toNat < 0x80) : isSpace c = false := by
  rw [toNat_lower] at small
  rw [Bool.eq_false_iff]
  intro space
  simp only [identStart, isLetter, isSpace, Bool.or_eq_true, Bool.and_eq_true,
    decide_eq_true_eq] at start space
  split at small <;> omega

/-- A word after the end of another has a blank in front. -/
theorem head_isSpace_of_word {rest s : List Char} {c : Char}
    (ends : rest.head?.all (fun c => !identChar c) = true) (text : rest.dropWhile pgSpace = c :: s)
    (start : identStart c = true) : rest.head?.any isSpace = true := by
  cases rest with
  | nil => cases text
  | cons d rest =>
    by_cases blank : pgSpace d = true
    · exact isSpace_of_pgSpace blank
    · rw [List.dropWhile_cons_of_neg blank] at text
      cases text
      have continues := identChar_of_identStart start
      have stops : (!identChar c) = true := ends
      rw [continues] at stops
      cases stops

theorem Library.endsWord_of_head {lib : Library} {rest : List Char}
    (ends : rest.head?.all (fun c => !identChar c) = true) : lib.endsWord rest = true := by
  cases rest with
  | nil => rfl
  | cons c rest =>
    show (!lib.isWord c) = true
    have stops : (!identChar c) = true := ends
    rw [Bool.not_eq_true'] at stops ⊢
    by_contra word
    rw [Bool.not_eq_false] at word
    rw [identChar_of_isWord word] at stops
    cases stops

theorem head_dropWhile_identChar (s : List Char) :
    (s.dropWhile identChar).head?.all (fun c => !identChar c) = true := by
  have first := List.head?_dropWhile_not identChar s
  cases text : s.dropWhile identChar with
  | nil => rfl
  | cons c rest =>
    rw [text] at first
    show (!identChar c) = true
    rw [first]
    rfl

/-- Where the tokens after EXPLAIN ask for execution, they follow a comment, or one of the two patterns
matches. -/
theorem executed_header (lib : Library) {rest : List Char} {inner : List Token}
    (ends : rest.head?.all (fun c => !identChar c) = true) (executed : Executed (lex rest) inner) :
    OpensComment (rest.dropWhile pgSpace) ∨
      (∃ body, rest.dropWhile isSpace = '(' :: body ∧ ')' ∈ body) ∨
      (rest.head?.any isSpace = true ∧ ∃ remainder, lib.endsWord remainder = true ∧
        matchLetters analyzeLetters (rest.dropWhile isSpace) = some remainder) := by
  rw [← lex_dropWhile_pgSpace] at executed
  cases text : rest.dropWhile pgSpace with
  | nil =>
    rw [text] at executed
    cases executed
  | cons c s =>
    have notSpace : pgSpace c = false := by
      have first := List.head?_dropWhile_not pgSpace rest
      rw [text] at first
      exact first
    rw [text] at executed
    cases read : (lexeme c s).1 with
    | none => exact .inl (lexeme_none read notSpace)
    | some t =>
      right
      rw [lex_cons read] at executed
      have starts := executed.startsWith
      rcases starts with paren | ⟨k, mem, word⟩
      · left
        cases paren
        obtain rfl := lexeme_symbol read
        have after : (lexeme '(' s).2 = s := by
          rfl
        refine ⟨s, dropWhile_isSpace_of_pgSpace text (by decide), ?_⟩
        rw [after] at executed
        generalize body : lex s = tokens at executed
        cases executed with
        | options closed =>
          apply mem_of_symbol_mem_lex
          rw [body]
          exact List.mem_append_right _ List.mem_cons_self
      · right
        cases word
        obtain ⟨start, spelled, after⟩ := lexeme_word read
        have ascii := ascii_analyze k mem
        rw [spelled] at ascii
        have small := ascii _ List.mem_cons_self
        have noSpace : isSpace c = false := isSpace_of_identStart start small
        have found := dropWhile_isSpace_of_pgSpace text noSpace
        have letters : k.toList = "analyze".toList ∨ k.toList = "analyse".toList := by
          rcases List.mem_pair.1 mem with rfl | rfl
          · exact .inl rfl
          · exact .inr rfl
        refine ⟨?_, s.dropWhile identChar, ?_, ?_⟩
        · exact head_isSpace_of_word ends text start
        · exact Library.endsWord_of_head (head_dropWhile_identChar s)
        · rw [found]
          have whole : matchLetters analyzeLetters
              (c :: s.takeWhile identChar ++ s.dropWhile identChar) = some (s.dropWhile identChar) :=
            matchLetters_analyze letters spelled
          rwa [List.cons_append, List.takeWhile_append_dropWhile] at whole

end MeadowOps.Query
