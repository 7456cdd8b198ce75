import MeadowOps.Query.Headers

/-!
# Semicolons and blanks at the end of a statement

The patterns for EXPLAIN match the same front of a text whatever semicolons and blanks follow it.
-/

namespace MeadowOps.Query

open Lib

/-- The text does not end in a blank. -/
def EndsText (s : List Char) : Prop := ∀ c ∈ s.getLast?, isSpace c = false

/-- Only semicolons and blanks. -/
def IsTail (s : List Char) : Prop := ∀ c ∈ s, c = ';' ∨ isSpace c = true

theorem EndsText.suffix {s t : List Char} (ends : EndsText s) (part : t <:+ s) : EndsText t := by
  intro c last
  cases t with
  | nil => cases last
  | cons d t =>
    obtain ⟨front, rfl⟩ := part
    apply ends
    rw [List.getLast?_append_of_ne_nil _ (List.cons_ne_nil d t)]
    exact last

theorem endsText_rdropWhile (s : List Char) : EndsText (s.rdropWhile isSpace) := by
  intro c last
  by_cases nonempty : s.rdropWhile isSpace = []
  · rw [nonempty] at last
    cases last
  · have blank := List.rdropWhile_last_not isSpace s nonempty
    rw [List.getLast?_eq_some_getLast nonempty] at last
    obtain rfl := Option.some.inj last
    simpa using blank

theorem endsText_strip (s : List Char) : EndsText (strip s) := endsText_rdropWhile _

theorem EndsText.rdropWhile_eq {s : List Char} (ends : EndsText s) : s.rdropWhile isSpace = s := by
  rw [List.rdropWhile_eq_self_iff]
  intro nonempty blank
  rw [ends _ (List.getLast?_eq_some_getLast nonempty)] at blank
  cases blank

theorem dropWhile_ne_nil {s : List Char} (ends : EndsText s) (nonempty : s ≠ []) : s.dropWhile isSpace ≠ [] := by
  intro blank
  have all := List.dropWhile_eq_nil_iff.1 blank _ (List.getLast_mem nonempty)
  rw [ends _ (List.getLast?_eq_some_getLast nonempty)] at all
  cases all

theorem dropWhile_append_tail {s : List Char} (ends : EndsText s) (nonempty : s ≠ []) (tail : List Char) :
    (s ++ tail).dropWhile isSpace = s.dropWhile isSpace ++ tail := by
  rw [List.dropWhile_append, if_neg]
  simpa using dropWhile_ne_nil ends nonempty

theorem strip_append_tail {s : List Char} (ends : EndsText s) (nonempty : s ≠ []) (tail : List Char) :
    strip (s ++ tail) = strip s ++ tail.rdropWhile isSpace := by
  show ((s ++ tail).dropWhile isSpace).rdropWhile isSpace = (s.dropWhile isSpace).rdropWhile isSpace ++ _
  have ends' : EndsText (s.dropWhile isSpace) := ends.suffix (List.dropWhile_suffix _)
  rw [dropWhile_append_tail ends nonempty, ends'.rdropWhile_eq]
  induction tail using List.reverseRecOn with
  | nil => rw [List.append_nil, ends'.rdropWhile_eq, List.rdropWhile_nil, List.append_nil]
  | append_singleton tail c ih =>
    rw [← List.append_assoc]
    by_cases blank : isSpace c = true
    · rw [List.rdropWhile_concat_pos _ _ _ blank, List.rdropWhile_concat_pos _ _ _ blank, ih]
    · rw [List.rdropWhile_concat_neg _ _ _ blank, List.rdropWhile_concat_neg _ _ _ blank, List.append_assoc]

/-- Letters of a pattern are no blanks and no semicolon. -/
theorem sameLetter_tail {k c : Char} (capital : Capital k) (tail : c = ';' ∨ isSpace c = true) :
    sameLetter k c = false := by
  obtain ⟨low, high⟩ := capital
  rw [Bool.eq_false_iff]
  intro same
  simp only [sameLetter, Bool.or_eq_true, Bool.and_eq_true, decide_eq_true_eq] at same
  rcases tail with rfl | blank
  · have semicolon : ';'.toNat = 0x3b := rfl
    rw [semicolon] at same
    omega
  · simp only [isSpace, Bool.or_eq_true, Bool.and_eq_true, decide_eq_true_eq] at blank
    omega

theorem explainLetters_tail {c : Char} (tail : c = ';' ∨ isSpace c = true) :
    ∀ p ∈ explainLetters, p c = false := by
  intro p mem
  obtain ⟨k, letter, rfl⟩ := List.mem_map.1 mem
  have capital : Capitals "EXPLAIN".toList := by decide
  exact sameLetter_tail (capital k letter) tail

theorem analyzeLetters_tail {c : Char} (tail : c = ';' ∨ isSpace c = true) :
    ∀ p ∈ analyzeLetters, p c = false := by
  intro p mem
  rcases List.mem_append.1 mem with front | back
  · obtain ⟨k, letter, rfl⟩ := List.mem_map.1 front
    have capital : Capitals "ANALY".toList := by decide
    exact sameLetter_tail (capital k letter) tail
  · simp only [List.mem_cons, List.not_mem_nil, or_false] at back
    rcases back with rfl | rfl
    · have notS := sameLetter_tail (show Capital 'S' by decide) tail
      have notZ := sameLetter_tail (show Capital 'Z' by decide) tail
      exact Bool.or_eq_false_iff.2 ⟨notS, notZ⟩
    · exact sameLetter_tail (by decide) tail

theorem matchLetters_append {tail : List Char} (isTail : IsTail tail) {ps : List (Char → Bool)}
    (letters : ∀ c, c = ';' ∨ isSpace c = true → ∀ p ∈ ps, p c = false) (s : List Char) :
    matchLetters ps (s ++ tail) = (matchLetters ps s).map (· ++ tail) := by
  fun_induction matchLetters ps s with
  | case1 s => rfl
  | case2 p ps =>
    cases tail with
    | nil => rfl
    | cons c tail =>
      rw [List.nil_append, matchLetters, letters c (isTail c List.mem_cons_self) p List.mem_cons_self]
      rfl
  | case3 p ps c s here ih =>
    rw [List.cons_append, matchLetters, if_pos here]
    exact ih fun c tail p mem => letters c tail p (List.mem_cons_of_mem _ mem)
  | case4 p ps c s here =>
    rw [List.cons_append, matchLetters, if_neg here]
    rfl

/-- What is left after letters is a part of the text. -/
theorem suffix_of_matchLetters {ps : List (Char → Bool)} {s rest : List Char}
    (h : matchLetters ps s = some rest) : rest <:+ s := by
  obtain ⟨w, rfl, -⟩ := matchLetters_some.1 h
  exact List.suffix_append w rest

/-- The option list of an EXPLAIN closes before the tail. -/
theorem explainParenOptions_append {s tail : List Char} (ends : EndsText s) (nonempty : s ≠ [])
    (isTail : IsTail tail) :
    explainParenOptions (s ++ tail) = (explainParenOptions s).map fun m => (m.1, m.2 ++ tail) := by
  have front : EndsText (s.dropWhile isSpace) := ends.suffix (List.dropWhile_suffix _)
  rw [explainParenOptions, explainParenOptions, dropWhile_append_tail ends nonempty,
    matchLetters_append isTail fun c tail => explainLetters_tail tail]
  cases matched : matchLetters explainLetters (s.dropWhile isSpace) with
  | none => rfl
  | some rest =>
    have restEnds := front.suffix (suffix_of_matchLetters matched)
    rw [Option.map_some, Option.bind_some, Option.bind_some]
    have noClose : ')' ∉ tail := by
      intro mem
      rcases isTail _ mem with same | blank
      · cases same
      · cases blank
    by_cases empty : rest = []
    · -- the tail opens no list
      rw [empty, List.nil_append]
      have opens : ∀ body, tail.dropWhile isSpace ≠ '(' :: body := by
        intro body text
        have mem : '(' ∈ tail := (List.dropWhile_sublist _).mem (text ▸ List.mem_cons_self)
        rcases isTail _ mem with same | blank
        · cases same
        · cases blank
      split
      · rename_i body text
        exact absurd text (opens body)
      · rfl
    · rw [dropWhile_append_tail restEnds empty]
      cases text : rest.dropWhile isSpace with
      | nil => exact absurd text (dropWhile_ne_nil restEnds empty)
      | cons c body =>
        by_cases paren : c = '('
        · subst paren
          simp only [List.cons_append, List.mem_append, noClose, or_false]
          by_cases closes : ')' ∈ body
          · rw [if_pos closes, if_pos closes]
            have stops : ∃ c ∈ body, ¬ (decide (c ≠ ')') = true) := ⟨')', closes, by simp⟩
            have drop : (body.dropWhile (· ≠ ')')) ≠ [] := by
              intro none
              obtain ⟨c, mem, stop⟩ := stops
              exact stop (List.dropWhile_eq_nil_iff.1 none c mem)
            have take : (body.takeWhile (· ≠ ')')).length ≠ body.length := by
              intro all
              apply drop
              have whole := congrArg List.length (List.takeWhile_append_dropWhile (p := (· ≠ ')')) (l := body))
              rw [List.length_append] at whole
              exact List.eq_nil_of_length_eq_zero (by omega)
            rw [List.takeWhile_append, if_neg take, List.dropWhile_append, if_neg (by simpa using drop),
              List.tail_append_of_ne_nil drop]
            rfl
          · rw [if_neg closes, if_neg closes]
            rfl
        · rw [List.cons_append]
          split
          · rename_i other
            cases other
            exact absurd rfl paren
          · split
            · rename_i other
              cases other
              exact absurd rfl paren
            · rfl

namespace Library
variable {lib : Library}

/-- A blank is no part of a word. -/
def BlanksEndWords (lib : Library) : Prop := ∀ c, isSpace c = true → lib.isAlnum c = false

theorem isWord_tail (blanks : lib.BlanksEndWords) {c : Char} (tail : c = ';' ∨ isSpace c = true) :
    lib.isWord c = false := by
  rcases tail with rfl | blank
  · rfl
  · unfold isWord
    split
    · rename_i small
      simp only [isSpace, Bool.or_eq_true, Bool.and_eq_true, decide_eq_true_eq] at blank
      simp only [isLetter, isDecimal, Bool.or_eq_false_iff, Bool.and_eq_false_iff, decide_eq_false_iff_not]
      omega
    · exact blanks c blank

theorem endsWord_append (blanks : lib.BlanksEndWords) {tail : List Char} (isTail : IsTail tail) (rest : List Char) :
    lib.endsWord (rest ++ tail) = lib.endsWord rest := by
  cases rest with
  | cons c rest => rfl
  | nil =>
    cases tail with
    | nil => rfl
    | cons c tail =>
      show (!lib.isWord c) = true
      rw [isWord_tail blanks (isTail c List.mem_cons_self)]
      rfl

/-- A word of a pattern ends before the tail. -/
theorem filter_endsWord_append (blanks : lib.BlanksEndWords) {tail : List Char} (isTail : IsTail tail)
    (found : Option (List Char)) :
    (found.map (· ++ tail)).filter lib.endsWord = (found.filter lib.endsWord).map (· ++ tail) := by
  cases found with
  | none => rfl
  | some rest =>
    rw [Option.map_some, Option.filter_some, Option.filter_some, endsWord_append blanks isTail]
    split <;> rfl

theorem explainKeyword_append (blanks : lib.BlanksEndWords) {s tail : List Char} (ends : EndsText s)
    (nonempty : s ≠ []) (isTail : IsTail tail) :
    lib.explainKeyword (s ++ tail) = (lib.explainKeyword s).map (· ++ tail) := by
  rw [explainKeyword, explainKeyword, dropWhile_append_tail ends nonempty,
    matchLetters_append isTail fun c tail => explainLetters_tail tail, filter_endsWord_append blanks isTail]

theorem explainBareAnalyze_append (blanks : lib.BlanksEndWords) {s tail : List Char} (ends : EndsText s)
    (nonempty : s ≠ []) (isTail : IsTail tail) :
    lib.explainBareAnalyze (s ++ tail) = (lib.explainBareAnalyze s).map (· ++ tail) := by
  have front : EndsText (s.dropWhile isSpace) := ends.suffix (List.dropWhile_suffix _)
  rw [explainBareAnalyze, explainBareAnalyze, dropWhile_append_tail ends nonempty,
    matchLetters_append isTail fun c tail => explainLetters_tail tail]
  cases matched : matchLetters explainLetters (s.dropWhile isSpace) with
  | none => rfl
  | some rest =>
    have restEnds := front.suffix (suffix_of_matchLetters matched)
    rw [Option.map_some, Option.bind_some, Option.bind_some]
    by_cases empty : rest = []
    · -- no ANALYZE in the tail
      have none : matchLetters analyzeLetters (tail.dropWhile isSpace) = none := by
        have tail' : IsTail (tail.dropWhile isSpace) :=
          fun c mem => isTail c ((List.dropWhile_sublist _).mem mem)
        have both := matchLetters_append tail' (fun c tail => analyzeLetters_tail tail) []
        rw [List.nil_append] at both
        rw [both]
        rfl
      rw [empty, List.nil_append, none]
      split <;> rfl
    · have head : (rest ++ tail).head? = rest.head? := List.head?_append_of_ne_nil rest empty
      rw [head, dropWhile_append_tail restEnds empty]
      split
      · rw [matchLetters_append isTail fun c tail => analyzeLetters_tail tail, filter_endsWord_append blanks isTail]
      · rfl

/-- An EXPLAIN analyzes with the tail or without it, and the same statement is left. -/
theorem explainHeader_append (blanks : lib.BlanksEndWords) {s tail : List Char} (ends : EndsText s)
    (nonempty : s ≠ []) (isTail : IsTail tail) :
    (lib.explainHeader (s ++ tail)).1 = (lib.explainHeader s).1 ∧
      ((lib.explainHeader s).1 = true →
        (lib.explainHeader (s ++ tail)).2 = (lib.explainHeader s).2 ++ tail ∧
        (lib.explainHeader s).2 <:+ s) := by
  unfold explainHeader
  rw [explainParenOptions_append ends nonempty isTail, explainBareAnalyze_append blanks ends nonempty isTail]
  cases paren : explainParenOptions s with
  | some m =>
    refine ⟨rfl, fun _ => ⟨rfl, ?_⟩⟩
    obtain ⟨rest, matched, body⟩ := Option.bind_eq_some_iff.1 paren
    split at body
    · rename_i body' opened
      split at body
      · cases body
        have inRest : body' <:+ rest := (List.suffix_cons _ _).trans (opened ▸ List.dropWhile_suffix _)
        exact ((List.tail_suffix _).trans (List.dropWhile_suffix _)).trans
          (inRest.trans ((suffix_of_matchLetters matched).trans (List.dropWhile_suffix _)))
      · cases body
    · cases body
  | none =>
    cases bare : lib.explainBareAnalyze s with
    | some remainder =>
      refine ⟨rfl, fun _ => ⟨rfl, ?_⟩⟩
      obtain ⟨rest, matched, analyze⟩ := Option.bind_eq_some_iff.1 bare
      split at analyze
      · have inRest := suffix_of_matchLetters (Option.filter_eq_some_iff.1 analyze).1
        exact (inRest.trans (List.dropWhile_suffix _)).trans
          ((suffix_of_matchLetters matched).trans (List.dropWhile_suffix _))
      · cases analyze
    | none => exact ⟨rfl, fun no => by cases no⟩

end Library

end MeadowOps.Query
