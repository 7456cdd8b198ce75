import MeadowOps.Lib.Percent

/-!
# Header values with parameters

`type; name=token; name="quoted text"`, and the extended notation `charset'language'text` of a parameter
whose name ends in `*`.
-/

namespace MeadowOps.Lib

/-- The check runs over the text, and not over every character. -/
theorem forall_chars {p : Char → Prop} [DecidablePred p] {text : List Char}
    (all : (text.all fun c => decide (p c)) = true) : ∀ c ∈ text, p c :=
  fun c mem => of_decide_eq_true (List.all_eq_true.1 all c mem)

/-- A value with its parameters in the order they were written. -/
structure HeaderValue where
  kind : List Char
  parameters : List (List Char × List Char)
  deriving DecidableEq, Repr

def isTokenChar (c : Char) : Bool := isLetter c || isDecimal c || "!#$%&'*+-.^_`|~".toList.contains c

/-- The characters that stand for themselves between quotes, of those in ASCII. -/
def isQuotable (c : Char) : Bool := 0x20 ≤ c.toNat && c.toNat ≤ 0x7e && c != '"' && c != '\\'

def token (s : List Char) : Option (List Char × List Char) :=
  let name := s.takeWhile isTokenChar
  if name = [] then none else some (name, s.dropWhile isTokenChar)

/-- What stands before the closing quote, and what follows it. -/
def quotedText : List Char → Option (List Char × List Char)
  | [] => none
  | '"' :: s => some ([], s)
  | '\\' :: c :: s => (quotedText s).map fun read => (c :: read.1, read.2)
  -- A lone backslash at the end is not quotable.
  | c :: s => if isQuotable c then (quotedText s).map fun read => (c :: read.1, read.2) else none

def parameterValue : List Char → Option (List Char × List Char)
  | '"' :: s => quotedText s
  | s => token s

/-- Blanks, and then the character. -/
def punctuation (c : Char) (s : List Char) : Option (List Char) :=
  match s.dropWhile (· = ' ') with
  | [] => none
  | d :: s => if d = c then some s else none

/-- `; name=value`. -/
def parameter (s : List Char) : Option ((List Char × List Char) × List Char) := do
  let s ← punctuation ';' s
  let (name, s) ← token (s.dropWhile (· = ' '))
  let s ← punctuation '=' s
  let (value, s) ← parameterValue s
  some ((name, value), s)

/-- At most `n` parameters, and no text after them. -/
def parameters : ℕ → List Char → Option (List (List Char × List Char))
  | _, [] => some []
  | 0, _ :: _ => none
  | n + 1, s => do
    let (first, s) ← parameter s
    (parameters n s).map (first :: ·)

def parseHeaderValue (s : List Char) : Option HeaderValue := do
  let (kind, s) ← token s
  (parameters s.length s).map (HeaderValue.mk kind)

/-- `charset'language'text`. -/
def extendedValue (s : List Char) : Option (List Char × List Char × List Char) := do
  let (charset, s) ← upTo s
  let (language, text) ← upTo s
  some (charset, language, text)
where
  /-- The text before the first apostrophe, and the text after it. -/
  upTo : List Char → Option (List Char × List Char)
    | [] => none
    | c :: s => if c = '\'' then some ([], s) else (upTo s).map fun read => (c :: read.1, read.2)

theorem token_append {name rest : List Char} (some_char : name ≠ []) (chars : ∀ c ∈ name, isTokenChar c = true)
    (stop : ∀ c ∈ rest.head?, isTokenChar c = false) : token (name ++ rest) = some (name, rest) := by
  have after : rest.takeWhile isTokenChar = [] ∧ rest.dropWhile isTokenChar = rest := by
    cases rest with
    | nil => exact ⟨rfl, rfl⟩
    | cons c rest =>
      have c_stops : isTokenChar c = false := stop c rfl
      constructor
      · rw [List.takeWhile_cons_of_neg (by simp [c_stops])]
      · rw [List.dropWhile_cons_of_neg (by simp [c_stops])]
  have read : (name ++ rest).takeWhile isTokenChar = name := by
    rw [List.takeWhile_append_of_pos chars, after.1, List.append_nil]
  have left : (name ++ rest).dropWhile isTokenChar = rest := by
    rw [List.dropWhile_append_of_pos chars, after.2]
  rw [token, read, left, if_neg some_char]

theorem quotedText_append {text : List Char} (rest : List Char) (chars : ∀ c ∈ text, isQuotable c = true) :
    quotedText (text ++ '"' :: rest) = some (text, rest) := by
  induction text with
  | nil => rfl
  | cons c text ih =>
    have c_plain : isQuotable c = true := chars c List.mem_cons_self
    have not_special : c ≠ '"' ∧ c ≠ '\\' := by simp_all [isQuotable]
    rw [List.cons_append, quotedText, if_pos c_plain, ih fun d mem => chars d (List.mem_cons_of_mem c mem)]
    · rfl
    · exact not_special.1
    · rintro d s rfl
      exact absurd rfl not_special.2

theorem parseHeaderValue_of_token {s kind rest : List Char} {read : List (List Char × List Char)}
    (first : token s = some (kind, rest)) (others : parameters rest.length rest = some read) :
    parseHeaderValue s = some ⟨kind, read⟩ := by
  rw [parseHeaderValue, first, Option.bind_eq_bind, Option.bind_some]
  dsimp only
  rw [others, Option.map_some]

theorem parameters_cons {n : ℕ} {s rest : List Char} {first : List Char × List Char}
    {read : List (List Char × List Char)} (here : parameter s = some (first, rest))
    (others : parameters n rest = some read) : parameters (n + 1) s = some (first :: read) := by
  cases s with
  | nil => cases here
  | cons c s =>
    rw [parameters, here, Option.bind_eq_bind, Option.bind_some]
    · dsimp only
      rw [others, Option.map_some]
    · exact List.cons_ne_nil c s

@[simp] theorem parameters_nil (n : ℕ) : parameters n [] = some [] := by
  cases n <;> rfl

section Written

variable {name : List Char} (rest : List Char) (some_char : name ≠ []) (chars : ∀ c ∈ name, isTokenChar c = true)
include some_char chars

theorem token_equals : token (name ++ '=' :: rest) = some (name, '=' :: rest) :=
  token_append some_char chars fun c here => by rw [← Option.some.inj here]; decide

/-- A token starts with neither a blank nor a quote. -/
theorem token_head : ∃ c s, name = c :: s ∧ c ≠ ' ' ∧ c ≠ '"' := by
  obtain ⟨c, s, rfl⟩ := List.exists_cons_of_ne_nil some_char
  have c_token : isTokenChar c = true := chars c List.mem_cons_self
  refine ⟨c, s, rfl, ?_, ?_⟩
  · rintro rfl
    exact absurd c_token (by decide)
  · rintro rfl
    exact absurd c_token (by decide)

/-- A parameter is read up to its value. -/
theorem parameter_value (value : List Char) :
    parameter (';' :: ' ' :: (name ++ '=' :: value)) =
      (parameterValue value).map fun read => ((name, read.1), read.2) := by
  obtain ⟨c, s, same, not_blank, -⟩ := token_head some_char chars
  have no_blanks : (' ' :: (name ++ '=' :: value)).dropWhile (· = ' ') = name ++ '=' :: value := by
    rw [List.dropWhile_cons_of_pos (by simp), same, List.cons_append,
      List.dropWhile_cons_of_neg (by simpa using not_blank)]
  have semicolon : punctuation ';' (';' :: ' ' :: (name ++ '=' :: value)) = some (' ' :: (name ++ '=' :: value)) := rfl
  have equals : punctuation '=' ('=' :: value) = some value := rfl
  rw [parameter, semicolon, Option.bind_eq_bind, Option.bind_some, no_blanks, token_equals value some_char chars,
    Option.bind_eq_bind, Option.bind_some]
  dsimp only
  rw [equals, Option.bind_some]
  cases parameterValue value <;> rfl

theorem parameter_quoted {text : List Char} (plain : ∀ c ∈ text, isQuotable c = true) :
    parameter (';' :: ' ' :: (name ++ '=' :: '"' :: (text ++ '"' :: rest))) = some ((name, text), rest) := by
  rw [parameter_value some_char chars, parameterValue, quotedText_append rest plain, Option.map_some]

theorem parameter_token {text : List Char} (some_text : text ≠ []) (text_chars : ∀ c ∈ text, isTokenChar c = true)
    (stop : ∀ c ∈ rest.head?, isTokenChar c = false) :
    parameter (';' :: ' ' :: (name ++ '=' :: (text ++ rest))) = some ((name, text), rest) := by
  obtain ⟨c, s, same, -, not_quote⟩ := token_head some_text text_chars
  have unquoted : parameterValue (text ++ rest) = token (text ++ rest) := by
    rw [same, List.cons_append, parameterValue]
    rintro t here
    exact not_quote (List.cons.inj here).1
  rw [parameter_value some_char chars, unquoted, token_append some_text text_chars stop, Option.map_some]

end Written

end MeadowOps.Lib
