import MeadowOps.Lib.HeaderValue

/-!
# The name under which an attachment is downloaded: `_content_disposition_header_value`

The name is the uploader's, and goes into the header twice: without the characters that a quoted text
cannot hold, and percent-encoded.
-/

namespace MeadowOps.Chat

open Lib

/-- A character of the fallback. -/
def isFallbackChar (ch : Char) : Bool := ' ' ≤ ch && ch ≤ '~' && !"\"\\/".toList.contains ch

/-- `original_filename[:255]`. -/
def truncated (originalFilename : String) : List Char := originalFilename.toList.take 255

def asciiFallback (originalFilename : String) : List Char :=
  let kept := (truncated originalFilename).filter isFallbackChar
  if kept = [] then "attachment".toList else kept

/-- `_content_disposition_header_value`. -/
def contentDispositionHeaderValue (originalFilename : String) : String :=
  "attachment; filename=\"" ++ String.ofList (asciiFallback originalFilename) ++ "\"; filename*=UTF-8''" ++
    String.ofList (quote (truncated originalFilename))

/-- The name that the extended notation holds, of those in UTF-8. -/
def decodedName (value : List Char) : Option (List Char) := do
  let (charset, _, text) ← extendedValue value
  if charset = "UTF-8".toList then unquote text else none

/-- A printable character of ASCII. -/
def IsPrintable (c : Char) : Prop := ' ' ≤ c ∧ c ≤ '~'

instance (c : Char) : Decidable (IsPrintable c) := inferInstanceAs (Decidable (_ ∧ _))

theorem le_toNat {c d : Char} : c ≤ d ↔ c.toNat ≤ d.toNat := Iff.rfl

theorem asciiFallback_chars (name : String) : ∀ c ∈ asciiFallback name, isFallbackChar c = true := by
  unfold asciiFallback
  dsimp only
  split
  · exact forall_chars (by decide)
  · intro c mem
    exact (List.mem_filter.1 mem).2

theorem isFallbackChar_iff {c : Char} :
    isFallbackChar c = true ↔ IsPrintable c ∧ c ≠ '"' ∧ c ≠ '\\' ∧ c ≠ '/' := by
  simp [isFallbackChar, IsPrintable]

theorem isQuotable_of_fallback {c : Char} (fallback : isFallbackChar c = true) : isQuotable c = true := by
  obtain ⟨⟨low, high⟩, quote, backslash, -⟩ := isFallbackChar_iff.1 fallback
  have c_range : 0x20 ≤ c.toNat ∧ c.toNat ≤ 0x7e := ⟨le_toNat.1 low, le_toNat.1 high⟩
  simp [isQuotable, c_range, quote, backslash]

theorem isPrintable_of_token {c : Char} (c_token : isTokenChar c = true) : IsPrintable c := by
  rw [IsPrintable, le_toNat, le_toNat]
  simp only [isTokenChar, isLetter, isDecimal, Bool.or_eq_true, Bool.and_eq_true, decide_eq_true_eq] at c_token
  have bounds : (' ').toNat = 0x20 ∧ ('~').toNat = 0x7e := by decide
  rcases c_token with ((⟨low, high⟩ | ⟨low, high⟩) | ⟨low, high⟩) | other
  · omega
  · omega
  · omega
  · have marks : ∀ d ∈ "!#$%&'*+-.^_`|~".toList, 0x20 ≤ d.toNat ∧ d.toNat ≤ 0x7e := forall_chars (by decide)
    have here := marks c (List.contains_iff_mem.1 other)
    omega

/-- The text that `filename*` is given. -/
def extendedName (name : String) : List Char := "UTF-8''".toList ++ quote (truncated name)

theorem extendedName_chars (name : String) : ∀ c ∈ extendedName name, isTokenChar c = true := by
  have charset_chars : ∀ c ∈ "UTF-8''".toList, isTokenChar c = true := forall_chars (by decide)
  intro c mem
  rcases List.mem_append.1 mem with charset | encoded
  · exact charset_chars c charset
  · rcases mem_quote encoded with plain | rfl
    · unfold isUnreserved at plain
      unfold isTokenChar
      have marks : ∀ d ∈ "_.-~".toList, "!#$%&'*+-.^_`|~".toList.contains d = true := forall_chars (by decide)
      simp only [Bool.or_eq_true, decide_eq_true_eq] at plain ⊢
      rcases plain with ((((letter | digit) | rfl) | rfl) | rfl) | rfl
      · exact .inl (.inl letter)
      · exact .inl (.inr digit)
      all_goals exact .inr (by decide)
    · decide

theorem extendedName_ne_nil (name : String) : extendedName name ≠ [] :=
  List.append_ne_nil_of_left_ne_nil (by decide) _

/-- The header as a kind and two parameters. -/
def writtenParameters (name : String) : List Char :=
  ';' :: ' ' :: ("filename".toList ++ '=' :: '"' :: (asciiFallback name ++ '"' ::
    (';' :: ' ' :: ("filename*".toList ++ '=' :: (extendedName name ++ [])))))

theorem contentDispositionHeaderValue_toList (name : String) :
    (contentDispositionHeaderValue name).toList = "attachment".toList ++ writtenParameters name := by
  have fallback : (String.ofList (asciiFallback name)).toList = asciiFallback name := String.toList_ofList
  have encoded : (String.ofList (quote (truncated name))).toList = quote (truncated name) := String.toList_ofList
  unfold contentDispositionHeaderValue writtenParameters extendedName
  simp only [String.toList_append, fallback, encoded, String.reduceToList, List.cons_append, List.append_assoc,
    List.nil_append, List.append_nil]

/-- What a reader of the header finds. -/
theorem parse_contentDispositionHeaderValue (name : String) :
    parseHeaderValue (contentDispositionHeaderValue name).toList =
      some ⟨"attachment".toList,
        [("filename".toList, asciiFallback name), ("filename*".toList, extendedName name)]⟩ := by
  have kind : token ("attachment".toList ++ writtenParameters name) = some ("attachment".toList, writtenParameters name) :=
    token_append (by decide) (forall_chars (by decide)) fun c here => by rw [← Option.some.inj here]; decide
  have extended : parameter (';' :: ' ' :: ("filename*".toList ++ '=' :: (extendedName name ++ []))) =
      some (("filename*".toList, extendedName name), []) :=
    parameter_token [] (by decide) (forall_chars (by decide)) (extendedName_ne_nil name) (extendedName_chars name) (by simp)
  have fallback : parameter (writtenParameters name) = some (("filename".toList, asciiFallback name),
      ';' :: ' ' :: ("filename*".toList ++ '=' :: (extendedName name ++ []))) :=
    parameter_quoted _ (by decide) (forall_chars (by decide)) fun c mem => isQuotable_of_fallback (asciiFallback_chars name c mem)
  rw [contentDispositionHeaderValue_toList]
  exact parseHeaderValue_of_token kind (parameters_cons fallback (parameters_cons extended (parameters_nil _)))

theorem decodedName_extendedName (name : String) : decodedName (extendedName name) = some (name.toList.take 255) := by
  have read : extendedValue (extendedName name) = some ("UTF-8".toList, [], quote (truncated name)) := rfl
  rw [decodedName, read, Option.bind_eq_bind, Option.bind_some]
  dsimp only
  rw [if_pos rfl, unquote_quote, truncated]

theorem isPrintable_contentDispositionHeaderValue (name : String) :
    ∀ c ∈ (contentDispositionHeaderValue name).toList, IsPrintable c := by
  have fallback : ∀ c ∈ asciiFallback name, IsPrintable c := fun c mem =>
    (isFallbackChar_iff.1 (asciiFallback_chars name c mem)).1
  have extended : ∀ c ∈ extendedName name, IsPrintable c := fun c mem =>
    isPrintable_of_token (extendedName_chars name c mem)
  have kind : ∀ c ∈ "attachment".toList, IsPrintable c := forall_chars (by decide)
  have first : ∀ c ∈ "filename".toList, IsPrintable c := forall_chars (by decide)
  have second : ∀ c ∈ "filename*".toList, IsPrintable c := forall_chars (by decide)
  have marks : IsPrintable ';' ∧ IsPrintable ' ' ∧ IsPrintable '=' ∧ IsPrintable '"' := by decide
  rw [contentDispositionHeaderValue_toList, writtenParameters]
  simp only [List.forall_mem_append, List.forall_mem_cons, List.append_nil]
  exact ⟨kind, marks.1, marks.2.1, first, marks.2.2.1, marks.2.2.2, fallback, marks.2.2.2, marks.1, marks.2.1, second,
    marks.2.2.1, extended⟩

/-- The header is printable ASCII and names an attachment with two names: one that cannot leave its quotes
or name a directory, and one that decodes to the first 255 characters of the uploader's. -/
theorem download_name_faithful (name : String) :
    (∀ c ∈ (contentDispositionHeaderValue name).toList, IsPrintable c) ∧
    ∃ fallback extended,
      parseHeaderValue (contentDispositionHeaderValue name).toList =
        some ⟨"attachment".toList, [("filename".toList, fallback), ("filename*".toList, extended)]⟩ ∧
      (contentDispositionHeaderValue name).toList =
        "attachment; filename=\"".toList ++ fallback ++ "\"; filename*=".toList ++ extended ∧
      (∀ c ∈ fallback, c ≠ '"' ∧ c ≠ '\\' ∧ c ≠ '/') ∧
      decodedName extended = some (name.toList.take 255) := by
  refine ⟨isPrintable_contentDispositionHeaderValue name, asciiFallback name, extendedName name,
    parse_contentDispositionHeaderValue name, ?_, ?_, decodedName_extendedName name⟩
  · rw [contentDispositionHeaderValue_toList]
    unfold writtenParameters
    simp only [String.reduceToList, List.cons_append, List.append_assoc, List.nil_append, List.append_nil]
  · intro c mem
    exact (isFallbackChar_iff.1 (asciiFallback_chars name c mem)).2

end MeadowOps.Chat
