import MeadowOps.Lib.Percent

/-!
# `app/domain/attachment_validation.py`

The type of an uploaded file is read off its bytes. A text counts as CSV unless it opens with markup. What the check
skips in front of the markup is a byte-order mark, spaces, tabs and line ends, and no other whitespace.
-/

namespace MeadowOps.Chat

open Lib

def allowedContentTypes : List String := ["image/jpeg", "image/png", "image/gif", "application/pdf", "text/csv"]

def jpegMagic : List UInt8 := [0xff, 0xd8, 0xff]

def pngMagic : List UInt8 := [0x89, 0x50, 0x4e, 0x47, 0x0d, 0x0a, 0x1a, 0x0a]

/-- `GIF87a` and `GIF89a`. -/
def gifMagics : List (List UInt8) := [[0x47, 0x49, 0x46, 0x38, 0x37, 0x61], [0x47, 0x49, 0x46, 0x38, 0x39, 0x61]]

/-- `%PDF-`. -/
def pdfMagic : List UInt8 := [0x25, 0x50, 0x44, 0x46, 0x2d]

/-- `UnsupportedAttachmentTypeError`. -/
inductive UnsupportedAttachmentType where
  | unrecognised
  | notAllowed (claimed : String)
  | disagrees
  deriving DecidableEq, Repr

/-- The text of the error; `repr` is the built-in function. -/
def UnsupportedAttachmentType.message (repr : String → String) : UnsupportedAttachmentType → String
  | .unrecognised => "file content does not match an allowed attachment type (images, PDF, CSV)"
  | .notAllowed claimed => "declared content type " ++ repr claimed ++ " is not allowed"
  | .disagrees => "declared content type does not match the file's actual content"

def byteOrderMark : Char := '\ufeff'

/-- The characters given to `lstrip`. -/
def isStripped (c : Char) : Bool := c = byteOrderMark || c = ' ' || c = '\t' || c = '\r' || c = '\n'

/-- `_sniff_csv`. -/
def sniffCsv (content : List UInt8) : Option String :=
  if content.isEmpty then none
  else if 0 ∈ content then none
  else match utf8Decode content with
    | none => none
    | some text => if (text.dropWhile isStripped).head? = some '<' then none else some "text/csv"

def sniffContentType (content : List UInt8) : Option String :=
  if jpegMagic.isPrefixOf content then some "image/jpeg"
  else if pngMagic.isPrefixOf content then some "image/png"
  else if gifMagics.any (·.isPrefixOf content) then some "image/gif"
  else if pdfMagic.isPrefixOf content then some "application/pdf"
  else sniffCsv content

def validateAttachmentContent (claimedContentType : String) (content : List UInt8) :
    Except UnsupportedAttachmentType String :=
  match sniffContentType content with
  | none => .error .unrecognised
  | some sniffed =>
    if sniffed ∉ allowedContentTypes then .error .unrecognised
    else if claimedContentType ∉ allowedContentTypes then .error (.notAllowed claimedContentType)
    else if sniffed ≠ claimedContentType then .error .disagrees
    else .ok sniffed

/-! ## The type of a content -/

/-- The property `White_Space` of a character. -/
def isWhiteSpace (c : Char) : Bool :=
  let n := c.toNat
  (0x09 ≤ n && n ≤ 0x0d) || n = 0x20 || n = 0x85 || n = 0xa0 || n = 0x1680 || (0x2000 ≤ n && n ≤ 0x200a) ||
    n = 0x2028 || n = 0x2029 || n = 0x202f || n = 0x205f || n = 0x3000

/-- The first character that is neither a byte-order mark nor whitespace. -/
def firstVisible (text : List Char) : Option Char := text.find? fun c => !(c = byteOrderMark || isWhiteSpace c)

/-- What the first bytes say. -/
inductive Signed (content : List UInt8) : String → Prop
  | jpeg (h : jpegMagic <+: content) : Signed content "image/jpeg"
  | png (h : pngMagic <+: content) : Signed content "image/png"
  | gif (magic : List UInt8) (mem : magic ∈ gifMagics) (h : magic <+: content) : Signed content "image/gif"
  | pdf (h : pdfMagic <+: content) : Signed content "application/pdf"

/-- A text without NUL bytes. -/
structure PlainText (content : List UInt8) (text : List Char) : Prop where
  nonempty : content ≠ []
  noNul : 0 ∉ content
  decodes : utf8Decode content = some text

inductive ContentType (content : List UInt8) : String → Prop
  | signed (t : String) (h : Signed content t) : ContentType content t
  | csv (unsigned : ∀ t, ¬ Signed content t) (text : List Char) (plain : PlainText content text)
      (noMarkup : firstVisible text ≠ some '<') : ContentType content "text/csv"

/-- The check accepts a claim of the content's own type, and returns it. -/
def SniffsExactly (claimed : String) (content : List UInt8) : Prop :=
  ∀ t, validateAttachmentContent claimed content = .ok t ↔
    claimed ∈ allowedContentTypes ∧ ContentType content claimed ∧ t = claimed

/-- Markup claimed to be CSV, behind whitespace that is not stripped. -/
structure PaddedMarkup (claimed : String) (content : List UInt8) (text : List Char) : Prop where
  claimed : claimed = "text/csv"
  unsigned : ∀ t, ¬ Signed content t
  plain : PlainText content text
  padded : ∃ c, (text.dropWhile isStripped).head? = some c ∧ isWhiteSpace c = true
  markup : firstVisible text = some '<'

/-! ## What the check computes -/

section Sniff

variable {claimed t : String} {content : List UInt8} {text : List Char}

/-- No content has two signatures. -/
theorem Signed.sniffed (h : Signed content t) : sniffContentType content = some t := by
  cases h with
  | jpeg h =>
    obtain ⟨rest, rfl⟩ := h
    rfl
  | png h =>
    obtain ⟨rest, rfl⟩ := h
    rfl
  | gif magic mem h =>
    obtain ⟨rest, rfl⟩ := h
    rw [gifMagics, List.mem_cons, List.mem_singleton] at mem
    rcases mem with rfl | rfl
    · rfl
    · rfl
  | pdf h =>
    obtain ⟨rest, rfl⟩ := h
    rfl

theorem sniffContentType_unsigned (unsigned : ∀ t, ¬ Signed content t) : sniffContentType content = sniffCsv content := by
  have jpeg : ¬ jpegMagic.isPrefixOf content = true :=
    fun found => unsigned _ (.jpeg (List.isPrefixOf_iff_prefix.1 found))
  have png : ¬ pngMagic.isPrefixOf content = true :=
    fun found => unsigned _ (.png (List.isPrefixOf_iff_prefix.1 found))
  have gif : ¬ gifMagics.any (·.isPrefixOf content) = true := by
    intro found
    obtain ⟨magic, mem, found⟩ := List.any_eq_true.1 found
    exact unsigned _ (.gif magic mem (List.isPrefixOf_iff_prefix.1 found))
  have pdf : ¬ pdfMagic.isPrefixOf content = true :=
    fun found => unsigned _ (.pdf (List.isPrefixOf_iff_prefix.1 found))
  rw [sniffContentType, if_neg jpeg, if_neg png, if_neg gif, if_neg pdf]

theorem sniffCsv_eq_some : sniffCsv content = some t ↔
    t = "text/csv" ∧ ∃ text, PlainText content text ∧ (text.dropWhile isStripped).head? ≠ some '<' := by
  unfold sniffCsv
  constructor
  · intro sniffed
    split at sniffed
    · cases sniffed
    · rename_i nonempty
      split at sniffed
      · cases sniffed
      · rename_i noNul
        split at sniffed
        · cases sniffed
        · rename_i text decodes
          split at sniffed
          · cases sniffed
          · rename_i opens
            cases sniffed
            exact ⟨rfl, text, ⟨by simpa using nonempty, noNul, decodes⟩, opens⟩
  · rintro ⟨rfl, text, plain, opens⟩
    have nonempty : ¬ content.isEmpty = true := by simpa using plain.nonempty
    rw [if_neg nonempty, if_neg plain.noNul, plain.decodes]
    exact if_neg opens

theorem Signed.allowed (h : Signed content t) : t ∈ allowedContentTypes := by
  cases h <;> decide

/-- A content is accepted as what it is sniffed as. -/
theorem validateAttachmentContent_ok : validateAttachmentContent claimed content = .ok t ↔
    sniffContentType content = some claimed ∧ t = claimed := by
  have allowed : ∀ sniffed, sniffContentType content = some sniffed → sniffed ∈ allowedContentTypes := by
    intro sniffed found
    by_cases signed : ∃ t, Signed content t
    · obtain ⟨t, signed⟩ := signed
      obtain rfl := Option.some.inj (found.symm.trans signed.sniffed)
      exact signed.allowed
    · rw [sniffContentType_unsigned (not_exists.1 signed)] at found
      rw [(sniffCsv_eq_some.1 found).1]
      decide
  unfold validateAttachmentContent
  cases found : sniffContentType content with
  | none => simp
  | some sniffed =>
    dsimp only
    rw [if_neg (not_not_intro (allowed sniffed found))]
    by_cases same : sniffed = claimed
    · subst same
      rw [if_neg (not_not_intro (allowed sniffed found)), if_neg (not_not_intro rfl)]
      simp [eq_comm]
    · constructor
      · intro accepted
        split at accepted
        · cases accepted
        · cases accepted
      · rintro ⟨eq, -⟩
        exact absurd (Option.some.inj eq) same

/-! ## What stands in front of markup -/

theorem isStripped_hidden {c : Char} (stripped : isStripped c = true) :
    (c = byteOrderMark || isWhiteSpace c : Bool) = true := by
  simp only [isStripped, Bool.or_eq_true, decide_eq_true_eq] at stripped
  rcases stripped with (((rfl | rfl) | rfl) | rfl) | rfl
  all_goals decide

/-- What is stripped does not matter. -/
theorem firstVisible_stripped (text : List Char) : firstVisible (text.dropWhile isStripped) = firstVisible text := by
  induction text with
  | nil => rfl
  | cons c text ih =>
    by_cases stripped : isStripped c = true
    · rw [List.dropWhile_cons_of_pos stripped, ih, firstVisible, firstVisible, List.find?_cons_of_neg]
      simp [isStripped_hidden stripped]
    · rw [List.dropWhile_cons_of_neg stripped]

/-- Markup is overlooked behind whitespace that is not stripped, and only there. -/
theorem overlooked_iff : firstVisible text = some '<' ∧ (text.dropWhile isStripped).head? ≠ some '<' ↔
    firstVisible text = some '<' ∧ ∃ c, (text.dropWhile isStripped).head? = some c ∧ isWhiteSpace c = true := by
  rw [← firstVisible_stripped text]
  refine and_congr_right fun markup => ?_
  cases rest : text.dropWhile isStripped with
  | nil =>
    rw [rest] at markup
    cases markup
  | cons c rest' =>
    have shown : ¬ isStripped c = true := by
      have head := List.head?_dropWhile_not isStripped text
      rw [rest] at head
      simpa using head
    rw [rest, firstVisible] at markup
    by_cases white : isWhiteSpace c = true
    · have other : c ≠ '<' := by
        rintro rfl
        exact absurd white (by decide)
      simp [white, other]
    · have mark : c ≠ byteOrderMark := by
        rintro rfl
        exact shown (by decide)
      rw [List.find?_cons_of_pos (by simp [white, mark])] at markup
      obtain rfl := Option.some.inj markup
      refine iff_of_false (fun other => other rfl) ?_
      rintro ⟨c, head, space⟩
      obtain rfl := Option.some.inj head
      exact white space

/-- For any claim and any bytes, the check is exact unless the bytes are markup behind whitespace that is not stripped,
claimed to be CSV. -/
theorem sniffs_exactly_iff (claimed : String) (content : List UInt8) :
    SniffsExactly claimed content ↔ ¬ ∃ text, PaddedMarkup claimed content text := by
  have exact_iff : SniffsExactly claimed content ↔ (sniffContentType content = some claimed ↔
      claimed ∈ allowedContentTypes ∧ ContentType content claimed) := by
    unfold SniffsExactly
    simp only [validateAttachmentContent_ok]
    constructor
    · intro all
      have here := all claimed
      simpa using here
    · intro same t
      rw [same, and_assoc]
  rw [exact_iff]
  by_cases signed : ∃ t, Signed content t
  · obtain ⟨t, signed⟩ := signed
    rw [signed.sniffed]
    refine iff_of_true ⟨?_, ?_⟩ ?_
    · rintro same
      obtain rfl := Option.some.inj same
      exact ⟨signed.allowed, .signed t signed⟩
    · rintro ⟨-, type⟩
      cases type with
      | signed _ other => exact congrArg some (Option.some.inj (signed.sniffed.symm.trans other.sniffed))
      | csv unsigned => exact absurd signed (unsigned t)
    · rintro ⟨text, padded⟩
      exact padded.unsigned t signed
  · have unsigned := not_exists.1 signed
    rw [sniffContentType_unsigned unsigned, sniffCsv_eq_some]
    constructor
    · rintro same ⟨text, padded⟩
      have overlooked := (overlooked_iff.2 ⟨padded.markup, padded.padded⟩).2
      obtain ⟨-, type⟩ := same.1 ⟨padded.claimed, text, padded.plain, overlooked⟩
      cases type with
      | signed _ other => exact unsigned _ other
      | csv _ text' plain noMarkup =>
        obtain rfl := Option.some.inj (plain.decodes.symm.trans padded.plain.decodes)
        exact noMarkup padded.markup
    · intro none
      constructor
      · rintro ⟨rfl, text, plain, opens⟩
        refine ⟨by decide, .csv unsigned text plain fun markup => none ⟨text, ?_⟩⟩
        exact ⟨rfl, unsigned, plain, (overlooked_iff.1 ⟨markup, opens⟩).2, markup⟩
      · rintro ⟨-, type⟩
        cases type with
        | signed _ other => exact absurd other (unsigned _)
        | csv _ text plain noMarkup =>
          refine ⟨rfl, text, plain, fun opens => noMarkup ?_⟩
          rw [← firstVisible_stripped, firstVisible]
          cases rest : text.dropWhile isStripped with
          | nil =>
            rw [rest] at opens
            cases opens
          | cons c rest' =>
            rw [rest, List.head?_cons] at opens
            obtain rfl := Option.some.inj opens
            rfl

/-- `<html>` behind a form feed. -/
def formFeedMarkup : List Char := '\x0c' :: "<html>".toList

/-- Markup behind a form feed is accepted as CSV. -/
theorem formFeed_accepted :
    validateAttachmentContent "text/csv" (utf8Encode formFeedMarkup) = .ok "text/csv" ∧
      ¬ SniffsExactly "text/csv" (utf8Encode formFeedMarkup) := by
  have unsigned : ∀ t, ¬ Signed (utf8Encode formFeedMarkup) t := by
    intro t signed
    cases signed with
    | jpeg h => exact absurd h (by decide)
    | png h => exact absurd h (by decide)
    | gif magic mem h =>
      have none : ∀ magic ∈ gifMagics, ¬ magic <+: utf8Encode formFeedMarkup := by decide
      exact none magic mem h
    | pdf h => exact absurd h (by decide)
  have plain : PlainText (utf8Encode formFeedMarkup) formFeedMarkup :=
    ⟨by decide, by decide, utf8Decode_utf8Encode formFeedMarkup⟩
  have accepted : validateAttachmentContent "text/csv" (utf8Encode formFeedMarkup) = .ok "text/csv" := by
    rw [validateAttachmentContent_ok, sniffContentType_unsigned unsigned, sniffCsv_eq_some]
    exact ⟨⟨rfl, formFeedMarkup, plain, by decide⟩, rfl⟩
  refine ⟨accepted, fun exact => ?_⟩
  obtain ⟨-, type, -⟩ := (exact "text/csv").1 accepted
  cases type with
  | signed _ other => exact unsigned _ other
  | csv _ text decoded noMarkup =>
    obtain rfl := Option.some.inj (decoded.decodes.symm.trans plain.decodes)
    exact noMarkup (by decide)

end Sniff

end MeadowOps.Chat
