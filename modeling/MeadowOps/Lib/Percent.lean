import MeadowOps.Lib.PyText

/-!
# Percent-encoding

The bytes of a text in UTF-8, each written as itself or as `%` and two digits.
-/

namespace MeadowOps.Lib

/-- The characters that are never encoded. -/
def isUnreserved (c : Char) : Bool :=
  isLetter c || isDecimal c || c = '_' || c = '.' || c = '-' || c = '~'

/-- An upper-case hexadecimal digit. -/
def upperDigit (n : ℕ) : Char := Char.ofNat (if n < 10 then 0x30 + n else 0x37 + n)

def percentEncode (b : UInt8) : List Char :=
  if isUnreserved (Char.ofNat b.toNat) then [Char.ofNat b.toNat]
  else ['%', upperDigit (b.toNat / 16), upperDigit (b.toNat % 16)]

/-- The bytes of a text; there are none where a `%` is without its digits or a character is not ASCII. -/
def percentDecode : List Char → Option (List UInt8)
  | [] => some []
  | '%' :: hi :: lo :: s => do
    let h ← hexValue hi
    let l ← hexValue lo
    let bytes ← percentDecode s
    some (UInt8.ofNat (16 * h + l) :: bytes)
  | c :: s => if c = '%' ∨ 0x80 ≤ c.toNat then none else (percentDecode s).map (UInt8.ofNat c.toNat :: ·)

def utf8Encode (s : List Char) : List UInt8 := s.flatMap String.utf8EncodeChar

def utf8Decode (bytes : List UInt8) : Option (List Char) := bytes.toByteArray.utf8Decode?.map Array.toList

/-- `urllib.parse.quote(s, safe="")`. -/
def quote (s : List Char) : List Char := (utf8Encode s).flatMap percentEncode

def unquote (s : List Char) : Option (List Char) := (percentDecode s).bind utf8Decode

theorem utf8Decode_utf8Encode (s : List Char) : utf8Decode (utf8Encode s) = some s := by
  have bytes : (utf8Encode s).toByteArray = s.utf8Encode := rfl
  rw [utf8Decode, bytes, List.utf8Decode?_utf8Encode]
  rfl

theorem unreserved_byte : ∀ n : Fin 256, isUnreserved (Char.ofNat n) = true →
    Char.ofNat n ≠ '%' ∧ (Char.ofNat n).toNat = n ∧ n.val < 0x80 := by
  decide +kernel

theorem hexValue_upperDigit : ∀ d : Fin 16, hexValue (upperDigit d) = some d.val ∧ isUnreserved (upperDigit d) := by
  decide

theorem percentDecode_percentEncode (b : UInt8) (s : List Char) :
    percentDecode (percentEncode b ++ s) = (percentDecode s).map (b :: ·) := by
  have small : b.toNat < 256 := b.toNat_lt
  unfold percentEncode
  split
  · rename_i plain
    obtain ⟨percent, value, ascii⟩ := unreserved_byte ⟨b.toNat, small⟩ plain
    rw [List.singleton_append, percentDecode, if_neg, value]
    · simp
    · rintro (here | large)
      · exact percent here
      · rw [value] at large
        exact absurd ascii (not_lt.2 large)
    · rintro hi lo rest same -
      exact percent same
  · have high := (hexValue_upperDigit ⟨b.toNat / 16, by omega⟩).1
    have low := (hexValue_upperDigit ⟨b.toNat % 16, by omega⟩).1
    have whole : 16 * (b.toNat / 16) + b.toNat % 16 = b.toNat := Nat.div_add_mod ..
    simp only [List.cons_append, List.nil_append, percentDecode, high, low, Option.bind_eq_bind, Option.bind_some,
      whole, UInt8.ofNat_toNat]
    cases percentDecode s <;> rfl

theorem percentDecode_flatMap (bytes : List UInt8) : percentDecode (bytes.flatMap percentEncode) = some bytes := by
  induction bytes with
  | nil => rfl
  | cons b bytes ih => rw [List.flatMap_cons, percentDecode_percentEncode, ih, Option.map_some]

theorem unquote_quote (s : List Char) : unquote (quote s) = some s := by
  rw [unquote, quote, percentDecode_flatMap, Option.bind_some, utf8Decode_utf8Encode]

theorem mem_quote {s : List Char} {c : Char} (mem : c ∈ quote s) : isUnreserved c = true ∨ c = '%' := by
  obtain ⟨b, -, here⟩ := List.mem_flatMap.1 mem
  have small : b.toNat < 256 := b.toNat_lt
  unfold percentEncode at here
  split at here
  · rename_i plain
    rw [List.mem_singleton.1 here]
    exact .inl plain
  · have high := (hexValue_upperDigit ⟨b.toNat / 16, by omega⟩).2
    have low := (hexValue_upperDigit ⟨b.toNat % 16, by omega⟩).2
    simp only [List.mem_cons, List.not_mem_nil, or_false] at here
    rcases here with rfl | rfl | rfl
    · exact .inr rfl
    · exact .inl high
    · exact .inl low

example : quote "评 a".toList = "%E8%AF%84%20a".toList := by decide +kernel

end MeadowOps.Lib
