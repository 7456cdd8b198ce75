import Mathlib.Data.Rat.Floor
import Mathlib.Algebra.Order.Floor.Ring
import Mathlib.Data.List.DropRight

/-!
# Texts as Python renders them
-/

namespace MeadowOps.Lib

/-- `str.isspace` of one character; also what `\s` matches in a pattern. -/
def isSpace (c : Char) : Bool :=
  let n := c.toNat
  (0x09 ≤ n && n ≤ 0x0d) || (0x1c ≤ n && n ≤ 0x20) || n = 0x85 || n = 0xa0 || n = 0x1680 ||
    (0x2000 ≤ n && n ≤ 0x200a) || n = 0x2028 || n = 0x2029 || n = 0x202f || n = 0x205f || n = 0x3000

/-- An ASCII letter. -/
def isLetter (c : Char) : Bool :=
  (0x41 ≤ c.toNat && c.toNat ≤ 0x5a) || (0x61 ≤ c.toNat && c.toNat ≤ 0x7a)

/-- An ASCII digit. -/
def isDecimal (c : Char) : Bool := 0x30 ≤ c.toNat && c.toNat ≤ 0x39

/-- `s.strip()`. -/
def strip (s : List Char) : List Char := (s.dropWhile isSpace).reverse.dropWhile isSpace |>.reverse

theorem strip_length (s : List Char) : (strip s).length ≤ s.length := by
  unfold strip
  rw [List.length_reverse]
  refine Nat.le_trans (List.dropWhile_sublist _).length_le ?_
  rw [List.length_reverse]
  exact (List.dropWhile_sublist _).length_le

/-- A text that ends a stripped one has no spaces at its end. -/
theorem strip_of_suffix {s t : List Char} (h : t <:+ strip s) : strip t = t.dropWhile isSpace := by
  show (t.dropWhile isSpace).rdropWhile isSpace = _
  rw [List.rdropWhile_eq_self_iff]
  intro ne space
  have ends : t.dropWhile isSpace <:+ strip s := (List.dropWhile_suffix _).trans h
  rw [ends.getLast ne] at space
  exact List.rdropWhile_last_not isSpace (s.dropWhile isSpace) _ space

theorem dropWhile_strip (s : List Char) : (strip s).dropWhile isSpace = strip s := by
  have front : strip s <+: s.dropWhile isSpace := List.rdropWhile_prefix isSpace _
  cases text : strip s with
  | nil => rfl
  | cons c t =>
    rw [text] at front
    obtain ⟨rest, whole⟩ := front
    have notSpace := List.head?_dropWhile_not isSpace s
    rw [← whole] at notSpace
    exact List.dropWhile_cons_of_neg (by simpa using notSpace)

theorem strip_strip (s : List Char) : strip (strip s) = strip s := by
  rw [strip_of_suffix (List.suffix_refl _), dropWhile_strip]

/-- `not s.strip()`. -/
def isBlank (s : String) : Bool := s.toList.all isSpace

/-- `str(n)`, with zeros in front up to a width. -/
def padded (width n : ℕ) : String :=
  let digits := toString n
  String.ofList (List.replicate (width - digits.length) '0') ++ digits

/-- `str(d)` of a `Decimal` with two places. -/
def decimalText (q : ℚ) : String :=
  let cents := ⌊q * 100⌋
  (if cents < 0 then "-" else "") ++ toString (cents.natAbs / 100) ++ "." ++
    padded 2 (cents.natAbs % 100)

def daysBeforeMonth : ℕ → ℕ
  | 2 => 31 | 3 => 59 | 4 => 90 | 5 => 120 | 6 => 151 | 7 => 181
  | 8 => 212 | 9 => 243 | 10 => 273 | 11 => 304 | 12 => 334 | _ => 0

/-- Year, month and day of a proleptic Gregorian ordinal; day 1 is 1 January of year 1. -/
def ordinalToDate (ordinal : ℕ) : ℕ × ℕ × ℕ :=
  let n := ordinal - 1
  let n400 := n / 146097
  let n := n % 146097
  let n100 := n / 36524
  let n := n % 36524
  let n4 := n / 1461
  let n := n % 1461
  let n1 := n / 365
  let n := n % 365
  let year := n400 * 400 + 1 + n100 * 100 + n4 * 4 + n1
  if n1 = 4 ∨ n100 = 4 then (year - 1, 12, 31)
  else
    let leapyear := decide (n1 = 3) && (decide (n4 ≠ 24) || decide (n100 = 3))
    let month := (n + 50) / 32
    let preceding := daysBeforeMonth month + if 2 < month && leapyear then 1 else 0
    if n < preceding then
      let month := month - 1
      let preceding := daysBeforeMonth month + if 2 < month && leapyear then 1 else 0
      (year, month, n - preceding + 1)
    else (year, month, n - preceding + 1)

/-- `d.isoformat()`, which is also `str(d)`. -/
def isoformat (ordinal : ℤ) : String :=
  let d := ordinalToDate ordinal.toNat
  padded 4 d.1 ++ "-" ++ padded 2 d.2.1 ++ "-" ++ padded 2 d.2.2

/-- The 32 hexadecimal digits of a number. -/
def hexDigits (n : ℕ) : List Char :=
  let digits := Nat.toDigits 16 n
  List.replicate (32 - digits.length) '0' ++ digits

/-- `str(id)` of a `UUID`. -/
def uuidText (id : ℕ) : String :=
  let h := hexDigits id
  String.ofList (h.take 8 ++ '-' :: (h.drop 8).take 4 ++ '-' :: (h.drop 12).take 4 ++
    '-' :: (h.drop 16).take 4 ++ '-' :: h.drop 20)

/-- The value of a hexadecimal digit. -/
def hexValue (c : Char) : Option ℕ :=
  if isDecimal c then some (c.toNat - 0x30)
  else if 0x61 ≤ c.toNat && c.toNat ≤ 0x66 then some (c.toNat - 0x57)
  else if 0x41 ≤ c.toNat && c.toNat ≤ 0x46 then some (c.toNat - 0x37)
  else none

/-- `int(digits, 16)`, of hexadecimal digits. -/
def hexNumber (digits : List Char) : Option ℕ :=
  digits.foldlM (fun n c => (hexValue c).map fun d => 16 * n + d) 0

/-- `uuid.UUID(text)`, of a text without a prefix and without braces. -/
def parseUuid (text : String) : Option ℕ :=
  let digits := text.toList.filter (· ≠ '-')
  if digits.length = 32 then hexNumber digits else none

theorem hexValue_digitChar : ∀ d : Fin 16, hexValue (Nat.digitChar d) = some d.val := by
  decide

theorem digitChar_ne_dash : ∀ d : Fin 16, Nat.digitChar d ≠ '-' := by
  decide

/-- Reading the digits of a number after leading zeros. -/
theorem hexNumber_toDigits (n : ℕ) : hexNumber (Nat.toDigits 16 n) = some n := by
  induction n using Nat.strong_induction_on with
  | _ n ih =>
    by_cases small : n < 16
    · have value := hexValue_digitChar ⟨n, small⟩
      rw [Nat.toDigits_of_lt_base small, hexNumber, List.foldlM_cons, value]
      exact congrArg some (Nat.zero_add n)
    · have large : 16 ≤ n := not_lt.1 small
      have rest := ih (n / 16) (Nat.div_lt_self (by omega) (by omega))
      have last := hexValue_digitChar ⟨n % 16, Nat.mod_lt n (by omega)⟩
      rw [hexNumber] at rest
      rw [Nat.toDigits_of_base_le (by omega) large, hexNumber, List.foldlM_append, rest]
      simp only [Option.bind_eq_bind, Option.bind_some, List.foldlM_cons, List.foldlM_nil, last,
        Option.map_some]
      show some (16 * (n / 16) + n % 16) = some n
      rw [Nat.div_add_mod]

theorem hexNumber_zeros (k : ℕ) (digits : List Char) :
    hexNumber (List.replicate k '0' ++ digits) = hexNumber digits := by
  induction k with
  | zero => rfl
  | succ k ih =>
    rw [List.replicate_succ, List.cons_append, hexNumber, List.foldlM_cons]
    exact ih

theorem dash_notMem_toDigits (n : ℕ) : '-' ∉ Nat.toDigits 16 n := by
  induction n using Nat.strong_induction_on with
  | _ n ih =>
    by_cases small : n < 16
    · rw [Nat.toDigits_of_lt_base small, List.mem_singleton]
      exact (digitChar_ne_dash ⟨n, small⟩).symm
    · rw [Nat.toDigits_of_base_le (by omega) (not_lt.1 small), List.mem_append, List.mem_singleton]
      rintro (rest | last)
      · exact ih (n / 16) (Nat.div_lt_self (by omega) (by omega)) rest
      · exact digitChar_ne_dash ⟨n % 16, Nat.mod_lt n (by omega)⟩ last.symm

theorem dash_notMem_hexDigits (n : ℕ) : '-' ∉ hexDigits n := by
  rw [hexDigits, List.mem_append]
  rintro (zero | digit)
  · exact absurd (List.eq_of_mem_replicate zero) (by decide)
  · exact dash_notMem_toDigits n digit

theorem hexDigits_length {n : ℕ} (h : n < 2 ^ 128) : (hexDigits n).length = 32 := by
  have fits : (Nat.toDigits 16 n).length ≤ 32 := by
    rw [Nat.length_toDigits_le_iff (by omega) (by omega)]
    exact h.trans_eq (by norm_num)
  rw [hexDigits, List.length_append, List.length_replicate]
  omega

/-- The dashes of the text are not digits. -/
theorem uuidText_digits (id : ℕ) : (uuidText id).toList.filter (· ≠ '-') = hexDigits id := by
  have digits : ∀ {part : List Char}, (∀ c ∈ part, c ∈ hexDigits id) → part.filter (· ≠ '-') = part := by
    intro part sub
    rw [List.filter_eq_self]
    intro c mem
    refine decide_eq_true fun dash => ?_
    exact dash_notMem_hexDigits id (dash ▸ sub c mem)
  have block : ∀ k, ((hexDigits id).drop k |>.take 4).filter (· ≠ '-') = ((hexDigits id).drop k).take 4 :=
    fun k => digits fun c mem => List.mem_of_mem_drop (List.mem_of_mem_take mem)
  have first : ((hexDigits id).take 8).filter (· ≠ '-') = (hexDigits id).take 8 :=
    digits fun c mem => List.mem_of_mem_take mem
  have last : ((hexDigits id).drop 20).filter (· ≠ '-') = (hexDigits id).drop 20 :=
    digits fun c mem => List.mem_of_mem_drop mem
  have joined : ∀ k, ((hexDigits id).drop k).take 4 ++ (hexDigits id).drop (k + 4) =
      (hexDigits id).drop k := by
    intro k
    rw [← List.drop_drop, List.take_append_drop]
  have dash : ∀ rest : List Char, ('-' :: rest).filter (· ≠ '-') = rest.filter (· ≠ '-') :=
    fun rest => List.filter_cons_of_neg (by simp)
  rw [uuidText, String.toList_ofList]
  simp only [List.filter_append, dash, first, block, last, List.append_assoc]
  have fourth : _ ++ (hexDigits id).drop 20 = _ := joined 16
  have third : _ ++ (hexDigits id).drop 16 = _ := joined 12
  have second : _ ++ (hexDigits id).drop 12 = _ := joined 8
  rw [fourth, third, second, List.take_append_drop]

theorem parseUuid_uuidText {id : ℕ} (h : id < 2 ^ 128) : parseUuid (uuidText id) = some id := by
  rw [parseUuid, uuidText_digits, if_pos (hexDigits_length h), hexDigits, hexNumber_zeros]
  exact hexNumber_toDigits id

example : isoformat 739000 = "2024-04-24" := by decide +kernel

end MeadowOps.Lib
