import MeadowOps.Lib.Json
import MeadowOps.Lib.Dict
import MeadowOps.Lib.Permuted
import MeadowOps.Lib.PyText

/-!
# JSON texts as `json.dumps` writes them

`dumps` is `json.dumps(value, sort_keys=True)`. The text of a number is a parameter.
-/

namespace MeadowOps.Lib.Json

/-- Four hexadecimal digits after a backslash and a `u`. -/
def escape4 (n : ℕ) : List Char :=
  let digits := Nat.toDigits 16 n
  Char.ofNat 0x5c :: 'u' :: (List.replicate (4 - digits.length) '0' ++ digits)

/-- A character of a JSON text; above 0xffff it is a pair of surrogates. -/
def escapeChar (c : Char) : List Char :=
  let backslash := Char.ofNat 0x5c
  match c.toNat with
  | 0x22 => [backslash, c]
  | 0x5c => [backslash, c]
  | 0x0a => [backslash, 'n']
  | 0x0d => [backslash, 'r']
  | 0x09 => [backslash, 't']
  | 0x0c => [backslash, 'f']
  | 0x08 => [backslash, 'b']
  | n =>
    if 0x20 ≤ n ∧ n ≤ 0x7e then [c]
    else if n < 0x10000 then escape4 n
    else escape4 (0xd800 + (n - 0x10000) / 0x400) ++ escape4 (0xdc00 + (n - 0x10000) % 0x400)

def quote (s : String) : String :=
  let mark := Char.ofNat 0x22
  String.ofList (mark :: (s.toList.flatMap escapeChar ++ [mark]))

/-- The items of an object, in the order of their keys. -/
def objectText (items : List (String × String)) : String :=
  "\x7b" ++ ", ".intercalate ((items.insertionSort fun a b => a.1 ≤ b.1).map fun e =>
    quote e.1 ++ ": " ++ e.2) ++ "\x7d"

mutual

def dumps (numberText : ℚ → String) : Json → String
  | .null => "null"
  | .bool true => "true"
  | .bool false => "false"
  | .number n => numberText n
  | .string s => quote s
  | .array items => "[" ++ ", ".intercalate (dumpsArray numberText items) ++ "]"
  | .object items => objectText (dumpsItems numberText items)

def dumpsArray (numberText : ℚ → String) : List Json → List String
  | [] => []
  | v :: items => dumps numberText v :: dumpsArray numberText items

def dumpsItems (numberText : ℚ → String) : List (String × Json) → List (String × String)
  | [] => []
  | (k, v) :: items => (k, dumps numberText v) :: dumpsItems numberText items

end

theorem dumpsItems_eq_map (numberText : ℚ → String) (items : List (String × Json)) :
    dumpsItems numberText items = items.map fun e => (e.1, dumps numberText e.2) := by
  induction items with
  | nil => rfl
  | cons e items ih => rw [dumpsItems, ih, List.map_cons]

/-- `json.dumps` of a dictionary. -/
def dumpsDict (numberText : ℚ → String) (d : Dict String Json) : String :=
  dumps numberText (.object d.items)

/-- The text depends on the values alone, not on the order in which the keys were set. -/
theorem dumpsDict_congr (numberText : ℚ → String) {d e : Dict String Json}
    (h : ∀ k, d.get? k = e.get? k) : dumpsDict numberText d = dumpsDict numberText e := by
  have items := (Dict.perm_of_get? h).map fun kv : String × Json => (kv.1, dumps numberText kv.2)
  have distinct : ((d.items.map fun kv => (kv.1, dumps numberText kv.2)).map Prod.fst).Nodup := by
    rw [List.map_map]
    exact d.nodup
  rw [dumpsDict, dumpsDict, dumps, dumps, dumpsItems_eq_map, dumpsItems_eq_map, objectText, objectText,
    insertionSort_perm items distinct]

example : dumps (fun n => toString n.num) (.object [("b", .array [.number 1, .null]), ("a", .string "x")]) =
    "\x7b\"a\": \"x\", \"b\": [1, null]\x7d" := by decide +kernel

end MeadowOps.Lib.Json
