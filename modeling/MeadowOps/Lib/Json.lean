import Mathlib.Data.Rat.Defs

/-!
# JSON values as Python holds them
-/

namespace MeadowOps.Lib

inductive Json where
  | null
  | bool (b : Bool)
  | number (n : ℚ)
  | string (s : String)
  | array (items : List Json)
  /-- The items of a dictionary, no key twice. -/
  | object (items : List (String × Json))
  deriving Repr

namespace Json

mutual

/-- Python's `==`: a boolean is the number 0 or 1, and the order of a dictionary does not count. -/
def pyEq : Json → Json → Bool
  | .null, .null => true
  | .bool a, .bool b => a == b
  | .bool a, .number n => n == if a then 1 else 0
  | .number n, .bool b => n == if b then 1 else 0
  | .number m, .number n => m == n
  | .string s, .string t => s == t
  | .array l, .array m => pyEqArray l m
  | .object l, .object m => l.length == m.length && pyEqItems l m
  | _, _ => false

def pyEqArray : List Json → List Json → Bool
  | [], [] => true
  | a :: l, b :: m => pyEq a b && pyEqArray l m
  | _, _ => false

def pyEqItems : List (String × Json) → List (String × Json) → Bool
  | [], _ => true
  | (k, v) :: l, m => (m.lookup k).any (pyEq v) && pyEqItems l m

end

end Json

end MeadowOps.Lib
