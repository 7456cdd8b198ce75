import Mathlib.Data.List.DropRight

/-!
# Texts of JavaScript

`trim`, `trimStart` and `trimEnd` of a string.
-/

namespace MeadowOps.Lib

/-- The white space and line terminators of the language. -/
def jsSpace (c : Char) : Bool :=
  (0x09 ≤ c.toNat && c.toNat ≤ 0x0d) || c.toNat = 0x20 || c.toNat = 0xa0 || c.toNat = 0x1680 ||
    (0x2000 ≤ c.toNat && c.toNat ≤ 0x200a) || c.toNat = 0x2028 || c.toNat = 0x2029 || c.toNat = 0x202f ||
    c.toNat = 0x205f || c.toNat = 0x3000 || c.toNat = 0xfeff

def trimStart (s : List Char) : List Char := s.dropWhile jsSpace

def trimEnd (s : List Char) : List Char := s.rdropWhile jsSpace

def trim (s : List Char) : List Char := trimEnd (trimStart s)

end MeadowOps.Lib
