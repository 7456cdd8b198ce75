import Mathlib.Data.Nat.Notation
import Mathlib.Tactic.Common

/-!
# Scanners

A scanner reads one lexeme off a non-empty text: a token, or nothing (a blank, a comment), and the text
after it, which is shorter. `tokens` reads a text to its end.
-/

namespace MeadowOps.Lib

structure Scanner (α τ : Type) where
  next : α → List α → Option τ × List α
  shorter : ∀ a s, (next a s).2.length ≤ s.length

namespace Scanner

variable {α τ : Type} (S : Scanner α τ)

/-- At most `n` lexemes. -/
def scan : ℕ → List α → List τ
  | 0, _ => []
  | _ + 1, [] => []
  | n + 1, a :: s => (S.next a s).1.toList ++ scan n (S.next a s).2

def tokens (s : List α) : List τ := S.scan s.length s

/-- A text of length `n` has at most `n` lexemes. -/
theorem scan_of_le {n m : ℕ} {s : List α} (hn : s.length ≤ n) (hm : s.length ≤ m) :
    S.scan n s = S.scan m s := by
  induction n generalizing m s with
  | zero =>
    obtain rfl := List.length_eq_zero_iff.1 (Nat.le_zero.1 hn)
    cases m <;> rfl
  | succ n ih =>
    cases s with
    | nil => cases m <;> rfl
    | cons a s =>
      rw [List.length_cons] at hn hm
      cases m with
      | zero => omega
      | succ m =>
        have short := S.shorter a s
        rw [scan, scan, ih (m := m) (by omega) (by omega)]

@[simp] theorem tokens_nil : S.tokens [] = [] := rfl

theorem tokens_cons (a : α) (s : List α) :
    S.tokens (a :: s) = (S.next a s).1.toList ++ S.tokens (S.next a s).2 := by
  rw [tokens, List.length_cons, scan, S.scan_of_le (S.shorter a s) (Nat.le_refl _)]
  rfl

theorem tokens_of_skip {a : α} {s rest : List α} (h : S.next a s = (none, rest)) :
    S.tokens (a :: s) = S.tokens rest := by
  rw [tokens_cons, h]
  rfl

theorem tokens_of_token {a : α} {s rest : List α} {t : τ} (h : S.next a s = (some t, rest)) :
    S.tokens (a :: s) = t :: S.tokens rest := by
  rw [tokens_cons, h]
  rfl

/-- A property of the lexemes of every text, by how they are read. -/
theorem forall_tokens {P : List α → τ → Prop}
    (read : ∀ a s t, (S.next a s).1 = some t → P (a :: s) t)
    (later : ∀ a s t, P (S.next a s).2 t → P (a :: s) t) (s : List α) :
    ∀ t ∈ S.tokens s, P s t := by
  generalize length : s.length = n
  induction n using Nat.strongRecOn generalizing s with
  | _ n ih =>
    intro t mem
    cases s with
    | nil => cases mem
    | cons a s =>
      rw [tokens_cons, List.mem_append] at mem
      rcases mem with here | rest
      · exact read a s t (Option.mem_toList.1 here)
      · have short := S.shorter a s
        rw [List.length_cons] at length
        exact later a s t (ih _ (by omega) _ rfl t rest)

end Scanner

end MeadowOps.Lib
