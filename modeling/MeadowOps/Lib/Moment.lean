import Mathlib.Order.Lattice
import Mathlib.Order.Nat
import Mathlib.Tactic.Push

/-!
# Reads at different moments

A history of states, in which the read `i` finds the key `key i` after `readAt i` changes. The reads show one
moment of the history when some state agrees with all of them. They are torn when a change hits a key that is
already read, and it or a later one a key that is not read yet.
-/

namespace MeadowOps.Lib

variable {ι κ V : Type} (state : ℕ → κ → V) (key : ι → κ) (readAt : ι → ℕ)

/-- The reads agree with the state after `k` changes. -/
def ShowsMoment (k : ℕ) : Prop := ∀ i, state k (key i) = state (readAt i) (key i)

/-- The change after moment `k` hits the key. -/
def ChangedAfter (k : ℕ) (x : κ) : Prop := state (k + 1) x ≠ state k x

/-- Of the first `n` changes, one comes too late for a read, and it or a later one in time for another. -/
def Torn (n : ℕ) : Prop :=
  ∃ k l i j, k ≤ l ∧ l < n ∧ readAt i ≤ k ∧ ChangedAfter state k (key i) ∧
    l < readAt j ∧ ChangedAfter state l (key j)

/-- No key of a read returns to a value it had before. -/
def Unreturning (n : ℕ) : Prop :=
  ∀ i a b c, a ≤ b → b ≤ c → c ≤ n → state a (key i) = state c (key i) → state b (key i) = state a (key i)

variable {state key readAt}

/-- A key that no change hits. -/
theorem state_eq_of_unchanged {x : κ} {a b : ℕ} (le : a ≤ b)
    (same : ∀ k, a ≤ k → k < b → ¬ ChangedAfter state k x) : state b x = state a x := by
  induction b, le using Nat.le_induction with
  | base => rfl
  | succ b le ih =>
    have last : state (b + 1) x = state b x := not_not.1 (same b le (Nat.lt_succ_self b))
    exact last.trans (ih fun k after before => same k after (before.trans (Nat.lt_succ_self b)))

/-- Reads that are not torn show the moment before the first change that is too late for one of them. -/
theorem showsMoment_of_not_torn {n : ℕ} (within : ∀ i, readAt i ≤ n) (whole : ¬ Torn state key readAt n) :
    ∃ k ≤ n, ShowsMoment state key readAt k := by
  classical
  by_cases late : ∃ k, k < n ∧ ∃ i, readAt i ≤ k ∧ ChangedAfter state k (key i)
  · obtain ⟨inside, i, read, changed⟩ := Nat.find_spec late
    refine ⟨Nat.find late, inside.le, fun j => ?_⟩
    rcases le_total (readAt j) (Nat.find late) with before | after
    · refine state_eq_of_unchanged before fun k since till hit => ?_
      exact Nat.find_min late till ⟨till.trans inside, j, since, hit⟩
    · refine (state_eq_of_unchanged after fun l since till hit => whole ?_).symm
      exact ⟨Nat.find late, l, i, j, since, till.trans_le (within j), read, changed, till, hit⟩
  · refine ⟨n, le_rfl, fun j => state_eq_of_unchanged (within j) fun k since till hit => ?_⟩
    exact late ⟨k, till, j, since, hit⟩

/-- Torn reads show no moment, when no value returns. -/
theorem not_torn_of_showsMoment {n k : ℕ} (within : ∀ i, readAt i ≤ n) (inside : k ≤ n)
    (unreturning : Unreturning state key n) (shows : ShowsMoment state key readAt k) :
    ¬ Torn state key readAt n := by
  rintro ⟨a, b, i, j, le, lt, read, changed, unread, changed'⟩
  rcases le_or_gt k a with early | late
  · -- the moment lies before the second change, which its read saw
    have value := shows j
    have before := unreturning j k b (readAt j) (early.trans le) unread.le (within j) value
    have after := unreturning j k (b + 1) (readAt j) ((early.trans le).trans (Nat.le_succ b)) unread (within j) value
    exact changed' (after.trans before.symm)
  · -- it lies after the first change, which its read missed
    have value := (shows i).symm
    have before := unreturning i (readAt i) a k read late.le inside value
    have after := unreturning i (readAt i) (a + 1) k (read.trans (Nat.le_succ a)) late inside value
    exact changed (after.trans before.symm)

end MeadowOps.Lib
