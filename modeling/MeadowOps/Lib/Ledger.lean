import MeadowOps.Lib.RowSum
import Mathlib.Algebra.BigOperators.Group.Finset.Piecewise

/-!
# Append-only ledgers

A ledger is a list of signed movements, each on one account. Its balance on an account is the sum
of the movements. `Solvent` says that no balance was negative after any single movement; a ledger
stays solvent when credits are appended, or a debit that the account covers.
-/

namespace MeadowOps.Lib

variable {ρ κ : Type} [DecidableEq κ] {account : ρ → κ} {delta : ρ → ℤ}

/-- The balance of account `k`. -/
def balance (account : ρ → κ) (delta : ρ → ℤ) (k : κ) (ledger : List ρ) : ℤ :=
  sumWhere (account · = k) delta ledger

/-- No balance is negative after any prefix of the movements. -/
def Solvent (account : ρ → κ) (delta : ρ → ℤ) (ledger : List ρ) : Prop :=
  ∀ n k, 0 ≤ balance account delta k (ledger.take n)

@[simp] theorem balance_append (k : κ) (xs ys : List ρ) :
    balance account delta k (xs ++ ys) = balance account delta k xs + balance account delta k ys :=
  sumWhere_append _ _ xs ys

theorem Solvent.nil : Solvent account delta [] := fun n k => by simp [balance]

theorem Solvent.balance_nonneg {ledger : List ρ} (h : Solvent account delta ledger) (k : κ) :
    0 ≤ balance account delta k ledger := by
  have := h ledger.length k
  rwa [List.take_length] at this

theorem Solvent.append_credits {ledger credits : List ρ} (h : Solvent account delta ledger)
    (nonneg : ∀ r ∈ credits, 0 ≤ delta r) : Solvent account delta (ledger ++ credits) := by
  intro n k
  rcases take_append_cases ledger credits n with ⟨j, hj⟩ | ⟨j, hj⟩
  · rw [hj]
    exact h j k
  · rw [hj, balance_append]
    exact add_nonneg (h.balance_nonneg k)
      (sumWhere_nonneg fun r hr _ => nonneg r (List.mem_of_mem_take hr))

/-- A movement that leaves its own account non-negative. -/
theorem Solvent.append_covered {ledger : List ρ} (h : Solvent account delta ledger) {r : ρ}
    (covered : 0 ≤ balance account delta (account r) ledger + delta r) :
    Solvent account delta (ledger ++ [r]) := by
  intro n k
  rcases take_append_cases ledger [r] n with ⟨j, hj⟩ | ⟨j, hj⟩
  · rw [hj]
    exact h j k
  · rw [hj, balance_append]
    cases j with
    | zero => simpa [balance] using h.balance_nonneg k
    | succ j =>
      by_cases hk : account r = k
      · subst hk
        simpa [balance] using covered
      · simpa [balance, hk] using h.balance_nonneg k

/-- The balances of the accounts in `s` add up to the movements on them. -/
theorem sum_balance (s : Finset κ) (ledger : List ρ) :
    ∑ k ∈ s, balance account delta k ledger = sumWhere (account · ∈ s) delta ledger := by
  induction ledger with
  | nil => simp [balance]
  | cons r ledger ih =>
    have cons : ∀ k, balance account delta k (r :: ledger) =
        (if account r = k then delta r else 0) + balance account delta k ledger := fun k =>
      sumWhere_cons _ _ r ledger
    simp only [cons, Finset.sum_add_distrib, ih, Finset.sum_ite_eq, sumWhere_cons]

end MeadowOps.Lib
