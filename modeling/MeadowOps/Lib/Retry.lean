import Mathlib.Order.Basic
import Mathlib.Data.Nat.Init

/-!
# A bounded number of attempts

A client answers or fails; an answer is checked. A failed call and a rejected answer lead to the next
attempt, as long as there is one; an exception that nobody handles ends the session at once.
-/

namespace MeadowOps.Lib

variable {R V E X : Type}

/-- Why a check does not return: it rejects the answer, or it runs into an exception of its own. -/
inductive Problem (E X : Type) where
  | rejected (e : E)
  | raised (x : X)
  deriving DecidableEq, Repr

abbrev Check (E X : Type) := Except (Problem E X)

inductive Ended (V E X : Type) where
  | returned (v : V)
  /-- The attempts are used up; the last error, if there was an attempt. -/
  | failed (last : Option E)
  | raised (x : X)
  deriving DecidableEq, Repr

structure Session (V E X : Type) where
  calls : ℕ
  ended : Ended V E X
  deriving DecidableEq, Repr

/-- The attempts that are left, after `made` calls of which `last` is the last error. -/
def retry (check : R → Check E X V) (client : ℕ → Except E R) :
    (attempts made : ℕ) → (last : Option E) → Session V E X
  | 0, made, last => ⟨made, .failed last⟩
  | attempts + 1, made, _ =>
    match client made with
    | .error e => retry check client attempts (made + 1) (some e)
    | .ok answer =>
      match check answer with
      | .ok v => ⟨made + 1, .returned v⟩
      | .error (.rejected e) => retry check client attempts (made + 1) (some e)
      | .error (.raised x) => ⟨made + 1, .raised x⟩

/-- The call failed, or its answer is rejected. -/
def Unusable (check : R → Check E X V) (outcome : Except E R) : Prop :=
  ∀ answer, outcome = .ok answer → ∃ e, check answer = .error (.rejected e)

/-- The check of the answer raises. -/
def RaisesOn (check : R → Check E X V) (outcome : Except E R) : Prop :=
  ∃ answer x, outcome = .ok answer ∧ check answer = .error (.raised x)

section

variable {check : R → Check E X V} {client : ℕ → Except E R}

variable (check client) in
/-- What one attempt does. -/
theorem retry_succ (attempts made : ℕ) (last : Option E) :
    (Unusable check (client made) ∧
      ∃ e, retry check client (attempts + 1) made last = retry check client attempts (made + 1) (some e)) ∨
    (¬ Unusable check (client made) ∧ ¬ RaisesOn check (client made) ∧
      ∃ answer v, client made = .ok answer ∧ check answer = .ok v ∧
        retry check client (attempts + 1) made last = ⟨made + 1, .returned v⟩) ∨
    (¬ Unusable check (client made) ∧ RaisesOn check (client made) ∧
      ∃ x, retry check client (attempts + 1) made last = ⟨made + 1, .raised x⟩) := by
  rw [retry, Unusable, RaisesOn]
  cases outcome : client made with
  | error e => exact .inl ⟨nofun, e, rfl⟩
  | ok answer =>
    cases checked : check answer with
    | ok v =>
      refine .inr (.inl ⟨fun all => ?_, ?_, answer, v, rfl, checked, by simp only [checked]⟩)
      · obtain ⟨e, rejected⟩ := all answer rfl
        rw [checked] at rejected
        cases rejected
      · rintro ⟨answer', x, ⟨⟩, raised⟩
        rw [checked] at raised
        cases raised
    | error problem =>
      cases problem with
      | rejected e =>
        refine .inl ⟨?_, e, by simp only [checked]⟩
        rintro answer' ⟨⟩
        exact ⟨e, checked⟩
      | raised x =>
        refine .inr (.inr ⟨fun all => ?_, ⟨answer, x, rfl, checked⟩, x, by simp only [checked]⟩)
        obtain ⟨e, rejected⟩ := all answer rfl
        rw [checked] at rejected
        cases rejected

theorem retry_calls_le (attempts made : ℕ) (last : Option E) :
    (retry check client attempts made last).calls ≤ made + attempts := by
  induction attempts generalizing made last with
  | zero => exact Nat.le_refl _
  | succ attempts ih =>
    rcases retry_succ check client attempts made last with
      ⟨-, e, eq⟩ | ⟨-, -, _, v, -, -, eq⟩ | ⟨-, -, x, eq⟩
    · rw [eq]
      have := ih (made + 1) (some e)
      omega
    · rw [eq]
      show made + 1 ≤ made + (attempts + 1)
      omega
    · rw [eq]
      show made + 1 ≤ made + (attempts + 1)
      omega

/-- A call after the first comes only after an unusable one. -/
theorem retry_unusable {attempts made : ℕ} {last : Option E} {j : ℕ} (first : made ≤ j)
    (again : j + 1 < (retry check client attempts made last).calls) : Unusable check (client j) := by
  induction attempts generalizing made last with
  | zero =>
    change j + 1 < made at again
    omega
  | succ attempts ih =>
    rcases retry_succ check client attempts made last with
      ⟨unusable, e, eq⟩ | ⟨-, -, _, v, -, -, eq⟩ | ⟨-, -, x, eq⟩
    · rw [eq] at again
      rcases Nat.eq_or_lt_of_le first with rfl | later
      · exact unusable
      · exact ih later again
    · rw [eq] at again
      change j + 1 < made + 1 at again
      omega
    · rw [eq] at again
      change j + 1 < made + 1 at again
      omega

/-- What is returned has passed the check. -/
theorem retry_returned {attempts made : ℕ} {last : Option E} {v : V}
    (h : (retry check client attempts made last).ended = .returned v) :
    ∃ answer, check answer = .ok v := by
  induction attempts generalizing made last with
  | zero => cases h
  | succ attempts ih =>
    rcases retry_succ check client attempts made last with
      ⟨-, e, eq⟩ | ⟨-, -, answer, v', -, valid, eq⟩ | ⟨-, -, x, eq⟩
    · exact ih (eq ▸ h)
    · rw [eq] at h
      cases h
      exact ⟨answer, valid⟩
    · rw [eq] at h
      cases h

/-- There is a last error once an attempt was made. -/
theorem retry_failed {attempts made : ℕ} {last e : Option E} (some_ : last.isSome ∨ 0 < attempts)
    (h : (retry check client attempts made last).ended = .failed e) : e.isSome := by
  induction attempts generalizing made last with
  | zero =>
    cases h
    exact some_.resolve_right (Nat.lt_irrefl 0)
  | succ attempts ih =>
    rcases retry_succ check client attempts made last with
      ⟨-, e', eq⟩ | ⟨-, -, _, v, -, -, eq⟩ | ⟨-, -, x, eq⟩
    · exact ih (.inl rfl) (eq ▸ h)
    · rw [eq] at h
      cases h
    · rw [eq] at h
      cases h

/-- The session raises exactly when the first usable answer makes the check raise. -/
theorem retry_raised_iff {attempts made : ℕ} {last : Option E} :
    (∃ x, (retry check client attempts made last).ended = .raised x) ↔
      ∃ k, made ≤ k ∧ k < made + attempts ∧ (∀ j, made ≤ j → j < k → Unusable check (client j)) ∧
        RaisesOn check (client k) := by
  induction attempts generalizing made last with
  | zero =>
    constructor
    · rintro ⟨x, h⟩
      cases h
    · rintro ⟨k, first, below, -⟩
      omega
  | succ attempts ih =>
    rcases retry_succ check client attempts made last with
      ⟨unusable, e, eq⟩ | ⟨usable, clean, _, v, -, -, eq⟩ | ⟨usable, raises, x, eq⟩
    · rw [eq, ih]
      constructor
      · rintro ⟨k, first, below, before, raises⟩
        refine ⟨k, by omega, by omega, fun j above below => ?_, raises⟩
        rcases Nat.eq_or_lt_of_le above with rfl | later
        · exact unusable
        · exact before j later below
      · rintro ⟨k, first, below, before, raises⟩
        have later : made + 1 ≤ k := by
          rcases Nat.eq_or_lt_of_le first with rfl | later
          · obtain ⟨answer, x, answered, raised⟩ := raises
            obtain ⟨e', rejected⟩ := unusable answer answered
            rw [raised] at rejected
            cases rejected
          · exact later
        exact ⟨k, later, by omega, fun j above below => before j (by omega) below, raises⟩
    · rw [eq]
      constructor
      · rintro ⟨x, h⟩
        cases h
      · rintro ⟨k, first, -, before, raises⟩
        rcases Nat.eq_or_lt_of_le first with rfl | later
        · exact absurd raises clean
        · exact absurd (before made (Nat.le_refl _) later) usable
    · rw [eq]
      constructor
      · exact fun _ => ⟨made, Nat.le_refl _, by omega, fun j above below => by omega, raises⟩
      · exact fun _ => ⟨x, rfl⟩

end

end MeadowOps.Lib
