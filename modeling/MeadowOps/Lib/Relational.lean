import MeadowOps.Lib.Program
import Mathlib.Data.List.ProdSigma

/-!
# Two runs of a program

`Agree R` relates the outcomes of two programs: both return, with the same value and related states,
or both raise. `Outcome P a s` says of one outcome that it is exactly `a` in `s` where `P` holds, and
an exception where it does not; two programs with known outcomes are compared by their conditions.
-/

namespace MeadowOps.Lib

variable {ε σ α β : Type}

/-- Both return, or both raise. -/
inductive Agree (R : σ → σ → Prop) :
    EStateM.Result ε σ α → EStateM.Result ε σ α → Prop where
  | returned (a : α) {s s' : σ} (related : R s s') : Agree R (.ok a s) (.ok a s')
  | raised (e e' : ε) (s s' : σ) : Agree R (.error e s) (.error e' s')

/-- `x` and `x'` agree from all related states. -/
def Agrees (R : σ → σ → Prop) (x x' : EStateM ε σ α) : Prop :=
  ∀ s s', R s s' → Agree R (x s) (x' s')

theorem Agree.bind {R : σ → σ → Prop} {x x' : EStateM ε σ α} {f f' : α → EStateM ε σ β} {s s' : σ}
    (first : Agree R (x s) (x' s'))
    (then_ : ∀ a t t', x s = .ok a t → x' s' = .ok a t' → R t t' → Agree R (f a t) (f' a t')) :
    Agree R ((x >>= f) s) ((x' >>= f') s') := by
  show Agree R (EStateM.bind x f s) (EStateM.bind x' f' s')
  unfold EStateM.bind
  generalize hr : x s = r at first
  generalize hr' : x' s' = r' at first
  cases first with
  | returned a related => exact then_ a _ _ hr hr' related
  | raised e e' t t' => exact .raised e e' t t'

theorem Agrees.bind {R : σ → σ → Prop} {x x' : EStateM ε σ α} {f f' : α → EStateM ε σ β}
    (hx : Agrees R x x') (hf : ∀ a, Agrees R (f a) (f' a)) : Agrees R (x >>= f) (x' >>= f') :=
  fun s s' related => (hx s s' related).bind fun a t t' _ _ => hf a t t'

theorem Agrees.pure {R : σ → σ → Prop} (a : α) :
    Agrees R (Pure.pure a : EStateM ε σ α) (Pure.pure a) :=
  fun _ _ related => .returned a related

/-- `a` in `s` where `P` holds, an exception where it does not. -/
inductive Outcome (P : Prop) (a : α) (s : σ) : EStateM.Result ε σ α → Prop where
  | returned (holds : P) : Outcome P a s (.ok a s)
  | raised (e : ε) (t : σ) (fails : ¬ P) : Outcome P a s (.error e t)

theorem Outcome.agree {R : σ → σ → Prop} {P P' : Prop} {a a' : α} {s s' : σ}
    {r r' : EStateM.Result ε σ α} (h : Outcome P a s r) (h' : Outcome P' a' s' r') (iff : P ↔ P')
    (same : P → a = a' ∧ R s s') : Agree R r r' := by
  cases h with
  | returned holds =>
    cases h' with
    | returned =>
      obtain ⟨rfl, related⟩ := same holds
      exact .returned a related
    | raised _ _ fails => exact absurd (iff.1 holds) fails
  | raised e t fails =>
    cases h' with
    | returned holds => exact absurd (iff.2 holds) fails
    | raised e' t' => exact .raised e e' t t'

theorem Outcome.congr {P P' : Prop} {a a' : α} {s s' : σ} {r : EStateM.Result ε σ α}
    (h : Outcome P a s r) (iff : P ↔ P') (same : P → a = a' ∧ s = s') : Outcome P' a' s' r := by
  cases h with
  | returned holds =>
    obtain ⟨rfl, rfl⟩ := same holds
    exact .returned (iff.1 holds)
  | raised e t fails => exact .raised e t fun holds => fails (iff.2 holds)

theorem Outcome.eq_ok {P : Prop} {a : α} {s : σ} {r : EStateM.Result ε σ α} (h : Outcome P a s r)
    (holds : P) : r = .ok a s := by
  cases h with
  | returned => rfl
  | raised e t fails => exact absurd holds fails

theorem Outcome.of_ok {P : Prop} {a b : α} {s t : σ} (h : Outcome (ε := ε) P a s (.ok b t)) : P ∧ b = a ∧ t = s := by
  cases h with
  | returned holds => exact ⟨holds, rfl, rfl⟩

/-- A sequence: the first part's condition, and then the second part's. -/
theorem Outcome.bind {P Q : Prop} {x : EStateM ε σ α} {f : α → EStateM ε σ β} {s t u : σ} {a : α} {b : β}
    (first : Outcome P a t (x s)) (then_ : P → Outcome Q b u (f a t)) (part : Q → P) :
    Outcome Q b u ((x >>= f) s) := by
  show Outcome Q b u (EStateM.bind x f s)
  unfold EStateM.bind
  generalize x s = r at first
  cases first with
  | returned holds => exact then_ holds
  | raised e t fails => exact .raised e t fun holds => fails (part holds)

/-- A loop whose state is known by what it has done. -/
theorem foldlM_outcome {f : β → α → EStateM ε σ β} {l : List α} {v : List α → β}
    {s : List α → σ} {P : List α → Prop} (start : P [])
    (initial : ∀ done rest, P (done ++ rest) → P done)
    (step : ∀ done a rest, l = done ++ a :: rest → P done →
      Outcome (P (done ++ [a])) (v (done ++ [a])) (s (done ++ [a]))
        (f (v done) a (s done))) :
    Outcome (P l) (v l) (s l)
      ((l.foldlM f (v []) : EStateM ε σ β) (s [])) := by
  have loop : ∀ rest done, l = done ++ rest → P done →
      Outcome (P l) (v l) (s l)
        ((rest.foldlM f (v done) : EStateM ε σ β) (s done)) := by
    intro rest
    induction rest with
    | nil =>
      rintro done split holds
      rw [List.append_nil] at split
      subst split
      exact .returned holds
    | cons a rest ih =>
      intro done split holds
      have split' : l = (done ++ [a]) ++ rest := by simpa using split
      rw [List.foldlM_cons]
      exact (step done a rest split holds).bind (ih (done ++ [a]) split') fun whole =>
        initial (done ++ [a]) rest (split' ▸ whole)
  exact loop l [] rfl start

/-- The same for a loop over the keys of rows loaded beforehand: a row has had no turn yet. -/
theorem loadedRows_outcome {ρ κ : Type} {key : ρ → κ} {f : β → κ → EStateM ε σ β} {l : List ρ}
    {v : List ρ → β} {s : List ρ → σ} {P : List ρ → Prop} (nodup : (l.map key).Nodup)
    (start : P []) (initial : ∀ done rest, P (done ++ rest) → P done)
    (step : ∀ done r rest, l = done ++ r :: rest → key r ∉ done.map key → P done →
      Outcome (P (done ++ [r])) (v (done ++ [r])) (s (done ++ [r]))
        (f (v done) (key r) (s done))) :
    Outcome (P l) (v l) (s l)
      (((l.map key).foldlM f (v []) : EStateM ε σ β) (s [])) := by
  rw [List.foldlM_map]
  apply foldlM_outcome start initial
  intro done r rest split holds
  refine step done r rest split ?_ holds
  rw [split, List.map_append, List.map_cons, List.nodup_append] at nodup
  intro taken
  exact nodup.2.2 (key r) taken (key r) List.mem_cons_self rfl

/-- Two nested loops are one loop over the pairs. -/
theorem foldlM_product {γ : Type} (f : β → α → γ → EStateM ε σ β) (xs : List α) (ys : List γ) (b : β) :
    xs.foldlM (fun b x => ys.foldlM (fun b y => f b x y) b) b =
      (xs ×ˢ ys).foldlM (fun b pair => f b pair.1 pair.2) b := by
  induction xs generalizing b with
  | nil => rfl
  | cons x xs ih =>
    have row : ∀ b, ys.foldlM (fun b y => f b x y) b =
        (ys.map (x, ·)).foldlM (fun b pair => f b pair.1 pair.2) b := by
      intro b
      rw [List.foldlM_map]
    rw [List.foldlM_cons, List.product_cons, List.foldlM_append, row]
    exact congrArg _ (funext ih)

theorem map_product {γ δ : Type} (f : α → γ) (g : β → δ) (xs : List α) (ys : List β) :
    (xs ×ˢ ys).map (fun pair => (f pair.1, g pair.2)) = xs.map f ×ˢ ys.map g := by
  induction xs with
  | nil => rfl
  | cons x xs ih => simp [List.product_cons, ih]

end MeadowOps.Lib
