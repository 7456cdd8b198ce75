import Mathlib.Data.List.Induction

/-!
# Labelled systems and their runs

A system starts in an initial state and moves by labelled steps. `Reach ok s` says that a run
whose every step meets the condition `ok` (on the state before the step and its label) ends in
`s`; `Reachable` is the run without a condition. An invariant is shown once for a step and holds
in every state of every such run.
-/

namespace MeadowOps.Lib

/-- States `σ`, labels `ℓ`. -/
structure System (σ ℓ : Type) where
  init : σ → Prop
  step : σ → ℓ → σ → Prop

namespace System

variable {σ ℓ : Type} (S : System σ ℓ)

/-- The states reached by runs whose steps all meet `ok`. -/
inductive Reach (ok : σ → ℓ → Prop) : σ → Prop
  | start {s : σ} : S.init s → Reach ok s
  | next {s s' : σ} {l : ℓ} : Reach ok s → ok s l → S.step s l s' → Reach ok s'

/-- The states reached by any run. -/
abbrev Reachable : σ → Prop := S.Reach fun _ _ => True

variable {S}

/-- The invariant rule. The step may use that its source is reached. -/
theorem Reach.invariant {ok : σ → ℓ → Prop} {I : σ → Prop} (init : ∀ s, S.init s → I s)
    (step : ∀ s l s', S.Reach ok s → I s → ok s l → S.step s l s' → I s') {s : σ}
    (h : S.Reach ok s) : I s := by
  induction h with
  | start h => exact init _ h
  | next hr hok hs ih => exact step _ _ _ hr ih hok hs

/-- A run under a condition is a run. -/
theorem Reach.mono {ok ok' : σ → ℓ → Prop} (hok : ∀ s l, ok s l → ok' s l) {s : σ}
    (h : S.Reach ok s) : S.Reach ok' s := by
  induction h with
  | start h => exact .start h
  | next _ ho hs ih => exact .next ih (hok _ _ ho) hs

/-- A run of an executable step that checks the condition as it goes. -/
theorem Reach.checked {ok : σ → ℓ → Prop} [∀ s l, Decidable (ok s l)] {f : σ → ℓ → Option σ}
    (sound : ∀ s l s', f s l = some s' → S.step s l s') {s s' : σ} {ls : List ℓ}
    (h : S.Reach ok s) (ran : ls.foldlM (fun s l => if ok s l then f s l else none) s = some s') :
    S.Reach ok s' := by
  induction ls generalizing s with
  | nil =>
    cases ran
    exact h
  | cons l ls ih =>
    rw [List.foldlM_cons] at ran
    obtain ⟨mid, one, rest⟩ := Option.bind_eq_some_iff.1 ran
    split at one
    · exact ih (h.next ‹_› (sound s l mid one)) rest
    · cases one

theorem Reach.reachable {ok : σ → ℓ → Prop} {s : σ} (h : S.Reach ok s) : S.Reachable s :=
  h.mono fun _ _ _ => trivial

variable (S) in
/-- The runs from `s₀` with their labels. -/
inductive Trace (ok : σ → ℓ → Prop) (s₀ : σ) : List ℓ → σ → Prop
  | start : Trace ok s₀ [] s₀
  | next {ls : List ℓ} {s s' : σ} {l : ℓ} :
    Trace ok s₀ ls s → ok s l → S.step s l s' → Trace ok s₀ (ls ++ [l]) s'

/-- The invariant rule, with the labels so far. -/
theorem Trace.invariant {ok : σ → ℓ → Prop} {s₀ : σ} {I : List ℓ → σ → Prop} (init : I [] s₀)
    (step : ∀ ls s l s', I ls s → ok s l → S.step s l s' → I (ls ++ [l]) s') {ls : List ℓ} {s : σ}
    (h : S.Trace ok s₀ ls s) : I ls s := by
  induction h with
  | start => exact init
  | next _ meets moves ih => exact step _ _ _ _ ih meets moves

/-- The run of an executable step that checks the condition as it goes. -/
theorem Trace.checked {ok : σ → ℓ → Prop} [∀ s l, Decidable (ok s l)] {f : σ → ℓ → Option σ}
    (sound : ∀ s l s', f s l = some s' → S.step s l s') {s₀ s' : σ} {ls : List ℓ}
    (ran : ls.foldlM (fun s l => if ok s l then f s l else none) s₀ = some s') : S.Trace ok s₀ ls s' := by
  induction ls using List.reverseRecOn generalizing s' with
  | nil =>
    cases ran
    exact .start
  | append_singleton ls l ih =>
    rw [List.foldlM_append] at ran
    obtain ⟨mid, before, one⟩ := Option.bind_eq_some_iff.1 ran
    rw [List.foldlM_cons] at one
    obtain ⟨last, one, done⟩ := Option.bind_eq_some_iff.1 one
    cases done
    split at one
    · exact .next (ih before) ‹_› (sound mid l s' one)
    · cases one

variable (S) in
/-- The runs that go on from `s`. -/
def after (s : σ) : System σ ℓ := ⟨(· = s), S.step⟩

/-- What every step of a reached state respects holds between a reached state and a later one. -/
theorem Reach.later {ok : σ → ℓ → Prop} {R : σ → σ → Prop} (refl : ∀ s, R s s)
    (trans : ∀ s₁ s₂ s₃, R s₁ s₂ → R s₂ s₃ → R s₁ s₃)
    (step : ∀ s l s', S.Reach ok s → ok s l → S.step s l s' → R s s') {s s' : σ} (h : S.Reach ok s)
    (h' : (S.after s).Reach ok s') : S.Reach ok s' ∧ R s s' := by
  induction h' with
  | start same =>
    have same : _ = s := same
    rw [same]
    exact ⟨h, refl s⟩
  | next _ hok hs ih =>
    obtain ⟨reached, before⟩ := ih
    exact ⟨reached.next hok hs, trans _ _ _ before (step _ _ _ reached hok hs)⟩

end System

end MeadowOps.Lib
