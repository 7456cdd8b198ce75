import MeadowOps.Lib.Program

/-!
# Triples with two postconditions

A program that may raise, from a state that satisfies `P`: it returns in a state of `Q`, or raises in one of
`E`. The loop rule carries the items that are done.
-/

namespace MeadowOps.Lib

variable {σ ε α β : Type}

/-- From `P`, `x` returns in `Q` or raises in `E`. -/
def Triple (P : σ → Prop) (x : EStateM ε σ α) (Q : α → σ → Prop) (E : σ → Prop) : Prop :=
  ∀ s, P s →
    match x s with
    | .ok a s' => Q a s'
    | .error _ s' => E s'

namespace Triple

variable {P P' : σ → Prop} {Q Q' : α → σ → Prop} {E E' : σ → Prop} {x : EStateM ε σ α}

theorem of_ok (h : Triple P x Q E) {s s' : σ} {a : α} (pre : P s) (run : x s = .ok a s') : Q a s' := by
  have post := h s pre
  rw [run] at post
  exact post

/-- What holds however the program ends. -/
theorem endState (h : Triple P x (fun _ => E) E) {s : σ} (pre : P s) : E (endState (x s)) := by
  have post := h s pre
  cases run : x s with
  | ok a s' =>
    rw [run] at post
    exact post
  | error e s' =>
    rw [run] at post
    exact post

theorem pure (a : α) : Triple (Q a) (pure a : EStateM ε σ α) Q E := fun _ pre => pre

/-- What is known of the start but not of its state. -/
theorem of_fact {F : Prop} (h : F → Triple P x Q E) : Triple (fun s => P s ∧ F) x Q E :=
  fun s pre => h pre.2 s pre.1

theorem consequence (h : Triple P x Q E) (pre : ∀ s, P' s → P s) (post : ∀ a s, Q a s → Q' a s)
    (raised : ∀ s, E s → E' s) : Triple P' x Q' E' := by
  intro s start
  have ends := h s (pre s start)
  cases run : x s with
  | ok a s' =>
    rw [run] at ends
    exact post a s' ends
  | error e s' =>
    rw [run] at ends
    exact raised s' ends

theorem bind {R : β → σ → Prop} {f : α → EStateM ε σ β} (hx : Triple P x Q E)
    (hf : ∀ a, Triple (Q a) (f a) R E) : Triple P (x >>= f) R E := by
  intro s pre
  have mid := hx s pre
  cases run : x s with
  | ok a s' =>
    rw [run] at mid
    rw [bind_of_ok run]
    exact hf a s' mid
  | error e s' =>
    rw [run] at mid
    rw [bind_of_error run]
    exact mid

/-- A program that does not raise returns. -/
theorem returns (h : Triple P x Q fun _ => False) {s : σ} (pre : P s) : ∃ a s', x s = .ok a s' ∧ Q a s' := by
  have post := h s pre
  cases run : x s with
  | ok a s' =>
    rw [run] at post
    exact ⟨a, s', rfl, post⟩
  | error e s' =>
    rw [run] at post
    exact post.elim

theorem of_returns (h : ∀ s, P s → ∃ a s', x s = .ok a s' ∧ Q a s') : Triple P x Q E := by
  intro s pre
  obtain ⟨a, s', run, post⟩ := h s pre
  rw [run]
  exact post

/-- A program that first reads the state. -/
theorem get_bind {f : σ → EStateM ε σ α} (h : ∀ s, P s → Triple P (f s) Q E) : Triple P (get >>= f) Q E :=
  fun s pre => h s pre s pre

/-- The loop rule for what every iteration keeps. -/
theorem foldlM {f : β → α → EStateM ε σ β} {l : List α}
    (step : ∀ b, ∀ a ∈ l, Triple P (f b a) (fun _ => P) E) (b : β) :
    Triple P (l.foldlM f b) (fun _ => P) E := by
  induction l generalizing b with
  | nil => exact pure (Q := fun _ => P) b
  | cons a l ih =>
    rw [List.foldlM_cons]
    exact (step b a List.mem_cons_self).bind (ih fun b a mem => step b a (List.mem_cons_of_mem _ mem))

/-- The loop rule: `J` holds of the items to come. -/
theorem foldlM_rest {J : List α → σ → Prop} {f : β → α → EStateM ε σ β}
    (step : ∀ b a rest, Triple (J (a :: rest)) (f b a) (fun _ => J rest) E) (l : List α) (b : β) :
    Triple (J l) (l.foldlM f b) (fun _ => J []) E := by
  induction l generalizing b with
  | nil => exact pure (Q := fun _ => J []) b
  | cons a l ih =>
    rw [List.foldlM_cons]
    exact (step b a l).bind ih

/-- The loop rule: `J` holds of the items that are done. -/
theorem forM {J : List α → σ → Prop} {f : α → EStateM ε σ PUnit} (l : List α)
    (step : ∀ done a rest, l = done ++ a :: rest → Triple (J done) (f a) (fun _ => J (done ++ [a])) E) :
    Triple (J []) (l.forM f) (fun _ => J l) E := by
  have loop : ∀ rest done, l = done ++ rest → Triple (J done) (rest.forM f) (fun _ => J l) E := by
    intro rest
    induction rest with
    | nil =>
      intro done split
      rw [List.append_nil] at split
      rw [split]
      exact fun s pre => pre
    | cons a rest ih =>
      intro done split
      refine (step done a rest split).bind fun _ => ih (done ++ [a]) ?_
      rw [split, List.append_assoc]
      rfl
  exact loop l [] rfl

theorem forM_append {P M : σ → Prop} {Q : PUnit → σ → Prop} {f : α → EStateM ε σ PUnit} {l l' : List α}
    (first : Triple P (l.forM f) (fun _ => M) E) (second : Triple M (l'.forM f) Q E) :
    Triple P ((l ++ l').forM f) Q E := by
  rw [List.forM_eq_forM, List.forM_append]
  exact first.bind fun _ => second

theorem forM_cons {P M : σ → Prop} {Q : PUnit → σ → Prop} {f : α → EStateM ε σ PUnit} {a : α} {l : List α}
    (first : Triple P (f a) (fun _ => M) E) (rest : Triple M (l.forM f) Q E) :
    Triple P ((a :: l).forM f) Q E := first.bind fun _ => rest

theorem forM_map {P : σ → Prop} {Q : PUnit → σ → Prop} {f : α → EStateM ε σ PUnit} {g : β → α} {l : List β}
    (h : Triple P (l.forM fun b => f (g b)) Q E) : Triple P ((l.map g).forM f) Q E := by
  rw [List.forM_eq_forM, List.forM_map]
  exact h

end Triple

end MeadowOps.Lib
