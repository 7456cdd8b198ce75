import Mathlib.Logic.Basic

/-!
# Programs over a state that may raise

A program is an `EStateM ε σ`: it returns a value or raises an `ε`, and in both cases leaves
a state behind. `Keeps I x` says that `x` keeps the invariant `I` of the state whichever of
the two happens; the rules below follow the program's own structure.

`Tx σ` is a database session: what is committed, and what the open transaction has written.
-/

namespace MeadowOps.Lib

variable {σ τ ε α β : Type}

/-- The state a program leaves behind, returned or raised. -/
def endState : EStateM.Result ε σ α → σ
  | .ok _ s => s
  | .error _ s => s

@[simp] theorem endState_ok (a : α) (s : σ) : endState (.ok a s : EStateM.Result ε σ α) = s := rfl

@[simp] theorem endState_error (e : ε) (s : σ) :
    endState (.error e s : EStateM.Result ε σ α) = s := rfl

/-- What a program raised. -/
def raised? : EStateM.Result ε σ α → Option ε
  | .ok _ _ => none
  | .error e _ => some e

@[simp] theorem raised?_ok (a : α) (s : σ) : raised? (.ok a s : EStateM.Result ε σ α) = none := rfl

@[simp] theorem raised?_error (e : ε) (s : σ) :
    raised? (.error e s : EStateM.Result ε σ α) = some e := rfl

/-- A sequence that returns: so did its first part. -/
theorem bind_eq_ok {x : EStateM ε σ α} {f : α → EStateM ε σ β} {s s' : σ} {b : β}
    (h : (x >>= f) s = .ok b s') : ∃ a s₁, x s = .ok a s₁ ∧ f a s₁ = .ok b s' := by
  change EStateM.bind x f s = _ at h
  unfold EStateM.bind at h
  cases run : x s with
  | ok a s₁ =>
    rw [run] at h
    exact ⟨a, s₁, rfl, h⟩
  | error e s₁ =>
    rw [run] at h
    cases h

/-- A sequence whose first part returns goes on from there. -/
theorem bind_of_ok {x : EStateM ε σ α} {f : α → EStateM ε σ β} {s s₁ : σ} {a : α} (h : x s = .ok a s₁) :
    (x >>= f) s = f a s₁ := by
  change EStateM.bind x f s = _
  rw [EStateM.bind, h]

/-- A program that first reads the state. -/
theorem get_bind (f : σ → EStateM ε σ β) (s : σ) : (get >>= f) s = f s s := rfl

/-- A sequence whose first part raises has raised. -/
theorem bind_of_error {x : EStateM ε σ α} {f : α → EStateM ε σ β} {s s₁ : σ} {e : ε}
    (h : x s = .error e s₁) : (x >>= f) s = .error e s₁ := by
  change EStateM.bind x f s = _
  rw [EStateM.bind, h]

/-- A loop that returns: so did each iteration. -/
theorem foldlM_ok_mem {f : β → α → EStateM ε σ β} {l : List α} {b b' : β} {s s' : σ}
    (run : (l.foldlM f b : EStateM ε σ β) s = .ok b' s') {a : α} (mem : a ∈ l) :
    ∃ c s₁ c' s₂, f c a s₁ = .ok c' s₂ := by
  induction l generalizing b s with
  | nil => cases mem
  | cons a' l ih =>
    rw [List.foldlM_cons] at run
    obtain ⟨c, s₁, first, rest⟩ := bind_eq_ok run
    rcases List.mem_cons.1 mem with rfl | later
    · exact ⟨b, s, c, s₁, first⟩
    · exact ih rest later

/-- `x` keeps `I`, whether it returns or raises. -/
def Keeps (I : σ → Prop) (x : EStateM ε σ α) : Prop := ∀ s, I s → I (endState (x s))

section Keeps
variable {I : σ → Prop}

theorem Keeps.of_ok {x : EStateM ε σ α} (h : Keeps I x) {s s' : σ} {a : α} (hs : I s)
    (run : x s = .ok a s') : I s' := by
  have kept := h s hs
  rw [run] at kept
  exact kept

theorem Keeps.pure (a : α) : Keeps I (pure a : EStateM ε σ α) := fun _ h => h

theorem Keeps.bind {x : EStateM ε σ α} {f : α → EStateM ε σ β} (hx : Keeps I x)
    (hf : ∀ a, Keeps I (f a)) : Keeps I (x >>= f) := by
  intro s hs
  have h1 := hx s hs
  show I (endState (EStateM.bind x f s))
  unfold EStateM.bind
  cases hr : x s with
  | ok a s' => rw [hr] at h1; exact hf a s' h1
  | error e s' => rw [hr] at h1; exact h1

/-- A sequence from one state, where the second part may use how the first part went. -/
theorem bind_end {x : EStateM ε σ α} {f : α → EStateM ε σ β} {s : σ} (hx : I (endState (x s)))
    (hf : ∀ a s', x s = .ok a s' → I s' → I (endState (f a s'))) : I (endState ((x >>= f) s)) := by
  show I (endState (EStateM.bind x f s))
  unfold EStateM.bind
  cases hr : x s with
  | ok a s' =>
    rw [hr] at hx
    exact hf a s' hr hx
  | error e s' =>
    rw [hr] at hx
    exact hx

/-- The loop rule: what every iteration keeps, the loop keeps. -/
theorem Keeps.foldlM {f : β → α → EStateM ε σ β} {l : List α} (h : ∀ b, ∀ a ∈ l, Keeps I (f b a)) :
    ∀ b, Keeps I (l.foldlM f b) := by
  induction l with
  | nil => exact fun b => Keeps.pure b
  | cons a l ih =>
    intro b
    rw [List.foldlM_cons]
    exact (h b a List.mem_cons_self).bind (ih fun b a ha => h b a (List.mem_cons_of_mem _ ha))

/-- A program that first reads the state. -/
theorem Keeps.get_bind {f : σ → EStateM ε σ β} (h : ∀ s, I s → I (endState (f s s))) :
    Keeps I (get >>= f) := fun s hs => h s hs

/-- A loop that returns: every iteration brings about `Q` of its element, and `K`, which keeps it. -/
theorem foldlM_each {f : β → α → EStateM ε σ β} {K : σ → σ → Prop} {Q : α → σ → Prop} (refl : ∀ s, K s s)
    (trans : ∀ s₁ s₂ s₃, K s₁ s₂ → K s₂ s₃ → K s₁ s₃) (keep : ∀ a s s', K s s' → Q a s → Q a s') {l : List α}
    (each : ∀ b a s b' s', a ∈ l → f b a s = .ok b' s' → K s s' ∧ Q a s') {b b' : β} {s s' : σ}
    (run : (l.foldlM f b : EStateM ε σ β) s = .ok b' s') : K s s' ∧ ∀ a ∈ l, Q a s' := by
  induction l generalizing b s with
  | nil =>
    cases run
    exact ⟨refl _, fun _ mem => nomatch mem⟩
  | cons a l ih =>
    rw [List.foldlM_cons] at run
    obtain ⟨c, s₁, one, rest⟩ := bind_eq_ok run
    obtain ⟨first, own⟩ := each b a s c s₁ List.mem_cons_self one
    obtain ⟨later, others⟩ := ih (fun b a s b' s' mem => each b a s b' s' (List.mem_cons_of_mem _ mem)) rest
    refine ⟨trans _ _ _ first later, fun a' mem => ?_⟩
    rcases List.mem_cons.1 mem with rfl | mem
    · exact keep _ _ _ later own
    · exact others a' mem

/-- The loop rule with the iterations to come and the accumulator in the invariant. `F` holds
of every state the loop can end in, also when an iteration raises. -/
theorem foldlM_inv {f : β → α → EStateM ε σ β} {J : List α → β → σ → Prop} {F : σ → Prop}
    (step : ∀ a l b s, J (a :: l) b s →
      match f b a s with
      | .ok b' s' => J l b' s'
      | .error _ s' => F s') :
    ∀ l b s, J l b s →
      match (l.foldlM f b : EStateM ε σ β) s with
      | .ok b' s' => J [] b' s'
      | .error _ s' => F s' := by
  intro l
  induction l with
  | nil => exact fun b s h => h
  | cons a l ih =>
    intro b s h
    have h1 := step a l b s h
    rw [List.foldlM_cons]
    show match EStateM.bind (f b a) (fun b' => l.foldlM f b') s with
      | .ok b' s' => J [] b' s'
      | .error _ s' => F s'
    unfold EStateM.bind
    cases hr : f b a s with
    | ok b' s' =>
      rw [hr] at h1
      exact ih b' s' h1
    | error e s' =>
      rw [hr] at h1
      exact h1

/-- What the loop rule says of the state the loop leaves behind. -/
theorem foldlM_end {f : β → α → EStateM ε σ β} {J : List α → β → σ → Prop} {F : σ → Prop}
    (step : ∀ a l b s, J (a :: l) b s →
      match f b a s with
      | .ok b' s' => J l b' s'
      | .error _ s' => F s')
    (done : ∀ b s, J [] b s → F s) (l : List α) (b : β) (s : σ) (h : J l b s) :
    F (endState ((l.foldlM f b : EStateM ε σ β) s)) := by
  have h1 := foldlM_inv step l b s h
  cases hr : (l.foldlM f b : EStateM ε σ β) s with
  | ok b' s' =>
    rw [hr] at h1
    exact done b' s' h1
  | error e s' =>
    rw [hr] at h1
    exact h1

/-- The loop rule for rows loaded beforehand: the rows to come are still in the table, since an
iteration leaves the rows of other keys alone. `Q` is what is known of the iterations to come. -/
theorem loadedRows_plan_end {ρ κ : Type} {T : σ → List ρ} {key : ρ → κ} {P : ρ → Prop}
    {Q : List κ → σ → Prop} {f : β → κ → EStateM ε σ β}
    (iter : ∀ b r ks s, I s → r ∈ T s → P r → Q (key r :: ks) s →
      (I (endState (f b (key r) s)) ∧
        ∀ r' ∈ T s, key r' ≠ key r → r' ∈ T (endState (f b (key r) s))) ∧
      Q ks (endState (f b (key r) s)))
    {l : List ρ} (nodup : (l.map key).Nodup) (b : β) {s : σ} (hs : I s)
    (loaded : ∀ r ∈ l, r ∈ T s ∧ P r) (plan : Q (l.map key) s) :
    I (endState (((l.map key).foldlM f b : EStateM ε σ β) s)) := by
  refine foldlM_end (J := fun keys _ s => I s ∧ keys.Nodup ∧
    (∀ k ∈ keys, ∃ r ∈ T s, P r ∧ key r = k) ∧ Q keys s) (F := I) ?_ (fun _ _ h => h.1) _ b s
    ⟨hs, nodup, fun k hk => ?_, plan⟩
  · rintro k keys b s ⟨hs, distinct, present, plan⟩
    obtain ⟨fresh, distinct'⟩ := List.nodup_cons.1 distinct
    obtain ⟨r, hr, hP, rfl⟩ := present k List.mem_cons_self
    have done := iter b r keys s hs hr hP plan
    have rest : ∀ k ∈ keys, ∃ r' ∈ T (endState (f b (key r) s)), P r' ∧ key r' = k := by
      intro k hk
      obtain ⟨r', hr', hP', rfl⟩ := present k (List.mem_cons_of_mem _ hk)
      exact ⟨r', done.1.2 r' hr' fun he => fresh (he ▸ hk), hP', rfl⟩
    cases hf : f b (key r) s with
    | ok b' s' =>
      rw [hf] at done rest
      exact ⟨done.1.1, distinct', rest, done.2⟩
    | error e s' =>
      rw [hf] at done
      exact done.1.1
  · obtain ⟨r, hr, rfl⟩ := List.mem_map.1 hk
    exact ⟨r, (loaded r hr).1, (loaded r hr).2, rfl⟩

theorem loadedRows_end {ρ κ : Type} {T : σ → List ρ} {key : ρ → κ} {P : ρ → Prop}
    {f : β → κ → EStateM ε σ β}
    (iter : ∀ b r s, I s → r ∈ T s → P r → I (endState (f b (key r) s)) ∧
      ∀ r' ∈ T s, key r' ≠ key r → r' ∈ T (endState (f b (key r) s)))
    {l : List ρ} (nodup : (l.map key).Nodup) (b : β) {s : σ} (hs : I s)
    (loaded : ∀ r ∈ l, r ∈ T s ∧ P r) :
    I (endState (((l.map key).foldlM f b : EStateM ε σ β) s)) :=
  loadedRows_plan_end (Q := fun _ _ => True)
    (fun b r _ s hs hr hP _ => ⟨iter b r s hs hr hP, trivial⟩) nodup b hs loaded trivial

/-- `loadedRows_end` for the loops that return. -/
theorem loadedRows_ok {ρ κ : Type} {T : σ → List ρ} {key : ρ → κ} {P : ρ → Prop}
    {f : β → κ → EStateM ε σ β}
    (iter : ∀ b r s b' s', I s → r ∈ T s → P r → f b (key r) s = .ok b' s' →
      I s' ∧ ∀ r' ∈ T s, key r' ≠ key r → r' ∈ T s')
    {l : List ρ} (nodup : (l.map key).Nodup) (b : β) {s : σ} (hs : I s)
    (loaded : ∀ r ∈ l, r ∈ T s ∧ P r) {b' : β} {s' : σ}
    (run : ((l.map key).foldlM f b : EStateM ε σ β) s = .ok b' s') : I s' := by
  have loop := foldlM_inv (f := f) (F := fun _ => True)
    (J := fun keys _ s => I s ∧ keys.Nodup ∧ ∀ k ∈ keys, ∃ r ∈ T s, P r ∧ key r = k) ?_ (l.map key) b s
    ⟨hs, nodup, fun k hk => ?_⟩
  · rw [run] at loop
    exact loop.1
  · rintro k keys b s ⟨hs, distinct, present⟩
    obtain ⟨fresh, distinct'⟩ := List.nodup_cons.1 distinct
    obtain ⟨r, hr, hP, rfl⟩ := present k List.mem_cons_self
    cases step : f b (key r) s with
    | error e s' => trivial
    | ok b' s' =>
      obtain ⟨inv, others⟩ := iter b r s b' s' hs hr hP step
      refine ⟨inv, distinct', fun k hk => ?_⟩
      obtain ⟨r', hr', hP', rfl⟩ := present k (List.mem_cons_of_mem _ hk)
      exact ⟨r', others r' hr' fun he => fresh (he ▸ hk), hP', rfl⟩
  · obtain ⟨r, hr, rfl⟩ := List.mem_map.1 hk
    exact ⟨r, (loaded r hr).1, (loaded r hr).2, rfl⟩

/-- A program whose value is mapped leaves the same state. -/
theorem endState_bind_pure (x : EStateM ε σ α) (g : α → β) (s : σ) :
    endState ((x >>= fun a => Pure.pure (g a) : EStateM ε σ β) s) = endState (x s) := by
  show endState (EStateM.bind x _ s) = _
  unfold EStateM.bind
  cases x s <;> rfl

end Keeps

/-! Programs that check before they write. -/

/-- `x` leaves the state as it is. -/
def ReadsOnly (x : EStateM ε σ α) : Prop := ∀ s, endState (x s) = s

def NeverRaises (x : EStateM ε σ α) : Prop := ∀ s, ∃ a s', x s = .ok a s'

/-- `x` leaves the state as it is when it raises. -/
def RaisesClean (x : EStateM ε σ α) : Prop := ∀ s e s', x s = .error e s' → s' = s

theorem RaisesClean.of_readsOnly {x : EStateM ε σ α} (h : ReadsOnly x) : RaisesClean x := by
  intro s e s' raised
  have same := h s
  rw [raised] at same
  exact same

theorem RaisesClean.of_neverRaises {x : EStateM ε σ α} (h : NeverRaises x) : RaisesClean x := by
  intro s e s' raised
  obtain ⟨a, s₁, ok⟩ := h s
  rw [ok] at raised
  cases raised

/-- What is only read may be followed by what raises cleanly. -/
theorem ReadsOnly.bind_clean {x : EStateM ε σ α} {f : α → EStateM ε σ β} (hx : ReadsOnly x)
    (hf : ∀ a, RaisesClean (f a)) : RaisesClean (x >>= f) := by
  intro s e s' raised
  change EStateM.bind x f s = _ at raised
  unfold EStateM.bind at raised
  have same := hx s
  cases run : x s with
  | ok a s₁ =>
    rw [run] at raised same
    have here : s₁ = s := same
    exact (hf a s₁ e s' raised).trans here
  | error e₁ s₁ =>
    rw [run] at raised same
    cases raised
    exact same

theorem ReadsOnly.bind {x : EStateM ε σ α} {f : α → EStateM ε σ β} (hx : ReadsOnly x)
    (hf : ∀ a, ReadsOnly (f a)) : ReadsOnly (x >>= f) := by
  intro s
  show endState (EStateM.bind x f s) = s
  unfold EStateM.bind
  have same := hx s
  cases run : x s with
  | ok a s₁ =>
    rw [run] at same
    have here : s₁ = s := same
    exact (hf a s₁).trans here
  | error e s₁ =>
    rw [run] at same
    exact same

/-- What raises cleanly may be followed by what never raises. -/
theorem RaisesClean.bind_never {x : EStateM ε σ α} {f : α → EStateM ε σ β} (hx : RaisesClean x)
    (hf : ∀ a, NeverRaises (f a)) : RaisesClean (x >>= f) := by
  intro s e s' raised
  change EStateM.bind x f s = _ at raised
  unfold EStateM.bind at raised
  cases run : x s with
  | ok a s₁ =>
    rw [run] at raised
    obtain ⟨b, s₂, ok⟩ := hf a s₁
    have never : (.ok b s₂ : EStateM.Result ε σ β) = .error e s' := ok.symm.trans raised
    cases never
  | error e₁ s₁ =>
    rw [run] at raised
    cases raised
    exact hx s e s' run

theorem NeverRaises.bind {x : EStateM ε σ α} {f : α → EStateM ε σ β} (hx : NeverRaises x)
    (hf : ∀ a, NeverRaises (f a)) : NeverRaises (x >>= f) := by
  intro s
  obtain ⟨a, s₁, run⟩ := hx s
  obtain ⟨b, s₂, run'⟩ := hf a s₁
  refine ⟨b, s₂, ?_⟩
  show EStateM.bind x f s = _
  unfold EStateM.bind
  rw [run]
  exact run'

theorem neverRaises_modify (g : σ → σ) : NeverRaises (modify g : EStateM ε σ PUnit) :=
  fun s => ⟨⟨⟩, g s, rfl⟩

theorem readsOnly_get : ReadsOnly (get : EStateM ε σ σ) := fun _ => rfl

theorem readsOnly_throw (e : ε) : ReadsOnly (throw e : EStateM ε σ α) := fun _ => rfl

theorem readsOnly_pure (a : α) : ReadsOnly (Pure.pure a : EStateM ε σ α) := fun _ => rfl

/-- A check that decides on values alone. -/
def liftExcept {ε' : Type} (wrap : ε' → ε) : Except ε' α → EStateM ε σ α
  | .ok a => Pure.pure a
  | .error e => throw (wrap e)

theorem readsOnly_liftExcept {ε' : Type} (wrap : ε' → ε) (x : Except ε' α) :
    ReadsOnly (liftExcept wrap x : EStateM ε σ α) := by
  cases x
  · exact readsOnly_throw _
  · exact readsOnly_pure _

theorem liftExcept_eq_ok {ε' : Type} {wrap : ε' → ε} {x : Except ε' α} {s s' : σ} {a : α}
    (h : (liftExcept wrap x : EStateM ε σ α) s = .ok a s') : x = .ok a ∧ s = s' := by
  cases x with
  | error e => cases h
  | ok b =>
    cases h
    exact ⟨rfl, rfl⟩

/-- `x` run on a part of the state. -/
def zoom (get : τ → σ) (put : σ → τ → τ) (x : EStateM ε σ α) : EStateM ε τ α := fun t =>
  match x (get t) with
  | .ok a s => .ok a (put s t)
  | .error e s => .error e (put s t)

theorem endState_zoom (get : τ → σ) (put : σ → τ → τ) (x : EStateM ε σ α) (t : τ) :
    endState (zoom get put x t) = put (endState (x (get t))) t := by
  unfold zoom
  cases x (get t) <;> rfl

/-- What is put is found, and overwritten. -/
structure IsPart (get : τ → σ) (put : σ → τ → τ) : Prop where
  get_put : ∀ s t, get (put s t) = s
  put_get : ∀ t, put (get t) t = t
  put_put : ∀ s s' t, put s' (put s t) = put s' t

section Part
variable {get : τ → σ} {put : σ → τ → τ} (part : IsPart get put)
include part

theorem zoom_pure (a : α) : zoom get put (Pure.pure a : EStateM ε σ α) = Pure.pure a := by
  funext t
  show EStateM.Result.ok a (put (get t) t) = .ok a t
  rw [part.put_get]

theorem zoom_bind (x : EStateM ε σ α) (f : α → EStateM ε σ β) :
    zoom get put (x >>= f) = zoom get put x >>= fun a => zoom get put (f a) := by
  funext t
  cases ran : x (get t) with
  | ok a s =>
    have first : zoom get put x t = .ok a (put s t) := by rw [zoom, ran]
    rw [bind_of_ok first, zoom, zoom, bind_of_ok ran, part.get_put]
    cases f a s with
    | ok b s' => exact congrArg (EStateM.Result.ok b) (part.put_put s s' t).symm
    | error e s' => exact congrArg (EStateM.Result.error e) (part.put_put s s' t).symm
  | error e s =>
    have first : zoom get put x t = .error e (put s t) := by rw [zoom, ran]
    rw [bind_of_error first, zoom, bind_of_error ran]

theorem zoom_foldlM (f : β → α → EStateM ε σ β) (l : List α) (b : β) :
    zoom get put (l.foldlM f b) = l.foldlM (fun b a => zoom get put (f b a)) b := by
  induction l generalizing b with
  | nil => exact zoom_pure part b
  | cons a l ih =>
    rw [List.foldlM_cons, List.foldlM_cons, zoom_bind part]
    exact congrArg _ (funext ih)

end Part

/-- A database session with an open transaction. `active` is false after a database error, until
the session is rolled back. -/
structure Tx (σ : Type) where
  committed : σ
  pending : σ
  active : Bool

namespace Tx

/-- A session that has written nothing yet. -/
def start (s : σ) : Tx σ := ⟨s, s, true⟩

def commit (t : Tx σ) : Tx σ := ⟨t.pending, t.pending, true⟩

def rollback (t : Tx σ) : Tx σ := ⟨t.committed, t.committed, true⟩

/-- Statements of the open transaction. An error that `aborts` is one of the database. -/
def onPending (aborts : ε → Bool) (x : EStateM ε σ α) : EStateM ε (Tx σ) α := fun t =>
  match x t.pending with
  | .ok a s => .ok a { t with pending := s }
  | .error e s => .error e { t with pending := s, active := !aborts e }

/-- A property of both the committed and the pending state. -/
def Both (P : σ → Prop) (t : Tx σ) : Prop := P t.committed ∧ P t.pending

theorem Both.imp {P Q : σ → Prop} {t : Tx σ} (h : Both P t) (imp : ∀ s, P s → Q s) : Both Q t :=
  ⟨imp _ h.1, imp _ h.2⟩

theorem Both.commit {P : σ → Prop} {t : Tx σ} (h : Both P t) : Both P t.commit := ⟨h.2, h.2⟩

theorem Both.rollback {P : σ → Prop} {t : Tx σ} (h : Both P t) : Both P t.rollback := ⟨h.1, h.1⟩

end Tx

end MeadowOps.Lib
