import MeadowOps.Lib.Program
import MeadowOps.Lib.Runs
import Mathlib.Logic.Function.Basic

/-!
# Transactions behind one lock

Transactions under READ COMMITTED whose first statement takes one and the same lock. A later statement sees the
store as it is committed when it runs, merged with what its own transaction has written; how the two are merged is
a parameter. A transaction may roll back and leave something for a second one to write, which takes no lock.
Whatever is written without the lock is *noise*: a relation that the transactions respect.

`serialises` says that the interleavings of such transactions reach, up to the noise, what the transactions reach
one after another.
-/

namespace MeadowOps.Lib.OneLock

variable {σ ε α : Type}

/-- The statements after the lock. -/
inductive Txn (σ : Type) where
  /-- What a statement writes, and how the transaction goes on after what it has seen. -/
  | turn (write : σ → σ) (next : σ → Txn σ)
  | commit
  | rollback
  /-- Rolls back; a second transaction writes `later`. -/
  | rollbackThen (later : σ → σ)

namespace Txn

/-- The store after the transaction alone, which has begun on `s₀` and sees `s`. -/
def alone (s₀ : σ) : Txn σ → σ → σ
  | .turn write next, s => (next s).alone s₀ (write s)
  | .commit, s => s
  | .rollback, _ => s₀
  | .rollbackThen later, _ => later s₀

/-- A group of statements as a program. -/
def run (x : EStateM ε σ α) (ok : α → Txn σ) (fail : ε → Txn σ) : Txn σ :=
  .turn (fun v => endState (x v)) fun v =>
    match x v with
    | .ok a _ => ok a
    | .error e _ => fail e

@[simp] theorem alone_run (s₀ : σ) (x : EStateM ε σ α) (ok : α → Txn σ) (fail : ε → Txn σ) (v : σ) :
    (run x ok fail).alone s₀ v =
      match x v with
      | .ok a v' => (ok a).alone s₀ v'
      | .error e v' => (fail e).alone s₀ v' := by
  rw [run, alone]
  cases x v <;> rfl

/-- Calls one after another; one that raises ends the transaction. -/
def inOrder (calls : List (EStateM ε σ Unit)) : Txn σ :=
  calls.foldr (fun x rest => run x (fun _ => rest) fun _ => .rollback) .commit

theorem alone_inOrder (s₀ : σ) (calls : List (EStateM ε σ Unit)) (v : σ) :
    (inOrder calls).alone s₀ v =
      match (calls.foldlM (fun _ x => x) () : EStateM ε σ Unit) v with
      | .ok _ v' => v'
      | .error _ _ => s₀ := by
  induction calls generalizing v with
  | nil => rfl
  | cons x calls ih =>
    rw [inOrder, List.foldr_cons, alone_run, List.foldlM_cons]
    cases ran : x v with
    | ok _ v' =>
      rw [bind_of_ok ran]
      exact ih v'
    | error e v' =>
      rw [bind_of_error ran]
      rfl

/-- Two transactions that do the same, up to the noise `R`. -/
inductive Same (R : σ → σ → Prop) : Txn σ → Txn σ → Prop where
  | turn {write write' : σ → σ} {next next' : σ → Txn σ} (writes : ∀ v v', R v v' → R (write v) (write' v'))
    (nexts : ∀ v v', R v v' → Same R (next v) (next' v')) : Same R (.turn write next) (.turn write' next')
  | commit : Same R .commit .commit
  | rollback : Same R .rollback .rollback
  | rollbackThen {later later' : σ → σ} (left : ∀ v, R v (later v)) (right : ∀ v, R v (later' v)) :
    Same R (.rollbackThen later) (.rollbackThen later')

/-- `x` returns or raises the same whatever the noise, and passes it on. -/
def Respects (R : σ → σ → Prop) (x : EStateM ε σ α) : Prop := ∀ v v', R v v' →
  match x v, x v' with
  | .ok a w, .ok a' w' => a = a' ∧ R w w'
  | .error e w, .error e' w' => e = e' ∧ R w w'
  | _, _ => False

theorem Same.run {R : σ → σ → Prop} {x : EStateM ε σ α} (respects : Respects R x) {ok ok' : α → Txn σ}
    {fail fail' : ε → Txn σ} (oks : ∀ a, Same R (ok a) (ok' a)) (fails : ∀ e, Same R (fail e) (fail' e)) :
    Same R (Txn.run x ok fail) (Txn.run x ok' fail') := by
  refine .turn (fun v v' noise => ?_) (fun v v' noise => ?_)
  all_goals
    have both := respects v v' noise
    cases first : x v with
    | ok a w =>
      cases second : x v' with
      | ok a' w' =>
        rw [first, second] at both
        obtain ⟨rfl, rest⟩ := both
        first
        | exact rest
        | exact oks a
      | error e' w' =>
        rw [first, second] at both
        exact both.elim
    | error e w =>
      cases second : x v' with
      | ok a' w' =>
        rw [first, second] at both
        exact both.elim
      | error e' w' =>
        rw [first, second] at both
        obtain ⟨rfl, rest⟩ := both
        first
        | exact rest
        | exact fails e

theorem Same.inOrder {R : σ → σ → Prop} {calls : List (EStateM ε σ Unit)}
    (respects : ∀ x ∈ calls, Respects R x) : Same R (Txn.inOrder calls) (Txn.inOrder calls) := by
  induction calls with
  | nil => exact .commit
  | cons x calls ih =>
    exact .run (respects x (List.mem_cons_self ..))
      (fun _ => ih fun x mem => respects x (List.mem_cons_of_mem _ mem)) fun _ => .rollback

theorem respects_pure {R : σ → σ → Prop} (a : α) : Respects R (pure a : EStateM ε σ α) :=
  fun _ _ noise => ⟨rfl, noise⟩

theorem respects_throw {R : σ → σ → Prop} (e : ε) : Respects R (throw e : EStateM ε σ α) :=
  fun _ _ noise => ⟨rfl, noise⟩

theorem Respects.bind {β : Type} {R : σ → σ → Prop} {x : EStateM ε σ α} {f : α → EStateM ε σ β}
    (hx : Respects R x) (hf : ∀ a, Respects R (f a)) : Respects R (x >>= f) := by
  intro v v' noise
  have both := hx v v' noise
  cases first : x v with
  | ok a w =>
    cases second : x v' with
    | ok a' w' =>
      rw [first, second] at both
      obtain ⟨rfl, rest⟩ := both
      rw [bind_of_ok first, bind_of_ok second]
      exact hf a w w' rest
    | error e' w' =>
      rw [first, second] at both
      exact both.elim
  | error e w =>
    cases second : x v' with
    | ok a' w' =>
      rw [first, second] at both
      exact both.elim
    | error e' w' =>
      rw [first, second] at both
      rw [bind_of_error first, bind_of_error second]
      exact both

theorem Respects.foldlM {β : Type} {R : σ → σ → Prop} {f : β → α → EStateM ε σ β} (h : ∀ b a, Respects R (f b a))
    (l : List α) (b : β) : Respects R (l.foldlM f b) := by
  induction l generalizing b with
  | nil => exact respects_pure b
  | cons a l ih =>
    rw [List.foldlM_cons]
    exact (h b a).bind ih

end Txn

inductive Phase (σ : Type) where
  | idle
  /-- For the lock. -/
  | waiting (p : Txn σ)
  /-- With the lock: the store that the last statement has seen committed, and what the transaction made of it. -/
  | working (p : Txn σ) (base mine : σ)
  | owing (later : σ → σ)
  | done

structure State (σ : Type) where
  store : σ
  holder : Option ℕ
  phase : ℕ → Phase σ

inductive Action (σ : Type) where
  | call (t : ℕ) (p : Txn σ)
  | lock (t : ℕ)
  | turn (t : ℕ)
  | settle (t : ℕ)
  /-- The connection is lost. -/
  | lose (t : ℕ)

def State.start (store : σ) : State σ := ⟨store, none, fun _ => .idle⟩

def State.enter (s : State σ) (t : ℕ) (p : Phase σ) : State σ := { s with phase := Function.update s.phase t p }

/-- The end of a transaction that has the lock. -/
def State.release (s : State σ) (t : ℕ) (p : Phase σ) : State σ := { s.enter t p with holder := none }

section Steps

variable (merge : σ → σ → σ → σ)

def step (s : State σ) : Action σ → Option (State σ)
  | .call t p =>
    match s.phase t with
    | .idle => some (s.enter t (.waiting p))
    | _ => none
  | .lock t =>
    match s.phase t with
    | .waiting p =>
      if s.holder = none then some { s.enter t (.working p s.store s.store) with holder := some t } else none
    | _ => none
  | .turn t =>
    match s.phase t with
    | .working p base mine =>
      let seen := merge base mine s.store
      match p with
      | .turn write next => some (s.enter t (.working (next seen) s.store (write seen)))
      | .commit => some { s.release t .done with store := seen }
      | .rollback => some (s.release t .done)
      | .rollbackThen later => some (s.release t (.owing later))
    | _ => none
  | .settle t =>
    match s.phase t with
    | .owing later => some { s.enter t .done with store := later s.store }
    | _ => none
  | .lose t =>
    match s.phase t with
    | .working .. => some (s.release t .done)
    | .waiting _ | .owing _ => some (s.enter t .done)
    | _ => none

variable (begins : Txn σ → Prop) (init : σ → Prop)

/-- The interleavings. -/
def system : System (State σ) (Action σ) where
  init s := ∃ store, init store ∧ s = State.start store
  step s a s' := (∀ t p, a = .call t p → begins p) ∧ step merge s a = some s'

/-- The same transactions, one after another. -/
def serial : System σ (Txn σ) where
  init := init
  step s p s' := begins p ∧ s' = p.alone s s

end Steps

/-! ## The invariant -/

/-- Where the transaction `p` has come to: alone from `t` it would be at `q`, having made `m` of the store. -/
structure Underway (R : σ → σ → Prop) (begins : Txn σ → Prop) (t : σ) (p : Txn σ) (mine : σ) : Prop where
  alone : ∃ p₀ q m, begins p₀ ∧ p₀.alone t t = q.alone t m ∧ Txn.Same R p q ∧ R mine m

structure Inv (R : σ → σ → Prop) (begins : Txn σ → Prop) (s : State σ) (t : σ) : Prop where
  noise : R s.store t
  waiting : ∀ u p, s.phase u = .waiting p → begins p
  working : ∀ u p base mine, s.phase u = .working p base mine →
    s.holder = some u ∧ R base s.store ∧ Underway R begins t p mine
  owing : ∀ u later, s.phase u = .owing later → ∀ v, R v (later v)

section Serialises

variable {merge : σ → σ → σ → σ} {begins : Txn σ → Prop} {init : σ → Prop} {R : σ → σ → Prop} {s s' : State σ}
  {a : Action σ} {t : σ}

theorem enter_phase (s : State σ) (u v : ℕ) (p : Phase σ) :
    (s.enter u p).phase v = if v = u then p else s.phase v := Function.update_apply s.phase u p v

/-- No transaction but the one of `u` has the lock. -/
theorem Inv.not_working (h : Inv R begins s t) {u v : ℕ} (other : v ≠ u)
    (free : s.holder = none ∨ s.holder = some u) {p : Txn σ} {base mine : σ} :
    s.phase v ≠ .working p base mine := by
  intro working
  have holds := (h.working v p base mine working).1
  rcases free with free | free
  · rw [holds] at free
    cases free
  · rw [holds] at free
    exact other (Option.some.inj free)

/-- A transaction goes on to a phase in which it neither works nor owes. -/
theorem Inv.leave (h : Inv R begins s t) (u : ℕ) (phase : Phase σ) {t' : σ} (store : R s'.store t')
    (phases : s'.phase = (s.enter u phase).phase) (waiting : ∀ p, phase = .waiting p → begins p)
    (working : ∀ v p base mine, s'.phase v = .working p base mine →
      s'.holder = some v ∧ R base s'.store ∧ Underway R begins t' p mine)
    (owing : ∀ later, phase = .owing later → ∀ v, R v (later v)) : Inv R begins s' t' where
  noise := store
  waiting := by
    intro v p here
    rw [phases, enter_phase] at here
    split at here
    · exact waiting p here
    · exact h.waiting v p here
  working := working
  owing := by
    intro v later here
    rw [phases, enter_phase] at here
    split at here
    · exact owing later here
    · exact h.owing v later here

/-- After the end of a transaction none has the lock. -/
theorem Inv.released (h : Inv R begins s t) {u : ℕ} {p : Txn σ} {base mine : σ}
    (here : s.phase u = .working p base mine) (phase : Phase σ) (idle : ∀ p base mine, phase ≠ .working p base mine)
    (v : ℕ) (p' : Txn σ) (base' mine' : σ) : (s.enter u phase).phase v ≠ .working p' base' mine' := by
  rw [enter_phase]
  split
  · exact idle p' base' mine'
  · exact h.not_working ‹_› (.inr (h.working u p base mine here).1)

variable (equiv : Equivalence R) (seen : ∀ base mine store, R base store → R (merge base mine store) mine)
  (same : ∀ p, begins p → Txn.Same R p p)

include equiv seen in
theorem Inv.turn (h : Inv R begins s t) {u : ℕ} (moves : step merge s (.turn u) = some s') :
    Inv R begins s' t ∨ ∃ p, begins p ∧ Inv R begins s' (p.alone t t) := by
  simp only [step] at moves
  split at moves
  · rename_i p base mine here
    obtain ⟨holds, current, p₀, q, m, began, alone, sameTxn, made⟩ := h.working u p base mine here
    have view : R (merge base mine s.store) m := equiv.trans (seen base mine s.store current) made
    cases sameTxn with
    | @turn write write' next next' writes nexts =>
      obtain rfl := Option.some.inj moves
      refine .inl (h.leave u (.working (next (merge base mine s.store)) s.store
        (write (merge base mine s.store))) h.noise rfl nofun ?_ fun _ => nofun)
      intro v p base mine working
      rw [enter_phase] at working
      split at working
      · rename_i at_u
        subst at_u
        cases working
        exact ⟨holds, equiv.refl _, p₀, next' m, write' m, began, alone, nexts _ _ view, writes _ _ view⟩
      · exact absurd working (h.not_working ‹_› (.inr holds))
    | commit =>
      obtain rfl := Option.some.inj moves
      refine .inr ⟨p₀, began, h.leave u .done ?_ rfl nofun ?_ fun _ => nofun⟩
      · rw [alone]
        exact view
      · exact fun v p base mine working => absurd working (h.released here .done nofun v p base mine)
    | rollback =>
      obtain rfl := Option.some.inj moves
      refine .inl (h.leave u .done h.noise rfl nofun ?_ fun _ => nofun)
      exact fun v p base mine working => absurd working (h.released here .done nofun v p base mine)
    | @rollbackThen later later' left right =>
      obtain rfl := Option.some.inj moves
      refine .inr ⟨p₀, began, h.leave u (.owing later) ?_ rfl nofun ?_ ?_⟩
      · rw [alone]
        exact equiv.trans h.noise (right t)
      · exact fun v p base mine working => absurd working (h.released here (.owing later) nofun v p base mine)
      · rintro later ⟨⟩
        exact left
  · cases moves

include equiv seen same in
/-- A step changes nothing that counts, or does what a whole program does alone. -/
theorem Inv.step (h : Inv R begins s t) (begun : ∀ u p, a = .call u p → begins p)
    (moves : step merge s a = some s') : Inv R begins s' t ∨ ∃ p, begins p ∧ Inv R begins s' (p.alone t t) := by
  have others : ∀ (u : ℕ) (phase : Phase σ), (∀ p base mine, phase ≠ .working p base mine) →
      ∀ v p base mine, (s.enter u phase).phase v = .working p base mine → s.phase v = .working p base mine := by
    intro u phase idle v p base mine working
    rw [enter_phase] at working
    split at working
    · exact absurd working (idle p base mine)
    · exact working
  cases a with
  | call u p =>
    simp only [OneLock.step] at moves
    split at moves
    · obtain rfl := Option.some.inj moves
      refine .inl (h.leave u (.waiting p) h.noise rfl ?_ ?_ fun _ => nofun)
      · rintro p ⟨⟩
        exact begun u p rfl
      · exact fun v p' base mine working => h.working v p' base mine (others u (.waiting p) nofun v p' base mine working)
    · cases moves
  | lock u =>
    simp only [OneLock.step] at moves
    split at moves
    · rename_i p here
      split at moves
      · rename_i free
        obtain rfl := Option.some.inj moves
        have began := h.waiting u p here
        refine .inl (h.leave u (.working p s.store s.store) h.noise rfl nofun ?_ fun _ => nofun)
        intro v p' base mine working
        dsimp only at working
        rw [enter_phase] at working
        split at working
        · rename_i at_u
          subst at_u
          cases working
          exact ⟨rfl, equiv.refl _, p, p, t, began, rfl, same p began, h.noise⟩
        · exact absurd working (h.not_working ‹_› (.inl free))
      · cases moves
    · cases moves
  | turn u => exact h.turn equiv seen moves
  | settle u =>
    simp only [OneLock.step] at moves
    split at moves
    · rename_i later here
      obtain rfl := Option.some.inj moves
      have noise : R s.store (later s.store) := h.owing u later here s.store
      refine .inl (h.leave u .done (equiv.trans (equiv.symm noise) h.noise) rfl nofun ?_ fun _ => nofun)
      intro v p base mine working
      obtain ⟨holds, current, underway⟩ := h.working v p base mine (others u .done nofun v p base mine working)
      exact ⟨holds, equiv.trans current noise, underway⟩
    · cases moves
  | lose u =>
    simp only [OneLock.step] at moves
    split at moves
    · rename_i p base mine here
      obtain rfl := Option.some.inj moves
      refine .inl (h.leave u .done h.noise rfl nofun ?_ fun _ => nofun)
      exact fun v p base mine working => absurd working (h.released here .done nofun v p base mine)
    · obtain rfl := Option.some.inj moves
      refine .inl (h.leave u .done h.noise rfl nofun ?_ fun _ => nofun)
      exact fun v p base mine working => h.working v p base mine (others u .done nofun v p base mine working)
    · obtain rfl := Option.some.inj moves
      refine .inl (h.leave u .done h.noise rfl nofun ?_ fun _ => nofun)
      exact fun v p base mine working => h.working v p base mine (others u .done nofun v p base mine working)
    · cases moves

include equiv seen same in
/-- Every interleaving has a serial run of its own transactions that reaches the same store, up to the noise. -/
theorem serialises (h : (system merge begins init).Reachable s) :
    ∃ t, (serial begins init).Reachable t ∧ Inv R begins s t := by
  induction h with
  | start start =>
    obtain ⟨store, first, rfl⟩ := start
    exact ⟨store, .start first, equiv.refl _, fun _ _ => nofun, fun _ _ _ _ => nofun, fun _ _ => nofun⟩
  | next _ _ moves ih =>
    obtain ⟨t, reached, inv⟩ := ih
    rcases inv.step equiv seen same moves.1 moves.2 with inv' | ⟨p, began, inv'⟩
    · exact ⟨t, reached, inv'⟩
    · exact ⟨_, reached.next trivial ⟨began, rfl⟩, inv'⟩

end Serialises

end MeadowOps.Lib.OneLock
