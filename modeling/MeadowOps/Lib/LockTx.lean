import MeadowOps.Lib.Runs
import Mathlib.Data.Int.Notation
import Mathlib.Data.List.Basic
import Mathlib.Logic.Function.Basic

/-!
# Transactions that lock rows

Transactions under READ COMMITTED. A statement sees the store as it is committed when it runs and may
take locks, which the transaction keeps to its end. What a transaction writes is seen after its commit.
Time does not run backwards, and every statement is given the time it runs at.
-/

namespace MeadowOps.Lib.LockTx

/-- Transactions on a store `σ` with locks `ρ`: local states `κ`, inputs `ι` of a statement. -/
structure Protocol (σ ρ κ ι : Type) where
  /-- A statement: the next local state and the locks it takes. -/
  exec : ℤ → ι → κ → σ → Option (κ × List ρ)
  /-- The store after the commit; a transaction that has more to do does not commit. -/
  commit : κ → σ → Option σ

inductive Phase (κ : Type) where
  | idle
  | running (k : κ)
  | done

structure State (σ ρ κ : Type) where
  store : σ
  clock : ℤ
  owner : ρ → Option ℕ
  phase : ℕ → Phase κ
  /-- The locks taken so far, each with its transaction, in order. -/
  grants : List (ρ × ℕ)
  /-- The transactions that committed, with their last local states, in order. -/
  commits : List (ℕ × κ)

inductive Action (κ ι : Type) where
  | begin (t : ℕ) (now : ℤ) (k : κ)
  | exec (t : ℕ) (now : ℤ) (i : ι)
  | commit (t : ℕ)
  | rollback (t : ℕ)

section Steps

variable {σ ρ κ ι : Type} [DecidableEq ρ]

/-- A store on which no transaction has begun. -/
def State.start (store : σ) (clock : ℤ) : State σ ρ κ :=
  ⟨store, clock, fun _ => none, fun _ => .idle, [], []⟩

def State.setPhase (s : State σ ρ κ) (t : ℕ) (p : Phase κ) : State σ ρ κ :=
  { s with phase := Function.update s.phase t p }

def State.take (s : State σ ρ κ) (t : ℕ) (locks : List ρ) : State σ ρ κ :=
  { s with
    owner := fun r => if r ∈ locks then some t else s.owner r
    grants := s.grants ++ locks.map (·, t) }

def State.release (s : State σ ρ κ) (t : ℕ) : State σ ρ κ :=
  { s with owner := fun r => if s.owner r = some t then none else s.owner r }

/-- The transactions that took a lock, in order. -/
def State.grantsOf (s : State σ ρ κ) (r : ρ) : List ℕ :=
  (s.grants.filter fun g => g.1 = r).map (·.2)

def State.Holds (s : State σ ρ κ) (t : ℕ) (r : ρ) : Prop := s.owner r = some t

variable (P : Protocol σ ρ κ ι)

def step (s : State σ ρ κ) : Action κ ι → Option (State σ ρ κ)
  | .begin t now k =>
    match s.phase t with
    | .idle => if s.clock ≤ now then some { s.setPhase t (.running k) with clock := now } else none
    | _ => none
  | .exec t now i =>
    match s.phase t with
    | .running k =>
      match P.exec now i k s.store with
      | none => none
      | some (k', locks) =>
        if s.clock ≤ now ∧ ∀ r ∈ locks, s.owner r = none ∨ s.owner r = some t then
          some { (s.setPhase t (.running k')).take t locks with clock := now }
        else none
    | _ => none
  | .commit t =>
    match s.phase t with
    | .running k => (P.commit k s.store).map fun store =>
        { (s.setPhase t .done).release t with store := store, commits := s.commits ++ [(t, k)] }
    | _ => none
  | .rollback t =>
    match s.phase t with
    | .running _ => some ((s.setPhase t .done).release t)
    | _ => none

/-- The interleavings of transactions that begin as `begins` says, on a store that meets `init`. -/
def system (begins : ℤ → κ → Prop) (init : σ → Prop) : System (State σ ρ κ) (Action κ ι) where
  init s := ∃ store clock, init store ∧ s = State.start store clock
  step s a s' := (∀ t now k, a = .begin t now k → begins now k) ∧ step P s a = some s'

/-- A condition on commits: what it may look at is the committed store and the transaction. -/
def CommitsMeet (good : σ → κ → Prop) (s : State σ ρ κ) (a : Action κ ι) : Prop :=
  ∀ t k, a = .commit t → s.phase t = .running k → good s.store k

instance (good : σ → κ → Prop) [∀ store k, Decidable (good store k)] (s : State σ ρ κ)
    (a : Action κ ι) : Decidable (CommitsMeet good s a) :=
  match a with
  | .begin .. => .isTrue nofun
  | .exec .. => .isTrue nofun
  | .rollback .. => .isTrue nofun
  | .commit t =>
    match running : s.phase t with
    | .idle => .isTrue fun _ _ same h => by cases same; cases running.symm.trans h
    | .done => .isTrue fun _ _ same h => by cases same; cases running.symm.trans h
    | .running k => decidable_of_iff (good s.store k)
      ⟨fun meets _ _ same h => by cases same; cases running.symm.trans h; exact meets,
        fun meets => meets t k rfl running⟩

variable {P} {begins : ℤ → κ → Prop} {init : σ → Prop} {s s' : State σ ρ κ} {a : Action κ ι}

/-- What a step does. -/
inductive Move (P : Protocol σ ρ κ ι) (s s' : State σ ρ κ) : Action κ ι → Prop where
  | begin {t : ℕ} {now : ℤ} {k : κ} (idle : s.phase t = .idle) (later : s.clock ≤ now)
      (eq : s' = { s.setPhase t (.running k) with clock := now }) : Move P s s' (.begin t now k)
  | exec {t : ℕ} {now : ℤ} {i : ι} {k k' : κ} {locks : List ρ} (running : s.phase t = .running k)
      (later : s.clock ≤ now) (ran : P.exec now i k s.store = some (k', locks))
      (free : ∀ r ∈ locks, s.owner r = none ∨ s.owner r = some t)
      (eq : s' = { (s.setPhase t (.running k')).take t locks with clock := now }) :
      Move P s s' (.exec t now i)
  | commit {t : ℕ} {k : κ} {store : σ} (running : s.phase t = .running k)
      (wrote : P.commit k s.store = some store)
      (eq : s' = { (s.setPhase t .done).release t with
        store := store, commits := s.commits ++ [(t, k)] }) : Move P s s' (.commit t)
  | rollback {t : ℕ} {k : κ} (running : s.phase t = .running k)
      (eq : s' = (s.setPhase t .done).release t) : Move P s s' (.rollback t)

theorem step_move (h : step P s a = some s') : Move P s s' a := by
  cases a with
  | begin t now k =>
    simp only [step] at h
    split at h
    · split at h
      · exact .begin ‹_› ‹_› (Option.some.inj h).symm
      · cases h
    · cases h
  | exec t now i =>
    simp only [step] at h
    split at h
    · split at h
      · cases h
      · split at h
        · rename_i both
          exact .exec ‹_› both.1 ‹_› both.2 (Option.some.inj h).symm
        · cases h
    · cases h
  | commit t =>
    simp only [step] at h
    split at h
    · obtain ⟨store, wrote, same⟩ := Option.map_eq_some_iff.1 h
      exact .commit ‹_› wrote same.symm
    · cases h
  | rollback t =>
    simp only [step] at h
    split at h
    · exact .rollback ‹_› (Option.some.inj h).symm
    · cases h

/-- A transaction of the state after a step of `t` is `t`, or it was there before. -/
theorem running_update {phase : ℕ → Phase κ} {t u : ℕ} {p : Phase κ} {k : κ}
    (h : Function.update phase t p u = .running k) :
    (u = t ∧ p = .running k) ∨ (u ≠ t ∧ phase u = .running k) := by
  by_cases hu : u = t
  · subst hu
    rw [Function.update_self] at h
    exact .inl ⟨rfl, h⟩
  · rw [Function.update_of_ne hu] at h
    exact .inr ⟨hu, h⟩

theorem idle_update {phase : ℕ → Phase κ} {t u : ℕ} {p : Phase κ} (busy : p ≠ .idle)
    (h : Function.update phase t p u = .idle) : u ≠ t ∧ phase u = .idle := by
  by_cases hu : u = t
  · subst hu
    rw [Function.update_self] at h
    exact absurd h busy
  · rw [Function.update_of_ne hu] at h
    exact ⟨hu, h⟩

omit [DecidableEq ρ] in
theorem holds_release {t u : ℕ} (hu : u ≠ t) (r : ρ) : (s.release t).Holds u r ↔ s.Holds u r := by
  simp only [State.Holds, State.release]
  split
  · rename_i held
    rw [held]
    simp [hu.symm]
  · rfl

omit [DecidableEq ρ] in
theorem not_holds_release {t : ℕ} {r : ρ} : ¬ (s.release t).Holds t r := by
  simp only [State.Holds, State.release]
  split
  · exact nofun
  · assumption

theorem holds_take {t : ℕ} {locks : List ρ} (r : ρ) :
    (s.take t locks).Holds t r ↔ s.Holds t r ∨ r ∈ locks := by
  simp only [State.Holds, State.take]
  split <;> simp [*]

theorem holds_take_other {t u : ℕ} {locks : List ρ} (hu : u ≠ t)
    (free : ∀ r ∈ locks, s.owner r = none ∨ s.owner r = some t) (r : ρ) :
    (s.take t locks).Holds u r ↔ s.Holds u r := by
  simp only [State.Holds, State.take]
  split
  · rename_i taken
    rcases free r taken with none | own
    · simp [none, hu.symm]
    · simp [own, hu.symm]
  · rfl

/-- The invariant rule: `I` of the store and the commits, `K` of the store, the locks a transaction holds
and its local state. -/
theorem invariant {good : σ → κ → Prop} {I : σ → List (ℕ × κ) → Prop}
    {K : σ → (ρ → Prop) → κ → Prop}
    (start : ∀ store, init store → I store [])
    (begin : ∀ store commits now k, I store commits → begins now k → K store (fun _ => False) k)
    (exec : ∀ store commits held now i k k' locks, I store commits → K store held k →
      P.exec now i k store = some (k', locks) → K store (fun r => held r ∨ r ∈ locks) k')
    (commit : ∀ store commits held t k store', I store commits → K store held k → good store k →
      P.commit k store = some store' → I store' (commits ++ [(t, k)]))
    (others : ∀ store commits held k store' held' k', I store commits → K store held k →
      good store k → P.commit k store = some store' → (∀ r, held r → ¬ held' r) →
      K store held' k' → K store' held' k')
    (h : (system P begins init).Reach (CommitsMeet good) s) :
    I s.store s.commits ∧ ∀ t k, s.phase t = .running k → K s.store (s.Holds t) k := by
  refine h.invariant (I := fun s => I s.store s.commits ∧
    (∀ t k, s.phase t = .running k → K s.store (s.Holds t) k) ∧
    ∀ t, s.phase t = .idle → ∀ r, ¬ s.Holds t r) ?_ ?_ |>.imp id And.left
  · rintro s ⟨store, clock, hinit, rfl⟩
    exact ⟨start store hinit, nofun, fun _ _ _ => nofun⟩
  · rintro s a s' - ⟨hi, hk, hidle⟩ meets ⟨allowed, moved⟩
    cases step_move moved with
    | @begin t now k idle later eq =>
      subst eq
      refine ⟨hi, ?_, fun u free => hidle u (idle_update (p := .running k) nofun free).2⟩
      intro u k' running
      rcases running_update running with ⟨rfl, same⟩ | ⟨_, before⟩
      · cases same
        have none : (fun _ => False) = s.Holds u := by
          funext r
          exact (eq_false (hidle u idle r)).symm
        have here := begin s.store s.commits now k hi (allowed u now k rfl)
        rw [none] at here
        exact here
      · exact hk u k' before
    | @exec t now i k k' locks running later ran free eq =>
      subst eq
      refine ⟨hi, ?_, ?_⟩
      · intro u k'' after
        rcases running_update after with ⟨rfl, same⟩ | ⟨hu, before⟩
        · cases same
          have held := exec s.store s.commits _ now i k k' locks hi (hk u k running) ran
          have taken : (fun r => s.Holds u r ∨ r ∈ locks) = (s.take u locks).Holds u := by
            funext r
            exact propext (holds_take r).symm
          rw [taken] at held
          exact held
        · have same : (s.take t locks).Holds u = s.Holds u := by
            funext r
            exact propext (holds_take_other hu free r)
          have before' := hk u k'' before
          rw [← same] at before'
          exact before'
      · intro u idle r held
        obtain ⟨hu, idle'⟩ := idle_update (p := .running k') nofun idle
        exact hidle u idle' r ((holds_take_other hu free r).1 held)
    | @commit t k store running wrote eq =>
      subst eq
      have good' := meets t k rfl running
      refine ⟨commit _ _ _ t _ _ hi (hk t k running) good' wrote, ?_, ?_⟩
      · intro u k' after
        rcases running_update after with ⟨_, same⟩ | ⟨hu, before⟩
        · cases same
        · have same : (s.release t).Holds u = s.Holds u := by
            funext r
            exact propext (holds_release hu r)
          have apart : ∀ r, s.Holds t r → ¬ s.Holds u r := by
            intro r mine yours
            have both : some t = some u := mine.symm.trans yours
            exact hu (Option.some.inj both).symm
          have kept := others _ _ _ _ _ _ _ hi (hk t k running) good' wrote apart (hk u k' before)
          rw [← same] at kept
          exact kept
      · intro u idle r held
        obtain ⟨hu, idle'⟩ := idle_update (p := .done) nofun idle
        exact hidle u idle' r ((holds_release hu r).1 held)
    | @rollback t k running eq =>
      subst eq
      refine ⟨hi, ?_, ?_⟩
      · intro u k' after
        rcases running_update after with ⟨_, same⟩ | ⟨hu, before⟩
        · cases same
        · have same : (s.release t).Holds u = s.Holds u := by
            funext r
            exact propext (holds_release hu r)
          have before' := hk u k' before
          rw [← same] at before'
          exact before'
      · intro u idle r held
        obtain ⟨hu, idle'⟩ := idle_update (p := .done) nofun idle
        exact hidle u idle' r ((holds_release hu r).1 held)

/-- A run of steps, one after another, whose commits are checked. -/
def run (P : Protocol σ ρ κ ι) (good : σ → κ → Prop) [∀ store k, Decidable (good store k)]
    (s : State σ ρ κ) (actions : List (Action κ ι)) : Option (State σ ρ κ) :=
  actions.foldlM (fun s a => if CommitsMeet good s a then step P s a else none) s

/-- What such a run ends in is reached. -/
theorem run_reach {good : σ → κ → Prop} [∀ store k, Decidable (good store k)]
    {actions : List (Action κ ι)}
    (allowed : ∀ t now k, Action.begin t now k ∈ actions → begins now k)
    (reached : (system P begins init).Reach (CommitsMeet good) s)
    (ran : run P good s actions = some s') :
    (system P begins init).Reach (CommitsMeet good) s' := by
  induction actions generalizing s with
  | nil =>
    cases ran
    exact reached
  | cons a actions ih =>
    rw [run, List.foldlM_cons] at ran
    obtain ⟨mid, one, rest⟩ := Option.bind_eq_some_iff.1 ran
    split at one
    · rename_i meets
      refine ih (fun t now k mem => allowed t now k (List.mem_cons_of_mem _ mem)) ?_ rest
      refine reached.next meets ⟨?_, one⟩
      rintro t now k rfl
      exact allowed t now k List.mem_cons_self
    · cases one

/-- The log of a lock: the committed transactions are in it in order, and its holder is its last. -/
structure Logged (s : State σ ρ κ) (r : ρ) : Prop where
  committed : (s.commits.map (·.1)).Sublist (s.grantsOf r)
  holder : ∀ t, s.Holds t r →
    ∃ before, s.grantsOf r = before ++ [t] ∧ (s.commits.map (·.1)).Sublist before

theorem grantsOf_take (s : State σ ρ κ) (t : ℕ) (locks : List ρ) (r : ρ) :
    (s.take t locks).grantsOf r = s.grantsOf r ++ (locks.filter (· = r)).map fun _ => t := by
  simp [State.grantsOf, State.take, List.filter_map, Function.comp_def]

theorem Logged.take {r : ρ} {t : ℕ} {locks : List ρ} (h : Logged s r)
    (free : ∀ r ∈ locks, s.owner r = none ∨ s.owner r = some t) : Logged (s.take t locks) r := by
  have grants := grantsOf_take s t locks r
  constructor
  · rw [grants]
    exact h.committed.trans (List.sublist_append_left _ _)
  · intro u held
    rw [grants]
    by_cases taken : r ∈ locks
    · have same : u = t := by
        simp only [State.Holds, State.take, taken, if_true, Option.some.injEq] at held
        exact held.symm
      subst same
      -- the transaction is logged once for each time it names the lock
      have some' : (locks.filter (· = r)).map (fun _ => u) ≠ [] := by
        simp only [ne_eq, List.map_eq_nil_iff, List.filter_eq_nil_iff, decide_eq_true_eq, not_forall,
          not_not]
        exact ⟨r, taken, rfl⟩
      refine ⟨s.grantsOf r ++ ((locks.filter (· = r)).map fun _ => u).dropLast, ?_, ?_⟩
      · have last : ((locks.filter (· = r)).map fun _ => u).getLast some' = u := by
          have mem := List.getLast_mem some'
          obtain ⟨_, _, same⟩ := List.mem_map.1 mem
          exact same.symm
        have whole := List.dropLast_append_getLast some'
        rw [last] at whole
        rw [List.append_assoc, whole]
      · exact h.committed.trans (List.sublist_append_left _ _)
    · have none : (locks.filter (· = r)).map (fun _ => t) = [] := by
        simp only [List.map_eq_nil_iff, List.filter_eq_nil_iff, decide_eq_true_eq]
        rintro r' mem rfl
        exact taken mem
      rw [none, List.append_nil]
      apply h.holder
      simpa only [State.Holds, State.take, taken, if_false] using held

/-- Transactions that commit with a lock do so in the order in which they took it. -/
theorem commits_in_lock_order {good : σ → κ → Prop} {r : ρ}
    (holding : ∀ s t k store, (system P begins init).Reach (CommitsMeet good) s →
      s.phase t = .running k → P.commit k s.store = some store → s.Holds t r)
    (h : (system P begins init).Reach (CommitsMeet good) s) : Logged s r := by
  apply h.invariant (I := fun s => Logged s r)
  · rintro s ⟨store, clock, -, rfl⟩
    exact ⟨List.Sublist.refl _, nofun⟩
  · rintro s a s' reached logged - ⟨-, moved⟩
    cases step_move moved with
    | begin idle later eq =>
      subst eq
      exact ⟨logged.committed, logged.holder⟩
    | exec running later ran free eq =>
      subst eq
      have taken := logged.take free
      exact ⟨taken.committed, taken.holder⟩
    | @commit t k store running wrote eq =>
      subst eq
      obtain ⟨before, grants, sub⟩ := logged.holder t (holding s t k store reached running wrote)
      have held := holding s t k store reached running wrote
      constructor
      · show ((s.commits ++ [(t, k)]).map (·.1)).Sublist (s.grantsOf r)
        rw [List.map_append, grants]
        exact sub.append (List.Sublist.refl _)
      · intro u after
        by_cases hu : u = t
        · subst hu
          exact absurd after not_holds_release
        · have both : some t = some u := held.symm.trans ((holds_release hu r).1 after)
          exact absurd (Option.some.inj both).symm hu
    | @rollback t k running eq =>
      subst eq
      refine ⟨logged.committed, ?_⟩
      intro u held
      apply logged.holder
      by_cases hu : u = t
      · subst hu
        exact absurd held not_holds_release
      · exact (holds_release hu r).1 held

end Steps

end MeadowOps.Lib.LockTx
