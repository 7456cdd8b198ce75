import MeadowOps.Lib.Runs
import Mathlib.Data.Nat.Notation
import Mathlib.Logic.Function.Basic

/-!
# Transactions that read one row and write it later

Under READ COMMITTED a transaction reads the committed row without a lock, computes from its copy,
and issues an UPDATE of some columns. The UPDATE takes the lock of the row (a transaction that finds
it taken waits) and holds it until the end of the transaction; it acts on the row as committed then,
not on the copy. Other transactions see the new row after the commit.
-/

namespace MeadowOps.Lib.RowTx

/-- What a transaction makes of its copy: it raises, finds nothing to write, or updates the row. -/
inductive Outcome (ρ : Type) where
  | raises
  | keeps
  | writes (update : ρ → ρ)

inductive Phase (ρ κ : Type) where
  | idle
  | reading (call : κ) (copy : ρ)
  | flushed (call : κ) (copy : ρ)
  | done

structure State (ρ κ : Type) where
  row : ρ
  lock : Option ℕ
  phase : ℕ → Phase ρ κ
  /-- The calls whose transactions committed, with their copies, in the order of the commits. -/
  commits : List (κ × ρ)

/-- What transaction `t` does next. -/
inductive Action (κ : Type) where
  | read (t : ℕ) (call : κ)
  | flush (t : ℕ)
  | commit (t : ℕ)
  | rollback (t : ℕ)

section Steps

variable {ρ κ : Type} (outcome : κ → ρ → Outcome ρ)

/-- The state before any transaction. -/
def State.start (row : ρ) : State ρ κ := ⟨row, none, fun _ => .idle, []⟩

def State.setPhase (s : State ρ κ) (t : ℕ) (p : Phase ρ κ) : State ρ κ :=
  { s with phase := Function.update s.phase t p }

def State.unlock (s : State ρ κ) (t : ℕ) : State ρ κ :=
  { s with lock := if s.lock = some t then none else s.lock }

def step (s : State ρ κ) : Action κ → Option (State ρ κ)
  | .read t call =>
    match s.phase t with
    | .idle => some (s.setPhase t (.reading call s.row))
    | _ => none
  | .flush t =>
    match s.phase t with
    | .reading call copy =>
      match outcome call copy with
      | .raises => none
      | .keeps => some (s.setPhase t (.flushed call copy))
      | .writes _ =>
        if s.lock = none then some { s.setPhase t (.flushed call copy) with lock := some t }
        else none
    | _ => none
  | .commit t =>
    match s.phase t with
    | .flushed call copy =>
      match outcome call copy with
      | .raises => none
      | .keeps => some { s.setPhase t .done with commits := s.commits ++ [(call, copy)] }
      | .writes update => some
          { (s.setPhase t .done).unlock t with
            row := update s.row, commits := s.commits ++ [(call, copy)] }
    | _ => none
  | .rollback t =>
    match s.phase t with
    | .reading _ _ | .flushed _ _ => some ((s.setPhase t .done).unlock t)
    | _ => none

/-- Transaction `t` holds a copy it read. -/
def Holds (s : State ρ κ) (t : ℕ) (call : κ) (copy : ρ) : Prop :=
  s.phase t = .reading call copy ∨ s.phase t = .flushed call copy

/-- The row after the commit of a call that read `copy`. -/
def applied (call : κ) (copy row : ρ) : ρ :=
  match outcome call copy with
  | .writes update => update row
  | _ => row

/-- The interleavings of transactions whose calls meet `calls`, from a row that meets `init`. -/
def system (calls : κ → Prop) (init : ρ → Prop) : System (State ρ κ) (Action κ) where
  init s := ∃ row, init row ∧ s = State.start row
  step s a s' := (∀ t call, a = .read t call → calls call) ∧ step outcome s a = some s'

variable {outcome} {s s' : State ρ κ} {a : Action κ}

@[simp] theorem setPhase_phase_self (s : State ρ κ) (t : ℕ) (p : Phase ρ κ) :
    (s.setPhase t p).phase t = p := Function.update_self ..

/-- What a step can do: start a transaction, keep the committed row, or commit. -/
inductive Move (outcome : κ → ρ → Outcome ρ) (s s' : State ρ κ) : Action κ → Prop where
  | read {t : ℕ} {call : κ} (row : s'.row = s.row) (commits : s'.commits = s.commits)
      (phase : s'.phase = Function.update s.phase t (.reading call s.row)) :
      Move outcome s s' (.read t call)
  | quiet {a : Action κ} (row : s'.row = s.row) (commits : s'.commits = s.commits)
      (copies : ∀ t call copy, Holds s' t call copy → Holds s t call copy)
      (other : ∀ t, a ≠ .commit t) : Move outcome s s' a
  | commit {t : ℕ} {call : κ} {copy : ρ} (flushed : s.phase t = .flushed call copy)
      (row : s'.row = applied outcome call copy s.row)
      (returned : outcome call copy ≠ .raises)
      (commits : s'.commits = s.commits ++ [(call, copy)])
      (phase : s'.phase = Function.update s.phase t .done) : Move outcome s s' (.commit t)

theorem holds_of_setPhase {t : ℕ} {p : Phase ρ κ}
    (same : ∀ call copy, p = .reading call copy ∨ p = .flushed call copy → Holds s t call copy)
    (phase : s'.phase = Function.update s.phase t p) {u : ℕ} {call : κ} {copy : ρ}
    (h : Holds s' u call copy) : Holds s u call copy := by
  unfold Holds at h
  rw [phase] at h
  by_cases hu : u = t
  · subst hu
    rw [Function.update_self] at h
    exact same call copy h
  · rw [Function.update_of_ne hu] at h
    exact h

theorem step_move (h : step outcome s a = some s') : Move outcome s s' a := by
  cases a with
  | read t call =>
    simp only [step] at h
    split at h
    · cases h
      exact .read rfl rfl rfl
    · cases h
  | flush t =>
    simp only [step] at h
    split at h
    · rename_i call copy reading
      have held : ∀ call' copy', Phase.flushed call copy = .reading call' copy' ∨
          Phase.flushed call copy = .flushed call' copy' → Holds s t call' copy' := by
        rintro call' copy' (eq | eq)
        · cases eq
        · cases eq
          exact .inl reading
      split at h
      · cases h
      · cases h
        exact .quiet rfl rfl (fun _ _ _ => holds_of_setPhase held rfl) (fun _ => nofun)
      · split at h
        · cases h
          exact .quiet rfl rfl (fun _ _ _ => holds_of_setPhase held rfl) (fun _ => nofun)
        · cases h
    · cases h
  | commit t =>
    simp only [step] at h
    split at h
    · rename_i call copy flushed
      split at h
      · cases h
      · rename_i keeps
        cases h
        exact .commit flushed (by simp [applied, keeps, State.setPhase]) (by simp [keeps]) rfl rfl
      · rename_i update writes
        cases h
        exact .commit flushed (by simp [applied, writes]) (by simp [writes]) rfl rfl
    · cases h
  | rollback t =>
    have gone : ∀ call copy, (Phase.done : Phase ρ κ) = .reading call copy ∨
        Phase.done = .flushed call copy → Holds s t call copy := by
      rintro call copy (eq | eq) <;> cases eq
    simp only [step] at h
    split at h
    · cases h
      exact .quiet rfl rfl (fun _ _ _ => holds_of_setPhase gone rfl) (fun _ => nofun)
    · cases h
      exact .quiet rfl rfl (fun _ _ _ => holds_of_setPhase gone rfl) (fun _ => nofun)
    · cases h

/-- A run of steps, one after another. -/
def run (outcome : κ → ρ → Outcome ρ) (s : State ρ κ) (actions : List (Action κ)) :
    Option (State ρ κ) :=
  actions.foldlM (step outcome) s

/-- What a run ends in is reached. -/
theorem run_reachable {calls : κ → Prop} {init : ρ → Prop} {actions : List (Action κ)}
    (allowed : ∀ t call, Action.read t call ∈ actions → calls call)
    (reached : (system outcome calls init).Reachable s) (h : run outcome s actions = some s') :
    (system outcome calls init).Reachable s' := by
  induction actions generalizing s with
  | nil =>
    cases h
    exact reached
  | cons a actions ih =>
    rw [run, List.foldlM_cons] at h
    obtain ⟨mid, one, rest⟩ := Option.bind_eq_some_iff.1 h
    apply ih (fun t call mem => allowed t call (List.mem_cons_of_mem _ mem)) _ rest
    refine reached.next trivial ⟨?_, one⟩
    rintro t call rfl
    exact allowed t call List.mem_cons_self

/-- A condition on commits: what it may look at is the committed row, the call and its copy. -/
def CommitsMeet (ok : ρ → κ → ρ → Prop) (s : State ρ κ) (a : Action κ) : Prop :=
  ∀ t call copy, a = .commit t → s.phase t = .flushed call copy → ok s.row call copy

/-- No transaction from `t` on has begun, and no lock is held. -/
def Quiet (s : State ρ κ) (t : ℕ) : Prop := s.lock = none ∧ ∀ u, t ≤ u → s.phase u = .idle

theorem quiet_start (row : ρ) : Quiet (State.start row : State ρ κ) 0 := ⟨rfl, fun _ _ => rfl⟩

/-- A transaction reads. -/
theorem starts {calls : κ → Prop} {init : ρ → Prop} {ok : ρ → κ → ρ → Prop} {t : ℕ} {call : κ}
    (reached : (system outcome calls init).Reach (CommitsMeet ok) s) (idle : s.phase t = .idle)
    (allowed : calls call) :
    (system outcome calls init).Reach (CommitsMeet ok) (s.setPhase t (.reading call s.row)) :=
  reached.next (l := .read t call) (fun _ _ _ h => nomatch h)
    ⟨fun _ _ h => by cases h; exact allowed, by simp [step, idle]⟩

/-- A transaction that has read commits while no other holds the lock. -/
theorem finishes {calls : κ → Prop} {init : ρ → Prop} {ok : ρ → κ → ρ → Prop} {t : ℕ} {call : κ} {copy : ρ}
    (reached : (system outcome calls init).Reach (CommitsMeet ok) s) (free : s.lock = none)
    (here : s.phase t = .reading call copy) (returned : outcome call copy ≠ .raises) (good : ok s.row call copy) :
    ∃ s', (system outcome calls init).Reach (CommitsMeet ok) s' ∧ s'.lock = none ∧
      (∀ u, u ≠ t → s'.phase u = s.phase u) ∧ s'.row = applied outcome call copy s.row ∧
      s'.commits = s.commits ++ [(call, copy)] := by
  have others : ∀ p q u, u ≠ t → Function.update (Function.update s.phase t p) t q u = s.phase u := by
    intro p q u ne
    rw [Function.update_of_ne ne, Function.update_of_ne ne]
  cases result : outcome call copy with
  | raises => exact absurd result returned
  | keeps =>
    have flush : (system outcome calls init).Reach (CommitsMeet ok) (s.setPhase t (.flushed call copy)) :=
      reached.next (l := .flush t) (fun _ _ _ h => nomatch h)
        ⟨fun _ _ h => (nomatch h), by simp [step, here, result]⟩
    refine ⟨{ (s.setPhase t (.flushed call copy)).setPhase t .done with commits := s.commits ++ [(call, copy)] },
      flush.next (l := .commit t) ?_ ⟨fun _ _ h => (nomatch h), by simp [step, result]; rfl⟩,
      free, others _ _, by simp [applied, result, State.setPhase], rfl⟩
    rintro _ _ _ h flushed
    cases h
    rw [setPhase_phase_self] at flushed
    cases flushed
    exact good
  | writes update =>
    have flush : (system outcome calls init).Reach (CommitsMeet ok)
        { s.setPhase t (.flushed call copy) with lock := some t } :=
      reached.next (l := .flush t) (fun _ _ _ h => nomatch h)
        ⟨fun _ _ h => (nomatch h), by simp [step, here, result, free]⟩
    refine ⟨{ (s.setPhase t (.flushed call copy)).setPhase t .done with
        row := update s.row, lock := none, commits := s.commits ++ [(call, copy)] },
      flush.next (l := .commit t) ?_ ⟨fun _ _ h => (nomatch h), by
        simp [step, result, State.setPhase, State.unlock]⟩,
      rfl, others _ _, by simp [applied, result], rfl⟩
    rintro _ _ _ h flushed
    cases h
    simp only [setPhase_phase_self] at flushed
    cases flushed
    exact good

/-- A transaction that runs alone commits what it makes of the committed row. -/
theorem serial {calls : κ → Prop} {init : ρ → Prop} {ok : ρ → κ → ρ → Prop} {t : ℕ}
    (reached : (system outcome calls init).Reach (CommitsMeet ok) s) (quiet : Quiet s t) (call : κ)
    (allowed : calls call) (returned : outcome call s.row ≠ .raises)
    (good : ok s.row call s.row) :
    ∃ s', (system outcome calls init).Reach (CommitsMeet ok) s' ∧ Quiet s' (t + 1) ∧
      s'.row = applied outcome call s.row s.row ∧ s'.commits = s.commits ++ [(call, s.row)] := by
  obtain ⟨free, idle⟩ := quiet
  have read := starts reached (idle t (Nat.le_refl t)) allowed
  obtain ⟨s', committed, free', others, row, commits⟩ :=
    finishes read free (setPhase_phase_self s t _) returned good
  refine ⟨s', committed, ⟨free', fun u le => ?_⟩, row, commits⟩
  have ne : u ≠ t := by omega
  rw [others u ne]
  exact (Function.update_of_ne ne _ _).trans (idle u (by omega))

/-- Two transactions that have read the same row commit one after the other. -/
theorem overlapping (calls : κ → Prop) (init : ρ → Prop) {ok : ρ → κ → ρ → Prop} {row : ρ} (starting : init row)
    (call call' : κ) (allowed : calls call ∧ calls call')
    (returned : outcome call row ≠ .raises ∧ outcome call' row ≠ .raises)
    (good : ok row call row) (good' : ok (applied outcome call row row) call' row) :
    ∃ s', (system outcome calls init).Reach (CommitsMeet ok) s' ∧
      s'.row = applied outcome call' row (applied outcome call row row) ∧
      s'.commits = [(call, row), (call', row)] := by
  have start : (system outcome calls init).Reach (CommitsMeet ok) (State.start row) := .start ⟨row, starting, rfl⟩
  have first := starts (t := 0) start rfl allowed.1
  have second := starts (t := 1) first rfl allowed.2
  obtain ⟨s, committed, free, others, row', commits⟩ := finishes (t := 0) second rfl rfl returned.1 good
  have here : s.phase 1 = .reading call' row := (others 1 (by omega)).trans rfl
  obtain ⟨s', committed', -, -, row'', commits'⟩ :=
    finishes committed free here returned.2 (by rw [row']; exact good')
  exact ⟨s', committed', by rw [row'', row']; rfl, by rw [commits', commits]; rfl⟩

/-- The invariant rule: `I` of the row and the commits, `K` of the row and every copy that is held. -/
theorem invariant {calls : κ → Prop} {init : ρ → Prop} {ok : ρ → κ → ρ → Prop}
    {I : ρ → List (κ × ρ) → Prop} {K : ρ → κ → ρ → Prop}
    (start : ∀ row, init row → I row [])
    (read : ∀ row commits call, I row commits → calls call → K row call row)
    (commit : ∀ row commits call copy, I row commits → K row call copy → ok row call copy →
      outcome call copy ≠ .raises → I (applied outcome call copy row) (commits ++ [(call, copy)]))
    (others : ∀ row commits call copy call' copy', I row commits → K row call copy →
      ok row call copy → outcome call copy ≠ .raises → K row call' copy' →
      K (applied outcome call copy row) call' copy')
    (h : (system outcome calls init).Reach (CommitsMeet ok) s) :
    I s.row s.commits ∧ ∀ t call copy, Holds s t call copy → K s.row call copy := by
  refine h.invariant (I := fun s => I s.row s.commits ∧
    ∀ t call copy, Holds s t call copy → K s.row call copy) ?_ ?_
  · rintro s ⟨row, hrow, rfl⟩
    refine ⟨start row hrow, ?_⟩
    rintro t call copy (eq | eq) <;> cases eq
  · rintro s a s' - ⟨hi, hk⟩ meets ⟨allowed, moved⟩
    cases step_move moved with
    | @read t call row commits phase =>
      rw [row, commits]
      refine ⟨hi, ?_⟩
      intro u call' copy' holds
      by_cases hu : u = t
      · subst hu
        unfold Holds at holds
        rw [phase, Function.update_self] at holds
        rcases holds with eq | eq
        · cases eq
          exact read s.row s.commits call hi (allowed u call rfl)
        · cases eq
      · unfold Holds at holds
        rw [phase, Function.update_of_ne hu] at holds
        exact hk u call' copy' holds
    | quiet row commits copies other =>
      rw [row, commits]
      exact ⟨hi, fun t call copy holds => hk t call copy (copies t call copy holds)⟩
    | @commit t call copy flushed row returned commits phase =>
      have held := hk t call copy (.inr flushed)
      have good := meets t call copy rfl flushed
      rw [row, commits]
      refine ⟨commit _ _ _ _ hi held good returned, ?_⟩
      intro u call' copy' holds
      apply others _ _ _ _ _ _ hi held good returned
      apply hk u
      by_cases hu : u = t
      · subst hu
        unfold Holds at holds
        rw [phase, Function.update_self] at holds
        rcases holds with eq | eq <;> cases eq
      · unfold Holds at holds
        rwa [phase, Function.update_of_ne hu] at holds

end Steps

end MeadowOps.Lib.RowTx
