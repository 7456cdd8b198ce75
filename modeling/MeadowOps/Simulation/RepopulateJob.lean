import MeadowOps.Db.World
import MeadowOps.Lib.Runs
import Mathlib.Logic.Function.Basic

/-!
# `app/services/repopulate_job.py`

The calls of `start` and the worker threads take their steps in any order. Each reads and replaces the status
under the lock; what the work does between its reports is not looked into.
-/

namespace MeadowOps.Simulation

open Db Lib

inductive RepopulateState where
  | idle
  | running
  | succeeded
  | failed
  deriving DecidableEq, Repr

structure RepopulateStatus where
  state : RepopulateState := .idle
  startedAt : Option Instant := none
  finishedAt : Option Instant := none
  daysDone : ℕ := 0
  daysTotal : ℕ := 0
  message : Option String := none
  deriving DecidableEq, Repr

def failureMessage : String := "The rebuild failed and nothing was changed. Check the server logs for details."

/-- The changes of an `_update`: those of `_progress`, and the two that end `_run`. -/
inductive Update where
  | progress (done total : ℕ)
  | succeeded (now : Instant) (message : String)
  | failed (now : Instant)
  deriving DecidableEq, Repr

/-- `replace(status, **changes)`. -/
def Update.apply (status : RepopulateStatus) : Update → RepopulateStatus
  | .progress done total => { status with daysDone := done, daysTotal := total }
  | .succeeded now message =>
    { status with state := .succeeded, finishedAt := some now, message := some message }
  | .failed now => { status with state := .failed, finishedAt := some now, message := some failureMessage }

def Update.ends : Update → Bool
  | .progress _ _ => false
  | _ => true

theorem Update.apply_running (u : Update) {status : RepopulateStatus} (running : status.state = .running) :
    (u.apply status).state = .running ↔ u.ends = false := by
  cases u <;> simp [Update.apply, Update.ends, running]

/-- Where a call of `start` stands. -/
inductive CallPhase where
  | notCalled
  | waiting
  | locked
  /-- The status is set to RUNNING, and the thread is made. -/
  | marked
  | threadStarted
  | returned (started : Bool)
  /-- `Thread.start` has raised. -/
  | raised
  deriving DecidableEq, Repr

/-- Where the thread of a call stands. -/
inductive WorkerPhase where
  | unborn
  /-- In `work`, or on its way out of it. -/
  | working
  /-- At the lock in `_update`. -/
  | waiting (update : Update)
  /-- In `_update`, with the status as it was read. -/
  | updating (update : Update) (read : RepopulateStatus)
  | finished
  deriving DecidableEq, Repr

inductive Holder where
  | call (k : ℕ)
  | worker (k : ℕ)
  deriving DecidableEq, Repr

/-- The job. Calls are numbered, and the thread of a call has its number. -/
structure JobState where
  status : RepopulateStatus
  lock : Option Holder
  calls : ℕ → CallPhase
  workers : ℕ → WorkerPhase

/-- `RepopulateJob()`. -/
def JobState.new : JobState := ⟨{}, none, fun _ => .notCalled, fun _ => .unborn⟩

inductive JobLabel where
  | call (k : ℕ)
  | acquire (k : ℕ)
  /-- The status is looked at: `False`, or it is set to RUNNING. -/
  | check (k : ℕ) (now : Instant)
  | threadStarts (k : ℕ)
  /-- `Thread.start` raises a RuntimeError; the `with` block gives the lock back. -/
  | threadFails (k : ℕ)
  | returnsTrue (k : ℕ)
  | update (k : ℕ) (update : Update)
  | acquireUpdate (k : ℕ)
  | write (k : ℕ)
  deriving DecidableEq, Repr

namespace JobState

def setCall (s : JobState) (k : ℕ) (phase : CallPhase) : JobState :=
  { s with calls := Function.update s.calls k phase }

def setWorker (s : JobState) (k : ℕ) (phase : WorkerPhase) : JobState :=
  { s with workers := Function.update s.workers k phase }

@[simp] theorem setCall_status (s : JobState) (k : ℕ) (phase : CallPhase) :
    (s.setCall k phase).status = s.status := rfl

@[simp] theorem setCall_lock (s : JobState) (k : ℕ) (phase : CallPhase) :
    (s.setCall k phase).lock = s.lock := rfl

@[simp] theorem setCall_workers (s : JobState) (k : ℕ) (phase : CallPhase) :
    (s.setCall k phase).workers = s.workers := rfl

@[simp] theorem setCall_calls (s : JobState) (k j : ℕ) (phase : CallPhase) :
    (s.setCall k phase).calls j = if j = k then phase else s.calls j := by
  simp only [setCall, Function.update_apply]

@[simp] theorem setWorker_status (s : JobState) (k : ℕ) (phase : WorkerPhase) :
    (s.setWorker k phase).status = s.status := rfl

@[simp] theorem setWorker_lock (s : JobState) (k : ℕ) (phase : WorkerPhase) :
    (s.setWorker k phase).lock = s.lock := rfl

@[simp] theorem setWorker_calls (s : JobState) (k : ℕ) (phase : WorkerPhase) :
    (s.setWorker k phase).calls = s.calls := rfl

@[simp] theorem setWorker_workers (s : JobState) (k j : ℕ) (phase : WorkerPhase) :
    (s.setWorker k phase).workers j = if j = k then phase else s.workers j := by
  simp only [setWorker, Function.update_apply]

/-- A step, where it can be taken. -/
def step (s : JobState) : JobLabel → Option JobState
  | .call k => if s.calls k = .notCalled then some (s.setCall k .waiting) else none
  | .acquire k =>
    if s.calls k = .waiting ∧ s.lock = none then some { s.setCall k .locked with lock := some (.call k) }
    else none
  | .check k now =>
    if s.calls k = .locked then
      if s.status.state = .running then some { s.setCall k (.returned false) with lock := none }
      else some { s.setCall k .marked with status := { state := .running, startedAt := some now } }
    else none
  | .threadStarts k =>
    if s.calls k = .marked then some ((s.setCall k .threadStarted).setWorker k .working) else none
  | .threadFails k =>
    if s.calls k = .marked then some { s.setCall k .raised with lock := none } else none
  | .returnsTrue k =>
    if s.calls k = .threadStarted then some { s.setCall k (.returned true) with lock := none } else none
  | .update k u => if s.workers k = .working then some (s.setWorker k (.waiting u)) else none
  | .acquireUpdate k =>
    match s.workers k with
    | .waiting u =>
      if s.lock = none then some { s.setWorker k (.updating u s.status) with lock := some (.worker k) } else none
    | _ => none
  | .write k =>
    match s.workers k with
    | .updating u read =>
      some { s.setWorker k (if u.ends then .finished else .working) with status := u.apply read, lock := none }
    | _ => none

/-- The work of the call is under way, from the start of its thread until it has reported its end. -/
def Running (s : JobState) (k : ℕ) : Prop := s.workers k ≠ .unborn ∧ s.workers k ≠ .finished

end JobState

def jobSystem : System JobState JobLabel := ⟨(· = .new), fun s l s' => s.step l = some s'⟩

/-- The runs of a new job. -/
abbrev JobTrace (ls : List JobLabel) (s : JobState) : Prop := jobSystem.Trace (fun _ _ => True) .new ls s

/-- What is promised of the job, after the steps `ls`. -/
structure SingleFlight (ls : List JobLabel) (s : JobState) : Prop where
  one : ∀ j k, s.Running j → s.Running k → j = k
  accepted : ∀ k, s.calls k = .returned true → ls.count (.threadStarts k) = 1
  refused : ∀ k, s.calls k = .returned false ∨ s.calls k = .raised → ls.count (.threadStarts k) = 0
  /-- A run ends once, and with it RUNNING ends. -/
  ends : ∀ l s' k, s.step l = some s' → s.Running k → s'.workers k = .finished →
    s.status.state = .running ∧ (s'.status.state = .succeeded ∨ s'.status.state = .failed) ∧
      s'.status.finishedAt.isSome = true
  finished : ∀ l s' k, s.step l = some s' → s.workers k = .finished → s'.workers k = .finished
  onlyThen : ∀ l s', s.step l = some s' → s.status.state = .running → s'.status.state ≠ .running →
    ∃ k, s.Running k ∧ s'.workers k = .finished
  /-- With no work under way and the lock free, the next call is accepted. -/
  idle : (∀ k, ¬ s.Running k) → s.lock = none → s.status.state ≠ .running ∧
    ∀ k now, s.calls k = .waiting → ∃ s₁ s₂, s.step (.acquire k) = some s₁ ∧
      s₁.step (.check k now) = some s₂ ∧ s₂.calls k = .marked

/-! ## The invariant -/

/-- What holds while every thread starts. -/
structure JobInv (ls : List JobLabel) (s : JobState) : Prop where
  call : ∀ k, s.lock = some (.call k) ↔
    s.calls k = .locked ∨ s.calls k = .marked ∨ s.calls k = .threadStarted
  worker : ∀ k, s.lock = some (.worker k) ↔ ∃ u read, s.workers k = .updating u read
  read : ∀ k u read, s.workers k = .updating u read → read = s.status
  born : ∀ k, s.workers k = .unborn ↔ s.calls k ≠ .threadStarted ∧ s.calls k ≠ .returned true
  count : ∀ k, ls.count (.threadStarts k) = if s.workers k = .unborn then 0 else 1
  running : s.status.state = .running ↔ (∃ k, s.Running k) ∨ ∃ k, s.calls k = .marked
  one : ∀ j k, s.Running j → s.Running k → j = k
  apart : ∀ j k, s.Running j → s.calls k ≠ .marked

theorem jobInv_new : JobInv [] .new := by
  constructor <;> simp [JobState.new, JobState.Running]

/-- Only the start of a thread counts. -/
theorem count_other {l : JobLabel} {k : ℕ} (ls : List JobLabel) (other : l ≠ .threadStarts k) :
    (ls ++ [l]).count (.threadStarts k) = ls.count (.threadStarts k) := by
  rw [List.count_append, List.count_singleton, if_neg (by simpa using other), Nat.add_zero]

section Steps

open JobState

variable {ls : List JobLabel} {s s' : JobState} {k : ℕ}

/-- Who is in `_update` holds the lock. -/
theorem JobInv.lock_updating (h : JobInv ls s) (k : ℕ) (u : Update) (read : RepopulateStatus)
    (updating : s.workers k = .updating u read) : s.lock = some (.worker k) :=
  (h.worker k).2 ⟨u, read, updating⟩

theorem step_acquireUpdate (moves : s.step (.acquireUpdate k) = some s') :
    ∃ u, s.workers k = .waiting u ∧ s.lock = none ∧
      s' = { s.setWorker k (.updating u s.status) with lock := some (.worker k) } := by
  simp only [JobState.step] at moves
  split at moves
  case h_2 => cases moves
  rename_i u waiting
  split at moves
  case isFalse => cases moves
  rename_i free
  exact ⟨u, waiting, free, (Option.some.inj moves).symm⟩

theorem step_write (moves : s.step (.write k) = some s') :
    ∃ u read, s.workers k = .updating u read ∧ s' =
      { s.setWorker k (if u.ends then .finished else .working) with status := u.apply read, lock := none } := by
  simp only [JobState.step] at moves
  split at moves
  case h_2 => cases moves
  rename_i u read updating
  exact ⟨u, read, updating, (Option.some.inj moves).symm⟩

theorem JobInv.call_step (h : JobInv ls s) (moves : s.step (.call k) = some s') :
    JobInv (ls ++ [.call k]) s' := by
  obtain ⟨call, worker, read, born, count, running, one, apart⟩ := h
  simp only [JobState.step, Option.ite_none_right_eq_some, Option.some.injEq] at moves
  obtain ⟨notCalled, rfl⟩ := moves
  simp only [Running] at running one apart
  refine ⟨?_, worker, read, ?_, ?_, ?_, one, ?_⟩ <;>
    simp only [Running, setCall_calls, setCall_lock, setCall_status, setCall_workers]
  · grind
  · grind
  · grind [count_other]
  · grind
  · grind

theorem JobInv.acquire_step (h : JobInv ls s) (moves : s.step (.acquire k) = some s') :
    JobInv (ls ++ [.acquire k]) s' := by
  have updating := h.lock_updating
  obtain ⟨call, worker, read, born, count, running, one, apart⟩ := h
  simp only [JobState.step, Option.ite_none_right_eq_some, Option.some.injEq] at moves
  obtain ⟨⟨waiting, free⟩, rfl⟩ := moves
  simp only [Running] at running one apart
  refine ⟨?_, ?_, read, ?_, ?_, ?_, one, ?_⟩ <;>
    simp only [Running, setCall_calls, setCall_status, setCall_workers]
  · grind
  · grind
  · grind
  · grind [count_other]
  · grind
  · grind

theorem JobInv.check_step {now : Instant} (h : JobInv ls s) (moves : s.step (.check k now) = some s') :
    JobInv (ls ++ [.check k now]) s' := by
  have updating := h.lock_updating
  obtain ⟨call, worker, read, born, count, running, one, apart⟩ := h
  simp only [JobState.step, Option.ite_none_right_eq_some] at moves
  obtain ⟨locked, moves⟩ := moves
  simp only [Running] at running one apart
  split at moves
  · obtain rfl := Option.some.inj moves
    refine ⟨?_, ?_, read, ?_, ?_, ?_, one, ?_⟩ <;>
      simp only [Running, setCall_calls, setCall_status, setCall_workers]
    · grind
    · grind
    · grind
    · grind [count_other]
    · grind
    · grind
  · obtain rfl := Option.some.inj moves
    refine ⟨?_, ?_, ?_, ?_, ?_, ?_, one, ?_⟩ <;>
      simp only [Running, setCall_calls, setCall_lock, setCall_workers]
    · grind
    · grind
    · grind
    · grind
    · grind [count_other]
    · grind
    · grind

theorem JobInv.threadStarts_step (h : JobInv ls s) (moves : s.step (.threadStarts k) = some s') :
    JobInv (ls ++ [.threadStarts k]) s' := by
  obtain ⟨call, worker, read, born, count, running, one, apart⟩ := h
  simp only [JobState.step, Option.ite_none_right_eq_some, Option.some.injEq] at moves
  obtain ⟨marked, rfl⟩ := moves
  simp only [Running] at running one apart
  constructor <;>
    simp only [Running, setCall_calls, setCall_lock, setCall_status, setCall_workers, setWorker_calls,
      setWorker_lock, setWorker_status, setWorker_workers, List.count_append, List.count_singleton]
  · grind
  · grind
  · grind
  · grind
  · grind
  · grind
  · grind
  · grind

theorem JobInv.returnsTrue_step (h : JobInv ls s) (moves : s.step (.returnsTrue k) = some s') :
    JobInv (ls ++ [.returnsTrue k]) s' := by
  have updating := h.lock_updating
  obtain ⟨call, worker, read, born, count, running, one, apart⟩ := h
  simp only [JobState.step, Option.ite_none_right_eq_some, Option.some.injEq] at moves
  obtain ⟨started, rfl⟩ := moves
  simp only [Running] at running one apart
  refine ⟨?_, ?_, read, ?_, ?_, ?_, one, ?_⟩ <;>
    simp only [Running, setCall_calls, setCall_status, setCall_workers]
  · grind
  · grind
  · grind
  · grind [count_other]
  · grind
  · grind

theorem JobInv.update_step {u : Update} (h : JobInv ls s) (moves : s.step (.update k u) = some s') :
    JobInv (ls ++ [.update k u]) s' := by
  obtain ⟨call, worker, read, born, count, running, one, apart⟩ := h
  simp only [JobState.step, Option.ite_none_right_eq_some, Option.some.injEq] at moves
  obtain ⟨working, rfl⟩ := moves
  simp only [Running] at running one apart
  refine ⟨call, ?_, ?_, ?_, ?_, ?_, ?_, ?_⟩ <;>
    simp only [Running, setWorker_calls, setWorker_lock, setWorker_status, setWorker_workers]
  · grind
  · grind
  · grind
  · grind [count_other]
  · grind
  · grind
  · grind

theorem JobInv.acquireUpdate_step (h : JobInv ls s) (moves : s.step (.acquireUpdate k) = some s') :
    JobInv (ls ++ [.acquireUpdate k]) s' := by
  have updating := h.lock_updating
  obtain ⟨call, worker, read, born, count, running, one, apart⟩ := h
  obtain ⟨u, waiting, free, rfl⟩ := step_acquireUpdate moves
  simp only [Running] at running one apart
  constructor <;> simp only [Running, setWorker_calls, setWorker_status, setWorker_workers]
  · grind
  · intro j
    by_cases here : j = k
    · simp [here]
    · simp only [here, if_false]
      grind
  · grind
  · grind
  · grind [count_other]
  · grind
  · grind
  · grind

theorem JobInv.write_step (h : JobInv ls s) (moves : s.step (.write k) = some s') :
    JobInv (ls ++ [.write k]) s' := by
  have updating := h.lock_updating
  obtain ⟨call, worker, read, born, count, running, one, apart⟩ := h
  obtain ⟨u, status, here, rfl⟩ := step_write moves
  obtain rfl := read k u status here
  simp only [Running] at running one apart
  constructor <;> simp only [Running, setWorker_calls, setWorker_workers]
  · grind
  · grind
  · grind
  · grind
  · grind [count_other]
  · have busy : s.workers k ≠ .unborn ∧ s.workers k ≠ .finished := by simp [here]
    rw [u.apply_running (running.2 (.inl ⟨k, busy⟩))]
    constructor
    · intro goesOn
      exact .inl ⟨k, by simp [goesOn]⟩
    · rintro (⟨j, still⟩ | ⟨j, marked⟩)
      · grind
      · exact absurd marked (apart k j busy)
  · grind
  · grind

/-- Any label but a thread that does not start; one lemma above for each kind of turn. -/
theorem JobInv.step {l : JobLabel} (h : JobInv ls s) (starts : ∀ k, l ≠ .threadFails k)
    (moves : s.step l = some s') : JobInv (ls ++ [l]) s' := by
  cases l with
  | call k => exact h.call_step moves
  | acquire k => exact h.acquire_step moves
  | check k now => exact h.check_step moves
  | threadStarts k => exact h.threadStarts_step moves
  | threadFails k => exact absurd rfl (starts k)
  | returnsTrue k => exact h.returnsTrue_step moves
  | update k u => exact h.update_step moves
  | acquireUpdate k => exact h.acquireUpdate_step moves
  | write k => exact h.write_step moves

/-- What a step does to a worker. -/
theorem step_workers {l : JobLabel} (moves : s.step l = some s') (k : ℕ) :
    s'.workers k = s.workers k ∨ s.calls k = .marked ∧ s'.workers k = .working ∨
      (∃ u, s.workers k = .working ∧ s'.workers k = .waiting u) ∨
      (∃ u, s.workers k = .waiting u ∧ s'.workers k = .updating u s.status) ∨
      ∃ u read, s.workers k = .updating u read ∧ s'.status = u.apply read ∧
        s'.workers k = if u.ends then .finished else .working := by
  cases l
  case acquireUpdate j =>
    obtain ⟨u, waiting, -, rfl⟩ := step_acquireUpdate moves
    grind [setWorker_workers]
  case write j =>
    obtain ⟨u, read, updating, rfl⟩ := step_write moves
    grind [setWorker_workers]
  all_goals
    simp only [JobState.step] at moves
    grind [setCall_workers, setWorker_workers]

/-- What a step does to the status. -/
theorem step_status {l : JobLabel} (moves : s.step l = some s') :
    s'.status = s.status ∨ s'.status.state = .running ∨
      ∃ k u read, s.workers k = .updating u read ∧ s'.status = u.apply read ∧
        s'.workers k = if u.ends then .finished else .working := by
  cases l
  case acquireUpdate j =>
    obtain ⟨u, -, -, rfl⟩ := step_acquireUpdate moves
    exact .inl rfl
  case write j =>
    obtain ⟨u, read, updating, rfl⟩ := step_write moves
    exact .inr (.inr ⟨j, u, read, updating, rfl, by simp⟩)
  all_goals
    simp only [JobState.step] at moves
    grind [setCall_status, setWorker_status]

/-- A run is ended by the write of its last update. -/
theorem JobInv.ends {l : JobLabel} (h : JobInv ls s) (moves : s.step l = some s') (running : s.Running k)
    (finished : s'.workers k = .finished) : s.status.state = .running ∧
      (s'.status.state = .succeeded ∨ s'.status.state = .failed) ∧ s'.status.finishedAt.isSome = true := by
  refine ⟨h.running.2 (.inl ⟨k, running⟩), ?_⟩
  rcases step_workers moves k with same | ⟨-, next⟩ | ⟨u, -, next⟩ | ⟨u, -, next⟩ | ⟨u, read, -, status, next⟩
  · exact absurd (same.symm.trans finished) running.2
  · simp [next] at finished
  · simp [next] at finished
  · simp [next] at finished
  · rw [status]
    cases u with
    | progress done total => simp [next, Update.ends] at finished
    | succeeded now message => simp [Update.apply]
    | failed now => simp [Update.apply]

/-- A thread that has finished stays so: its call is not at the start of a thread again. -/
theorem JobInv.stays_finished {l : JobLabel} (h : JobInv ls s) (moves : s.step l = some s')
    (finished : s.workers k = .finished) : s'.workers k = .finished := by
  have born := h.born k
  have := step_workers moves k
  grind

/-- RUNNING ends with a run. -/
theorem JobInv.leaves_running {l : JobLabel} (h : JobInv ls s) (moves : s.step l = some s')
    (running : s.status.state = .running) (left : s'.status.state ≠ .running) :
    ∃ k, s.Running k ∧ s'.workers k = .finished := by
  rcases step_status moves with same | still | ⟨k, u, read, here, status, next⟩
  · rw [same] at left
    exact absurd running left
  · exact absurd still left
  · have ends : u.ends = true := by
      rw [status, h.read k u read here, Ne, u.apply_running running] at left
      simpa using left
    exact ⟨k, by simp [Running, here], by rw [next, if_pos ends]⟩

/-- With the lock free and nothing under way, the status is at rest. -/
theorem JobInv.at_rest (h : JobInv ls s) (none : ∀ k, ¬ s.Running k) (free : s.lock = .none) :
    s.status.state ≠ .running := by
  intro running
  rcases h.running.1 running with ⟨k, runs⟩ | ⟨k, marked⟩
  · exact none k runs
  · have held := (h.call k).2 (.inr (.inl marked))
    rw [free] at held
    cases held

/-- A call that comes to the lock at rest is accepted. -/
theorem accepts (rest : s.status.state ≠ .running) (free : s.lock = none) (now : Instant)
    (waiting : s.calls k = .waiting) :
    ∃ s₁ s₂, s.step (.acquire k) = some s₁ ∧ s₁.step (.check k now) = some s₂ ∧ s₂.calls k = .marked := by
  let locked : JobState := { s.setCall k .locked with lock := some (.call k) }
  have acquires : s.step (.acquire k) = some locked := if_pos ⟨waiting, free⟩
  have checks : locked.step (.check k now) =
      some { locked.setCall k .marked with status := { state := .running, startedAt := some now } } := by
    rw [JobState.step, if_pos (by simp [locked]), if_neg (by simpa [locked] using rest)]
  exact ⟨locked, _, acquires, checks, by simp⟩

theorem JobInv.singleFlight (h : JobInv ls s) : SingleFlight ls s where
  one := h.one
  accepted k returned := by
    have := h.born k
    have := h.count k
    grind
  refused k returned := by
    have := h.born k
    have := h.count k
    grind
  ends _ _ _ moves running finished := h.ends moves running finished
  finished _ _ _ moves finished := h.stays_finished moves finished
  onlyThen _ _ moves running left := h.leaves_running moves running left
  idle none free :=
    ⟨h.at_rest none free, fun _ now waiting => accepts (h.at_rest none free) free now waiting⟩

/-- A thread that does not start leaves RUNNING behind. -/
theorem JobInv.stuck (h : JobInv ls s) (moves : s.step (.threadFails k) = some s') :
    (∀ j, ¬ s'.Running j) ∧ s'.lock = none ∧ s'.status.state = .running := by
  simp only [JobState.step, Option.ite_none_right_eq_some, Option.some.injEq] at moves
  obtain ⟨marked, rfl⟩ := moves
  exact ⟨fun j runs => h.apart j k runs marked, rfl, h.running.2 (.inr ⟨k, marked⟩)⟩

end Steps

/-! ## Every run of the job -/

/-- While every thread starts the invariant holds; after the first that does not, the job is stuck. -/
theorem jobInv_or_stuck {ls : List JobLabel} {s : JobState} (trace : JobTrace ls s) :
    ((∀ k, .threadFails k ∉ ls) ∧ JobInv ls s) ∨
      ∃ ls' s' k, ls' ++ [.threadFails k] <+: ls ∧ JobTrace (ls' ++ [.threadFails k]) s' ∧
        (∀ j, ¬ s'.Running j) ∧ s'.lock = none ∧ s'.status.state = .running := by
  induction trace with
  | start => exact .inl ⟨by simp, jobInv_new⟩
  | @next ls s s' l before ok moves ih =>
    rcases ih with ⟨starts, inv⟩ | ⟨ls', mid, k, least, stuck⟩
    · by_cases fails : ∃ k, l = .threadFails k
      · obtain ⟨k, rfl⟩ := fails
        exact .inr ⟨ls, s', k, List.prefix_rfl, before.next ok moves, inv.stuck moves⟩
      · have other : ∀ k, l ≠ .threadFails k := fun k same => fails ⟨k, same⟩
        refine .inl ⟨?_, inv.step other moves⟩
        intro k mem
        rcases List.mem_append.1 mem with mem | mem
        · exact starts k mem
        · exact other k (List.mem_singleton.1 mem).symm
    · exact .inr ⟨ls', mid, k, least.trans (List.prefix_append ls [l]), stuck⟩

/-- **Single flight.** The job keeps its promise through a run if and only if every thread starts. -/
theorem single_flight_iff_threads_start {ls : List JobLabel} {s : JobState} (trace : JobTrace ls s) :
    (∀ ls' s', ls' <+: ls → JobTrace ls' s' → SingleFlight ls' s') ↔ ∀ k, .threadFails k ∉ ls := by
  constructor
  · intro keeps
    rcases jobInv_or_stuck trace with ⟨starts, -⟩ | ⟨ls', mid, k, least, ran, nothing, free, running⟩
    · exact starts
    · exact absurd running ((keeps _ mid least ran).idle nothing free).1
  · intro starts ls' s' least ran
    rcases jobInv_or_stuck ran with ⟨-, inv⟩ | ⟨_, _, k, shorter, -⟩
    · exact inv.singleFlight
    · exact absurd ((shorter.trans least).subset (by simp)) (starts k)

/-- One run that succeeds. -/
theorem single_flight_iff_threads_start_one :
    ∃ s, JobTrace [.call 0, .acquire 0, .check 0 0, .threadStarts 0, .returnsTrue 0,
        .update 0 (.succeeded 1 "done"), .acquireUpdate 0, .write 0] s ∧ s.status.state = .succeeded ∧
      SingleFlight [.call 0, .acquire 0, .check 0 0, .threadStarts 0, .returnsTrue 0,
        .update 0 (.succeeded 1 "done"), .acquireUpdate 0, .write 0] s := by
  have run : ∃ s, JobTrace [.call 0, .acquire 0, .check 0 0, .threadStarts 0, .returnsTrue 0,
      .update 0 (.succeeded 1 "done"), .acquireUpdate 0, .write 0] s ∧ s.status.state = .succeeded :=
    ⟨_, System.Trace.checked (fun _ _ _ moves => moves) rfl, rfl⟩
  obtain ⟨s, trace, state⟩ := run
  have keeps := (single_flight_iff_threads_start trace).2 (by simp)
  exact ⟨s, trace, state, keeps _ s List.prefix_rfl trace⟩

/-- The thread of a call cannot be started, and the next call is refused. -/
theorem failed_thread_refuses_next_start :
    ∃ s, JobTrace [.call 0, .acquire 0, .check 0 0, .threadFails 0, .call 1, .acquire 1, .check 1 1] s ∧
      s.status.state = .running ∧ s.lock = none ∧ (∀ k, ¬ s.Running k) ∧ s.calls 1 = .returned false ∧
      ¬ SingleFlight [.call 0, .acquire 0, .check 0 0, .threadFails 0, .call 1, .acquire 1, .check 1 1]
        s := by
  refine ⟨_, System.Trace.checked (fun _ _ _ moves => moves) rfl, rfl, rfl, ?_, rfl, ?_⟩
  · intro k runs
    exact runs.1 rfl
  · intro flight
    have rests := flight.idle (by intro k runs; exact runs.1 rfl) rfl
    exact rests.1 rfl

end MeadowOps.Simulation
