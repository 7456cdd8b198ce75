import MeadowOps.Ledger.Timeline
import MeadowOps.Lib.LockTx

/-!
# Transitions at the same time

A transition waits for the lock of its row and reads the row when it has it. `flag_stale` locks the rows
it finds, passes over the rows that are taken, and keeps its locks to the end of the tick. A row is
looked at again when its lock is there, as it may have changed since the snapshot of the statement.
-/

namespace MeadowOps.Ledger

open Db Lib MeadowOps.Flow LockTx

inductive TransitionCall where
  | requestClarification (decisionId : Uuid)
  | resubmitDecision (decisionId : Uuid)
  | acceptDecision (decisionId : Uuid) (decidedBy : String)
    (approvalAuthority : Option ApprovalAuthority)
  | rejectDecision (decisionId : Uuid) (decidedBy : String)
  | markImplemented (decisionId : Uuid)
  | markPartiallyImplemented (decisionId : Uuid)
  | recordOutcome (decisionId : Uuid) (outcome : DecisionOutcome) (notes : Option String)

namespace TransitionCall

def decisionId : TransitionCall → Uuid
  | .requestClarification id => id
  | .resubmitDecision id => id
  | .acceptDecision id _ _ => id
  | .rejectDecision id _ => id
  | .markImplemented id => id
  | .markPartiallyImplemented id => id
  | .recordOutcome id _ _ => id

def toStatus : TransitionCall → DecisionEventStatus
  | .requestClarification _ => .clarificationRequested
  | .resubmitDecision _ => .proposed
  | .acceptDecision .. => .accepted
  | .rejectDecision .. => .rejected
  | .markImplemented _ => .implemented
  | .markPartiallyImplemented _ => .partiallyImplemented
  | .recordOutcome .. => .outcomeObserved

/-- The UPDATE of a call that has moved its row. -/
def update (now : Instant) (call : TransitionCall) (row : DecisionEvent) : DecisionEvent :=
  match call with
  | .requestClarification _ => { row with status := .clarificationRequested }
  | .resubmitDecision _ => { row with status := .proposed }
  | .acceptDecision _ decidedBy authority => { row with
      status := .accepted
      decidedAt := some now
      decidedBy := some decidedBy
      approvalAuthority := authority.or row.approvalAuthority }
  | .rejectDecision _ decidedBy => { row with
      status := .rejected
      decidedAt := some now
      decidedBy := some decidedBy }
  | .markImplemented _ => { row with
      status := .implemented
      implementedAt := some now }
  | .markPartiallyImplemented _ => { row with
      status := .partiallyImplemented
      implementedAt := some now }
  | .recordOutcome _ outcome notes => { row with
      status := .outcomeObserved
      outcome := some outcome
      outcomeNotes := notes
      outcomeRecordedAt := some now }

def perform (now : Instant) : TransitionCall → Service DecisionEvent
  | .requestClarification id => Ledger.requestClarification id
  | .resubmitDecision id => Ledger.resubmitDecision id
  | .acceptDecision id decidedBy authority => Ledger.acceptDecision now id decidedBy authority
  | .rejectDecision id decidedBy => Ledger.rejectDecision now id decidedBy
  | .markImplemented id => Ledger.markImplemented now id
  | .markPartiallyImplemented id => Ledger.markPartiallyImplemented now id
  | .recordOutcome id outcome notes => Ledger.recordOutcome now id outcome notes

variable (now : Instant) (call : TransitionCall) (row : DecisionEvent)

@[simp] theorem update_id : (call.update now row).id = row.id := by cases call <;> rfl

@[simp] theorem update_status : (call.update now row).status = call.toStatus := by cases call <;> rfl

@[simp] theorem update_staleFlaggedAt : (call.update now row).staleFlaggedAt = row.staleFlaggedAt := by
  cases call <;> rfl

theorem toStatus_ne_stale : call.toStatus ≠ .stale := by cases call <;> exact nofun

end TransitionCall

/-- Where a transaction stands. -/
inductive LedgerLocal where
  | calling (call : TransitionCall)
  /-- The row is locked and read. -/
  | fetched (call : TransitionCall) (decision : DecisionEvent)
  /-- The call has returned; the row is as it was read. -/
  | moved (call : TransitionCall) (decision : DecisionEvent) (now : Instant)
  /-- A tick, before `flag_stale`. -/
  | ticking (order : RowOrder DecisionEvent) (afterDays : ℤ)
  /-- The SELECT of `flag_stale` comes to the rows of its snapshot one by one. -/
  | scanning (asOf : Instant) (afterDays : ℤ) (todo : List Uuid) (found : List DecisionEvent)
  /-- A tick after `flag_stale`: what it found and returned, and the rows as the session has them. -/
  | working (found flagged session : List DecisionEvent)

/-- How the SELECT of `flag_stale` finds the next row. -/
inductive RowLock where
  | free
  | taken

/-- A `flag_stale` that raises does not end the tick. -/
def LedgerLocal.afterLoop (found : List DecisionEvent) :
    EStateM.Result LedgerError (List DecisionEvent) (List DecisionEvent) → LedgerLocal
  | .ok flagged session => .working found flagged session
  | .error _ session => .working found [] session

/-- A statement of a transaction. A call that raises can only be rolled back. -/
def execLedger (now : Instant) (lock : RowLock) (k : LedgerLocal) (rows : List DecisionEvent) :
    Option (LedgerLocal × List Uuid) :=
  match k with
  | .calling call =>
    (lookup (·.id) call.decisionId rows).map fun decision => (.fetched call decision, [call.decisionId])
  | .fetched call decision =>
    match applyTransition decision call.toStatus with
    | .error _ => none
    | .ok _ => some (.moved call decision now, [])
  | .moved .. => none
  | .ticking order afterDays =>
    some (.scanning now afterDays ((order.rows (rows.filter staleCandidate)).map (·.id)) [], [])
  | .scanning asOf afterDays [] found =>
    some (.afterLoop found (found.foldlM (flagDecision asOf afterDays) [] found), [])
  | .scanning asOf afterDays (id :: todo) found =>
    match lock with
    | .taken => some (.scanning asOf afterDays todo found, [])
    | .free =>
      match (lookup (·.id) id rows).filter staleCandidate with
      | some decision => some (.scanning asOf afterDays todo (found ++ [decision]), [id])
      -- it has been locked, and no longer meets the WHERE clause
      | none => some (.scanning asOf afterDays todo found, [id])
  | .working .. => none

/-- The rows of a session that have changed. -/
def dirty (found session : List DecisionEvent) : List DecisionEvent :=
  session.filter (· ∉ found)

/-- The UPDATE of a flagged row. -/
def writeFlag (decision row : DecisionEvent) : DecisionEvent :=
  { row with
    status := decision.status
    staleFlaggedAt := decision.staleFlaggedAt }

def commitLedger (k : LedgerLocal) (rows : List DecisionEvent) : Option (List DecisionEvent) :=
  match k with
  | .moved call _ now => some (Lib.modify (·.id) call.decisionId (call.update now) rows)
  | .working found _ session => some ((dirty found session).foldl
      (fun rows decision => Lib.modify (·.id) decision.id (writeFlag decision) rows) rows)
  -- an earlier pass of the tick has raised
  | .ticking .. => some rows
  | _ => none

def ledgerProtocol : Protocol (List DecisionEvent) Uuid LedgerLocal RowLock where
  exec := execLedger
  commit := commitLedger

def LedgerLocal.begins : LedgerLocal → Prop
  | .calling _ | .ticking .. => True
  | _ => False

/-- SKIP LOCKED passes over a row that another transaction has locked, and over no other. -/
def SkipsLocked (s : LockTx.State (List DecisionEvent) Uuid LedgerLocal) :
    LockTx.Action LedgerLocal RowLock → Prop
  | .exec t _ .taken =>
    match s.phase t with
    | .running (.scanning _ _ (id :: _) _) => s.owner id ≠ none ∧ s.owner id ≠ some t
    | _ => True
  | _ => True

/-- The interleavings of transitions and ticks on a ledger. -/
def ledgerTransactions (rows : List DecisionEvent) :
    System (LockTx.State (List DecisionEvent) Uuid LedgerLocal) (LockTx.Action LedgerLocal RowLock) where
  init := (system ledgerProtocol (fun _ k => k.begins) (· = rows)).init
  step s a s' := SkipsLocked s a ∧
    (system ledgerProtocol (fun _ k => k.begins) (· = rows)).step s a s'

/-! ## What is committed -/

/-- The rows a transaction has read and may write. -/
def LedgerLocal.read : LedgerLocal → List DecisionEvent
  | .moved _ decision _ => [decision]
  | .working found _ _ => found
  | _ => []

/-- The call reports success on a decision. -/
def LedgerLocal.reports (id : Uuid) : LedgerLocal → Bool
  | .moved call _ _ => decide (call.decisionId = id)
  | .working _ flagged _ => decide (id ∈ flagged.map (·.id))
  | _ => false

/-- The status a transaction that reports success moves to. -/
def LedgerLocal.toStatus : LedgerLocal → DecisionEventStatus
  | .moved call _ _ => call.toStatus
  | _ => .stale

/-- The ledger after a commit. -/
def afterCommit (rows : List DecisionEvent) (c : ℕ × LedgerLocal) : List DecisionEvent :=
  (commitLedger c.2 rows).getD rows

def committedAfter (rows : List DecisionEvent) (commits : List (ℕ × LedgerLocal)) :
    List DecisionEvent :=
  commits.foldl afterCommit rows

/-- The committed status of a decision. -/
def statusOf (id : Uuid) (rows : List DecisionEvent) : Option DecisionEventStatus :=
  (lookup (·.id) id rows).map (·.status)

/-- The statuses that commits give a decision, where they change it. -/
def changes (id : Uuid) : List DecisionEvent → List (ℕ × LedgerLocal) → List DecisionEventStatus
  | _, [] => []
  | rows, c :: commits =>
    (if statusOf id (afterCommit rows c) = statusOf id rows then []
      else (statusOf id (afterCommit rows c)).toList) ++ changes id (afterCommit rows c) commits

/-- The committed statuses of a decision. -/
def trail (id : Uuid) (rows : List DecisionEvent) (commits : List (ℕ × LedgerLocal)) :
    List DecisionEventStatus :=
  (statusOf id rows).toList ++ changes id rows commits

/-- Decisions that are proposed, and nothing more. -/
structure Fresh (rows : List DecisionEvent) : Prop where
  keyed : Keyed (·.id) rows
  proposed : ∀ d ∈ rows, Proposed d.proposedAt d

/-- What holds of the commits of a run on the ledger `rows`. -/
structure Serialised (rows : List DecisionEvent)
    (s : LockTx.State (List DecisionEvent) Uuid LedgerLocal) : Prop where
  committed : s.store = committedAfter rows s.commits
  path : ∀ d ∈ rows, (trail d.id rows s.commits).IsChain (fun a b => b ∈ allowedTransitions a) ∧
    (trail d.id rows s.commits).head? = some .proposed ∧
    (trail d.id rows s.commits).getLast? = statusOf d.id s.store
  oneEdge : ∀ d ∈ rows, changes d.id rows s.commits =
    (s.commits.filter (·.2.reports d.id)).map (·.2.toStatus)
  /-- What a transaction has read is what is committed when it commits. -/
  current : ∀ before c after, s.commits = before ++ c :: after → ∀ d ∈ c.2.read,
    lookup (·.id) d.id (committedAfter rows before) = some d
  /-- It writes no row but those it reports on, which it has read. -/
  written : ∀ before c after, s.commits = before ++ c :: after → ∀ d ∈ committedAfter rows before,
    c.2.reports d.id = true ∧ d ∈ c.2.read ∨ d ∈ afterCommit (committedAfter rows before) c
  decided : ∀ d ∈ rows, ∀ before verdict after, trail d.id rows s.commits = before ++ verdict :: after →
    verdict = .accepted ∨ verdict = .rejected → .stale ∉ after
  flagged : ∀ d ∈ s.store, d.staleFlaggedAt.isSome = true ↔ .stale ∈ trail d.id rows s.commits

/-! ## A transaction alone -/

/-- A call that nothing comes between is the service call. -/
theorem TransitionCall.perform_alone (now : Instant) (call : TransitionCall)
    {rows rows' : List DecisionEvent} {k k' : LedgerLocal} {locks locks' : List Uuid} (lock : RowLock)
    (fetch : execLedger now lock (.calling call) rows = some (k, locks))
    (apply : execLedger now lock k rows = some (k', locks'))
    (commit : commitLedger k' rows = some rows') (keyed : Keyed (·.id) rows) :
    endState (call.perform now rows) = rows' := by
  simp only [execLedger, Option.map_eq_some_iff, Prod.mk.injEq] at fetch
  obtain ⟨decision, found, rfl, -⟩ := fetch
  obtain ⟨mem, same⟩ := lookup_mem found
  simp only [execLedger] at apply
  split at apply
  · cases apply
  · rename_i row applied
    cases apply
    cases commit
    have allowed : call.toStatus ∈ allowedTransitions decision.status := by
      by_contra refused
      rw [applyTransition_eq, if_neg refused] at applied
      cases applied
    have perform : ∃ stamp, call.perform now = transition call.decisionId call.toStatus stamp ∧
        stamp { decision with status := call.toStatus } = call.update now decision := by
      cases call <;> exact ⟨_, rfl, rfl⟩
    obtain ⟨stamp, run, stamped⟩ := perform
    rw [run, transition_of_allowed stamp found allowed, stamped, endState_ok, update_id, ← same]
    exact keyed.modify_row mem rfl

/-! ## A commit -/

/-- `flag_stale` has gone over rows that are still as it found them. -/
structure LoopDone (rows found flagged session : List DecisionEvent) : Prop where
  current : ∀ d ∈ found, lookup (·.id) d.id rows = some d
  distinct : Keyed (·.id) found
  goneStale : ∃ asOf, ∃ old : DecisionEvent → Bool, flagged = (found.filter old).map (staled asOf)
  candidates : ∀ d ∈ found, staleCandidate d = true
  changed : dirty found session = flagged

/-- A transaction that has read what is committed, and commits an edge. -/
def GoodCommit (rows : List DecisionEvent) : LedgerLocal → Prop
  | .moved call decision _ =>
    lookup (·.id) call.decisionId rows = some decision ∧ call.toStatus ∈ allowedTransitions decision.status
  | .working found flagged session => LoopDone rows found flagged session
  | .ticking .. => True
  | _ => False

theorem staleCandidate_allowed {d : DecisionEvent} (h : staleCandidate d = true) :
    .stale ∈ allowedTransitions d.status := by
  rcases (of_decide_eq_true h).2 with status | status <;> rw [status] <;> decide

/-- What a commit does to one row. -/
inductive RowEffect (k : LedgerLocal) (d : DecisionEvent) : Option DecisionEvent → Prop where
  | kept (quiet : k.reports d.id = false) : RowEffect k d (some d)
  | moved {d' : DecisionEvent} (reported : k.reports d.id = true) (read : d ∈ k.read)
      (id : d'.id = d.id) (status : d'.status = k.toStatus)
      (allowed : k.toStatus ∈ allowedTransitions d.status)
      (flag : d'.staleFlaggedAt.isSome = (d.staleFlaggedAt.isSome || decide (k.toStatus = .stale))) :
      RowEffect k d (some d')

variable {rows : List DecisionEvent} {k : LedgerLocal}

theorem LoopDone.keyed_flagged {found flagged session : List DecisionEvent}
    (h : LoopDone rows found flagged session) : Keyed (·.id) flagged := by
  obtain ⟨asOf, old, rfl⟩ := h.goneStale
  have same : ((found.filter old).map (staled asOf)).map (·.id) = (found.filter old).map (·.id) := by
    rw [List.map_map]
    rfl
  rw [Keyed, same]
  exact h.distinct.sublist (List.filter_sublist.map _)

/-- The flags of a session are written row by row. -/
theorem LoopDone.commit_eq {found flagged session : List DecisionEvent}
    (h : LoopDone rows found flagged session) :
    commitLedger (.working found flagged session) rows = some (rows.map fun row =>
      (flagged.find? (·.id = row.id)).elim row fun decision => writeFlag decision row) := by
  rw [commitLedger, h.changed,
    foldl_modify_of_nodup DecisionEvent.id DecisionEvent.id writeFlag (fun _ _ => rfl) h.keyed_flagged]

theorem LoopDone.effect {found flagged session : List DecisionEvent}
    (h : LoopDone rows found flagged session) {d : DecisionEvent}
    (here : lookup (·.id) d.id rows = some d) :
    RowEffect (.working found flagged session) d
      (some ((flagged.find? (·.id = d.id)).elim d fun decision => writeFlag decision d)) := by
  cases named : flagged.find? (·.id = d.id) with
  | none =>
    refine .kept (decide_eq_false ?_)
    rw [List.mem_map]
    rintro ⟨decision, mem, same⟩
    exact List.find?_eq_none.1 named decision mem (decide_eq_true same)
  | some decision =>
    have mem := List.mem_of_find?_eq_some named
    have same : decision.id = d.id := by simpa using List.find?_some named
    have reported : decide (d.id ∈ flagged.map (·.id)) = true :=
      decide_eq_true (List.mem_map.2 ⟨decision, mem, same⟩)
    obtain ⟨asOf, old, rfl⟩ := h.goneStale
    obtain ⟨found', memFound, rfl⟩ := List.mem_map.1 mem
    have read := (List.mem_filter.1 memFound).1
    have both := h.current found' read
    rw [show found'.id = d.id from same, here] at both
    obtain rfl := Option.some.inj both
    exact .moved reported read rfl rfl (staleCandidate_allowed (h.candidates d read)) (by simp [writeFlag, staled,
      LedgerLocal.toStatus])

/-- What a commit does to the row of a decision. -/
theorem GoodCommit.effect (h : GoodCommit rows k) {d : DecisionEvent}
    (here : lookup (·.id) d.id rows = some d) (t : ℕ) :
    RowEffect k d (lookup (·.id) d.id (afterCommit rows (t, k))) := by
  cases k with
  | moved call decision now =>
    obtain ⟨found, allowed⟩ := h
    show RowEffect _ d (lookup (·.id) d.id (Lib.modify (·.id) call.decisionId (call.update now) rows))
    rw [Lib.modify, lookup_map (fun r => by split <;> simp), here, Option.map_some]
    by_cases mine : d.id = call.decisionId
    · rw [if_pos mine]
      rw [← mine, here] at found
      obtain rfl := Option.some.inj found
      refine .moved (decide_eq_true mine.symm) (List.mem_singleton_self d) (call.update_id now d)
        (call.update_status now d) allowed ?_
      simp [LedgerLocal.toStatus, call.toStatus_ne_stale]
    · rw [if_neg mine]
      exact .kept (decide_eq_false fun same => mine same.symm)
  | working found flagged session =>
    have done : LoopDone rows found flagged session := h
    rw [afterCommit, done.commit_eq, Option.getD_some, lookup_map, here]
    · exact done.effect here
    · intro r
      cases flagged.find? (·.id = r.id) <;> rfl
  | ticking order afterDays =>
    show RowEffect _ d (lookup (·.id) d.id rows)
    rw [here]
    exact .kept rfl
  | calling _ => exact h.elim
  | fetched _ _ => exact h.elim
  | scanning _ _ _ _ => exact h.elim

theorem GoodCommit.row_after {c : ℕ × LedgerLocal} (h : GoodCommit rows c.2) {d : DecisionEvent}
    (here : lookup (·.id) d.id rows = some d) :
    ∃ d', lookup (·.id) d.id (afterCommit rows c) = some d' ∧ RowEffect c.2 d (some d') := by
  have effect := h.effect here c.1
  rw [show (c.1, c.2) = c from rfl] at effect
  cases there : lookup (·.id) d.id (afterCommit rows c) with
  | none =>
    rw [there] at effect
    cases effect
  | some d' =>
    rw [there] at effect
    exact ⟨d', rfl, effect⟩

theorem GoodCommit.current (h : GoodCommit rows k) {d : DecisionEvent} (read : d ∈ k.read) :
    lookup (·.id) d.id rows = some d := by
  cases k with
  | moved call decision now =>
    rw [List.mem_singleton.1 read]
    have found := h.1
    rwa [← (lookup_mem found).2] at found
  | working found flagged session =>
    have done : LoopDone rows found flagged session := h
    exact done.current d read
  | ticking _ _ => cases read
  | calling _ => exact h.elim
  | fetched _ _ => exact h.elim
  | scanning _ _ _ _ => exact h.elim

/-- No commit adds or removes a row. -/
theorem GoodCommit.ids (h : GoodCommit rows k) (t : ℕ) :
    (afterCommit rows (t, k)).map (·.id) = rows.map (·.id) := by
  cases k with
  | moved call decision now =>
    exact map_key_modify fun r same => (call.update_id now r).trans same
  | working found flagged session =>
    have done : LoopDone rows found flagged session := h
    rw [afterCommit, done.commit_eq, Option.getD_some, List.map_map]
    apply List.map_congr_left
    intro r _
    show ((flagged.find? (·.id = r.id)).elim r fun decision => writeFlag decision r).id = r.id
    cases flagged.find? (·.id = r.id) <;> rfl
  | ticking order afterDays => rfl
  | calling _ => exact h.elim
  | fetched _ _ => exact h.elim
  | scanning _ _ _ _ => exact h.elim

/-! ## Commits one after another -/

def GoodRun : List DecisionEvent → List (ℕ × LedgerLocal) → Prop
  | _, [] => True
  | rows, c :: commits => GoodCommit rows c.2 ∧ GoodRun (afterCommit rows c) commits

theorem GoodRun.split {before after : List (ℕ × LedgerLocal)} {c : ℕ × LedgerLocal}
    (h : GoodRun rows (before ++ c :: after)) : GoodCommit (committedAfter rows before) c.2 := by
  induction before generalizing rows with
  | nil => exact h.1
  | cons b before ih => exact ih h.2

theorem GoodRun.initial {before after : List (ℕ × LedgerLocal)} (h : GoodRun rows (before ++ after)) :
    GoodRun rows before := by
  induction before generalizing rows with
  | nil => exact trivial
  | cons b before ih => exact ⟨h.1, ih h.2⟩

theorem GoodRun.snoc {commits : List (ℕ × LedgerLocal)} {c : ℕ × LedgerLocal} (h : GoodRun rows commits)
    (good : GoodCommit (committedAfter rows commits) c.2) : GoodRun rows (commits ++ [c]) := by
  induction commits generalizing rows with
  | nil => exact ⟨good, trivial⟩
  | cons b commits ih => exact ⟨h.1, ih h.2 good⟩

theorem GoodRun.ids {commits : List (ℕ × LedgerLocal)} (h : GoodRun rows commits) :
    (committedAfter rows commits).map (·.id) = rows.map (·.id) := by
  induction commits generalizing rows with
  | nil => rfl
  | cons c commits ih => exact (ih h.2).trans (h.1.ids c.1)

/-- The statuses that lead from one version of a row to another. -/
structure Trailed (d d' : DecisionEvent) (statuses : List DecisionEventStatus) : Prop where
  path : (d.status :: statuses).IsChain fun a b => b ∈ allowedTransitions a
  last : (d.status :: statuses).getLast? = some d'.status
  flag : d'.staleFlaggedAt.isSome = (d.staleFlaggedAt.isSome || decide (.stale ∈ statuses))

theorem Trailed.cons {d d₁ d' : DecisionEvent} {statuses : List DecisionEventStatus}
    (h : Trailed d₁ d' statuses) (allowed : d₁.status ∈ allowedTransitions d.status)
    (flag : d₁.staleFlaggedAt.isSome = (d.staleFlaggedAt.isSome || decide (d₁.status = .stale))) :
    Trailed d d' (d₁.status :: statuses) := by
  refine ⟨List.isChain_cons_cons.2 ⟨allowed, h.path⟩, ?_, ?_⟩
  · rw [List.getLast?_cons_cons]
    exact h.last
  · rw [h.flag, flag, Bool.or_assoc]
    congr 1
    rw [← Bool.decide_or]
    congr 1
    rw [List.mem_cons, eq_comm (a := d₁.status)]

theorem allowed_ne {a b : DecisionEventStatus} (h : b ∈ allowedTransitions a) : b ≠ a := by
  revert h
  cases a <;> cases b <;> decide

/-- The changes of a decision are the edges of the calls that report success on it, in order. -/
theorem GoodRun.trailed {commits : List (ℕ × LedgerLocal)} (h : GoodRun rows commits)
    {d : DecisionEvent} (here : lookup (·.id) d.id rows = some d) :
    ∃ d', lookup (·.id) d.id (committedAfter rows commits) = some d' ∧
      changes d.id rows commits = (commits.filter (·.2.reports d.id)).map (·.2.toStatus) ∧
      Trailed d d' (changes d.id rows commits) := by
  induction commits generalizing rows d with
  | nil => exact ⟨d, here, rfl, List.isChain_singleton d.status, rfl, by simp [changes]⟩
  | cons c commits ih =>
    obtain ⟨good, rest⟩ := h
    obtain ⟨d₁, there, effect⟩ := good.row_after here
    have before : statusOf d.id rows = some d.status := by
      rw [statusOf, here]
      rfl
    have after : statusOf d.id (afterCommit rows c) = some d₁.status := by
      rw [statusOf, there]
      rfl
    cases effect with
    | kept quiet =>
      obtain ⟨d', last, edges, trailed⟩ := ih rest there
      have unchanged : changes d.id rows (c :: commits) = changes d.id (afterCommit rows c) commits := by
        rw [changes, after, before, if_pos rfl, List.nil_append]
      rw [unchanged, List.filter_cons_of_neg (by simp [quiet])]
      exact ⟨d', last, edges, trailed⟩
    | moved reported read id status allowed flag =>
      rw [← id] at there
      obtain ⟨d', last, edges, trailed⟩ := ih rest there
      rw [id] at last edges trailed
      rw [← status] at allowed flag
      have changed : changes d.id rows (c :: commits) =
          d₁.status :: changes d.id (afterCommit rows c) commits := by
        rw [changes, after, before, if_neg fun same => allowed_ne allowed (Option.some.inj same)]
        rfl
      have counted : ((c :: commits).filter (·.2.reports d.id)).map (·.2.toStatus) =
          d₁.status :: changes d.id (afterCommit rows c) commits := by
        rw [List.filter_cons, if_pos reported, List.map_cons, ← edges, ← status]
      rw [changed, counted]
      exact ⟨d', last, rfl, trailed.cons allowed flag⟩

/-! ## The invariant -/

/-- A row that is read, and locked since. -/
structure Locked (rows : List DecisionEvent) (held : Uuid → Prop) (d : DecisionEvent) : Prop where
  held : held d.id
  current : lookup (·.id) d.id rows = some d

def LedgerLocal.Inv (rows : List DecisionEvent) (held : Uuid → Prop) : LedgerLocal → Prop
  | .calling _ | .ticking .. => True
  | .fetched call decision => decision.id = call.decisionId ∧ Locked rows held decision
  | .moved call decision _ => decision.id = call.decisionId ∧ Locked rows held decision ∧
      call.toStatus ∈ allowedTransitions decision.status
  | .scanning _ _ todo found =>
    (∀ d ∈ found, Locked rows held d ∧ staleCandidate d = true) ∧ (found.map (·.id) ++ todo).Nodup
  | .working found flagged session =>
    (∀ d ∈ found, held d.id) ∧ LoopDone rows found flagged session

variable {held : Uuid → Prop}

theorem LedgerLocal.Inv.good (h : k.Inv rows held) {rows' : List DecisionEvent}
    (wrote : commitLedger k rows = some rows') : GoodCommit rows k := by
  cases k with
  | moved call decision now =>
    obtain ⟨id, locked, allowed⟩ := h
    refine ⟨?_, allowed⟩
    rw [← id]
    exact locked.current
  | working found flagged session => exact h.2
  | ticking _ _ => exact trivial
  | calling _ => cases wrote
  | fetched _ _ => cases wrote
  | scanning _ _ _ _ => cases wrote

/-- A transaction reports on rows it has locked. -/
theorem LedgerLocal.Inv.reported (h : k.Inv rows held) {id : Uuid} (reported : k.reports id = true) :
    held id := by
  cases k with
  | moved call decision now =>
    have same : call.decisionId = id := of_decide_eq_true reported
    rw [← same, ← h.1]
    exact h.2.1.held
  | working found flagged session =>
    obtain ⟨locked, done⟩ := h
    obtain ⟨decision, mem, rfl⟩ := List.mem_map.1 (of_decide_eq_true reported)
    obtain ⟨asOf, old, rfl⟩ := done.goneStale
    obtain ⟨d, read, rfl⟩ := List.mem_map.1 mem
    exact locked d (List.mem_filter.1 read).1
  | ticking _ _ => cases reported
  | calling _ => cases reported
  | fetched _ _ => cases reported
  | scanning _ _ _ _ => cases reported

/-- What a transaction has read stays while the rows it holds do. -/
theorem LedgerLocal.Inv.mono {rows' : List DecisionEvent} {held' : Uuid → Prop} (h : k.Inv rows held)
    (more : ∀ id, held id → held' id)
    (stays : ∀ d : DecisionEvent, held d.id → lookup (·.id) d.id rows = some d →
      lookup (·.id) d.id rows' = some d) : k.Inv rows' held' := by
  have kept : ∀ d, Locked rows held d → Locked rows' held' d := fun d locked =>
    ⟨more _ locked.held, stays d locked.held locked.current⟩
  cases k with
  | fetched call decision => exact ⟨h.1, kept _ h.2⟩
  | moved call decision now => exact ⟨h.1, kept _ h.2.1, h.2.2⟩
  | scanning asOf afterDays todo found => exact ⟨fun d mem => ⟨kept d (h.1 d mem).1, (h.1 d mem).2⟩, h.2⟩
  | working found flagged session =>
    obtain ⟨locked, done⟩ := h
    exact ⟨fun d mem => more _ (locked d mem),
      { done with current := fun d mem => stays d (locked d mem) (done.current d mem) }⟩
  | calling _ => exact trivial
  | ticking _ _ => exact trivial

theorem dirty_self (found : List DecisionEvent) : dirty found found = [] :=
  List.filter_eq_nil_iff.2 fun d mem => by simpa using mem

/-- The loop of `flag_stale` over locked rows. -/
theorem loopDone_of_scan {found : List DecisionEvent} (asOf : Instant) (afterDays : ℤ)
    (locked : ∀ d ∈ found, Locked rows held d ∧ staleCandidate d = true) (distinct : Keyed (·.id) found) :
    (LedgerLocal.afterLoop found (found.foldlM (flagDecision asOf afterDays) [] found)).Inv rows held := by
  have candidates : ∀ d ∈ found, staleCandidate d = true := fun d mem => (locked d mem).2
  have current : ∀ d ∈ found, lookup (·.id) d.id rows = some d := fun d mem => (locked d mem).1.current
  have held' : ∀ d ∈ found, held d.id := fun d mem => (locked d mem).1.held
  cases days : timedeltaDays afterDays with
  | none =>
    rcases flagLoop_overflow asOf days found found with run | run <;> rw [run] <;>
      exact ⟨held', current, distinct, ⟨asOf, fun _ => false, by simp⟩, candidates, dirty_self found⟩
  | some period =>
    rw [flagLoop_eq asOf days distinct (fun d mem => ⟨mem, candidates d mem⟩) distinct,
      updateAll_eq_map (p := staleCandidate) (flagRow_id asOf period) distinct
        (.of_eq (List.filter_eq_self.2 candidates).symm)]
    refine ⟨held', current, distinct, ⟨asOf, _, rfl⟩, candidates, ?_⟩
    have rows : (found.map fun d => if staleCandidate d then flagRow asOf period d else d) =
        found.map (flagRow asOf period) :=
      List.map_congr_left fun d mem => if_pos (candidates d mem)
    rw [rows, dirty, List.filter_map]
    have touched : ∀ d ∈ found,
        ((fun d => decide (d ∉ found)) ∘ flagRow asOf period) d = decide (period ≤ asOf - d.proposedAt) := by
      intro d mem
      by_cases old : period ≤ asOf - d.proposedAt
      · have gone : staled asOf d ∉ found := fun there => by
          have candidate := candidates _ there
          simp [staleCandidate, staled] at candidate
        simp [flagRow, old, gone]
      · simp [flagRow, old, mem]
    rw [List.filter_congr touched]
    apply List.map_congr_left
    intro d mem
    exact if_pos (of_decide_eq_true (List.mem_filter.1 mem).2)

theorem LedgerLocal.Inv.exec {now : Instant} {lock : RowLock} {k' : LedgerLocal} {locks : List Uuid}
    (keyed : Keyed (·.id) rows) (h : k.Inv rows held) (ran : execLedger now lock k rows = some (k', locks)) :
    k'.Inv rows fun id => held id ∨ id ∈ locks := by
  have more : k.Inv rows fun id => held id ∨ id ∈ locks := h.mono (fun _ => .inl) fun _ _ => id
  cases k with
  | calling call =>
    simp only [execLedger, Option.map_eq_some_iff, Prod.mk.injEq] at ran
    obtain ⟨decision, found, rfl, rfl⟩ := ran
    have same : decision.id = call.decisionId := (lookup_mem found).2
    refine ⟨same, .inr ?_, ?_⟩
    · rw [same]
      exact List.mem_singleton_self _
    · rw [same]
      exact found
  | fetched call decision =>
    simp only [execLedger, applyTransition_eq] at ran
    split at ran
    · cases ran
    · rename_i moved applied
      cases ran
      refine ⟨more.1, more.2, ?_⟩
      by_contra refused
      rw [if_neg refused] at applied
      cases applied
  | ticking order afterDays =>
    cases ran
    exact ⟨fun _ mem => absurd mem List.not_mem_nil, loaded_nodup keyed order staleCandidate⟩
  | scanning asOf afterDays todo found =>
    cases todo with
    | nil =>
      cases ran
      refine loopDone_of_scan asOf afterDays more.1 ?_
      have distinct := more.2
      rwa [List.append_nil] at distinct
    | cons id todo =>
      have rest : (found.map (·.id) ++ todo).Nodup :=
        more.2.sublist (List.Sublist.append_left (List.sublist_cons_self id todo) _)
      cases lock with
      | taken =>
        cases ran
        exact ⟨more.1, rest⟩
      | free =>
        simp only [execLedger] at ran
        split at ran
        · rename_i decision read
          cases ran
          obtain ⟨here, candidate⟩ := Option.filter_eq_some_iff.1 read
          have same : decision.id = id := (lookup_mem here).2
          refine ⟨fun d mem => ?_, ?_⟩
          · rcases List.mem_append.1 mem with old | new
            · exact more.1 d old
            · rw [List.mem_singleton.1 new]
              refine ⟨⟨.inr ?_, ?_⟩, candidate⟩
              · rw [same]
                exact List.mem_singleton_self id
              · rw [same]
                exact here
          · rw [List.map_append, List.append_assoc]
            show (found.map (·.id) ++ decision.id :: todo).Nodup
            rw [same]
            exact more.2
        · cases ran
          exact ⟨more.1, rest⟩
  | moved _ _ _ => cases ran
  | working _ _ _ => cases ran

/-- A scan that finds its rows free reads them as they are committed. -/
theorem scan_free (now asOf : Instant) (afterDays : ℤ) (keyed : Keyed (·.id) rows) {d : DecisionEvent}
    (mem : d ∈ rows) (candidate : staleCandidate d = true) (todo : List Uuid) (found : List DecisionEvent) :
    execLedger now .free (.scanning asOf afterDays (d.id :: todo) found) rows =
      some (.scanning asOf afterDays todo (found ++ [d]), [d.id]) := by
  simp only [execLedger, lookup_of_mem keyed mem, Option.filter_some, candidate, if_true]

/-- With every row of its WHERE clause found, the commit is that of `flag_stale`. -/
theorem flagStale_alone (asOf : Instant) (afterDays : ℤ) (order : RowOrder DecisionEvent)
    (keyed : Keyed (·.id) rows) {found : List DecisionEvent}
    (all : found = order.rows (rows.filter staleCandidate)) :
    commitLedger (.afterLoop found (found.foldlM (flagDecision asOf afterDays) [] found)) rows =
      some (endState (flagStale order asOf afterDays rows)) := by
  have mem : ∀ d, d ∈ found ↔ d ∈ rows ∧ staleCandidate d = true := by
    intro d
    rw [all, order.mem_rows, List.mem_filter]
  have distinct : Keyed (·.id) found := all ▸ loaded_nodup keyed order staleCandidate
  have locked : ∀ d ∈ found, Locked rows (fun _ => True) d ∧ staleCandidate d = true := fun d read =>
    ⟨⟨trivial, lookup_of_mem keyed ((mem d).1 read).1⟩, ((mem d).1 read).2⟩
  have done := loopDone_of_scan asOf afterDays locked distinct
  cases days : timedeltaDays afterDays with
  | none =>
    have alone : endState (flagStale order asOf afterDays rows) = rows := by
      rcases flagStale_overflow asOf days order rows with run | run <;> rw [run] <;> rfl
    rw [alone]
    rcases flagLoop_overflow asOf days found found with run | run <;> rw [run] <;>
      simp only [LedgerLocal.afterLoop, commitLedger, dirty_self] <;> rfl
  | some period =>
    obtain ⟨flagged, run⟩ := flagStale_eq asOf days order keyed
    have loop := flagLoop_eq asOf days distinct (fun d read => ⟨read, ((mem d).1 read).2⟩) distinct
    rw [loop] at done ⊢
    rw [run, endState_ok, LedgerLocal.afterLoop, done.2.commit_eq]
    congr 1
    apply List.map_congr_left
    intro d memRows
    by_cases goes : staleCandidate d = true ∧ period ≤ asOf - d.proposedAt
    · have read : staled asOf d ∈
          (found.filter fun d => decide (period ≤ asOf - d.proposedAt)).map (staled asOf) :=
        List.mem_map_of_mem (List.mem_filter.2 ⟨(mem d).2 ⟨memRows, goes.1⟩, decide_eq_true goes.2⟩)
      have named := lookup_of_mem done.2.keyed_flagged read
      rw [if_pos goes.1, flagRow, if_pos goes.2]
      rw [lookup] at named
      rw [show (staled asOf d).id = d.id from rfl] at named
      rw [named]
      rfl
    · have unnamed : ((found.filter fun d => decide (period ≤ asOf - d.proposedAt)).map (staled asOf)).find?
          (·.id = d.id) = none := by
        rw [List.find?_eq_none]
        intro e memE same
        obtain ⟨d', memD, rfl⟩ := List.mem_map.1 memE
        obtain ⟨read, old⟩ := List.mem_filter.1 memD
        obtain ⟨memRows', candidate⟩ := (mem d').1 read
        have eq : d' = d := List.inj_on_of_nodup_map keyed memRows' memRows (of_decide_eq_true same)
        exact goes (eq ▸ ⟨candidate, of_decide_eq_true old⟩)
      rw [unnamed]
      have stays : (if staleCandidate d then flagRow asOf period d else d) = d := by
        by_cases candidate : staleCandidate d = true
        · rw [if_pos candidate, flagRow, if_neg fun old => goes ⟨candidate, old⟩]
        · rw [if_neg candidate]
      rw [stays]
      rfl

/-- The runs of the ledger are runs of its transactions. -/
theorem reach_system {rows : List DecisionEvent} {s : LockTx.State (List DecisionEvent) Uuid LedgerLocal}
    (h : (ledgerTransactions rows).Reachable s) :
    (system ledgerProtocol (fun _ k => k.begins) (· = rows)).Reach (CommitsMeet fun _ _ => True) s := by
  induction h with
  | start init => exact .start init
  | next _ _ step ih => exact ih.next (fun _ _ _ _ => trivial) step.2

theorem run_of_reachable {s : LockTx.State (List DecisionEvent) Uuid LedgerLocal}
    (keyed : Keyed (·.id) rows) (h : (ledgerTransactions rows).Reachable s) :
    s.store = committedAfter rows s.commits ∧ GoodRun rows s.commits := by
  have invariant := LockTx.invariant (P := ledgerProtocol)
    (I := fun store commits => Keyed (·.id) store ∧ store = committedAfter rows commits ∧
      GoodRun rows commits)
    (K := fun store held k => k.Inv store held) ?_ ?_ ?_ ?_ ?_ (reach_system h)
  · exact invariant.1.2
  · rintro store rfl
    exact ⟨keyed, rfl, trivial⟩
  · intro store commits now k _ begins
    cases k with
    | calling _ => exact trivial
    | ticking _ _ => exact trivial
    | _ => exact begins.elim
  · intro store commits held now lock k k' locks inv hk ran
    exact hk.exec inv.1 ran
  · intro store commits held t k store' inv hk _ wrote
    have good := hk.good wrote
    have same : afterCommit store (t, k) = store' := by
      rw [afterCommit, show commitLedger k store = some store' from wrote]
      rfl
    have keyed' : Keyed (·.id) (afterCommit store (t, k)) := by
      rw [Keyed, good.ids]
      exact inv.1
    refine ⟨same ▸ keyed', ?_, inv.2.2.snoc (inv.2.1 ▸ good)⟩
    rw [committedAfter, List.foldl_append, ← same, inv.2.1]
    rfl
  · intro store commits held k store' held' k' _ hk _ wrote apart hk'
    have good := hk.good wrote
    have same : afterCommit store (0, k) = store' := by
      rw [afterCommit, show commitLedger k store = some store' from wrote]
      rfl
    refine hk'.mono (fun _ => id) fun d mine here => ?_
    have effect := good.effect here 0
    rw [same] at effect
    generalize lookup (·.id) d.id store' = after at effect
    cases effect with
    | kept _ => rfl
    | moved reported => exact absurd mine (apart d.id (hk.reported reported))

/-! ## Every run -/

/-- Nothing that follows a verdict is open again. -/
theorem isDecided_after {verdict : DecisionEventStatus} {statuses : List DecisionEventStatus}
    (path : (verdict :: statuses).IsChain fun a b => b ∈ allowedTransitions a)
    (decided : verdict.isDecided = true) : ∀ t ∈ statuses, t.isDecided = true := by
  induction statuses generalizing verdict with
  | nil => exact fun _ mem => absurd mem List.not_mem_nil
  | cons next statuses ih =>
    obtain ⟨allowed, rest⟩ := List.isChain_cons_cons.1 path
    have later : next.isDecided = true := by
      revert allowed decided
      cases verdict <;> cases next <;> decide
    intro t mem
    rcases List.mem_cons.1 mem with rfl | mem
    · exact later
    · exact ih rest later t mem

theorem Fresh.lookup (h : Fresh rows) {d : DecisionEvent} (mem : d ∈ rows) :
    lookup (·.id) d.id rows = some d := lookup_of_mem h.keyed mem

/-- The trail of a decision starts where it was proposed. -/
theorem Fresh.trail_eq (h : Fresh rows) {d : DecisionEvent} (mem : d ∈ rows)
    (commits : List (ℕ × LedgerLocal)) : trail d.id rows commits = d.status :: changes d.id rows commits := by
  rw [trail, statusOf, h.lookup mem]
  rfl

/-- Whatever transitions and ticks run at the same time on proposed decisions, they are serialised. -/
theorem transitions_serialised (fresh : Fresh rows)
    {s : LockTx.State (List DecisionEvent) Uuid LedgerLocal}
    (reached : (ledgerTransactions rows).Reachable s) : Serialised rows s := by
  obtain ⟨committed, run⟩ := run_of_reachable fresh.keyed reached
  have split : ∀ before c after, s.commits = before ++ c :: after →
      GoodCommit (committedAfter rows before) c.2 ∧ Keyed (·.id) (committedAfter rows before) := by
    rintro before c after eq
    rw [eq] at run
    refine ⟨run.split, ?_⟩
    rw [Keyed, run.initial.ids]
    exact fresh.keyed
  constructor
  · exact committed
  · intro d mem
    obtain ⟨d', last, -, trailed⟩ := run.trailed (fresh.lookup mem)
    rw [fresh.trail_eq mem, committed]
    refine ⟨trailed.path, ?_, ?_⟩
    · rw [(fresh.proposed d mem).status]
      rfl
    · rw [trailed.last, statusOf, last]
      rfl
  · intro d mem
    obtain ⟨_, -, edges, -⟩ := run.trailed (fresh.lookup mem)
    exact edges
  · intro before c after eq d read
    obtain ⟨good, -⟩ := split before c after eq
    exact good.current read
  · intro before c after eq d mem
    obtain ⟨good, keyed⟩ := split before c after eq
    obtain ⟨d', there, effect⟩ := good.row_after (lookup_of_mem keyed mem)
    cases effect with
    | kept _ => exact .inr (lookup_mem there).1
    | moved reported read => exact .inl ⟨reported, read⟩
  · intro d mem before verdict after eq either stale
    obtain ⟨_, -, -, trailed⟩ := run.trailed (fresh.lookup mem)
    have path := trailed.path
    rw [← fresh.trail_eq mem, eq] at path
    have decided : verdict.isDecided = true := by
      rcases either with rfl | rfl <;> rfl
    cases isDecided_after path.right_of_append decided _ stale
  · intro d mem
    have keyed : Keyed (·.id) s.store := by
      rw [Keyed, committed, run.ids]
      exact fresh.keyed
    have known : d.id ∈ rows.map (·.id) := by
      rw [← run.ids, ← committed]
      exact List.mem_map_of_mem mem
    obtain ⟨d₀, mem₀, same⟩ := List.mem_map.1 known
    obtain ⟨d', last, -, trailed⟩ := run.trailed (fresh.lookup mem₀)
    rw [same, ← committed, lookup_of_mem keyed mem] at last
    obtain rfl := Option.some.inj last
    have proposed := fresh.proposed d₀ mem₀
    rw [← same, fresh.trail_eq mem₀, trailed.flag, proposed.staleFlaggedAt, proposed.status]
    simp

/-! ## A tick between an acceptance and a rejection -/

/-- An action of a run that is checked as it goes. -/
def LedgerAllowed (s : LockTx.State (List DecisionEvent) Uuid LedgerLocal)
    (a : LockTx.Action LedgerLocal RowLock) : Bool :=
  match a with
  | .begin _ _ (.calling _) => true
  | .begin _ _ (.ticking _ _) => true
  | .begin .. => false
  | .exec t _ .taken =>
    match s.phase t with
    | .running (.scanning _ _ (id :: _) _) => decide (s.owner id ≠ none ∧ s.owner id ≠ some t)
    | _ => true
  | _ => true

def ledgerStep (s : LockTx.State (List DecisionEvent) Uuid LedgerLocal)
    (a : LockTx.Action LedgerLocal RowLock) : Option (LockTx.State (List DecisionEvent) Uuid LedgerLocal) :=
  if LedgerAllowed s a then step ledgerProtocol s a else none

theorem ledgerStep_sound (rows : List DecisionEvent)
    {s s' : LockTx.State (List DecisionEvent) Uuid LedgerLocal} {a : LockTx.Action LedgerLocal RowLock}
    (h : ledgerStep s a = some s') : (ledgerTransactions rows).step s a s' := by
  rw [ledgerStep] at h
  split at h
  · rename_i allowed
    refine ⟨?_, ?_, h⟩
    · cases a with
      | exec t now lock =>
        cases lock with
        | free => exact trivial
        | taken =>
          simp only [LedgerAllowed] at allowed
          simp only [SkipsLocked]
          split
          · rename_i asOf afterDays id todo found running
            rw [running] at allowed
            exact of_decide_eq_true allowed
          · exact trivial
      | _ => exact trivial
    · rintro t now k rfl
      cases k with
      | calling _ => exact trivial
      | ticking _ _ => exact trivial
      | _ => cases allowed
  · cases h

/-- Two proposals. -/
def twoDecisions : List DecisionEvent := ledgerAfter [
  ⟨1, .proposeDecision 1 .supplier "SUP-042" "Switch" "" .decision none none none⟩,
  ⟨2, .proposeDecision 2 .product "SKU-100" "Hold" "" .decision none none none⟩]

/-- The tick finds the first decision locked, and is waited for with the second one. -/
def tickBetween : List (LockTx.Action LedgerLocal RowLock) := [
  .begin 0 3 (.ticking .inserted 0),
  .begin 1 3 (.calling (.acceptDecision 1 "builder" none)),
  .exec 1 3 .free,
  .exec 0 4 .free,
  .exec 0 4 .taken,
  .exec 0 4 .free,
  .exec 0 4 .free,
  .exec 1 5 .free,
  .commit 1,
  .begin 2 6 (.calling (.rejectDecision 2 "builder")),
  .commit 0,
  .exec 2 7 .free,
  .exec 2 7 .free,
  .commit 2]

theorem fresh_twoDecisions : Fresh twoDecisions := by
  have keyed : (twoDecisions.map (·.id)).Nodup := by decide
  refine ⟨keyed, fun d mem => ?_⟩
  have rows : d ∈ ledgerAfter _ := mem
  rcases List.mem_cons.1 rows with rfl | rows
  · exact ⟨rfl, rfl, rfl, rfl, rfl, rfl, rfl, rfl⟩
  · rw [List.mem_singleton.1 rows]
    exact ⟨rfl, rfl, rfl, rfl, rfl, rfl, rfl, rfl⟩

/-- A tick flags one decision as stale while the other is accepted, and the stale one is rejected afterwards. -/
theorem transitions_serialised_twoDecisions :
    ∃ s, Serialised twoDecisions s ∧ trail 1 twoDecisions s.commits = [.proposed, .accepted] ∧
      trail 2 twoDecisions s.commits = [.proposed, .stale, .rejected] := by
  have ran : ((tickBetween.foldlM (fun s a => if True then ledgerStep s a else none)
      (State.start twoDecisions 0)).map fun s =>
        (trail 1 twoDecisions s.commits, trail 2 twoDecisions s.commits)) =
      some ([.proposed, .accepted], [.proposed, .stale, .rejected]) := by decide +kernel
  obtain ⟨s, last, trails⟩ := Option.map_eq_some_iff.1 ran
  have start : (ledgerTransactions twoDecisions).Reachable (State.start twoDecisions 0) :=
    .start ⟨twoDecisions, 0, rfl, rfl⟩
  have reached : (ledgerTransactions twoDecisions).Reachable s :=
    start.checked (fun _ _ _ h => ledgerStep_sound twoDecisions h) last
  exact ⟨s, transitions_serialised fresh_twoDecisions reached, congrArg Prod.fst trails,
    congrArg Prod.snd trails⟩

end MeadowOps.Ledger
