import MeadowOps.Ledger.Decisions
import MeadowOps.Lib.Permuted
import MeadowOps.Lib.Relational

/-!
# The timeline of a decision

`Move` lists what a call can do to a row, and `Evolves` what it can do to the table: every row that
was there is there, as it was or after one move that the call names, and every other row is new. The
timestamps of a row are tied to its status by an invariant of the moves (`Timeline`).
-/

namespace MeadowOps.Ledger

open Db Lib MeadowOps.Flow

/-! ## What a call can do -/

def DecisionEventStatus.isOpen : DecisionEventStatus → Bool
  | .proposed | .clarificationRequested | .stale => true
  | _ => false

/-- Accepted or rejected, and whatever comes after. -/
def DecisionEventStatus.isDecided : DecisionEventStatus → Bool
  | .accepted | .rejected | .implemented | .partiallyImplemented | .outcomeObserved => true
  | _ => false

def DecisionEventStatus.isImplemented : DecisionEventStatus → Bool
  | .implemented | .partiallyImplemented | .outcomeObserved => true
  | _ => false

/-- One transition of a row, at `now`. -/
inductive Move (now : Instant) (d : DecisionEvent) : DecisionEvent → Prop where
  | asked (status : d.status = .proposed) : Move now d { d with status := .clarificationRequested }
  | answered (status : d.status = .clarificationRequested) : Move now d { d with status := .proposed }
  | decided (verdict : DecisionEventStatus) (decidedBy : String) (authority : Option ApprovalAuthority)
      (status : d.status.isOpen = true) (either : verdict = .accepted ∨ verdict = .rejected) :
      Move now d { d with
        status := verdict
        decidedAt := some now
        decidedBy := some decidedBy
        approvalAuthority := authority }
  | implemented (extent : DecisionEventStatus) (status : d.status = .accepted)
      (either : extent = .implemented ∨ extent = .partiallyImplemented) :
      Move now d { d with
        status := extent
        implementedAt := some now }
  | observed (outcome : DecisionOutcome) (notes : Option String)
      (status : d.status = .implemented ∨ d.status = .partiallyImplemented) :
      Move now d { d with
        status := .outcomeObserved
        outcome := some outcome
        outcomeNotes := notes
        outcomeRecordedAt := some now }
  | flagged (asOf : Instant) (candidate : staleCandidate d = true) :
      Move now d { d with
        status := .stale
        staleFlaggedAt := some asOf }

/-- The rows a call may change. -/
def Operation.Concerns : Operation → DecisionEvent → Prop
  | .proposeDecision .., _ => False
  | .requestClarification id, d => d.id = id
  | .resubmitDecision id, d => d.id = id
  | .acceptDecision id _ _, d => d.id = id
  | .rejectDecision id _, d => d.id = id
  | .markImplemented id, d => d.id = id
  | .markPartiallyImplemented id, d => d.id = id
  | .recordOutcome id _ _, d => d.id = id
  | .flagStale .., d => staleCandidate d = true

/-- A row as `propose_decision` writes it. -/
structure Proposed (now : Instant) (d : DecisionEvent) : Prop where
  status : d.status = .proposed
  proposedAt : d.proposedAt = now
  decidedAt : d.decidedAt = none
  decidedBy : d.decidedBy = none
  implementedAt : d.implementedAt = none
  outcome : d.outcome = none
  outcomeRecordedAt : d.outcomeRecordedAt = none
  staleFlaggedAt : d.staleFlaggedAt = none

structure Evolves (call : Call) (rows rows' : List DecisionEvent) : Prop where
  keyed : Keyed (·.id) rows'
  kept : ∀ d ∈ rows, ∃ d' ∈ rows', d'.id = d.id ∧
    (d' = d ∨ call.operation.Concerns d ∧ Move call.now d d')
  origin : ∀ d' ∈ rows', (∃ d ∈ rows, d'.id = d.id ∧
    (d' = d ∨ call.operation.Concerns d ∧ Move call.now d d')) ∨ Proposed call.now d'

theorem Evolves.same {call : Call} {rows : List DecisionEvent} (keyed : Keyed (·.id) rows) :
    Evolves call rows rows :=
  ⟨keyed, fun d mem => ⟨d, mem, rfl, .inl rfl⟩, fun d mem => .inl ⟨d, mem, rfl, .inl rfl⟩⟩

theorem Move.id_eq {now : Instant} {d d' : DecisionEvent} (h : Move now d d') : d'.id = d.id := by
  cases h <;> rfl

theorem Evolves.moved {call : Call} {rows : List DecisionEvent} (keyed : Keyed (·.id) rows)
    {d d' : DecisionEvent} (mem : d ∈ rows) (concerns : call.operation.Concerns d)
    (move : Move call.now d d') :
    Evolves call rows (Lib.modify (·.id) d'.id (fun _ => d') rows) := by
  rw [move.id_eq]
  refine ⟨keyed.modify fun _ _ => move.id_eq, fun s hs => ?_, fun s' hs' => ?_⟩
  · by_cases same : s.id = d.id
    · obtain rfl := List.inj_on_of_nodup_map keyed hs mem same
      exact ⟨d', mem_modify.2 ⟨s, hs, by simp⟩, move.id_eq, .inr ⟨concerns, move⟩⟩
    · exact ⟨s, mem_modify_of_ne hs same, rfl, .inl rfl⟩
  · obtain ⟨s, hs, rfl⟩ := mem_modify.1 hs'
    by_cases same : s.id = d.id
    · obtain rfl := List.inj_on_of_nodup_map keyed hs mem same
      rw [if_pos rfl]
      exact .inl ⟨s, hs, move.id_eq, .inr ⟨concerns, move⟩⟩
    · rw [if_neg same]
      exact .inl ⟨s, hs, rfl, .inl rfl⟩

theorem applyTransition_eq (d : DecisionEvent) (toStatus : DecisionEventStatus) :
    applyTransition d toStatus =
      if toStatus ∈ allowedTransitions d.status then .ok { d with status := toStatus }
      else .error ⟨d.status, toStatus⟩ := by
  unfold applyTransition validateTransition
  split_ifs <;> rfl

theorem transition_of_allowed {decisionId : Uuid} {toStatus : DecisionEventStatus}
    (stamp : DecisionEvent → DecisionEvent) {rows : List DecisionEvent} {d : DecisionEvent}
    (found : lookup (·.id) decisionId rows = some d) (allowed : toStatus ∈ allowedTransitions d.status) :
    transition decisionId toStatus stamp rows = .ok (stamp { d with status := toStatus })
      (Lib.modify (·.id) (stamp { d with status := toStatus }).id
        (fun _ => stamp { d with status := toStatus }) rows) := by
  simp [transition, bind, EStateM.bind, getDecision, found, applyTransition_eq, allowed, Lib.liftExcept,
    Pure.pure, EStateM.pure, flush]

/-- A transition raises and changes nothing, or moves its row along an allowed edge. -/
theorem transition_cases (decisionId : Uuid) (toStatus : DecisionEventStatus)
    (stamp : DecisionEvent → DecisionEvent) (rows : List DecisionEvent) :
    (∃ e, transition decisionId toStatus stamp rows = .error e rows) ∨
      ∃ d ∈ rows, d.id = decisionId ∧ toStatus ∈ allowedTransitions d.status ∧
        transition decisionId toStatus stamp rows = .ok (stamp { d with status := toStatus })
          (Lib.modify (·.id) (stamp { d with status := toStatus }).id
            (fun _ => stamp { d with status := toStatus }) rows) := by
  cases found : lookup (·.id) decisionId rows with
  | none =>
    left
    refine ⟨.decisionEventNotFound ("decision event " ++ uuidText decisionId ++ " not found"), ?_⟩
    simp [transition, bind, EStateM.bind, getDecision, found]
  | some d =>
    by_cases allowed : toStatus ∈ allowedTransitions d.status
    · obtain ⟨mem, same⟩ := lookup_mem found
      exact .inr ⟨d, mem, same, allowed, transition_of_allowed stamp found allowed⟩
    · left
      refine ⟨.decisionTransition (InvalidTransitionError.message ⟨d.status, toStatus⟩), ?_⟩
      simp only [transition, bind, EStateM.bind, getDecision, found, applyTransition_eq, if_neg allowed,
        Lib.liftExcept]
      rfl

/-! ## `flag_stale` -/

/-- A row that `flag_stale` finds and whose period is over. -/
def goesStale (asOf : Instant) (period : ℤ) (d : DecisionEvent) : Bool :=
  staleCandidate d && decide (period ≤ asOf - d.proposedAt)

def staled (asOf : Instant) (d : DecisionEvent) : DecisionEvent :=
  { d with
    status := .stale
    staleFlaggedAt := some asOf }

/-- The row after its iteration. -/
def flagRow (asOf : Instant) (period : ℤ) (d : DecisionEvent) : DecisionEvent :=
  if period ≤ asOf - d.proposedAt then staled asOf d else d

theorem flagRow_id (asOf : Instant) (period : ℤ) (d : DecisionEvent) :
    (flagRow asOf period d).id = d.id := by
  unfold flagRow
  split <;> rfl

theorem flagDecision_eq {asOf : Instant} {afterDays period : ℤ} (days : timedeltaDays afterDays = some period)
    {d : DecisionEvent} (candidate : staleCandidate d = true) {rows : List DecisionEvent}
    (keyed : Keyed (·.id) rows) (mem : d ∈ rows) (flagged : List DecisionEvent) :
    flagDecision asOf afterDays flagged d rows =
      .ok (flagged ++ if period ≤ asOf - d.proposedAt then [staled asOf d] else [])
        (Lib.modify (·.id) d.id (flagRow asOf period) rows) := by
  by_cases old : period ≤ asOf - d.proposedAt
  · have verdict : isDecisionStale d.proposedAt asOf afterDays = some true := by
      simp [isDecisionStale, days, old]
    have allowed : .stale ∈ allowedTransitions d.status := by
      rcases (of_decide_eq_true candidate).2 with status | status <;> rw [status] <;> decide
    have row : flagRow asOf period d = staled asOf d := if_pos old
    rw [if_pos old, ← keyed.modify_row mem (f := fun _ => staled asOf d) row.symm]
    simp only [flagDecision, verdict, applyTransition_eq, if_pos allowed, Lib.liftExcept]
    rfl
  · have verdict : isDecisionStale d.proposedAt asOf afterDays = some false := by
      simp [isDecisionStale, days, old]
    have row : flagRow asOf period d = d := if_neg old
    rw [if_neg old, keyed.modify_stays mem row, List.append_nil]
    simp only [flagDecision, verdict]
    rfl

/-- The loop of `flag_stale` over the rows it has found. -/
theorem flagLoop_eq (asOf : Instant) {afterDays period : ℤ} (days : timedeltaDays afterDays = some period)
    {found rows : List DecisionEvent} (keyed : Keyed (·.id) rows)
    (candidates : ∀ d ∈ found, d ∈ rows ∧ staleCandidate d = true) (distinct : (found.map (·.id)).Nodup) :
    (found.foldlM (flagDecision asOf afterDays) [] : Service (List DecisionEvent)) rows =
      .ok ((found.filter fun d => decide (period ≤ asOf - d.proposedAt)).map (staled asOf))
        (updateAll (·.id) (flagRow asOf period) found rows) := by
  refine (foldlM_outcome (l := found) (f := flagDecision asOf afterDays) (P := fun _ => True)
    (v := fun done => (done.filter fun d => decide (period ≤ asOf - d.proposedAt)).map (staled asOf))
    (s := fun done => updateAll (·.id) (flagRow asOf period) done rows)
    trivial (fun _ _ _ => trivial) ?_).eq_ok trivial
  intro done d rest split _
  have here := candidates d (by simp [split])
  have later : d.id ∉ done.map (·.id) := by
    rw [split, List.map_append, List.map_cons, List.nodup_append] at distinct
    exact fun taken => distinct.2.2 _ taken _ List.mem_cons_self rfl
  rw [flagDecision_eq days here.2 (keyed_updateAll (flagRow_id asOf period) keyed done)
    (mem_updateAll here.1 later), updateAll_append_singleton, List.filter_append, List.map_append]
  have one : ([d].filter fun d => decide (period ≤ asOf - d.proposedAt)).map (staled asOf) =
      if period ≤ asOf - d.proposedAt then [staled asOf d] else [] := by
    by_cases old : period ≤ asOf - d.proposedAt <;> simp [old]
  rw [one]
  exact .returned trivial

/-- The rows that are candidates and old enough go stale, all at once; the others stay. -/
theorem flagStale_eq (asOf : Instant) {afterDays period : ℤ} (days : timedeltaDays afterDays = some period)
    (order : RowOrder DecisionEvent) {rows : List DecisionEvent} (keyed : Keyed (·.id) rows) :
    ∃ flagged, flagStale order asOf afterDays rows =
      .ok flagged (rows.map fun d => if staleCandidate d then flagRow asOf period d else d) := by
  have candidates : ∀ d ∈ order.rows (rows.filter staleCandidate), d ∈ rows ∧ staleCandidate d = true := by
    intro d mem
    rwa [order.mem_rows, List.mem_filter] at mem
  have loop := flagLoop_eq asOf days keyed candidates (loaded_nodup keyed order staleCandidate)
  rw [updateAll_eq_map (flagRow_id asOf period) keyed (order.perm _)] at loop
  exact ⟨_, loop⟩

/-- Outside the range of `timedelta` the first of the rows raises. -/
theorem flagLoop_overflow (asOf : Instant) {afterDays : ℤ} (days : timedeltaDays afterDays = none)
    (found rows : List DecisionEvent) :
    (found.foldlM (flagDecision asOf afterDays) [] : Service (List DecisionEvent)) rows = .ok [] rows ∨
      (found.foldlM (flagDecision asOf afterDays) [] : Service (List DecisionEvent)) rows =
        .error .overflowError rows := by
  cases found with
  | nil => exact .inl rfl
  | cons d rest =>
    right
    have verdict : isDecisionStale d.proposedAt asOf afterDays = none := by
      simp [isDecisionStale, days]
    rw [List.foldlM_cons]
    show EStateM.bind (flagDecision asOf afterDays [] d) _ rows = _
    simp only [EStateM.bind, flagDecision, verdict]
    rfl

theorem flagStale_overflow (asOf : Instant) {afterDays : ℤ} (days : timedeltaDays afterDays = none)
    (order : RowOrder DecisionEvent) (rows : List DecisionEvent) :
    flagStale order asOf afterDays rows = .ok [] rows ∨
      flagStale order asOf afterDays rows = .error .overflowError rows :=
  flagLoop_overflow asOf days (order.rows (rows.filter staleCandidate)) rows

theorem Evolves.flagged {call : Call} {order : RowOrder DecisionEvent} {asOf : Instant} {afterDays : ℤ}
    (operation : call.operation = .flagStale order asOf afterDays) {rows : List DecisionEvent}
    (keyed : Keyed (·.id) rows) (period : ℤ) :
    Evolves call rows (rows.map fun d => if staleCandidate d then flagRow asOf period d else d) := by
  have row : ∀ d : DecisionEvent, (if staleCandidate d then flagRow asOf period d else d).id = d.id ∧
      ((if staleCandidate d then flagRow asOf period d else d) = d ∨ call.operation.Concerns d ∧
        Move call.now d (if staleCandidate d then flagRow asOf period d else d)) := by
    intro d
    rw [operation]
    by_cases candidate : staleCandidate d = true
    · rw [if_pos candidate, flagRow]
      split
      · exact ⟨rfl, .inr ⟨candidate, .flagged asOf candidate⟩⟩
      · exact ⟨rfl, .inl rfl⟩
    · rw [if_neg candidate]
      exact ⟨rfl, .inl rfl⟩
  refine ⟨?_, fun d mem => ⟨_, List.mem_map_of_mem mem, row d⟩, fun d' mem' => ?_⟩
  · rw [Keyed, List.map_map]
    exact (List.map_congr_left fun d _ => (row d).1).symm ▸ keyed
  · obtain ⟨d, mem, rfl⟩ := List.mem_map.1 mem'
    exact .inl ⟨d, mem, row d⟩

/-! ## Any call -/

theorem endState_discard {α : Type} (x : Service α) (rows : List DecisionEvent) :
    endState ((discard x : Service Unit) rows) = endState (x rows) := by
  show endState (EStateM.map _ x rows) = _
  unfold EStateM.map
  cases x rows <;> rfl

theorem transition_evolves {call : Call} {decisionId : Uuid} {toStatus : DecisionEventStatus}
    {stamp : DecisionEvent → DecisionEvent} {rows : List DecisionEvent} (keyed : Keyed (·.id) rows)
    (concerns : ∀ d : DecisionEvent, d.id = decisionId → call.operation.Concerns d)
    (move : ∀ d : DecisionEvent, toStatus ∈ allowedTransitions d.status →
      Move call.now d (stamp { d with status := toStatus })) :
    Evolves call rows (endState ((discard (transition decisionId toStatus stamp) : Service Unit) rows)) := by
  rw [endState_discard]
  rcases transition_cases decisionId toStatus stamp rows with ⟨e, raised⟩ | ⟨d, mem, same, allowed, moved⟩
  · rw [raised]
    exact .same keyed
  · rw [moved]
    exact .moved keyed mem (concerns d same) (move d allowed)

/-- The statuses an edge starts from. -/
theorem allowed_from {s t : DecisionEventStatus} (h : t ∈ allowedTransitions s) :
    match t with
    | .proposed => s = .clarificationRequested
    | .clarificationRequested => s = .proposed
    | .accepted | .rejected => s.isOpen = true
    | .implemented | .partiallyImplemented => s = .accepted
    | .outcomeObserved => s = .implemented ∨ s = .partiallyImplemented
    | .stale => s = .proposed ∨ s = .clarificationRequested := by
  revert h
  cases s <;> cases t <;> decide

theorem perform_evolves (call : Call) {rows : List DecisionEvent} (keyed : Keyed (·.id) rows) :
    Evolves call rows (endState (call.perform rows)) := by
  obtain ⟨now, operation⟩ := call
  cases operation with
  | proposeDecision id entityType entityId title summary recordType scenarioId authority supersedesId =>
    rw [Call.perform, endState_discard, proposeDecision]
    dsimp only
    split
    · split
      · exact .same keyed
      · rename_i rows' inserted
        obtain ⟨rfl, fresh⟩ := insert?_eq_some inserted
        refine ⟨keyed.append fresh, fun d mem => ⟨d, List.mem_append_left _ mem, rfl, .inl rfl⟩,
          fun d mem => ?_⟩
        rcases List.mem_append.1 mem with mem | mem
        · exact .inl ⟨d, mem, rfl, .inl rfl⟩
        · rw [List.mem_singleton.1 mem]
          exact .inr ⟨rfl, rfl, rfl, rfl, rfl, rfl, rfl, rfl⟩
    · exact .same keyed
  | requestClarification id =>
    exact transition_evolves keyed (fun _ same => same) fun d allowed => .asked (allowed_from allowed)
  | resubmitDecision id =>
    exact transition_evolves keyed (fun _ same => same) fun d allowed => .answered (allowed_from allowed)
  | acceptDecision id decidedBy authority =>
    exact transition_evolves keyed (fun _ same => same) fun d allowed =>
      .decided _ decidedBy _ (allowed_from allowed) (.inl rfl)
  | rejectDecision id decidedBy =>
    exact transition_evolves keyed (fun _ same => same) fun d allowed =>
      .decided _ decidedBy _ (allowed_from allowed) (.inr rfl)
  | markImplemented id =>
    exact transition_evolves keyed (fun _ same => same) fun d allowed =>
      .implemented _ (allowed_from allowed) (.inl rfl)
  | markPartiallyImplemented id =>
    exact transition_evolves keyed (fun _ same => same) fun d allowed =>
      .implemented _ (allowed_from allowed) (.inr rfl)
  | recordOutcome id outcome notes =>
    exact transition_evolves keyed (fun _ same => same) fun d allowed =>
      .observed outcome notes (allowed_from allowed)
  | flagStale order asOf afterDays =>
    rw [Call.perform, endState_discard]
    cases days : timedeltaDays afterDays with
    | none =>
      rcases flagStale_overflow asOf days order rows with run | run <;> rw [run] <;>
        exact .same keyed
    | some period =>
      obtain ⟨flagged, run⟩ := flagStale_eq asOf days order keyed
      rw [run]
      exact Evolves.flagged rfl keyed period

/-- A call that raises changes nothing. -/
theorem perform_raises (call : Call) {rows rows' : List DecisionEvent} {e : LedgerError}
    (keyed : Keyed (·.id) rows) (raised : call.perform rows = .error e rows') : rows' = rows := by
  have kept : ∀ x : Service DecisionEvent, (discard x : Service Unit) rows = .error e rows' →
      x rows = .error e rows' := by
    intro x h
    change EStateM.map _ x rows = _ at h
    unfold EStateM.map at h
    cases run : x rows with
    | ok a s =>
      rw [run] at h
      cases h
    | error e' s =>
      rw [run] at h
      cases h
      rfl
  have single : ∀ decisionId toStatus stamp,
      (discard (transition decisionId toStatus stamp) : Service Unit) rows = .error e rows' →
        rows' = rows := by
    intro decisionId toStatus stamp h
    have run := kept _ h
    rcases transition_cases decisionId toStatus stamp rows with ⟨e', same⟩ | ⟨d, -, -, -, moved⟩
    · rw [same] at run
      cases run
      rfl
    · rw [moved] at run
      cases run
  obtain ⟨now, operation⟩ := call
  cases operation with
  | proposeDecision id entityType entityId title summary recordType scenarioId authority supersedesId =>
    have run := kept _ raised
    rw [proposeDecision] at run
    dsimp only at run
    split at run
    · split at run
      · cases run
        rfl
      · cases run
    · cases run
      rfl
  | requestClarification id => exact single _ _ _ raised
  | resubmitDecision id => exact single _ _ _ raised
  | acceptDecision id decidedBy authority => exact single _ _ _ raised
  | rejectDecision id decidedBy => exact single _ _ _ raised
  | markImplemented id => exact single _ _ _ raised
  | markPartiallyImplemented id => exact single _ _ _ raised
  | recordOutcome id outcome notes => exact single _ _ _ raised
  | flagStale order asOf afterDays =>
    change EStateM.map _ (flagStale order asOf afterDays) rows = _ at raised
    unfold EStateM.map at raised
    cases days : timedeltaDays afterDays with
    | none =>
      rcases flagStale_overflow asOf days order rows with run | run <;> rw [run] at raised
      · cases raised
      · cases raised
        rfl
    | some period =>
      obtain ⟨flagged, run⟩ := flagStale_eq asOf days order keyed
      rw [run] at raised
      cases raised

/-! ## The invariant -/

/-- What is set is what the status says. -/
structure Timeline (d : DecisionEvent) : Prop where
  decidedAt : d.decidedAt.isSome = d.status.isDecided
  decidedBy : d.decidedBy.isSome = d.status.isDecided
  implementedAt : d.implementedAt.isSome = d.status.isImplemented
  outcome : d.outcome.isSome = decide (d.status = .outcomeObserved)
  outcomeRecordedAt : d.outcomeRecordedAt.isSome = decide (d.status = .outcomeObserved)

/-- Proposed, decided, implemented and observed in this order, and all by `last`. -/
structure InOrder (last : Instant) (d : DecisionEvent) : Prop where
  proposed : d.proposedAt ≤ last
  decided : ∀ t ∈ d.decidedAt, d.proposedAt ≤ t ∧ t ≤ last
  implemented : ∀ t ∈ d.implementedAt, (∀ s ∈ d.decidedAt, s ≤ t) ∧ t ≤ last
  observed : ∀ t ∈ d.outcomeRecordedAt, (∀ s ∈ d.implementedAt, s ≤ t) ∧ t ≤ last

/-- What is set in `d` is the same in `d'`. -/
structure StampsKept (d d' : DecisionEvent) : Prop where
  proposedAt : d'.proposedAt = d.proposedAt
  decidedAt : ∀ t ∈ d.decidedAt, d'.decidedAt = some t
  decidedBy : ∀ u ∈ d.decidedBy, d'.decidedBy = some u
  implementedAt : ∀ t ∈ d.implementedAt, d'.implementedAt = some t
  outcome : ∀ o ∈ d.outcome, d'.outcome = some o
  outcomeRecordedAt : ∀ t ∈ d.outcomeRecordedAt, d'.outcomeRecordedAt = some t

theorem StampsKept.refl (d : DecisionEvent) : StampsKept d d :=
  ⟨rfl, fun _ h => h, fun _ h => h, fun _ h => h, fun _ h => h, fun _ h => h⟩

theorem StampsKept.trans {d d' d'' : DecisionEvent} (h : StampsKept d d') (h' : StampsKept d' d'') :
    StampsKept d d'' :=
  ⟨h'.proposedAt.trans h.proposedAt, fun t ht => h'.decidedAt t (h.decidedAt t ht),
    fun u hu => h'.decidedBy u (h.decidedBy u hu), fun t ht => h'.implementedAt t (h.implementedAt t ht),
    fun o ho => h'.outcome o (h.outcome o ho),
    fun t ht => h'.outcomeRecordedAt t (h.outcomeRecordedAt t ht)⟩

theorem InOrder.mono {last last' : Instant} {d : DecisionEvent} (h : InOrder last d) (le : last ≤ last') :
    InOrder last' d :=
  ⟨h.proposed.trans le, fun t ht => ⟨(h.decided t ht).1, (h.decided t ht).2.trans le⟩,
    fun t ht => ⟨(h.implemented t ht).1, (h.implemented t ht).2.trans le⟩,
    fun t ht => ⟨(h.observed t ht).1, (h.observed t ht).2.trans le⟩⟩

theorem isDecided_of_isOpen {s : DecisionEventStatus} (h : s.isOpen = true) :
    s.isDecided = false ∧ s.isImplemented = false ∧ s ≠ .outcomeObserved := by
  revert h
  cases s <;> decide

section
variable {now : Instant} {d d' : DecisionEvent}

theorem Proposed.timeline (h : Proposed now d) : Timeline d := by
  constructor <;> simp [h.status, h.decidedAt, h.decidedBy, h.implementedAt, h.outcome,
    h.outcomeRecordedAt, DecisionEventStatus.isDecided, DecisionEventStatus.isImplemented]

theorem Proposed.inOrder (h : Proposed now d) : InOrder now d := by
  constructor <;> simp [h.proposedAt, h.decidedAt, h.implementedAt, h.outcomeRecordedAt]

theorem candidate_isOpen (h : staleCandidate d = true) : d.status.isOpen = true := by
  rcases (of_decide_eq_true h).2 with status | status <;> rw [status] <;> rfl

theorem Move.timeline (h : Move now d d') (hd : Timeline d) : Timeline d' := by
  obtain ⟨decidedAt, decidedBy, implementedAt, outcome, outcomeRecordedAt⟩ := hd
  cases h with
  | asked status =>
    rw [status] at decidedAt decidedBy implementedAt outcome outcomeRecordedAt
    exact ⟨decidedAt, decidedBy, implementedAt, outcome, outcomeRecordedAt⟩
  | answered status =>
    rw [status] at decidedAt decidedBy implementedAt outcome outcomeRecordedAt
    exact ⟨decidedAt, decidedBy, implementedAt, outcome, outcomeRecordedAt⟩
  | decided verdict by_ authority status either =>
    obtain ⟨-, notImplemented, notObserved⟩ := isDecided_of_isOpen status
    rw [notImplemented] at implementedAt
    rw [decide_eq_false notObserved] at outcome outcomeRecordedAt
    rcases either with rfl | rfl <;> exact ⟨rfl, rfl, implementedAt, outcome, outcomeRecordedAt⟩
  | implemented extent status either =>
    rw [status] at decidedAt decidedBy outcome outcomeRecordedAt
    rcases either with rfl | rfl <;> exact ⟨decidedAt, decidedBy, rfl, outcome, outcomeRecordedAt⟩
  | observed result notes status =>
    rcases status with status | status <;> rw [status] at decidedAt decidedBy implementedAt <;>
      exact ⟨decidedAt, decidedBy, implementedAt, rfl, rfl⟩
  | flagged asOf candidate =>
    obtain ⟨notDecided, notImplemented, notObserved⟩ := isDecided_of_isOpen (candidate_isOpen candidate)
    rw [notDecided] at decidedAt decidedBy
    rw [notImplemented] at implementedAt
    rw [decide_eq_false notObserved] at outcome outcomeRecordedAt
    exact ⟨decidedAt, decidedBy, implementedAt, outcome, outcomeRecordedAt⟩

/-- Nothing that is set is set again: the status that sets it is left behind. -/
theorem Move.stampsKept (h : Move now d d') (hd : Timeline d) : StampsKept d d' := by
  have kept := StampsKept.refl d
  cases h with
  | asked => exact { kept with }
  | answered => exact { kept with }
  | decided verdict by_ authority status either =>
    have undecided := (isDecided_of_isOpen status).1
    refine { kept with decidedAt := fun t ht => ?_, decidedBy := fun u hu => ?_ }
    · have unset := hd.decidedAt
      rw [undecided, Option.mem_def.1 ht] at unset
      cases unset
    · have unset := hd.decidedBy
      rw [undecided, Option.mem_def.1 hu] at unset
      cases unset
  | implemented extent status either =>
    refine { kept with implementedAt := fun t ht => ?_ }
    have unset := hd.implementedAt
    rw [status, Option.mem_def.1 ht] at unset
    cases unset
  | observed result notes status =>
    have unobserved : decide (d.status = .outcomeObserved) = false := by
      rcases status with status | status <;> rw [status] <;> rfl
    refine { kept with outcome := fun o ho => ?_, outcomeRecordedAt := fun t ht => ?_ }
    · have unset := hd.outcome
      rw [unobserved, Option.mem_def.1 ho] at unset
      cases unset
    · have unset := hd.outcomeRecordedAt
      rw [unobserved, Option.mem_def.1 ht] at unset
      cases unset
  | flagged => exact { kept with }

theorem Move.inOrder (h : Move now d d') (hd : Timeline d) (order : InOrder now d) : InOrder now d' := by
  cases h with
  | asked => exact { order with }
  | answered => exact { order with }
  | decided verdict by_ authority status either =>
    have unset := hd.implementedAt
    refine { order with decided := fun t ht => ?_, implemented := fun t ht => ?_ }
    · obtain rfl := Option.some.inj ht
      exact ⟨order.proposed, le_rfl⟩
    · have ht : d.implementedAt = some t := ht
      rw [(isDecided_of_isOpen status).2.1, ht] at unset
      cases unset
  | implemented extent status either =>
    have unset := hd.outcomeRecordedAt
    refine { order with implemented := fun t ht => ?_, observed := fun t ht => ?_ }
    · obtain rfl := Option.some.inj ht
      exact ⟨fun s hs => (order.decided s hs).2, le_rfl⟩
    · have ht : d.outcomeRecordedAt = some t := ht
      rw [status, ht] at unset
      cases unset
  | observed result notes status =>
    refine { order with observed := fun t ht => ?_ }
    obtain rfl := Option.some.inj ht
    exact ⟨fun s hs => (order.implemented s hs).2, le_rfl⟩
  | flagged => exact { order with }

end

/-! ## Sequences of calls -/

theorem ledgerAfter_timeline (calls : List Call) :
    Keyed (·.id) (ledgerAfter calls) ∧ ∀ d ∈ ledgerAfter calls, Timeline d := by
  induction calls using List.reverseRecOn with
  | nil => exact ⟨List.nodup_nil, fun _ mem => absurd mem List.not_mem_nil⟩
  | append_singleton calls call ih =>
    have step := perform_evolves call ih.1
    rw [ledgerAfter_append_singleton]
    refine ⟨step.keyed, fun d' mem' => ?_⟩
    rcases step.origin d' mem' with ⟨d, mem, -, rfl | ⟨-, move⟩⟩ | new
    · exact ih.2 d' mem
    · exact move.timeline (ih.2 d mem)
    · exact new.timeline

theorem ledgerAfter_inOrder {calls : List Call} (times : (calls.map Call.now).Pairwise (· ≤ ·))
    {last : Instant} (upto : ∀ call ∈ calls, call.now ≤ last) :
    ∀ d ∈ ledgerAfter calls, InOrder last d := by
  induction calls using List.reverseRecOn generalizing last with
  | nil => exact fun _ mem => absurd mem List.not_mem_nil
  | append_singleton calls call ih =>
    rw [List.map_append, List.pairwise_append] at times
    have before : ∀ d ∈ ledgerAfter calls, InOrder call.now d := ih times.1 fun c hc =>
      times.2.2 c.now (List.mem_map_of_mem hc) call.now (by simp)
    have invariant := ledgerAfter_timeline calls
    rw [ledgerAfter_append_singleton]
    intro d' mem'
    refine InOrder.mono ?_ (upto call (by simp))
    rcases (perform_evolves call invariant.1).origin d' mem' with ⟨d, mem, -, rfl | ⟨-, move⟩⟩ | new
    · exact before d' mem
    · exact move.inOrder (invariant.2 d mem) (before d mem)
    · exact new.inOrder

/-- Rows stay in the ledger, and what is set in them stays. -/
theorem ledgerAfter_kept (calls more : List Call) {d : DecisionEvent} (mem : d ∈ ledgerAfter calls) :
    ∃ d' ∈ ledgerAfter (calls ++ more), d'.id = d.id ∧ StampsKept d d' := by
  induction more using List.reverseRecOn with
  | nil =>
    rw [List.append_nil]
    exact ⟨d, mem, rfl, .refl d⟩
  | append_singleton more call ih =>
    obtain ⟨d₁, mem₁, same₁, kept₁⟩ := ih
    have invariant := ledgerAfter_timeline (calls ++ more)
    obtain ⟨d₂, mem₂, same₂, change⟩ := (perform_evolves call invariant.1).kept d₁ mem₁
    rw [← List.append_assoc, ledgerAfter_append_singleton]
    refine ⟨d₂, mem₂, same₂.trans same₁, ?_⟩
    rcases change with rfl | ⟨-, move⟩
    · exact kept₁
    · exact kept₁.trans (move.stampsKept (invariant.2 d₁ mem₁))

/-! ## Callbacks -/

/-- `found` is the `limit` most recently decided rows of `eligible`, the latest first; none is undecided. -/
structure MostRecentlyDecided (eligible : List DecisionEvent) (limit : ℤ) (found : List DecisionEvent) :
    Prop where
  decided : ∀ d ∈ found, d.decidedAt.isSome = true
  latestFirst : found.Pairwise fun d d' => ∀ t ∈ d.decidedAt, ∀ t' ∈ d'.decidedAt, t' ≤ t
  count : (found.length : ℤ) = min limit eligible.length
  rest : ∃ others, (found ++ others).Perm eligible ∧ ∀ d ∈ found, ∀ d' ∈ others,
    ∀ t ∈ d.decidedAt, ∀ t' ∈ d'.decidedAt, t' ≤ t

theorem decidedBefore_total : Std.Total DecidedBefore := by
  constructor
  intro a b
  unfold DecidedBefore
  cases a.decidedAt with
  | none => exact .inl trivial
  | some s =>
    cases b.decidedAt with
    | none => exact .inr trivial
    | some t => exact le_total t s

theorem decidedBefore_trans : IsTrans DecisionEvent DecidedBefore := by
  constructor
  intro a b c h h'
  unfold DecidedBefore at h h' ⊢
  cases hb : b.decidedAt with
  | none =>
    rw [hb] at h
    cases ha : a.decidedAt with
    | none => trivial
    | some s =>
      rw [ha] at h
      exact h.elim
  | some t =>
    rw [hb] at h h'
    cases ha : a.decidedAt with
    | none => trivial
    | some s =>
      cases hc : c.decidedAt with
      | none =>
        rw [hc] at h'
        exact h'.elim
      | some u =>
        rw [ha] at h
        rw [hc] at h'
        exact le_trans h' h

theorem DecidedBefore.le {a b : DecisionEvent} (h : DecidedBefore a b) :
    ∀ t ∈ a.decidedAt, ∀ t' ∈ b.decidedAt, t' ≤ t := by
  intro t ht t' ht'
  unfold DecidedBefore at h
  rw [Option.mem_def.1 ht, Option.mem_def.1 ht'] at h
  exact h

theorem callbackEligible_isDecided {entityType : EntityType} {entityId : String} {d : DecisionEvent}
    (h : callbackEligible entityType entityId d = true) : d.status.isDecided = true := by
  have status := (of_decide_eq_true h).2.2.2
  revert status
  cases d.status <;> decide

theorem findCallbackCandidates_mostRecent {order : RowOrder DecisionEvent} {entityType : EntityType}
    {entityId : String} {limit : ℤ} {rows found : List DecisionEvent} (timeline : ∀ d ∈ rows, Timeline d)
    (run : findCallbackCandidates order entityType entityId limit rows = .ok found) :
    MostRecentlyDecided (rows.filter (callbackEligible entityType entityId)) limit found := by
  unfold findCallbackCandidates at run
  split at run <;> rename_i range
  · cases run
  dsimp only at run
  have total := decidedBefore_total
  have trans := decidedBefore_trans
  have sorted := List.pairwise_insertionSort DecidedBefore
    (order.rows (rows.filter (callbackEligible entityType entityId)))
  have perm := (List.perm_insertionSort DecidedBefore _).trans
    (order.perm (rows.filter (callbackEligible entityType entityId)))
  generalize (order.rows (rows.filter (callbackEligible entityType entityId))).insertionSort
    DecidedBefore = ranked at run sorted perm
  obtain rfl := Except.ok.inj run
  rw [← List.take_append_drop limit.toNat ranked, List.pairwise_append] at sorted
  refine ⟨fun d mem => ?_, sorted.1.imp DecidedBefore.le, ?_, ranked.drop limit.toNat, ?_,
    fun d hd d' hd' => (sorted.2.2 d hd d' hd').le⟩
  · have eligible := List.mem_filter.1 (perm.mem_iff.1 (List.mem_of_mem_take mem))
    rw [(timeline d eligible.1).decidedAt]
    exact callbackEligible_isDecided eligible.2
  · rw [List.length_take, perm.length_eq]
    omega
  · rw [List.take_append_drop]
    exact perm

/-! ## The ledger after any calls -/

/-- What holds of the ledger after `calls`, and of any call that follows. -/
structure LedgerTimeline (calls : List Call) : Prop where
  keyed : Keyed (·.id) (ledgerAfter calls)
  timeline : ∀ d ∈ ledgerAfter calls, Timeline d ∧ ∃ last, InOrder last d
  writtenOnce : ∀ more, ∀ d ∈ ledgerAfter calls, ∃ d' ∈ ledgerAfter (calls ++ more),
    d'.id = d.id ∧ StampsKept d d'
  ownOperations : ∀ call : Call, ∀ d ∈ ledgerAfter calls, ¬ call.operation.Concerns d →
    d ∈ ledgerAfter (calls ++ [call])
  raises : ∀ (call : Call) e rows, call.perform (ledgerAfter calls) = .error e rows → rows = ledgerAfter calls
  callbacks : ∀ order entityType entityId limit found,
    findCallbackCandidates order entityType entityId limit (ledgerAfter calls) = .ok found →
      MostRecentlyDecided ((ledgerAfter calls).filter (callbackEligible entityType entityId)) limit found

theorem exists_upto (calls : List Call) : ∃ last, ∀ call ∈ calls, call.now ≤ last := by
  induction calls with
  | nil => exact ⟨0, fun _ mem => absurd mem List.not_mem_nil⟩
  | cons call calls ih =>
    obtain ⟨last, upto⟩ := ih
    refine ⟨max call.now last, fun c mem => ?_⟩
    rcases List.mem_cons.1 mem with rfl | mem
    · exact le_max_left _ _
    · exact (upto c mem).trans (le_max_right _ _)

/-- Under a clock that does not run backwards, the dates of a decision tell its status, in order. -/
theorem decision_timeline (calls : List Call) (times : (calls.map Call.now).Pairwise (· ≤ ·)) :
    LedgerTimeline calls := by
  obtain ⟨keyed, timeline⟩ := ledgerAfter_timeline calls
  obtain ⟨last, upto⟩ := exists_upto calls
  refine ⟨keyed, fun d mem => ⟨timeline d mem, last, ledgerAfter_inOrder times upto d mem⟩,
    fun more d mem => ledgerAfter_kept calls more mem, fun call d mem other => ?_,
    fun call e rows raised => perform_raises call keyed raised,
    fun order entityType entityId limit found run => findCallbackCandidates_mostRecent timeline run⟩
  obtain ⟨d', mem', -, rfl | ⟨concerns, -⟩⟩ := (perform_evolves call keyed).kept d mem
  · rw [ledgerAfter_append_singleton]
    exact mem'
  · exact absurd concerns other

/-- Two proposals about a supplier, one of them accepted and implemented. -/
def supplierCalls : List Call := [
  ⟨1, .proposeDecision 1 .supplier "SUP-042" "Switch" "" .decision none none none⟩,
  ⟨2, .requestClarification 1⟩,
  ⟨3, .flagStale .inserted 4 0⟩,
  ⟨4, .acceptDecision 1 "builder" (some .manager)⟩,
  ⟨4, .proposeDecision 2 .supplier "SUP-042" "Switch back" "" .decision none none (some 1)⟩,
  ⟨5, .markImplemented 1⟩]

example : ((ledgerAfter supplierCalls).map fun d => (d.status, d.decidedAt, d.implementedAt)) =
    [(.implemented, some 4, some 5), (.proposed, none, none)] := by decide +kernel

/-- The decisions about a supplier have such a timeline. -/
theorem decision_timeline_supplierCalls : LedgerTimeline supplierCalls :=
  decision_timeline supplierCalls (by decide)

end MeadowOps.Ledger
