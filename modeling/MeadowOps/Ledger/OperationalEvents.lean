import MeadowOps.Ledger.Timeline

/-!
# Operational events in the ledger

Only decisions are to carry the lifecycle in `status`. `flag_stale` looks at `record_type`; the
transitions of a row that is fetched by its id do not, and the three of them that lead out of
`PROPOSED` give an operational event a lifecycle.
-/

namespace MeadowOps.Ledger

open Db Lib MeadowOps.Flow

/-- The row is as it was proposed. -/
structure NoLifecycle (d : DecisionEvent) : Prop where
  status : d.status = .proposed
  decidedAt : d.decidedAt = none
  implementedAt : d.implementedAt = none
  outcome : d.outcome = none
  staleFlaggedAt : d.staleFlaggedAt = none

/-- Operational events have no lifecycle. -/
def EventsUntouched (rows : List DecisionEvent) : Prop :=
  ∀ d ∈ rows, d.recordType = .operationalEvent → NoLifecycle d

/-- An operational event has this id. -/
def IsEvent (rows : List DecisionEvent) (id : Uuid) : Prop :=
  ∃ d ∈ rows, d.id = id ∧ d.recordType = .operationalEvent

/-- The call asks for clarification of an operational event, accepts it or rejects it. -/
def TransitionsEvent (rows : List DecisionEvent) (call : Call) : Prop :=
  match call.operation with
  | .requestClarification id | .acceptDecision id _ _ | .rejectDecision id _ => IsEvent rows id
  | _ => False

section
variable {rows : List DecisionEvent} {decisionId : Uuid} {toStatus : DecisionEventStatus}
  {stamp : DecisionEvent → DecisionEvent}

/-- A transition that does not lead out of `PROPOSED`, or is not one of an event. -/
theorem transition_untouched (untouched : EventsUntouched rows)
    (stamped : ∀ d, (stamp d).id = d.id ∧ (stamp d).recordType = d.recordType)
    (other : toStatus ∉ allowedTransitions .proposed ∨ ¬ IsEvent rows decisionId) :
    EventsUntouched (endState ((discard (transition decisionId toStatus stamp) : Service Unit) rows)) := by
  rw [endState_discard]
  rcases transition_cases decisionId toStatus stamp rows with ⟨e, raised⟩ | ⟨d, mem, same, allowed, moved⟩
  · rw [raised]
    exact untouched
  · have decision : d.recordType ≠ .operationalEvent := by
      intro event
      rcases other with blocked | noEvent
      · rw [(untouched d mem event).status] at allowed
        exact blocked allowed
      · exact noEvent ⟨d, mem, same, event⟩
    rw [moved]
    apply forall_modify untouched
    intro s _ _ event
    rw [(stamped _).2] at event
    exact absurd event decision

/-- A transition out of `PROPOSED` gives an event another status. -/
theorem transition_touches (keyed : Keyed (·.id) rows) (untouched : EventsUntouched rows)
    (stamped : ∀ d, (stamp d).id = d.id ∧ (stamp d).recordType = d.recordType ∧
      (stamp d).status = d.status)
    (leaves : toStatus ∈ allowedTransitions .proposed) (event : IsEvent rows decisionId) :
    ¬ EventsUntouched (endState ((discard (transition decisionId toStatus stamp) : Service Unit) rows)) := by
  obtain ⟨d, mem, rfl, type⟩ := event
  have status := (untouched d mem type).status
  intro after
  rw [endState_discard, transition_of_allowed stamp (lookup_of_mem keyed mem) (status ▸ leaves)] at after
  have row : stamp { d with status := toStatus } ∈ Lib.modify (·.id) (stamp { d with status := toStatus }).id
      (fun _ => stamp { d with status := toStatus }) rows :=
    mem_modify.2 ⟨d, mem, by simp [(stamped { d with status := toStatus }).1]⟩
  have same := (after _ row ((stamped _).2.1.trans type)).status
  rw [(stamped _).2.2] at same
  subst same
  exact absurd leaves (by decide)

end

theorem perform_untouched {rows : List DecisionEvent} (keyed : Keyed (·.id) rows)
    (untouched : EventsUntouched rows) {call : Call} (other : ¬ TransitionsEvent rows call) :
    EventsUntouched (endState (call.perform rows)) := by
  obtain ⟨now, operation⟩ := call
  have blocked : ∀ {toStatus : DecisionEventStatus}, toStatus ∉ allowedTransitions .proposed →
      ∀ {decisionId : Uuid}, toStatus ∉ allowedTransitions .proposed ∨ ¬ IsEvent rows decisionId :=
    fun h _ => .inl h
  cases operation with
  | proposeDecision id entityType entityId title summary recordType scenarioId authority supersedesId =>
    rw [Call.perform, endState_discard, proposeDecision]
    dsimp only
    split
    · split
      · exact untouched
      · rename_i rows' inserted
        obtain ⟨rfl, -⟩ := insert?_eq_some inserted
        intro d mem event
        rcases List.mem_append.1 mem with mem | mem
        · exact untouched d mem event
        · rw [List.mem_singleton.1 mem]
          exact ⟨rfl, rfl, rfl, rfl, rfl⟩
    · exact untouched
  | requestClarification id => exact transition_untouched untouched (fun _ => ⟨rfl, rfl⟩) (.inr other)
  | resubmitDecision id => exact transition_untouched untouched (fun _ => ⟨rfl, rfl⟩) (blocked (by decide))
  | acceptDecision id decidedBy authority =>
    exact transition_untouched untouched (fun _ => ⟨rfl, rfl⟩) (.inr other)
  | rejectDecision id decidedBy => exact transition_untouched untouched (fun _ => ⟨rfl, rfl⟩) (.inr other)
  | markImplemented id => exact transition_untouched untouched (fun _ => ⟨rfl, rfl⟩) (blocked (by decide))
  | markPartiallyImplemented id =>
    exact transition_untouched untouched (fun _ => ⟨rfl, rfl⟩) (blocked (by decide))
  | recordOutcome id outcome notes =>
    exact transition_untouched untouched (fun _ => ⟨rfl, rfl⟩) (blocked (by decide))
  | flagStale order asOf afterDays =>
    rw [Call.perform, endState_discard]
    cases days : timedeltaDays afterDays with
    | none =>
      rcases flagStale_overflow asOf days order rows with run | run <;> rw [run] <;>
        exact untouched
    | some period =>
      obtain ⟨flagged, run⟩ := flagStale_eq asOf days order keyed
      rw [run]
      -- a candidate is a decision, before and after
      intro d' mem' event
      obtain ⟨d, mem, rfl⟩ := List.mem_map.1 mem'
      by_cases candidate : staleCandidate d = true
      · rw [if_pos candidate, flagRow] at event
        have type := (of_decide_eq_true candidate).1
        split at event <;> exact absurd (event.symm.trans type) (by decide)
      · rw [if_neg candidate] at event ⊢
        exact untouched d mem event

theorem perform_touches {rows : List DecisionEvent} (keyed : Keyed (·.id) rows)
    (untouched : EventsUntouched rows) {call : Call} (event : TransitionsEvent rows call) :
    ¬ EventsUntouched (endState (call.perform rows)) := by
  obtain ⟨now, operation⟩ := call
  cases operation with
  | requestClarification id =>
    exact transition_touches keyed untouched (fun _ => ⟨rfl, rfl, rfl⟩) (by decide) event
  | acceptDecision id decidedBy authority =>
    exact transition_touches keyed untouched (fun _ => ⟨rfl, rfl, rfl⟩) (by decide) event
  | rejectDecision id decidedBy =>
    exact transition_touches keyed untouched (fun _ => ⟨rfl, rfl, rfl⟩) (by decide) event
  | _ => exact event.elim

/-- Operational events keep out of the lifecycle all along a sequence of calls exactly when none of
the calls asks for clarification of one, accepts it or rejects it. -/
theorem events_untouched_iff (calls : List Call) :
    (∀ before later, calls = before ++ later → EventsUntouched (ledgerAfter before)) ↔
      ∀ before call later, calls = before ++ call :: later →
        ¬ TransitionsEvent (ledgerAfter before) call := by
  constructor
  · rintro untouched before call later rfl event
    have after := untouched (before ++ [call]) later (by simp)
    rw [ledgerAfter_append_singleton] at after
    exact perform_touches (ledgerAfter_timeline before).1 (untouched before (call :: later) rfl) event after
  · intro others before
    induction before using List.reverseRecOn with
    | nil => exact fun _ _ _ mem => absurd mem List.not_mem_nil
    | append_singleton before call ih =>
      intro later split
      rw [List.append_assoc, List.singleton_append] at split
      rw [ledgerAfter_append_singleton]
      exact perform_untouched (ledgerAfter_timeline before).1 (ih _ split)
        (others before call later split)

/-- An operational event is recorded and then accepted. -/
def acceptedEvent : List Call := [
  ⟨1, .proposeDecision 1 .warehouse "WH-1" "Flood" "" .operationalEvent none none none⟩,
  ⟨2, .acceptDecision 1 "builder" none⟩]

/-- The event has left its status. -/
theorem event_accepted : ¬ ∀ calls, EventsUntouched (ledgerAfter calls) := by
  intro untouched
  have rows : ledgerAfter acceptedEvent = [⟨1, .operationalEvent, .accepted, none, .warehouse, "WH-1",
      "Flood", "", 1, none, some 2, some "builder", none, none, none, none, none, none⟩] := by
    decide +kernel
  have event := untouched acceptedEvent
  rw [rows] at event
  exact absurd (event _ List.mem_cons_self rfl).status (by decide)

end MeadowOps.Ledger
