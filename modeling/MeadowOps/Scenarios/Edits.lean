import MeadowOps.Scenarios.Service

/-!
# Concurrent edits of a scenario package

A narrative, an expected query and a hand edit each set their own keys, and each writes the whole
`ground_truth` from the copy it read. An edit that commits in between is kept if and only if the
committing call meets `Current`; in a run of such commits the package is the initial one with the
edits applied in the order of the commits.
-/

namespace MeadowOps.Scenarios

open Db Lib

/-- The calls that edit the package. -/
def Call.IsEdit : Call → Prop
  | .updateGroundTruth _ | .regenerateNarrative _ | .regenerateExpectedQuery _ => True
  | _ => False

/-- The keys a call sets, with their values. -/
def Call.ownKeys : Call → GroundTruth
  | .updateGroundTruth updates => updates
  | .regenerateNarrative (some text) => Dict.ofList [("narrative", .string text)]
  | .regenerateExpectedQuery (some text) => Dict.ofList [("expected_query", .string text)]
  | _ => Dict.empty

/-- The package after a list of commits, each of which applies its own keys. -/
def applyEdits (initial : GroundTruth) (commits : List (Call × Scenario)) : GroundTruth :=
  commits.foldl (fun package commit => package.update commit.1.ownKeys) initial

/-- The values a call has for its own keys are those of its copy: it issues no UPDATE. -/
def WritesNothing (call : Call) (copy : Scenario) : Prop :=
  samePackage (copy.groundTruth.update call.ownKeys) copy.groundTruth = true

instance (call : Call) (copy : Scenario) : Decidable (WritesNothing call copy) :=
  inferInstanceAs (Decidable (_ = true))

/-- The copy of a committing call is current enough: it agrees with the committed row outside the
call's own keys; or the call issues no UPDATE, and the row has its values. -/
def Current (row : Scenario) (call : Call) (copy : Scenario) : Prop :=
  (WritesNothing call copy → ∀ key value, call.ownKeys.get? key = some value →
    row.groundTruth.get? key = some value) ∧
  (¬ WritesNothing call copy → ∀ key, call.ownKeys.get? key = none →
    row.groundTruth.get? key = copy.groundTruth.get? key)

/-- The interleavings of edits of a scenario. -/
def edits (initial : Scenario) : System (RowTx.State Scenario Call) (RowTx.Action Call) :=
  RowTx.system outcome Call.IsEdit (· = initial)

theorem service_edit {call : Call} (edit : call.IsEdit) {copy : Scenario} {assigned : Assigned}
    (ok : call.service copy = .ok assigned) :
    assigned = { groundTruth := some (copy.groundTruth.update call.ownKeys) } := by
  cases call with
  | updateGroundTruth updates =>
    simp only [Call.service, updateGroundTruth] at ok
    split at ok
    · cases ok
    · cases ok
      rfl
  | regenerateNarrative answer =>
    obtain ⟨text, rfl, eq⟩ := builderNote_ok ok
    exact eq
  | regenerateExpectedQuery answer =>
    obtain ⟨text, rfl, eq⟩ := builderNote_ok ok
    exact eq
  | regenerateScenario env => exact edit.elim
  | approveScenario now => exact edit.elim
  | activateScenario blocking now => exact edit.elim
  | cancelScenario => exact edit.elim

/-- The package after the commit of an edit. -/
theorem groundTruth_applied {call : Call} (edit : call.IsEdit) {copy : Scenario}
    (returned : outcome call copy ≠ .raises) (row : Scenario) :
    (RowTx.applied outcome call copy row).groundTruth =
      if WritesNothing call copy then row.groundTruth
      else copy.groundTruth.update call.ownKeys := by
  obtain ⟨assigned, ok⟩ := service_of_returned returned
  rw [applied_eq ok, service_edit edit ok, write_package]
  rfl

/-- A commit applies exactly its own keys to the committed package if and only if it is current. -/
theorem commit_applies_iff {call : Call} (edit : call.IsEdit) {copy : Scenario}
    (returned : outcome call copy ≠ .raises) (row : Scenario) :
    (∀ key, (RowTx.applied outcome call copy row).groundTruth.get? key =
      (row.groundTruth.update call.ownKeys).get? key) ↔ Current row call copy := by
  rw [groundTruth_applied edit returned]
  by_cases nothing : WritesNothing call copy
  · rw [if_pos nothing]
    constructor
    · intro same
      refine ⟨fun _ key value own => ?_, fun writes => absurd nothing writes⟩
      rw [same key, Dict.get?_update, own]
      rfl
    · intro current key
      rw [Dict.get?_update]
      cases own : call.ownKeys.get? key with
      | none => rfl
      | some value => exact current.1 nothing key value own
  · rw [if_neg nothing]
    constructor
    · intro same
      refine ⟨fun writes => absurd writes nothing, fun _ key own => ?_⟩
      have at_key := same key
      rw [Dict.get?_update, Dict.get?_update, own] at at_key
      exact at_key.symm
    · intro current key
      rw [Dict.get?_update, Dict.get?_update]
      cases own : call.ownKeys.get? key with
      | none => exact (current.2 nothing key own).symm
      | some value => rfl

/-- A call that no other transaction overlaps, and that has something to write. -/
theorem current_self {row : Scenario} {call : Call} (h : ¬ WritesNothing call row) :
    Current row call row :=
  ⟨fun nothing => absurd nothing h, fun _ _ _ => rfl⟩

/-- In every run whose commits are current, the package is the initial one with the keys of each
call applied in the order of the commits. -/
theorem edits_applied_in_order (initial : Scenario) {s : RowTx.State Scenario Call}
    (h : (edits initial).Reach (RowTx.CommitsMeet Current) s) (key : String) :
    s.row.groundTruth.get? key = (applyEdits initial.groundTruth s.commits).get? key := by
  have inv := RowTx.invariant
    (I := fun row commits => ∀ key, row.groundTruth.get? key =
      (applyEdits initial.groundTruth commits).get? key)
    (K := fun _ call _ => call.IsEdit) ?_ ?_ ?_ ?_ h
  · exact inv.1 key
  · rintro row rfl key
    rfl
  · intro row commits call _ edit
    exact edit
  · intro row commits call copy same edit current returned key
    have last : applyEdits initial.groundTruth (commits ++ [(call, copy)]) =
        (applyEdits initial.groundTruth commits).update call.ownKeys := List.foldl_append
    rw [(commit_applies_iff edit returned row).2 current key, last, Dict.get?_update,
      Dict.get?_update, same key]
  · intro row commits call copy call' copy' _ _ _ _ edit
    exact edit

/-- A draft with an empty package. -/
def emptyDraft : Scenario where
  id := 1
  scenarioType := .dataQualityIssue
  competencyCluster := .communication
  difficultyTier := .standard
  source := .exceptionFlag
  sourceExceptionFlagId := some 2
  groundTruth := Dict.empty
  status := .draft
  approvedAt := none
  activatedAt := none

def narrative (text : String) : Call := .regenerateNarrative (some text)

theorem narrative_writes (text : String) : ¬ WritesNothing (narrative text) emptyDraft ∧
    outcome (narrative text) emptyDraft ≠ .raises := by
  refine ⟨?_, nofun⟩
  rw [WritesNothing, Bool.not_eq_true]
  rfl

/-- Both texts are of the narrative: the copy of the second call agrees with the row on everything else. -/
theorem current_narrative (text text' : String) :
    Current (RowTx.applied outcome (narrative text) emptyDraft emptyDraft) (narrative text') emptyDraft := by
  refine ⟨fun nothing => absurd nothing (narrative_writes text').1, fun _ key other => ?_⟩
  have own : (narrative text).ownKeys.get? key = none := by
    cases found : (narrative text).ownKeys.get? key with
    | none => rfl
    | some value =>
      have mine : (narrative text').ownKeys.get? key = some (.string text') :=
        Dict.get?_ofList_singleton.2 ⟨(Dict.get?_ofList_singleton.1 found).1, rfl⟩
      rw [mine] at other
      cases other
  have edit : (narrative text).IsEdit := trivial
  rw [groundTruth_applied edit (narrative_writes text).2, if_neg (narrative_writes text).1, Dict.get?_update, own]
  rfl

/-- Two calls read the draft and write its narrative; the text that is committed last stays. -/
theorem edits_applied_in_order_overlapping :
    ∃ s, (edits emptyDraft).Reach (RowTx.CommitsMeet Current) s ∧ s.commits.length = 2 ∧
      (∀ key, s.row.groundTruth.get? key = (applyEdits emptyDraft.groundTruth s.commits).get? key) ∧
      s.row.groundTruth.get? "narrative" = some (.string "later") := by
  obtain ⟨s, reached, row, commits⟩ := RowTx.overlapping Call.IsEdit (· = emptyDraft) rfl (narrative "late")
    (narrative "later") ⟨trivial, trivial⟩ ⟨(narrative_writes _).2, (narrative_writes _).2⟩
    (current_self (narrative_writes _).1) (current_narrative _ _)
  have inOrder := edits_applied_in_order emptyDraft reached
  refine ⟨s, reached, by rw [commits]; rfl, inOrder, ?_⟩
  have own : (narrative "later").ownKeys.get? "narrative" = some (.string "later") :=
    Dict.get?_ofList_singleton.2 ⟨rfl, rfl⟩
  rw [inOrder, commits]
  show ((emptyDraft.groundTruth.update (narrative "late").ownKeys).update (narrative "later").ownKeys).get? _ = _
  rw [Dict.get?_update, own]
  rfl

/-- Two calls read the draft, and commit one after the other. -/
def overlappingNotes : List (RowTx.Action Call) :=
  [.read 0 (.regenerateNarrative (some "late")), .read 1 (.regenerateExpectedQuery (some "SELECT 1")),
    .flush 0, .commit 0, .flush 1, .commit 1]

/-- The query is committed last and takes the narrative away. -/
theorem narrative_lost :
    ¬ ∀ s, (edits emptyDraft).Reachable s → ∀ key, s.row.groundTruth.get? key =
      (applyEdits emptyDraft.groundTruth s.commits).get? key := by
  intro all
  have editsOnly : ∀ t call, .read t call ∈ overlappingNotes → call.IsEdit := by
    intro t call mem
    simp only [overlappingNotes, List.mem_cons, RowTx.Action.read.injEq, List.not_mem_nil,
      reduceCtorEq, or_false] at mem
    rcases mem with ⟨_, rfl⟩ | ⟨_, rfl⟩ <;> trivial
  have lost : (RowTx.run outcome (RowTx.State.start emptyDraft) overlappingNotes).any (fun s =>
      (s.row.groundTruth.get? "narrative").isNone &&
        ((applyEdits emptyDraft.groundTruth s.commits).get? "narrative").isSome) = true := by
    decide +kernel
  obtain ⟨s, ran, missing⟩ := (Option.any_eq_true _ _).1 lost
  have reached : (edits emptyDraft).Reachable s :=
    RowTx.run_reachable editsOnly (.start ⟨emptyDraft, rfl, rfl⟩) ran
  rw [all s reached, Bool.and_eq_true, Option.isNone_iff_eq_none] at missing
  rw [missing.1] at missing
  cases missing.2

end MeadowOps.Scenarios
