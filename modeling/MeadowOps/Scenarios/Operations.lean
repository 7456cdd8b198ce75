import MeadowOps.Chat.Operations
import MeadowOps.Scenarios.Gate

/-!
# Scenario operations on the tables: `app/services/scenario_service.py`

A function on a scenario reads its row, and the flush writes the columns that it assigned. The operations
of the chat, which read the scenarios too, may come in between.
-/

namespace MeadowOps.Scenarios

open Db Lib Exceptions MeadowOps.Flow Chat

/-- A call of `create_scenario_from_exception_flag`, with the flags it finds and the generated id. -/
structure CreateCall where
  exceptionFlagId : Uuid
  scenarioType : ScenarioType
  competencyCluster : CompetencyCluster
  difficultyTier : DifficultyTier
  id : Uuid
  exceptionFlag : Uuid → Option ExceptionFlag

def newScenario (call : CreateCall) (flag : ExceptionFlag) (groundTruth : GroundTruth) : Scenario where
  id := call.id
  scenarioType := call.scenarioType
  competencyCluster := call.competencyCluster
  difficultyTier := call.difficultyTier
  source := .exceptionFlag
  sourceExceptionFlagId := some flag.id
  groundTruth := groundTruth
  status := .draft
  approvedAt := none
  activatedAt := none

def insertScenario (scenario : Scenario) : ChatTx Unit := do
  let store ← get
  match insert? Scenario.id scenario store.scenarios with
  | none => throw .integrity
  | some scenarios => set { store with scenarios := scenarios }

def createScenarioFromExceptionFlag (call : CreateCall) : ChatTx Unit :=
  match call.exceptionFlag call.exceptionFlagId with
  | none => throw (.scenario (.exceptionFlagNotFound
      ("exception flag " ++ uuidText call.exceptionFlagId ++ " not found")))
  | some flag => do
    let groundTruth ← liftExcept (fun e => .scenario (.exceptionFlagNotOpen e))
      (buildGroundTruthFromExceptionFlag (snapshotFromFlag flag))
    insertScenario (newScenario call flag groundTruth)

/-- One of the functions on its scenario, with the flush. -/
def onScenario (scenarioId : Uuid) (call : Call) : ChatTx Unit := do
  let store ← get
  match lookup Scenario.id scenarioId store.scenarios with
  | none => throw (.scenarioNotFound scenarioId)
  | some scenario =>
    let assigned ← liftExcept .scenario (call.service scenario)
    modify fun store =>
      { store with
        scenarios := Lib.modify Scenario.id scenarioId (assigned.changes scenario).write store.scenarios }

/-- `completed_thread_scenario_ids`. -/
def completedThreadScenarioIds (store : ChatStore) : List Uuid :=
  (store.threads.filter fun row => row.thread.status = .completed).map fun row => row.thread.scenarioId

/-- `blocking_scenario_id`: any row of the query. -/
def blockingScenarioId (order : RowOrder Scenario) (store : ChatStore) (scenarioId : Uuid) :
    Option Uuid :=
  ((order.rows (store.scenarios.filter fun s => decide (s.status = .active ∧ s.id ≠ scenarioId ∧
    s.id ∉ completedThreadScenarioIds store))).head?).map Scenario.id

/-- A live scenario on which no work is done yet. -/
def Blocks (store : ChatStore) (s : Scenario) : Prop :=
  s.status = .active ∧ s.id ∉ completedThreadScenarioIds store

/-- No other scenario stands in the way of this one. -/
def Unblocked (store : ChatStore) (scenarioId : Uuid) : Prop :=
  ∀ s ∈ store.scenarios, Blocks store s → s.id = scenarioId

theorem blockingScenarioId_eq_none {order : RowOrder Scenario} {store : ChatStore} {scenarioId : Uuid}
    (h : blockingScenarioId order store scenarioId = none) : Unblocked store scenarioId := by
  intro s mem blocks
  by_contra other
  rw [blockingScenarioId, Option.map_eq_none_iff, List.head?_eq_none_iff] at h
  have found : s ∈ order.rows (store.scenarios.filter fun s => decide (s.status = .active ∧
      s.id ≠ scenarioId ∧ s.id ∉ completedThreadScenarioIds store)) := by
    rw [RowOrder.mem_rows, List.mem_filter]
    exact ⟨mem, decide_eq_true ⟨blocks.1, other, blocks.2⟩⟩
  rw [h] at found
  exact absurd found List.not_mem_nil

def activateScenarioOf (scenarioId : Uuid) (order : RowOrder Scenario) (now : Instant) : ChatTx Unit := do
  let store ← get
  onScenario scenarioId (.activateScenario (blockingScenarioId order store scenarioId) now)

inductive ScenarioCall where
  | createScenarioFromExceptionFlag (call : CreateCall)
  | updateGroundTruth (scenarioId : Uuid) (updates : GroundTruth)
  | regenerateScenario (scenarioId : Uuid) (env : Regeneration)
  | regenerateNarrative (scenarioId : Uuid) (answer : Option String)
  | regenerateExpectedQuery (scenarioId : Uuid) (answer : Option String)
  | approveScenario (scenarioId : Uuid) (now : Instant)
  | activateScenario (scenarioId : Uuid) (order : RowOrder Scenario) (now : Instant)
  | cancelScenario (scenarioId : Uuid)

def ScenarioCall.perform : ScenarioCall → ChatTx Unit
  | .createScenarioFromExceptionFlag call => Scenarios.createScenarioFromExceptionFlag call
  | .updateGroundTruth scenarioId updates => onScenario scenarioId (.updateGroundTruth updates)
  | .regenerateScenario scenarioId env => onScenario scenarioId (.regenerateScenario env)
  | .regenerateNarrative scenarioId answer => onScenario scenarioId (.regenerateNarrative answer)
  | .regenerateExpectedQuery scenarioId answer => onScenario scenarioId (.regenerateExpectedQuery answer)
  | .approveScenario scenarioId now => onScenario scenarioId (.approveScenario now)
  | .activateScenario scenarioId order now => activateScenarioOf scenarioId order now
  | .cancelScenario scenarioId => cancelScenarioOf scenarioId

/-- A call of either service. -/
inductive ServiceCall where
  | scenario (call : ScenarioCall)
  | chat (operation : Operation) (now : Instant)

def ServiceCall.perform : ServiceCall → ChatTx Unit
  | .scenario call => call.perform
  | .chat operation now => operation.perform now

/-- Calls one after another. -/
def performCalls (calls : List ServiceCall) (store : ChatStore) : ChatStore :=
  calls.foldl (fun store call => endState (call.perform store)) store

/-! ## Calls that raise -/

theorem raisesClean_onScenario (scenarioId : Uuid) (call : Call) :
    RaisesClean (onScenario scenarioId call) := by
  refine readsOnly_get.bind_clean fun store => ?_
  split
  · exact .of_readsOnly (readsOnly_throw _)
  · exact (readsOnly_liftExcept _ _).bind_clean fun _ => .of_neverRaises (neverRaises_modify _)

theorem raisesClean_insertScenario (scenario : Scenario) : RaisesClean (insertScenario scenario) := by
  refine readsOnly_get.bind_clean fun store => ?_
  split
  · exact .of_readsOnly (readsOnly_throw _)
  · exact .of_neverRaises (neverRaises_modify fun _ => _)

/-- Every call checks before it writes. -/
theorem raisesClean_call (call : ServiceCall) : RaisesClean call.perform := by
  cases call with
  | chat operation now => exact raisesClean_perform now operation
  | scenario call =>
    cases call with
    | createScenarioFromExceptionFlag call =>
      show RaisesClean (createScenarioFromExceptionFlag call)
      unfold createScenarioFromExceptionFlag
      split
      · exact .of_readsOnly (readsOnly_throw _)
      · exact (readsOnly_liftExcept _ _).bind_clean fun _ => raisesClean_insertScenario _
    | activateScenario scenarioId order now =>
      exact readsOnly_get.bind_clean fun _ => raisesClean_onScenario _ _
    | cancelScenario scenarioId =>
      exact raisesClean_perform 0 (.cancelScenario scenarioId)
    | updateGroundTruth | regenerateScenario | regenerateNarrative | regenerateExpectedQuery
    | approveScenario => exact raisesClean_onScenario _ _

/-! ## One scenario -/

/-- What a call may do to the row of a scenario. `free` is what the activation has checked. -/
inductive RowStep (free : Prop) (s : Scenario) : Scenario → Prop
  | same : RowStep free s s
  | draft (package : GroundTruth) (was : s.status = .draft) :
      RowStep free s { s with groundTruth := package }
  | note (package : GroundTruth) (was : s.status ≠ .cancelled)
      (graded : SameGraded s.groundTruth package) : RowStep free s { s with groundTruth := package }
  | approve (now : Instant) (was : s.status = .draft) (valid : approvalErrors s = []) :
      RowStep free s { s with status := .approved, approvedAt := some now }
  | activate (now : Instant) (was : s.status = .approved) (checked : free) :
      RowStep free s { s with status := .active, activatedAt := some now }
  | cancel (was : s.status ≠ .cancelled) : RowStep free s { s with status := .cancelled }

section RowStep

variable {free : Prop} {s : Scenario}

/-- Updates of the notes leave the graded keys. -/
theorem sameGraded_of_notes {package updates : GroundTruth}
    (notes : ∀ e ∈ updates.items, e.1 ∈ builderNoteKeys) : SameGraded package (package.update updates) := by
  intro key graded
  have absent : updates.get? key = none := by
    rw [Dict.get?_eq_none_iff]
    intro mem
    obtain ⟨e, memE, rfl⟩ := List.mem_map.1 mem
    exact graded (notes e memE)
  rw [Dict.get?_update, absent]
  rfl

/-- The row after a package is assigned to the object. -/
theorem RowStep.of_package {package : GroundTruth}
    (step : RowStep free s { s with groundTruth := package }) :
    RowStep free s ((Assigned.changes { groundTruth := some package } s).write s) := by
  rw [write_package]
  split
  · exact .same
  · exact step

theorem rowStep_builderNote {key : String} (note : key ∈ builderNoteKeys) {answer : Option String}
    {assigned : Assigned} (ok : regenerateBuilderNote key s answer = .ok assigned) :
    RowStep free s ((assigned.changes s).write s) := by
  obtain ⟨_, guard, _⟩ := ok_of_bind ok
  obtain ⟨text, rfl, rfl⟩ := builderNote_ok ok
  have notCancelled : s.status ≠ .cancelled := by
    intro cancelled
    simp [scenarioForBuilderNote, cancelled] at guard
  refine .of_package (.note _ notCancelled (sameGraded_of_notes ?_))
  have one : (Dict.ofList [(key, Json.string text)]).items = [(key, Json.string text)] :=
    Dict.items_ofList (List.nodup_singleton key)
  intro e mem
  rw [one, List.mem_singleton] at mem
  rw [mem]
  exact note

theorem rowStep_of_service {call : Call} {assigned : Assigned}
    (checked : ∀ now, call = .activateScenario none now → free)
    (ok : call.service s = .ok assigned) : RowStep free s ((assigned.changes s).write s) := by
  cases call with
  | updateGroundTruth updates =>
    simp only [Call.service, updateGroundTruth] at ok
    split at ok
    · cases ok
    · rename_i allowed
      cases ok
      refine .of_package ?_
      by_cases was : s.status = .draft
      · exact .draft _ was
      · have notes : mayEditBuilderNotes s updates = true := by
          rw [← Bool.not_eq_false]
          exact fun refused => allowed ⟨was, refused⟩
        simp only [mayEditBuilderNotes, Bool.and_eq_true, decide_eq_true_eq, List.all_eq_true] at notes
        exact .note _ notes.1.1 (sameGraded_of_notes notes.2)
  | regenerateNarrative answer => exact rowStep_builderNote (by decide) ok
  | regenerateExpectedQuery answer => exact rowStep_builderNote (by decide) ok
  | regenerateScenario env =>
    obtain ⟨flag, source, ok⟩ := ok_of_bind ok
    obtain ⟨package, generated, ok⟩ := ok_of_bind ok
    cases ok
    refine .of_package (.draft _ ?_)
    unfold sourceFlag at source
    split at source
    · cases source
    · exact not_not.1 ‹_›
  | approveScenario now =>
    obtain ⟨_, transition, ok⟩ := ok_of_bind ok
    simp only at ok
    split at ok
    · rename_i valid
      cases ok
      have was := draft_of_approvable (requireTransition_ok transition)
      have row : (Assigned.changes { status := some .approved, approvedAt := some now } s).write s =
          { s with status := .approved, approvedAt := some now } := by
        by_cases now' : some now = s.approvedAt <;>
          simp [Assigned.changes, Assigned.write, Option.filter, was, now']
      rw [row]
      exact .approve now was (List.isEmpty_iff.1 valid)
    · cases ok
  | activateScenario blocking now =>
    obtain ⟨_, transition, ok⟩ := ok_of_bind ok
    cases blocking with
    | some other => cases ok
    | none =>
      cases ok
      have was := approved_of_activatable (requireTransition_ok transition)
      have row : (Assigned.changes { status := some .active, activatedAt := some now } s).write s =
          { s with status := .active, activatedAt := some now } := by
        by_cases now' : some now = s.activatedAt <;>
          simp [Assigned.changes, Assigned.write, Option.filter, was, now']
      rw [row]
      exact .activate now was (checked now rfl)
  | cancelScenario =>
    obtain ⟨_, transition, ok⟩ := ok_of_bind ok
    cases ok
    have was := not_cancelled_of_cancellable (requireTransition_ok transition)
    have row : (Assigned.changes { status := some .cancelled } s).write s =
        { s with status := .cancelled } := by
      simp [Assigned.changes, Assigned.write, Option.filter, was.symm]
    rw [row]
    exact .cancel was

end RowStep

/-! ## The table of scenarios -/

theorem onScenario_ok {scenarioId : Uuid} {call : Call} {store store' : ChatStore}
    (h : onScenario scenarioId call store = .ok () store') :
    ∃ s ∈ store.scenarios, s.id = scenarioId ∧ ∃ assigned, call.service s = .ok assigned ∧
      store' = { store with
        scenarios := Lib.modify Scenario.id s.id (assigned.changes s).write store.scenarios } := by
  obtain ⟨read, _, same, h⟩ := bind_eq_ok h
  cases same
  cases found : lookup Scenario.id scenarioId store.scenarios with
  | none =>
    rw [found] at h
    cases h
  | some s =>
    rw [found] at h
    obtain ⟨assigned, _, returned, h⟩ := bind_eq_ok h
    obtain ⟨ok, rfl⟩ := liftExcept_eq_ok returned
    cases h
    obtain ⟨mem, rfl⟩ := lookup_mem found
    exact ⟨s, mem, rfl, assigned, ok, rfl⟩

/-- The table of scenarios before and after a call, which activates only what is free. -/
abbrev ScenarioSteps (free : Uuid → Prop) : List Scenario → List Scenario → Prop :=
  RowSteps Scenario.id (fun s => RowStep (free s.id) s) (·.status = .draft)

theorem scenarioSteps_onScenario {free : Uuid → Prop} {scenarioId : Uuid} {call : Call}
    {store store' : ChatStore} (keyed : Keyed Scenario.id store.scenarios)
    (checked : ∀ now, call = .activateScenario none now → free scenarioId)
    (h : onScenario scenarioId call store = .ok () store') :
    ScenarioSteps free store.scenarios store'.scenarios := by
  obtain ⟨s, mem, rfl, assigned, ok, rfl⟩ := onScenario_ok h
  exact .modify (fun _ => .same) keyed mem (fun _ => rfl) (rowStep_of_service checked ok)

theorem scenarioSteps_cancel {free : Uuid → Prop} {scenarioId : Uuid} {store store' : ChatStore}
    (keyed : Keyed Scenario.id store.scenarios) (h : cancelScenarioOf scenarioId store = .ok () store') :
    ScenarioSteps free store.scenarios store'.scenarios := by
  obtain ⟨read, _, same, h⟩ := bind_eq_ok h
  cases same
  cases found : lookup Scenario.id scenarioId store.scenarios with
  | none =>
    rw [found] at h
    cases h
  | some s =>
    rw [found] at h
    obtain ⟨_, _, returned, h⟩ := bind_eq_ok h
    obtain ⟨transition, rfl⟩ := liftExcept_eq_ok returned
    cases h
    obtain ⟨mem, rfl⟩ := lookup_mem found
    exact .modify (fun _ => .same) keyed mem (fun _ => rfl)
      (.cancel (not_cancelled_of_cancellable (requireTransition_ok transition)))

theorem insertScenario_ok {scenario : Scenario} {store store' : ChatStore}
    (h : insertScenario scenario store = .ok () store') :
    scenario.id ∉ store.scenarios.map Scenario.id ∧
      store' = { store with scenarios := store.scenarios ++ [scenario] } := by
  obtain ⟨read, _, same, h⟩ := bind_eq_ok h
  cases same
  cases inserted : insert? Scenario.id scenario store.scenarios with
  | none =>
    rw [inserted] at h
    cases h
  | some scenarios =>
    rw [inserted] at h
    cases h
    obtain ⟨rfl, fresh⟩ := insert?_eq_some inserted
    exact ⟨fresh, rfl⟩

theorem createScenario_ok {call : CreateCall} {store store' : ChatStore}
    (h : createScenarioFromExceptionFlag call store = .ok () store') : ∃ scenario : Scenario,
      scenario.status = .draft ∧ scenario.id ∉ store.scenarios.map Scenario.id ∧
      store' = { store with scenarios := store.scenarios ++ [scenario] } := by
  unfold createScenarioFromExceptionFlag at h
  cases found : call.exceptionFlag call.exceptionFlagId with
  | none =>
    rw [found] at h
    cases h
  | some flag =>
    rw [found] at h
    obtain ⟨groundTruth, _, returned, h⟩ := bind_eq_ok h
    obtain ⟨-, rfl⟩ := liftExcept_eq_ok returned
    obtain ⟨fresh, rfl⟩ := insertScenario_ok h
    exact ⟨_, rfl, fresh, rfl⟩

/-- The chat writes to no scenario, but for the cancellation. -/
theorem scenarioSteps_change {free : Uuid → Prop} {now : Instant} {operation : Operation}
    {store store' : ChatStore} (keyed : Keyed Scenario.id store.scenarios) (h : operation.perform now store = .ok () store') :
    ScenarioSteps free store.scenarios store'.scenarios := by
  have still : store'.scenarios = store.scenarios → ScenarioSteps free store.scenarios store'.scenarios := by
    intro same
    rw [same]
    exact .refl (fun _ => .same) keyed
  cases change_of_perform h with
  | cancelled => exact scenarioSteps_cancel keyed h
  | @sent threadId call row message thread loaded sent eq =>
    subst eq
    apply still
    cases call.attachmentId <;> rfl
  | found eq | created _ _ eq | drafted eq | marked eq | deleted _ _ eq | completed _ _ _ eq
  | uploaded _ _ _ _ eq =>
    subst eq
    exact still rfl

/-- The scenario that a call would activate. -/
def ServiceCall.activates : ServiceCall → Option Uuid
  | .scenario (.activateScenario scenarioId _ _) => some scenarioId
  | _ => none

/-- The call is to activate this scenario, and no other stands in the way. -/
def Activates (store : ChatStore) (call : ServiceCall) (scenarioId : Uuid) : Prop :=
  call.activates = some scenarioId ∧ Unblocked store scenarioId

theorem scenarioSteps_call {call : ServiceCall} {store store' : ChatStore}
    (keyed : Keyed Scenario.id store.scenarios) (h : call.perform store = .ok () store') :
    ScenarioSteps (Activates store call) store.scenarios store'.scenarios := by
  cases call with
  | chat operation now => exact scenarioSteps_change keyed h
  | scenario call =>
    cases call with
    | createScenarioFromExceptionFlag call =>
      obtain ⟨scenario, draft, fresh, rfl⟩ := createScenario_ok h
      exact .append (fun _ => .same) keyed draft fresh
    | activateScenario scenarioId order now =>
      obtain ⟨read, _, same, h⟩ := bind_eq_ok h
      cases same
      refine scenarioSteps_onScenario keyed ?_ h
      intro _ call
      exact ⟨rfl, blockingScenarioId_eq_none (Call.activateScenario.inj call).1⟩
    | cancelScenario scenarioId => exact scenarioSteps_cancel keyed h
    | updateGroundTruth | regenerateScenario | regenerateNarrative | regenerateExpectedQuery
    | approveScenario => exact scenarioSteps_onScenario keyed (fun _ call => by cases call) h

/-- The same of a call that may have raised. -/
theorem scenarioSteps_perform (call : ServiceCall) {store : ChatStore}
    (keyed : Keyed Scenario.id store.scenarios) :
    ScenarioSteps (Activates store call) store.scenarios (endState (call.perform store)).scenarios := by
  cases ran : call.perform store with
  | ok value store' => exact scenarioSteps_call keyed ran
  | error e store' =>
    have same : store' = store := raisesClean_call call _ _ _ ran
    rw [endState_error, same]
    exact .refl (fun _ => .same) keyed

end MeadowOps.Scenarios
