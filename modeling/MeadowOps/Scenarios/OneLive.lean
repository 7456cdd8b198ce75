import MeadowOps.Scenarios.Lifecycle
import MeadowOps.Chat.Lifecycle

/-!
# One live scenario at a time

`activate_scenario` looks for an active scenario without a completed thread. The calls that come after it
write to the threads: they never take a completed thread away.
-/

namespace MeadowOps.Scenarios

open Db Lib Chat

/-! ## Threads -/

/-- What a call may do to the row of a thread: it keeps its scenario, and it stays completed. -/
structure ThreadStep (row row' : ThreadRow) : Prop where
  scenario : row'.thread.scenarioId = row.thread.scenarioId
  completed : row.thread.status = .completed → row'.thread.status = .completed

theorem ThreadStep.refl (row : ThreadRow) : ThreadStep row row := ⟨rfl, id⟩

abbrev ThreadSteps : List ThreadRow → List ThreadRow → Prop :=
  RowSteps ThreadRow.id ThreadStep (·.thread.status = .open)

/-- The columns of one thread are written. -/
theorem threadSteps_updateThread {store store' : ChatStore} (keyed : Keyed ThreadRow.id store.threads)
    {row : ThreadRow} (thread : ChatThread) (mem : row ∈ store.threads) (id : thread.id = row.id)
    (scenario : thread.scenarioId = row.thread.scenarioId)
    (completed : row.thread.status = .completed → thread.status = .completed)
    (threads : store'.threads = (updateThread thread store).threads) :
    ThreadSteps store.threads store'.threads := by
  have written : (updateThread thread store).threads =
      Lib.modify ThreadRow.id row.id
        (fun r => if r.id = row.id then { r with thread := thread } else r) store.threads := by
    rw [updateThread, id]
    exact modify_congr fun r _ same => (if_pos same).symm
  rw [threads, written]
  refine .modify ThreadStep.refl keyed mem ?_ ?_
  · intro r
    split
    · exact id.trans (‹r.id = row.id›).symm
    · rfl
  · rw [if_pos rfl]
    exact ⟨scenario, completed⟩

theorem threadSteps_of_change {now : Instant} {operation : Operation} {store store' : ChatStore}
    (keyed : Keyed ThreadRow.id store.threads) (change : Change now store store' operation) :
    ThreadSteps store.threads store'.threads := by
  cases change with
  | created first fresh eq =>
    subst eq
    exact .append ThreadStep.refl keyed rfl fresh
  | @sent threadId call row message thread loaded sent eq =>
    subst eq
    obtain ⟨-, rfl, -⟩ := sendMessage_spec sent
    refine threadSteps_updateThread keyed (answered (call.on store) row.thread) loaded.mem rfl rfl
      (fun completed => completed) ?_
    cases call.attachmentId <;> rfl
  | @deleted threadId row thread loaded deleted eq =>
    subst eq
    obtain ⟨-, -, rfl⟩ := deleteThread_ok deleted
    exact threadSteps_updateThread keyed { row.thread with deletedAt := some now } loaded.mem rfl rfl
      (fun completed => completed) rfl
  | @completed threadId order answer row call evaluation loaded graded fresh eq =>
    subst eq
    exact threadSteps_updateThread keyed { row.thread with status := .completed } loaded.mem rfl rfl
      (fun _ => rfl) rfl
  | found eq | drafted eq | marked eq | cancelled eq | uploaded _ _ _ _ eq =>
    subst eq
    exact .refl ThreadStep.refl keyed

/-- A function of the scenario service writes to no thread. -/
theorem threads_onScenario {scenarioId : Uuid} {call : Call} {store store' : ChatStore}
    (h : onScenario scenarioId call store = .ok () store') : store'.threads = store.threads := by
  obtain ⟨s, -, -, assigned, -, rfl⟩ := onScenario_ok h
  rfl

/-- A function of the scenario service writes to no other table. -/
theorem scenarioCall_ok {call : ScenarioCall} {store store' : ChatStore}
    (h : call.perform store = .ok () store') :
    ∃ scenarios, store' = { store with scenarios := scenarios } := by
  have on : ∀ {scenarioId : Uuid} {service : Call}, onScenario scenarioId service store = .ok () store' →
      ∃ scenarios, store' = { store with scenarios := scenarios } := by
    intro scenarioId service ran
    obtain ⟨s, -, -, assigned, -, same⟩ := onScenario_ok ran
    exact ⟨_, same⟩
  cases call with
  | createScenarioFromExceptionFlag call =>
    obtain ⟨scenario, -, -, same⟩ := createScenario_ok h
    exact ⟨_, same⟩
  | activateScenario scenarioId order now =>
    obtain ⟨read, _, same, ran⟩ := bind_eq_ok h
    cases same
    exact on ran
  | cancelScenario scenarioId =>
    have change : Change 0 store store' (.cancelScenario scenarioId) := change_of_perform h
    cases change with
    | cancelled same => exact ⟨_, same⟩
  | updateGroundTruth | regenerateScenario | regenerateNarrative | regenerateExpectedQuery
  | approveScenario => exact on h

theorem threads_scenarioCall {call : ScenarioCall} {store store' : ChatStore}
    (h : call.perform store = .ok () store') : store'.threads = store.threads := by
  cases call with
  | createScenarioFromExceptionFlag call =>
    obtain ⟨scenario, -, -, rfl⟩ := createScenario_ok h
    rfl
  | activateScenario scenarioId order now =>
    obtain ⟨read, _, same, h⟩ := bind_eq_ok h
    cases same
    exact threads_onScenario h
  | cancelScenario scenarioId =>
    have change : Change 0 store store' (.cancelScenario scenarioId) := change_of_perform h
    cases change with
    | cancelled eq => rw [eq]
  | updateGroundTruth | regenerateScenario | regenerateNarrative | regenerateExpectedQuery
  | approveScenario => exact threads_onScenario h

theorem threadSteps_perform (call : ServiceCall) {store : ChatStore}
    (keyed : Keyed ThreadRow.id store.threads) :
    ThreadSteps store.threads (endState (call.perform store)).threads := by
  cases ran : call.perform store with
  | error e store' =>
    have same : store' = store := raisesClean_call call _ _ _ ran
    rw [endState_error, same]
    exact .refl ThreadStep.refl keyed
  | ok value store' =>
    rw [endState_ok]
    cases call with
    | chat operation now => exact threadSteps_of_change keyed (change_of_perform ran)
    | scenario call =>
      rw [threads_scenarioCall ran]
      exact .refl ThreadStep.refl keyed

/-- A scenario whose work is done stays so. -/
theorem completed_stays {store store' : ChatStore} (steps : ThreadSteps store.threads store'.threads)
    {scenarioId : Uuid} (done : scenarioId ∈ completedThreadScenarioIds store) :
    scenarioId ∈ completedThreadScenarioIds store' := by
  obtain ⟨row, mem, rfl⟩ := List.mem_map.1 done
  obtain ⟨memRow, completed⟩ := List.mem_filter.1 mem
  obtain ⟨row', mem', -, step⟩ := steps.forth row memRow
  rw [← step.scenario]
  have still := step.completed (of_decide_eq_true completed)
  exact List.mem_map_of_mem (List.mem_filter.2 ⟨mem', decide_eq_true still⟩)

/-! ## The invariant -/

structure OneLiveInv (store : ChatStore) : Prop where
  scenarios : Keyed Scenario.id store.scenarios
  threads : Keyed ThreadRow.id store.threads
  one : ∀ s ∈ store.scenarios, ∀ s' ∈ store.scenarios, Blocks store s → Blocks store s' → s = s'

/-- What blocks after a call did so before, or was activated by it. -/
theorem blocks_before {store store' : ChatStore} {free : Uuid → Prop}
    (scenarios : ScenarioSteps free store.scenarios store'.scenarios)
    (threads : ThreadSteps store.threads store'.threads) {s' : Scenario} (mem' : s' ∈ store'.scenarios)
    (blocks : Blocks store' s') :
    (∃ s ∈ store.scenarios, s'.id = s.id ∧ Blocks store s) ∨ free s'.id := by
  rcases scenarios.back s' mem' with ⟨draft, -⟩ | ⟨s, mem, id, step⟩
  · exact absurd (draft.symm.trans blocks.1) nofun
  · have undone : s.id ∉ completedThreadScenarioIds store := by
      rw [← id]
      exact fun done => blocks.2 (completed_stays threads done)
    cases step with
    | same => exact .inl ⟨_, mem, rfl, blocks.1, undone⟩
    | draft package was => exact .inl ⟨s, mem, rfl, blocks.1, undone⟩
    | note package was graded => exact .inl ⟨s, mem, rfl, blocks.1, undone⟩
    | activate now was checked => exact .inr checked
    | approve now was valid => exact absurd blocks.1 nofun
    | cancel was => exact absurd blocks.1 nofun

theorem OneLiveInv.perform {store : ChatStore} (h : OneLiveInv store) (call : ServiceCall) :
    OneLiveInv (endState (call.perform store)) := by
  have scenarios := scenarioSteps_perform call h.scenarios
  have threads := threadSteps_perform call h.threads
  refine ⟨scenarios.keyed, threads.keyed, ?_⟩
  intro s' memS t' memT blocksS blocksT
  have sameId : s'.id = t'.id := by
    rcases blocks_before scenarios threads memS blocksS with ⟨s, memS, idS, wasS⟩ | activatesS
    · rcases blocks_before scenarios threads memT blocksT with ⟨t, memT, idT, wasT⟩ | activatesT
      · rw [idS, idT, h.one s memS t memT wasS wasT]
      -- what was activated had found nothing that blocks
      · exact idS.trans (activatesT.2 s memS wasS)
    · rcases blocks_before scenarios threads memT blocksT with ⟨t, memT, idT, wasT⟩ | activatesT
      · exact ((idT.trans (activatesS.2 t memT wasT))).symm
      · exact Option.some.inj (activatesS.1.symm.trans activatesT.1)
  exact List.inj_on_of_nodup_map scenarios.keyed memS memT sameId

/-- The run lemma: the invariant holds, and what is done stays done. -/
theorem OneLiveInv.performCalls {store : ChatStore} (h : OneLiveInv store) (calls : List ServiceCall) :
    OneLiveInv (performCalls calls store) ∧
      ∀ id ∈ completedThreadScenarioIds store, id ∈ completedThreadScenarioIds (performCalls calls store) := by
  induction calls generalizing store with
  | nil => exact ⟨h, fun _ done => done⟩
  | cons call calls ih =>
    obtain ⟨inv, rest⟩ := ih (h.perform call)
    exact ⟨inv, fun id done => rest id (completed_stays (threadSteps_perform call h.threads) done)⟩

/-- After any calls on drafts without threads, at most one scenario is live and unfinished, and one that
is finished never blocks again. -/
theorem one_live_scenario (initial : ChatStore) (keyed : Keyed Scenario.id initial.scenarios)
    (drafts : ∀ s ∈ initial.scenarios, s.status = .draft) (noThreads : initial.threads = [])
    (calls : List ServiceCall) :
    (∀ s ∈ (performCalls calls initial).scenarios, ∀ s' ∈ (performCalls calls initial).scenarios,
      Blocks (performCalls calls initial) s → Blocks (performCalls calls initial) s' → s = s') ∧
    ∀ s ∈ (performCalls calls initial).scenarios, s.status = .active →
      ¬ Blocks (performCalls calls initial) s → ∀ further,
        ∀ s' ∈ (performCalls (calls ++ further) initial).scenarios, s'.id = s.id →
          ¬ Blocks (performCalls (calls ++ further) initial) s' := by
  have start : OneLiveInv initial := by
    refine ⟨keyed, ?_, ?_⟩
    · rw [noThreads]
      exact List.nodup_nil
    · intro s mem _ _ blocks
      exact absurd ((drafts s mem).symm.trans blocks.1) nofun
  have inv := (start.performCalls calls).1
  refine ⟨inv.one, ?_⟩
  intro s mem active finished further s' mem' id blocks
  have done : s.id ∈ completedThreadScenarioIds (performCalls calls initial) := by
    by_contra undone
    exact finished ⟨active, undone⟩
  rw [performCalls, List.foldl_append] at blocks
  refine blocks.2 ?_
  rw [id]
  exact (inv.performCalls further).2 s.id done

/-- Two complete drafts. -/
def twoDrafts : ChatStore := storeOf [completeDraft, { completeDraft with id := 2 }]

/-- The work on the first is done before the second is activated; the thread of the first cannot be
deleted, and a second thread of it blocks nothing. -/
def firstThenSecond : List ServiceCall :=
  [.scenario (.approveScenario 1 5), .scenario (.approveScenario 2 6),
    .scenario (.activateScenario 1 Flow.RowOrder.inserted 7),
    .chat (.getOrCreateThread 1 .cfo 20) 8,
    .chat (.sendMessage 20 ⟨7, .analyst, "the carrier", 4, none, fun _ => none, 10, 9⟩) 9,
    .chat (.completeThread 20 Flow.RowOrder.inserted
      (fun responses => some ⟨responses, "", "", "", "", "", "", ""⟩)) 10,
    .scenario (.activateScenario 2 Flow.RowOrder.inserted 11),
    .chat (.deleteThread 20) 12, .chat (.getOrCreateThread 1 .itManager 21) 13]

/-- The second scenario goes live when the thread of the first is completed. -/
theorem one_live_scenario_firstThenSecond :
    ((performCalls firstThenSecond twoDrafts).scenarios.map (·.status) = [.active, .active]) ∧
    ∀ s ∈ (performCalls firstThenSecond twoDrafts).scenarios,
      ∀ s' ∈ (performCalls firstThenSecond twoDrafts).scenarios,
        Blocks (performCalls firstThenSecond twoDrafts) s →
          Blocks (performCalls firstThenSecond twoDrafts) s' → s = s' := by
  have keyed : (twoDrafts.scenarios.map Scenario.id).Nodup := by decide +kernel
  refine ⟨by decide +kernel, (one_live_scenario twoDrafts keyed ?_ rfl firstThenSecond).1⟩
  intro s mem
  simp only [twoDrafts, storeOf, List.mem_cons, List.not_mem_nil, or_false] at mem
  rcases mem with rfl | rfl <;> rfl

end MeadowOps.Scenarios
