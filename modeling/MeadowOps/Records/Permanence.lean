import MeadowOps.Records.Service
import MeadowOps.Chat.Lifecycle

/-!
# The records stay

Requests one after another, each in a transaction that starts later than the one before it. The tables of the
records only grow, the transcript of a completed thread is the one that was graded, and the export of the
thread differs later in what was still absent only.
-/

namespace MeadowOps.Scenarios

open Db Lib Chat

/-- What no function of the scenario service changes. -/
structure SameCase (s s' : Scenario) : Prop where
  scenarioType : s'.scenarioType = s.scenarioType
  competencyCluster : s'.competencyCluster = s.competencyCluster

theorem RowStep.sameCase {free : Prop} {s s' : Scenario} (step : RowStep free s s') : SameCase s s' := by
  cases step <;> exact ⟨rfl, rfl⟩

end MeadowOps.Scenarios

namespace MeadowOps.Records

open Db Lib MeadowOps.Flow Scenarios Chat

open Generation (DifficultyRecommendation)

/-! ## What a request does -/

/-- What a request that returns has done. -/
inductive Recorded (now : Instant) (store : RecordStore) : RecordStore → Prop where
  | service {call : ServiceCall} {chat : ChatStore} (ran : call.perform store.chat = .ok () chat)
    (at_now : ∀ operation start, call = .chat operation start → start = now)
    (evaluations : chat.evaluations = store.chat.evaluations) : Recorded now store { store with chat := chat }
  | graded {threadId : Uuid} {order : RowOrder ChatMessage} {answer : String → Option EvaluationResult}
    {chat : ChatStore} {e : EvaluationRow}
    (ran : (ServiceCall.chat (.completeThread threadId order answer) now).perform store.chat = .ok () chat)
    (evaluations : chat.evaluations = store.chat.evaluations ++ [e.evaluation]) (created : e.createdAt = now)
    (fresh : e.id ∉ store.evaluation.map EvaluationRow.id) :
    Recorded now store { store with chat := chat, evaluation := store.evaluation ++ [e] }
  | reviewed {review : HumanReview} (known : review.evaluationId ∈ store.evaluation.map EvaluationRow.id)
    (first : review.evaluationId ∉ store.humanReview.map HumanReview.evaluationId)
    (pairs : Pairs review.verdict review.overriddenRecommendation) :
    Recorded now store { store with humanReview := store.humanReview ++ [review] }
  | reflected {artifact : PortfolioArtifact}
    (completed : ∃ row ∈ store.chat.threads, row.id = artifact.threadId ∧ row.thread.status = .completed)
    (first : artifact.threadId ∉ store.portfolioArtifact.map PortfolioArtifact.threadId) :
    Recorded now store { store with portfolioArtifact := store.portfolioArtifact ++ [artifact] }

theorem onChat_ok {call : ServiceCall} {store store' : RecordStore} (h : onChat call store = .ok () store') :
    ∃ chat, call.perform store.chat = .ok () chat ∧ store' = { store with chat := chat } := by
  obtain ⟨read, _, same, h⟩ := bind_eq_ok h
  cases same
  cases ran : call.perform store.chat with
  | error e chat =>
    rw [ran] at h
    cases h
  | ok value chat =>
    rw [ran] at h
    cases h
    exact ⟨chat, rfl, rfl⟩

theorem findThread_ok {store : RecordStore} {threadId : Uuid} {row : ThreadRow}
    (h : findThread store threadId = .ok row) :
    row ∈ store.chat.threads ∧ row.id = threadId ∧ row.thread.deletedAt = none := by
  unfold findThread at h
  cases found : lookup ThreadRow.id threadId store.chat.threads with
  | none =>
    rw [found] at h
    cases h
  | some row' =>
    rw [found] at h
    dsimp only at h
    obtain ⟨mem, id⟩ := lookup_mem found
    unfold getThread at h
    split at h
    · cases h
    · rename_i live
      cases h
      refine ⟨mem, id, ?_⟩
      by_contra deleted
      rw [if_pos (Option.isSome_iff_ne_none.2 deleted)] at live
      cases live

theorem recordHumanReview_ok {review : HumanReview} {now : Instant} {store store' : RecordStore}
    (h : recordHumanReview review store = .ok () store') : Recorded now store store' := by
  obtain ⟨read, _, same, h⟩ := bind_eq_ok h
  cases same
  split at h
  · cases h
  · rename_i known
    split at h
    · cases h
    · rename_i first
      split at h
      · cases h
      · rename_i notBare
        split at h
        · cases h
        · rename_i notMissing
          cases inserted : insert? HumanReview.id review store.humanReview with
          | none =>
            rw [inserted] at h
            cases h
          | some rows =>
            rw [inserted] at h
            cases h
            obtain ⟨rfl, -⟩ := insert?_eq_some inserted
            obtain ⟨e, found⟩ :=
              Option.ne_none_iff_exists'.1 fun none => known (Option.isNone_iff_eq_none.2 none)
            obtain ⟨mem, id⟩ := lookup_mem found
            refine .reviewed (List.mem_map.2 ⟨e, mem, id⟩) (key_fresh first) ?_
            rw [Pairs]
            cases verdict : review.verdict with
            | agree => simpa [verdict] using notBare
            | override =>
              have : review.overriddenRecommendation ≠ none := by simpa [verdict] using notMissing
              simpa [Option.isSome_iff_ne_none] using this

theorem createPortfolioReflection_ok {artifact : PortfolioArtifact} {now : Instant} {store store' : RecordStore}
    (h : createPortfolioReflection artifact store = .ok () store') : Recorded now store store' := by
  obtain ⟨read, _, same, h⟩ := bind_eq_ok h
  cases same
  obtain ⟨row, _, returned, h⟩ := bind_eq_ok h
  obtain ⟨found, rfl⟩ := liftExcept_eq_ok returned
  obtain ⟨mem, id, -⟩ := findThread_ok found
  split at h
  · cases h
  · rename_i completed
    split at h
    · cases h
    · rename_i first
      cases inserted : insert? PortfolioArtifact.id artifact store.portfolioArtifact with
      | none =>
        rw [inserted] at h
        cases h
      | some rows =>
        rw [inserted] at h
        cases h
        obtain ⟨rfl, -⟩ := insert?_eq_some inserted
        exact .reflected ⟨row, mem, id, not_not.1 completed⟩ (key_fresh first)

/-- A completion inserts the evaluation of its thread, the first of it. -/
theorem evaluations_of_complete {now : Instant} {threadId : Uuid} {order : RowOrder ChatMessage}
    {answer : String → Option EvaluationResult} {store store' : ChatStore}
    (h : (ServiceCall.chat (.completeThread threadId order answer) now).perform store = .ok () store') :
    ∃ evaluation : Evaluation, evaluation.threadId = threadId ∧
      evaluation.threadId ∉ store.evaluations.map Evaluation.threadId ∧
      store'.evaluations = store.evaluations ++ [evaluation] := by
  have ran : (Operation.completeThread threadId order answer).perform now store = .ok () store' := h
  cases change_of_perform ran with
  | @completed _ _ _ row call evaluation loaded graded fresh eq =>
    exact ⟨evaluation, (complete_ok graded).1.trans loaded.id, fresh, by rw [eq]; rfl⟩

theorem completeThreadRecorded_ok {threadId : Uuid} {order : RowOrder ChatMessage}
    {answer : String → Option EvaluationResult} {id : Uuid} {now : Instant} {store store' : RecordStore}
    (h : completeThreadRecorded threadId order answer id now store = .ok () store') :
    Recorded now store store' := by
  obtain ⟨_, store₁, called, h⟩ := bind_eq_ok h
  obtain ⟨chat, ran, rfl⟩ := onChat_ok called
  obtain ⟨read, _, same, h⟩ := bind_eq_ok h
  cases same
  obtain ⟨evaluation, of, fresh, evaluations⟩ := evaluations_of_complete ran
  have found : lookup Evaluation.threadId threadId chat.evaluations = some evaluation := by
    rw [evaluations, ← of]
    exact lookup_append_of_notMem fresh
  rw [found] at h
  dsimp only at h
  obtain ⟨read, _, same, h⟩ := bind_eq_ok h
  cases same
  cases recommended : DifficultyRecommendation.ofValue evaluation.result.difficultyRecommendation with
  | none =>
    rw [recommended] at h
    cases h
  | some recommendation =>
    rw [recommended] at h
    dsimp only at h
    cases inserted : insert? EvaluationRow.id ⟨id, now, evaluation, recommendation⟩ store.evaluation with
    | none =>
      rw [inserted] at h
      cases h
    | some rows =>
      rw [inserted] at h
      cases h
      obtain ⟨rfl, freshId⟩ := insert?_eq_some inserted
      exact .graded (e := ⟨id, now, evaluation, recommendation⟩) ran evaluations rfl freshId

/-- The other operations insert none. -/
theorem evaluations_of_other {now : Instant} {operation : Operation} {store store' : ChatStore}
    (other : ∀ threadId order answer, operation ≠ .completeThread threadId order answer)
    (h : (ServiceCall.chat operation now).perform store = .ok () store') :
    store'.evaluations = store.evaluations := by
  cases change_of_perform h with
  | completed => exact absurd rfl (other _ _ _)
  | @sent threadId call row message thread loaded sent eq =>
    subst eq
    cases call.attachmentId <;> rfl
  | found eq | created _ _ eq | drafted eq | marked eq | deleted _ _ eq | cancelled eq
  | uploaded _ _ _ _ eq =>
    subst eq
    rfl

theorem recorded_of_perform {request : Request} {now : Instant} {store store' : RecordStore}
    (h : request.perform now store = .ok () store') : Recorded now store store' := by
  cases request with
  | scenario call =>
    obtain ⟨chat, ran, rfl⟩ := onChat_ok h
    obtain ⟨scenarios, same⟩ := scenarioCall_ok ran
    exact .service ran (fun _ _ => nofun) (by rw [same])
  | humanReview threadId submittedByUserId payload id =>
    obtain ⟨read, _, same, h⟩ := bind_eq_ok h
    cases same
    obtain ⟨evaluation, _, returned, h⟩ := bind_eq_ok h
    obtain ⟨-, rfl⟩ := liftExcept_eq_ok returned
    exact recordHumanReview_ok h
  | reflection threadId submittedByUserId payload id => exact createPortfolioReflection_ok h
  | chat operation evaluationId =>
    cases operation with
    | completeThread threadId order answer => exact completeThreadRecorded_ok h
    | _ =>
      obtain ⟨chat, ran, rfl⟩ := onChat_ok h
      exact .service ran (fun _ _ same => (ServiceCall.chat.inj same).2.symm)
        (evaluations_of_other (fun _ _ _ same => Operation.noConfusion same) ran)

/-! ## The invariant -/

/-- What holds of the tables of the records beside those of the chat. -/
structure RecordInv (clock : Instant) (store : RecordStore) : Prop where
  chat : LifecycleInv clock store.chat
  scenarios : Keyed Scenario.id store.chat.scenarios
  known : ∀ row ∈ store.chat.threads, row.thread.scenarioId ∈ store.chat.scenarios.map Scenario.id
  rows : store.evaluation.map (·.evaluation) = store.chat.evaluations
  ids : Keyed EvaluationRow.id store.evaluation
  increasing : store.evaluation.Pairwise fun e f => e.createdAt < f.createdAt
  past : ∀ e ∈ store.evaluation, e.createdAt ≤ clock
  transcript : ∀ e ∈ store.evaluation, e.evaluation.builtFrom = store.chat.messagesOf e.threadId
  reviews : Keyed HumanReview.evaluationId store.humanReview
  reviewed : ∀ r ∈ store.humanReview, r.evaluationId ∈ store.evaluation.map EvaluationRow.id
  pairs : ∀ r ∈ store.humanReview, Pairs r.verdict r.overriddenRecommendation
  artifacts : Keyed PortfolioArtifact.threadId store.portfolioArtifact
  reflected : ∀ a ∈ store.portfolioArtifact, ∃ row ∈ store.chat.threads, row.id = a.threadId ∧
    row.thread.status = .completed

/-- What is there later of what was there before. -/
structure Kept (store store' : RecordStore) : Prop where
  title : store'.title = store.title
  scenarios : ∀ s ∈ store.chat.scenarios, ∃ s' ∈ store'.chat.scenarios, s'.id = s.id ∧ SameCase s s'
  threads : ∀ row ∈ store.chat.threads, ∃ row' ∈ store'.chat.threads, row'.id = row.id ∧
    row'.thread.scenarioId = row.thread.scenarioId
  frozen : Frozen store.chat store'.chat
  evaluation : store.evaluation <+: store'.evaluation
  humanReview : store.humanReview <+: store'.humanReview
  portfolioArtifact : store.portfolioArtifact <+: store'.portfolioArtifact

theorem Kept.refl (store : RecordStore) : Kept store store where
  title := rfl
  scenarios s mem := ⟨s, mem, rfl, rfl, rfl⟩
  threads row mem := ⟨row, mem, rfl, rfl⟩
  frozen _ mem _ := ⟨mem, rfl, rfl⟩
  evaluation := List.prefix_refl _
  humanReview := List.prefix_refl _
  portfolioArtifact := List.prefix_refl _

theorem Kept.trans {store₁ store₂ store₃ : RecordStore} (h : Kept store₁ store₂) (h' : Kept store₂ store₃) :
    Kept store₁ store₃ where
  title := h'.title.trans h.title
  scenarios := by
    intro s mem
    obtain ⟨s₂, mem₂, id₂, type₂, cluster₂⟩ := h.scenarios s mem
    obtain ⟨s₃, mem₃, id₃, type₃, cluster₃⟩ := h'.scenarios s₂ mem₂
    exact ⟨s₃, mem₃, id₃.trans id₂, type₃.trans type₂, cluster₃.trans cluster₂⟩
  threads := by
    intro row mem
    obtain ⟨row₂, mem₂, id₂, scenario₂⟩ := h.threads row mem
    obtain ⟨row₃, mem₃, id₃, scenario₃⟩ := h'.threads row₂ mem₂
    exact ⟨row₃, mem₃, id₃.trans id₂, scenario₃.trans scenario₂⟩
  frozen := h.frozen.trans h'.frozen
  evaluation := h.evaluation.trans h'.evaluation
  humanReview := h.humanReview.trans h'.humanReview
  portfolioArtifact := h.portfolioArtifact.trans h'.portfolioArtifact

/-! ## A call of the services -/

section Call

variable {clock now : Instant} {store : ChatStore} {call : ServiceCall} {store' : ChatStore}

theorem lifecycle_call (h : LifecycleInv clock store) (later : clock < now)
    (at_now : ∀ operation start, call = .chat operation start → start = now)
    (ran : call.perform store = .ok () store') : LifecycleInv now store' ∧ Frozen store store' := by
  cases call with
  | chat operation start =>
    obtain rfl := at_now operation start rfl
    exact h.change later (change_of_perform ran)
  | scenario call =>
    obtain ⟨scenarios, rfl⟩ := scenarioCall_ok ran
    exact ⟨h.transport later.le rfl rfl h.attachments rfl, fun row mem _ => ⟨mem, rfl, rfl⟩⟩

/-- The thread of a new pair names a scenario that is there. -/
theorem getOrCreateThread_ok {scenarioId id : Uuid} {persona : StakeholderPersona}
    (ran : (Operation.getOrCreateThread scenarioId persona id).perform now store = .ok () store') :
    store' = store ∨ (scenarioId ∈ store.scenarios.map Scenario.id ∧
      store' = { store with threads := store.threads ++ [newThread id scenarioId persona now] }) := by
  obtain ⟨read, _, same, ran⟩ := bind_eq_ok ran
  cases same
  cases first : store.threads.find? fun row => row.IsLiveFor scenarioId persona with
  | some row =>
    rw [first] at ran
    cases ran
    exact .inl rfl
  | none =>
    rw [first] at ran
    dsimp only at ran
    split at ran
    · cases ran
    · rename_i found
      cases inserted : insert? ThreadRow.id (newThread id scenarioId persona now) store.threads with
      | none =>
        rw [inserted] at ran
        cases ran
      | some threads =>
        rw [inserted] at ran
        cases ran
        obtain ⟨rfl, -⟩ := insert?_eq_some inserted
        refine .inr ⟨?_, rfl⟩
        obtain ⟨s, same⟩ := Option.ne_none_iff_exists'.1 fun none => found (Option.isNone_iff_eq_none.2 none)
        obtain ⟨mem, id⟩ := lookup_mem same
        exact List.mem_map.2 ⟨s, mem, id⟩

/-- The other operations insert no thread. -/
theorem threadIds_of_other {operation : Operation}
    (other : ∀ scenarioId persona id, operation ≠ .getOrCreateThread scenarioId persona id)
    (change : Change now store store' operation) :
    store'.threads.map ThreadRow.id = store.threads.map ThreadRow.id := by
  cases change with
  | found | created => exact absurd rfl (other _ _ _)
  | @sent threadId call row message thread loaded sent eq =>
    subst eq
    refine (ids_updateThread thread _).trans ?_
    cases call.attachmentId <;> rfl
  | deleted _ _ eq | completed _ _ _ eq =>
    subst eq
    exact ids_updateThread _ _
  | drafted eq | marked eq | cancelled eq | uploaded _ _ _ _ eq =>
    subst eq
    rfl

theorem known_call (threads : Keyed ThreadRow.id store.threads) (scenarios : Keyed Scenario.id store.scenarios)
    (known : ∀ row ∈ store.threads, row.thread.scenarioId ∈ store.scenarios.map Scenario.id)
    (ran : call.perform store = .ok () store') :
    ∀ row ∈ store'.threads, row.thread.scenarioId ∈ store'.scenarios.map Scenario.id := by
  have still : ∀ id ∈ store.scenarios.map Scenario.id, id ∈ store'.scenarios.map Scenario.id := by
    intro id mem
    obtain ⟨s, found, rfl⟩ := List.mem_map.1 mem
    obtain ⟨s', mem', same, -⟩ := (scenarioSteps_call scenarios ran).forth s found
    exact List.mem_map.2 ⟨s', mem', same⟩
  have old : ThreadSteps store.threads store'.threads →
      store'.threads.map ThreadRow.id = store.threads.map ThreadRow.id →
      ∀ row ∈ store'.threads, row.thread.scenarioId ∈ store'.scenarios.map Scenario.id := by
    intro steps ids row' mem'
    rcases steps.back row' mem' with ⟨-, new⟩ | ⟨row, mem, -, step⟩
    · exact absurd (ids ▸ List.mem_map_of_mem mem') new
    · rw [step.scenario]
      exact still _ (known row mem)
  cases call with
  | scenario call =>
    intro row mem
    rw [threads_scenarioCall ran] at mem
    exact still _ (known row mem)
  | chat operation start =>
    have change : Change start store store' operation := change_of_perform ran
    have steps := threadSteps_of_change threads change
    cases operation with
    | getOrCreateThread scenarioId persona id =>
      rcases getOrCreateThread_ok ran with rfl | ⟨found, rfl⟩
      · exact known
      · intro row mem
        rcases List.mem_append.1 mem with before | new
        · exact known row before
        · rw [List.mem_singleton.1 new]
          exact found
    | _ => exact old steps (threadIds_of_other (fun _ _ _ same => Operation.noConfusion same) change)

theorem cases_call (scenarios : Keyed Scenario.id store.scenarios) (ran : call.perform store = .ok () store') :
    Keyed Scenario.id store'.scenarios ∧
      ∀ s ∈ store.scenarios, ∃ s' ∈ store'.scenarios, s'.id = s.id ∧ SameCase s s' := by
  have steps := scenarioSteps_call scenarios ran
  refine ⟨steps.keyed, fun s mem => ?_⟩
  obtain ⟨s', mem', id, step⟩ := steps.forth s mem
  exact ⟨s', mem', id, step.sameCase⟩

theorem threads_call (threads : Keyed ThreadRow.id store.threads) (ran : call.perform store = .ok () store') :
    ∀ row ∈ store.threads, ∃ row' ∈ store'.threads, row'.id = row.id ∧
      row'.thread.scenarioId = row.thread.scenarioId := by
  have steps := threadSteps_perform call threads
  rw [ran] at steps
  intro row mem
  obtain ⟨row', mem', id, step⟩ := steps.forth row mem
  exact ⟨row', mem', id, step.scenario⟩

end Call

/-! ## A request -/

section Step

variable {clock now : Instant} {store store' : RecordStore}

theorem RecordInv.rows_keyed (h : RecordInv clock store) : Keyed EvaluationRow.threadId store.evaluation := by
  have keyed := h.chat.evaluations
  rw [← h.rows, Keyed, List.map_map] at keyed
  exact keyed

/-- What has an evaluation is completed. -/
theorem RecordInv.graded_thread (h : RecordInv clock store) {e : EvaluationRow} (mem : e ∈ store.evaluation) :
    ∃ row ∈ store.chat.threads, row.id = e.threadId ∧ row.thread.status = .completed := by
  have stored : e.evaluation ∈ store.chat.evaluations := h.rows ▸ List.mem_map_of_mem mem
  obtain ⟨row, memRow, id⟩ := List.mem_map.1 (h.chat.evaluationsKnown _ stored)
  exact ⟨row, memRow, id, (h.chat.rows row memRow).evaluated.2 ⟨e.evaluation, stored, id.symm⟩⟩

theorem RecordInv.transcript_kept (h : RecordInv clock store) {chat : ChatStore}
    (frozen : Frozen store.chat chat) {e : EvaluationRow} (mem : e ∈ store.evaluation) :
    e.evaluation.builtFrom = chat.messagesOf e.threadId := by
  obtain ⟨row, memRow, id, completed⟩ := h.graded_thread mem
  rw [h.transcript e mem, ← id]
  exact (frozen row memRow completed).2.1.symm

theorem RecordInv.reflected_kept (h : RecordInv clock store) {chat : ChatStore}
    (frozen : Frozen store.chat chat) {a : PortfolioArtifact} (mem : a ∈ store.portfolioArtifact) :
    ∃ row ∈ chat.threads, row.id = a.threadId ∧ row.thread.status = .completed := by
  obtain ⟨row, memRow, id, completed⟩ := h.reflected a mem
  exact ⟨row, (frozen row memRow completed).1, id, completed⟩

/-- The evaluation that a completion inserts was made from all messages of the thread. -/
theorem transcript_of_complete {store store' : ChatStore} (h : LifecycleInv clock store) {threadId : Uuid}
    {order : RowOrder ChatMessage} {answer : String → Option EvaluationResult} {evaluation : Evaluation}
    (ran : (ServiceCall.chat (.completeThread threadId order answer) now).perform store = .ok () store')
    (evaluations : store'.evaluations = store.evaluations ++ [evaluation]) :
    evaluation.builtFrom = store'.messagesOf evaluation.threadId := by
  have ran : (Operation.completeThread threadId order answer).perform now store = .ok () store' := ran
  cases change_of_perform ran with
  | @completed _ _ _ row call evaluation' loaded graded fresh eq =>
    subst eq
    obtain rfl : evaluation' = evaluation := by
      have same : store.evaluations ++ [evaluation'] = store.evaluations ++ [evaluation] := evaluations
      exact List.singleton_inj.1 (List.append_cancel_left same)
    obtain ⟨of, built, -⟩ := complete_ok graded
    rw [built, listMessages_messagesOf h, of]
    show store.messagesOf threadId = store.messagesOf row.thread.id
    rw [show row.thread.id = threadId from loaded.id]

theorem RecordInv.recorded (h : RecordInv clock store) (later : clock < now) (done : Recorded now store store') :
    RecordInv now store' ∧ Kept store store' := by
  have past : ∀ e ∈ store.evaluation, e.createdAt ≤ now := fun e mem => (h.past e mem).trans later.le
  cases done with
  | @service call chat ran at_now evaluations =>
    obtain ⟨lifecycle, frozen⟩ := lifecycle_call h.chat later at_now ran
    obtain ⟨keyed, sameCases⟩ := cases_call h.scenarios ran
    constructor
    · exact
        { h with
          chat := lifecycle
          scenarios := keyed
          known := known_call h.chat.threads h.scenarios h.known ran
          rows := h.rows.trans evaluations.symm
          past := past
          transcript := fun e mem => h.transcript_kept frozen mem
          reflected := fun a mem => h.reflected_kept frozen mem }
    · exact
        { Kept.refl store with
          scenarios := sameCases
          threads := threads_call h.chat.threads ran
          frozen := frozen }
  | @graded threadId order answer chat e ran evaluations created fresh =>
    obtain ⟨lifecycle, frozen⟩ :=
      lifecycle_call h.chat later (fun _ _ same => (ServiceCall.chat.inj same).2.symm) ran
    obtain ⟨keyed, sameCases⟩ := cases_call h.scenarios ran
    constructor
    · exact
        { h with
          chat := lifecycle
          scenarios := keyed
          known := known_call h.chat.threads h.scenarios h.known ran
          rows := by
            rw [List.map_append, h.rows, evaluations]
            rfl
          ids := Keyed.append h.ids fresh
          increasing := by
            refine List.pairwise_append.2 ⟨h.increasing, List.pairwise_singleton _ _, fun f mem g new => ?_⟩
            rw [List.mem_singleton.1 new, created]
            exact (h.past f mem).trans_lt later
          past := by
            intro f mem
            rcases List.mem_append.1 mem with old | new
            · exact past f old
            · exact (List.mem_singleton.1 new ▸ created).le
          transcript := by
            intro f mem
            rcases List.mem_append.1 mem with old | new
            · exact h.transcript_kept frozen old
            · rw [List.mem_singleton.1 new]
              exact transcript_of_complete h.chat ran evaluations
          reviewed := by
            intro r mem
            rw [List.map_append]
            exact List.mem_append_left _ (h.reviewed r mem)
          reflected := fun a mem => h.reflected_kept frozen mem }
    · exact
        { Kept.refl store with
          scenarios := sameCases
          threads := threads_call h.chat.threads ran
          frozen := frozen
          evaluation := List.prefix_append _ _ }
  | @reviewed review known first pairs =>
    constructor
    · exact
        { h with
          chat := h.chat.later later.le
          past := past
          reviews := Keyed.append h.reviews first
          reviewed := by
            intro r mem
            rcases List.mem_append.1 mem with old | new
            · exact h.reviewed r old
            · exact List.mem_singleton.1 new ▸ known
          pairs := by
            intro r mem
            rcases List.mem_append.1 mem with old | new
            · exact h.pairs r old
            · exact List.mem_singleton.1 new ▸ pairs }
    · exact { Kept.refl store with humanReview := List.prefix_append _ _ }
  | @reflected artifact completed first =>
    constructor
    · exact
        { h with
          chat := h.chat.later later.le
          past := past
          artifacts := Keyed.append h.artifacts first
          reflected := by
            intro a mem
            rcases List.mem_append.1 mem with old | new
            · exact h.reflected a old
            · exact List.mem_singleton.1 new ▸ completed }
    · exact { Kept.refl store with portfolioArtifact := List.prefix_append _ _ }

/-- A request commits what it has recorded, or nothing. -/
theorem commit_cases (request : Request) (now : Instant) (store : RecordStore) :
    request.commit now store = store ∨ Recorded now store (request.commit now store) := by
  unfold Request.commit
  cases ran : request.perform now store with
  | ok value store' => exact .inr (recorded_of_perform ran)
  | error e store' => exact .inl rfl

theorem RecordInv.commit (h : RecordInv clock store) (later : clock < now) (request : Request) :
    RecordInv now (request.commit now store) ∧ Kept store (request.commit now store) := by
  rcases commit_cases request now store with same | done
  · rw [same]
    refine ⟨{ h with chat := h.chat.later later.le, past := fun e mem => ?_ }, .refl store⟩
    exact (h.past e mem).trans later.le
  · exact h.recorded later done

end Step

/-- The run lemma: each request starts after the one before it. -/
theorem RecordInv.commitAll_append {clock : Instant} {store : RecordStore}
    {before after : List (Request × Instant)} (h : RecordInv clock store)
    (times : (clock :: (before ++ after).map (·.2)).Pairwise (· < ·)) :
    Kept store (commitAll before store) ∧
      ∃ now, RecordInv now (commitAll before store) ∧ (now :: after.map (·.2)).Pairwise (· < ·) := by
  induction before generalizing clock store with
  | nil => exact ⟨.refl store, clock, h, times⟩
  | cons request requests ih =>
    obtain ⟨later, rest⟩ := List.pairwise_cons.1 times
    obtain ⟨inv, kept⟩ := h.commit (later request.2 (List.mem_cons_self ..)) request.1
    obtain ⟨keptRest, last⟩ := ih inv rest
    exact ⟨kept.trans keptRest, last⟩

theorem RecordInv.commitAll {clock : Instant} {store : RecordStore} {requests : List (Request × Instant)}
    (h : RecordInv clock store) (times : (clock :: requests.map (·.2)).Pairwise (· < ·)) :
    Kept store (commitAll requests store) ∧ ∃ now, RecordInv now (commitAll requests store) := by
  rw [← List.append_nil requests] at times
  obtain ⟨kept, now, inv, -⟩ := h.commitAll_append times
  exact ⟨kept, now, inv⟩

/-- Some scenarios and nothing else. -/
def RecordStore.quiet (scenarios : List Scenario) (title : Uuid → String) : RecordStore :=
  ⟨.quiet scenarios, title, [], [], []⟩

theorem recordInv_quiet {scenarios : List Scenario} (keyed : Keyed Scenario.id scenarios)
    (title : Uuid → String) (clock : Instant) : RecordInv clock (.quiet scenarios title) where
  chat := lifecycleInv_quiet scenarios clock
  scenarios := keyed
  known := fun _ mem => nomatch mem
  rows := rfl
  ids := List.nodup_nil
  increasing := .nil
  past := fun _ mem => nomatch mem
  transcript := fun _ mem => nomatch mem
  reviews := List.nodup_nil
  reviewed := fun _ mem => nomatch mem
  pairs := fun _ mem => nomatch mem
  artifacts := List.nodup_nil
  reflected := fun _ mem => nomatch mem

/-! ## The export of a thread -/

/-- What the export of a completed thread tells. -/
structure Tells (store : RecordStore) (row : ThreadRow) (doc : PortfolioExport) : Prop where
  scenario : ∃ s ∈ store.chat.scenarios, s.id = row.thread.scenarioId ∧ doc.scenario = portfolioScenario store s
  messages : doc.messages = (store.chat.messagesOf row.id).map portfolioMessage
  /-- What is shown is what was graded. -/
  evaluation : ∃ e ∈ store.evaluation, e.threadId = row.id ∧ doc.evaluation = evaluationExportFields e ∧
    e.evaluation.builtFrom = store.chat.messagesOf row.id
  trigger : ∃ first, (store.chat.messagesOf row.id).head? = some first ∧ doc.trigger = some first.body
  verdict : ∀ review ∈ doc.humanReview, Pairs review.verdict review.overriddenRecommendation

/-- A later export of the same thread: only what was absent may have come. -/
structure Continues (doc doc' : PortfolioExport) : Prop where
  scenario : doc'.scenario = doc.scenario
  trigger : doc'.trigger = doc.trigger
  messages : doc'.messages = doc.messages
  evaluation : doc'.evaluation = doc.evaluation
  humanReview : doc.humanReview = none ∨ doc'.humanReview = doc.humanReview
  reflection : doc.reflection = none ∨ doc'.reflection = doc.reflection

section Export

variable {clock : Instant} {store store' : RecordStore} {row : ThreadRow}

theorem findThread_of_mem (h : RecordInv clock store) (mem : row ∈ store.chat.threads)
    (live : row.thread.deletedAt = none) : findThread store row.id = .ok row := by
  rw [findThread, lookup_of_mem h.chat.threads mem]
  dsimp only
  rw [getThread, live]
  rfl

theorem RecordInv.completed_live (h : RecordInv clock store) (mem : row ∈ store.chat.threads)
    (completed : row.thread.status = .completed) : row.thread.deletedAt = none :=
  ((h.chat.rows row mem).completed completed).1

/-- The only evaluation of a completed thread. -/
theorem RecordInv.evaluation_of_completed (h : RecordInv clock store) (mem : row ∈ store.chat.threads)
    (completed : row.thread.status = .completed) :
    ∃ e ∈ store.evaluation, e.threadId = row.id ∧ getEvaluationForThread store row.id = some e := by
  obtain ⟨evaluation, stored, of⟩ := (h.chat.rows row mem).evaluated.1 completed
  rw [← h.rows] at stored
  obtain ⟨e, memE, rfl⟩ := List.mem_map.1 stored
  have of : e.threadId = row.id := of
  refine ⟨e, memE, of, ?_⟩
  rw [getEvaluationForThread, ← of]
  exact lookup_of_mem h.rows_keyed memE

theorem RecordInv.scenario_of_thread (h : RecordInv clock store) (mem : row ∈ store.chat.threads) :
    ∃ s ∈ store.chat.scenarios, s.id = row.thread.scenarioId ∧
      lookup Scenario.id row.thread.scenarioId store.chat.scenarios = some s := by
  obtain ⟨s, memS, id⟩ := List.mem_map.1 (h.known row mem)
  refine ⟨s, memS, id, ?_⟩
  rw [← id]
  exact lookup_of_mem h.scenarios memS

/-- The document of a completed thread. -/
theorem RecordInv.export_eq (h : RecordInv clock store) (order : RowOrder ChatMessage)
    (mem : row ∈ store.chat.threads) (completed : row.thread.status = .completed) {s : Scenario}
    {e : EvaluationRow} (scenario : lookup Scenario.id row.thread.scenarioId store.chat.scenarios = some s)
    (evaluation : getEvaluationForThread store row.id = some e) :
    getPortfolioExport store order row.id = .ok (buildPortfolioExport (portfolioScenario store s)
      ((store.chat.messagesOf row.id).map portfolioMessage) (evaluationExportFields e)
      ((getHumanReviewForEvaluation store e.id).map humanReviewExportFields)
      ((getPortfolioArtifactForThread store row.id).map reflectionExportFields)) := by
  rw [getPortfolioExport, findThread_of_mem h mem (h.completed_live mem completed)]
  simp only [bind, Except.bind, completed, ne_eq, not_true_eq_false, if_false, scenario, evaluation]
  rw [listMessages_messagesOf h.chat]
  rfl

theorem RecordInv.export_tells (h : RecordInv clock store) (order : RowOrder ChatMessage)
    (mem : row ∈ store.chat.threads) (completed : row.thread.status = .completed) :
    ∃ doc, getPortfolioExport store order row.id = .ok doc ∧ Tells store row doc := by
  obtain ⟨s, memS, id, scenario⟩ := h.scenario_of_thread mem
  obtain ⟨e, memE, of, evaluation⟩ := h.evaluation_of_completed mem completed
  refine ⟨_, h.export_eq order mem completed scenario evaluation, ⟨s, memS, id, rfl⟩, rfl, ?_, ?_, ?_⟩
  · exact ⟨e, memE, of, rfl, of ▸ h.transcript e memE⟩
  · obtain ⟨-, last, found, -⟩ := (h.chat.rows row mem).completed completed
    cases messages : store.chat.messagesOf row.id with
    | nil =>
      rw [messages] at found
      cases found
    | cons first rest => exact ⟨first, rfl, rfl⟩
  · intro review found
    obtain ⟨r, stored, rfl⟩ := Option.map_eq_some_iff.1 found
    exact h.pairs r (lookup_mem stored).1

theorem RecordInv.export_continues (h : RecordInv clock store) {clock' : Instant} (h' : RecordInv clock' store')
    (kept : Kept store store') (order order' : RowOrder ChatMessage) (mem : row ∈ store.chat.threads)
    (completed : row.thread.status = .completed) {doc : PortfolioExport}
    (was : getPortfolioExport store order row.id = .ok doc) :
    ∃ doc', getPortfolioExport store' order' row.id = .ok doc' ∧ Continues doc doc' := by
  obtain ⟨s, memS, id, scenario⟩ := h.scenario_of_thread mem
  obtain ⟨e, memE, of, evaluation⟩ := h.evaluation_of_completed mem completed
  obtain ⟨mem', messages, -⟩ := kept.frozen row mem completed
  obtain ⟨s', memS', id', type, cluster⟩ := kept.scenarios s memS
  have scenario' : lookup Scenario.id row.thread.scenarioId store'.chat.scenarios = some s' := by
    rw [← id, ← id']
    exact lookup_of_mem h'.scenarios memS'
  have evaluation' : getEvaluationForThread store' row.id = some e := lookup_kept kept.evaluation evaluation
  rw [h.export_eq order mem completed scenario evaluation] at was
  obtain rfl := Except.ok.inj was
  refine ⟨_, h'.export_eq order' mem' completed scenario' evaluation', ?_⟩
  constructor
  · show portfolioScenario store' s' = portfolioScenario store s
    rw [portfolioScenario, portfolioScenario, kept.title, id', type, cluster]
  · show Option.map _ (List.head? (List.map _ _)) = Option.map _ (List.head? (List.map _ _))
    rw [messages]
  · show List.map _ _ = List.map _ _
    rw [messages]
  · rfl
  · exact found_or_none e.id humanReviewExportFields kept.humanReview
  · exact found_or_none row.id reflectionExportFields kept.portfolioArtifact

end Export

/-- A refused export has one of two reasons: no route of it ends in an error of the server. -/
theorem RecordInv.export_refused {clock : Instant} {store : RecordStore} (h : RecordInv clock store)
    (order : RowOrder ChatMessage) {threadId : Uuid} {e : RecordError}
    (refused : getPortfolioExport store order threadId = .error e) :
    e = .operation (.chat (.threadNotFound threadId)) ∨ e = .threadNotCompleted threadId := by
  cases found : lookup ThreadRow.id threadId store.chat.threads with
  | none =>
    rw [getPortfolioExport, findThread, found] at refused
    exact .inl (Except.error.inj refused).symm
  | some row =>
    obtain ⟨mem, rfl⟩ := lookup_mem found
    by_cases live : row.thread.deletedAt = none
    · by_cases completed : row.thread.status = .completed
      · obtain ⟨doc, compiled, -⟩ := h.export_tells order mem completed
        rw [compiled] at refused
        cases refused
      · rw [getPortfolioExport, findThread_of_mem h mem live] at refused
        simp only [bind, Except.bind] at refused
        rw [if_pos completed] at refused
        exact .inr (Except.error.inj refused).symm
    · rw [getPortfolioExport, findThread, found] at refused
      dsimp only at refused
      rw [getThread, if_pos (Option.isSome_iff_ne_none.2 live)] at refused
      exact .inl (Except.error.inj refused).symm

/-! ## Runs -/

/-- What holds of the records after any requests. -/
structure RecordLaw (store : RecordStore) : Prop where
  /-- One review of an evaluation, and one reflection on a thread. -/
  reviews : Keyed HumanReview.evaluationId store.humanReview
  reflections : Keyed PortfolioArtifact.threadId store.portfolioArtifact
  reviewed : ∀ r ∈ store.humanReview, Pairs r.verdict r.overriddenRecommendation ∧
    ∃ e ∈ store.evaluation, e.id = r.evaluationId
  reflected : ∀ a ∈ store.portfolioArtifact, ∃ row ∈ store.chat.threads, row.id = a.threadId ∧
    row.thread.status = .completed
  exported : ∀ order, ∀ row ∈ store.chat.threads, row.thread.status = .completed →
    ∃ doc, getPortfolioExport store order row.id = .ok doc ∧ Tells store row doc
  refused : ∀ order threadId e, getPortfolioExport store order threadId = .error e →
    e = .operation (.chat (.threadNotFound threadId)) ∨ e = .threadNotCompleted threadId

theorem RecordInv.law {clock : Instant} {store : RecordStore} (h : RecordInv clock store) : RecordLaw store where
  reviews := h.reviews
  reflections := h.artifacts
  reviewed := fun r mem => ⟨h.pairs r mem, List.mem_map.1 (h.reviewed r mem)⟩
  reflected := h.reflected
  exported := fun order _ mem completed => h.export_tells order mem completed
  refused := fun order _ _ refused => h.export_refused order refused

/-- After any requests the records obey their law, later ones only add to the tables, and what an export of a
completed thread has shown is shown for ever. -/
theorem exports_are_permanent {scenarios : List Scenario} (keyed : Keyed Scenario.id scenarios)
    (title : Uuid → String) (before after : List (Request × Instant))
    (times : ((before ++ after).map (·.2)).Pairwise (· < ·)) :
    let store := commitAll before (.quiet scenarios title)
    let store' := commitAll (before ++ after) (.quiet scenarios title)
    RecordLaw store ∧ Kept store store' ∧
      ∀ order order', ∀ row ∈ store.chat.threads, row.thread.status = .completed →
        ∀ doc, getPortfolioExport store order row.id = .ok doc →
          ∃ doc', getPortfolioExport store' order' row.id = .ok doc' ∧ Continues doc doc' := by
  intro store store'
  obtain ⟨clock, first⟩ := pairwise_before times
  obtain ⟨-, now, inv, rest⟩ := (recordInv_quiet keyed title clock).commitAll_append first
  obtain ⟨kept, now', inv'⟩ := inv.commitAll rest
  have same : store' = commitAll after store := List.foldl_append ..
  rw [same]
  exact ⟨inv.law, kept, fun order order' row mem completed doc was =>
    inv.export_continues inv' kept order order' mem completed was⟩

/-- The Builder asks, the Analyst answers, and the answer is graded. -/
def gradedRequests : List (Request × Instant) :=
  [(.chat (.getOrCreateThread 2 .cfo 1) 0, 100),
    (.chat (.sendMessage 1 ⟨8, .admin, "what happened?", 4, none, fun _ => none, 10, 210⟩) 0, 200),
    (.chat (.sendMessage 1 ⟨7, .analyst, "a late delivery", 4, none, fun _ => none, 11, 310⟩) 0, 300),
    (.chat (.completeThread 1 .inserted fun responses =>
      some ⟨responses, "none", "orders.csv", "", "pass", "", "stretch", responses⟩) 30, 400)]

def agreement : HumanReviewCreate where
  reviewerName := ⟨"a reviewer", by decide, by decide⟩
  verdict := .agree
  tierAssessmentNotes := ⟨"fits", by decide, by decide⟩
  overriddenRecommendation := none
  pairs := by decide

/-- A review, a second one that is refused, and a message that comes too late. -/
def reviewRequests : List (Request × Instant) :=
  [(.humanReview 1 8 agreement 40, 500), (.humanReview 1 8 agreement 41, 600),
    (.chat (.sendMessage 1 ⟨7, .analyst, "one more thing", 4, none, fun _ => none, 12, 710⟩) 0, 700)]

/-- The review is added to the record, and the export goes on from the one before it. -/
theorem exports_are_permanent_reviewed :
    let store := commitAll gradedRequests (.quiet [lateDelivery] fun _ => "A late delivery")
    let store' := commitAll (gradedRequests ++ reviewRequests) (.quiet [lateDelivery] fun _ => "A late delivery")
    (RecordLaw store ∧ Kept store store' ∧
      ∀ order order', ∀ row ∈ store.chat.threads, row.thread.status = .completed →
        ∀ doc, getPortfolioExport store order row.id = .ok doc →
          ∃ doc', getPortfolioExport store' order' row.id = .ok doc' ∧ Continues doc doc') ∧
      store.chat.threads.map (·.thread.status) = [.completed] ∧
      store'.humanReview.map (·.id) = [40] := by
  intro store store'
  have keyed : Keyed Scenario.id [lateDelivery] := List.nodup_singleton _
  exact ⟨exports_are_permanent keyed _ gradedRequests reviewRequests (by decide), by decide +kernel,
    by decide +kernel⟩

end MeadowOps.Records
