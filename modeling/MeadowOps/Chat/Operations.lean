import MeadowOps.Chat.Service

/-!
# What an operation does

An operation that raises has written nothing; one that returns has made one of the changes listed in
`Change`.
-/

namespace MeadowOps.Chat

open Db Lib MeadowOps.Flow Scenarios

/-! ## Operations that raise -/

theorem readsOnly_loadThread (threadId : Uuid) : ReadsOnly (loadThread threadId) := by
  refine readsOnly_get.bind fun store => ?_
  cases lookup ThreadRow.id threadId store.threads with
  | none => exact readsOnly_throw _
  | some row => exact (readsOnly_liftExcept _ _).bind fun _ => readsOnly_pure _

theorem raisesClean_insertMessage (message : ChatMessage) : RaisesClean (insertMessage message) := by
  refine readsOnly_get.bind_clean fun store => ?_
  cases insert? ChatMessage.id message store.messages with
  | none => exact .of_readsOnly (readsOnly_throw _)
  | some messages => exact .of_neverRaises (neverRaises_modify fun _ => _)

theorem raisesClean_insertAttachment (row : AttachmentRow) : RaisesClean (insertAttachment row) := by
  refine readsOnly_get.bind_clean fun store => ?_
  cases insert? AttachmentRow.id row store.attachments with
  | none => exact .of_readsOnly (readsOnly_throw _)
  | some attachments => exact .of_neverRaises (neverRaises_modify fun _ => _)

theorem raisesClean_insertEvaluation (evaluation : Evaluation) :
    RaisesClean (insertEvaluation evaluation) := by
  refine readsOnly_get.bind_clean fun store => ?_
  cases insert? Evaluation.threadId evaluation store.evaluations with
  | none => exact .of_readsOnly (readsOnly_throw _)
  | some evaluations => exact .of_neverRaises (neverRaises_modify fun _ => _)

/-- Every operation checks before it writes. -/
theorem raisesClean_perform (now : Instant) (operation : Operation) :
    RaisesClean (operation.perform now) := by
  cases operation with
  | getOrCreateThread scenarioId persona id =>
    refine readsOnly_get.bind_clean fun store => ?_
    split
    · exact .of_readsOnly (readsOnly_pure _)
    · split
      · exact .of_readsOnly (readsOnly_throw _)
      · split
        · exact .of_readsOnly (readsOnly_throw _)
        · exact .of_neverRaises (neverRaises_modify fun _ => _)
  | sendMessage threadId call =>
    refine (readsOnly_loadThread threadId).bind_clean fun row => ?_
    refine readsOnly_get.bind_clean fun store => ?_
    refine (readsOnly_liftExcept _ _).bind_clean fun sent => ?_
    refine (raisesClean_insertMessage sent.1).bind_never fun _ => ?_
    refine (neverRaises_modify _).bind fun _ => ?_
    exact (neverRaises_modify _).bind fun _ => neverRaises_modify _
  | saveDraft threadId userId body =>
    refine (readsOnly_loadThread threadId).bind_clean fun _ => ?_
    split
    · exact .of_readsOnly (readsOnly_throw _)
    · split
      · exact .of_neverRaises (neverRaises_modify _)
      · exact .of_neverRaises (neverRaises_modify _)
  | markThreadRead threadId userId =>
    exact (readsOnly_loadThread threadId).bind_clean fun _ => .of_neverRaises (neverRaises_modify _)
  | deleteThread threadId =>
    refine (readsOnly_loadThread threadId).bind_clean fun row => ?_
    refine (readsOnly_liftExcept _ _).bind_clean fun thread => ?_
    exact .of_neverRaises (neverRaises_modify _)
  | completeThread threadId order answer =>
    refine (readsOnly_loadThread threadId).bind_clean fun row => ?_
    refine readsOnly_get.bind_clean fun store => ?_
    refine (readsOnly_liftExcept _ _).bind_clean fun evaluation => ?_
    exact (raisesClean_insertEvaluation evaluation).bind_never fun _ => neverRaises_modify _
  | cancelScenario scenarioId =>
    refine readsOnly_get.bind_clean fun store => ?_
    split
    · exact .of_readsOnly (readsOnly_throw _)
    · exact (readsOnly_liftExcept _ _).bind_clean fun _ => .of_neverRaises (neverRaises_modify _)
  | uploadAttachment call =>
    refine (readsOnly_loadThread call.threadId).bind_clean fun row => ?_
    split
    · exact .of_readsOnly (readsOnly_throw _)
    · split
      · exact .of_readsOnly (readsOnly_throw _)
      · split
        · exact .of_readsOnly (readsOnly_throw _)
        · exact raisesClean_insertAttachment _

/-! ## Operations that return -/

/-- A thread that `get_thread` finds. -/
structure Loaded (store : ChatStore) (threadId : Uuid) (row : ThreadRow) : Prop where
  mem : row ∈ store.threads
  id : row.thread.id = threadId
  live : row.thread.deletedAt = none

theorem loadThread_ok {threadId : Uuid} {store store' : ChatStore} {row : ThreadRow}
    (h : loadThread threadId store = .ok row store') : store = store' ∧ Loaded store threadId row := by
  obtain ⟨read, _, same, h⟩ := bind_eq_ok h
  cases same
  cases found : lookup ThreadRow.id threadId store.threads with
  | none =>
    rw [found] at h
    cases h
  | some row' =>
    rw [found] at h
    obtain ⟨thread, store₁, checked, h⟩ := bind_eq_ok h
    obtain ⟨live, rfl⟩ := liftExcept_eq_ok checked
    cases h
    obtain ⟨mem, id⟩ := lookup_mem found
    refine ⟨rfl, mem, id, ?_⟩
    unfold getThread at live
    split at live
    · cases live
    · exact Option.not_isSome_iff_eq_none.1 ‹_›

/-- The attachment that a send claims is one of the thread. -/
theorem sendMessage_attachment {call : SendCall} {now : Instant} {row thread : ChatThread}
    {message : ChatMessage} (h : sendMessage call now row = .ok (message, thread)) :
    ∀ id ∈ call.attachmentId, ∃ a, call.attachments id = some a ∧ a.threadId = row.id := by
  intro id claims
  obtain ⟨same, found, h⟩ := ok_of_bind h
  obtain ⟨_, checked, -⟩ := ok_of_bind h
  have eq : same = row := by
    unfold getThread at found
    split at found
    · cases found
    · exact (Except.ok.inj found).symm
  rw [eq, checkAttachment, Option.mem_def.1 claims] at checked
  dsimp only at checked
  cases attachment : call.attachments id with
  | none =>
    rw [attachment] at checked
    cases checked
  | some a =>
    rw [attachment] at checked
    dsimp only at checked
    split at checked
    · cases checked
    · rename_i owned
      exact ⟨a, rfl, not_not.1 fun other => owned (.inl other)⟩

theorem insertMessage_ok {message : ChatMessage} {store store' : ChatStore}
    (h : insertMessage message store = .ok () store') :
    store' = { store with messages := store.messages ++ [message] } := by
  obtain ⟨read, _, same, h⟩ := bind_eq_ok h
  cases same
  cases inserted : insert? ChatMessage.id message store.messages with
  | none =>
    rw [inserted] at h
    cases h
  | some messages =>
    rw [inserted] at h
    cases h
    rw [(insert?_eq_some inserted).1]

theorem insertAttachment_ok {row : AttachmentRow} {store store' : ChatStore}
    (h : insertAttachment row store = .ok () store') :
    row.id ∉ store.attachments.map AttachmentRow.id ∧
      store' = { store with attachments := store.attachments ++ [row] } := by
  obtain ⟨read, _, same, h⟩ := bind_eq_ok h
  cases same
  cases inserted : insert? AttachmentRow.id row store.attachments with
  | none =>
    rw [inserted] at h
    cases h
  | some attachments =>
    rw [inserted] at h
    cases h
    obtain ⟨rfl, fresh⟩ := insert?_eq_some inserted
    exact ⟨fresh, rfl⟩

theorem insertEvaluation_ok {evaluation : Evaluation} {store store' : ChatStore}
    (h : insertEvaluation evaluation store = .ok () store') :
    evaluation.threadId ∉ store.evaluations.map Evaluation.threadId ∧
      store' = { store with evaluations := store.evaluations ++ [evaluation] } := by
  obtain ⟨read, _, same, h⟩ := bind_eq_ok h
  cases same
  cases inserted : insert? Evaluation.threadId evaluation store.evaluations with
  | none =>
    rw [inserted] at h
    cases h
  | some evaluations =>
    rw [inserted] at h
    cases h
    obtain ⟨rfl, fresh⟩ := insert?_eq_some inserted
    exact ⟨fresh, rfl⟩

/-- What an operation that returns has changed. -/
inductive Change (now : Instant) (store store' : ChatStore) : Operation → Prop
  | found {scenarioId : Uuid} {persona : StakeholderPersona} {id : Uuid} (eq : store' = store) :
      Change now store store' (.getOrCreateThread scenarioId persona id)
  | created {scenarioId : Uuid} {persona : StakeholderPersona} {id : Uuid}
      (first : ∀ row ∈ store.threads, ¬ row.IsLiveFor scenarioId persona)
      (fresh : id ∉ store.threads.map ThreadRow.id)
      (eq : store' = { store with
        threads := store.threads ++ [newThread id scenarioId persona now] }) :
      Change now store store' (.getOrCreateThread scenarioId persona id)
  | sent {threadId : Uuid} {call : SendCall} {row : ThreadRow} {message : ChatMessage}
      {thread : ChatThread} (loaded : Loaded store threadId row)
      (sent : sendMessage (call.on store) now row.thread = .ok (message, thread))
      (eq : store' = withoutDraft threadId call.senderUserId (updateThread thread
        (claimAttachment call.attachmentId message.id
          { store with messages := store.messages ++ [message] }))) :
      Change now store store' (.sendMessage threadId call)
  | drafted {threadId userId : Uuid} {body : String} {drafts : List ChatThreadDraft}
      (eq : store' = { store with drafts := drafts }) :
      Change now store store' (.saveDraft threadId userId body)
  | marked {threadId userId : Uuid} {readStates : List ChatThreadReadState}
      (eq : store' = { store with readStates := readStates }) :
      Change now store store' (.markThreadRead threadId userId)
  | deleted {threadId : Uuid} {row : ThreadRow} {thread : ChatThread}
      (loaded : Loaded store threadId row) (deleted : deleteThread now row.thread = .ok thread)
      (eq : store' = updateThread thread store) : Change now store store' (.deleteThread threadId)
  | completed {threadId : Uuid} {order : RowOrder ChatMessage}
      {answer : String → Option EvaluationResult} {row : ThreadRow} {call : CompleteCall}
      {evaluation : Evaluation} (loaded : Loaded store threadId row)
      (graded : completeThreadAndGenerateEvaluation call row.thread
        (listMessages order (store.messagesOf threadId)) = .ok evaluation)
      (fresh : evaluation.threadId ∉ store.evaluations.map Evaluation.threadId)
      (eq : store' = updateThread { row.thread with status := .completed }
        { store with evaluations := store.evaluations ++ [evaluation] }) :
      Change now store store' (.completeThread threadId order answer)
  | cancelled {scenarioId : Uuid} {scenarios : List Scenario}
      (eq : store' = { store with scenarios := scenarios }) :
      Change now store store' (.cancelScenario scenarioId)
  | uploaded {call : UploadCall} {row : ThreadRow} {attachment : AttachmentRow}
      (loaded : Loaded store call.threadId row) (isOpen : row.thread.status = .open)
      (owner : attachment.attachment.threadId = call.threadId)
      (fresh : attachment.id ∉ store.attachments.map AttachmentRow.id)
      (eq : store' = { store with attachments := store.attachments ++ [attachment] }) :
      Change now store store' (.uploadAttachment call)

theorem change_of_perform {now : Instant} {operation : Operation} {store store' : ChatStore}
    (h : operation.perform now store = .ok () store') : Change now store store' operation := by
  cases operation with
  | getOrCreateThread scenarioId persona id =>
    obtain ⟨read, _, same, h⟩ := bind_eq_ok h
    cases same
    cases first : store.threads.find? fun row => row.IsLiveFor scenarioId persona with
    | some row =>
      rw [first] at h
      cases h
      exact .found rfl
    | none =>
      rw [first] at h
      dsimp only at h
      split at h
      · cases h
      · cases inserted : insert? ThreadRow.id (newThread id scenarioId persona now) store.threads with
        | none =>
          rw [inserted] at h
          cases h
        | some threads =>
          rw [inserted] at h
          cases h
          obtain ⟨rfl, fresh⟩ := insert?_eq_some inserted
          refine .created ?_ fresh rfl
          intro row mem live
          exact absurd (decide_eq_true live) (List.find?_eq_none.1 first row mem)
  | sendMessage threadId call =>
    obtain ⟨row, _, load, h⟩ := bind_eq_ok h
    obtain ⟨rfl, loaded⟩ := loadThread_ok load
    obtain ⟨read, _, same, h⟩ := bind_eq_ok h
    cases same
    obtain ⟨sent, _, returned, h⟩ := bind_eq_ok h
    obtain ⟨accepted, rfl⟩ := liftExcept_eq_ok returned
    obtain ⟨_, _, insert, h⟩ := bind_eq_ok h
    obtain rfl := insertMessage_ok insert
    cases h
    exact .sent loaded accepted rfl
  | saveDraft threadId userId body =>
    obtain ⟨row, _, load, h⟩ := bind_eq_ok h
    obtain ⟨rfl, loaded⟩ := loadThread_ok load
    split at h
    · cases h
    · split at h
      · cases h
        exact .drafted rfl
      · cases h
        show Change now _ (upsertDraft _ _) _
        unfold upsertDraft
        split
        · exact .drafted rfl
        · exact .drafted rfl
  | markThreadRead threadId userId =>
    obtain ⟨row, _, load, h⟩ := bind_eq_ok h
    obtain ⟨rfl, loaded⟩ := loadThread_ok load
    cases h
    dsimp only
    split
    · exact .marked rfl
    · exact .marked rfl
  | deleteThread threadId =>
    obtain ⟨row, _, load, h⟩ := bind_eq_ok h
    obtain ⟨rfl, loaded⟩ := loadThread_ok load
    obtain ⟨thread, _, returned, h⟩ := bind_eq_ok h
    obtain ⟨deleted, rfl⟩ := liftExcept_eq_ok returned
    cases h
    exact .deleted loaded deleted rfl
  | completeThread threadId order answer =>
    obtain ⟨row, _, load, h⟩ := bind_eq_ok h
    obtain ⟨rfl, loaded⟩ := loadThread_ok load
    obtain ⟨read, _, same, h⟩ := bind_eq_ok h
    cases same
    obtain ⟨evaluation, _, returned, h⟩ := bind_eq_ok h
    obtain ⟨graded, rfl⟩ := liftExcept_eq_ok returned
    obtain ⟨_, _, insert, h⟩ := bind_eq_ok h
    obtain ⟨fresh, rfl⟩ := insertEvaluation_ok insert
    cases h
    exact .completed loaded graded fresh rfl
  | cancelScenario scenarioId =>
    obtain ⟨read, _, same, h⟩ := bind_eq_ok h
    cases same
    cases found : lookup Scenario.id scenarioId store.scenarios with
    | none =>
      rw [found] at h
      cases h
    | some scenario =>
      rw [found] at h
      obtain ⟨_, _, returned, h⟩ := bind_eq_ok h
      obtain ⟨-, rfl⟩ := liftExcept_eq_ok returned
      cases h
      exact .cancelled rfl
  | uploadAttachment call =>
    obtain ⟨row, _, load, h⟩ := bind_eq_ok h
    obtain ⟨rfl, loaded⟩ := loadThread_ok load
    split at h
    · cases h
    · rename_i notCompleted
      split at h
      · cases h
      · have isOpen : row.thread.status = .open := by
          cases status : row.thread.status with
          | «open» => rfl
          | completed => exact absurd status notCompleted
        cases valid : call.contentType with
        | none =>
          rw [valid] at h
          cases h
        | some contentType =>
          rw [valid] at h
          obtain ⟨fresh, rfl⟩ := insertAttachment_ok h
          exact .uploaded loaded isOpen rfl fresh rfl

end MeadowOps.Chat
