import MeadowOps.Chat.Operations
import MeadowOps.Chat.TranscriptOrder

/-!
# The life of a chat thread

The operations of the chat, one after another, each in a transaction that starts later than the one
before it.
-/

namespace MeadowOps.Chat

open Db Lib MeadowOps.Flow Scenarios

/-- What holds of the chat after any sequence of operations. -/
structure LifecycleLaw (store : ChatStore) : Prop where
  /-- A thread is completed if and only if exactly one evaluation references it. -/
  evaluated : ∀ row ∈ store.threads, row.thread.status = .completed ↔
    (store.evaluations.filter fun e => e.threadId = row.id).length = 1
  completed : ∀ row ∈ store.threads, row.thread.status = .completed →
    row.thread.deadlineAt = none ∧ row.thread.deletedAt = none ∧
      ∀ order, ∃ m, (listMessages order (store.messagesOf row.id)).getLast? = some m ∧
        m.senderRole = .analyst
  /-- An open thread waits for nobody if and only if the Analyst had the last word, or nobody spoke. -/
  window : ∀ order, ∀ row ∈ store.threads, row.thread.status = .open →
    (row.thread.deadlineAt = none ↔
      ∀ m, (listMessages order (store.messagesOf row.id)).getLast? = some m → m.senderRole = .analyst)
  oneLive : ∀ scenarioId persona, ∀ row ∈ store.threads, ∀ row' ∈ store.threads,
    row.IsLiveFor scenarioId persona → row'.IsLiveFor scenarioId persona → row = row'

def ChatStore.attachmentsOf (store : ChatStore) (threadId : Uuid) : List AttachmentRow :=
  store.attachments.filter fun a => a.attachment.threadId = threadId

/-- A completed thread stays as it is, with its messages and attachments. -/
def Frozen (store store' : ChatStore) : Prop :=
  ∀ row ∈ store.threads, row.thread.status = .completed → row ∈ store'.threads ∧
    store'.messagesOf row.id = store.messagesOf row.id ∧
    store'.attachmentsOf row.id = store.attachmentsOf row.id

/-- What one operation may do to the chat: nothing when it raises, and a send that returns removes the
sender's draft of the thread and no other. -/
structure OperationLaw (store : ChatStore) (now : Instant) (operation : Operation) : Prop where
  raises : ∀ e store', operation.perform now store = .error e store' → store' = store
  draft : ∀ threadId call store', operation = .sendMessage threadId call →
    operation.perform now store = .ok () store' →
    store'.drafts = store.drafts.filter fun d => ¬ (d.threadId = threadId ∧ d.userId = call.senderUserId)

/-! ## The invariant -/

/-- What holds of one thread. -/
structure ThreadInv (store : ChatStore) (row : ThreadRow) : Prop where
  evaluated : row.thread.status = .completed ↔ ∃ e ∈ store.evaluations, e.threadId = row.id
  completed : row.thread.status = .completed → row.thread.deletedAt = none ∧
    ∃ m, (store.messagesOf row.id).getLast? = some m ∧ m.senderRole = .analyst
  window : row.thread.deadlineAt = none ↔
    ∀ m, (store.messagesOf row.id).getLast? = some m → m.senderRole = .analyst

structure LifecycleInv (clock : Instant) (store : ChatStore) : Prop where
  threads : Keyed ThreadRow.id store.threads
  attachments : Keyed AttachmentRow.id store.attachments
  evaluations : Keyed Evaluation.threadId store.evaluations
  increasing : store.messages.Pairwise fun m n => m.sentAt < n.sentAt
  past : ∀ m ∈ store.messages, m.sentAt ≤ clock
  messagesKnown : ∀ m ∈ store.messages, m.threadId ∈ store.threads.map ThreadRow.id
  evaluationsKnown : ∀ e ∈ store.evaluations, e.threadId ∈ store.threads.map ThreadRow.id
  rows : ∀ row ∈ store.threads, ThreadInv store row
  oneLive : ∀ scenarioId persona, ∀ row ∈ store.threads, ∀ row' ∈ store.threads,
    row.IsLiveFor scenarioId persona → row'.IsLiveFor scenarioId persona → row = row'

/-- A thread whose messages and evaluations stay. -/
theorem ThreadInv.transport {store store' : ChatStore} {row : ThreadRow} (h : ThreadInv store row)
    (messages : store'.messagesOf row.id = store.messagesOf row.id)
    (evaluations : (∃ e ∈ store'.evaluations, e.threadId = row.id) ↔
      ∃ e ∈ store.evaluations, e.threadId = row.id) : ThreadInv store' row where
  evaluated := h.evaluated.trans evaluations.symm
  completed := by
    rw [messages]
    exact h.completed
  window := by
    rw [messages]
    exact h.window

/-- Tables that the invariant does not look at. -/
theorem LifecycleInv.transport {clock clock' : Instant} {store store' : ChatStore}
    (h : LifecycleInv clock store) (later : clock ≤ clock') (threads : store'.threads = store.threads)
    (messages : store'.messages = store.messages)
    (attachments : Keyed AttachmentRow.id store'.attachments)
    (evaluations : store'.evaluations = store.evaluations) : LifecycleInv clock' store' where
  threads := threads ▸ h.threads
  attachments := attachments
  evaluations := evaluations ▸ h.evaluations
  increasing := messages ▸ h.increasing
  past := by
    intro m mem
    rw [messages] at mem
    exact (h.past m mem).trans later
  messagesKnown := by
    rw [messages, threads]
    exact h.messagesKnown
  evaluationsKnown := by
    rw [evaluations, threads]
    exact h.evaluationsKnown
  rows := by
    intro row mem
    rw [threads] at mem
    apply (h.rows row mem).transport
    · rw [ChatStore.messagesOf, messages]
      rfl
    · rw [evaluations]
  oneLive := by
    rw [threads]
    exact h.oneLive

theorem listMessages_messagesOf {clock : Instant} {store : ChatStore} (h : LifecycleInv clock store)
    (order : RowOrder ChatMessage) (threadId : Uuid) :
    listMessages order (store.messagesOf threadId) = store.messagesOf threadId :=
  listMessages_of_increasing (h.increasing.filter _) order

theorem LifecycleInv.law {clock : Instant} {store : ChatStore} (h : LifecycleInv clock store) :
    LifecycleLaw store where
  evaluated := by
    intro row mem
    exact (h.rows row mem).evaluated.trans (h.evaluations.filter_length row.id).symm
  completed := by
    intro row mem completed
    obtain ⟨live, m, last, analyst⟩ := (h.rows row mem).completed completed
    refine ⟨(h.rows row mem).window.2 ?_, live, fun order => ⟨m, ?_, analyst⟩⟩
    · intro m' last'
      rw [last] at last'
      cases last'
      exact analyst
    · rw [listMessages_messagesOf h]
      exact last
  window := by
    intro order row mem _
    rw [listMessages_messagesOf h]
    exact (h.rows row mem).window
  oneLive := h.oneLive

/-! ## Changing one thread -/

/-- The rows after the columns of one thread are written. -/
theorem mem_updateThread {clock : Instant} {store : ChatStore} (h : LifecycleInv clock store)
    {row row' : ThreadRow} {thread : ChatThread} (mem : row ∈ store.threads)
    (id : thread.id = row.id) (mem' : row' ∈ (updateThread thread store).threads) :
    row' = { row with thread := thread } ∨ (row' ∈ store.threads ∧ row'.id ≠ row.id) := by
  obtain ⟨old, oldMem, rfl⟩ := mem_modify.1 mem'
  by_cases same : old.id = thread.id
  · rw [if_pos same]
    have only : old = row := List.inj_on_of_nodup_map h.threads oldMem mem (same.trans id)
    rw [only]
    exact .inl rfl
  · rw [if_neg same]
    exact .inr ⟨oldMem, fun eq => same (eq.trans id.symm)⟩

theorem ids_updateThread (thread : ChatThread) (store : ChatStore) :
    (updateThread thread store).threads.map ThreadRow.id = store.threads.map ThreadRow.id :=
  map_key_modify fun _ _ => rfl

/-- The columns of one open thread are written, with at most one message and one evaluation of it. -/
structure Touches (now : Instant) (row : ThreadRow) (thread : ChatThread)
    (sent : Option ChatMessage) (graded : Option Evaluation) (store store' : ChatStore) : Prop where
  mem : row ∈ store.threads
  id : thread.id = row.id
  scenario : thread.scenarioId = row.thread.scenarioId
  live : row.thread.deletedAt = none
  isOpen : row.thread.status = .open
  threads : store'.threads = (updateThread thread store).threads
  messages : store'.messages = store.messages ++ sent.toList
  sentNow : ∀ m ∈ sent, m.sentAt = now ∧ m.threadId = row.id
  evaluations : store'.evaluations = store.evaluations ++ graded.toList
  gradedFirst : ∀ e ∈ graded, e.threadId = row.id ∧ e.threadId ∉ store.evaluations.map Evaluation.threadId
  attachments : store'.attachments.map AttachmentRow.id = store.attachments.map AttachmentRow.id
  claimed : ∀ id ≠ row.id, store'.attachmentsOf id = store.attachmentsOf id

section Touches

variable {clock now : Instant} {store store' : ChatStore} {row : ThreadRow} {thread : ChatThread}
  {sent : Option ChatMessage} {graded : Option Evaluation}

theorem Touches.messagesOf_of_ne (t : Touches now row thread sent graded store store') {id : Uuid}
    (ne : id ≠ row.id) : store'.messagesOf id = store.messagesOf id := by
  rw [ChatStore.messagesOf, t.messages, List.filter_append]
  have none : (sent.toList.filter fun m => decide (m.threadId = id)) = [] := by
    rw [List.filter_eq_nil_iff]
    intro m mem
    have of := (t.sentNow m (Option.mem_toList.1 mem)).2
    simpa [of] using ne.symm
  rw [none, List.append_nil]
  rfl

theorem Touches.messagesOf (t : Touches now row thread sent graded store store') :
    store'.messagesOf row.id = store.messagesOf row.id ++ sent.toList := by
  rw [ChatStore.messagesOf, t.messages, List.filter_append]
  have all : (sent.toList.filter fun m => decide (m.threadId = row.id)) = sent.toList := by
    rw [List.filter_eq_self]
    intro m mem
    exact decide_eq_true (t.sentNow m (Option.mem_toList.1 mem)).2
  rw [all]
  rfl

theorem Touches.evaluated_iff_of_ne (t : Touches now row thread sent graded store store') {id : Uuid}
    (ne : id ≠ row.id) :
    (∃ e ∈ store'.evaluations, e.threadId = id) ↔ ∃ e ∈ store.evaluations, e.threadId = id := by
  rw [t.evaluations]
  constructor
  · rintro ⟨e, mem, of⟩
    rcases List.mem_append.1 mem with mem | mem
    · exact ⟨e, mem, of⟩
    · have of' := (t.gradedFirst e (Option.mem_toList.1 mem)).1
      exact absurd (of.symm.trans of') ne
  · rintro ⟨e, mem, of⟩
    exact ⟨e, List.mem_append_left _ mem, of⟩

/-- The other threads keep what holds of them; the touched one must have it again. -/
theorem Touches.inv (t : Touches now row thread sent graded store store')
    (h : LifecycleInv clock store) (later : clock < now)
    (again : ThreadInv store' { row with thread := thread }) : LifecycleInv now store' := by
  have ids : store'.threads.map ThreadRow.id = store.threads.map ThreadRow.id := by
    rw [t.threads]
    exact ids_updateThread thread store
  have known : row.id ∈ store.threads.map ThreadRow.id := List.mem_map_of_mem t.mem
  constructor
  case threads =>
    rw [Keyed, ids]
    exact h.threads
  case attachments =>
    rw [Keyed, t.attachments]
    exact h.attachments
  case evaluations =>
    rw [t.evaluations]
    cases graded with
    | none => exact (List.append_nil store.evaluations).symm ▸ h.evaluations
    | some e => exact Keyed.append h.evaluations (t.gradedFirst e rfl).2
  case increasing =>
    rw [t.messages, List.pairwise_append]
    refine ⟨h.increasing, ?_, ?_⟩
    · cases sent with
      | none => exact .nil
      | some m => exact List.pairwise_singleton _ m
    · intro m mem n new
      rw [(t.sentNow n (Option.mem_toList.1 new)).1]
      exact (h.past m mem).trans_lt later
  case past =>
    intro m mem
    rw [t.messages] at mem
    rcases List.mem_append.1 mem with mem | new
    · exact (h.past m mem).trans later.le
    · exact (t.sentNow m (Option.mem_toList.1 new)).1.le
  case messagesKnown =>
    intro m mem
    rw [ids]
    rw [t.messages] at mem
    rcases List.mem_append.1 mem with mem | new
    · exact h.messagesKnown m mem
    · exact (t.sentNow m (Option.mem_toList.1 new)).2 ▸ known
  case evaluationsKnown =>
    intro e mem
    rw [ids]
    rw [t.evaluations] at mem
    rcases List.mem_append.1 mem with mem | new
    · exact h.evaluationsKnown e mem
    · exact (t.gradedFirst e (Option.mem_toList.1 new)).1 ▸ known
  case rows =>
    intro row' mem'
    rw [t.threads] at mem'
    rcases mem_updateThread h t.mem t.id mem' with rfl | ⟨old, ne⟩
    · exact again
    · exact (h.rows row' old).transport (t.messagesOf_of_ne ne) (t.evaluated_iff_of_ne ne)
  case oneLive =>
    intro scenarioId persona row₁ mem₁ row₂ mem₂ live₁ live₂
    rw [t.threads] at mem₁ mem₂
    -- the touched row was live before, for the same scenario and persona
    have before : ThreadRow.IsLiveFor { row with thread := thread } scenarioId persona →
        row.IsLiveFor scenarioId persona := by
      rintro ⟨scenario, persona, -⟩
      exact ⟨t.scenario.symm.trans scenario, persona, t.live⟩
    rcases mem_updateThread h t.mem t.id mem₁ with rfl | ⟨old₁, ne₁⟩
    · rcases mem_updateThread h t.mem t.id mem₂ with rfl | ⟨old₂, ne₂⟩
      · rfl
      · have same := h.oneLive _ _ row t.mem row₂ old₂ (before live₁) live₂
        exact absurd (congrArg ThreadRow.id same.symm) ne₂
    · rcases mem_updateThread h t.mem t.id mem₂ with rfl | ⟨old₂, ne₂⟩
      · have same := h.oneLive _ _ row₁ old₁ row t.mem live₁ (before live₂)
        exact absurd (congrArg ThreadRow.id same) ne₁
      · exact h.oneLive _ _ row₁ old₁ row₂ old₂ live₁ live₂

/-- The touched thread was open. -/
theorem Touches.frozen (t : Touches now row thread sent graded store store')
    (h : LifecycleInv clock store) : Frozen store store' := by
  intro row' mem' completed
  have ne : row'.id ≠ row.id := by
    intro same
    have eq : row' = row := List.inj_on_of_nodup_map h.threads mem' t.mem same
    rw [eq, t.isOpen] at completed
    cases completed
  refine ⟨?_, t.messagesOf_of_ne ne, t.claimed _ ne⟩
  rw [t.threads]
  exact mem_modify_of_ne mem' fun same => ne (same.trans t.id)

end Touches

/-! ## The operations that write a thread -/

/-- The claimed attachment is one of the thread. -/
theorem attachmentsOf_claim {clock now : Instant} {store : ChatStore} (h : LifecycleInv clock store)
    {call : SendCall} {row thread : ChatThread} {message : ChatMessage}
    (sent : sendMessage (call.on store) now row = .ok (message, thread)) (messages : List ChatMessage)
    {id : Uuid} (ne : id ≠ row.id) :
    (claimAttachment call.attachmentId message.id { store with messages := messages }).attachmentsOf id
      = store.attachmentsOf id := by
  cases claims : call.attachmentId with
  | none => rfl
  | some attachmentId =>
    have owned := sendMessage_attachment sent
    rw [show (call.on store).attachmentId = some attachmentId from claims] at owned
    obtain ⟨attachment, found, owner⟩ := owned attachmentId rfl
    obtain ⟨claimed, foundRow, rfl⟩ := Option.map_eq_some_iff.1 found
    obtain ⟨mem, claimedId⟩ := lookup_mem foundRow
    show (modify AttachmentRow.id attachmentId _ store.attachments).filter _ = _
    rw [filter_modify_of_not]
    · rfl
    · intro a memA ofA
      have only : a = claimed :=
        List.inj_on_of_nodup_map h.attachments memA mem (ofA.trans claimedId.symm)
      have other : a.attachment.threadId ≠ id := by
        rw [only, owner]
        exact ne.symm
      exact ⟨decide_eq_false other, decide_eq_false other⟩

theorem touches_send {clock now : Instant} {store : ChatStore} (h : LifecycleInv clock store)
    {threadId : Uuid} {call : SendCall} {row : ThreadRow} {message : ChatMessage} {thread : ChatThread}
    (loaded : Loaded store threadId row)
    (sent : sendMessage (call.on store) now row.thread = .ok (message, thread)) :
    Touches now row thread (some message) none store
      (withoutDraft threadId call.senderUserId (updateThread thread
        (claimAttachment call.attachmentId message.id
          { store with messages := store.messages ++ [message] }))) := by
  obtain ⟨isOpen, -, id, of⟩ := sendMessage_ok sent
  obtain ⟨live, rfl, at_, -, -⟩ := sendMessage_spec sent
  have claimed := fun other (ne : other ≠ row.id) => attachmentsOf_claim h sent (store.messages ++ [message]) ne
  constructor
  case mem => exact loaded.mem
  case id => exact id
  case scenario => rfl
  case live => exact live
  case isOpen => exact isOpen
  case threads => cases call.attachmentId <;> rfl
  case messages => cases call.attachmentId <;> rfl
  case evaluations => cases call.attachmentId <;> exact (List.append_nil _).symm
  case sentNow =>
    rintro m ⟨⟩
    exact ⟨at_, of⟩
  case gradedFirst => rintro e ⟨⟩
  case attachments =>
    cases call.attachmentId with
    | none => rfl
    | some attachmentId => exact map_key_modify fun _ same => same
  case claimed => exact claimed

/-- A send moves the response window with the last message. -/
theorem threadInv_send {clock now : Instant} {store store' : ChatStore} (h : LifecycleInv clock store)
    {call : SendCall} {row : ThreadRow} {message : ChatMessage} {thread : ChatThread}
    (t : Touches now row thread (some message) none store store')
    (sent : sendMessage call now row.thread = .ok (message, thread)) :
    ThreadInv store' { row with thread := thread } := by
  obtain ⟨_, isOpen, -, -⟩ := sendMessage_ok sent
  obtain ⟨-, rfl, -, role, -⟩ := sendMessage_spec sent
  have last : (store'.messagesOf row.id).getLast? = some message := by
    rw [t.messagesOf]
    exact List.getLast?_concat
  have id : ThreadRow.id { row with thread := answered call row.thread } = row.id := t.id
  have notCompleted : (answered call row.thread).status ≠ .completed := by
    rw [isOpen]
    exact ChatThreadStatus.noConfusion
  constructor
  · rw [id, t.evaluations, Option.toList_none, List.append_nil, ← (h.rows row t.mem).evaluated, t.isOpen]
    exact ⟨fun completed => absurd completed notCompleted, fun completed => by cases completed⟩
  · exact fun completed => absurd completed notCompleted
  · rw [id, last]
    show (if call.senderRole = .analyst then none else some _) = none ↔ _
    rw [← role]
    by_cases analyst : message.senderRole = .analyst
    · simp [analyst]
    · simp [analyst]

theorem touches_delete {now : Instant} {store : ChatStore} {threadId : Uuid} {row : ThreadRow}
    {thread : ChatThread} (loaded : Loaded store threadId row)
    (deleted : deleteThread now row.thread = .ok thread) :
    Touches now row thread none none store (updateThread thread store) := by
  obtain ⟨isOpen, live, rfl⟩ := deleteThread_ok deleted
  exact ⟨loaded.mem, rfl, rfl, live, isOpen, rfl, (List.append_nil _).symm, nofun,
    (List.append_nil _).symm, nofun, rfl, fun _ _ => rfl⟩

theorem threadInv_delete {clock now : Instant} {store : ChatStore} (h : LifecycleInv clock store)
    {row : ThreadRow} {thread : ChatThread} (mem : row ∈ store.threads)
    (deleted : deleteThread now row.thread = .ok thread) :
    ThreadInv (updateThread thread store) { row with thread := thread } := by
  obtain ⟨isOpen, -, rfl⟩ := deleteThread_ok deleted
  have before := h.rows row mem
  refine ⟨before.evaluated, fun completed => ?_, before.window⟩
  exact absurd (isOpen.symm.trans completed) ChatThreadStatus.noConfusion

theorem touches_complete {clock : Instant} (now : Instant) {store : ChatStore} (h : LifecycleInv clock store)
    {threadId : Uuid} {row : ThreadRow} {call : CompleteCall} {evaluation : Evaluation}
    {messages : List ChatMessage} (loaded : Loaded store threadId row)
    (graded : completeThreadAndGenerateEvaluation call row.thread messages = .ok evaluation)
    (fresh : evaluation.threadId ∉ store.evaluations.map Evaluation.threadId) :
    Touches now row { row.thread with status := .completed } none (some evaluation) store
      (updateThread { row.thread with status := .completed }
        { store with evaluations := store.evaluations ++ [evaluation] }) := by
  have of := (complete_ok graded).1
  have isOpen : row.thread.status = .open := by
    cases status : row.thread.status with
    | «open» => rfl
    | completed =>
      obtain ⟨e, mem, of'⟩ := (h.rows row loaded.mem).evaluated.1 status
      have taken := List.mem_map_of_mem (f := Evaluation.threadId) mem
      rw [of'] at taken
      rw [of] at fresh
      exact absurd taken fresh
  refine ⟨loaded.mem, rfl, rfl, loaded.live, isOpen, rfl, (List.append_nil _).symm, nofun, rfl, ?_, rfl,
    fun _ _ => rfl⟩
  rintro e ⟨⟩
  exact ⟨of, fresh⟩

theorem threadInv_complete {clock : Instant} {store : ChatStore} (h : LifecycleInv clock store)
    {threadId : Uuid} {row : ThreadRow} {order : RowOrder ChatMessage} {call : CompleteCall}
    {evaluation : Evaluation} (loaded : Loaded store threadId row)
    (graded : completeThreadAndGenerateEvaluation call row.thread
      (listMessages order (store.messagesOf threadId)) = .ok evaluation) :
    ThreadInv
      (updateThread { row.thread with status := .completed }
        { store with evaluations := store.evaluations ++ [evaluation] })
      { row with thread := { row.thread with status := .completed } } := by
  obtain ⟨of, -, -, m, last, analyst⟩ := complete_ok graded
  rw [listMessages_messagesOf h, ← loaded.id] at last
  constructor
  · refine ⟨fun _ => ⟨evaluation, ?_, of⟩, fun _ => rfl⟩
    exact List.mem_append_right _ (List.mem_singleton_self _)
  · exact fun _ => ⟨loaded.live, m, last, analyst⟩
  · exact (h.rows row loaded.mem).window

/-! ## One operation -/

/-- A new thread has neither messages nor an evaluation. -/
theorem LifecycleInv.create {clock : Instant} {store : ChatStore} (h : LifecycleInv clock store)
    {scenarioId : Uuid} {persona : StakeholderPersona} {id : Uuid} (now : Instant)
    (first : ∀ row ∈ store.threads, ¬ row.IsLiveFor scenarioId persona)
    (fresh : id ∉ store.threads.map ThreadRow.id) :
    LifecycleInv clock
      { store with threads := store.threads ++ [newThread id scenarioId persona now] } := by
  have known : ∀ other ∈ store.threads.map ThreadRow.id,
      other ∈ (store.threads ++ [newThread id scenarioId persona now]).map ThreadRow.id := by
    intro other mem
    rw [List.map_append]
    exact List.mem_append_left _ mem
  constructor
  case threads => exact Keyed.append h.threads fresh
  case attachments => exact h.attachments
  case evaluations => exact h.evaluations
  case increasing => exact h.increasing
  case past => exact h.past
  case messagesKnown => exact fun m mem => known _ (h.messagesKnown m mem)
  case evaluationsKnown => exact fun e mem => known _ (h.evaluationsKnown e mem)
  case rows =>
    intro row mem
    rcases List.mem_append.1 mem with old | new
    · exact (h.rows row old).transport rfl Iff.rfl
    · obtain rfl := List.mem_singleton.1 new
      have silent : store.messagesOf id = [] := by
        rw [ChatStore.messagesOf, List.filter_eq_nil_iff]
        intro m mem of
        exact fresh (of_decide_eq_true of ▸ h.messagesKnown m mem)
      have ungraded : ¬ ∃ e ∈ store.evaluations, e.threadId = id := by
        rintro ⟨e, graded, of⟩
        exact fresh (of ▸ h.evaluationsKnown e graded)
      constructor
      · exact ⟨nofun, fun graded => absurd graded ungraded⟩
      · nofun
      · refine ⟨fun _ m last => ?_, fun _ => rfl⟩
        change (store.messagesOf id).getLast? = some m at last
        rw [silent] at last
        cases last
  case oneLive =>
    intro scenarioId' persona' row₁ mem₁ row₂ mem₂ live₁ live₂
    -- the new row is live for its own pair only, for which no other row is
    have apart : ∀ row ∈ store.threads, row.IsLiveFor scenarioId' persona' →
        ¬ (newThread id scenarioId persona now).IsLiveFor scenarioId' persona' := by
      rintro row mem live ⟨rfl, rfl, -⟩
      exact first row mem live
    rcases List.mem_append.1 mem₁ with old₁ | new₁
    · rcases List.mem_append.1 mem₂ with old₂ | new₂
      · exact h.oneLive _ _ row₁ old₁ row₂ old₂ live₁ live₂
      · exact absurd (List.mem_singleton.1 new₂ ▸ live₂) (apart row₁ old₁ live₁)
    · rcases List.mem_append.1 mem₂ with old₂ | new₂
      · exact absurd (List.mem_singleton.1 new₁ ▸ live₁) (apart row₂ old₂ live₂)
      · exact (List.mem_singleton.1 new₁).trans (List.mem_singleton.1 new₂).symm

theorem LifecycleInv.later {clock now : Instant} {store : ChatStore} (h : LifecycleInv clock store)
    (later : clock ≤ now) : LifecycleInv now store :=
  h.transport later rfl rfl h.attachments rfl

/-- The step lemma: one case for each operation. -/
theorem LifecycleInv.change {clock now : Instant} {store store' : ChatStore} {operation : Operation}
    (h : LifecycleInv clock store) (later : clock < now)
    (change : Change now store store' operation) :
    LifecycleInv now store' ∧ Frozen store store' := by
  have still : Frozen store store := fun row mem _ => ⟨mem, rfl, rfl⟩
  cases change with
  | found eq =>
    rw [eq]
    exact ⟨h.later later.le, still⟩
  | created first fresh eq =>
    rw [eq]
    exact ⟨(h.create now first fresh).later later.le,
      fun row mem _ => ⟨List.mem_append_left _ mem, rfl, rfl⟩⟩
  | sent loaded sent eq =>
    have t := eq ▸ touches_send h loaded sent
    exact ⟨t.inv h later (threadInv_send h t sent), t.frozen h⟩
  | drafted eq =>
    rw [eq]
    exact ⟨h.transport later.le rfl rfl h.attachments rfl, still⟩
  | marked eq =>
    rw [eq]
    exact ⟨h.transport later.le rfl rfl h.attachments rfl, still⟩
  | deleted loaded deleted eq =>
    rw [eq]
    have t := touches_delete loaded deleted
    exact ⟨t.inv h later (threadInv_delete h loaded.mem deleted), t.frozen h⟩
  | completed loaded graded fresh eq =>
    rw [eq]
    have t := touches_complete now h loaded graded fresh
    exact ⟨t.inv h later (threadInv_complete h loaded graded), t.frozen h⟩
  | cancelled eq =>
    rw [eq]
    exact ⟨h.transport later.le rfl rfl h.attachments rfl, still⟩
  | uploaded loaded isOpen owner fresh eq =>
    rw [eq]
    refine ⟨h.transport later.le rfl rfl (Keyed.append h.attachments fresh) rfl, ?_⟩
    rename_i call row attachment
    intro row' mem completed
    have other : attachment.attachment.threadId ≠ row'.id := by
      intro same
      have eq : row' = row :=
        List.inj_on_of_nodup_map h.threads mem loaded.mem (same.symm.trans (owner.trans loaded.id.symm))
      rw [eq, isOpen] at completed
      cases completed
    refine ⟨mem, rfl, ?_⟩
    show (store.attachments ++ [attachment]).filter _ = _
    rw [List.filter_append, List.filter_singleton, decide_eq_false other]
    exact List.append_nil _

theorem operationLaw (store : ChatStore) (now : Instant) (operation : Operation) :
    OperationLaw store now operation where
  raises := fun _ _ raised => raisesClean_perform now operation _ _ _ raised
  draft := by
    rintro threadId call store' rfl ran
    cases change_of_perform ran with
    | sent _ _ eq =>
      rw [eq]
      show List.filter _ (claimAttachment _ _ _).drafts = _
      cases call.attachmentId with
      | none => rfl
      | some attachmentId => rfl

/-! ## Sequences of operations -/

theorem LifecycleInv.perform {clock now : Instant} {store : ChatStore} (h : LifecycleInv clock store)
    (later : clock < now) (operation : Operation) :
    LifecycleInv now (endState (operation.perform now store)) ∧
      Frozen store (endState (operation.perform now store)) := by
  cases ran : operation.perform now store with
  | ok value store' => exact h.change later (change_of_perform ran)
  | error e store' =>
    have same : store' = store := raisesClean_perform now operation _ _ _ ran
    show LifecycleInv now store' ∧ Frozen store store'
    rw [same]
    exact ⟨h.later later.le, fun row mem _ => ⟨mem, rfl, rfl⟩⟩

theorem Frozen.trans {store₁ store₂ store₃ : ChatStore} (first : Frozen store₁ store₂)
    (second : Frozen store₂ store₃) : Frozen store₁ store₃ := by
  intro row mem completed
  obtain ⟨mem₂, messages, attachments⟩ := first row mem completed
  obtain ⟨mem₃, messages', attachments'⟩ := second row mem₂ completed
  exact ⟨mem₃, messages'.trans messages, attachments'.trans attachments⟩

/-- The run lemma: each operation starts after the one before it. -/
theorem LifecycleInv.performAll {clock : Instant} {store : ChatStore} {steps : List (Operation × Instant)}
    (h : LifecycleInv clock store) (times : (clock :: steps.map (·.2)).Pairwise (· < ·)) :
    Frozen store (performAll steps store) := by
  induction steps generalizing clock store with
  | nil => exact fun row mem _ => ⟨mem, rfl, rfl⟩
  | cons step steps ih =>
    obtain ⟨later, rest⟩ := List.pairwise_cons.1 times
    obtain ⟨next, frozen⟩ := h.perform (later step.2 (List.mem_cons_self ..)) step.1
    exact frozen.trans (ih next rest)

/-- Between two parts of a run the invariant holds, at a time before the second part. -/
theorem LifecycleInv.performAll_append {clock : Instant} {store : ChatStore}
    {before after : List (Operation × Instant)} (h : LifecycleInv clock store)
    (times : (clock :: (before ++ after).map (·.2)).Pairwise (· < ·)) :
    ∃ now, LifecycleInv now (Chat.performAll before store) ∧
      (now :: after.map (·.2)).Pairwise (· < ·) := by
  induction before generalizing clock store with
  | nil => exact ⟨clock, h, times⟩
  | cons step steps ih =>
    obtain ⟨later, rest⟩ := List.pairwise_cons.1 times
    exact ih (h.perform (later step.2 (List.mem_cons_self ..)) step.1).1 rest

/-- Some scenarios and nothing else. -/
def ChatStore.quiet (scenarios : List Scenario) : ChatStore := ⟨scenarios, [], [], [], [], [], []⟩

theorem lifecycleInv_quiet (scenarios : List Scenario) (clock : Instant) :
    LifecycleInv clock (.quiet scenarios) where
  threads := List.nodup_nil
  attachments := List.nodup_nil
  evaluations := List.nodup_nil
  increasing := .nil
  past := fun _ mem => absurd mem List.not_mem_nil
  messagesKnown := fun _ mem => absurd mem List.not_mem_nil
  evaluationsKnown := fun _ mem => absurd mem List.not_mem_nil
  rows := fun _ mem => absurd mem List.not_mem_nil
  oneLive := fun _ _ _ mem => absurd mem List.not_mem_nil

/-- There is a time before all of them. -/
theorem pairwise_before {times : List Instant} (h : times.Pairwise (· < ·)) :
    ∃ clock, (clock :: times).Pairwise (· < ·) := by
  cases times with
  | nil => exact ⟨0, List.pairwise_singleton _ _⟩
  | cons time times =>
    refine ⟨time - 1, List.pairwise_cons.2 ⟨fun other mem => ?_, h⟩⟩
    rcases List.mem_cons.1 mem with rfl | mem
    · exact Int.sub_one_lt_of_le le_rfl
    · exact (Int.sub_one_lt_of_le le_rfl).trans ((List.pairwise_cons.1 h).1 other mem)

/-- After any sequence of operations the chat obeys its law, what was completed stays as it is, and
whatever comes next obeys its own. -/
theorem chat_thread_lifecycle (scenarios : List Scenario) (before after : List (Operation × Instant))
    (times : ((before ++ after).map (·.2)).Pairwise (· < ·)) :
    LifecycleLaw (performAll before (.quiet scenarios)) ∧
      Frozen (performAll before (.quiet scenarios)) (performAll (before ++ after) (.quiet scenarios)) ∧
      ∀ now operation, OperationLaw (performAll before (.quiet scenarios)) now operation := by
  obtain ⟨clock, first⟩ := pairwise_before times
  obtain ⟨now, inv, rest⟩ := (lifecycleInv_quiet scenarios clock).performAll_append first
  refine ⟨inv.law, ?_, operationLaw _⟩
  rw [performAll, performAll, List.foldl_append]
  exact inv.performAll rest

/-- An active scenario. -/
def lateDelivery : Scenario :=
  ⟨2, .dataQualityIssue, .communication, .standard, .manual, none, Dict.empty, .active, none, none⟩

/-- The Builder asks, the Analyst answers with an attachment, and the answer is graded. -/
def asked : List (Operation × Instant) :=
  [(.getOrCreateThread 2 .cfo 1, 100),
    (.sendMessage 1 ⟨8, .admin, "what happened?", 4, none, fun _ => none, 10, 210⟩, 200),
    (.uploadAttachment ⟨20, 1, 7, "orders.csv", 300, 1000, some "text/csv"⟩, 300),
    (.saveDraft 1 7 "a late", 350),
    (.sendMessage 1 ⟨7, .analyst, "a late delivery", 4, some 20, fun _ => none, 11, 410⟩, 400),
    (.completeThread 1 .inserted fun responses =>
      some ⟨responses, "none", "orders.csv", "", "pass", "", "standard", responses⟩, 500)]

/-- What comes too late. -/
def tooLate : List (Operation × Instant) :=
  [(.deleteThread 1, 600),
    (.sendMessage 1 ⟨7, .analyst, "one more thing", 4, none, fun _ => none, 12, 710⟩, 700)]

/-- The thread is graded, and what comes later changes nothing. -/
theorem chat_thread_lifecycle_graded :
    LifecycleLaw (performAll asked (.quiet [lateDelivery])) ∧
      Frozen (performAll asked (.quiet [lateDelivery]))
        (performAll (asked ++ tooLate) (.quiet [lateDelivery])) ∧
      (performAll asked (.quiet [lateDelivery])).threads.map (·.thread.status) = [.completed] := by
  obtain ⟨law, frozen, -⟩ := chat_thread_lifecycle [lateDelivery] asked tooLate (by decide)
  exact ⟨law, frozen, by decide +kernel⟩

end MeadowOps.Chat
