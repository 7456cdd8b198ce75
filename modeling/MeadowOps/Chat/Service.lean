import MeadowOps.Chat.Transactions
import MeadowOps.Lib.Program

/-!
# The chat services on the tables: `app/services/chat.py` and its neighbours

Each function on the tables it reads and writes, in the order of its statements. A transaction starts at
`now`. What `generate_evaluation` makes of the responses, and what `validate_attachment_content` makes of
an upload, come with the call.
-/

namespace MeadowOps.Chat

open Db Lib MeadowOps.Flow Scenarios

inductive StakeholderPersona where
  | operationsManager
  | procurementManager
  | warehouseManager
  | itManager
  | operationsDirector
  | cfo
  deriving DecidableEq, Repr

structure ThreadRow where
  thread : ChatThread
  persona : StakeholderPersona
  createdAt : Instant
  deriving DecidableEq, Repr

def ThreadRow.id (row : ThreadRow) : Uuid := row.thread.id

structure AttachmentRow where
  id : Uuid
  attachment : ChatAttachment
  originalFilename : String
  contentType : String
  sizeBytes : ℕ
  deriving DecidableEq, Repr

structure ChatThreadDraft where
  threadId : Uuid
  userId : Uuid
  body : String
  updatedAt : Instant
  deriving DecidableEq, Repr

structure ChatThreadReadState where
  threadId : Uuid
  userId : Uuid
  lastReadAt : Instant
  deriving DecidableEq, Repr

structure ChatStore where
  scenarios : List Scenario
  threads : List ThreadRow
  messages : List ChatMessage
  attachments : List AttachmentRow
  drafts : List ChatThreadDraft
  readStates : List ChatThreadReadState
  evaluations : List Evaluation

inductive OperationError where
  | chat (e : ChatError)
  | scenario (e : ScenarioError)
  | scenarioNotFound (scenario : Uuid)
  | attachmentTooLarge (maxSizeBytes : ℕ)
  | unsupportedAttachmentType
  /-- A constraint of the database. -/
  | integrity

abbrev ChatTx := EStateM OperationError ChatStore

/-! ## Threads -/

/-- `get_thread`. -/
def loadThread (threadId : Uuid) : ChatTx ThreadRow := do
  let store ← get
  match lookup ThreadRow.id threadId store.threads with
  | none => throw (.chat (.threadNotFound threadId))
  | some row =>
    let _ ← liftExcept .chat (getThread row.thread)
    pure row

/-- The columns of a thread, written back. -/
def updateThread (thread : ChatThread) (store : ChatStore) : ChatStore :=
  { store with
    threads := modify ThreadRow.id thread.id (fun row => { row with thread := thread }) store.threads }

/-- The thread of the pair is live. -/
def ThreadRow.IsLiveFor (row : ThreadRow) (scenarioId : Uuid) (persona : StakeholderPersona) : Prop :=
  row.thread.scenarioId = scenarioId ∧ row.persona = persona ∧ row.thread.deletedAt = none

instance (row : ThreadRow) (scenarioId : Uuid) (persona : StakeholderPersona) :
    Decidable (row.IsLiveFor scenarioId persona) := inferInstanceAs (Decidable (_ ∧ _))

/-- The row that `get_or_create_thread` inserts. -/
def newThread (id scenarioId : Uuid) (persona : StakeholderPersona) (now : Instant) : ThreadRow :=
  ⟨⟨id, scenarioId, .open, none, false, false, none⟩, persona, now⟩

/-- `get_or_create_thread`. The scenario is a foreign key. -/
def getOrCreateThread (scenarioId : Uuid) (persona : StakeholderPersona) (id : Uuid) (now : Instant) :
    ChatTx Unit := do
  let store ← get
  match store.threads.find? fun row => row.IsLiveFor scenarioId persona with
  | some _ => pure ()
  | none =>
    if (lookup Scenario.id scenarioId store.scenarios).isNone then throw .integrity
    else
      match insert? ThreadRow.id (newThread id scenarioId persona now) store.threads with
      | none => throw .integrity
      | some threads => set { store with threads := threads }

/-- `delete_thread`. -/
def deleteThreadOf (threadId : Uuid) (now : Instant) : ChatTx Unit := do
  let row ← loadThread threadId
  let thread ← liftExcept .chat (deleteThread now row.thread)
  modify (updateThread thread)

/-! ## Messages -/

/-- The messages of a thread. -/
def ChatStore.messagesOf (store : ChatStore) (threadId : Uuid) : List ChatMessage :=
  store.messages.filter fun m => m.threadId = threadId

/-- The call with the attachment rows it finds. -/
def SendCall.on (call : SendCall) (store : ChatStore) : SendCall :=
  { call with
    attachments := fun id => (lookup AttachmentRow.id id store.attachments).map (·.attachment) }

def insertMessage (message : ChatMessage) : ChatTx Unit := do
  let store ← get
  match insert? ChatMessage.id message store.messages with
  | none => throw .integrity
  | some messages => set { store with messages := messages }

/-- `attachment.message_id = message.id`. -/
def claimAttachment (attachmentId : Option Uuid) (messageId : Uuid) (store : ChatStore) : ChatStore :=
  match attachmentId with
  | none => store
  | some id =>
    { store with
      attachments := modify AttachmentRow.id id
        (fun row => { row with attachment := { row.attachment with messageId := some messageId } })
        store.attachments }

/-- The drafts without the one of the user on the thread. -/
def withoutDraft (threadId userId : Uuid) (store : ChatStore) : ChatStore :=
  { store with
    drafts := store.drafts.filter fun d => ¬ (d.threadId = threadId ∧ d.userId = userId) }

/-- `send_message`. -/
def sendMessageOn (threadId : Uuid) (call : SendCall) (now : Instant) : ChatTx Unit := do
  let row ← loadThread threadId
  let store ← get
  let sent ← liftExcept .chat (sendMessage (call.on store) now row.thread)
  insertMessage sent.1
  modify (claimAttachment call.attachmentId sent.1.id)
  modify (updateThread sent.2)
  modify (withoutDraft threadId call.senderUserId)

/-- The draft, written over the one that is there. -/
def upsertDraft (draft : ChatThreadDraft) (store : ChatStore) : ChatStore :=
  if store.drafts.any fun d => d.threadId = draft.threadId && d.userId = draft.userId then
    { store with
      drafts := store.drafts.map fun d =>
        if d.threadId = draft.threadId ∧ d.userId = draft.userId then draft else d }
  else { store with drafts := store.drafts ++ [draft] }

/-- `save_draft`. -/
def saveDraft (threadId userId : Uuid) (body : String) (now : Instant) : ChatTx Unit := do
  let _ ← loadThread threadId
  if body.length > maxMessageBodyLength then throw (.chat .messageBodyTooLong)
  else if isBlank body then modify (withoutDraft threadId userId)
  else modify (upsertDraft ⟨threadId, userId, body, now⟩)

/-- `mark_thread_read`, at the clock of its statement. -/
def markThreadRead (threadId userId : Uuid) (clock : Instant) : ChatTx Unit := do
  let _ ← loadThread threadId
  modify fun store =>
    if store.readStates.any fun r => r.threadId = threadId && r.userId = userId then
      { store with
        readStates := store.readStates.map fun r =>
          if r.threadId = threadId ∧ r.userId = userId then { r with lastReadAt := clock } else r }
    else { store with readStates := store.readStates ++ [⟨threadId, userId, clock⟩] }

/-! ## Attachments -/

/-- A call of `upload_attachment`: `contentType` is what the bytes are validated as. -/
structure UploadCall where
  id : Uuid
  threadId : Uuid
  uploadedByUserId : Uuid
  originalFilename : String
  sizeBytes : ℕ
  maxSizeBytes : ℕ
  contentType : Option String

def insertAttachment (row : AttachmentRow) : ChatTx Unit := do
  let store ← get
  match insert? AttachmentRow.id row store.attachments with
  | none => throw .integrity
  | some attachments => set { store with attachments := attachments }

/-- `upload_attachment`. -/
def uploadAttachment (call : UploadCall) : ChatTx Unit := do
  let row ← loadThread call.threadId
  if row.thread.status = .completed then throw (.chat (.threadCompleted call.threadId))
  else if call.sizeBytes > call.maxSizeBytes then throw (.attachmentTooLarge call.maxSizeBytes)
  else
    match call.contentType with
    | none => throw .unsupportedAttachmentType
    | some contentType =>
      insertAttachment ⟨call.id, ⟨call.threadId, call.uploadedByUserId, none⟩, call.originalFilename,
        contentType, call.sizeBytes⟩

/-! ## Completing and cancelling -/

/-- The INSERT of the evaluation and the UPDATE of the thread, in one flush. -/
def insertEvaluation (evaluation : Evaluation) : ChatTx Unit := do
  let store ← get
  match insert? Evaluation.threadId evaluation store.evaluations with
  | none => throw .integrity
  | some evaluations => set { store with evaluations := evaluations }

/-- `complete_thread_and_generate_evaluation`. -/
def completeThread (threadId : Uuid) (order : RowOrder ChatMessage)
    (answer : String → Option EvaluationResult) : ChatTx Unit := do
  let row ← loadThread threadId
  let store ← get
  let call : CompleteCall := ⟨lookup Scenario.id row.thread.scenarioId store.scenarios, answer⟩
  let evaluation ← liftExcept .chat (completeThreadAndGenerateEvaluation call row.thread
    (listMessages order (store.messagesOf threadId)))
  insertEvaluation evaluation
  modify (updateThread { row.thread with status := .completed })

/-- `cancel_scenario`. -/
def cancelScenarioOf (scenarioId : Uuid) : ChatTx Unit := do
  let store ← get
  match lookup Scenario.id scenarioId store.scenarios with
  | none => throw (.scenarioNotFound scenarioId)
  | some scenario =>
    liftExcept .scenario (requireTransition scenario .cancelled)
    modify fun store =>
      { store with
        scenarios := Lib.modify Scenario.id scenarioId (fun s => { s with status := .cancelled })
          store.scenarios }

/-! ## Sequences of operations -/

inductive Operation where
  | getOrCreateThread (scenarioId : Uuid) (persona : StakeholderPersona) (id : Uuid)
  | sendMessage (threadId : Uuid) (call : SendCall)
  | saveDraft (threadId userId : Uuid) (body : String)
  | markThreadRead (threadId userId : Uuid)
  | deleteThread (threadId : Uuid)
  | completeThread (threadId : Uuid) (order : RowOrder ChatMessage)
      (answer : String → Option EvaluationResult)
  | cancelScenario (scenarioId : Uuid)
  | uploadAttachment (call : UploadCall)

/-- The operation in a transaction that starts at `now`. -/
def Operation.perform (now : Instant) : Operation → ChatTx Unit
  | .getOrCreateThread scenarioId persona id => Chat.getOrCreateThread scenarioId persona id now
  | .sendMessage threadId call => sendMessageOn threadId call now
  | .saveDraft threadId userId body => Chat.saveDraft threadId userId body now
  | .markThreadRead threadId userId => Chat.markThreadRead threadId userId now
  | .deleteThread threadId => deleteThreadOf threadId now
  | .completeThread threadId order answer => Chat.completeThread threadId order answer
  | .cancelScenario scenarioId => cancelScenarioOf scenarioId
  | .uploadAttachment call => Chat.uploadAttachment call

/-- Operations one after another, each at its time. -/
def performAll (steps : List (Operation × Instant)) (store : ChatStore) : ChatStore :=
  steps.foldl (fun store step => endState (step.1.perform step.2 store)) store

end MeadowOps.Chat
