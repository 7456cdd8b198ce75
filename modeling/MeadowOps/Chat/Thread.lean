import MeadowOps.Scenarios.Service
import MeadowOps.Flow.Rng
import Mathlib.Data.List.Sort

/-!
# A chat thread: `app/services/chat.py` and `app/services/evaluation.py`

`sendMessage` and `completeThreadAndGenerateEvaluation` are what the service functions decide on the
rows they read. What the client of a call and the generated keys contribute comes with the call.
-/

namespace MeadowOps.Chat

open Db Lib MeadowOps.Flow Scenarios

inductive UserRole where
  | admin
  | analyst
  deriving DecidableEq, Repr

def UserRole.value : UserRole → String
  | .admin => "admin"
  | .analyst => "analyst"

inductive ChatThreadStatus where
  | open
  | completed
  deriving DecidableEq, Repr

structure ChatThread where
  id : Uuid
  scenarioId : Uuid
  status : ChatThreadStatus
  deadlineAt : Option Instant
  deadlineApproachingNotified : Bool
  overdueNotified : Bool
  deletedAt : Option Instant
  deriving DecidableEq, Repr

structure ChatMessage where
  id : Uuid
  threadId : Uuid
  senderUserId : Uuid
  senderRole : UserRole
  body : String
  attachmentRef : Option String
  sentAt : Instant
  deriving DecidableEq, Repr

structure ChatAttachment where
  threadId : Uuid
  uploadedByUserId : Uuid
  messageId : Option Uuid
  deriving DecidableEq, Repr

/-- What `generate_evaluation` returns. -/
structure EvaluationResult where
  strengths : String
  gaps : String
  evidence : String
  seniorAnalystPushback : String
  finalVerdict : String
  suggestedNextSkillFocus : String
  difficultyRecommendation : String
  rawResponse : String
  deriving DecidableEq, Repr

/-- A row of `engine.evaluation`. The last two fields are not columns: the messages it was built
from, and the text of them that was sent to the client. -/
structure Evaluation where
  threadId : Uuid
  result : EvaluationResult
  builtFrom : List ChatMessage
  analystResponses : String
  deriving DecidableEq, Repr

inductive ChatError where
  | threadNotFound (thread : Uuid)
  | threadCompleted (thread : Uuid)
  | messageBodyTooLong
  | attachmentNotFound (attachment : Uuid)
  | attachmentOwnership (attachment user thread : Uuid)
  | attachmentAlreadyLinked (attachment message : Uuid)
  | threadAlreadyCompleted (thread : Uuid)
  | latestMessageNotFromAnalyst (thread : Uuid)
  | scenarioNotFound (scenario : Uuid)
  | scenarioCancelled (scenario : Uuid)
  | generationFailed
  deriving DecidableEq, Repr

def maxMessageBodyLength : ℕ := 10000

/-- `get_thread` on the row of the thread. -/
def getThread (thread : ChatThread) : Except ChatError ChatThread :=
  if thread.deletedAt.isSome then .error (.threadNotFound thread.id) else .ok thread

/-! ## Sending -/

/-- A call of `send_message`: its arguments, the attachment rows it finds, the id of the new message
and the wall clock. -/
structure SendCall where
  senderUserId : Uuid
  senderRole : UserRole
  body : String
  responseWindowDays : ℤ
  attachmentId : Option Uuid
  attachments : Uuid → Option ChatAttachment
  messageId : Uuid
  wallClock : Instant

/-- The attachment may be claimed by the sender on this thread. -/
def checkAttachment (call : SendCall) (threadId : Uuid) : Except ChatError Unit :=
  match call.attachmentId with
  | none => .ok ()
  | some attachmentId =>
    match call.attachments attachmentId with
    | none => .error (.attachmentNotFound attachmentId)
    | some attachment =>
      if attachment.threadId ≠ threadId ∨ attachment.uploadedByUserId ≠ call.senderUserId then
        .error (.attachmentOwnership attachmentId call.senderUserId threadId)
      else
        match attachment.messageId with
        | some message => .error (.attachmentAlreadyLinked attachmentId message)
        | none => .ok ()

/-- The thread after a message: an Analyst's reply ends the response window, another starts one. -/
def answered (call : SendCall) (thread : ChatThread) : ChatThread :=
  { thread with
    deadlineAt := if call.senderRole = .analyst then none
      else some (call.wallClock + call.responseWindowDays * 86400000000)
    deadlineApproachingNotified := false
    overdueNotified := false }

/-- `send_message` in a transaction that started at `now` and holds the lock of `thread`. -/
def sendMessage (call : SendCall) (now : Instant) (row : ChatThread) :
    Except ChatError (ChatMessage × ChatThread) := do
  let thread ← getThread row
  checkAttachment call thread.id
  if thread.status = .completed then .error (.threadCompleted thread.id)
  else if call.body.length > maxMessageBodyLength then .error .messageBodyTooLong
  else return (
    { id := call.messageId
      threadId := thread.id
      senderUserId := call.senderUserId
      senderRole := call.senderRole
      body := call.body
      attachmentRef := call.attachmentId.map uuidText
      sentAt := now },
    answered call thread)

/-! ## Completing -/

/-- `list_messages`: by `sent_at`; messages of one instant come in any order. -/
def listMessages (order : RowOrder ChatMessage) (messages : List ChatMessage) : List ChatMessage :=
  (order.rows messages).insertionSort fun m n => m.sentAt ≤ n.sentAt

/-- `_analyst_responses_text`. -/
def analystResponsesText (messages : List ChatMessage) : String :=
  "\n".intercalate ((messages.filter fun m => decide (m.senderRole = .analyst)).map (·.body))

/-- A call of `complete_thread_and_generate_evaluation`: the scenario row it reads, and what
`generate_evaluation` makes of the Analyst's responses (`none` when the generation fails). -/
structure CompleteCall where
  scenario : Option Scenario
  answer : String → Option EvaluationResult

/-- The Evaluation that is inserted, from the thread and the messages that were read. -/
def completeThreadAndGenerateEvaluation (call : CompleteCall) (row : ChatThread)
    (messages : List ChatMessage) : Except ChatError Evaluation := do
  let thread ← getThread row
  if thread.status = .completed then .error (.threadAlreadyCompleted thread.id)
  else if messages.getLast?.all fun m => decide (m.senderRole ≠ .analyst) then
    .error (.latestMessageNotFromAnalyst thread.id)
  else
    match call.scenario with
    | none => .error (.scenarioNotFound thread.scenarioId)
    | some scenario =>
      if scenario.status = .cancelled then .error (.scenarioCancelled scenario.id)
      else
        match call.answer (analystResponsesText messages) with
        | none => .error .generationFailed
        | some result => return {
            threadId := thread.id
            result := result
            builtFrom := messages
            analystResponses := analystResponsesText messages }

/-! ## What they return -/

theorem sendMessage_ok {call : SendCall} {now : Instant} {row thread : ChatThread}
    {message : ChatMessage} (h : sendMessage call now row = .ok (message, thread)) :
    row.status = .open ∧ thread.status = .open ∧ thread.id = row.id ∧ message.threadId = row.id := by
  obtain ⟨same, found, h⟩ := ok_of_bind h
  obtain ⟨_, _, h⟩ := ok_of_bind h
  unfold getThread at found
  split at found
  · cases found
  · cases found
    split at h
    · cases h
    · rename_i notCompleted
      split at h
      · cases h
      · cases h
        have isOpen : row.status = .open := by
          cases status : row.status with
          | «open» => rfl
          | completed => exact absurd status notCompleted
        exact ⟨isOpen, isOpen, rfl, rfl⟩

theorem complete_ok {call : CompleteCall} {row : ChatThread} {messages : List ChatMessage}
    {evaluation : Evaluation}
    (h : completeThreadAndGenerateEvaluation call row messages = .ok evaluation) :
    evaluation.threadId = row.id ∧ evaluation.builtFrom = messages ∧
      evaluation.analystResponses = analystResponsesText messages ∧
      ∃ m, messages.getLast? = some m ∧ m.senderRole = .analyst := by
  obtain ⟨same, found, h⟩ := ok_of_bind h
  unfold getThread at found
  split at found
  · cases found
  · cases found
    split at h
    · cases h
    · split at h
      · cases h
      · rename_i latest
        cases scenario : call.scenario with
        | none => simp [scenario] at h
        | some scenario' =>
          simp only [scenario] at h
          split at h
          · cases h
          · cases answer : call.answer (analystResponsesText messages) with
            | none => simp [answer] at h
            | some result =>
              simp only [answer] at h
              cases h
              refine ⟨rfl, rfl, rfl, ?_⟩
              cases last : messages.getLast? with
              | none => simp [last] at latest
              | some m => exact ⟨m, rfl, by simpa [last] using latest⟩

theorem listMessages_perm (order : RowOrder ChatMessage) (messages : List ChatMessage) :
    (listMessages order messages).Perm messages :=
  (List.perm_insertionSort _ _).trans (order.perm messages)

theorem listMessages_sorted (order : RowOrder ChatMessage) (messages : List ChatMessage) :
    (listMessages order messages).Pairwise fun m n => m.sentAt ≤ n.sentAt := by
  have total : Std.Total fun m n : ChatMessage => m.sentAt ≤ n.sentAt := ⟨fun _ _ => le_total _ _⟩
  have trans : IsTrans ChatMessage fun m n => m.sentAt ≤ n.sentAt := ⟨fun _ _ _ => le_trans⟩
  exact List.pairwise_insertionSort _ _

end MeadowOps.Chat
