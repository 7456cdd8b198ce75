import MeadowOps.Chat.Thread
import MeadowOps.Lib.LockTx

/-!
# The transactions of one thread

`send_message` and `delete_thread` lock the row of the thread when they read it. A completion reads the
thread and the messages without a lock and takes the lock when it is flushed. `mark_thread_read` stamps
`last_read_at` with the clock of its statement; the upsert locks the user's marker.
-/

namespace MeadowOps.Chat

open Db Lib MeadowOps.Flow LockTx Scenarios

/-! ## The other service functions -/

/-- `delete_thread` in a transaction that started at `now` and holds the lock of `row`. -/
def deleteThread (now : Instant) (row : ChatThread) : Except ChatError ChatThread := do
  let thread ← getThread row
  if thread.status = .completed then .error (.threadCompleted thread.id)
  else return { thread with deletedAt := some now }

/-- The committed rows of one thread, and one user's read marker. -/
structure Room where
  thread : ChatThread
  messages : List ChatMessage
  evaluations : List Evaluation
  lastReadAt : Option Instant
  /-- Not a column: the messages that were committed when the marker was stamped. -/
  seen : List ChatMessage

/-- The messages that `list_threads_with_unread` counts. -/
def Room.unread (room : Room) : List ChatMessage :=
  room.messages.filter fun m => room.lastReadAt.all fun read => decide (read < m.sentAt)

/-- `list_threads_with_unread`: the count of the thread, unless it is deleted. -/
def Room.listThreadsWithUnread (room : Room) : Option ℕ :=
  if room.thread.deletedAt.isSome then none else some room.unread.length

/-- The messages behind the `new_reply` item of `_unread_replies`. -/
def Room.unreadReplies (room : Room) (user : Uuid) : List ChatMessage :=
  room.unread.filter fun m => m.senderUserId ≠ user

/-- `_unread_replies`: the count and the latest instant, for a thread of a scenario that is not
cancelled. -/
def Room.newReply (room : Room) (user : Uuid) (scenario : ScenarioStatus) : Option (ℕ × Instant) :=
  if room.thread.deletedAt.isSome ∨ scenario = .cancelled then none
  else ((room.unreadReplies user).map (·.sentAt)).max?.map fun latest =>
    ((room.unreadReplies user).length, latest)

/-! ## The protocol -/

inductive Row where
  | thread
  | readState
  deriving DecidableEq, Repr

/-- Where a transaction stands. -/
inductive Local where
  | sending (call : SendCall) (start : Instant)
  | sendLocked (call : SendCall) (start : Instant) (row : ChatThread)
  | completing (call : CompleteCall)
  | threadRead (call : CompleteCall) (row : ChatThread)
  | messagesRead (call : CompleteCall) (row : ChatThread) (messages : List ChatMessage)
  /-- A completion that is flushed. -/
  | graded (evaluation : Evaluation)
  | deleting (start : Instant)
  | deleteLocked (start : Instant) (row : ChatThread)
  | marking
  /-- The upsert has read the clock, and may wait for the marker. -/
  | stamped (clock : Instant) (seen : List ChatMessage)
  | marked (clock : Instant) (seen : List ChatMessage)

/-- A statement. The row order is the one `list_messages` gets equal instants in. -/
def execLocal (now : Instant) (order : RowOrder ChatMessage) (k : Local) (room : Room) :
    Option (Local × List Row) :=
  match k with
  | .sending call start => some (.sendLocked call start room.thread, [.thread])
  | .completing call => some (.threadRead call room.thread, [])
  | .threadRead call row => some (.messagesRead call row (listMessages order room.messages), [])
  | .messagesRead call row messages =>
    match completeThreadAndGenerateEvaluation call row messages with
    | .error _ => none
    | .ok evaluation =>
      -- `evaluation.thread_id` is unique
      if room.evaluations.all (·.threadId ≠ evaluation.threadId) then
        some (.graded evaluation, [.thread])
      else none
  | .deleting start => some (.deleteLocked start room.thread, [.thread])
  | .marking =>
    match getThread room.thread with
    | .error _ => none
    | .ok _ => some (.stamped now room.messages, [])
  | .stamped clock seen => some (.marked clock seen, [.readState])
  | _ => none

def commitLocal (k : Local) (room : Room) : Option Room :=
  match k with
  | .sendLocked call start row =>
    match sendMessage call start row with
    | .error _ => none
    | .ok (message, thread) =>
      (insert? (·.id) message room.messages).map fun messages =>
        { room with thread := thread, messages := messages }
  | .graded evaluation => some
      { room with
        thread := { room.thread with status := .completed }
        evaluations := room.evaluations ++ [evaluation] }
  | .deleteLocked start row =>
    match deleteThread start row with
    | .error _ => none
    | .ok thread => some { room with thread := thread }
  | .marked clock seen => some { room with lastReadAt := some clock, seen := seen }
  | _ => none

def chatProtocol : Protocol Room Row Local (RowOrder ChatMessage) where
  exec := execLocal
  commit := commitLocal

/-- A call of `send_message` whose transaction starts now. -/
def Sends (now : Instant) (k : Local) : Prop := ∃ call, k = .sending call now

def Marks (_ : Instant) (k : Local) : Prop := k = .marking

def Deletes (now : Instant) (k : Local) : Prop := k = .deleting now

def Completes (_ : Instant) (k : Local) : Prop := ∃ call, k = .completing call

/-! ## What a commit does -/

theorem deleteThread_ok {now : Instant} {row thread : ChatThread}
    (h : deleteThread now row = .ok thread) :
    row.status = .open ∧ row.deletedAt = none ∧ thread = { row with deletedAt := some now } := by
  obtain ⟨same, found, h⟩ := ok_of_bind h
  unfold getThread at found
  split at found
  · cases found
  · rename_i live
    cases found
    split at h
    · cases h
    · rename_i notCompleted
      cases h
      refine ⟨?_, by simpa using live, rfl⟩
      cases status : row.status with
      | «open» => rfl
      | completed => exact absurd status notCompleted

/-- The message and the row of a send that returns. -/
theorem sendMessage_spec {call : SendCall} {now : Instant} {row thread : ChatThread}
    {message : ChatMessage} (h : sendMessage call now row = .ok (message, thread)) :
    row.deletedAt = none ∧ thread = answered call row ∧ message.sentAt = now ∧
      message.senderRole = call.senderRole ∧ message.id = call.messageId := by
  obtain ⟨same, found, h⟩ := ok_of_bind h
  obtain ⟨_, _, h⟩ := ok_of_bind h
  unfold getThread at found
  split at found
  · cases found
  · rename_i live
    cases found
    split at h
    · cases h
    · split at h
      · cases h
      · cases h
        exact ⟨by simpa using live, rfl, rfl, rfl, rfl⟩

/-- What a transaction commits. -/
inductive Committed (room room' : Room) : Local → Prop
  | send {call : SendCall} {start : Instant} {row thread : ChatThread} {message : ChatMessage}
      (sent : sendMessage call start row = .ok (message, thread))
      (fresh : message.id ∉ room.messages.map (·.id))
      (eq : room' = { room with thread := thread, messages := room.messages ++ [message] }) :
      Committed room room' (.sendLocked call start row)
  | complete {evaluation : Evaluation}
      (eq : room' = { room with
        thread := { room.thread with status := .completed }
        evaluations := room.evaluations ++ [evaluation] }) :
      Committed room room' (.graded evaluation)
  | delete {start : Instant} {row thread : ChatThread} (deleted : deleteThread start row = .ok thread)
      (eq : room' = { room with thread := thread }) : Committed room room' (.deleteLocked start row)
  | mark {clock : Instant} {seen : List ChatMessage}
      (eq : room' = { room with lastReadAt := some clock, seen := seen }) :
      Committed room room' (.marked clock seen)

theorem committed_of_commit {k : Local} {room room' : Room}
    (h : chatProtocol.commit k room = some room') : Committed room room' k := by
  cases k with
  | sendLocked call start row =>
    have h' : commitLocal (.sendLocked call start row) room = some room' := h
    simp only [commitLocal] at h'
    split at h'
    · cases h'
    · rename_i message thread sent
      obtain ⟨messages, inserted, rfl⟩ := Option.map_eq_some_iff.1 h'
      obtain ⟨rfl, fresh⟩ := insert?_eq_some inserted
      exact .send sent fresh rfl
  | graded evaluation =>
    cases h
    exact .complete rfl
  | deleteLocked start row =>
    have h' : commitLocal (.deleteLocked start row) room = some room' := h
    simp only [commitLocal] at h'
    split at h'
    · cases h'
    · rename_i thread deleted
      cases h'
      exact .delete deleted rfl
  | marked clock seen =>
    cases h
    exact .mark rfl
  | _ => cases h

end MeadowOps.Chat
