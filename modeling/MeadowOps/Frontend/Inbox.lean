import MeadowOps.Chat.TranscriptOrder
import Mathlib.Logic.Function.Basic

/-!
# `chat-inbox.tsx` and `mail.tsx`

The selected thread and its messages in the two inboxes, with the requests and the frames in flight and the
transcripts of the server. The server answers a request at some moment, and the answer arrives later. The frames
of a thread wait in the order of the commits. The list of threads, the unread counts and `sender_user_id`, which
nothing reads, are left out.
-/

namespace MeadowOps.Frontend

open Lib Db Chat MeadowOps.Flow

/-- The client's `ChatMessage`, from the list, a frame or the answer to a send. -/
structure InboxMessage where
  id : Uuid
  threadId : Uuid
  senderRole : UserRole
  body : String
  attachmentRef : Option String
  sentAt : Instant
  deriving DecidableEq, Repr

def inboxMessage (m : ChatMessage) : InboxMessage :=
  ⟨m.id, m.threadId, m.senderRole, m.body, m.attachmentRef, m.sentAt⟩

/-- The state of the component. -/
structure Inbox where
  selectedId : Option Uuid
  messages : List InboxMessage
  deriving DecidableEq, Repr

/-- A component: the Builder's can create threads. -/
structure InboxComponent where
  createsThreads : Bool

def chatInbox : InboxComponent := ⟨false⟩

def mail : InboxComponent := ⟨true⟩

inductive ChatSocketFrame where
  | message (m : ChatMessage)
  | threadDeleted
  deriving DecidableEq, Repr

/-- A request on a thread, and the answer when the server has given it. -/
structure ThreadRequest (α : Type) where
  threadId : Uuid
  answer : Option α
  deriving DecidableEq, Repr

/-- The inbox, the server and what is between them. -/
structure InboxRun where
  ui : Inbox
  /-- The messages of each thread in the order of their commits. -/
  transcript : Uuid → List ChatMessage
  /-- The threads that are not deleted. -/
  exist : Uuid → Bool
  frames : Uuid → List ChatSocketFrame
  fetches : List (ThreadRequest (List ChatMessage))
  sends : List (ThreadRequest ChatMessage)
  deletes : List (ThreadRequest Unit)
  /-- The requests of `handleCreateThread`, with the thread that the server has made. -/
  creates : List (Option Uuid)

/-! ## The handlers -/

/-- The updater of `handleSend` and `handleFrame`. -/
def appendMessage (message : InboxMessage) (prev : List InboxMessage) : List InboxMessage :=
  if prev.any (fun m => m.id = message.id) then prev else prev ++ [message]

def removeThread (threadId : Uuid) (ui : Inbox) : Inbox :=
  if ui.selectedId = some threadId then ⟨none, []⟩ else ui

/-- `handleFrame`, as far as the messages go. -/
def handleFrame (threadId : Uuid) (frame : ChatSocketFrame) (ui : Inbox) : Inbox :=
  match frame with
  | .threadDeleted => removeThread threadId ui
  | .message m =>
    if some threadId = ui.selectedId then { ui with messages := appendMessage (inboxMessage m) ui.messages } else ui

/-- `selectThread`, up to the answer. -/
def InboxRun.selectThread (s : InboxRun) (threadId : Uuid) : InboxRun :=
  { s with ui := { s.ui with selectedId := some threadId }, fetches := s.fetches ++ [⟨threadId, none⟩] }

/-! ## The server -/

/-- A message is committed, and its frame is on the way. -/
def InboxRun.commitMessage (s : InboxRun) (m : ChatMessage) : InboxRun :=
  { s with
    transcript := Function.update s.transcript m.threadId (s.transcript m.threadId ++ [m])
    frames := Function.update s.frames m.threadId (s.frames m.threadId ++ [.message m]) }

/-- The server can take the message: the thread is there and the id is new. -/
def InboxRun.accepts (s : InboxRun) (m : ChatMessage) : Prop :=
  s.exist m.threadId = true ∧ m.id ∉ (s.transcript m.threadId).map (·.id)

instance (s : InboxRun) (m : ChatMessage) : Decidable (s.accepts m) := instDecidableAnd

def InboxRun.commitDeletion (s : InboxRun) (threadId : Uuid) : InboxRun :=
  { s with
    exist := Function.update s.exist threadId false
    frames := Function.update s.frames threadId (s.frames threadId ++ [.threadDeleted]) }

/-! ## Events -/

inductive InboxEvent where
  | select (threadId : Uuid)
  | send
  | delete (threadId : Uuid)
  | create
  /-- The server answers the request of an index. -/
  | serveFetch (i : ℕ) (order : RowOrder ChatMessage)
  | serveSend (i : ℕ) (m : ChatMessage)
  | serveDelete (i : ℕ)
  | serveCreate (i : ℕ) (threadId : Uuid)
  /-- The server commits for another client. -/
  | otherSend (m : ChatMessage)
  | otherDelete (threadId : Uuid)
  /-- The answer to the request of an index arrives. -/
  | fetched (i : ℕ)
  | sent (i : ℕ)
  | deleted (i : ℕ)
  | created (i : ℕ)
  /-- The next frame of a thread arrives. -/
  | frame (threadId : Uuid)

/-- An event that can happen. Every request succeeds: one on a deleted thread is not answered. -/
def InboxRun.handle (component : InboxComponent) (s : InboxRun) : InboxEvent → Option InboxRun
  | .select threadId => some (s.selectThread threadId)
  | .send =>
    match s.ui.selectedId with
    | none => none
    | some threadId => some { s with sends := s.sends ++ [⟨threadId, none⟩] }
  | .delete threadId => some { s with deletes := s.deletes ++ [⟨threadId, none⟩] }
  | .create => if component.createsThreads then some { s with creates := s.creates ++ [none] } else none
  | .serveFetch i order =>
    match s.fetches[i]? with
    | some ⟨threadId, none⟩ =>
      if s.exist threadId then
        some { s with fetches := s.fetches.set i ⟨threadId, some (listMessages order (s.transcript threadId))⟩ }
      else none
    | _ => none
  | .serveSend i m =>
    match s.sends[i]? with
    | some ⟨threadId, none⟩ =>
      if m.threadId = threadId ∧ s.accepts m then
        some { s.commitMessage m with sends := s.sends.set i ⟨threadId, some m⟩ }
      else none
    | _ => none
  | .serveDelete i =>
    match s.deletes[i]? with
    | some ⟨threadId, none⟩ =>
      -- A 404 for a thread that is gone counts as a success.
      let s := if s.exist threadId then s.commitDeletion threadId else s
      some { s with deletes := s.deletes.set i ⟨threadId, some ()⟩ }
    | _ => none
  | .serveCreate i threadId =>
    match s.creates[i]? with
    | some none =>
      if s.exist threadId = false ∧ s.transcript threadId = [] then
        some { s with
          exist := Function.update s.exist threadId true
          creates := s.creates.set i (some threadId) }
      else none
    | _ => none
  | .otherSend m => if s.accepts m then some (s.commitMessage m) else none
  | .otherDelete threadId => if s.exist threadId then some (s.commitDeletion threadId) else none
  | .fetched i =>
    match s.fetches[i]? with
    | some ⟨_, some history⟩ =>
      some { s with
        ui := { s.ui with messages := history.map inboxMessage }
        fetches := s.fetches.eraseIdx i }
    | _ => none
  | .sent i =>
    match s.sends[i]? with
    | some ⟨_, some m⟩ =>
      some { s with
        ui := { s.ui with messages := appendMessage (inboxMessage m) s.ui.messages }
        sends := s.sends.eraseIdx i }
    | _ => none
  | .deleted i =>
    match s.deletes[i]? with
    | some ⟨threadId, some ()⟩ => some { s with ui := removeThread threadId s.ui, deletes := s.deletes.eraseIdx i }
    | _ => none
  | .created i =>
    match s.creates[i]? with
    | some (some threadId) => some ({ s with creates := s.creates.eraseIdx i }.selectThread threadId)
    | _ => none
  | .frame threadId =>
    match s.frames threadId with
    | [] => none
    | frame :: rest =>
      some { s with ui := handleFrame threadId frame s.ui, frames := Function.update s.frames threadId rest }

/-- Transcripts whose messages have ids and times of their own. -/
structure Transcripts (transcript : Uuid → List ChatMessage) : Prop where
  own : ∀ t, ∀ m ∈ transcript t, m.threadId = t
  keyed : ∀ t, ((transcript t).map (·.id)).Nodup
  increasing : ∀ t, (transcript t).Pairwise fun m n => m.sentAt < n.sentAt

/-- An inbox that is opened. -/
structure InboxRun.Opened (s : InboxRun) : Prop where
  ui : s.ui = ⟨none, []⟩
  transcripts : Transcripts s.transcript
  frames : ∀ t, s.frames t = []
  fetches : s.fetches = []
  sends : s.sends = []
  deletes : s.deletes = []
  creates : s.creates = []

def inboxRuns (component : InboxComponent) : System InboxRun InboxEvent where
  init := InboxRun.Opened
  step s e s' := s.handle component e = some s'

end MeadowOps.Frontend
