import MeadowOps.Db.World
import MeadowOps.Lib.JsText
import MeadowOps.Lib.Runs
import Mathlib.Logic.Function.Basic

/-!
# The two `thread-view.tsx` and `ai-assist-panel.tsx`

One instance of the component serves all threads. A request keeps the thread of the render in which it was started,
and writes the state of the component when it returns. What the user does for each thread is recorded beside it:
the last text typed or accepted, or the draft that was restored. The sync of the drafts to the server is left out:
it shows in the `draft_body` with which a thread is opened, which is arbitrary.
-/

namespace MeadowOps.Frontend

open Lib Db

/-- The texts of a thread by what the user does: what was typed or accepted since the last message, the draft that
was restored, and how often something was typed or accepted. -/
structure ThreadText where
  last : Option (List Char)
  restored : List Char
  version : ℕ
  deriving DecidableEq, Repr

namespace ThreadText

def shown (t : ThreadText) : List Char := t.last.getD t.restored

def put (value : List Char) (t : ThreadText) : ThreadText :=
  { t with last := some value, version := t.version + 1 }

/-- A message with the text of a version is sent. -/
def sent (version : ℕ) (t : ThreadText) : ThreadText :=
  if t.version = version then { t with last := none, restored := [] } else t

def restore (value : List Char) (t : ThreadText) : ThreadText :=
  if t.last = none then { t with restored := value } else t

end ThreadText

/-- An upload that is not sent yet, with the thread it was made for. -/
structure PendingAttachment where
  id : Uuid
  filename : String
  threadId : Uuid
  deriving DecidableEq, Repr

/-- The state of `ThreadView`, with the id of its thread. -/
structure ThreadView where
  thread : Option Uuid
  draft : List Char
  sending : Bool
  error : Bool
  pendingAttachment : Option PendingAttachment
  uploading : Bool
  attachError : Option String
  deriving DecidableEq, Repr

/-- A verdict, with the thread that was checked. -/
structure Verdict where
  text : String
  suggestedPushback : Option (List Char)
  threadId : Uuid
  deriving DecidableEq, Repr

/-- The state of `AiAssistPanel`, its two properties, and the number of the instance that is mounted. -/
structure AiAssistPanel where
  mount : ℕ
  pending : Bool
  error : Option String
  verdict : Option Verdict
  hasMessages : Bool
  hasAnalystMessage : Bool
  deriving DecidableEq, Repr

structure SendRequest where
  threadId : Uuid
  body : List Char
  attachmentId : Option Uuid
  version : ℕ
  deriving DecidableEq, Repr

/-- A request of the panel. -/
structure AssistRequest where
  threadId : Uuid
  mount : ℕ
  version : ℕ
  deriving DecidableEq, Repr

/-- How a request returns: with its result, with an error, or not at all. -/
inductive AsyncReply (α : Type) where
  | ok (result : α)
  | error (detail : String)
  | lost
  deriving DecidableEq, Repr

/-- The component, the buffers in the local storage, the requests under way, and the texts of the threads. -/
structure ThreadViewRun where
  ui : ThreadView
  panel : AiAssistPanel
  buffers : Uuid → Option (List Char)
  sends : List SendRequest
  uploads : List Uuid
  suggestions : List AssistRequest
  checks : List AssistRequest
  texts : Uuid → ThreadText

/-- The Analyst's component has attachments, the Builder's has the panel. -/
structure ThreadViewComponent where
  attachments : Bool
  aiAssist : Bool

def chatThreadView : ThreadViewComponent := ⟨true, false⟩

def mailThreadView : ThreadViewComponent := ⟨false, true⟩

inductive ThreadViewEvent where
  /-- A render with another thread, with its `draft_body`, or with none. -/
  | render (thread : Option (Uuid × List Char))
  | type (value : List Char)
  | send
  | sent (i : ℕ) (reply : AsyncReply Unit)
  | upload
  | uploaded (i : ℕ) (reply : AsyncReply (Uuid × String))
  | removeAttachment
  | suggestOpening
  | suggestPushback
  | suggested (i : ℕ) (reply : AsyncReply (List Char))
  | checkSufficiency
  | checked (i : ℕ) (reply : AsyncReply (Bool × Option (List Char)))
  | acceptSuggestedPushback
  /-- A render with other messages. -/
  | messages (hasMessages hasAnalystMessage : Bool)
  deriving DecidableEq, Repr

namespace ThreadViewRun

/-! ## The handlers -/

/-- `AiAssistPanel` as it is mounted next. -/
def unmounted (panel : AiAssistPanel) : AiAssistPanel :=
  { panel with mount := panel.mount + 1, pending := false, error := none, verdict := none }

/-- The render with `thread`, and the restore effect when its id is another. -/
def renderThread (s : ThreadViewRun) (thread : Option (Uuid × List Char)) : ThreadViewRun :=
  if s.ui.thread = thread.map Prod.fst then s
  else
    match thread with
    | none => { s with ui := { s.ui with thread := none, draft := [] }, panel := unmounted s.panel }
    | some (id, draftBody) =>
      let buffered := (s.buffers id).getD draftBody
      { s with
        ui := { s.ui with
          thread := some id, draft := buffered, error := false, pendingAttachment := none, attachError := none }
        texts := Function.update s.texts id ((s.texts id).restore buffered) }

/-- `handleDraftChange` of the render with `threadId`. -/
def handleDraftChange (s : ThreadViewRun) (threadId : Uuid) (value : List Char) : ThreadViewRun :=
  { s with
    ui := { s.ui with draft := value, error := false }
    buffers := Function.update s.buffers threadId (some value)
    texts := Function.update s.texts threadId ((s.texts threadId).put value) }

/-- `handleSend`, up to the answer. -/
def handleSend (s : ThreadViewRun) (threadId : Uuid) : ThreadViewRun :=
  if trim s.ui.draft = [] ∨ s.ui.sending then s
  else
    { s with
      ui := { s.ui with sending := true }
      sends := s.sends ++ [⟨threadId, trim s.ui.draft, s.ui.pendingAttachment.map (·.id),
        (s.texts threadId).version⟩] }

/-- The rest of `handleSend`. -/
def finishSend (s : ThreadViewRun) (r : SendRequest) : AsyncReply Unit → ThreadViewRun
  | .ok _ =>
    { s with
      ui := { s.ui with sending := false, error := false, draft := [], pendingAttachment := none }
      buffers := Function.update s.buffers r.threadId none
      texts := Function.update s.texts r.threadId ((s.texts r.threadId).sent r.version) }
  | .error _ => { s with ui := { s.ui with sending := false, error := true } }
  | .lost => { s with ui := { s.ui with sending := false } }

/-- The rest of `handleFileSelected`. -/
def finishUpload (s : ThreadViewRun) (threadId : Uuid) : AsyncReply (Uuid × String) → ThreadViewRun
  | .ok (id, filename) =>
    { s with ui := { s.ui with uploading := false, pendingAttachment := some ⟨id, filename, threadId⟩ } }
  | .error detail => { s with ui := { s.ui with uploading := false, attachError := some detail } }
  | .lost =>
    { s with ui := { s.ui with uploading := false, attachError := some "Couldn't attach that file — try again." } }

/-- A setter of the panel does nothing after its instance is gone. -/
def setPanel (s : ThreadViewRun) (mount : ℕ) (f : AiAssistPanel → AiAssistPanel) : ThreadViewRun :=
  if s.panel.mount = mount then { s with panel := f s.panel } else s

/-- `runSuggest`, up to the answer. -/
def runSuggest (s : ThreadViewRun) (threadId : Uuid) : ThreadViewRun :=
  { s with
    panel := { s.panel with pending := true, error := none, verdict := none }
    suggestions := s.suggestions ++ [⟨threadId, s.panel.mount, (s.texts threadId).version⟩] }

/-- The rest of `runSuggest`. -/
def finishSuggest (s : ThreadViewRun) (r : AssistRequest) : AsyncReply (List Char) → ThreadViewRun
  | .ok message => (s.handleDraftChange r.threadId message).setPanel r.mount fun p => { p with pending := false }
  | .error detail => s.setPanel r.mount fun p => { p with pending := false, error := some detail }
  | .lost => s.setPanel r.mount fun p => { p with pending := false }

/-- `runSufficiencyCheck`, up to the answer. -/
def runSufficiencyCheck (s : ThreadViewRun) (threadId : Uuid) : ThreadViewRun :=
  { s with
    panel := { s.panel with pending := true, error := none, verdict := none }
    checks := s.checks ++ [⟨threadId, s.panel.mount, (s.texts threadId).version⟩] }

def verdictText (sufficient : Bool) : String :=
  if sufficient then "Sufficient — safe to mark Completed." else "Insufficient."

/-- The rest of `runSufficiencyCheck`. -/
def finishCheck (s : ThreadViewRun) (r : AssistRequest) : AsyncReply (Bool × Option (List Char)) → ThreadViewRun
  | .ok (sufficient, pushback) =>
    s.setPanel r.mount fun p =>
      { p with pending := false, verdict := some ⟨verdictText sufficient, pushback, r.threadId⟩ }
  | .error detail => s.setPanel r.mount fun p => { p with pending := false, error := some detail }
  | .lost => s.setPanel r.mount fun p => { p with pending := false }

/-- `acceptSuggestedPushback`; an empty text is none. -/
def acceptSuggestedPushback (s : ThreadViewRun) (threadId : Uuid) (verdict : Verdict) : ThreadViewRun :=
  let s := { s with panel := { s.panel with verdict := none } }
  match verdict.suggestedPushback with
  | none | some [] => s
  | some text => s.handleDraftChange threadId text

/-- The panel with other properties, and its effect. -/
def renderMessages (s : ThreadViewRun) (hasMessages hasAnalystMessage : Bool) : ThreadViewRun :=
  if s.panel.hasMessages = hasMessages ∧ s.panel.hasAnalystMessage = hasAnalystMessage then s
  else
    { s with panel := { s.panel with
        hasMessages := hasMessages, hasAnalystMessage := hasAnalystMessage, error := none, verdict := none } }

/-! ## Events -/

/-- An event of a control that is shown and enabled, or the return of a request. -/
def handle (component : ThreadViewComponent) (s : ThreadViewRun) : ThreadViewEvent → Option ThreadViewRun
  | .render thread => some (s.renderThread thread)
  | .type value => s.ui.thread.map fun t => s.handleDraftChange t value
  | .send => s.ui.thread.map s.handleSend
  | .sent i reply => s.sends[i]?.map fun r => { s with sends := s.sends.eraseIdx i }.finishSend r reply
  | .upload =>
    if component.attachments ∧ s.ui.uploading = false ∧ s.ui.pendingAttachment = none then
      s.ui.thread.map fun t =>
        { s with ui := { s.ui with uploading := true, attachError := none }, uploads := s.uploads ++ [t] }
    else none
  | .uploaded i reply => s.uploads[i]?.map fun t => { s with uploads := s.uploads.eraseIdx i }.finishUpload t reply
  | .removeAttachment => some { s with ui := { s.ui with pendingAttachment := none } }
  | .suggestOpening =>
    if component.aiAssist ∧ s.panel.pending = false ∧ s.panel.hasMessages = false then
      s.ui.thread.map s.runSuggest
    else none
  | .suggestPushback =>
    if component.aiAssist ∧ s.panel.pending = false ∧ s.panel.hasAnalystMessage then s.ui.thread.map s.runSuggest
    else none
  | .suggested i reply =>
    s.suggestions[i]?.map fun r => { s with suggestions := s.suggestions.eraseIdx i }.finishSuggest r reply
  | .checkSufficiency =>
    if component.aiAssist ∧ s.panel.pending = false ∧ s.panel.hasAnalystMessage then
      s.ui.thread.map s.runSufficiencyCheck
    else none
  | .checked i reply => s.checks[i]?.map fun r => { s with checks := s.checks.eraseIdx i }.finishCheck r reply
  | .acceptSuggestedPushback =>
    match s.ui.thread, s.panel.verdict with
    | some t, some verdict => some (s.acceptSuggestedPushback t verdict)
    | _, _ => none
  | .messages hasMessages hasAnalystMessage => some (s.renderMessages hasMessages hasAnalystMessage)

/-- The component as it is mounted, with the buffers of earlier visits. -/
def mounted (buffers : Uuid → Option (List Char)) : ThreadViewRun where
  ui := ⟨none, [], false, false, none, false, none⟩
  panel := ⟨0, false, none, none, false, false⟩
  buffers := buffers
  sends := []
  uploads := []
  suggestions := []
  checks := []
  texts _ := ⟨none, [], 0⟩

end ThreadViewRun

def threadViewRuns (component : ThreadViewComponent) : System ThreadViewRun ThreadViewEvent where
  init s := ∃ buffers, s = .mounted buffers
  step s e s' := s.handle component e = some s'

end MeadowOps.Frontend
