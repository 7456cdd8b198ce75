import MeadowOps.Lib.JsText
import MeadowOps.Lib.Runs
import MeadowOps.Query.Execution

/-!
# `components/query-playground.tsx`

The component as a state that one event after the other changes. The dialog is modal: while it is open neither
the editor nor the schema browser nor the Run button takes an event. What the history list, the result grid and
the sandbox refresh show is left out.
-/

namespace MeadowOps.Frontend

open Lib Query

/-- The body of a POST to `/api/query/execute`. -/
structure ExecuteRequest where
  sql : List Char
  confirmed : Bool
  deriving DecidableEq, Repr

inductive ExecuteResult where
  | confirmationRequired (statements : List (List Char × StatementType))
  | executed (status : QuerySubmissionStatus)
  deriving DecidableEq, Repr

/-- `execute_query_route`, with the status that the execution would have. -/
def executeQueryRoute (lib : Library) (request : ExecuteRequest) (status : QuerySubmissionStatus) : ExecuteResult :=
  if lib.requiresConfirmation request.sql && !request.confirmed then
    .confirmationRequired (lib.classifySubmission request.sql)
  else .executed status

/-- The state of the component. -/
structure QueryPlayground where
  statement : List Char
  running : Bool
  result : Option QuerySubmissionStatus
  pendingConfirmation : Option (List (List Char × StatementType))
  deriving DecidableEq, Repr

/-- A dialog: the text that the server has classified, and what the editor held when the dialog opened. -/
structure Opened where
  sql : List Char
  statement : List Char
  deriving DecidableEq, Repr

/-- The component, its requests, the texts logged as cancelled, and the dialogs that were answered. -/
structure PlaygroundRun where
  ui : QueryPlayground
  inFlight : List ExecuteRequest
  sent : List ExecuteRequest
  cancelled : List (List Char)
  opened : Option Opened
  answers : List (Bool × Opened)
  deriving DecidableEq, Repr

/-- What becomes of a request: the server answers it, refuses it, or it is lost. -/
inductive ExecuteReply where
  | body (status : QuerySubmissionStatus)
  | refused
  | lost
  deriving DecidableEq, Repr

inductive PlaygroundEvent where
  /-- `onChange` of the editor. -/
  | edit (value : List Char)
  /-- `onInsert` of the schema browser. -/
  | insert (text : List Char)
  | run
  | response (request : ExecuteRequest) (reply : ExecuteReply)
  | confirm
  | decline
  /-- `onOpenChange(false)`. -/
  | dismiss
  deriving DecidableEq, Repr

def insertIntoEditor (text current : List Char) : List Char :=
  if trim current = [] then text else trimEnd current ++ ' ' :: text

/-- `runQuery`, up to the answer. -/
def PlaygroundRun.runQuery (s : PlaygroundRun) (confirmed : Bool) : PlaygroundRun :=
  { s with
    ui := { s.ui with running := true }
    inFlight := s.inFlight ++ [⟨s.ui.statement, confirmed⟩]
    sent := s.sent ++ [⟨s.ui.statement, confirmed⟩] }

/-- The rest of `runQuery`. -/
def PlaygroundRun.respond (lib : Library) (s : PlaygroundRun) (request : ExecuteRequest) (reply : ExecuteReply) :
    PlaygroundRun :=
  let s := { s with ui := { s.ui with running := false }, inFlight := s.inFlight.erase request }
  match reply with
  | .refused | .lost => s
  | .body status =>
    match executeQueryRoute lib request status with
    | .confirmationRequired statements =>
      { s with
        ui := { s.ui with pendingConfirmation := some statements }
        opened := some ⟨request.sql, s.ui.statement⟩ }
    | .executed status => { s with ui := { s.ui with result := some status } }

/-- `setPendingConfirmation(null)`. -/
def PlaygroundRun.close (s : PlaygroundRun) : PlaygroundRun :=
  { s with ui := { s.ui with pendingConfirmation := none }, opened := none }

/-- An event, when the page takes it. -/
def PlaygroundRun.handle (lib : Library) (s : PlaygroundRun) : PlaygroundEvent → Option PlaygroundRun
  | .edit value =>
    if s.ui.pendingConfirmation = none then some { s with ui := { s.ui with statement := value } } else none
  | .insert text =>
    if s.ui.pendingConfirmation = none then
      some { s with ui := { s.ui with statement := insertIntoEditor text s.ui.statement } }
    else none
  | .run =>
    if s.ui.pendingConfirmation = none ∧ s.ui.running = false ∧ trim s.ui.statement ≠ [] then
      some (s.runQuery false)
    else none
  | .response request reply => if request ∈ s.inFlight then some (s.respond lib request reply) else none
  | .confirm =>
    match s.opened with
    | none => none
    | some o => some { s.close.runQuery true with answers := s.answers ++ [(true, o)] }
  | .decline =>
    match s.opened with
    | none => none
    | some o =>
      some { s.close with cancelled := s.cancelled ++ [s.ui.statement], answers := s.answers ++ [(false, o)] }
  | .dismiss => if s.ui.pendingConfirmation = none then none else some s.close

def initialStatement : List Char := "select * from product limit 50;".toList

/-- The page as it is loaded. -/
def PlaygroundRun.loaded : PlaygroundRun := ⟨⟨initialStatement, false, none, none⟩, [], [], [], none, []⟩

def playgroundRuns (lib : Library) : System PlaygroundRun PlaygroundEvent where
  init s := s = .loaded
  step s e s' := s.handle lib e = some s'

end MeadowOps.Frontend
