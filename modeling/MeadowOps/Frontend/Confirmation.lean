import MeadowOps.Frontend.QueryPlayground

/-!
# What is confirmed is what was previewed

The dialog shows the text that the server has classified, and its buttons send the text of the editor. Nothing
changes the editor while the dialog is open, so the two differ only where they differed when it opened.
-/

namespace MeadowOps.Frontend

open Lib Query

variable {lib : Library} {s s' : PlaygroundRun}

/-- The texts that were sent as confirmed. -/
def confirmedTexts (sent : List ExecuteRequest) : List (List Char) := (sent.filter (·.confirmed)).map (·.sql)

/-- What `f` says of the dialogs that were confirmed, or declined. -/
def answered (f : Opened → List Char) (confirmed : Bool) (answers : List (Bool × Opened)) : List (List Char) :=
  (answers.filter fun a => a.1 = confirmed).map fun a => f a.2

@[simp] theorem confirmedTexts_snoc (sent : List ExecuteRequest) (r : ExecuteRequest) :
    confirmedTexts (sent ++ [r]) = confirmedTexts sent ++ if r.confirmed then [r.sql] else [] := by
  cases confirmed : r.confirmed <;> simp [confirmedTexts, List.filter_append, confirmed]

@[simp] theorem answered_snoc (f : Opened → List Char) (confirmed : Bool) (answers : List (Bool × Opened))
    (a : Bool × Opened) : answered f confirmed (answers ++ [a]) =
      answered f confirmed answers ++ if a.1 = confirmed then [f a.2] else [] := by
  by_cases same : a.1 = confirmed <;> simp [answered, List.filter_append, same]

/-- The texts that the dialogs sent are those they showed. -/
structure ConfirmedAsPreviewed (lib : Library) (s : PlaygroundRun) : Prop where
  shown : s.ui.pendingConfirmation = s.opened.map fun o => lib.classifySubmission o.sql
  confirmed : confirmedTexts s.sent = answered Opened.sql true s.answers
  cancelled : s.cancelled = answered Opened.sql false s.answers

/-- The buttons send what the editor held when the dialog opened. -/
structure EditorInv (lib : Library) (s : PlaygroundRun) : Prop where
  shown : s.ui.pendingConfirmation = s.opened.map fun o => lib.classifySubmission o.sql
  editor : ∀ o ∈ s.opened, o.statement = s.ui.statement
  confirmed : confirmedTexts s.sent = answered Opened.statement true s.answers
  cancelled : s.cancelled = answered Opened.statement false s.answers

theorem EditorInv.none_opened (h : EditorInv lib s) (closed : s.ui.pendingConfirmation = none) :
    s.opened = none := by
  have shown := h.shown
  rw [closed] at shown
  exact Option.map_eq_none_iff.1 shown.symm

/-- An edit, which only happens while no dialog is open. -/
theorem EditorInv.edit (h : EditorInv lib s) (closed : s.ui.pendingConfirmation = none) (value : List Char) :
    EditorInv lib { s with ui := { s.ui with statement := value } } := by
  refine ⟨h.shown, fun o here => ?_, h.confirmed, h.cancelled⟩
  have here : o ∈ s.opened := here
  rw [h.none_opened closed] at here
  cases here

theorem EditorInv.respond (h : EditorInv lib s) (request : ExecuteRequest) (reply : ExecuteReply) :
    EditorInv lib (s.respond lib request reply) := by
  unfold PlaygroundRun.respond
  cases reply with
  | refused => exact ⟨h.shown, h.editor, h.confirmed, h.cancelled⟩
  | lost => exact ⟨h.shown, h.editor, h.confirmed, h.cancelled⟩
  | body status =>
    by_cases asks : (lib.requiresConfirmation request.sql && !request.confirmed) = true
    · simp only [executeQueryRoute, if_pos asks]
      refine ⟨rfl, fun o here => ?_, h.confirmed, h.cancelled⟩
      cases here
      rfl
    · simp only [executeQueryRoute, if_neg asks]
      exact ⟨h.shown, h.editor, h.confirmed, h.cancelled⟩

theorem EditorInv.confirm (h : EditorInv lib s) {o : Opened} (opened : s.opened = some o) :
    EditorInv lib { s.close.runQuery true with answers := s.answers ++ [(true, o)] } := by
  have same := h.editor o opened
  refine ⟨rfl, (fun o here => nomatch here), ?_, ?_⟩
  · show confirmedTexts (s.sent ++ [⟨s.ui.statement, true⟩]) = _
    simp [h.confirmed, same]
  · simp [PlaygroundRun.runQuery, PlaygroundRun.close, h.cancelled]

theorem EditorInv.decline (h : EditorInv lib s) {o : Opened} (opened : s.opened = some o) :
    EditorInv lib { s.close with
      cancelled := s.cancelled ++ [s.ui.statement], answers := s.answers ++ [(false, o)] } := by
  have same := h.editor o opened
  refine ⟨rfl, (fun o here => nomatch here), ?_, ?_⟩
  · simp [PlaygroundRun.close, h.confirmed]
  · simp [h.cancelled, same]

theorem EditorInv.run (h : EditorInv lib s) (closed : s.ui.pendingConfirmation = none) :
    EditorInv lib (s.runQuery false) := by
  refine ⟨h.shown, fun o here => ?_, ?_, h.cancelled⟩
  · have here : o ∈ s.opened := here
    rw [h.none_opened closed] at here
    cases here
  · show confirmedTexts (s.sent ++ [⟨s.ui.statement, false⟩]) = _
    simp [h.confirmed, PlaygroundRun.runQuery]

/-- An event keeps the open dialog with the preview of the text it was opened for. -/
theorem EditorInv.step {e : PlaygroundEvent} (h : EditorInv lib s) (step : s.handle lib e = some s') :
    EditorInv lib s' := by
  cases e with
  | edit value =>
    obtain ⟨closed, same⟩ := Option.ite_none_right_eq_some.1 step
    cases same
    exact h.edit closed value
  | insert text =>
    obtain ⟨closed, same⟩ := Option.ite_none_right_eq_some.1 step
    cases same
    exact h.edit closed _
  | run =>
    obtain ⟨⟨closed, -⟩, same⟩ := Option.ite_none_right_eq_some.1 step
    cases same
    exact h.run closed
  | response request reply =>
    obtain ⟨-, same⟩ := Option.ite_none_right_eq_some.1 step
    cases same
    exact h.respond request reply
  | confirm =>
    cases opened : s.opened with
    | none =>
      simp only [PlaygroundRun.handle, opened] at step
      cases step
    | some o =>
      simp only [PlaygroundRun.handle, opened] at step
      cases step
      exact h.confirm opened
  | decline =>
    cases opened : s.opened with
    | none =>
      simp only [PlaygroundRun.handle, opened] at step
      cases step
    | some o =>
      simp only [PlaygroundRun.handle, opened] at step
      cases step
      exact h.decline opened
  | dismiss =>
    obtain ⟨-, same⟩ := Option.ite_none_left_eq_some.1 step
    cases same
    exact ⟨rfl, (fun o here => nomatch here), h.confirmed, h.cancelled⟩

/-- By induction over the events. -/
theorem editorInv_of_run (h : (playgroundRuns lib).Reachable s) : EditorInv lib s := by
  refine h.invariant (I := EditorInv lib) (fun s start => ?_) fun s e s' _ inv _ step => inv.step step
  have start : s = .loaded := start
  subst start
  exact ⟨rfl, (fun _ here => nomatch here), rfl, rfl⟩

/-- After every run, the texts that the dialogs sent are those they showed exactly when each dialog that was
answered had opened over its own text. -/
theorem confirmed_as_previewed_iff (h : (playgroundRuns lib).Reachable s) :
    ConfirmedAsPreviewed lib s ↔ ∀ a ∈ s.answers, a.2.statement = a.2.sql := by
  have inv := editorInv_of_run h
  constructor
  · intro law a mem
    have same : answered Opened.statement a.1 s.answers = answered Opened.sql a.1 s.answers := by
      cases a.1 with
      | true => exact inv.confirmed.symm.trans law.confirmed
      | false => exact inv.cancelled.symm.trans law.cancelled
    exact List.map_inj_left.1 same a (List.mem_filter.2 ⟨mem, decide_eq_true rfl⟩)
  · intro same
    have texts : ∀ b, answered Opened.statement b s.answers = answered Opened.sql b s.answers := fun b =>
      List.map_inj_left.2 fun a mem => same a (List.mem_of_mem_filter mem)
    exact ⟨inv.shown, inv.confirmed.trans (texts true), inv.cancelled.trans (texts false)⟩

/-! ## Runs -/

/-- `sqlparse` on one DELETE without a semicolon. -/
def undivided : Library where
  split sql := [sql]
  parse _ := some ⟨"DELETE", [⟨.dml, "DELETE"⟩]⟩
  isAlnum _ := false

def played (events : List PlaygroundEvent) : Option PlaygroundRun :=
  events.foldlM (fun s e => if True then s.handle undivided e else none) .loaded

theorem reachable_of_played {events : List PlaygroundEvent} {s : PlaygroundRun} (h : played events = some s) :
    (playgroundRuns undivided).Reachable s :=
  System.Reach.checked (fun _ _ _ step => step) (.start rfl) h

def oneRow : List Char := "delete from product where id = 1".toList
def allRows : List Char := "delete from product".toList

/-- The dialog of one statement, answered. -/
def asked (between : List PlaygroundEvent) (answer : PlaygroundEvent) : List PlaygroundEvent :=
  [.edit oneRow, .run] ++ between ++ [.response ⟨oneRow, false⟩ (.body .success), answer]

/-- The condition of the statement is deleted while the request is under way: the dialog shows the statement with
it, and the one without is run. -/
theorem confirmed_unseen : ∃ s, (playgroundRuns undivided).Reachable s ∧
    s.sent = [⟨oneRow, false⟩, ⟨allRows, true⟩] ∧ ¬ ConfirmedAsPreviewed undivided s := by
  have run : (played (asked [.edit allRows] .confirm)).map (fun s => (s.sent, s.answers)) =
      some ([⟨oneRow, false⟩, ⟨allRows, true⟩], [(true, ⟨oneRow, allRows⟩)]) := by decide +kernel
  obtain ⟨s, here, ends⟩ := Option.map_eq_some_iff.1 run
  obtain ⟨sent, answers⟩ := Prod.mk.inj ends
  refine ⟨s, reachable_of_played here, sent, fun law => ?_⟩
  have confirmed := law.confirmed
  rw [sent, answers] at confirmed
  exact absurd confirmed (by decide +kernel)

/-- Declined as it was shown, and run again and confirmed as it is shown then. -/
theorem confirmed_as_previewed_iff_declined : ∃ s, ConfirmedAsPreviewed undivided s ∧ s.cancelled = [oneRow] ∧
    s.sent = [⟨oneRow, false⟩, ⟨oneRow, false⟩, ⟨oneRow, true⟩] := by
  have run : (played (asked [] .decline ++ asked [] .confirm)).map (fun s => (s.cancelled, s.sent, s.answers)) =
      some ([oneRow], [⟨oneRow, false⟩, ⟨oneRow, false⟩, ⟨oneRow, true⟩],
        [(false, ⟨oneRow, oneRow⟩), (true, ⟨oneRow, oneRow⟩)]) := by decide +kernel
  obtain ⟨s, here, ends⟩ := Option.map_eq_some_iff.1 run
  obtain ⟨cancelled, ends⟩ := Prod.mk.inj ends
  obtain ⟨sent, answers⟩ := Prod.mk.inj ends
  refine ⟨s, (confirmed_as_previewed_iff (reachable_of_played here)).2 ?_, cancelled, sent⟩
  rw [answers]
  decide +kernel

end MeadowOps.Frontend
