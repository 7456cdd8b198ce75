import MeadowOps.Chat.Operations
import MeadowOps.Frontend.ThreadView

/-!
# `composer-draft.ts`: the sync of the drafts

The Analyst's `ThreadView` with its timer, its pending sync and its one abort controller for all threads, the requests
that have not arrived, and the tables of the server. No request fails but by the abort of the client: one that is
aborted still arrives before all later ones, or not at all. Beside it stands the last text typed in each thread since
a message was sent from it. A sync that supersedes one of another thread loses the text of that thread.
-/

namespace MeadowOps.Chat

open Db Lib

/-! ## The drafts of a user -/

def ChatStore.draftOf (store : ChatStore) (threadId userId : Uuid) : Option String :=
  (store.drafts.find? fun d => d.threadId = threadId ∧ d.userId = userId).map (·.body)

variable {store : ChatStore} {threadId userId : Uuid}

theorem draftOf_withoutDraft (t : Uuid) :
    (withoutDraft threadId userId store).draftOf t userId = if t = threadId then none else store.draftOf t userId := by
  rw [ChatStore.draftOf, withoutDraft, List.find?_filter]
  split
  · subst threadId
    rw [List.find?_eq_none.2, Option.map_none]
    intro d _ found
    obtain ⟨kept, own⟩ := of_decide_eq_true found
    exact of_decide_eq_true kept (of_decide_eq_true own)
  · rename_i other
    have same : ∀ d : ChatThreadDraft, decide ((decide ¬(d.threadId = threadId ∧ d.userId = userId)) = true ∧
        decide (d.threadId = t ∧ d.userId = userId) = true) = decide (d.threadId = t ∧ d.userId = userId) := by
      intro d
      by_cases here : d.threadId = t
      · simp [here, other]
      · simp [here]
    rw [funext same, ChatStore.draftOf]

theorem draftOf_upsertDraft (draft : ChatThreadDraft) (t : Uuid) :
    (upsertDraft draft store).draftOf t draft.userId =
      if t = draft.threadId then some draft.body else store.draftOf t draft.userId := by
  unfold upsertDraft
  split
  · rename_i known
    obtain ⟨row, mem, mine⟩ := List.any_eq_true.1 known
    have same : ∀ d : ChatThreadDraft, decide ((if d.threadId = draft.threadId ∧ d.userId = draft.userId then draft
        else d).threadId = t ∧ (if d.threadId = draft.threadId ∧ d.userId = draft.userId then draft else d).userId =
          draft.userId) = decide (d.threadId = t ∧ d.userId = draft.userId) := by
      intro d
      split
      · rename_i own
        rw [own.1, own.2]
      · rfl
    rw [ChatStore.draftOf, List.find?_map, Function.comp_def, funext same]
    split
    · subst t
      cases found : store.drafts.find? fun d => d.threadId = draft.threadId ∧ d.userId = draft.userId with
      | none => exact absurd mine (by simpa using List.find?_eq_none.1 found row mem)
      | some d =>
        have own : d.threadId = draft.threadId ∧ d.userId = draft.userId := by
          simpa using List.find?_some found
        rw [Option.map_some, Option.map_some, if_pos own]
    · rename_i other
      rw [Option.map_map, ChatStore.draftOf]
      refine Option.map_congr fun d found => ?_
      have here : d.threadId = t ∧ d.userId = draft.userId := by
        simpa using List.find?_some found
      rw [Function.comp_apply, if_neg]
      rintro ⟨own, -⟩
      exact other (here.1.symm.trans own)
  · rename_i unknown
    have fresh : ∀ d ∈ store.drafts, ¬(d.threadId = draft.threadId ∧ d.userId = draft.userId) := by
      simpa using unknown
    rw [ChatStore.draftOf, List.find?_append]
    split
    · subst t
      rw [List.find?_eq_none.2 fun d mem => by simpa using fresh d mem]
      simp
    · rename_i other
      rw [List.find?_cons_of_neg (by simpa using fun own => absurd own.symm other), List.find?_nil, Option.or_none,
        ChatStore.draftOf]

end MeadowOps.Chat

namespace MeadowOps.Frontend

open Lib Db Chat

/-! ## The state -/

/-- A request of the composer. -/
inductive DraftCall where
  | save (body : List Char)
  | send (body : List Char) (attachmentId : Option Uuid)
  deriving DecidableEq, Repr

namespace DraftCall

/-- What `save_draft` keeps of a text. -/
def savedDraft (body : List Char) : Option String :=
  if isBlank (String.ofList body) then none else some (String.ofList body)

/-- The draft of the thread after the call. -/
def leaves : DraftCall → Option String
  | .save body => savedDraft body
  | .send .. => none

end DraftCall

/-- A request that has not arrived; the ids are in the order in which they are issued. -/
structure DraftRequest where
  id : ℕ
  threadId : Uuid
  call : DraftCall
  aborted : Bool
  deriving DecidableEq, Repr

/-- The operation that a request asks for, with what the server adds to a message. -/
def DraftRequest.operation (userId : Uuid) (responseWindowDays : ℤ) (messageId : Uuid) (wallClock : Instant)
    (r : DraftRequest) : Operation :=
  match r.call with
  | .save body => .saveDraft r.threadId userId (String.ofList body)
  | .send body attachmentId =>
    .sendMessage r.threadId ⟨userId, .analyst, String.ofList body, responseWindowDays, attachmentId, fun _ => none,
      messageId, wallClock⟩

/-- The component with `syncTimerRef`, `pendingSyncRef` and the request of `syncAbortRef`; the requests that have not
arrived, in the order in which they were issued; a bound on those that have; the tables; and the last text typed in
each thread since a message was sent from it. -/
structure DraftSyncRun where
  view : ThreadViewRun
  timer : Option (Uuid × List Char)
  pending : Option (Uuid × List Char)
  controller : Option ℕ
  requests : List DraftRequest
  issued : ℕ
  arrived : ℕ
  store : ChatStore
  typed : Uuid → Option (List Char)

inductive DraftSyncEvent where
  | view (e : ThreadViewEvent)
  /-- 500 ms have passed. -/
  | timer
  /-- A request arrives at the server. -/
  | arrive (i : ℕ) (responseWindowDays : ℤ) (messageId : Uuid) (wallClock now : Instant)
  /-- An aborted request is dropped. -/
  | drop (i : ℕ)

namespace DraftSyncRun

/-! ## The handlers -/

/-- `syncAbortRef.current?.abort()`. -/
def abort (s : DraftSyncRun) : DraftSyncRun :=
  { s with requests := s.requests.map fun r => if some r.id = s.controller then { r with aborted := true } else r }

def issue (s : DraftSyncRun) (threadId : Uuid) (call : DraftCall) : DraftSyncRun :=
  { s with requests := s.requests ++ [⟨s.issued, threadId, call, false⟩], issued := s.issued + 1 }

/-- `fireSync`. -/
def fireSync (s : DraftSyncRun) (threadId : Uuid) (body : List Char) : DraftSyncRun :=
  { s.abort.issue threadId (.save body) with controller := some s.issued, pending := none }

/-- The cleanup of the effect. -/
def flush (s : DraftSyncRun) : DraftSyncRun :=
  match s.pending with
  | none => { s with timer := none }
  | some (threadId, body) => { s with timer := none }.fireSync threadId body

/-- A render: the cleanup of the last thread, and the effect. -/
def renderThread (s : DraftSyncRun) (thread : Option (Uuid × List Char)) : DraftSyncRun :=
  let s := if s.view.ui.thread = thread.map Prod.fst then s else s.flush
  { s with view := s.view.renderThread thread }

def handleDraftChange (s : DraftSyncRun) (threadId : Uuid) (value : List Char) : DraftSyncRun :=
  { s with
    view := s.view.handleDraftChange threadId value
    timer := some (threadId, value)
    pending := some (threadId, value)
    typed := Function.update s.typed threadId (some value) }

/-- `handleSend` sends. -/
def Sends (s : DraftSyncRun) : Prop := ¬(trim s.view.ui.draft = [] ∨ s.view.ui.sending)

instance (s : DraftSyncRun) : Decidable s.Sends := inferInstanceAs (Decidable ¬_)

/-- `handleSend`, up to the answer. -/
def handleSend (s : DraftSyncRun) (threadId : Uuid) : DraftSyncRun :=
  if s.Sends then
    { s.abort.issue threadId (.send (trim s.view.ui.draft) (s.view.ui.pendingAttachment.map (·.id))) with
      view := s.view.handleSend threadId
      timer := none
      pending := none
      typed := Function.update s.typed threadId none }
  else s

/-! ## The server -/

/-- The request arrives, and its operation succeeds. -/
def serve (userId : Uuid) (s : DraftSyncRun) (i : ℕ) (responseWindowDays : ℤ) (messageId : Uuid)
    (wallClock now : Instant) (r : DraftRequest) : Option DraftSyncRun :=
  if r.aborted ∧ r.id < s.arrived then none
  else
    match (r.operation userId responseWindowDays messageId wallClock).perform now s.store with
    | .error _ _ => none
    | .ok _ store =>
      some { s with store := store, requests := s.requests.eraseIdx i, arrived := max s.arrived (r.id + 1) }

def isSend (r : DraftRequest) : Bool := r.call matches .send ..

/-! ## Events -/

def handle (userId : Uuid) (s : DraftSyncRun) : DraftSyncEvent → Option DraftSyncRun
  | .view (.render thread) => some (s.renderThread thread)
  | .view (.type value) => s.view.ui.thread.map fun t => s.handleDraftChange t value
  | .view .send => s.view.ui.thread.map s.handleSend
  | .view (.sent i (.ok ())) =>
    if s.requests.any isSend then none
    else (s.view.handle chatThreadView (.sent i (.ok ()))).map fun view => { s with view := view }
  | .view (.sent _ _) => none
  | .view e => (s.view.handle chatThreadView e).map fun view => { s with view := view }
  | .timer => s.timer.map fun p => { s with timer := none }.fireSync p.1 p.2
  | .arrive i responseWindowDays messageId wallClock now =>
    s.requests[i]?.bind (s.serve userId i responseWindowDays messageId wallClock now)
  | .drop i =>
    s.requests[i]?.bind fun r => if r.aborted then some { s with requests := s.requests.eraseIdx i } else none

/-- The composer is mounted; the drafts are those of earlier visits. -/
structure Mounted (userId : Uuid) (s : DraftSyncRun) : Prop where
  view : ∃ buffers, s.view = .mounted buffers
  timer : s.timer = none
  pending : s.pending = none
  requests : s.requests = []
  drafts : ∀ t, s.store.draftOf t userId = (s.typed t).bind DraftCall.savedDraft

end DraftSyncRun

def draftSyncRuns (userId : Uuid) : System DraftSyncRun DraftSyncEvent where
  init s := s.Mounted userId
  step s e s' := s.handle userId e = some s'

namespace DraftSyncRun

/-- A sync or a message of the thread supersedes no request of another. -/
def OwnSync (s : DraftSyncRun) (threadId : Uuid) : Prop :=
  ∀ r ∈ s.requests, some r.id = s.controller → r.aborted = false → r.threadId = threadId

instance (s : DraftSyncRun) (threadId : Uuid) : Decidable (s.OwnSync threadId) :=
  inferInstanceAs (Decidable (∀ r ∈ s.requests, _))

end DraftSyncRun

/-- No sync of another thread is aborted, and the requests of a thread arrive in their order. -/
def DraftsInOrder (s : DraftSyncRun) : DraftSyncEvent → Prop
  | .view (.render thread) => s.view.ui.thread ≠ thread.map Prod.fst → ∀ p ∈ s.pending, s.OwnSync p.1
  | .view .send => s.Sends → ∀ t ∈ s.view.ui.thread, s.OwnSync t
  | .timer => ∀ p ∈ s.timer, s.OwnSync p.1
  | .arrive i .. => ∀ r ∈ s.requests[i]?, r.aborted = false →
      ∀ earlier ∈ s.requests.take i, earlier.threadId = r.threadId → earlier.aborted = true
  | _ => True

/-- The drafts on the server are the last texts typed. -/
def DraftsDelivered (userId : Uuid) (s : DraftSyncRun) : Prop :=
  ∀ t, s.store.draftOf t userId = (s.typed t).bind DraftCall.savedDraft

/-- No timer is armed and no request is under way. -/
structure DraftSyncRun.Settled (s : DraftSyncRun) : Prop where
  timer : s.timer = none
  requests : s.requests = []
  sends : s.view.sends = []

/-! ## What the server will know -/

theorem draftOf_sent (thread : ChatThread) (attachmentId : Option Uuid) (messageId : Uuid) (messages : List ChatMessage)
    (store : ChatStore) (t userId : Uuid) :
    (updateThread thread (claimAttachment attachmentId messageId
      { store with messages := messages })).draftOf t userId = store.draftOf t userId := by
  cases attachmentId with
  | none => rfl
  | some id => rfl

/-- The operation of a request that succeeds leaves its draft, and those of the other threads. -/
theorem draftOf_perform {r : DraftRequest} {userId messageId : Uuid} {responseWindowDays : ℤ} {wallClock now : Instant}
    {store store' : ChatStore}
    (ran : (r.operation userId responseWindowDays messageId wallClock).perform now store = .ok () store') (t : Uuid) :
    store'.draftOf t userId = if t = r.threadId then r.call.leaves else store.draftOf t userId := by
  unfold DraftRequest.operation at ran
  cases call : r.call with
  | save body =>
    rw [call] at ran
    obtain ⟨row, _, load, ran⟩ := bind_eq_ok ran
    obtain ⟨rfl, loaded⟩ := loadThread_ok load
    rw [DraftCall.leaves, DraftCall.savedDraft]
    split at ran
    · cases ran
    · split at ran
      · rename_i blank
        cases ran
        rw [if_pos blank, draftOf_withoutDraft]
      · rename_i text
        cases ran
        rw [if_neg text]
        exact draftOf_upsertDraft _ t
  | send body attachmentId =>
    rw [call] at ran
    cases change_of_perform ran with
    | sent _ _ eq =>
      rw [eq, draftOf_withoutDraft, draftOf_sent]
      rfl

namespace DraftSyncRun

variable {s s' : DraftSyncRun} {userId threadId : Uuid} {call : DraftCall}

/-- The requests of a thread that are not aborted. -/
def live (s : DraftSyncRun) (t : Uuid) : List DraftRequest :=
  s.requests.filter fun r => r.threadId = t ∧ r.aborted = false

theorem mem_live {r : DraftRequest} {t : Uuid} :
    r ∈ s.live t ↔ r ∈ s.requests ∧ r.threadId = t ∧ r.aborted = false := by
  rw [live, List.mem_filter, decide_eq_true_iff]

/-- The draft after requests in their order. -/
def settle (draft : Option String) (requests : List DraftRequest) : Option String :=
  requests.foldl (fun _ r => r.call.leaves) draft

theorem settle_append_singleton (draft : Option String) (requests : List DraftRequest) (r : DraftRequest) :
    settle draft (requests ++ [r]) = r.call.leaves :=
  List.foldl_concat ..

/-- A request that will arrive decides, whatever is there before. -/
theorem settle_of_mem {requests : List DraftRequest} {r : DraftRequest} (mem : r ∈ requests)
    (draft draft' : Option String) : settle draft requests = settle draft' requests := by
  cases requests with
  | nil => cases mem
  | cons r requests => rfl

def synced (s : DraftSyncRun) (userId t : Uuid) : Option String := settle (s.store.draftOf t userId) (s.live t)

/-- The draft of the thread once all has settled. -/
def eventual (s : DraftSyncRun) (userId t : Uuid) : Option String :=
  match s.timer with
  | none => s.synced userId t
  | some (armed, body) => if t = armed then DraftCall.savedDraft body else s.synced userId t

/-! ## A request that supersedes -/

theorem live_abort (own : s.OwnSync threadId) {t : Uuid} (other : t ≠ threadId) : s.abort.live t = s.live t := by
  have kept : ∀ r ∈ s.requests, some r.id = s.controller → ¬(r.threadId = t ∧ r.aborted = false) := by
    rintro r mem controlled ⟨rfl, running⟩
    exact other (own r mem controlled running)
  unfold live abort
  dsimp only
  generalize s.requests = requests at kept ⊢
  induction requests with
  | nil => rfl
  | cons r requests ih =>
    have rest := ih fun r mem => kept r (List.mem_cons_of_mem _ mem)
    rw [List.map_cons, List.filter_cons, List.filter_cons, rest]
    split
    · rename_i controlled
      rw [if_neg (by simp), if_neg (by simpa using kept r List.mem_cons_self controlled)]
    · rfl

theorem live_supersede (own : s.OwnSync threadId) (t : Uuid) :
    (s.abort.issue threadId call).live t =
      if t = threadId then s.abort.live t ++ [⟨s.issued, threadId, call, false⟩] else s.live t := by
  have split : (s.abort.issue threadId call).live t =
      s.abort.live t ++ [⟨s.issued, threadId, call, false⟩].filter fun r => r.threadId = t ∧ r.aborted = false :=
    List.filter_append ..
  rw [split]
  split
  · rename_i same
    rw [List.filter_cons_of_pos (by simp [same]), List.filter_nil]
  · rename_i other
    rw [List.filter_cons_of_neg (by simpa using Ne.symm other), List.filter_nil, List.append_nil, live_abort own other]

theorem synced_supersede (call : DraftCall) (own : s.OwnSync threadId) (t : Uuid) :
    (s.abort.issue threadId call).synced userId t = if t = threadId then call.leaves else s.synced userId t := by
  rw [synced, live_supersede own]
  split
  · exact settle_append_singleton ..
  · rfl

/-! ## A request that arrives or is dropped -/

theorem requests_split {i : ℕ} {r : DraftRequest} (here : s.requests[i]? = some r) :
    s.requests = s.requests.take i ++ r :: s.requests.drop (i + 1) := by
  obtain ⟨lt, eq⟩ := List.getElem?_eq_some_iff.1 here
  rw [← eq, List.getElem_cons_drop, List.take_append_drop]

/-- The other requests are under way as before. -/
theorem live_eraseIdx {i : ℕ} {r : DraftRequest} (here : s.requests[i]? = some r)
    (requests : s'.requests = s.requests.eraseIdx i) {t : Uuid} (other : ¬(r.threadId = t ∧ r.aborted = false)) :
    s'.live t = s.live t := by
  rw [live, live, requests, List.eraseIdx_eq_take_drop_succ, List.filter_append]
  conv_rhs => rw [requests_split here, List.filter_append, List.filter_cons_of_neg (by simpa using other)]

/-- A request that arrives in its order was the next one of its thread. -/
theorem live_arrived {i : ℕ} {r : DraftRequest} (here : s.requests[i]? = some r) (running : r.aborted = false)
    (first : ∀ earlier ∈ s.requests.take i, earlier.threadId = r.threadId → earlier.aborted = true)
    (requests : s'.requests = s.requests.eraseIdx i) : s.live r.threadId = r :: s'.live r.threadId := by
  have none : (s.requests.take i).filter (fun e => e.threadId = r.threadId ∧ e.aborted = false) = [] := by
    refine List.filter_eq_nil_iff.2 fun earlier mem => ?_
    rw [decide_eq_true_iff]
    rintro ⟨same, running⟩
    exact Bool.false_ne_true (running.symm.trans (first earlier mem same))
  rw [live, live, requests, List.eraseIdx_eq_take_drop_succ, List.filter_append, none, List.nil_append]
  conv_lhs => rw [requests_split here, List.filter_append, none, List.nil_append,
    List.filter_cons_of_pos (by simpa using running)]

end DraftSyncRun

/-! ## The invariant -/

/-- What settles is what was typed. A request that was aborted comes too late, or a later one of its thread is
under way. -/
structure DraftsKept (userId : Uuid) (s : DraftSyncRun) : Prop where
  pending : s.pending = s.timer
  timer : ∀ p ∈ s.timer, s.view.ui.thread = some p.1
  ids : ∀ r ∈ s.requests, r.id < s.issued
  superseded : ∀ r ∈ s.requests, r.aborted = true → r.id < s.arrived ∨ ∃ later ∈ s.live r.threadId, r.id < later.id
  drafts : ∀ t, s.eventual userId t = (s.typed t).bind DraftCall.savedDraft

namespace DraftsKept

open DraftSyncRun

variable {s s' : DraftSyncRun} {userId threadId : Uuid} {call : DraftCall}

theorem ids_supersede (h : DraftsKept userId s) :
    ∀ r ∈ (s.abort.issue threadId call).requests, r.id < (s.abort.issue threadId call).issued := by
  intro r mem
  rcases List.mem_append.1 mem with mem | mem
  · obtain ⟨before, known, rfl⟩ := List.mem_map.1 mem
    split
    · exact Nat.lt_succ_of_lt (h.ids before known)
    · exact Nat.lt_succ_of_lt (h.ids before known)
  · obtain rfl := List.mem_singleton.1 mem
    exact Nat.lt_succ_self _

theorem superseded_supersede (h : DraftsKept userId s) (own : s.OwnSync threadId) :
    ∀ r ∈ (s.abort.issue threadId call).requests, r.aborted = true →
      r.id < s.arrived ∨ ∃ later ∈ (s.abort.issue threadId call).live r.threadId, r.id < later.id := by
  intro r mem aborted
  rw [live_supersede own]
  rcases List.mem_append.1 mem with mem | mem
  · obtain ⟨before, mem, eq⟩ := List.mem_map.1 mem
    have same : before.id = r.id ∧ before.threadId = r.threadId := by
      rw [← eq]
      split
      · exact ⟨rfl, rfl⟩
      · exact ⟨rfl, rfl⟩
    by_cases here : r.threadId = threadId
    · refine .inr ⟨⟨s.issued, threadId, call, false⟩, ?_, ?_⟩
      · rw [if_pos here]
        exact List.mem_append_right _ List.mem_cons_self
      · rw [← same.1]
        exact h.ids before mem
    · rw [if_neg here]
      -- a request of another thread was aborted before
      have early : before.aborted = true := by
        by_contra running
        split at eq
        · exact here (same.2 ▸ own before mem ‹_› (Bool.eq_false_iff.2 running))
        · exact running (by rw [eq]; exact aborted)
      rw [← same.1, ← same.2]
      exact h.superseded before mem early
  · obtain rfl := List.mem_singleton.1 mem
    cases aborted

theorem fireSync {body : List Char} (h : DraftsKept userId s) (armed : s.timer = some (threadId, body))
    (own : s.OwnSync threadId) : DraftsKept userId ({ s with timer := none }.fireSync threadId body) where
  pending := rfl
  timer _ mem := by cases mem
  ids := h.ids_supersede
  superseded := h.superseded_supersede own
  drafts t := by
    have eventually := h.drafts t
    rw [eventual, armed] at eventually
    refine Eq.trans ?_ eventually
    exact synced_supersede (.save body) own t

theorem flush (h : DraftsKept userId s) (own : ∀ p ∈ s.pending, s.OwnSync p.1) :
    DraftsKept userId s.flush ∧ s.flush.timer = none := by
  cases pending : s.pending with
  | none =>
    have idle : s.timer = none := h.pending.symm.trans pending
    have same : s.flush = s := by
      cases s
      cases pending
      cases idle
      rfl
    rw [same]
    exact ⟨h, idle⟩
  | some p =>
    have fires : s.flush = { s with timer := none }.fireSync p.1 p.2 := by
      rw [DraftSyncRun.flush, pending]
    rw [fires]
    exact ⟨h.fireSync (h.pending.symm.trans pending) (own p pending), rfl⟩

theorem withView (h : DraftsKept userId s) {view : ThreadViewRun}
    (timer : ∀ p ∈ s.timer, view.ui.thread = some p.1) : DraftsKept userId { s with view := view } :=
  ⟨h.pending, timer, h.ids, h.superseded, h.drafts⟩

theorem renderThread (h : DraftsKept userId s) {thread : Option (Uuid × List Char)}
    (own : s.view.ui.thread ≠ thread.map Prod.fst → ∀ p ∈ s.pending, s.OwnSync p.1) :
    DraftsKept userId (s.renderThread thread) := by
  unfold DraftSyncRun.renderThread
  split
  · rename_i same
    refine h.withView fun p mem => ?_
    have still : s.view.renderThread thread = s.view := if_pos same
    rw [still]
    exact h.timer p mem
  · rename_i other
    obtain ⟨flushed, idle⟩ := h.flush (own other)
    refine flushed.withView fun p mem => ?_
    rw [idle] at mem
    exact absurd mem (Option.not_mem_none p)

/-- Nothing is armed for another thread than the one that is open. -/
theorem eventual_of_ne (h : DraftsKept userId s) {t u : Uuid} (opened : s.view.ui.thread = some t) (other : u ≠ t) :
    s.eventual userId u = s.synced userId u := by
  unfold eventual
  cases armed : s.timer with
  | none => rfl
  | some p =>
    have here : t = p.1 := Option.some.inj (opened.symm.trans (h.timer p armed))
    exact if_neg (here ▸ other)

theorem handleDraftChange (h : DraftsKept userId s) {t : Uuid} (opened : s.view.ui.thread = some t)
    (value : List Char) : DraftsKept userId (s.handleDraftChange t value) where
  pending := rfl
  timer p mem := by
    cases mem
    exact opened
  ids := h.ids
  superseded := h.superseded
  drafts u := by
    have eventually : (s.handleDraftChange t value).eventual userId u =
      if u = t then DraftCall.savedDraft value else s.synced userId u := rfl
    rw [eventually]
    change _ = (Function.update s.typed t (some value) u).bind DraftCall.savedDraft
    split
    · subst u
      rw [Function.update_self, Option.bind_some]
    · rename_i other
      rw [Function.update_of_ne other, ← h.drafts u, h.eventual_of_ne opened other]

theorem handleSend (h : DraftsKept userId s) {t : Uuid} (opened : s.view.ui.thread = some t)
    (own : s.Sends → s.OwnSync t) : DraftsKept userId (s.handleSend t) := by
  unfold DraftSyncRun.handleSend
  split
  · rename_i sends
    refine ⟨rfl, fun p mem => absurd mem (Option.not_mem_none p), h.ids_supersede, h.superseded_supersede (own sends),
      fun u => (synced_supersede (.send _ _) (own sends) u).trans ?_⟩
    change _ = (Function.update s.typed t none u).bind DraftCall.savedDraft
    split
    · subst u
      rw [Function.update_self]
      rfl
    · rename_i other
      rw [Function.update_of_ne other, ← h.drafts u, h.eventual_of_ne opened other]
  · exact h

/-- The draft of a thread that is not armed is what the requests leave. -/
theorem eventual_congr (timer : s'.timer = s.timer) {t : Uuid} (synced : s'.synced userId t = s.synced userId t) :
    s'.eventual userId t = s.eventual userId t := by
  rw [eventual, eventual, timer, synced]

theorem serve {i : ℕ} {r : DraftRequest} {store : ChatStore} (h : DraftsKept userId s)
    (here : s.requests[i]? = some r) (inTime : ¬(r.aborted ∧ r.id < s.arrived))
    (drafts : ∀ t, store.draftOf t userId = if t = r.threadId then r.call.leaves else s.store.draftOf t userId)
    (first : r.aborted = false →
      ∀ earlier ∈ s.requests.take i, earlier.threadId = r.threadId → earlier.aborted = true) :
    DraftsKept userId
      { s with store := store, requests := s.requests.eraseIdx i, arrived := max s.arrived (r.id + 1) } := by
  set s' : DraftSyncRun :=
    { s with store := store, requests := s.requests.eraseIdx i, arrived := max s.arrived (r.id + 1) }
  have synced : ∀ t, s'.synced userId t = s.synced userId t := by
    intro t
    rw [DraftSyncRun.synced, DraftSyncRun.synced, show s'.store.draftOf t userId = _ from drafts t]
    by_cases mine : t = r.threadId
    · subst t
      rw [if_pos rfl]
      cases aborted : r.aborted with
      | true =>
        rw [live_eraseIdx here rfl (by simp [aborted])]
        rcases h.superseded r (List.mem_of_getElem? here) aborted with late | ⟨later, mem, -⟩
        · exact absurd ⟨aborted, late⟩ inTime
        · exact settle_of_mem mem ..
      | false =>
        have next : s.live r.threadId = r :: s'.live r.threadId := live_arrived here aborted (first aborted) rfl
        rw [next]
        rfl
    · rw [if_neg mine, live_eraseIdx here rfl fun both => mine both.1.symm]
  refine ⟨h.pending, h.timer, fun r mem => h.ids r (List.mem_of_mem_eraseIdx mem), ?_, fun t => ?_⟩
  · intro old mem aborted
    rcases h.superseded old (List.mem_of_mem_eraseIdx mem) aborted with late | ⟨later, live, lt⟩
    · exact .inl (lt_max_of_lt_left late)
    · by_cases same : later = r
      · subst same
        exact .inl (lt_max_of_lt_right (Nat.lt_succ_of_lt lt))
      · refine .inr ⟨later, ?_, lt⟩
        obtain ⟨known, running⟩ := mem_live.1 live
        refine mem_live.2 ⟨?_, running⟩
        change later ∈ s.requests.eraseIdx i
        rw [List.eraseIdx_eq_take_drop_succ]
        rw [requests_split here] at known
        rcases List.mem_append.1 known with before | after
        · exact List.mem_append_left _ before
        · exact List.mem_append_right _ ((List.mem_cons.1 after).resolve_left same)
  · have armed : s'.timer = s.timer := rfl
    exact (eventual_congr armed (synced t)).trans (h.drafts t)

theorem drop {i : ℕ} {r : DraftRequest} (h : DraftsKept userId s) (here : s.requests[i]? = some r)
    (aborted : r.aborted = true) : DraftsKept userId { s with requests := s.requests.eraseIdx i } := by
  have live : ∀ t, DraftSyncRun.live { s with requests := s.requests.eraseIdx i } t = s.live t := fun t =>
    live_eraseIdx here rfl (by simp [aborted])
  have synced : ∀ t,
      DraftSyncRun.synced { s with requests := s.requests.eraseIdx i } userId t = s.synced userId t := by
    intro t
    rw [DraftSyncRun.synced, live, DraftSyncRun.synced]
  refine ⟨h.pending, h.timer, fun r mem => h.ids r (List.mem_of_mem_eraseIdx mem), ?_, fun t => ?_⟩
  · intro r mem aborted
    rw [live]
    exact h.superseded r (List.mem_of_mem_eraseIdx mem) aborted
  · have armed : DraftSyncRun.timer { s with requests := s.requests.eraseIdx i } = s.timer := rfl
    exact (eventual_congr armed (synced t)).trans (h.drafts t)

end DraftsKept

/-! ## Steps and runs -/

section Steps

open DraftSyncRun

variable {s s' : DraftSyncRun} {userId : Uuid} {e : DraftSyncEvent}

theorem setPanel_thread (view : ThreadViewRun) (mount : ℕ) (f : AiAssistPanel → AiAssistPanel) :
    (view.setPanel mount f).ui.thread = view.ui.thread := by
  unfold ThreadViewRun.setPanel
  split
  · rfl
  · rfl

/-- Only a render opens another thread. -/
theorem thread_of_handle {component : ThreadViewComponent} {view view' : ThreadViewRun} {e : ThreadViewEvent}
    (other : ∀ thread, e ≠ .render thread) (moves : view.handle component e = some view') :
    view'.ui.thread = view.ui.thread := by
  cases e with
  | render thread => exact absurd rfl (other thread)
  | type value =>
    obtain ⟨t, -, rfl⟩ := Option.map_eq_some_iff.1 moves
    rfl
  | send =>
    obtain ⟨t, -, rfl⟩ := Option.map_eq_some_iff.1 moves
    unfold ThreadViewRun.handleSend
    split
    · rfl
    · rfl
  | sent i reply =>
    obtain ⟨r, -, rfl⟩ := Option.map_eq_some_iff.1 moves
    cases reply with
    | ok answer => rfl
    | error detail => rfl
    | lost => rfl
  | upload =>
    obtain ⟨-, moves⟩ := Option.ite_none_right_eq_some.1 moves
    obtain ⟨t, -, rfl⟩ := Option.map_eq_some_iff.1 moves
    rfl
  | uploaded i reply =>
    obtain ⟨t, -, rfl⟩ := Option.map_eq_some_iff.1 moves
    cases reply with
    | ok answer => rfl
    | error detail => rfl
    | lost => rfl
  | removeAttachment =>
    cases moves
    rfl
  | suggestOpening =>
    obtain ⟨-, moves⟩ := Option.ite_none_right_eq_some.1 moves
    obtain ⟨t, -, rfl⟩ := Option.map_eq_some_iff.1 moves
    rfl
  | suggestPushback =>
    obtain ⟨-, moves⟩ := Option.ite_none_right_eq_some.1 moves
    obtain ⟨t, -, rfl⟩ := Option.map_eq_some_iff.1 moves
    rfl
  | suggested i reply =>
    obtain ⟨r, -, rfl⟩ := Option.map_eq_some_iff.1 moves
    cases reply with
    | ok message => exact setPanel_thread ..
    | error detail => exact setPanel_thread ..
    | lost => exact setPanel_thread ..
  | checkSufficiency =>
    obtain ⟨-, moves⟩ := Option.ite_none_right_eq_some.1 moves
    obtain ⟨t, -, rfl⟩ := Option.map_eq_some_iff.1 moves
    rfl
  | checked i reply =>
    obtain ⟨r, -, rfl⟩ := Option.map_eq_some_iff.1 moves
    cases reply with
    | ok verdict => exact setPanel_thread ..
    | error detail => exact setPanel_thread ..
    | lost => exact setPanel_thread ..
  | acceptSuggestedPushback =>
    simp only [ThreadViewRun.handle] at moves
    split at moves
    · cases moves
      unfold ThreadViewRun.acceptSuggestedPushback
      dsimp only
      split
      · rfl
      · rfl
      · rfl
    · cases moves
  | messages hasMessages hasAnalystMessage =>
    cases moves
    unfold ThreadViewRun.renderMessages
    split
    · rfl
    · rfl

theorem draftsKept_of_mounted (h : s.Mounted userId) : DraftsKept userId s where
  pending := h.pending.trans h.timer.symm
  timer p mem := by
    rw [h.timer] at mem
    exact absurd mem (Option.not_mem_none p)
  ids r mem := by
    rw [h.requests] at mem
    exact absurd mem List.not_mem_nil
  superseded r mem := by
    rw [h.requests] at mem
    exact absurd mem List.not_mem_nil
  drafts t := by
    have none : s.live t = [] := by rw [live, h.requests, List.filter_nil]
    rw [eventual, h.timer, ← h.drafts t]
    dsimp only
    rw [synced, none]
    rfl

/-- An event loses no text, as long as the syncs arrive in order. -/
theorem DraftsKept.step (h : DraftsKept userId s) (ok : DraftsInOrder s e) (moves : s.handle userId e = some s') :
    DraftsKept userId s' := by
  cases e with
  | timer =>
    obtain ⟨p, armed, rfl⟩ := Option.map_eq_some_iff.1 moves
    exact h.fireSync armed (ok p armed)
  | arrive i responseWindowDays messageId wallClock now =>
    obtain ⟨r, here, moves⟩ := Option.bind_eq_some_iff.1 moves
    unfold DraftSyncRun.serve at moves
    split at moves
    · cases moves
    · rename_i inTime
      split at moves
      · cases moves
      · rename_i ran
        cases moves
        exact h.serve here inTime (draftOf_perform ran) (ok r here)
  | drop i =>
    obtain ⟨r, here, moves⟩ := Option.bind_eq_some_iff.1 moves
    split at moves
    · rename_i aborted
      cases moves
      exact h.drop here aborted
    · cases moves
  | view e =>
    have others : (∀ thread, e ≠ .render thread) →
        (s.view.handle chatThreadView e).map (fun view => { s with view := view }) = some s' →
        DraftsKept userId s' := by
      intro other moves
      obtain ⟨view, handled, rfl⟩ := Option.map_eq_some_iff.1 moves
      refine h.withView fun p armed => ?_
      rw [thread_of_handle other handled]
      exact h.timer p armed
    cases e with
    | render thread =>
      cases moves
      exact h.renderThread ok
    | type value =>
      obtain ⟨t, opened, rfl⟩ := Option.map_eq_some_iff.1 moves
      exact h.handleDraftChange opened value
    | send =>
      obtain ⟨t, opened, rfl⟩ := Option.map_eq_some_iff.1 moves
      exact h.handleSend opened fun sends => ok sends t opened
    | sent i reply =>
      cases reply with
      | ok answer =>
        simp only [DraftSyncRun.handle] at moves
        split at moves
        · cases moves
        · exact others (fun _ => ThreadViewEvent.noConfusion) moves
      | error detail => cases moves
      | lost => cases moves
    | _ => exact others (fun _ => ThreadViewEvent.noConfusion) moves

/-- Once all has settled the drafts on the server are the last texts typed, in every run in which no sync of another
thread is aborted and the requests of a thread arrive in their order. -/
theorem drafts_reach_server (run : (draftSyncRuns userId).Reach DraftsInOrder s) (settled : s.Settled) :
    DraftsDelivered userId s := by
  have kept : DraftsKept userId s := System.Reach.invariant (I := fun s => DraftsKept userId s)
    (fun _ mounted => draftsKept_of_mounted mounted) (fun _ _ _ _ h ok moves => h.step ok moves) run
  intro t
  have none : s.live t = [] := by rw [live, settled.requests, List.filter_nil]
  have eventually := kept.drafts t
  rw [eventual, settled.timer] at eventually
  dsimp only at eventually
  rw [synced, none] at eventually
  exact eventually

end Steps

/-! ## Runs -/

instance (s : DraftSyncRun) : (e : DraftSyncEvent) → Decidable (DraftsInOrder s e)
  | .view (.render thread) =>
    inferInstanceAs (Decidable (s.view.ui.thread ≠ thread.map Prod.fst → ∀ p ∈ s.pending, s.OwnSync p.1))
  | .view .send => inferInstanceAs (Decidable (s.Sends → ∀ t ∈ s.view.ui.thread, s.OwnSync t))
  | .timer => inferInstanceAs (Decidable (∀ p ∈ s.timer, s.OwnSync p.1))
  | .arrive i .. => inferInstanceAs (Decidable (∀ r ∈ s.requests[i]?, r.aborted = false →
      ∀ earlier ∈ s.requests.take i, earlier.threadId = r.threadId → earlier.aborted = true))
  | .view (.type _) | .view (.sent ..) | .view .upload | .view (.uploaded ..) | .view .removeAttachment
  | .view .suggestOpening | .view .suggestPushback | .view (.suggested ..) | .view .checkSufficiency
  | .view (.checked ..) | .view .acceptSuggestedPushback | .view (.messages ..) | .drop _ => .isTrue trivial

def draftsPlayed (ok : DraftSyncRun → DraftSyncEvent → Prop) [∀ s e, Decidable (ok s e)] (s : DraftSyncRun)
    (events : List DraftSyncEvent) : Option DraftSyncRun :=
  events.foldlM (fun s e => if ok s e then s.handle 7 e else none) s

/-- Two threads without a draft. -/
def noDrafts : DraftSyncRun where
  view := .mounted fun _ => none
  timer := none
  pending := none
  controller := none
  requests := []
  issued := 0
  arrived := 0
  store :=
    ⟨[], [⟨⟨1, 2, .open, none, false, false, none⟩, .cfo, 0⟩,
      ⟨⟨2, 2, .open, none, false, false, none⟩, .itManager, 0⟩], [], [], [], [], []⟩
  typed _ := none

theorem noDrafts_mounted : noDrafts.Mounted 7 :=
  ⟨⟨_, rfl⟩, rfl, rfl, rfl, fun _ => rfl⟩

theorem reach_of_draftsPlayed {ok : DraftSyncRun → DraftSyncEvent → Prop} [∀ s e, Decidable (ok s e)]
    (events : List DraftSyncEvent) {s : DraftSyncRun} (ran : draftsPlayed ok noDrafts events = some s) :
    (draftSyncRuns 7).Reach ok s :=
  .checked (fun _ _ _ step => step) (.start noDrafts_mounted) ran

/-- A sync that the next one of its thread replaces, a message, and a text that is flushed. -/
def typedAndSent : List DraftSyncEvent :=
  [.view (.render (some (1, []))), .view (.type "Hel".toList), .timer, .view (.type "Hello".toList), .timer, .drop 0,
    .arrive 0 4 20 100 100, .view (.render (some (2, []))), .view (.type "one".toList), .view .send,
    .arrive 0 4 21 200 200, .view (.sent 0 (.ok ())), .view (.type "two".toList), .view (.render none),
    .arrive 0 4 22 300 300]

/-- Both threads have their last text on the server. -/
theorem drafts_reach_server_typedAndSent :
    ∃ s, DraftsDelivered 7 s ∧ s.store.draftOf 1 7 = some "Hello" ∧ s.store.draftOf 2 7 = some "two" := by
  have run : ∃ s, draftsPlayed DraftsInOrder noDrafts typedAndSent = some s ∧ s.Settled ∧
      s.store.draftOf 1 7 = some "Hello" ∧ s.store.draftOf 2 7 = some "two" :=
    ⟨_, rfl, ⟨rfl, rfl, rfl⟩, by decide +kernel, by decide +kernel⟩
  obtain ⟨s, ran, settled, one, two⟩ := run
  exact ⟨s, drafts_reach_server (reach_of_draftsPlayed typedAndSent ran) settled, one, two⟩

/-- The second thread is typed in before the flushed sync of the first has arrived. -/
def supersededElsewhere : List DraftSyncEvent :=
  [.view (.render (some (1, []))), .view (.type "one".toList), .view (.render (some (2, []))),
    .view (.type "two".toList), .timer, .drop 0, .arrive 0 4 20 100 100]

/-- A sync overtakes the message that was sent before its text was typed. -/
def overtaken : List DraftSyncEvent :=
  [.view (.render (some (1, []))), .view (.type "one".toList), .view .send, .view (.type "two".toList), .timer,
    .arrive 1 4 20 100 100, .arrive 0 4 20 110 110, .view (.sent 0 (.ok ()))]

/-- All has settled, a text was typed in the first thread since its last message, and there is no draft of it. -/
theorem draft_lost :
    (∃ s, draftsPlayed (fun _ _ => True) noDrafts supersededElsewhere = some s ∧ (draftSyncRuns 7).Reachable s ∧
      s.Settled ∧ s.typed 1 = some "one".toList ∧ ¬ DraftsDelivered 7 s) ∧
    ∃ s, draftsPlayed (fun _ _ => True) noDrafts overtaken = some s ∧ (draftSyncRuns 7).Reachable s ∧
      s.Settled ∧ s.typed 1 = some "two".toList ∧ ¬ DraftsDelivered 7 s := by
  have lost : ∀ s : DraftSyncRun, ∀ text, s.typed 1 = some text → DraftCall.savedDraft text ≠ none →
      s.store.draftOf 1 7 = none → ¬ DraftsDelivered 7 s := by
    intro s text typed kept absent delivered
    have expected := delivered 1
    rw [absent, typed] at expected
    exact kept expected.symm
  refine ⟨⟨_, rfl, reach_of_draftsPlayed supersededElsewhere rfl, ⟨rfl, rfl, rfl⟩, rfl,
    lost _ _ rfl (by decide +kernel) (by decide +kernel)⟩, ⟨_, rfl, reach_of_draftsPlayed overtaken rfl,
    ⟨rfl, rfl, rfl⟩, rfl, lost _ _ rfl (by decide +kernel) (by decide +kernel)⟩⟩

end MeadowOps.Frontend
