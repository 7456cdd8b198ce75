import MeadowOps.Frontend.OpenTranscript

/-!
# `markReadDebounced`

The inboxes with the one timer of their mark-read requests. A message comes to the open transcript with the answer of
`selectThread`, which then marks it read itself, or with a frame, which arms the timer. What the user sends is left
out: the frames bring it back. An armed timer of an earlier thread is lost when a frame arms it for another.
-/

namespace MeadowOps.Frontend

open Lib Db Chat

/-- What happens for the badge of a thread. -/
inductive SeenEvent where
  /-- A message is added to the transcript of the selected thread. -/
  | shown (threadId message : Uuid)
  /-- `POST /api/chat/threads/{id}/read`. -/
  | read (threadId : Uuid)
  deriving DecidableEq, Repr

/-- The inbox, and the thread for which `markReadTimerRef` is armed. -/
structure MarkReadRun where
  inbox : InboxRun
  timer : Option Uuid
  seen : List SeenEvent

inductive MarkReadEvent where
  | inbox (e : InboxEvent)
  /-- 500 ms have passed. -/
  | timer

namespace MarkReadRun

/-- The next frame of the thread is a message, and the thread is open. -/
def Arms (s : MarkReadRun) (threadId : Uuid) : Prop :=
  s.inbox.ui.selectedId = some threadId ∧ ∃ m rest, s.inbox.frames threadId = .message m :: rest

/-- What the handlers do about the badges: the timer after the event, and what happens meanwhile. -/
def marks (s : MarkReadRun) : InboxEvent → Option Uuid × List SeenEvent
  | .fetched i =>
    match s.inbox.fetches[i]? with
    | some ⟨threadId, some history⟩ =>
      let shown := if s.inbox.ui.selectedId = some threadId then history.map fun m => SeenEvent.shown threadId m.id else []
      (s.timer, shown ++ [.read threadId])
    | _ => (s.timer, [])
  | .frame threadId =>
    match s.inbox.frames threadId with
    | .message m :: _ =>
      if s.inbox.ui.selectedId = some threadId then
        (some threadId, if s.inbox.ui.messages.any (fun n => n.id = m.id) then [] else [.shown threadId m.id])
      else (s.timer, [])
    | _ => (s.timer, [])
  | _ => (s.timer, [])

/-- The user sends nothing. -/
def ownSend : InboxEvent → Bool
  | .send | .serveSend .. | .sent _ => true
  | _ => false

def handle (component : InboxComponent) (s : MarkReadRun) : MarkReadEvent → Option MarkReadRun
  | .inbox e =>
    if ownSend e then none
    else (s.inbox.handle component e).map fun inbox => ⟨inbox, (s.marks e).1, s.seen ++ (s.marks e).2⟩
  | .timer => s.timer.map fun threadId => { s with timer := none, seen := s.seen ++ [.read threadId] }

end MarkReadRun

def markReadRuns (component : InboxComponent) : System MarkReadRun MarkReadEvent where
  init s := s.inbox.Opened ∧ s.timer = none ∧ s.seen = []
  step s e s' := s.handle component e = some s'

/-- No frame takes over the timer from another thread. -/
def OneTimer (s : MarkReadRun) : MarkReadEvent → Prop
  | .inbox (.frame threadId) => s.Arms threadId → ∀ armed ∈ s.timer, armed = threadId
  | _ => True

/-- Each message that was shown has been marked read after it. -/
def MarkedRead (s : MarkReadRun) : Prop :=
  ∀ before threadId message after, s.seen = before ++ .shown threadId message :: after → .read threadId ∈ after

/-- No timer is armed and no request is under way. -/
structure MarkReadRun.Settled (s : MarkReadRun) : Prop where
  timer : s.timer = none
  fetches : s.inbox.fetches = []

/-! ## The threads with messages that are not marked read -/

def unreadStep (unread : List Uuid) : SeenEvent → List Uuid
  | .shown threadId _ => threadId :: unread
  | .read threadId => unread.filter (· ≠ threadId)

def unreadThreads (seen : List SeenEvent) : List Uuid := seen.foldl unreadStep []

theorem unreadThreads_append (seen later : List SeenEvent) :
    unreadThreads (seen ++ later) = later.foldl unreadStep (unreadThreads seen) :=
  List.foldl_append

/-- A thread stays unread until it is marked. -/
theorem mem_foldl_unreadStep {unread : List Uuid} {threadId : Uuid} {later : List SeenEvent} (mem : threadId ∈ unread)
    (unmarked : .read threadId ∉ later) : threadId ∈ later.foldl unreadStep unread := by
  induction later generalizing unread with
  | nil => exact mem
  | cons e later ih =>
    obtain ⟨other, unmarked⟩ := not_or.1 (fun h => unmarked (List.mem_cons.2 h))
    refine ih ?_ unmarked
    cases e with
    | shown t m => exact List.mem_cons_of_mem t mem
    | read t =>
      refine List.mem_filter.2 ⟨mem, ?_⟩
      rw [decide_eq_true_iff]
      rintro rfl
      exact other rfl

theorem mem_unreadThreads {seen before after : List SeenEvent} {threadId message : Uuid}
    (split : seen = before ++ .shown threadId message :: after) (unmarked : .read threadId ∉ after) :
    threadId ∈ unreadThreads seen := by
  rw [split, unreadThreads_append, List.foldl_cons]
  exact mem_foldl_unreadStep List.mem_cons_self unmarked

/-- The answer of `selectThread` leaves no more unread than there was. -/
theorem foldl_unreadStep_history {unread : List Uuid} {threadId t : Uuid} (history : List ChatMessage)
    (mem : t ∈ (history.map fun m => SeenEvent.shown threadId m.id).foldl unreadStep unread) :
    t = threadId ∨ t ∈ unread := by
  induction history generalizing unread with
  | nil => exact .inr mem
  | cons m history ih =>
    rcases ih mem with here | old
    · exact .inl here
    · exact List.mem_cons.1 old

/-! ## The invariant -/

variable {component : InboxComponent} {s s' : MarkReadRun}

/-- Whatever is unread, the timer is armed for it. -/
def TimerArmed (s : MarkReadRun) : Prop := ∀ t ∈ unreadThreads s.seen, s.timer = some t

theorem TimerArmed.marks (h : TimerArmed s) {e : InboxEvent} (ok : OneTimer s (.inbox e)) :
    ∀ t ∈ unreadThreads (s.seen ++ (s.marks e).2), (s.marks e).1 = some t := by
  have same : ∀ t ∈ unreadThreads (s.seen ++ []), s.timer = some t := by
    rw [List.append_nil]
    exact h
  cases e with
  | fetched i =>
    unfold MarkReadRun.marks
    dsimp only
    split
    · rename_i threadId history _
      dsimp only
      intro t mem
      rw [← List.append_assoc, unreadThreads_append, unreadThreads_append] at mem
      obtain ⟨mem, other⟩ := List.mem_filter.1 mem
      rw [decide_eq_true_iff] at other
      split at mem
      · exact h t ((foldl_unreadStep_history history mem).resolve_left other)
      · exact h t mem
    · exact same
  | frame threadId =>
    unfold MarkReadRun.marks
    dsimp only
    split
    · rename_i m rest frames
      split
      · rename_i selected
        have taken := ok ⟨selected, m, rest, frames⟩
        have own : ∀ t ∈ unreadThreads s.seen, threadId = t := fun t mem => (taken t (h t mem)).symm
        intro t mem
        rw [unreadThreads_append] at mem
        split at mem
        · exact congrArg some (own t mem)
        · rcases List.mem_cons.1 mem with here | old
          · exact congrArg some here.symm
          · exact congrArg some (own t old)
      · exact same
    · exact same
  | _ => exact same

/-- The timer stays armed for the thread with something seen and not marked. -/
theorem TimerArmed.step (h : TimerArmed s) {e : MarkReadEvent} (ok : OneTimer s e)
    (moves : s.handle component e = some s') : TimerArmed s' := by
  cases e with
  | timer =>
    obtain ⟨threadId, armed, rfl⟩ := Option.map_eq_some_iff.1 moves
    intro t mem
    rw [unreadThreads_append] at mem
    obtain ⟨mem, other⟩ := List.mem_filter.1 mem
    rw [decide_eq_true_iff] at other
    have same := h t mem
    rw [armed, Option.some.injEq] at same
    exact absurd same.symm other
  | inbox e =>
    simp only [MarkReadRun.handle] at moves
    split at moves
    · cases moves
    · obtain ⟨inbox, -, rfl⟩ := Option.map_eq_some_iff.1 moves
      exact h.marks ok

/-- In a run in which no frame takes the timer over from another thread, what was shown is marked read once no timer
is armed. -/
theorem seen_messages_marked_read (reached : (markReadRuns component).Reach OneTimer s) (settled : s.Settled) :
    MarkedRead s := by
  have armed : TimerArmed s := by
    refine reached.invariant ?_ fun s e s' _ h ok moves => h.step ok moves
    rintro s ⟨-, -, empty⟩ t mem
    rw [empty] at mem
    cases mem
  intro before threadId message after split
  by_contra unmarked
  have here := armed threadId (mem_unreadThreads split unmarked)
  rw [settled.timer] at here
  cases here

/-! ## Runs -/

instance (s : MarkReadRun) : (e : MarkReadEvent) → Decidable (OneTimer s e)
  | .inbox (.frame threadId) =>
    if selected : s.inbox.ui.selectedId = some threadId then
      match frames : s.inbox.frames threadId with
      | .message m :: rest =>
        decidable_of_iff (∀ armed ∈ s.timer, armed = threadId)
          ⟨fun h _ => h, fun h => h ⟨selected, m, rest, frames⟩⟩
      | [] => .isTrue fun arms => by
        obtain ⟨-, m, rest, here⟩ := arms
        rw [frames] at here
        cases here
      | .threadDeleted :: _ => .isTrue fun arms => by
        obtain ⟨-, m, rest, here⟩ := arms
        rw [frames] at here
        cases here
    else .isTrue fun arms => absurd arms.1 selected
  | .timer | .inbox (.select _) | .inbox .send | .inbox (.delete _) | .inbox .create | .inbox (.serveFetch ..)
  | .inbox (.serveSend ..) | .inbox (.serveDelete _) | .inbox (.serveCreate ..) | .inbox (.otherSend _)
  | .inbox (.otherDelete _) | .inbox (.fetched _) | .inbox (.sent _) | .inbox (.deleted _) | .inbox (.created _) =>
    .isTrue trivial

def markReadPlayed (component : InboxComponent) (ok : MarkReadRun → MarkReadEvent → Prop) [∀ s e, Decidable (ok s e)]
    (events : List MarkReadEvent) : Option MarkReadRun :=
  events.foldlM (fun s e => if ok s e then s.handle component e else none) ⟨twoThreads, none, []⟩

theorem reach_of_markReadPlayed {ok : MarkReadRun → MarkReadEvent → Prop} [∀ s e, Decidable (ok s e)]
    {events : List MarkReadEvent} (h : markReadPlayed component ok events = some s) :
    (markReadRuns component).Reach ok s :=
  .checked (fun _ _ _ step => step) (.start ⟨twoThreads_opened, rfl, rfl⟩) h

/-- A thread is opened, and another client's message comes to it. -/
def openAndReceive (threadId message sentAt : ℕ) : List MarkReadEvent :=
  [.inbox (.select threadId), .inbox (.serveFetch 0 .inserted), .inbox (.fetched 0),
    .inbox (.otherSend (said message threadId sentAt .admin)), .inbox (.frame threadId)]

/-- With the timer of each thread run before the next is opened, all is marked. -/
theorem seen_messages_marked_read_twice :
    ∃ s, markReadPlayed chatInbox OneTimer (openAndReceive 1 12 300 ++ [.timer] ++ openAndReceive 2 22 400 ++ [.timer]) =
        some s ∧ s.seen = [.shown 1 11, .read 1, .shown 1 12, .read 1, .shown 2 21, .read 2, .shown 2 22, .read 2] ∧
      MarkedRead s := by
  have run : ∃ s, markReadPlayed chatInbox OneTimer
      (openAndReceive 1 12 300 ++ [.timer] ++ openAndReceive 2 22 400 ++ [.timer]) = some s ∧ s.Settled ∧
      s.seen = [.shown 1 11, .read 1, .shown 1 12, .read 1, .shown 2 21, .read 2, .shown 2 22, .read 2] :=
    ⟨_, rfl, ⟨rfl, rfl⟩, rfl⟩
  obtain ⟨s, played, settled, seen⟩ := run
  exact ⟨s, played, seen, seen_messages_marked_read (reach_of_markReadPlayed played) settled⟩

/-- A run after which a message of the first thread was shown and never marked read. -/
def LosesMark (component : InboxComponent) : Prop :=
  ∃ s, (markReadRuns component).Reachable s ∧ s.Settled ∧
    s.seen = [.shown 1 11, .read 1, .shown 1 12, .shown 2 21, .read 2, .shown 2 22, .read 2] ∧ ¬ MarkedRead s

theorem losesMark_switched (component : InboxComponent) : LosesMark component := by
  have run : ∃ s, markReadPlayed component (fun _ _ => True)
      (openAndReceive 1 12 300 ++ openAndReceive 2 22 400 ++ [.timer]) = some s ∧ s.Settled ∧
      s.seen = [.shown 1 11, .read 1, .shown 1 12, .shown 2 21, .read 2, .shown 2 22, .read 2] :=
    ⟨_, rfl, ⟨rfl, rfl⟩, rfl⟩
  obtain ⟨s, played, settled, seen⟩ := run
  refine ⟨s, reach_of_markReadPlayed played, settled, seen, fun marked => ?_⟩
  have mark := marked [.shown 1 11, .read 1] 1 12 [.shown 2 21, .read 2, .shown 2 22, .read 2] seen
  revert mark
  decide

/-- Both components lose the mark of the first thread to the timer of the second. -/
theorem mark_lost_on_switch : LosesMark chatInbox ∧ LosesMark mail :=
  ⟨losesMark_switched _, losesMark_switched _⟩

end MeadowOps.Frontend
