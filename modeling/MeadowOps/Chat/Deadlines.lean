import MeadowOps.Chat.Notifications
import MeadowOps.Chat.Lifecycle

/-!
# The deadlines of a chat, one transaction after another

Between two messages of a thread its deadline stays, and each flag is set by the sweep that tells about it.
-/

namespace MeadowOps.Chat

open Db Lib MeadowOps.Flow Scenarios

inductive DeadlineStep where
  | chat (operation : Operation) (now : Instant)
  | sweep (call : SweepCall)
  /-- Accounts come, go and change. -/
  | users (table : UserTable)

def DeadlineStep.run (store : NotificationStore) : DeadlineStep → NotificationStore
  | .chat operation now => { store with chat := endState (operation.perform now store.chat) }
  | .sweep call => (sweepThreadDeadlines call store).2
  | .users table => { store with users := table }

def runDeadlines (steps : List DeadlineStep) (store : NotificationStore) : NotificationStore :=
  steps.foldl DeadlineStep.run store

/-! ## What happens to a thread -/

def ChatThread.flag (thread : ChatThread) : NotificationKind → Bool
  | .deadlineApproaching => thread.deadlineApproachingNotified
  | .deadlineMissed => thread.overdueNotified

/-- A thread keeps its deadline and what the sweeps told about it, or a message starts it anew. -/
inductive RowMove (store store' : ChatStore) (row row' : ThreadRow) : Prop
  | kept (deadline : row'.thread.deadlineAt = row.thread.deadlineAt)
      (flags : ∀ kind, row'.thread.flag kind = row.thread.flag kind)
      (messages : store'.messagesOf row.id = store.messagesOf row.id)
  | sent (call : SendCall) (message : ChatMessage) (role : message.senderRole = call.senderRole)
      (thread : row'.thread = answered call row.thread)
      (messages : store'.messagesOf row.id = store.messagesOf row.id ++ [message])

/-- What an operation of the chat does to the threads: each one moves, and new ones have no deadline. -/
structure Moved (store store' : ChatStore) (f : ThreadRow → ThreadRow) (new : List ThreadRow) : Prop where
  threads : store'.threads = store.threads.map f ++ new
  keyed : Keyed ThreadRow.id store'.threads
  ids : ∀ row, (f row).id = row.id
  rows : ∀ row ∈ store.threads, RowMove store store' row (f row)
  fresh : ∀ row ∈ new, row.id ∉ store.threads.map ThreadRow.id ∧ row.thread.deadlineAt = none ∧
    ∀ kind, row.thread.flag kind = false
  messages : ∀ m ∈ store'.messages, m ∈ store.messages ∨ m.threadId ∈ store.threads.map ThreadRow.id

theorem messagesOf_append {store store' : ChatStore} {message : ChatMessage}
    (h : store'.messages = store.messages ++ [message]) (threadId : Uuid) :
    store'.messagesOf threadId =
      store.messagesOf threadId ++ if message.threadId = threadId then [message] else [] := by
  rw [ChatStore.messagesOf, h, List.filter_append, List.filter_singleton]
  by_cases of : message.threadId = threadId
  · rw [if_pos of, decide_eq_true of]
    rfl
  · rw [if_neg of, decide_eq_false of]
    rfl

/-- No thread is written. -/
theorem Moved.still {store store' : ChatStore} (h : Keyed ThreadRow.id store.threads)
    (threads : store'.threads = store.threads) (messages : store'.messages = store.messages) :
    Moved store store' id [] where
  threads := by simp [threads]
  keyed := threads ▸ h
  ids _ := rfl
  rows row _ := .kept rfl (fun _ => rfl) (by rw [ChatStore.messagesOf, messages]; rfl)
  fresh row mem := absurd mem List.not_mem_nil
  messages m mem := .inl (messages ▸ mem)

/-- One thread is closed: its deadline and its flags stay. -/
theorem Moved.close {store store' : ChatStore} (h : Keyed ThreadRow.id store.threads) {row : ThreadRow}
    (thread : ChatThread) (mem : row ∈ store.threads) (id : thread.id = row.id)
    (deadline : thread.deadlineAt = row.thread.deadlineAt)
    (flags : ∀ kind, thread.flag kind = row.thread.flag kind)
    (threads : store'.threads = (updateThread thread store).threads)
    (messages : store'.messages = store.messages) :
    Moved store store'
      (fun row => if row.id = thread.id then { row with thread := thread } else row) [] := by
  have same : ∀ other : ThreadRow,
      (if other.id = thread.id then { other with thread := thread } else other).id = other.id := by
    intro other
    split
    · exact (‹other.id = thread.id›).symm
    · rfl
  have silent : ∀ threadId, store'.messagesOf threadId = store.messagesOf threadId := by
    intro threadId
    rw [ChatStore.messagesOf, messages]
    rfl
  constructor
  case threads => rw [threads, List.append_nil]; rfl
  case keyed =>
    rw [threads]
    exact Keyed.modify h fun _ _ => rfl
  case ids => exact same
  case rows =>
    intro other memOther
    by_cases touched : other.id = thread.id
    · obtain rfl := List.inj_on_of_nodup_map h memOther mem (touched.trans id)
      rw [if_pos touched]
      exact .kept deadline flags (silent _)
    · rw [if_neg touched]
      exact .kept rfl (fun _ => rfl) (silent _)
  case fresh => exact fun row mem => absurd mem List.not_mem_nil
  case messages => exact fun m mem => .inl (messages ▸ mem)

/-- A message starts its thread anew and leaves the others. -/
theorem Moved.send {store store' : ChatStore} (h : Keyed ThreadRow.id store.threads) {row : ThreadRow}
    (call : SendCall) {message : ChatMessage} (mem : row ∈ store.threads)
    (of : message.threadId = row.id) (role : message.senderRole = call.senderRole)
    (threads : store'.threads = (updateThread (answered call row.thread) store).threads)
    (messages : store'.messages = store.messages ++ [message]) :
    Moved store store' (fun other =>
      if other.id = row.id then { other with thread := answered call row.thread } else other) [] := by
  constructor
  case threads => rw [threads, List.append_nil]; rfl
  case keyed =>
    rw [threads]
    exact Keyed.modify h fun _ _ => rfl
  case ids =>
    intro other
    split
    · exact (‹other.id = row.id›).symm
    · rfl
  case rows =>
    intro other memOther
    have grown := messagesOf_append messages other.id
    by_cases touched : other.id = row.id
    · obtain rfl := List.inj_on_of_nodup_map h memOther mem touched
      rw [if_pos rfl]
      rw [if_pos of] at grown
      exact .sent call message role rfl grown
    · rw [if_neg touched]
      rw [if_neg fun same => touched (same.symm.trans of), List.append_nil] at grown
      exact .kept rfl (fun _ => rfl) grown
  case fresh => exact fun row mem => absurd mem List.not_mem_nil
  case messages =>
    intro m memM
    rw [messages] at memM
    rcases List.mem_append.1 memM with old | new
    · exact .inl old
    · rw [List.mem_singleton.1 new, of]
      exact .inr (List.mem_map_of_mem mem)

/-- Every operation of the chat moves the threads. -/
theorem moved_of_change {now : Instant} {operation : Operation} {store store' : ChatStore}
    (h : Keyed ThreadRow.id store.threads) (change : Change now store store' operation) :
    ∃ f new, Moved store store' f new := by
  cases change with
  | found eq =>
    subst eq
    exact ⟨_, _, .still h rfl rfl⟩
  | @created scenarioId persona threadId first fresh eq =>
    subst eq
    refine ⟨id, [newThread threadId scenarioId persona now], ?_⟩
    constructor
    case threads => simp
    case keyed => exact Keyed.append h fresh
    case ids => exact fun _ => rfl
    case rows => exact fun row _ => .kept rfl (fun _ => rfl) rfl
    case fresh =>
      intro row mem
      rw [List.mem_singleton.1 mem]
      exact ⟨fresh, rfl, fun kind => by cases kind <;> rfl⟩
    case messages => exact fun m mem => .inl mem
  | @sent threadId call row message thread loaded sent eq =>
    subst eq
    obtain ⟨-, rfl, -, role, -⟩ := sendMessage_spec sent
    obtain ⟨-, -, -, of⟩ := sendMessage_ok sent
    refine ⟨_, _, .send h (call.on store) loaded.mem of role ?_ ?_⟩
    · cases call.attachmentId <;> rfl
    · cases call.attachmentId <;> rfl
  | drafted eq =>
    subst eq
    exact ⟨_, _, .still h rfl rfl⟩
  | marked eq =>
    subst eq
    exact ⟨_, _, .still h rfl rfl⟩
  | @deleted threadId row thread loaded deleted eq =>
    subst eq
    obtain ⟨-, -, rfl⟩ := deleteThread_ok deleted
    exact ⟨_, _, .close h { row.thread with deletedAt := some now } loaded.mem rfl rfl
      (fun kind => by cases kind <;> rfl) rfl rfl⟩
  | @completed threadId order answer row call evaluation loaded graded fresh eq =>
    subst eq
    exact ⟨_, _, .close h { row.thread with status := .completed } loaded.mem rfl rfl
      (fun kind => by cases kind <;> rfl) rfl rfl⟩
  | cancelled eq =>
    subst eq
    exact ⟨_, _, .still h rfl rfl⟩
  | uploaded _ _ _ _ eq =>
    subst eq
    exact ⟨_, _, .still h rfl rfl⟩

/-- The same of an operation that may have raised. -/
theorem moved_perform {store : ChatStore} (h : Keyed ThreadRow.id store.threads) (operation : Operation)
    (now : Instant) : ∃ f new, Moved store (endState (operation.perform now store)) f new := by
  cases ran : operation.perform now store with
  | ok value store' => exact moved_of_change h (change_of_perform ran)
  | error e store' =>
    have same : store' = store := raisesClean_perform now operation _ _ _ ran
    exact ⟨_, _, .still h (congrArg ChatStore.threads same) (congrArg ChatStore.messages same)⟩

section Moved

variable {store store' : ChatStore} {f : ThreadRow → ThreadRow} {new : List ThreadRow}

theorem Moved.mem (m : Moved store store' f new) {row' : ThreadRow} (mem : row' ∈ store'.threads) :
    (∃ row ∈ store.threads, row'.id = row.id ∧ RowMove store store' row row') ∨
      (row'.id ∉ store.threads.map ThreadRow.id ∧ row'.thread.deadlineAt = none ∧
        ∀ kind, row'.thread.flag kind = false) := by
  rw [m.threads] at mem
  rcases List.mem_append.1 mem with old | fresh
  · obtain ⟨row, memRow, rfl⟩ := List.mem_map.1 old
    exact .inl ⟨row, memRow, m.ids row, m.rows row memRow⟩
  · exact .inr (m.fresh row' fresh)

theorem Moved.known (m : Moved store store' f new) {threadId : Uuid}
    (mem : threadId ∈ store.threads.map ThreadRow.id) : threadId ∈ store'.threads.map ThreadRow.id := by
  obtain ⟨row, memRow, rfl⟩ := List.mem_map.1 mem
  rw [m.threads]
  rw [← m.ids row]
  exact List.mem_map_of_mem (List.mem_append_left _ (List.mem_map_of_mem memRow))

/-- Messages are only added. -/
theorem Moved.round_le (m : Moved store store' f new) {threadId : Uuid}
    (mem : threadId ∈ store.threads.map ThreadRow.id) : store.round threadId ≤ store'.round threadId := by
  obtain ⟨row, memRow, rfl⟩ := List.mem_map.1 mem
  cases m.rows row memRow with
  | kept _ _ messages => exact (congrArg List.length messages).ge
  | sent _ _ _ _ messages =>
    have grown := congrArg List.length messages
    rw [List.length_append, List.length_singleton] at grown
    unfold ChatStore.round
    omega

end Moved

/-! ## What holds after any steps -/

structure NotifiedInv (store : NotificationStore) : Prop where
  threads : Keyed ThreadRow.id store.chat.threads
  messagesKnown : ∀ m ∈ store.chat.messages, m.threadId ∈ store.chat.threads.map ThreadRow.id
  notificationsKnown : ∀ n ∈ store.notifications, n.threadId ∈ store.chat.threads.map ThreadRow.id
  past : ∀ n ∈ store.notifications, n.round ≤ store.chat.round n.threadId
  /-- A deadline is that of a message that is not the Analyst's. -/
  window : ∀ row ∈ store.chat.threads, row.thread.deadlineAt.isSome = true →
    ∃ m, (store.chat.messagesOf row.id).getLast? = some m ∧ m.senderRole ≠ .analyst
  /-- What was told about the deadline is flagged. -/
  flagged : ∀ n ∈ store.notifications, ∀ row ∈ store.chat.threads, row.id = n.threadId →
    n.round = store.chat.round n.threadId → row.thread.flag n.kind = true
  once : store.notifications.Nodup

theorem NotifiedInv.moved {store : NotificationStore} (h : NotifiedInv store) {chat : ChatStore}
    {f : ThreadRow → ThreadRow} {new : List ThreadRow} (m : Moved store.chat chat f new) :
    NotifiedInv { store with chat := chat } := by
  constructor
  case threads => exact m.keyed
  case messagesKnown =>
    intro message mem
    rcases m.messages message mem with old | known
    · exact m.known (h.messagesKnown message old)
    · exact m.known known
  case notificationsKnown => exact fun n mem => m.known (h.notificationsKnown n mem)
  case past => exact fun n mem => (h.past n mem).trans (m.round_le (h.notificationsKnown n mem))
  case window =>
    intro row' mem' waits
    rcases m.mem mem' with ⟨row, mem, id, move⟩ | ⟨-, none, -⟩
    · cases move with
      | kept deadline _ messages =>
        rw [deadline] at waits
        rw [id]
        show ∃ last, (chat.messagesOf row.id).getLast? = some last ∧ _
        rw [messages]
        exact h.window row mem waits
      | sent call message role thread messages =>
        refine ⟨message, ?_, ?_⟩
        · rw [id]
          show (chat.messagesOf row.id).getLast? = some message
          rw [messages]
          exact List.getLast?_concat
        · intro analyst
          rw [thread] at waits
          simp [answered, ← role, analyst] at waits
    · rw [none] at waits
      cases waits
  case flagged =>
    intro n memN row' mem' id' current
    have known := h.notificationsKnown n memN
    rcases m.mem mem' with ⟨row, mem, id, move⟩ | ⟨fresh, -⟩
    · have of : row.id = n.threadId := id.symm.trans id'
      cases move with
      | kept _ flags messages =>
        rw [flags]
        refine h.flagged n memN row mem of ?_
        rw [current, ← of]
        exact congrArg List.length messages
      | sent _ _ _ _ messages =>
        -- the message ended the window that the notification is of
        have old := h.past n memN
        have grown := congrArg List.length messages
        rw [List.length_append, List.length_singleton, of] at grown
        have current' : n.round = (chat.messagesOf n.threadId).length := current
        unfold ChatStore.round at old
        omega
    · exact absurd (id' ▸ known) fresh
  case once => exact h.once

theorem flag_notified (thread : ChatThread) (kind : NotificationKind) :
    (thread.notified kind).flag kind = true := by
  cases kind <;> rfl

theorem flag_notified_of_flag {thread : ChatThread} {told : NotificationKind}
    (h : thread.flag told = true) (kind : NotificationKind) : (thread.notified kind).flag told = true := by
  cases kind <;> cases told <;> first | rfl | exact h

theorem deadlineAt_notified (thread : ChatThread) (kind : NotificationKind) :
    (thread.notified kind).deadlineAt = thread.deadlineAt := by
  cases kind <;> rfl

/-- A thread that is told about was not told about before. -/
theorem flag_of_dueKind {store : ChatStore} {now : Instant} {approachingWithin : ℤ} {row : ThreadRow}
    {kind : NotificationKind} (h : store.dueKind now approachingWithin row = some kind) :
    row.thread.flag kind = false := by
  obtain ⟨-, unflagged, deadline, -, due⟩ := dueKind_some h
  cases kind with
  | deadlineMissed => exact unflagged
  | deadlineApproaching => exact due.1

theorem flagged_id (store : ChatStore) (now : Instant) (approachingWithin : ℤ) (row : ThreadRow) :
    (store.flagged now approachingWithin row).id = row.id := by
  rw [ChatStore.flagged]
  cases store.dueKind now approachingWithin row with
  | none => rfl
  | some kind => exact notified_id row.thread kind

theorem deadlineAt_flagged (store : ChatStore) (now : Instant) (approachingWithin : ℤ)
    (row : ThreadRow) :
    (store.flagged now approachingWithin row).thread.deadlineAt = row.thread.deadlineAt := by
  rw [ChatStore.flagged]
  cases store.dueKind now approachingWithin row with
  | none => rfl
  | some kind => exact deadlineAt_notified row.thread kind

/-- Sweeps clear no flag. -/
theorem flag_flagged {store : ChatStore} {row : ThreadRow} {kind : NotificationKind}
    (h : row.thread.flag kind = true) (now : Instant) (approachingWithin : ℤ) :
    (store.flagged now approachingWithin row).thread.flag kind = true := by
  rw [ChatStore.flagged]
  cases store.dueKind now approachingWithin row with
  | none => exact h
  | some told => exact flag_notified_of_flag h told

theorem NotifiedInv.sweep {store : NotificationStore} (h : NotifiedInv store) (call : SweepCall) :
    NotifiedInv (sweepThreadDeadlines call store).2 := by
  rw [sweepThreadDeadlines_store h.threads]
  have ids : (store.chat.threads.map (store.chat.flagged call.now call.approachingWithin)).map
      ThreadRow.id = store.chat.threads.map ThreadRow.id := by
    rw [List.map_map]
    exact List.map_congr_left fun row _ => flagged_id store.chat _ _ row
  constructor
  case threads =>
    rw [Keyed, ids]
    exact h.threads
  case messagesKnown =>
    rw [ids]
    exact h.messagesKnown
  case notificationsKnown =>
    intro n mem
    rw [ids]
    rcases List.mem_append.1 mem with old | sent
    · exact h.notificationsKnown n old
    · obtain ⟨⟨row, memRow, id, -⟩, -⟩ := mem_sent.1 sent
      exact id ▸ List.mem_map_of_mem memRow
  case past =>
    intro n mem
    rcases List.mem_append.1 mem with old | sent
    · exact h.past n old
    · exact (mem_sent.1 sent).2.2.le
  case window =>
    intro row' mem' waits
    obtain ⟨row, mem, rfl⟩ := List.mem_map.1 mem'
    rw [deadlineAt_flagged] at waits
    rw [flagged_id]
    exact h.window row mem waits
  case flagged =>
    intro n memN row' mem' id current
    obtain ⟨row, mem, rfl⟩ := List.mem_map.1 mem'
    rw [flagged_id] at id
    rcases List.mem_append.1 memN with old | sent
    · exact flag_flagged (h.flagged n old row mem id current) _ _
    · obtain ⟨⟨told, memTold, idTold, kind⟩, -⟩ := mem_sent.1 sent
      obtain rfl := List.inj_on_of_nodup_map h.threads memTold mem (idTold.trans id.symm)
      rw [ChatStore.flagged, kind]
      exact flag_notified told.thread n.kind
  case once =>
    refine List.nodup_append.2 ⟨h.once, sent_nodup h.threads call, ?_⟩
    rintro n old n' sent rfl
    obtain ⟨⟨row, mem, id, kind⟩, -, current⟩ := mem_sent.1 sent
    have told := h.flagged n old row mem id current
    rw [flag_of_dueKind kind] at told
    cases told

/-- The step lemma. -/
theorem NotifiedInv.run {store : NotificationStore} (h : NotifiedInv store) (step : DeadlineStep) :
    NotifiedInv (step.run store) := by
  cases step with
  | chat operation now =>
    obtain ⟨f, new, m⟩ := moved_perform h.threads operation now
    exact h.moved m
  | sweep call => exact h.sweep call
  | users table =>
    exact ⟨h.threads, h.messagesKnown, h.notificationsKnown, h.past, h.window, h.flagged, h.once⟩

/-- The run lemma. -/
theorem NotifiedInv.runDeadlines {store : NotificationStore} (h : NotifiedInv store)
    (steps : List DeadlineStep) : NotifiedInv (Chat.runDeadlines steps store) := by
  induction steps generalizing store with
  | nil => exact h
  | cons step steps ih => exact ih (h.run step)

/-- Some scenarios, some accounts and nothing else. -/
def NotificationStore.quiet (scenarios : List Scenario) (users : UserTable) : NotificationStore :=
  ⟨.quiet scenarios, users, []⟩

theorem notifiedInv_quiet (scenarios : List Scenario) (users : UserTable) :
    NotifiedInv (.quiet scenarios users) where
  threads := List.nodup_nil
  messagesKnown := fun _ mem => absurd mem List.not_mem_nil
  notificationsKnown := fun _ mem => absurd mem List.not_mem_nil
  past := fun _ mem => absurd mem List.not_mem_nil
  window := fun _ mem => absurd mem List.not_mem_nil
  flagged := fun _ mem => absurd mem List.not_mem_nil
  once := List.nodup_nil

/-! ## The laws -/

/-- The thread is open and not deleted, and its scenario is not cancelled. -/
structure IsRunning (store : ChatStore) (row : ThreadRow) : Prop where
  isOpen : row.thread.status = .open
  live : row.thread.deletedAt = none
  scenario : ∃ s, lookup Scenario.id row.thread.scenarioId store.scenarios = some s ∧
    s.status ≠ .cancelled

/-- A notification of a sweep, in the store the sweep has found. -/
structure IsDue (call : SweepCall) (store : NotificationStore) (n : Notification) (row : ThreadRow) :
    Prop where
  mem : row ∈ store.chat.threads
  id : row.id = n.threadId
  running : IsRunning store.chat row
  round : n.round = store.chat.round n.threadId
  /-- The Analyst has not answered. -/
  unanswered : ∃ m, (store.chat.messagesOf row.id).getLast? = some m ∧ m.senderRole ≠ .analyst
  recipient : ∃ user ∈ store.users.rows, user.id = n.userId ∧ user.role = n.kind.role ∧
    user.isActive = true
  deadline : ∃ deadline, row.thread.deadlineAt = some deadline ∧
    match n.kind with
    | .deadlineMissed => deadline ≤ call.now
    | .deadlineApproaching => call.now < deadline

/-- What a sweep does to what is there. -/
structure SweepLaw (call : SweepCall) (store after : NotificationStore) : Prop where
  created : ∃ sent, after.notifications = store.notifications ++ sent ∧
    ∀ n ∈ sent, (∃ row, IsDue call store n row) ∧
      (n.kind = .deadlineApproaching → ∀ other ∈ after.notifications, other.kind = .deadlineMissed →
        ¬ (other.threadId = n.threadId ∧ other.round = n.round))
  /-- The same sweep again, whoever is there by then. -/
  again : ∀ (call' : SweepCall) users, call'.now = call.now →
    call'.approachingWithin ≤ call.approachingWithin →
    (sweepThreadDeadlines call' { after with users := users }).2 = { after with users := users }

/-- The response window that a message of a Builder has opened is reported by the first sweep after its
deadline. -/
def ReportsFirst (store : NotificationStore) : Prop :=
  ∀ (threadId : Uuid) (call : SendCall) (now : Instant) (chat : ChatStore),
    sendMessageOn threadId call now store.chat = .ok () chat → call.senderRole ≠ .analyst →
    ∀ (middle : List DeadlineStep) (sweep : SweepCall),
      let deadline := call.wallClock + call.responseWindowDays * 86400000000
      let reached := runDeadlines middle { store with chat := chat }
      reached.chat.round threadId = chat.round threadId →
      (∀ earlier, .sweep earlier ∈ middle → earlier.now < deadline) → deadline ≤ sweep.now →
      (∃ row ∈ reached.chat.threads, row.id = threadId ∧ IsRunning reached.chat row) →
      ∀ user ∈ reached.users.rows, user.role = .admin → user.isActive = true →
        let reported := ⟨user.id, threadId, .deadlineMissed, chat.round threadId⟩
        reported ∉ reached.notifications ∧ reported ∈ (sweepThreadDeadlines sweep reached).2.notifications

theorem awaits_iff {store : ChatStore} {row : ThreadRow} :
    store.awaits row = true ↔ IsRunning store row ∧ row.thread.deadlineAt.isSome = true := by
  simp only [ChatStore.awaits, Bool.and_eq_true, decide_eq_true_eq, Option.isNone_iff_eq_none,
    Option.any_eq_true]
  constructor
  · rintro ⟨⟨⟨isOpen, live⟩, waits⟩, scenario⟩
    exact ⟨⟨isOpen, live, scenario⟩, waits⟩
  · rintro ⟨⟨isOpen, live, scenario⟩, waits⟩
    exact ⟨⟨⟨isOpen, live⟩, waits⟩, scenario⟩

/-- A flagged thread is told about no more. -/
theorem dueKind_flagged {store store' : ChatStore} {now : Instant} {within within' : ℤ}
    (narrower : within' ≤ within) (scenarios : store'.scenarios = store.scenarios) (row : ThreadRow) :
    store'.dueKind now within' (store.flagged now within row) = none := by
  cases again : store'.dueKind now within' (store.flagged now within row) with
  | none => rfl
  | some kind =>
    exfalso
    rw [ChatStore.flagged] at again
    cases first : store.dueKind now within row with
    | none =>
      -- what the second sweep finds the first would have found
      rw [first] at again
      obtain ⟨awaits, unflagged, deadline, set, due⟩ := dueKind_some again
      have awaits' : store.awaits row = true := by
        rw [awaits_iff] at awaits ⊢
        refine ⟨⟨awaits.1.isOpen, awaits.1.live, ?_⟩, awaits.2⟩
        rw [← scenarios]
        exact awaits.1.scenario
      change row.thread.overdueNotified = false at unflagged
      change row.thread.deadlineAt = some deadline at set
      rw [ChatStore.dueKind, if_pos awaits', ChatThread.isOverdue, ChatThread.isApproaching, unflagged,
        set] at first
      cases kind with
      | deadlineMissed => simp [show deadline ≤ now from due] at first
      | deadlineApproaching =>
        obtain ⟨quiet, later, near⟩ := due
        change row.thread.deadlineApproachingNotified = false at quiet
        have near' : deadline - now ≤ within := near.trans narrower
        simp only [Option.any_some, decide_eq_false (not_le_of_gt later), decide_eq_true later,
          decide_eq_true near', quiet] at first
        cases first
    | some told =>
      rw [first] at again
      obtain ⟨-, -, deadline, set, due⟩ := dueKind_some first
      obtain ⟨-, unflagged, deadline', set', due'⟩ := dueKind_some again
      change (row.thread.notified told).deadlineAt = some deadline' at set'
      rw [deadlineAt_notified, set] at set'
      cases set'
      cases told with
      | deadlineMissed => cases unflagged
      | deadlineApproaching =>
        cases kind with
        | deadlineMissed => exact absurd due.2.1 (not_lt_of_ge due')
        | deadlineApproaching => cases due'.1

theorem NotifiedInv.sweepLaw {store : NotificationStore} (h : NotifiedInv store) (call : SweepCall) :
    SweepLaw call store (sweepThreadDeadlines call store).2 := by
  have after := h.sweep call
  have swept := sweepThreadDeadlines_store h.threads call
  constructor
  · refine ⟨call.sent store, by rw [swept], fun n sent => ?_⟩
    obtain ⟨⟨row, mem, id, kind⟩, recipient, round⟩ := mem_sent.1 sent
    obtain ⟨awaits, unflagged, deadline, set, due⟩ := dueKind_some kind
    obtain ⟨running, waits⟩ := awaits_iff.1 awaits
    refine ⟨⟨row, mem, id, running, round, h.window row mem waits, recipient, deadline, set, ?_⟩, ?_⟩
    · cases of : n.kind with
      | deadlineMissed =>
        rw [of] at due
        exact due
      | deadlineApproaching =>
        rw [of] at due
        exact due.2.1
    · rintro approaching other memOther missed ⟨thread, round'⟩
      rw [swept] at memOther
      rcases List.mem_append.1 memOther with old | new
      · have told := h.flagged other old row mem (id.trans thread.symm) (by rw [round', round, thread])
        rw [missed] at told
        exact absurd (told.symm.trans unflagged) Bool.noConfusion
      · -- one sweep tells one thing about a thread
        obtain ⟨⟨row', mem', id', kind'⟩, -⟩ := mem_sent.1 new
        obtain rfl := List.inj_on_of_nodup_map h.threads mem' mem (id'.trans (thread.trans id.symm))
        rw [kind, approaching, missed] at kind'
        cases kind'
  · intro call' users same narrower
    have threads : Keyed ThreadRow.id
        { (sweepThreadDeadlines call store).2 with users := users }.chat.threads := after.threads
    have rows := sweepThreadDeadlines_store threads call'
    have none : ∀ row ∈ (sweepThreadDeadlines call store).2.chat.threads,
        (sweepThreadDeadlines call store).2.chat.dueKind call'.now call'.approachingWithin row = none := by
      intro row mem
      rw [swept] at mem
      obtain ⟨before, -, rfl⟩ := List.mem_map.1 mem
      rw [same]
      apply dueKind_flagged narrower
      rw [swept]
    have silent : call'.sent { (sweepThreadDeadlines call store).2 with users := users } = [] := by
      rw [List.eq_nil_iff_forall_not_mem]
      intro n sent
      obtain ⟨⟨row, mem, -, kind⟩, -⟩ := mem_sent.1 sent
      rw [show _ = _ from none row mem] at kind
      cases kind
    have still : (sweepThreadDeadlines call store).2.chat.threads.map
        ((sweepThreadDeadlines call store).2.chat.flagged call'.now call'.approachingWithin) =
        (sweepThreadDeadlines call store).2.chat.threads := by
      rw [List.map_congr_left (g := id), List.map_id]
      intro row mem
      rw [ChatStore.flagged, none row mem]
      rfl
    rw [rows, silent]
    show NotificationStore.mk { (sweepThreadDeadlines call store).2.chat with threads := _ } _ _ = _
    rw [still, List.append_nil]

/-- The thread waits for an answer that no sweep has missed yet. -/
def Waits (store : NotificationStore) (threadId : Uuid) (deadline : Instant) : Prop :=
  ∃ row ∈ store.chat.threads, row.id = threadId ∧ row.thread.deadlineAt = some deadline ∧
    row.thread.overdueNotified = false

theorem waits_known {store : NotificationStore} {threadId : Uuid} {deadline : Instant}
    (h : Waits store threadId deadline) : threadId ∈ store.chat.threads.map ThreadRow.id := by
  obtain ⟨row, mem, id, -⟩ := h
  exact id ▸ List.mem_map_of_mem mem

theorem round_le_run {store : NotificationStore} (h : NotifiedInv store) (step : DeadlineStep)
    {threadId : Uuid} (known : threadId ∈ store.chat.threads.map ThreadRow.id) :
    store.chat.round threadId ≤ (step.run store).chat.round threadId ∧
      threadId ∈ (step.run store).chat.threads.map ThreadRow.id := by
  cases step with
  | chat operation now =>
    obtain ⟨f, new, m⟩ := moved_perform h.threads operation now
    exact ⟨m.round_le known, m.known known⟩
  | sweep call =>
    show _ ≤ (sweepThreadDeadlines call store).2.chat.round threadId ∧
      threadId ∈ (sweepThreadDeadlines call store).2.chat.threads.map ThreadRow.id
    rw [sweepThreadDeadlines_store h.threads]
    refine ⟨le_rfl, ?_⟩
    rw [List.map_map, List.map_congr_left (g := ThreadRow.id)]
    · exact known
    · exact fun row _ => flagged_id store.chat _ _ row
  | users table => exact ⟨le_rfl, known⟩

theorem round_le_runDeadlines {store : NotificationStore} (h : NotifiedInv store)
    (steps : List DeadlineStep) {threadId : Uuid}
    (known : threadId ∈ store.chat.threads.map ThreadRow.id) :
    store.chat.round threadId ≤ (runDeadlines steps store).chat.round threadId := by
  induction steps generalizing store with
  | nil => exact le_rfl
  | cons step steps ih =>
    obtain ⟨le, known'⟩ := round_le_run h step known
    exact le.trans (ih (h.run step) known')

/-- The step lemma: without a message, and before the deadline, a thread goes on waiting. -/
theorem waits_run {store : NotificationStore} (h : NotifiedInv store) {step : DeadlineStep}
    {threadId : Uuid} {deadline : Instant} (waits : Waits store threadId deadline)
    (silent : (step.run store).chat.round threadId = store.chat.round threadId)
    (before : ∀ call, step = .sweep call → call.now < deadline) :
    Waits (step.run store) threadId deadline := by
  obtain ⟨row, mem, id, set, unflagged⟩ := waits
  cases step with
  | chat operation now =>
    obtain ⟨f, new, m⟩ := moved_perform h.threads operation now
    refine ⟨f row, ?_, (m.ids row).trans id, ?_⟩
    · show f row ∈ (endState (operation.perform now store.chat)).threads
      rw [m.threads]
      exact List.mem_append_left _ (List.mem_map_of_mem mem)
    · cases m.rows row mem with
      | kept deadline' flags _ => exact ⟨deadline'.trans set, (flags .deadlineMissed).trans unflagged⟩
      | sent _ _ _ _ messages =>
        have grown := congrArg List.length messages
        rw [List.length_append, List.length_singleton, id] at grown
        have silent' : ((endState (operation.perform now store.chat)).messagesOf threadId).length =
          (store.chat.messagesOf threadId).length := silent
        omega
  | sweep call =>
    have early := before call rfl
    show Waits (sweepThreadDeadlines call store).2 threadId deadline
    rw [sweepThreadDeadlines_store h.threads]
    refine ⟨_, List.mem_map_of_mem mem, (flagged_id store.chat _ _ row).trans id,
      (deadlineAt_flagged store.chat _ _ row).trans set, ?_⟩
    rw [ChatStore.flagged]
    cases kind : store.chat.dueKind call.now call.approachingWithin row with
    | none => exact unflagged
    | some told =>
      obtain ⟨-, -, deadline', set', due⟩ := dueKind_some kind
      cases set.symm.trans set'
      cases told with
      | deadlineMissed => exact absurd early (not_lt_of_ge due)
      | deadlineApproaching => exact unflagged
  | users table => exact ⟨row, mem, id, set, unflagged⟩

/-- The run lemma. -/
theorem waits_runDeadlines {store : NotificationStore} (h : NotifiedInv store)
    {steps : List DeadlineStep} {threadId : Uuid} {deadline : Instant}
    (waits : Waits store threadId deadline)
    (silent : (runDeadlines steps store).chat.round threadId = store.chat.round threadId)
    (before : ∀ call, .sweep call ∈ steps → call.now < deadline) :
    Waits (runDeadlines steps store) threadId deadline := by
  induction steps generalizing store with
  | nil => exact waits
  | cons step steps ih =>
    obtain ⟨le, known⟩ := round_le_run h step (waits_known waits)
    have le' := round_le_runDeadlines (h.run step) steps known
    have silent' : (runDeadlines steps (step.run store)).chat.round threadId =
      store.chat.round threadId := silent
    have waits' := waits_run h waits (by omega) fun call same => before call (same ▸ List.mem_cons_self)
    exact ih (h.run step) waits' (by omega) fun call mem => before call (List.mem_cons_of_mem _ mem)

/-- A message of a Builder lets its thread wait. -/
theorem waits_of_send {store : NotificationStore} (h : NotifiedInv store) {threadId : Uuid}
    {call : SendCall} {now : Instant} {chat : ChatStore}
    (sent : sendMessageOn threadId call now store.chat = .ok () chat)
    (builder : call.senderRole ≠ .analyst) :
    NotifiedInv { store with chat := chat } ∧ Waits { store with chat := chat } threadId
      (call.wallClock + call.responseWindowDays * 86400000000) := by
  have change : Change now store.chat chat (.sendMessage threadId call) := change_of_perform sent
  obtain ⟨f, new, m⟩ := moved_of_change h.threads change
  refine ⟨h.moved m, ?_⟩
  cases change with
  | @sent _ _ row message thread loaded accepted eq =>
    subst eq
    obtain ⟨-, rfl, -⟩ := sendMessage_spec accepted
    refine ⟨{ row with thread := answered (call.on store.chat) row.thread }, ?_, loaded.id, ?_, rfl⟩
    · show _ ∈ (updateThread _ (claimAttachment _ _ _)).threads
      refine mem_modify.2 ⟨row, ?_, ?_⟩
      · cases call.attachmentId <;> exact loaded.mem
      · exact (if_pos rfl).symm
    · exact if_neg builder

theorem NotifiedInv.reportsFirst {store : NotificationStore} (h : NotifiedInv store) :
    ReportsFirst store := by
  intro threadId call now chat sent builder middle sweep
  dsimp only
  intro silent before passed running user memUser admin active
  obtain ⟨inv, waits⟩ := waits_of_send h sent builder
  have reached := inv.runDeadlines middle
  obtain ⟨row, mem, id, set, unflagged⟩ := waits_runDeadlines inv waits silent before
  obtain ⟨row', mem', id', running⟩ := running
  obtain rfl := List.inj_on_of_nodup_map reached.threads mem' mem (id'.trans id.symm)
  constructor
  · intro told
    have flag := reached.flagged _ told row' mem id silent.symm
    exact absurd (flag.symm.trans unflagged) Bool.noConfusion
  · rw [sweepThreadDeadlines_store reached.threads]
    apply List.mem_append_right
    refine mem_sent.2 ⟨⟨row', mem, id, ?_⟩, ⟨user, memUser, rfl, admin, active⟩, silent.symm⟩
    have awaits := awaits_iff.2 ⟨running, by rw [set]; rfl⟩
    rw [ChatStore.dueKind, if_pos awaits, ChatThread.isOverdue, set, unflagged]
    simp [passed]

/-- In every state that is reached no one is told the same twice of one response window, sweeps create what
is due and nothing else does, and a missed deadline is reported by the first sweep. -/
theorem deadlines_notified_once (scenarios : List Scenario) (users : UserTable)
    (steps : List DeadlineStep) :
    let store := runDeadlines steps (.quiet scenarios users)
    (∀ n, store.notifications.count n ≤ 1) ∧
      (∀ call, SweepLaw call store (sweepThreadDeadlines call store).2) ∧
      (∀ operation now, (DeadlineStep.run store (.chat operation now)).notifications =
        store.notifications) ∧
      ReportsFirst store := by
  have inv := (notifiedInv_quiet scenarios users).runDeadlines steps
  exact ⟨fun n => List.nodup_iff_count_le_one.1 inv.once n, inv.sweepLaw, fun _ _ => rfl,
    inv.reportsFirst⟩

/-- A Builder, an Analyst and a Builder who has left. -/
def accounts : UserTable where
  rows := [⟨8, .admin, true⟩, ⟨7, .analyst, true⟩, ⟨9, .admin, false⟩]
  keyed := show List.Nodup _ by decide

/-- A sweep that looks one day ahead. -/
def dayAhead (now : Instant) : SweepCall := ⟨now, 86400000000, .inserted, .inserted⟩

/-- The Builder asks, and the Analyst lets four days pass. -/
def unanswered : List DeadlineStep :=
  [.chat (.getOrCreateThread 2 .cfo 1) 100,
    .chat (.sendMessage 1 ⟨8, .admin, "what happened?", 4, none, fun _ => none, 10, 210⟩) 200,
    .sweep (dayAhead 300), .sweep (dayAhead 300000000000), .sweep (dayAhead 300000000000),
    .sweep (dayAhead 345600000210), .sweep (dayAhead 345600000211)]

/-- Five sweeps tell the Analyst once that the deadline comes, and the Builder once that it is missed. -/
theorem deadlines_notified_once_unanswered :
    let store := runDeadlines unanswered (.quiet [lateDelivery] accounts)
    store.notifications = [⟨7, 1, .deadlineApproaching, 1⟩, ⟨8, 1, .deadlineMissed, 1⟩] ∧
      ∀ n, store.notifications.count n ≤ 1 :=
  ⟨by decide +kernel, (deadlines_notified_once [lateDelivery] accounts unanswered).1⟩

end MeadowOps.Chat
