import MeadowOps.Chat.Operations

/-!
# Deadline notifications: `app/services/notifications.py`

`sweepThreadDeadlines` tells the Analysts about deadlines that come near and the Builders about those that
have passed. The flags of a thread say what the sweeps have told about its deadline.
-/

namespace MeadowOps.Chat

open Db Lib MeadowOps.Flow Scenarios

inductive NotificationKind where
  | deadlineApproaching
  | deadlineMissed
  deriving DecidableEq, Repr

structure User where
  id : Uuid
  role : UserRole
  isActive : Bool
  deriving DecidableEq, Repr

/-- The rows of `live.user`. -/
structure UserTable where
  rows : List User
  keyed : Keyed User.id rows

/-- A row of `chat.notification`. The last field is not a column: the number of messages of the thread
when the sweep read it, which tells the response windows of a thread apart. -/
structure Notification where
  userId : Uuid
  threadId : Uuid
  kind : NotificationKind
  round : ℕ
  deriving DecidableEq, Repr

structure NotificationStore where
  chat : ChatStore
  users : UserTable
  notifications : List Notification

/-- The response window that the messages of a thread have come to. -/
def ChatStore.round (store : ChatStore) (threadId : Uuid) : ℕ := (store.messagesOf threadId).length

/-! ## What is due -/

/-- What the sweep selects: open threads that are not deleted, with a deadline, of a scenario that is not
cancelled. -/
def ChatStore.awaits (store : ChatStore) (row : ThreadRow) : Bool :=
  decide (row.thread.status = .open) && row.thread.deletedAt.isNone && row.thread.deadlineAt.isSome &&
    (lookup Scenario.id row.thread.scenarioId store.scenarios).any fun s => decide (s.status ≠ .cancelled)

def ChatThread.isOverdue (thread : ChatThread) (now : Instant) : Bool :=
  !thread.overdueNotified && thread.deadlineAt.any fun deadline => decide (deadline ≤ now)

def ChatThread.isApproaching (thread : ChatThread) (now : Instant) (approachingWithin : ℤ) : Bool :=
  !thread.overdueNotified && !thread.deadlineApproachingNotified &&
    thread.deadlineAt.any fun deadline =>
      decide (deadline > now) && decide (deadline - now ≤ approachingWithin)

/-- A thread that a sweep tells about. -/
structure Due where
  kind : NotificationKind
  threadId : Uuid
  round : ℕ
  deriving DecidableEq, Repr

/-- The threads that a sweep tells about, the overdue ones first. -/
def ChatStore.due (store : ChatStore) (now : Instant) (approachingWithin : ℤ)
    (order : RowOrder ThreadRow) : List Due :=
  let threads := order.rows (store.threads.filter store.awaits)
  let overdue := threads.filter fun row => row.thread.isOverdue now
  let approaching := threads.filter fun row => row.thread.isApproaching now approachingWithin
  overdue.map (fun row => ⟨.deadlineMissed, row.id, store.round row.id⟩) ++
    approaching.map fun row => ⟨.deadlineApproaching, row.id, store.round row.id⟩

/-! ## The sweep -/

/-- `_recipient_ids`. -/
def recipientIds (order : RowOrder User) (users : List User) (role : UserRole) : List Uuid :=
  (order.rows (users.filter fun user => decide (user.role = role) && user.isActive)).map User.id

/-- Whom a notification is for. -/
def NotificationKind.role : NotificationKind → UserRole
  | .deadlineApproaching => .analyst
  | .deadlineMissed => .admin

/-- The thread with the flag of the kind set. -/
def ChatThread.notified (thread : ChatThread) : NotificationKind → ChatThread
  | .deadlineApproaching => { thread with deadlineApproachingNotified := true }
  | .deadlineMissed => { thread with overdueNotified := true }

/-- The rows that `create_notification` inserts. -/
def Due.notifications (due : Due) (userIds : List Uuid) : List Notification :=
  userIds.map fun userId => ⟨userId, due.threadId, due.kind, due.round⟩

/-- The UPDATE of a flag; it writes no other column. -/
def flagThread (due : Due) (store : ChatStore) : ChatStore :=
  { store with
    threads := modify ThreadRow.id due.threadId
      (fun row => { row with thread := row.thread.notified due.kind }) store.threads }

/-- A thread is told about: `create_notification` for each recipient, and its flag. -/
def NotificationStore.notify (userIds : List Uuid) (store : NotificationStore) (due : Due) :
    NotificationStore :=
  { store with
    chat := flagThread due store.chat
    notifications := store.notifications ++ due.notifications userIds }

structure SweepCounts where
  approaching : ℕ
  missed : ℕ
  deriving DecidableEq, Repr

/-- The call of a sweep, with the orders its queries get their rows in. -/
structure SweepCall where
  now : Instant
  approachingWithin : ℤ
  threads : RowOrder ThreadRow
  users : RowOrder User

/-- The recipients of a kind. -/
def SweepCall.recipients (call : SweepCall) (users : UserTable) (kind : NotificationKind) : List Uuid :=
  recipientIds call.users users.rows kind.role

def SweepCall.due (call : SweepCall) (store : ChatStore) : List Due :=
  store.due call.now call.approachingWithin call.threads

/-- `sweep_thread_deadlines`: the threads are read once, before the first of them is told about. -/
def sweepThreadDeadlines (call : SweepCall) (store : NotificationStore) :
    SweepCounts × NotificationStore :=
  let due := call.due store.chat
  (⟨due.countP (·.kind = .deadlineApproaching), due.countP (·.kind = .deadlineMissed)⟩,
    due.foldl (fun swept d => swept.notify (call.recipients store.users d.kind) d) store)

/-! ## What a sweep finds -/

/-- What a sweep tells about a thread. -/
def ChatStore.dueKind (store : ChatStore) (now : Instant) (approachingWithin : ℤ) (row : ThreadRow) :
    Option NotificationKind :=
  if store.awaits row then
    if row.thread.isOverdue now then some .deadlineMissed
    else if row.thread.isApproaching now approachingWithin then some .deadlineApproaching
    else none
  else none

/-- No thread is told about twice by one sweep: its deadline has passed or it has not. -/
theorem isApproaching_of_isOverdue {thread : ChatThread} {now : Instant} (approachingWithin : ℤ)
    (overdue : thread.isOverdue now = true) :
    thread.isApproaching now approachingWithin = false := by
  unfold ChatThread.isOverdue at overdue
  unfold ChatThread.isApproaching
  cases deadline : thread.deadlineAt with
  | none => simp
  | some d =>
    rw [deadline] at overdue
    simp only [Option.any_some, Bool.and_eq_true, decide_eq_true_eq] at overdue
    have passed : ¬ d > now := not_lt_of_ge overdue.2
    simp [passed]

theorem mem_due {store : ChatStore} {now : Instant} {approachingWithin : ℤ} {order : RowOrder ThreadRow}
    {d : Due} :
    d ∈ store.due now approachingWithin order ↔
      ∃ row ∈ store.threads, store.dueKind now approachingWithin row = some d.kind ∧
        d.threadId = row.id ∧ d.round = store.round row.id := by
  have selected : ∀ row, row ∈ order.rows (store.threads.filter store.awaits) ↔
      row ∈ store.threads ∧ store.awaits row = true := by
    intro row
    rw [(order.perm _).mem_iff, List.mem_filter]
  rw [ChatStore.due, List.mem_append, List.mem_map, List.mem_map]
  constructor
  · rintro (⟨row, mem, rfl⟩ | ⟨row, mem, rfl⟩)
    · obtain ⟨read, overdue⟩ := List.mem_filter.1 mem
      obtain ⟨mem, awaits⟩ := (selected row).1 read
      refine ⟨row, mem, ?_, rfl, rfl⟩
      rw [ChatStore.dueKind, if_pos awaits, if_pos overdue]
    · obtain ⟨read, approaching⟩ := List.mem_filter.1 mem
      obtain ⟨mem, awaits⟩ := (selected row).1 read
      have notOverdue : ¬ row.thread.isOverdue now = true := by
        intro overdue
        rw [isApproaching_of_isOverdue approachingWithin overdue] at approaching
        cases approaching
      refine ⟨row, mem, ?_, rfl, rfl⟩
      rw [ChatStore.dueKind, if_pos awaits, if_neg notOverdue, if_pos approaching]
  · rintro ⟨row, mem, kind, thread, round⟩
    obtain ⟨k, t, r⟩ := d
    obtain rfl : t = row.id := thread
    obtain rfl : r = store.round row.id := round
    unfold ChatStore.dueKind at kind
    split at kind
    · rename_i awaits
      have read := (selected row).2 ⟨mem, awaits⟩
      split at kind
      · cases kind
        exact .inl ⟨row, List.mem_filter.2 ⟨read, ‹_›⟩, rfl⟩
      · split at kind
        · cases kind
          exact .inr ⟨row, List.mem_filter.2 ⟨read, ‹_›⟩, rfl⟩
        · cases kind
    · cases kind

/-- One sweep tells about a thread once. -/
theorem due_nodup {store : ChatStore} (h : Keyed ThreadRow.id store.threads) (now : Instant)
    (approachingWithin : ℤ) (order : RowOrder ThreadRow) :
    ((store.due now approachingWithin order).map (·.threadId)).Nodup := by
  have keyed : ((order.rows (store.threads.filter store.awaits)).map ThreadRow.id).Nodup := by
    refine ((order.perm _).map ThreadRow.id).nodup_iff.2 ?_
    exact h.sublist (List.filter_sublist.map _)
  rw [ChatStore.due, List.map_append, List.map_map, List.map_map, List.nodup_append]
  refine ⟨keyed.sublist (List.filter_sublist.map _), keyed.sublist (List.filter_sublist.map _), ?_⟩
  rintro a memA b memB rfl
  obtain ⟨row, mem, rfl⟩ := List.mem_map.1 memA
  obtain ⟨row', mem', same⟩ := List.mem_map.1 memB
  obtain ⟨read, overdue⟩ := List.mem_filter.1 mem
  obtain ⟨read', approaching⟩ := List.mem_filter.1 mem'
  obtain rfl := List.inj_on_of_nodup_map keyed read' read same
  rw [isApproaching_of_isOverdue approachingWithin overdue] at approaching
  cases approaching

/-! ## What a sweep does -/

/-- The row after the sweep. -/
def ChatStore.flagged (store : ChatStore) (now : Instant) (approachingWithin : ℤ) (row : ThreadRow) :
    ThreadRow :=
  (store.dueKind now approachingWithin row).elim row fun kind =>
    { row with thread := row.thread.notified kind }

theorem notified_id (thread : ChatThread) (kind : NotificationKind) :
    (thread.notified kind).id = thread.id := by
  cases kind <;> rfl

/-- What telling about threads adds up to. -/
theorem notifyAll {α : Type} (due : α → Due) (userIds : α → List Uuid) (all : List α)
    (store : NotificationStore) :
    all.foldl (fun swept a => swept.notify (userIds a) (due a)) store =
      { store with
        chat := { store.chat with
          threads := all.foldl (fun rows a => modify ThreadRow.id (due a).threadId
            (fun row => { row with thread := row.thread.notified (due a).kind }) rows)
            store.chat.threads }
        notifications := store.notifications ++ all.flatMap fun a =>
          (due a).notifications (userIds a) } := by
  induction all generalizing store with
  | nil => simp
  | cons a all ih =>
    rw [List.foldl_cons, ih, List.flatMap_cons]
    simp only [NotificationStore.notify, flagThread, List.append_assoc, List.foldl_cons]

/-- The notifications of a sweep. -/
def SweepCall.sent (call : SweepCall) (store : NotificationStore) : List Notification :=
  (call.due store.chat).flatMap fun d => d.notifications (call.recipients store.users d.kind)

/-- A sweep inserts notifications and sets flags, and does nothing else. -/
theorem sweepThreadDeadlines_store {store : NotificationStore}
    (h : Keyed ThreadRow.id store.chat.threads) (call : SweepCall) :
    (sweepThreadDeadlines call store).2 =
      { store with
        chat := { store.chat with
          threads := store.chat.threads.map (store.chat.flagged call.now call.approachingWithin) }
        notifications := store.notifications ++ call.sent store } := by
  have nodup := due_nodup h call.now call.approachingWithin call.threads
  have rows := foldl_modify_of_nodup ThreadRow.id (·.threadId)
    (fun (d : Due) (row : ThreadRow) => { row with thread := row.thread.notified d.kind })
    (fun d row => notified_id row.thread d.kind) nodup store.chat.threads
  have each : ∀ row ∈ store.chat.threads,
      ((call.due store.chat).find? (·.threadId = row.id)).elim row
        (fun d => { row with thread := row.thread.notified d.kind }) =
      store.chat.flagged call.now call.approachingWithin row := by
    intro row mem
    rw [ChatStore.flagged]
    cases kind : store.chat.dueKind call.now call.approachingWithin row with
    | none =>
      have absent : (call.due store.chat).find? (·.threadId = row.id) = none := by
        rw [List.find?_eq_none]
        intro d found same
        obtain ⟨row', mem', kind', thread, -⟩ := mem_due.1 found
        have only : row' = row :=
          List.inj_on_of_nodup_map h mem' mem (thread.symm.trans (of_decide_eq_true same))
        rw [only, kind] at kind'
        cases kind'
      rw [absent]
      rfl
    | some k =>
      have found : ⟨k, row.id, store.chat.round row.id⟩ ∈ call.due store.chat :=
        mem_due.2 ⟨row, mem, kind, rfl, rfl⟩
      have keyed : Keyed Due.threadId (call.due store.chat) := nodup
      have first : (call.due store.chat).find? (·.threadId = row.id) =
          some ⟨k, row.id, store.chat.round row.id⟩ := lookup_of_mem keyed found
      rw [first]
      rfl
  have flags : (call.due store.chat).foldl (fun rows d => modify ThreadRow.id d.threadId
      (fun row => { row with thread := row.thread.notified d.kind }) rows) store.chat.threads =
      store.chat.threads.map (store.chat.flagged call.now call.approachingWithin) :=
    rows.trans (List.map_congr_left each)
  have all := notifyAll (fun d => d) (fun d => call.recipients store.users d.kind) (call.due store.chat)
    store
  rw [flags] at all
  exact all

theorem mem_recipients {call : SweepCall} {users : UserTable} {kind : NotificationKind} {userId : Uuid} :
    userId ∈ call.recipients users kind ↔
      ∃ user ∈ users.rows, user.id = userId ∧ user.role = kind.role ∧ user.isActive = true := by
  rw [SweepCall.recipients, recipientIds, List.mem_map]
  constructor
  · rintro ⟨user, mem, rfl⟩
    rw [(call.users.perm _).mem_iff, List.mem_filter] at mem
    simp only [Bool.and_eq_true, decide_eq_true_eq] at mem
    exact ⟨user, mem.1, rfl, mem.2⟩
  · rintro ⟨user, mem, rfl, role, active⟩
    refine ⟨user, ?_, rfl⟩
    rw [(call.users.perm _).mem_iff, List.mem_filter]
    simp [mem, role, active]

theorem recipients_nodup (call : SweepCall) (users : UserTable) (kind : NotificationKind) :
    (call.recipients users kind).Nodup := by
  refine ((call.users.perm _).map User.id).nodup_iff.2 ?_
  exact users.keyed.sublist (List.filter_sublist.map _)

/-- Who is told what by a sweep. -/
theorem mem_sent {call : SweepCall} {store : NotificationStore} {n : Notification} :
    n ∈ call.sent store ↔
      (∃ row ∈ store.chat.threads, row.id = n.threadId ∧
        store.chat.dueKind call.now call.approachingWithin row = some n.kind) ∧
      (∃ user ∈ store.users.rows, user.id = n.userId ∧ user.role = n.kind.role ∧ user.isActive = true) ∧
      n.round = store.chat.round n.threadId := by
  rw [SweepCall.sent, List.mem_flatMap]
  constructor
  · rintro ⟨d, found, mem⟩
    obtain ⟨userId, recipient, rfl⟩ := List.mem_map.1 mem
    obtain ⟨row, mem', kind, thread, round⟩ := mem_due.1 found
    exact ⟨⟨row, mem', thread.symm, kind⟩, mem_recipients.1 recipient, thread ▸ round⟩
  · rintro ⟨⟨row, mem, thread, kind⟩, recipient, round⟩
    refine ⟨⟨n.kind, n.threadId, n.round⟩, ?_, ?_⟩
    · exact mem_due.2 ⟨row, mem, kind, thread.symm, thread ▸ round⟩
    · exact List.mem_map.2 ⟨n.userId, mem_recipients.2 recipient, rfl⟩

/-- No one is told the same by one sweep. -/
theorem sent_nodup {store : NotificationStore} (h : Keyed ThreadRow.id store.chat.threads)
    (call : SweepCall) : (call.sent store).Nodup := by
  have nodup := due_nodup h call.now call.approachingWithin call.threads
  rw [SweepCall.sent, List.nodup_flatMap]
  constructor
  · intro d _
    refine (recipients_nodup call store.users d.kind).map ?_
    intro a b same
    exact congrArg Notification.userId same
  · refine (List.pairwise_map.1 nodup).imp ?_
    intro d d' apart n mem mem'
    obtain ⟨_, _, rfl⟩ := List.mem_map.1 mem
    obtain ⟨_, _, same⟩ := List.mem_map.1 mem'
    exact apart (congrArg Notification.threadId same).symm

/-- How the time stands to the deadline when a sweep tells about it. -/
def ChatThread.DueAt (thread : ChatThread) (now : Instant) (approachingWithin : ℤ)
    (deadline : Instant) : NotificationKind → Prop
  | .deadlineMissed => deadline ≤ now
  | .deadlineApproaching =>
    thread.deadlineApproachingNotified = false ∧ now < deadline ∧ deadline - now ≤ approachingWithin

/-- What a thread that is told about looks like. -/
theorem dueKind_some {store : ChatStore} {now : Instant} {approachingWithin : ℤ} {row : ThreadRow}
    {kind : NotificationKind} (h : store.dueKind now approachingWithin row = some kind) :
    store.awaits row = true ∧ row.thread.overdueNotified = false ∧
      ∃ deadline, row.thread.deadlineAt = some deadline ∧
        row.thread.DueAt now approachingWithin deadline kind := by
  unfold ChatStore.dueKind at h
  split at h
  · refine ⟨‹_›, ?_⟩
    split at h
    · rename_i overdue
      cases h
      simp only [ChatThread.isOverdue, Bool.and_eq_true, Bool.not_eq_true', Option.any_eq_true,
        decide_eq_true_eq] at overdue
      exact overdue
    · split at h
      · rename_i approaching
        cases h
        simp only [ChatThread.isApproaching, Bool.and_eq_true, Bool.not_eq_true', Option.any_eq_true,
          decide_eq_true_eq] at approaching
        obtain ⟨⟨unflagged, quiet⟩, deadline, set, later, near⟩ := approaching
        exact ⟨unflagged, deadline, set, quiet, later, near⟩
      · cases h
  · cases h

end MeadowOps.Chat
