import MeadowOps.Chat.Deadlines

/-!
# A sweep while messages are sent

The sweep reads the threads without a lock, and writes the flags it has chosen by what it read. A message
that is committed in between has started a new response window, and that one gets the flag.
-/

namespace MeadowOps.Chat

open Db Lib MeadowOps.Flow LockTx

/-- A sweep that has read the threads. -/
structure SweepRun where
  call : SweepCall
  /-- The chat as it was read. -/
  found : ChatStore
  /-- The threads that are still to be told about. -/
  todo : List Due
  /-- What `_recipient_ids` has returned. -/
  recipients : NotificationKind → Option (List Uuid)
  /-- What is inserted and flagged, with the recipients. -/
  told : List (Due × List Uuid)

/-- Where a transaction stands. -/
inductive SweepLocal where
  | sending (threadId : Uuid) (call : SendCall) (start : Instant)
  /-- The row of the thread is read and locked. -/
  | sendLocked (threadId : Uuid) (call : SendCall) (start : Instant)
  | sweeping (call : SweepCall)
  | notifying (run : SweepRun)

/-- A statement of a sweep that has read the threads: the recipients are read before the first thread of
their kind. The rows that are inserted refer to the thread, which locks it, and its flag is written. -/
def SweepRun.next (run : SweepRun) (users : UserTable) : Option (SweepRun × List Uuid) :=
  match run.todo with
  | [] => none
  | due :: rest =>
    match run.recipients due.kind with
    | none => some
        ({ run with
            recipients := Function.update run.recipients due.kind
              (some (run.call.recipients users due.kind)) }, [])
    | some userIds => some
        ({ run with todo := rest, told := run.told ++ [(due, userIds)] }, [due.threadId])

def execSweep (k : SweepLocal) (store : NotificationStore) : Option (SweepLocal × List Uuid) :=
  match k with
  | .sending threadId call start => some (.sendLocked threadId call start, [threadId])
  | .sendLocked .. => none
  | .sweeping call => some (.notifying ⟨call, store.chat, call.due store.chat, fun _ => none, []⟩, [])
  | .notifying run => (run.next store.users).map fun (run, locks) => (.notifying run, locks)

/-- What a sweep has written. -/
def SweepRun.write (run : SweepRun) (store : NotificationStore) : NotificationStore :=
  run.told.foldl (fun swept p => swept.notify p.2 p.1) store

/-- A send holds the row of its thread, so its statements read what is committed. -/
def commitSweep (k : SweepLocal) (store : NotificationStore) : Option NotificationStore :=
  match k with
  | .sendLocked threadId call start =>
    match sendMessageOn threadId call start store.chat with
    | .error _ _ => none
    | .ok _ chat => some { store with chat := chat }
  | .notifying run => if run.todo = [] then some (run.write store) else none
  | _ => none

def sweepProtocol : Protocol NotificationStore Uuid SweepLocal Unit where
  exec _ _ := execSweep
  commit := commitSweep

/-- Calls whose transaction starts now. -/
def SweepsOrSends (now : Instant) (k : SweepLocal) : Prop :=
  (∃ call : SweepCall, call.now = now ∧ k = .sweeping call) ∨
    ∃ threadId call, k = .sending threadId call now

/-- The sweeps and sends on a chat in which nothing has been told yet. -/
def sweepsAndSends : System (LockTx.State NotificationStore Uuid SweepLocal)
    (LockTx.Action SweepLocal Unit) :=
  system sweepProtocol SweepsOrSends fun store =>
    Keyed ThreadRow.id store.chat.threads ∧
      ∀ row ∈ store.chat.threads, row.thread.overdueNotified = false

/-- A sweep that runs with nothing in between is `sweepThreadDeadlines`. -/
theorem write_alone {run : SweepRun} {store : NotificationStore}
    (told : run.told = (run.call.due store.chat).map fun d =>
      (d, run.call.recipients store.users d.kind)) :
    run.write store = (sweepThreadDeadlines run.call store).2 := by
  rw [SweepRun.write, told, List.foldl_map]
  rfl

/-! ## What a sweep that commits owes -/

/-- The Analyst has answered in the response window that a notification is of. -/
def AnsweredIn (chat : ChatStore) (n : Notification) : Prop :=
  ∃ m, (chat.messagesOf n.threadId)[n.round]? = some m ∧ m.senderRole = .analyst

/-- The notifications of a sweep. -/
def SweepRun.sent (run : SweepRun) : List Notification :=
  run.told.flatMap fun p => p.1.notifications p.2

/-- What holds when a sweep commits on `store`. -/
structure NothingSwallowed (run : SweepRun) (store after : NotificationStore) : Prop where
  /-- What it found overdue is reported to every Builder, unless a message came in between. -/
  reported : ∀ row ∈ run.found.threads, run.found.awaits row = true →
    ∀ deadline, row.thread.deadlineAt = some deadline → deadline ≤ run.call.now →
    store.chat.round row.id = run.found.round row.id →
    ∀ user ∈ store.users.rows, user.role = .admin → user.isActive = true →
      ⟨user.id, row.id, .deadlineMissed, run.found.round row.id⟩ ∈ after.notifications
  unanswered : ∀ n ∈ run.sent, ¬ AnsweredIn store.chat n

/-- No message was committed on a thread that is told about since the sweep has read it. -/
def ToldCurrent (store : NotificationStore) : SweepLocal → Prop
  | .notifying run => ∀ p ∈ run.told, store.chat.round p.1.threadId = p.1.round
  | _ => True

instance (store : NotificationStore) (k : SweepLocal) : Decidable (ToldCurrent store k) :=
  match k with
  | .notifying run => inferInstanceAs (Decidable (∀ p ∈ run.told, _ = _))
  | .sending .. | .sendLocked .. | .sweeping .. => .isTrue trivial

/-! ## The invariant -/

/-- Everyone active of the role of a kind. -/
def Everyone (users : UserTable) (kind : NotificationKind) (userIds : List Uuid) : Prop :=
  ∀ user ∈ users.rows, user.role = kind.role → user.isActive = true → user.id ∈ userIds

/-- The response window of a thread is reported to every Builder. -/
def Reported (store : NotificationStore) (threadId : Uuid) (round : ℕ) : Prop :=
  ∀ user ∈ store.users.rows, user.role = .admin → user.isActive = true →
    ⟨user.id, threadId, .deadlineMissed, round⟩ ∈ store.notifications

/-- A thread that is flagged is reported. -/
structure FlagsReported (store : NotificationStore) : Prop where
  threads : Keyed ThreadRow.id store.chat.threads
  reported : ∀ row ∈ store.chat.threads, row.thread.overdueNotified = true →
    Reported store row.id (store.chat.round row.id)

/-- A sweep that is not through. -/
structure SweepInv (store : NotificationStore) (run : SweepRun) : Prop where
  due : run.told.map (·.1) ++ run.todo = run.call.due run.found
  everyone : ∀ p ∈ run.told, Everyone store.users p.1.kind p.2
  recipients : ∀ kind userIds, run.recipients kind = some userIds → Everyone store.users kind userIds
  /-- What it found flagged was reported. -/
  found : ∀ row ∈ run.found.threads, row.thread.overdueNotified = true →
    Reported store row.id (run.found.round row.id)

def LocalInv (store : NotificationStore) : SweepLocal → Prop
  | .notifying run => SweepInv store run
  | _ => True

theorem everyone_recipients (call : SweepCall) (users : UserTable) (kind : NotificationKind) :
    Everyone users kind (call.recipients users kind) :=
  fun user mem role active => mem_recipients.2 ⟨user, mem, rfl, role, active⟩

theorem Reported.mono {store store' : NotificationStore} {threadId : Uuid} {round : ℕ}
    (h : Reported store threadId round) (users : store'.users = store.users)
    (more : store.notifications ⊆ store'.notifications) : Reported store' threadId round := by
  intro user mem admin active
  rw [users] at mem
  exact more (h user mem admin active)

/-- A transaction that is not done stays as it was when another one commits. -/
theorem LocalInv.mono {store store' : NotificationStore} {k : SweepLocal} (h : LocalInv store k)
    (users : store'.users = store.users) (more : store.notifications ⊆ store'.notifications) :
    LocalInv store' k := by
  cases k with
  | notifying run =>
    refine ⟨h.due, ?_, ?_, fun row mem flagged => (h.found row mem flagged).mono users more⟩
    · rw [users]
      exact h.everyone
    · rw [users]
      exact h.recipients
  | _ => trivial

theorem SweepInv.next {store : NotificationStore} {run run' : SweepRun} {locks : List Uuid}
    (h : SweepInv store run) (ran : run.next store.users = some (run', locks)) : SweepInv store run' := by
  have due := h.due
  rw [SweepRun.next] at ran
  cases todo : run.todo with
  | nil =>
    rw [todo] at ran
    cases ran
  | cons d rest =>
    rw [todo] at ran due
    cases read : run.recipients d.kind with
    | none =>
      simp only [read] at ran
      cases ran
      refine ⟨todo ▸ due, h.everyone, ?_, h.found⟩
      intro kind userIds returned
      by_cases same : kind = d.kind
      · subst same
        simp only [Function.update_self, Option.some.injEq] at returned
        exact returned ▸ everyone_recipients run.call store.users d.kind
      · simp only [Function.update_of_ne same] at returned
        exact h.recipients kind userIds returned
    | some userIds =>
      simp only [read] at ran
      cases ran
      refine ⟨?_, ?_, h.recipients, h.found⟩
      · rw [List.map_append, List.append_assoc]
        exact due
      · intro p mem
        rcases List.mem_append.1 mem with old | new
        · exact h.everyone p old
        · rw [List.mem_singleton.1 new]
          exact h.recipients d.kind userIds read

/-- What a sweep writes. -/
theorem write_eq (run : SweepRun) (store : NotificationStore) :
    run.write store =
      { store with
        chat := { store.chat with
          threads := run.told.foldl (fun rows p => modify ThreadRow.id p.1.threadId
            (fun row => { row with thread := row.thread.notified p.1.kind }) rows) store.chat.threads }
        notifications := store.notifications ++ run.sent } :=
  notifyAll (fun p : Due × List Uuid => p.1) (fun p => p.2) run.told store

/-- A row after flags were written: it has those it had, and the one of the thread that was told about. -/
theorem mem_flags {told : List (Due × List Uuid)} {rows : List ThreadRow} {row' : ThreadRow}
    (mem : row' ∈ told.foldl (fun rows p => modify ThreadRow.id p.1.threadId
      (fun row => { row with thread := row.thread.notified p.1.kind }) rows) rows) :
    ∃ row ∈ rows, row'.id = row.id ∧ (row'.thread.overdueNotified = true →
      row.thread.overdueNotified = true ∨
        ∃ p ∈ told, p.1.threadId = row.id ∧ p.1.kind = .deadlineMissed) := by
  induction told generalizing rows with
  | nil => exact ⟨row', mem, rfl, .inl⟩
  | cons p told ih =>
    obtain ⟨mid, memMid, id, flags⟩ := ih mem
    obtain ⟨row, memRow, rfl⟩ := mem_modify.1 memMid
    by_cases touched : row.id = p.1.threadId
    · rw [if_pos touched] at id flags
      refine ⟨row, memRow, id.trans (notified_id row.thread p.1.kind), fun flagged => ?_⟩
      rcases flags flagged with before | ⟨q, memQ, thread, kind⟩
      · cases told' : p.1.kind with
        | deadlineMissed => exact .inr ⟨p, List.mem_cons_self, touched.symm, told'⟩
        | deadlineApproaching =>
          rw [told'] at before
          exact .inl before
      · exact .inr ⟨q, List.mem_cons_of_mem _ memQ,
          thread.trans (notified_id row.thread p.1.kind), kind⟩
    · rw [if_neg touched] at id flags
      refine ⟨row, memRow, id, fun flagged => ?_⟩
      rcases flags flagged with before | ⟨q, memQ, thread, kind⟩
      · exact .inl before
      · exact .inr ⟨q, List.mem_cons_of_mem _ memQ, thread, kind⟩

theorem keyed_flags {told : List (Due × List Uuid)} {rows : List ThreadRow}
    (h : Keyed ThreadRow.id rows) :
    Keyed ThreadRow.id (told.foldl (fun rows p => modify ThreadRow.id p.1.threadId
      (fun row => { row with thread := row.thread.notified p.1.kind }) rows) rows) := by
  induction told generalizing rows with
  | nil => exact h
  | cons p told ih => exact ih (h.modify fun row id => (notified_id row.thread p.1.kind).trans id)

/-- Whoever is told about a thread is in the table after the commit. -/
theorem SweepInv.told {store : NotificationStore} {run : SweepRun} (h : SweepInv store run)
    {p : Due × List Uuid} (mem : p ∈ run.told) (missed : p.1.kind = .deadlineMissed) :
    Reported (run.write store) p.1.threadId p.1.round := by
  rw [write_eq]
  intro user memUser admin active
  apply List.mem_append_right
  refine List.mem_flatMap.2 ⟨p, mem, List.mem_map.2 ⟨user.id, ?_, ?_⟩⟩
  · refine h.everyone p mem user memUser ?_ active
    rw [missed]
    exact admin
  · rw [missed]

theorem FlagsReported.write {store : NotificationStore} {run : SweepRun} (h : FlagsReported store)
    (inv : SweepInv store run) (current : ToldCurrent store (.notifying run)) :
    FlagsReported (run.write store) := by
  constructor
  · rw [write_eq]
    exact keyed_flags h.threads
  · intro row' mem' flagged
    have written := mem'
    rw [write_eq] at written
    obtain ⟨row, mem, id, flags⟩ := mem_flags written
    have round : (run.write store).chat.round row'.id = store.chat.round row.id := by
      rw [write_eq, id]
      rfl
    rw [round, id]
    rcases flags flagged with before | ⟨p, memP, thread, missed⟩
    · refine (h.reported row mem before).mono ?_ ?_
      · rw [write_eq]
      · rw [write_eq]
        exact List.subset_append_left _ _
    · rw [← thread, current p memP]
      exact inv.told memP missed

/-- A message starts its thread anew, with no flag. -/
theorem FlagsReported.send {store : NotificationStore} {chat : ChatStore} (h : FlagsReported store)
    {f : ThreadRow → ThreadRow} {new : List ThreadRow} (m : Moved store.chat chat f new) :
    FlagsReported { store with chat := chat } := by
  refine ⟨m.keyed, fun row' mem' flagged => ?_⟩
  rcases m.mem mem' with ⟨row, mem, id, move⟩ | ⟨-, -, unflagged⟩
  · cases move with
    | kept _ flags messages =>
      have before := h.reported row mem ((flags .deadlineMissed).symm.trans flagged)
      rw [id, show chat.round row.id = store.chat.round row.id from congrArg List.length messages]
      exact before
    | sent call message role thread messages =>
      rw [thread] at flagged
      cases flagged
  · exact absurd (flagged.symm.trans (unflagged .deadlineMissed)) Bool.noConfusion

/-- What a commit keeps. -/
theorem FlagsReported.commit {store store' : NotificationStore} {k : SweepLocal}
    (h : FlagsReported store) (inv : LocalInv store k) (current : ToldCurrent store k)
    (wrote : commitSweep k store = some store') :
    FlagsReported store' ∧ store'.users = store.users ∧ store.notifications ⊆ store'.notifications := by
  cases k with
  | sendLocked threadId call start =>
    simp only [commitSweep] at wrote
    split at wrote
    · cases wrote
    · rename_i value chat sent
      cases wrote
      have change : Change start store.chat chat (.sendMessage threadId call) := change_of_perform sent
      obtain ⟨f, new, m⟩ := moved_of_change h.threads change
      exact ⟨h.send m, rfl, fun _ => id⟩
  | notifying run =>
    simp only [commitSweep] at wrote
    split at wrote
    · cases wrote
      refine ⟨h.write inv current, ?_, ?_⟩
      · rw [write_eq]
      · rw [write_eq]
        exact List.subset_append_left _ _
    · cases wrote
  | _ => cases wrote

theorem LocalInv.exec {store : NotificationStore} {k k' : SweepLocal} {locks : List Uuid}
    (h : FlagsReported store) (inv : LocalInv store k)
    (ran : execSweep k store = some (k', locks)) : LocalInv store k' := by
  cases k with
  | sending threadId call start =>
    cases ran
    trivial
  | sendLocked threadId call start => cases ran
  | sweeping call =>
    cases ran
    exact ⟨rfl, fun _ mem => absurd mem List.not_mem_nil, nofun, h.reported⟩
  | notifying run =>
    obtain ⟨⟨run', locks'⟩, next, same⟩ := Option.map_eq_some_iff.1 ran
    cases same
    exact SweepInv.next inv next

/-- In every run whose sweeps tell about threads as they are, a sweep that commits finds the flags true,
and what it has found itself is still so. -/
theorem invariant_sweeps {s : LockTx.State NotificationStore Uuid SweepLocal}
    (h : sweepsAndSends.Reach (CommitsMeet ToldCurrent) s) :
    FlagsReported s.store ∧ ∀ t k, s.phase t = .running k → LocalInv s.store k := by
  refine LockTx.invariant (I := fun store _ => FlagsReported store) (K := fun store _ => LocalInv store)
    ?_ ?_ ?_ ?_ ?_ h
  · rintro store ⟨keyed, unflagged⟩
    refine ⟨keyed, fun row mem flagged => ?_⟩
    exact absurd (flagged.symm.trans (unflagged row mem)) Bool.noConfusion
  · rintro store commits now k - (⟨call, -, rfl⟩ | ⟨threadId, call, rfl⟩) <;> trivial
  · intro store commits held now i k k' locks flags inv ran
    exact inv.exec flags ran
  · intro store commits held t k store' flags inv current wrote
    exact (flags.commit inv current wrote).1
  · intro store commits held k store' held' k' flags inv current wrote _ other
    obtain ⟨-, users, more⟩ := flags.commit inv current wrote
    exact other.mono users more

/-! ## No response window is swallowed -/

theorem SweepInv.nothingSwallowed {store : NotificationStore} {run : SweepRun} (inv : SweepInv store run)
    (through : run.todo = []) (current : ToldCurrent store (.notifying run)) :
    NothingSwallowed run store (run.write store) := by
  have all := inv.due
  rw [through, List.append_nil] at all
  constructor
  · intro row mem awaits deadline set passed same user memUser admin active
    cases flagged : row.thread.overdueNotified with
    | true =>
      have before : Reported (run.write store) row.id (run.found.round row.id) := by
        rw [write_eq]
        exact (inv.found row mem flagged).mono rfl (List.subset_append_left _ _)
      exact before user (by rw [write_eq]; exact memUser) admin active
    | false =>
      have kind : run.found.dueKind run.call.now run.call.approachingWithin row = some .deadlineMissed := by
        rw [ChatStore.dueKind, if_pos awaits, ChatThread.isOverdue, set, flagged]
        simp [passed]
      have due : ⟨.deadlineMissed, row.id, run.found.round row.id⟩ ∈ run.call.due run.found :=
        mem_due.2 ⟨row, mem, kind, rfl, rfl⟩
      rw [← all] at due
      obtain ⟨p, memP, eq⟩ := List.mem_map.1 due
      have told := inv.told memP (by rw [eq])
      rw [eq] at told
      exact told user (by rw [write_eq]; exact memUser) admin active
  · rintro n sent ⟨m, answer, -⟩
    obtain ⟨p, memP, memN⟩ := List.mem_flatMap.1 sent
    obtain ⟨userId, -, rfl⟩ := List.mem_map.1 memN
    have round : (store.chat.messagesOf p.1.threadId).length = p.1.round := current p memP
    obtain ⟨bound, -⟩ := List.getElem?_eq_some_iff.1 answer
    exact absurd round bound.ne'

/-- In every run whose sweeps commit on threads without a new message, each sweep reports what it found
overdue, and tells nothing of a response window that was answered. -/
theorem sweep_swallows_nothing {s : LockTx.State NotificationStore Uuid SweepLocal}
    (h : sweepsAndSends.Reach (CommitsMeet ToldCurrent) s) {t : ℕ} {run : SweepRun}
    {after : NotificationStore} (running : s.phase t = .running (.notifying run))
    (wrote : sweepProtocol.commit (.notifying run) s.store = some after)
    (current : ToldCurrent s.store (.notifying run)) : NothingSwallowed run s.store after := by
  have inv : SweepInv s.store run := (invariant_sweeps h).2 t _ running
  have wrote' : commitSweep (.notifying run) s.store = some after := wrote
  simp only [commitSweep] at wrote'
  split at wrote'
  · cases wrote'
    exact inv.nothingSwallowed ‹_› current
  · cases wrote'

/-! ## Three runs -/

/-- One open thread of an active scenario, without a message. -/
def silentChat : NotificationStore where
  chat := { ChatStore.quiet [lateDelivery] with threads := [newThread 1 2 .cfo 100] }
  users := accounts
  notifications := []

theorem silentChat_sweeps (good : NotificationStore → SweepLocal → Prop) :
    sweepsAndSends.Reach (CommitsMeet good) (State.start silentChat 0) := by
  refine .start ⟨silentChat, 0, ⟨List.nodup_singleton _, ?_⟩, rfl⟩
  intro row mem
  rw [List.mem_singleton.1 mem]
  rfl

/-- The Builder asks, with four days to answer, and a sweep starts when they are over. -/
def overdueAsked : List (LockTx.Action SweepLocal Unit) :=
  [.begin 0 200 (.sending 1 ⟨8, .admin, "what happened?", 4, none, fun _ => none, 10, 210⟩ 200),
    .exec 0 205 (), .commit 0,
    .begin 1 345600000210 (.sweeping (dayAhead 345600000210)), .exec 1 345600000211 ()]

/-- The sweep reads the Builders, and inserts and flags. -/
def toldOverdue : List (LockTx.Action SweepLocal Unit) :=
  [.exec 1 345600000400 (), .exec 1 345600000410 ()]

/-- The Builder asks again. -/
def askedAgain : List (LockTx.Action SweepLocal Unit) :=
  [.begin 2 345600000300
      (.sending 1 ⟨8, .admin, "anything new?", 4, none, fun _ => none, 11, 345600000310⟩ 345600000300),
    .exec 2 345600000305 (), .commit 2]

/-- The Analyst answers. -/
def answeredLate : List (LockTx.Action SweepLocal Unit) :=
  [.begin 2 345600000300
      (.sending 1 ⟨7, .analyst, "the carrier", 4, none, fun _ => none, 11, 345600000310⟩ 345600000300),
    .exec 2 345600000305 (), .commit 2]

/-- The sweep commits, and the next one starts when the second four days are over. -/
def overdueAgain : List (LockTx.Action SweepLocal Unit) :=
  [.commit 1, .begin 3 691200000310 (.sweeping (dayAhead 691200000310)), .exec 3 691200000311 ()]

theorem overdue_begins {actions : List (LockTx.Action SweepLocal Unit)}
    (h : actions ⊆ overdueAsked ++ askedAgain ++ answeredLate ++ toldOverdue ++ overdueAgain)
    (t : ℕ) (now : Instant) (k : SweepLocal) (mem : LockTx.Action.begin t now k ∈ actions) :
    SweepsOrSends now k := by
  have mem' := h mem
  simp only [overdueAsked, askedAgain, answeredLate, toldOverdue, overdueAgain, List.cons_append,
    List.nil_append, List.mem_cons, Action.begin.injEq, reduceCtorEq, List.not_mem_nil, or_false,
    false_or] at mem'
  rcases mem' with ⟨-, rfl, rfl⟩ | ⟨-, rfl, rfl⟩ | ⟨-, rfl, rfl⟩ | ⟨-, rfl, rfl⟩ | ⟨-, rfl, rfl⟩
  · exact .inr ⟨_, _, rfl⟩
  · exact .inl ⟨_, rfl, rfl⟩
  · exact .inr ⟨_, _, rfl⟩
  · exact .inr ⟨_, _, rfl⟩
  · exact .inl ⟨_, rfl, rfl⟩

/-- The sweep that a transaction runs. -/
def sweepOf (s : LockTx.State NotificationStore Uuid SweepLocal) (t : ℕ) : Option SweepRun :=
  match s.phase t with
  | .running (.notifying run) => some run
  | _ => none

theorem running_of_sweepOf {s : LockTx.State NotificationStore Uuid SweepLocal} {t : ℕ} {run : SweepRun}
    (h : sweepOf s t = some run) : s.phase t = .running (.notifying run) := by
  unfold sweepOf at h
  split at h
  · rw [← Option.some.inj h]
    assumption
  · cases h

theorem commit_through {run : SweepRun} {store : NotificationStore} (through : run.todo = []) :
    sweepProtocol.commit (.notifying run) store = some (run.write store) :=
  if_pos through

/-- The sweep tells of the deadline that has been missed. -/
theorem sweep_swallows_nothing_unanswered :
    ∃ s run, sweepsAndSends.Reach (CommitsMeet ToldCurrent) s ∧ sweepOf s 1 = some run ∧
      (run.write s.store).notifications = [⟨8, 1, .deadlineMissed, 1⟩] ∧
      NothingSwallowed run s.store (run.write s.store) := by
  have ends : (LockTx.run sweepProtocol ToldCurrent (State.start silentChat 0)
      (overdueAsked ++ toldOverdue)).any (fun s => (sweepOf s 1).any fun run => decide (run.todo = [] ∧
        ToldCurrent s.store (.notifying run) ∧
        (run.write s.store).notifications = [⟨8, 1, .deadlineMissed, 1⟩])) = true := by
    decide +kernel
  obtain ⟨s, ran, check⟩ := (Option.any_eq_true _ _).1 ends
  obtain ⟨run, sweeps, holds⟩ := (Option.any_eq_true _ _).1 check
  obtain ⟨through, current, told⟩ := of_decide_eq_true holds
  have reached : sweepsAndSends.Reach (CommitsMeet ToldCurrent) s := by
    refine run_reach (overdue_begins fun a mem => ?_) (silentChat_sweeps ToldCurrent) ran
    simp only [List.mem_append] at mem ⊢
    tauto
  exact ⟨s, run, reached, sweeps, told, sweep_swallows_nothing reached (running_of_sweepOf sweeps)
    (commit_through through) current⟩

/-- A new response window gets the flag of the one before, and the deadline of an answered one is
reported. -/
theorem round_swallowed :
    (¬ ∀ s, sweepsAndSends.Reachable s → ∀ t run after, s.phase t = .running (.notifying run) →
      sweepProtocol.commit (.notifying run) s.store = some after → NothingSwallowed run s.store after) ∧
    ¬ ∀ s, sweepsAndSends.Reachable s → ∀ t run after, s.phase t = .running (.notifying run) →
      sweepProtocol.commit (.notifying run) s.store = some after →
      ∀ n ∈ run.sent, ¬ AnsweredIn s.store.chat n := by
  have reachable : ∀ {actions s}, actions ⊆ overdueAsked ++ askedAgain ++ answeredLate ++ toldOverdue ++
      overdueAgain → LockTx.run sweepProtocol (fun _ _ => True) (State.start silentChat 0) actions =
      some s → sweepsAndSends.Reachable s := fun sub ran =>
    (run_reach (overdue_begins sub) (silentChat_sweeps fun _ _ => True) ran).reachable
  constructor
  · intro never
    have ends : (LockTx.run sweepProtocol (fun _ _ => True) (State.start silentChat 0)
        (overdueAsked ++ askedAgain ++ toldOverdue ++ overdueAgain)).any (fun s =>
          (sweepOf s 3).any fun run => decide (run.todo = [] ∧ s.store.users.rows = accounts.rows ∧
            (∃ row ∈ run.found.threads, row.id = 1 ∧ run.found.awaits row = true ∧
              row.thread.deadlineAt = some 691200000310) ∧
            run.call.now = 691200000310 ∧ run.found.round 1 = 2 ∧ s.store.chat.round 1 = 2 ∧
            ⟨8, 1, .deadlineMissed, 2⟩ ∉ (run.write s.store).notifications)) = true := by
      decide +kernel
    obtain ⟨s, ran, check⟩ := (Option.any_eq_true _ _).1 ends
    obtain ⟨run, sweeps, holds⟩ := (Option.any_eq_true _ _).1 check
    obtain ⟨through, users, ⟨row, mem, id, awaits, set⟩, now, found, same, silent⟩ :=
      of_decide_eq_true holds
    have reached : sweepsAndSends.Reachable s := by
      refine reachable (fun a mem => ?_) ran
      simp only [List.mem_append] at mem ⊢
      tauto
    have law := never s reached 3 run _ (running_of_sweepOf sweeps) (commit_through through)
    have told := law.reported row mem awaits _ set now.ge (by rw [id, found, same]) ⟨8, .admin, true⟩
      (by rw [users]; exact List.mem_cons_self) rfl rfl
    rw [id, found] at told
    exact silent told
  · intro never
    have ends : (LockTx.run sweepProtocol (fun _ _ => True) (State.start silentChat 0)
        (overdueAsked ++ answeredLate ++ toldOverdue)).any (fun s =>
          (sweepOf s 1).any fun run => decide (run.todo = [] ∧
            ⟨8, 1, .deadlineMissed, 1⟩ ∈ run.sent ∧
            ∃ m ∈ (s.store.chat.messagesOf 1)[1]?, m.senderRole = .analyst)) = true := by
      decide +kernel
    obtain ⟨s, ran, check⟩ := (Option.any_eq_true _ _).1 ends
    obtain ⟨run, sweeps, holds⟩ := (Option.any_eq_true _ _).1 check
    obtain ⟨through, sent, answer⟩ := of_decide_eq_true holds
    have reached : sweepsAndSends.Reachable s := by
      refine reachable (fun a mem => ?_) ran
      simp only [List.mem_append] at mem ⊢
      tauto
    exact never s reached 1 run _ (running_of_sweepOf sweeps) (commit_through through) _ sent answer

end MeadowOps.Chat
