import MeadowOps.Chat.Transactions

/-!
# Unread messages

A message carries the start time of its transaction, the read marker the time of its statement. A
message whose transaction was already under way when the marker was stamped is committed later with an
earlier time.
-/

namespace MeadowOps.Chat

open Db Lib MeadowOps.Flow LockTx

/-- The sends of several users and the mark-reads of one on a live thread that he has not read yet. -/
def reading : System (LockTx.State Room Row Local) (LockTx.Action Local (RowOrder ChatMessage)) :=
  system chatProtocol (fun now k => Sends now k ∨ Marks now k) fun room =>
    room.thread.deletedAt = none ∧ Keyed (·.id) room.messages ∧ room.lastReadAt = none ∧
      room.seen = []

/-- Every message that was not committed when the marker was stamped counts as unread, and is behind
the notification unless the user sent it. -/
def NothingLost (user : Uuid) (room : Room) : Prop :=
  ∀ m ∈ room.messages, m ∉ room.seen →
    m ∈ room.unread ∧ (m.senderUserId ≠ user → m ∈ room.unreadReplies user)

/-- A send started after the stamp of the marker; a marker is older than what was committed since its
stamp. -/
def StampedFirst (room : Room) : Local → Prop
  | .sendLocked _ start _ => ∀ read ∈ room.lastReadAt, read < start
  | .marked clock seen => ∀ m ∈ room.messages, m ∉ seen → clock < m.sentAt
  | _ => True

instance (room : Room) (k : Local) : Decidable (StampedFirst room k) :=
  match k with
  | .sendLocked _ start _ => inferInstanceAs (Decidable (∀ read ∈ room.lastReadAt, read < start))
  | .marked clock seen => inferInstanceAs (Decidable (∀ m ∈ room.messages, m ∉ seen → clock < m.sentAt))
  | .sending .. | .completing .. | .threadRead .. | .messagesRead .. | .graded .. | .deleting ..
  | .deleteLocked .. | .marking | .stamped .. => .isTrue trivial

/-- What is lost is a message that is no younger than the marker. -/
theorem nothingLost_iff {user : Uuid} {room : Room} : NothingLost user room ↔
    ∀ m ∈ room.messages, m ∉ room.seen → ∀ read ∈ room.lastReadAt, read < m.sentAt := by
  have unread : ∀ m ∈ room.messages,
      m ∈ room.unread ↔ ∀ read ∈ room.lastReadAt, read < m.sentAt := by
    intro m mem
    cases marker : room.lastReadAt <;> simp [Room.unread, marker, mem]
  constructor
  · intro nothing m mem notSeen
    exact (unread m mem).1 (nothing m mem notSeen).1
  · intro younger m mem notSeen
    have counted := (unread m mem).2 (younger m mem notSeen)
    refine ⟨counted, fun other => List.mem_filter.2 ⟨counted, ?_⟩⟩
    exact decide_eq_true other

/-- For one commit the condition is exact. -/
theorem nothingLost_commit_iff {user : Uuid} {k : Local} {room room' : Room}
    (before : NothingLost user room) (seen : room.seen ⊆ room.messages)
    (h : chatProtocol.commit k room = some room') : NothingLost user room' ↔ StampedFirst room k := by
  rw [nothingLost_iff] at before ⊢
  cases committed_of_commit h with
  | @send call start row thread message sent fresh eq =>
    subst eq
    have stamp : message.sentAt = start := (sendMessage_spec sent).2.2.1
    constructor
    · intro younger read marker
      rw [← stamp]
      apply younger message (List.mem_append_right _ (List.mem_singleton_self _)) ?_ read marker
      exact fun mem => fresh (List.mem_map_of_mem (seen mem))
    · intro first m mem notSeen read marker
      rcases List.mem_append.1 mem with old | new
      · exact before m old notSeen read marker
      · rw [List.mem_singleton.1 new, stamp]
        exact first read marker
  | complete eq | delete _ eq =>
    subst eq
    exact ⟨fun _ => trivial, fun _ => before⟩
  | @mark clock seen eq =>
    subst eq
    constructor
    · intro younger m mem notSeen
      exact younger m mem notSeen clock rfl
    · intro first m mem notSeen read marker
      cases marker
      exact first m mem notSeen

/-- In every run in which each send that commits after a stamp of the marker started after it, no
unread message is lost. -/
theorem no_unread_message_lost (user : Uuid) {s : LockTx.State Room Row Local}
    (h : reading.Reach (CommitsMeet StampedFirst) s) : NothingLost user s.store := by
  have inv := LockTx.invariant
    (I := fun room _ => NothingLost user room ∧ room.seen ⊆ room.messages)
    (K := fun room _ k => ∀ clock seen, k = .stamped clock seen ∨ k = .marked clock seen →
      seen ⊆ room.messages)
    ?_ ?_ ?_ ?_ ?_ h
  · exact inv.1.1
  · rintro room ⟨-, -, unmarked, unseen⟩
    rw [nothingLost_iff, unmarked, unseen]
    exact ⟨fun _ _ _ _ => nofun, List.nil_subset _⟩
  · rintro room commits now k - begins clock seen (rfl | rfl)
    · rcases begins with ⟨_, send⟩ | mark
      · cases send
      · cases mark
    · rcases begins with ⟨_, send⟩ | mark
      · cases send
      · cases mark
  · intro room commits held now order k k' locks _ stamped ran
    have ran' : execLocal now order k room = some (k', locks) := ran
    cases k with
    | sending call start | completing call | threadRead call row | deleting start =>
      cases ran'
      rintro clock seen (eq | eq) <;> cases eq
    | messagesRead call row messages =>
      simp only [execLocal] at ran'
      split at ran'
      · cases ran'
      · split at ran'
        · cases ran'
          rintro clock seen (eq | eq) <;> cases eq
        · cases ran'
    | marking =>
      simp only [execLocal] at ran'
      split at ran'
      · cases ran'
      · cases ran'
        rintro clock seen (eq | eq) <;> cases eq
        exact fun _ mem => mem
    | stamped clock seen =>
      cases ran'
      rintro clock' seen' (eq | eq) <;> cases eq
      exact stamped clock seen (.inl rfl)
    | sendLocked | graded | deleteLocked | marked => cases ran'
  · intro room commits held t k room' ⟨before, seen⟩ stamped good wrote
    refine ⟨(nothingLost_commit_iff before seen wrote).2 good, ?_⟩
    cases committed_of_commit wrote with
    | send _ _ eq =>
      subst eq
      exact fun _ mem => List.mem_append_left _ (seen mem)
    | complete eq | delete _ eq =>
      subst eq
      exact seen
    | @mark clock seen' eq =>
      subst eq
      exact stamped clock seen' (.inr rfl)
  · intro room commits held k room' held' k' _ _ _ wrote _ stamped clock seen which
    have sub := stamped clock seen which
    cases committed_of_commit wrote with
    | send _ _ eq =>
      subst eq
      exact fun _ mem => List.mem_append_left _ (sub mem)
    | complete eq | delete _ eq | mark eq =>
      subst eq
      exact sub

/-! ## Two runs -/

/-- A thread without messages that nobody has read. -/
def unreadRoom : Room := ⟨⟨1, 2, .open, none, false, false, none⟩, [], [], none, []⟩

/-- A message of the Builder, who is user 8. -/
def question (number : ℕ) : SendCall :=
  ⟨8, .admin, "what happened?", 4, none, fun _ => none, number, 0⟩

/-- The thread is marked read, and then a message is sent. -/
def readThenSent : List (LockTx.Action Local (RowOrder ChatMessage)) :=
  [.begin 0 100 .marking, .exec 0 100 .inserted, .exec 0 100 .inserted, .commit 0,
    .begin 1 200 (.sending (question 10) 200), .exec 1 210 .inserted, .commit 1]

theorem unreadRoom_reading (good : Room → Local → Prop) :
    reading.Reach (CommitsMeet good) (State.start unreadRoom 0) :=
  .start ⟨unreadRoom, 0, ⟨rfl, List.nodup_nil, rfl, rfl⟩, rfl⟩

/-- The message that comes after the reading counts as unread. -/
theorem no_unread_message_lost_readThenSent :
    ∃ s, reading.Reach (CommitsMeet StampedFirst) s ∧ s.store.listThreadsWithUnread = some 1 ∧
      NothingLost 7 s.store := by
  have counted : (run chatProtocol StampedFirst (State.start unreadRoom 0) readThenSent).any
      (fun s => s.store.listThreadsWithUnread = some 1) = true := by decide +kernel
  obtain ⟨s, ran, one⟩ := (Option.any_eq_true _ _).1 counted
  have reached : reading.Reach (CommitsMeet StampedFirst) s := by
    refine run_reach ?_ (unreadRoom_reading StampedFirst) ran
    intro t now k mem
    simp only [readThenSent, List.mem_cons, Action.begin.injEq, reduceCtorEq, List.not_mem_nil,
      or_false, false_or] at mem
    rcases mem with ⟨rfl, rfl, rfl⟩ | ⟨rfl, rfl, rfl⟩
    · exact .inr rfl
    · exact .inl ⟨_, rfl⟩
  exact ⟨s, reached, of_decide_eq_true one, no_unread_message_lost 7 reached⟩

/-- The message is under way while the thread is marked read. -/
def readWhileSending : List (LockTx.Action Local (RowOrder ChatMessage)) :=
  [.begin 0 100 (.sending (question 10) 100), .begin 1 150 .marking, .exec 1 160 .inserted,
    .exec 1 160 .inserted, .commit 1, .exec 0 170 .inserted, .commit 0]

/-- The message is committed after the reading and stamped before it. -/
theorem unread_message_lost : ¬ ∀ user s, reading.Reachable s → NothingLost user s.store := by
  intro nothing
  have lost : (run chatProtocol (fun _ _ => True) (State.start unreadRoom 0) readWhileSending).any
      (fun s => s.store.messages.any (fun m => decide (m ∉ s.store.seen)) &&
        decide (s.store.unread = [])) = true := by decide +kernel
  obtain ⟨s, ran, missing⟩ := (Option.any_eq_true _ _).1 lost
  have reached : reading.Reachable s := by
    refine (run_reach ?_ (unreadRoom_reading fun _ _ => True) ran).reachable
    intro t now k mem
    simp only [readWhileSending, List.mem_cons, Action.begin.injEq, reduceCtorEq, List.not_mem_nil,
      or_false] at mem
    rcases mem with ⟨rfl, rfl, rfl⟩ | ⟨rfl, rfl, rfl⟩
    · exact .inl ⟨_, rfl⟩
    · exact .inr rfl
  rw [Bool.and_eq_true, List.any_eq_true] at missing
  obtain ⟨⟨m, mem, notSeen⟩, none⟩ := missing
  have counted := (nothing 7 s reached m mem (of_decide_eq_true notSeen)).1
  rw [of_decide_eq_true none] at counted
  cases counted

end MeadowOps.Chat
