import MeadowOps.Chat.Transactions

/-!
# The order of the transcript

The lock of the thread orders the sends; `list_messages` orders them by the start times of their
transactions, which were fixed before they waited for the lock.
-/

namespace MeadowOps.Chat

open Db Lib MeadowOps.Flow LockTx

/-- The sends on a new thread. -/
def sending : System (LockTx.State Room Row Local) (LockTx.Action Local (RowOrder ChatMessage)) :=
  system chatProtocol Sends fun room =>
    room.thread.deadlineAt = none ∧ room.messages = []

/-- The message of a transaction that committed. -/
def sentMessage : Local → Option ChatMessage
  | .sendLocked call start row => (sendMessage call start row).toOption.map (·.1)
  | _ => none

/-- The messages of the transactions, in the order of their commits. -/
def sentMessages (commits : List (ℕ × Local)) : List ChatMessage :=
  commits.filterMap fun c => sentMessage c.2

/-- The transcript lists the messages in the order in which their transactions held the lock of the
thread, and the response window is open exactly when the last one is not the Analyst's. -/
structure TranscriptInLockOrder (s : LockTx.State Room Row Local) : Prop where
  listed : ∀ order, listMessages order s.store.messages = sentMessages s.commits
  locked : (s.commits.map (·.1)).Sublist (s.grantsOf .thread)
  deadline : ∀ order, s.store.thread.deadlineAt = none ↔
    ∀ m ∈ (listMessages order s.store.messages).getLast?, m.senderRole = .analyst

/-- A send started after every message that is committed before it. -/
def StartsLast (room : Room) : Local → Prop
  | .sendLocked _ start _ => ∀ m ∈ room.messages, m.sentAt < start
  | _ => True

instance (room : Room) (k : Local) : Decidable (StartsLast room k) :=
  match k with
  | .sendLocked _ start _ => inferInstanceAs (Decidable (∀ m ∈ room.messages, m.sentAt < start))
  | .sending .. | .completing .. | .threadRead .. | .messagesRead .. | .graded .. | .deleting ..
  | .deleteLocked .. | .marking | .stamped .. | .marked .. => .isTrue trivial

/-- Messages in increasing order are listed as they are. -/
theorem listMessages_of_increasing {messages : List ChatMessage}
    (increasing : messages.Pairwise fun m n => m.sentAt < n.sentAt) (order : RowOrder ChatMessage) :
    listMessages order messages = messages := by
  have perm := listMessages_perm order messages
  have sorted := listMessages_sorted order messages
  have apart : (listMessages order messages).Pairwise fun m n => m.sentAt ≠ n.sentAt := by
    refine perm.symm.pairwise ?_ fun h => h.symm
    exact increasing.imp fun lt => ne_of_lt lt
  have strict : (listMessages order messages).Pairwise fun m n => m.sentAt < n.sentAt := by
    refine (sorted.and apart).imp ?_
    rintro m n ⟨le, ne⟩
    exact lt_of_le_of_ne le ne
  exact perm.eq_of_pairwise (fun m n _ _ lt lt' => absurd lt' (lt_asymm lt)) strict increasing

/-- The committed messages, and the window that the last of them left. -/
structure Ordered (room : Room) (commits : List (ℕ × Local)) : Prop where
  sent : room.messages = sentMessages commits
  increasing : room.messages.Pairwise fun m n => m.sentAt < n.sentAt
  deadline : room.thread.deadlineAt = none ↔
    ∀ m ∈ room.messages.getLast?, m.senderRole = .analyst

/-- A transaction of this system is a send, and holds the lock once it has read the thread. -/
def SendOnly (held : Row → Prop) : Local → Prop
  | .sending .. => True
  | .sendLocked .. => held .thread
  | _ => False

theorem sendOnly_exec {held : Row → Prop} {now : Instant} {order : RowOrder ChatMessage}
    {k k' : Local} {room : Room} {locks : List Row} (only : SendOnly held k)
    (ran : chatProtocol.exec now order k room = some (k', locks)) :
    SendOnly (fun r => held r ∨ r ∈ locks) k' := by
  cases k with
  | sending call start =>
    cases ran
    exact .inr List.mem_cons_self
  | sendLocked => cases ran
  | _ => exact absurd only id

theorem deadlineAt_answered (call : SendCall) (row : ChatThread) :
    (answered call row).deadlineAt = none ↔ call.senderRole = .analyst := by
  unfold answered
  dsimp only
  split <;> simp [*]

/-- A send that started last is listed last. -/
theorem Ordered.commit {room room' : Room} {commits : List (ℕ × Local)} {held : Row → Prop} {t : ℕ}
    {k : Local} (ordered : Ordered room commits) (only : SendOnly held k) (last : StartsLast room k)
    (h : chatProtocol.commit k room = some room') : Ordered room' (commits ++ [(t, k)]) := by
  cases committed_of_commit h with
  | @send call start row thread message sent fresh eq =>
    subst eq
    obtain ⟨-, answer, stamp, role, -⟩ := sendMessage_spec sent
    constructor
    · have here : sentMessage (.sendLocked call start row) = some message := by
        simp [sentMessage, sent, Except.toOption]
      show room.messages ++ [message] = _
      rw [ordered.sent, sentMessages, sentMessages, List.filterMap_append]
      simp [here]
    · refine List.pairwise_append.2 ⟨ordered.increasing, List.pairwise_singleton _ _, ?_⟩
      intro m mem n new
      rw [List.mem_singleton.1 new, stamp]
      exact last m mem
    · show thread.deadlineAt = none ↔ _
      rw [answer, deadlineAt_answered, ← role]
      simp
  | complete | delete | mark => exact absurd only id

theorem ordered_and_sendOnly {s : LockTx.State Room Row Local}
    (h : sending.Reach (CommitsMeet StartsLast) s) :
    Ordered s.store s.commits ∧ ∀ t k, s.phase t = .running k → SendOnly (s.Holds t) k := by
  apply LockTx.invariant (I := Ordered) (K := fun _ held k => SendOnly held k) ?_ ?_ ?_ ?_ ?_ h
  · rintro room ⟨window, none⟩
    refine ⟨none, by rw [none]; exact List.Pairwise.nil, ?_⟩
    rw [window, none]
    exact ⟨fun _ _ => nofun, fun _ => rfl⟩
  · rintro room commits now k - ⟨call, rfl⟩
    trivial
  · intro room commits held now order k k' locks _ only ran
    exact sendOnly_exec only ran
  · intro room commits held t k room' ordered only last wrote
    exact ordered.commit only last wrote
  · exact fun _ _ _ _ _ _ _ _ _ _ _ _ only => only

/-- In every run in which each send started after the messages committed before it, the transcript is in
the order of the lock and agrees with the response window. -/
theorem transcript_in_lock_order {s : LockTx.State Room Row Local}
    (h : sending.Reach (CommitsMeet StartsLast) s) : TranscriptInLockOrder s := by
  have ordered := (ordered_and_sendOnly h).1
  have listed := fun order => listMessages_of_increasing ordered.increasing order
  constructor
  · intro order
    rw [listed order]
    exact ordered.sent
  · refine (commits_in_lock_order ?_ h).committed
    intro s t k room reached running wrote
    have only := (ordered_and_sendOnly reached).2 t k running
    cases committed_of_commit wrote with
    | send => exact only
    | complete | delete | mark => exact absurd only id
  · intro order
    rw [listed order]
    exact ordered.deadline

/-! ## Two runs -/

/-- A new thread. -/
def newRoom : Room := ⟨⟨1, 2, .open, none, false, false, none⟩, [], [], none, []⟩

theorem newRoom_sending (good : Room → Local → Prop) :
    sending.Reach (CommitsMeet good) (State.start newRoom 0) :=
  .start ⟨newRoom, 0, ⟨rfl, rfl⟩, rfl⟩

/-- A message of user 8, who is the Builder, or of user 7, who is the Analyst. -/
def turn (role : UserRole) (number : ℕ) : SendCall :=
  ⟨if role = .analyst then 7 else 8, role, "the carrier", 4, none, fun _ => none, number, 500⟩

/-- A question, and then the answer to it. -/
def askedThenAnswered : List (LockTx.Action Local (RowOrder ChatMessage)) :=
  [.begin 0 100 (.sending (turn .admin 10) 100), .exec 0 110 .inserted, .commit 0,
    .begin 1 200 (.sending (turn .analyst 11) 200), .exec 1 210 .inserted, .commit 1]

/-- The question stands before the answer, and no deadline is set. -/
theorem transcript_in_lock_order_askedThenAnswered :
    ∃ s, sending.Reach (CommitsMeet StartsLast) s ∧ s.store.messages.length = 2 ∧
      TranscriptInLockOrder s := by
  have both : (run chatProtocol StartsLast (State.start newRoom 0) askedThenAnswered).any
      (fun s => s.store.messages.length = 2) = true := by decide +kernel
  obtain ⟨s, ran, two⟩ := (Option.any_eq_true _ _).1 both
  have reached : sending.Reach (CommitsMeet StartsLast) s := by
    refine run_reach ?_ (newRoom_sending StartsLast) ran
    intro t now k mem
    simp only [askedThenAnswered, List.mem_cons, Action.begin.injEq, reduceCtorEq, List.not_mem_nil,
      or_false, false_or] at mem
    rcases mem with ⟨rfl, rfl, rfl⟩ | ⟨rfl, rfl, rfl⟩ <;> exact ⟨_, rfl⟩
  exact ⟨s, reached, of_decide_eq_true two, transcript_in_lock_order reached⟩

/-- The Builder's transaction starts first and gets the lock after the Analyst's. -/
def answeredBeforeAsked : List (LockTx.Action Local (RowOrder ChatMessage)) :=
  [.begin 0 100 (.sending (turn .admin 10) 100), .begin 1 110 (.sending (turn .analyst 11) 110),
    .exec 1 120 .inserted, .commit 1, .exec 0 130 .inserted, .commit 0]

/-- The question is the last message by lock and the first by its stamp. -/
theorem transcript_out_of_order :
    ¬ ∀ s, sending.Reachable s → TranscriptInLockOrder s := by
  intro all
  have crossed : (run chatProtocol (fun _ _ => True) (State.start newRoom 0) answeredBeforeAsked).any
      (fun s => decide (s.store.thread.deadlineAt ≠ none) &&
        (listMessages .inserted s.store.messages).getLast?.all fun m =>
          decide (m.senderRole = .analyst)) = true := by decide +kernel
  obtain ⟨s, ran, disagree⟩ := (Option.any_eq_true _ _).1 crossed
  have reached : sending.Reachable s := by
    refine (run_reach ?_ (newRoom_sending fun _ _ => True) ran).reachable
    intro t now k mem
    simp only [answeredBeforeAsked, List.mem_cons, Action.begin.injEq, reduceCtorEq,
      List.not_mem_nil, or_false] at mem
    rcases mem with ⟨rfl, rfl, rfl⟩ | ⟨rfl, rfl, rfl⟩ <;> exact ⟨_, rfl⟩
  rw [Bool.and_eq_true, decide_eq_true_eq, Option.all_eq_true] at disagree
  apply disagree.1
  apply ((all s reached).deadline .inserted).2
  intro m last
  exact of_decide_eq_true (disagree.2 m last)

end MeadowOps.Chat
