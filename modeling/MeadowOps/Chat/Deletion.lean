import MeadowOps.Chat.Transactions

/-!
# Deleting a thread while it is completed

`delete_thread` checks the status under the lock. A completion checks the deletion without it, and
writes the status long after.
-/

namespace MeadowOps.Chat

open Db Lib MeadowOps.Flow LockTx

/-- The deletions, sends and completions of a live open thread. -/
def closing : System (LockTx.State Room Row Local) (LockTx.Action Local (RowOrder ChatMessage)) :=
  system chatProtocol (fun now k => Deletes now k ∨ Sends now k ∨ Completes now k) fun room =>
    room.thread.status = .open ∧ room.thread.deletedAt = none ∧ room.evaluations = []

/-- No completed thread is deleted, and no evaluation belongs to a deleted thread. -/
structure NeverHidden (room : Room) : Prop where
  completed : room.thread.status = .completed → room.thread.deletedAt = none
  evaluations : ∀ e ∈ room.evaluations, e.threadId = room.thread.id → room.thread.deletedAt = none

/-- A completion commits on a thread that is not deleted. -/
def CompletesLive (room : Room) : Local → Prop
  | .graded _ => room.thread.deletedAt = none
  | _ => True

instance (room : Room) (k : Local) : Decidable (CompletesLive room k) :=
  match k with
  | .graded _ => inferInstanceAs (Decidable (room.thread.deletedAt = none))
  | .sending .. | .sendLocked .. | .completing .. | .threadRead .. | .messagesRead .. | .deleting ..
  | .deleteLocked .. | .marking | .stamped .. | .marked .. => .isTrue trivial

/-- A row that was read under the lock is the committed one. -/
def RowsCurrent (room : Room) (held : Row → Prop) : Local → Prop
  | .sendLocked _ _ row | .deleteLocked _ row => held .thread ∧ row = room.thread
  | .graded _ => held .thread
  | _ => True

/-- An evaluation is only there for a completed thread, and that one is live. -/
structure Graded (room : Room) : Prop where
  completed : room.evaluations ≠ [] → room.thread.status = .completed
  live : room.thread.status = .completed → room.thread.deletedAt = none

theorem Graded.neverHidden {room : Room} (h : Graded room) : NeverHidden room where
  completed := h.live
  evaluations _ mem _ := h.live (h.completed (List.ne_nil_of_mem mem))

theorem Graded.commit {room room' : Room} {held : Row → Prop} {k : Local} (graded : Graded room)
    (current : RowsCurrent room held k) (live : CompletesLive room k)
    (h : chatProtocol.commit k room = some room') : Graded room' := by
  cases committed_of_commit h with
  | @send call start row thread message sent fresh eq =>
    subst eq
    obtain ⟨-, rfl⟩ := current
    obtain ⟨isOpen, stays, -⟩ := sendMessage_ok sent
    constructor
    · intro some
      cases isOpen.symm.trans (graded.completed some)
    · intro completed
      cases stays.symm.trans completed
  | complete eq =>
    subst eq
    exact ⟨fun _ => rfl, fun _ => live⟩
  | @delete start row thread deleted eq =>
    subst eq
    obtain ⟨-, rfl⟩ := current
    obtain ⟨isOpen, -, rfl⟩ := deleteThread_ok deleted
    constructor
    · exact fun some => graded.completed some
    · intro completed
      cases isOpen.symm.trans completed
  | mark eq =>
    subst eq
    exact ⟨graded.completed, graded.live⟩

/-- For one commit the condition is exact. -/
theorem complete_neverHidden_iff {room room' : Room} {evaluation : Evaluation}
    (graded : Graded room) (h : chatProtocol.commit (.graded evaluation) room = some room') :
    NeverHidden room' ↔ CompletesLive room (.graded evaluation) := by
  constructor
  · intro never
    cases h
    exact never.completed rfl
  · intro live
    have holding : RowsCurrent room (fun _ => True) (.graded evaluation) := True.intro
    exact (graded.commit holding live h).neverHidden

theorem rowsCurrent_exec {room : Room} {held : Row → Prop} {now : Instant}
    {order : RowOrder ChatMessage} {k k' : Local} {locks : List Row}
    (ran : chatProtocol.exec now order k room = some (k', locks)) :
    RowsCurrent room (fun r => held r ∨ r ∈ locks) k' := by
  have ran' : execLocal now order k room = some (k', locks) := ran
  cases k with
  | sending call start | deleting start =>
    cases ran'
    exact ⟨.inr List.mem_cons_self, rfl⟩
  | completing call | threadRead call row | stamped clock seen =>
    cases ran'
    trivial
  | messagesRead call row messages =>
    simp only [execLocal] at ran'
    split at ran'
    · cases ran'
    · split at ran'
      · cases ran'
        exact .inr List.mem_cons_self
      · cases ran'
  | marking =>
    simp only [execLocal] at ran'
    split at ran'
    · cases ran'
    · cases ran'
      trivial
  | _ => cases ran'

/-- A commit of another transaction leaves the row of one that holds the lock. -/
theorem rowsCurrent_others {room room' : Room} {held held' : Row → Prop} {k k' : Local}
    (mine : RowsCurrent room held k) (h : chatProtocol.commit k room = some room')
    (apart : ∀ r, held r → ¬ held' r) (current : RowsCurrent room held' k') :
    RowsCurrent room' held' k' := by
  have same : held .thread → RowsCurrent room' held' k' := by
    intro own
    have free := apart .thread own
    cases k' with
    | sendLocked | deleteLocked => exact absurd current.1 free
    | graded => exact absurd current free
    | _ => trivial
  cases committed_of_commit h with
  | send | delete => exact same mine.1
  | complete => exact same mine
  | mark eq =>
    subst eq
    cases k' <;> exact current

/-- In every run whose completions commit on a live thread, no completed thread is hidden. -/
theorem completed_never_hidden {s : LockTx.State Room Row Local}
    (h : closing.Reach (CommitsMeet CompletesLive) s) : NeverHidden s.store := by
  have inv := LockTx.invariant (I := fun room _ => Graded room) (K := RowsCurrent)
    ?_ ?_ ?_ ?_ ?_ h
  · exact inv.1.neverHidden
  · rintro room ⟨isOpen, -, none⟩
    refine ⟨fun some => absurd none some, fun completed => ?_⟩
    cases isOpen.symm.trans completed
  · rintro room commits now k - (rfl | ⟨call, rfl⟩ | ⟨call, rfl⟩) <;> trivial
  · intro room commits held now order k k' locks _ _ ran
    exact rowsCurrent_exec ran
  · intro room commits held t k room' graded current live wrote
    exact graded.commit current live wrote
  · intro room commits held k room' held' k' _ mine _ wrote apart current
    exact rowsCurrent_others mine wrote apart current

/-! ## Two runs -/

/-- A thread in which the Analyst has answered. -/
def answeredRoom : Room :=
  ⟨⟨1, 2, .open, none, false, false, none⟩, [⟨10, 1, 7, .analyst, "the carrier", none, 0⟩], [],
    none, []⟩

theorem answeredRoom_closing (good : Room → Local → Prop) :
    closing.Reach (CommitsMeet good) (State.start answeredRoom 0) :=
  .start ⟨answeredRoom, 0, ⟨rfl, rfl, rfl⟩, rfl⟩

/-- A completion of a thread of an active scenario. -/
def praise : CompleteCall where
  scenario := some ⟨2, .dataQualityIssue, .communication, .standard, .manual, none, Dict.empty,
    .active, none, none⟩
  answer responses := some ⟨responses, "", "", "", "", "", "", ""⟩

/-- The thread is completed, and cannot be deleted any more. -/
def completedFirst : List (LockTx.Action Local (RowOrder ChatMessage)) :=
  [.begin 0 100 (.completing praise), .exec 0 110 .inserted, .exec 0 120 .inserted,
    .exec 0 130 .inserted, .commit 0]

/-- The completion comes first, and the thread stays visible. -/
theorem completed_never_hidden_completedFirst :
    ∃ s, closing.Reach (CommitsMeet CompletesLive) s ∧ s.store.thread.status = .completed ∧
      NeverHidden s.store := by
  have ends : (run chatProtocol CompletesLive (State.start answeredRoom 0) completedFirst).any
      (fun s => s.store.thread.status = .completed) = true := by decide +kernel
  obtain ⟨s, ran, completed⟩ := (Option.any_eq_true _ _).1 ends
  have reached : closing.Reach (CommitsMeet CompletesLive) s := by
    refine run_reach ?_ (answeredRoom_closing CompletesLive) ran
    intro t now k mem
    simp only [completedFirst, List.mem_cons, Action.begin.injEq, reduceCtorEq, List.not_mem_nil,
      or_false] at mem
    obtain ⟨rfl, rfl, rfl⟩ := mem
    exact .inr (.inr ⟨_, rfl⟩)
  exact ⟨s, reached, of_decide_eq_true completed, completed_never_hidden reached⟩

/-- The thread is deleted while the completion waits for the client. -/
def deletedWhileGraded : List (LockTx.Action Local (RowOrder ChatMessage)) :=
  [.begin 0 100 (.completing praise), .exec 0 110 .inserted, .exec 0 120 .inserted,
    .begin 1 200 (.deleting 200), .exec 1 210 .inserted, .commit 1, .exec 0 300 .inserted, .commit 0]

/-- The thread is completed after its deletion. -/
theorem completed_hidden : ¬ ∀ s, closing.Reachable s → NeverHidden s.store := by
  intro never
  have hidden : (run chatProtocol (fun _ _ => True) (State.start answeredRoom 0)
      deletedWhileGraded).any (fun s =>
        decide (s.store.thread.status = .completed ∧ s.store.thread.deletedAt = some 200)) = true := by
    decide +kernel
  obtain ⟨s, ran, both⟩ := (Option.any_eq_true _ _).1 hidden
  have reached : closing.Reachable s := by
    refine (run_reach ?_ (answeredRoom_closing fun _ _ => True) ran).reachable
    intro t now k mem
    simp only [deletedWhileGraded, List.mem_cons, Action.begin.injEq, reduceCtorEq, List.not_mem_nil,
      or_false, false_or] at mem
    rcases mem with ⟨rfl, rfl, rfl⟩ | ⟨rfl, rfl, rfl⟩
    · exact .inr (.inr ⟨_, rfl⟩)
    · exact .inl rfl
  obtain ⟨completed, deleted⟩ := of_decide_eq_true both
  have live := (never s reached).completed completed
  rw [deleted] at live
  cases live

end MeadowOps.Chat
