import MeadowOps.Chat.Thread
import MeadowOps.Lib.Runs

/-!
# Sending and completing at the same time

Transactions on one thread under READ COMMITTED. A send locks the row of the thread before it reads
it. A completion reads the thread and the messages without a lock, waits for the client, and takes
the lock when it is flushed: the INSERT of the evaluation and the UPDATE of the thread both need it.
`evaluation.thread_id` is unique.
-/

namespace MeadowOps.Chat

open Db Lib MeadowOps.Flow

inductive Call where
  | send (call : SendCall)
  | complete (call : CompleteCall)

/-- Where a transaction stands. -/
inductive Phase where
  | idle
  | begun (call : Call) (now : Instant)
  /-- A send that holds the lock, with the row it read. -/
  | locked (call : SendCall) (now : Instant) (thread : ChatThread)
  | readThread (call : CompleteCall) (thread : ChatThread)
  | readMessages (call : CompleteCall) (thread : ChatThread) (messages : List ChatMessage)
  /-- A completion that holds the lock. -/
  | flushed (evaluation : Evaluation)
  | done

structure State where
  thread : ChatThread
  messages : List ChatMessage
  evaluations : List Evaluation
  lock : Option ℕ
  phase : ℕ → Phase

inductive Action where
  | begin (t : ℕ) (call : Call) (now : Instant)
  | lock (t : ℕ)
  | readThread (t : ℕ)
  | readMessages (t : ℕ) (order : RowOrder ChatMessage)
  | flush (t : ℕ)
  | commit (t : ℕ)
  | rollback (t : ℕ)

def State.setPhase (s : State) (t : ℕ) (p : Phase) : State :=
  { s with phase := Function.update s.phase t p }

/-- A transaction ends, and its lock is released. -/
def State.finish (s : State) (t : ℕ) : State :=
  { s.setPhase t .done with lock := if s.lock = some t then none else s.lock }

def step (s : State) : Action → Option State
  | .begin t call now =>
    match s.phase t with
    | .idle => some (s.setPhase t (.begun call now))
    | _ => none
  | .lock t =>
    match s.phase t with
    | .begun (.send call) now =>
      if s.lock = none then some { s.setPhase t (.locked call now s.thread) with lock := some t }
      else none
    | _ => none
  | .readThread t =>
    match s.phase t with
    | .begun (.complete call) _ => some (s.setPhase t (.readThread call s.thread))
    | _ => none
  | .readMessages t order =>
    match s.phase t with
    | .readThread call thread =>
      some (s.setPhase t (.readMessages call thread (listMessages order s.messages)))
    | _ => none
  | .flush t =>
    match s.phase t with
    | .readMessages call thread messages =>
      match completeThreadAndGenerateEvaluation call thread messages with
      | .error _ => none
      | .ok evaluation =>
        if s.lock = none ∧ s.evaluations.all (·.threadId ≠ evaluation.threadId) then
          some { s.setPhase t (.flushed evaluation) with lock := some t }
        else none
    | _ => none
  | .commit t =>
    match s.phase t with
    | .locked call now thread =>
      match sendMessage call now thread with
      | .error _ => none
      | .ok (message, thread') =>
        (insert? (·.id) message s.messages).map fun messages =>
          { s.finish t with thread := thread', messages := messages }
    | .flushed evaluation => some
        { s.finish t with
          thread := { s.thread with status := .completed }
          evaluations := s.evaluations ++ [evaluation] }
    | _ => none
  | .rollback t =>
    match s.phase t with
    | .idle | .done => none
    | _ => some (s.finish t)

/-- A thread that is open, with any messages. -/
structure Fresh (s : State) : Prop where
  isOpen : s.thread.status = .open
  keyed : Keyed (·.id) s.messages
  evaluations : s.evaluations = []
  lock : s.lock = none
  idle : ∀ t, s.phase t = .idle

/-- The interleavings of sends and completions. -/
def chat : System State Action where
  init := Fresh
  step s a s' := step s a = some s'

/-- The evaluation of a completed thread covers the thread: the messages it was built from, in the
order of the transcript, are all there are; the last one is the Analyst's; and the client was sent
the responses of all of them. -/
def Covered (s : State) : Prop :=
  s.thread.status = .completed → ∃ evaluation, s.evaluations = [evaluation] ∧
    evaluation.threadId = s.thread.id ∧ evaluation.builtFrom.Perm s.messages ∧
    (evaluation.builtFrom.Pairwise fun m n => m.sentAt ≤ n.sentAt) ∧
    (∃ m, evaluation.builtFrom.getLast? = some m ∧ m.senderRole = .analyst) ∧
    evaluation.analystResponses = analystResponsesText evaluation.builtFrom

/-- A completion that commits has read every message that is committed by then. -/
def NothingMissed (s : State) (a : Action) : Prop :=
  ∀ t evaluation, a = .commit t → s.phase t = .flushed evaluation →
    s.messages ⊆ evaluation.builtFrom

/-- `NothingMissed`, computed. -/
def missesNothing (s : State) : Action → Bool
  | .commit t =>
    match s.phase t with
    | .flushed evaluation => s.messages.all fun m => decide (m ∈ evaluation.builtFrom)
    | _ => true
  | _ => true

theorem nothingMissed_iff {s : State} {a : Action} :
    NothingMissed s a ↔ missesNothing s a = true := by
  cases a with
  | commit t =>
    cases phase : s.phase t with
    | flushed evaluation =>
      simp only [missesNothing, phase, List.all_eq_true, decide_eq_true_eq]
      constructor
      · intro meets m mem
        exact meets t evaluation rfl phase mem
      · rintro all _ _ same held m mem
        cases same
        cases phase.symm.trans held
        exact all m mem
    | _ =>
      refine ⟨fun _ => by simp [missesNothing, phase], ?_⟩
      intro _ u evaluation same held
      cases same
      cases phase.symm.trans held
  | _ => simp [NothingMissed, missesNothing]

instance (s : State) (a : Action) : Decidable (NothingMissed s a) :=
  decidable_of_iff _ nothingMissed_iff.symm

/-! ## The invariant -/

/-- What a list of messages that was read has in common with the thread from then on. -/
structure Transcript (read messages : List ChatMessage) : Prop where
  nodup : read.Nodup
  subset : read ⊆ messages
  sorted : read.Pairwise fun m n => m.sentAt ≤ n.sentAt

/-- An evaluation that is ready to be committed. -/
structure Ready (s : State) (evaluation : Evaluation) : Prop where
  thread : evaluation.threadId = s.thread.id
  none : s.evaluations = []
  transcript : Transcript evaluation.builtFrom s.messages
  latest : ∃ m, evaluation.builtFrom.getLast? = some m ∧ m.senderRole = .analyst
  responses : evaluation.analystResponses = analystResponsesText evaluation.builtFrom

/-- What holds of one transaction. -/
def PhaseInv (s : State) (t : ℕ) : Phase → Prop
  | .locked _ _ thread => s.lock = some t ∧ thread = s.thread
  | .readThread _ thread => thread.id = s.thread.id
  | .readMessages _ thread messages => thread.id = s.thread.id ∧ Transcript messages s.messages
  | .flushed evaluation => s.lock = some t ∧ Ready s evaluation
  | _ => True

structure Inv (s : State) : Prop where
  keyed : Keyed (·.id) s.messages
  threads : ∀ e ∈ s.evaluations, e.threadId = s.thread.id
  phases : ∀ t, PhaseInv s t (s.phase t)
  covered : Covered s

theorem Transcript.grow {read messages messages' : List ChatMessage} (h : Transcript read messages)
    (sub : messages ⊆ messages') : Transcript read messages' :=
  { h with subset := fun _ mem => sub (h.subset mem) }

/-- What holds of a transaction is kept by the others: the thread keeps its id, messages are only
added, and nothing else moves under a transaction that holds the lock. -/
theorem PhaseInv.transport {s s' : State} {u : ℕ} {p : Phase} (h : PhaseInv s u p)
    (id : s'.thread.id = s.thread.id) (sub : s.messages ⊆ s'.messages)
    (held : s.lock = some u → s'.lock = some u ∧ s'.thread = s.thread ∧
      s'.evaluations = s.evaluations) : PhaseInv s' u p := by
  cases p with
  | idle => trivial
  | begun call now => trivial
  | locked call now thread =>
    obtain ⟨lock, same⟩ := h
    obtain ⟨lock', thread', _⟩ := held lock
    exact ⟨lock', by rw [thread', same]⟩
  | readThread call thread =>
    have same : thread.id = s.thread.id := h
    exact same.trans id.symm
  | readMessages call thread messages => exact ⟨h.1.trans id.symm, h.2.grow sub⟩
  | flushed evaluation =>
    obtain ⟨lock, ready⟩ := h
    obtain ⟨lock', _, evaluations⟩ := held lock
    exact ⟨lock', ready.thread.trans id.symm, evaluations.trans ready.none,
      ready.transcript.grow sub, ready.latest, ready.responses⟩
  | done => trivial

/-- A step of transaction `t` that leaves the committed rows as they are. -/
theorem Inv.of_phase {s s' : State} (inv : Inv s) {t : ℕ} {p : Phase}
    (thread : s'.thread = s.thread) (messages : s'.messages = s.messages)
    (evaluations : s'.evaluations = s.evaluations) (phase : s'.phase = Function.update s.phase t p)
    (lock : ∀ u, u ≠ t → s.lock = some u → s'.lock = some u) (here : PhaseInv s' t p) : Inv s' where
  keyed := by
    rw [messages]
    exact inv.keyed
  threads := by
    rw [evaluations, thread]
    exact inv.threads
  phases := by
    intro u
    rw [phase]
    by_cases hu : u = t
    · subst hu
      rw [Function.update_self]
      exact here
    · rw [Function.update_of_ne hu]
      apply (inv.phases u).transport (by rw [thread]) (by rw [messages]; exact fun _ h => h)
      intro held
      exact ⟨lock u hu held, thread, evaluations⟩
  covered := by
    unfold Covered
    rw [thread, messages, evaluations]
    exact inv.covered

/-- A commit of the transaction that holds the lock: the others only see more messages. -/
theorem phases_after_commit {s s' : State} (inv : Inv s) {t : ℕ} (holds : s.lock = some t)
    (id : s'.thread.id = s.thread.id) (sub : s.messages ⊆ s'.messages)
    (phase : s'.phase = Function.update s.phase t .done) : ∀ u, PhaseInv s' u (s'.phase u) := by
  intro u
  rw [phase]
  by_cases hu : u = t
  · subst hu
    rw [Function.update_self]
    trivial
  · rw [Function.update_of_ne hu]
    apply (inv.phases u).transport id sub
    intro held
    rw [holds, Option.some.injEq] at held
    exact absurd held.symm hu

theorem inv_start {s : State} (h : Fresh s) : Inv s where
  keyed := h.keyed
  threads := by simp [h.evaluations]
  phases := by
    intro t
    rw [h.idle t]
    trivial
  covered := by
    intro completed
    rw [h.isOpen] at completed
    cases completed

/-- A send: the thread is open and stays open. -/
theorem inv_send {s : State} (inv : Inv s) {t : ℕ} {call : SendCall} {now : Instant}
    {thread thread' : ChatThread} {message : ChatMessage} {messages : List ChatMessage}
    (phase : s.phase t = .locked call now thread)
    (sent : sendMessage call now thread = .ok (message, thread'))
    (inserted : insert? (·.id) message s.messages = some messages) :
    Inv { s.finish t with thread := thread', messages := messages } := by
  have here := inv.phases t
  rw [phase] at here
  obtain ⟨holds, rfl⟩ := here
  obtain ⟨_, isOpen, id, _⟩ := sendMessage_ok sent
  obtain ⟨rfl, fresh⟩ := insert?_eq_some inserted
  constructor
  case keyed => exact inv.keyed.append fresh
  case threads =>
    intro e he
    exact (inv.threads e he).trans id.symm
  case phases =>
    exact phases_after_commit inv holds id (List.subset_append_left _ _) rfl
  case covered =>
    intro completed
    cases isOpen.symm.trans completed

/-- A completion that has missed nothing. -/
theorem inv_complete {s : State} (inv : Inv s) {t : ℕ} {evaluation : Evaluation}
    (phase : s.phase t = .flushed evaluation) (nothing : s.messages ⊆ evaluation.builtFrom) :
    Inv { s.finish t with
      thread := { s.thread with status := .completed }
      evaluations := s.evaluations ++ [evaluation] } := by
  have here := inv.phases t
  rw [phase] at here
  obtain ⟨holds, ready⟩ := here
  have perm : evaluation.builtFrom.Perm s.messages := by
    apply (List.perm_ext_iff_of_nodup ready.transcript.nodup (List.Nodup.of_map _ inv.keyed)).2
    intro m
    exact ⟨fun mem => ready.transcript.subset mem, fun mem => nothing mem⟩
  constructor
  case keyed => exact inv.keyed
  case threads =>
    intro e he
    rw [ready.none, List.nil_append, List.mem_singleton] at he
    rw [he]
    exact ready.thread
  case phases => exact phases_after_commit inv holds rfl (fun _ mem => mem) rfl
  case covered =>
    intro _
    refine ⟨evaluation, ?_, ready.thread, perm, ready.transcript.sorted, ready.latest,
      ready.responses⟩
    rw [ready.none]
    rfl

/-- For one completion the condition is exact. -/
theorem complete_covered_iff {s : State} (inv : Inv s) {t : ℕ} {evaluation : Evaluation}
    (phase : s.phase t = .flushed evaluation) :
    Covered { s.finish t with
      thread := { s.thread with status := .completed }
      evaluations := s.evaluations ++ [evaluation] } ↔ s.messages ⊆ evaluation.builtFrom := by
  constructor
  · intro covered
    have here := inv.phases t
    rw [phase] at here
    obtain ⟨_, ready⟩ := here
    obtain ⟨only, same, _, perm, _⟩ := covered rfl
    rw [ready.none, List.nil_append, List.singleton_inj] at same
    rw [same]
    exact perm.symm.subset
  · intro nothing
    exact (inv_complete inv phase nothing).covered

/-- A turn keeps the evaluations covering the thread, as long as no completion misses a message. -/
theorem inv_step {s s' : State} {a : Action} (inv : Inv s) (meets : NothingMissed s a)
    (h : step s a = some s') : Inv s' := by
  cases a with
  | begin t call now =>
    simp only [step] at h
    split at h
    · cases h
      exact inv.of_phase rfl rfl rfl rfl (fun _ _ held => held) trivial
    · cases h
  | lock t =>
    simp only [step] at h
    split at h
    · split at h
      · rename_i free
        cases h
        refine inv.of_phase rfl rfl rfl rfl ?_ ⟨rfl, rfl⟩
        intro u _ held
        rw [free] at held
        cases held
      · cases h
    · cases h
  | readThread t =>
    simp only [step] at h
    split at h
    · cases h
      exact inv.of_phase rfl rfl rfl rfl (fun _ _ held => held) rfl
    · cases h
  | readMessages t order =>
    simp only [step] at h
    split at h
    · rename_i call thread phase
      cases h
      have here := inv.phases t
      rw [phase] at here
      have perm := listMessages_perm order s.messages
      refine inv.of_phase rfl rfl rfl rfl (fun _ _ held => held) ⟨here, ?_⟩
      exact ⟨perm.nodup_iff.2 (List.Nodup.of_map _ inv.keyed), perm.subset,
        listMessages_sorted order s.messages⟩
    · cases h
  | flush t =>
    simp only [step] at h
    split at h
    · rename_i call thread messages phase
      have here := inv.phases t
      rw [phase] at here
      split at h
      · cases h
      · rename_i evaluation completed
        obtain ⟨threadId, built, responses, latest⟩ := complete_ok completed
        split at h
        · rename_i free
          cases h
          -- the unique index: no evaluation of this thread is committed
          have none : s.evaluations = [] := by
            rw [List.eq_nil_iff_forall_not_mem]
            intro e he
            have other := List.all_eq_true.1 free.2 e he
            rw [inv.threads e he, threadId, here.1] at other
            simp at other
          refine inv.of_phase rfl rfl rfl rfl ?_ ⟨rfl, threadId.trans here.1, none, ?_, ?_, ?_⟩
          · intro u _ held
            rw [free.1] at held
            cases held
          · rw [built]
            exact here.2
          · rw [built]
            exact latest
          · rw [built]
            exact responses
        · cases h
    · cases h
  | commit t =>
    simp only [step] at h
    split at h
    · rename_i call now thread phase
      split at h
      · cases h
      · rename_i message thread' sent
        obtain ⟨messages, inserted, rfl⟩ := Option.map_eq_some_iff.1 h
        exact inv_send inv phase sent inserted
    · rename_i evaluation phase
      cases h
      exact inv_complete inv phase (meets t evaluation rfl phase)
    · cases h
  | rollback t =>
    have ended : Inv (s.finish t) := by
      refine inv.of_phase rfl rfl rfl rfl ?_ trivial
      intro u hu held
      simp only [State.finish, held, Option.some.injEq, hu, if_false]
    simp only [step] at h
    split at h
    · cases h
    · cases h
    · cases h
      exact ended

/-- In every run in which no completion misses a message, the evaluation of a completed thread
covers the whole thread. -/
theorem evaluation_covers_thread {s : State} (h : chat.Reach NothingMissed s) : Covered s := by
  have inv : Inv s := by
    apply h.invariant (I := Inv)
    · intro s fresh
      exact inv_start fresh
    · intro s a s' _ inv meets moved
      exact inv_step inv meets moved
  exact inv.covered

/-- An open thread without messages. -/
def openThread : State where
  thread := ⟨1, 2, .open, none, false, false, none⟩
  messages := []
  evaluations := []
  lock := none
  phase _ := .idle

theorem openThread_fresh : Fresh openThread := ⟨rfl, List.nodup_nil, rfl, rfl, fun _ => rfl⟩

/-- A message of the Analyst, with its number for an id. -/
def reply (number : ℕ) (body : String) : Call :=
  .send ⟨7, .analyst, body, 4, none, fun _ => none, number, 0⟩

/-- A completion whose client praises what it is sent. -/
def completion : Call := .complete
  { scenario := some ⟨2, .dataQualityIssue, .communication, .standard, .manual, none, Dict.empty,
      .active, none, none⟩
    answer := fun responses => some ⟨responses, "", "", "", "", "", "", ""⟩ }

/-- The Analyst answers, and then the thread is completed. -/
def answeredThenCompleted : List Action :=
  [.begin 0 (reply 10 "the carrier") 100, .lock 0, .commit 0, .begin 1 completion 200,
    .readThread 1, .readMessages 1 RowOrder.inserted, .flush 1, .commit 1]

/-- The evaluation is built from the one answer. -/
theorem evaluation_covers_thread_answered : ∃ s, chat.Reach NothingMissed s ∧
    s.thread.status = .completed ∧ Covered s := by
  have completed : (answeredThenCompleted.foldlM (fun s a =>
      if NothingMissed s a then step s a else none) openThread).any
        (fun s => s.thread.status = .completed) = true := by decide +kernel
  obtain ⟨s, ran, status⟩ := (Option.any_eq_true _ _).1 completed
  have reached : chat.Reach NothingMissed s :=
    (System.Reach.start openThread_fresh).checked (f := step) (fun _ _ _ moved => moved) ran
  exact ⟨s, reached, of_decide_eq_true status, evaluation_covers_thread reached⟩

/-- The Analyst sends a second message after the completion has read the first. -/
def answeredWhileCompleting : List Action :=
  [.begin 0 (reply 10 "the carrier") 100, .lock 0, .commit 0, .begin 1 completion 200,
    .readThread 1, .readMessages 1 RowOrder.inserted, .begin 2 (reply 11 "no, the supplier") 300,
    .lock 2, .commit 2, .flush 1, .commit 1]

/-- The second message is part of the completed thread and not of its evaluation. -/
theorem evaluation_misses_reply : ¬ ∀ s, chat.Reachable s → Covered s := by
  intro all
  have missed : (answeredWhileCompleting.foldlM step openThread).any (fun s =>
      decide (s.thread.status = .completed ∧ s.messages.length = 2) &&
        s.evaluations.all fun e => e.builtFrom.length = 1) = true := by decide +kernel
  obtain ⟨s, ran, short⟩ := (Option.any_eq_true _ _).1 missed
  have reached : chat.Reachable s :=
    (System.Reach.start openThread_fresh).checked (f := step) (fun _ _ _ moved => moved)
      (by simpa using ran)
  rw [Bool.and_eq_true, decide_eq_true_iff] at short
  obtain ⟨evaluation, only, _, perm, _⟩ := all s reached short.1.1
  rw [only] at short
  have length := perm.length_eq
  have one : evaluation.builtFrom.length = 1 := by simpa using short.2
  omega

end MeadowOps.Chat
