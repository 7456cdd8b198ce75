import MeadowOps.Frontend.Inbox
import MeadowOps.Lib.Follower
import Mathlib.Data.List.Infix

/-!
# The open inbox shows the server's transcript

Between a selection and the answer to its request the array is out of date, whatever it holds; from then on it
follows the transcript. What arrives either keeps it so, or comes while another request for the selected thread is
under way.
-/

namespace MeadowOps.Frontend

open Lib Db Chat MeadowOps.Flow

/-- The messages whose frames are on their way. -/
def undelivered (frames : List ChatSocketFrame) : List ChatMessage :=
  frames.filterMap fun
    | .message m => some m
    | .threadDeleted => none

namespace InboxRun

/-- No request or frame is in flight. -/
structure Quiet (s : InboxRun) : Prop where
  frames : ∀ t, s.frames t = []
  fetches : s.fetches = []
  sends : s.sends = []
  deletes : s.deletes = []
  creates : s.creates = []

/-- A request for the messages of the selected thread is under way. -/
def Loading (selectedId : Option Uuid) (fetches : List (ThreadRequest (List ChatMessage))) : Prop :=
  selectedId ∈ fetches.map fun f => some f.threadId

/-- What arrives leaves the view up to date, or is replaced by an answer to come. -/
def Timely (s : InboxRun) : InboxEvent → Prop
  | .serveSend _ m | .otherSend m => ∀ n ∈ s.transcript m.threadId, n.sentAt < m.sentAt
  | .fetched i => Loading s.ui.selectedId (s.fetches.eraseIdx i) ∨
    ∀ f ∈ s.fetches[i]?, s.ui.selectedId = some f.threadId ∧ ∀ history ∈ f.answer,
      ∀ m ∈ s.transcript f.threadId, m ∈ history ∨ m ∈ undelivered (s.frames f.threadId)
  | .sent i => Loading s.ui.selectedId s.fetches ∨
    ∀ x ∈ s.sends[i]?, s.ui.selectedId = some x.threadId ∧ ∀ m ∈ x.answer,
      ∀ n ∈ s.transcript x.threadId, n.sentAt < m.sentAt → inboxMessage n ∈ s.ui.messages
  | _ => True

end InboxRun

/-- The array is the server's list of the selected thread. -/
structure ShowsTranscript (s : InboxRun) : Prop where
  none : s.ui.selectedId = none → s.ui.messages = []
  listed : ∀ t, s.ui.selectedId = some t → ∀ order,
    s.ui.messages = (listMessages order (s.transcript t)).map inboxMessage
  once : (s.ui.messages.map (·.id)).Nodup
  own : ∀ m ∈ s.ui.messages, s.ui.selectedId = some m.threadId

/-! ## The invariant -/

open InboxRun

/-- The view is up to date but for what is on its way. -/
inductive Current (ui : Inbox) (transcript : Uuid → List ChatMessage) (frames : Uuid → List ChatSocketFrame) : Prop
  | nothing (none : ui.selectedId = none) (empty : ui.messages = [])
  | following {t : Uuid} {shown : List ChatMessage} (selected : ui.selectedId = some t)
    (follows : Follows (transcript t) (undelivered (frames t)) shown)
    (messages : ui.messages = shown.map inboxMessage)

structure InboxInv (s : InboxRun) : Prop where
  transcripts : Transcripts s.transcript
  waiting : ∀ t, undelivered (s.frames t) <:+ s.transcript t
  fetched : ∀ f ∈ s.fetches, ∀ history, f.answer = some history → history <+: s.transcript f.threadId
  sent : ∀ x ∈ s.sends, ∀ m, x.answer = some m → m ∈ s.transcript x.threadId
  view : Current s.ui s.transcript s.frames ∨ Loading s.ui.selectedId s.fetches

variable {component : InboxComponent} {s s' : InboxRun}

theorem Transcripts.nodup {transcript : Uuid → List ChatMessage} (h : Transcripts transcript) (t : Uuid) :
    (transcript t).Nodup := (h.keyed t).of_map

theorem undelivered_append (frames frames' : List ChatSocketFrame) :
    undelivered (frames ++ frames') = undelivered frames ++ undelivered frames' := List.filterMap_append ..

/-- Appending by id is adding to what is shown. -/
theorem appendMessage_map {transcript : Uuid → List ChatMessage} (h : Transcripts transcript) {t : Uuid}
    {shown : List ChatMessage} (beginning : shown <+: transcript t) {m : ChatMessage} (mem : m ∈ transcript t) :
    appendMessage (inboxMessage m) (shown.map inboxMessage) = (addOnce m shown).map inboxMessage := by
  have same : (shown.map inboxMessage).any (fun n => n.id = (inboxMessage m).id) = true ↔ m ∈ shown := by
    rw [List.any_map, List.any_eq_true]
    constructor
    · rintro ⟨n, here, id⟩
      have id : n.id = m.id := of_decide_eq_true id
      rwa [← List.inj_on_of_nodup_map (h.keyed t) (beginning.subset here) mem id]
    · exact fun here => ⟨m, here, decide_eq_true rfl⟩
  unfold appendMessage addOnce
  by_cases here : m ∈ shown
  · rw [if_pos here, if_pos (same.2 here)]
  · rw [if_neg here, if_neg (fun any => here (same.1 any)), List.map_append]
    rfl

/-- The ids of the threads that a request asks for stay when one is answered. -/
theorem loading_set {selectedId : Option Uuid} {fetches : List (ThreadRequest (List ChatMessage))} {i : ℕ}
    {f : ThreadRequest (List ChatMessage)} (here : fetches[i]? = some f) (answer : Option (List ChatMessage))
    (h : Loading selectedId fetches) : Loading selectedId (fetches.set i ⟨f.threadId, answer⟩) := by
  obtain ⟨lt, rfl⟩ := List.getElem?_eq_some_iff.1 here
  have within : i < (fetches.map fun f => some f.threadId).length := by simpa using lt
  have same : some fetches[i].threadId = (fetches.map fun f => some f.threadId)[i] := by simp
  unfold Loading
  rw [List.map_set, same, List.set_getElem_self]
  exact h

/-! ## The events -/

/-- An event that leaves the inbox, the transcripts and the frames as they are. -/
theorem InboxInv.unseen (h : InboxInv s) (ui : s'.ui = s.ui) (transcript : s'.transcript = s.transcript)
    (frames : s'.frames = s.frames)
    (fetched : ∀ f ∈ s'.fetches, ∀ history, f.answer = some history → history <+: s.transcript f.threadId)
    (sent : ∀ x ∈ s'.sends, ∀ m, x.answer = some m → m ∈ s.transcript x.threadId)
    (loading : Loading s.ui.selectedId s.fetches → Loading s.ui.selectedId s'.fetches) : InboxInv s' := by
  constructor
  case transcripts =>
    rw [transcript]
    exact h.transcripts
  case waiting =>
    rw [transcript, frames]
    exact h.waiting
  case fetched =>
    rw [transcript]
    exact fetched
  case sent =>
    rw [transcript]
    exact sent
  case view =>
    rw [ui, transcript, frames]
    exact h.view.imp_right loading

/-- A message is committed. -/
theorem InboxInv.commitMessage (h : InboxInv s) {m : ChatMessage} (accepts : s.accepts m)
    (last : ∀ n ∈ s.transcript m.threadId, n.sentAt < m.sentAt) : InboxInv (s.commitMessage m) := by
  have grown : ∀ t, s.transcript t <+: (s.commitMessage m).transcript t := by
    intro t
    show s.transcript t <+: Function.update s.transcript m.threadId _ t
    by_cases here : t = m.threadId
    · subst here
      rw [Function.update_self]
      exact List.prefix_append _ _
    · rw [Function.update_of_ne here]
  constructor
  case transcripts =>
    constructor
    case own =>
      intro t n mem
      by_cases here : t = m.threadId
      · subst here
        simp only [InboxRun.commitMessage, Function.update_self, List.mem_append, List.mem_singleton] at mem
        rcases mem with old | rfl
        · exact h.transcripts.own _ n old
        · rfl
      · simp only [InboxRun.commitMessage, Function.update_of_ne here] at mem
        exact h.transcripts.own t n mem
    case keyed =>
      intro t
      by_cases here : t = m.threadId
      · subst here
        simp only [InboxRun.commitMessage, Function.update_self, List.map_append]
        refine List.nodup_append.2 ⟨h.transcripts.keyed _, List.nodup_singleton _, ?_⟩
        intro a mem b single same
        rw [List.mem_singleton.1 single] at same
        have same : a = m.id := same
        exact accepts.2 (same ▸ mem)
      · simp only [InboxRun.commitMessage, Function.update_of_ne here]
        exact h.transcripts.keyed t
    case increasing =>
      intro t
      by_cases here : t = m.threadId
      · subst here
        simp only [InboxRun.commitMessage, Function.update_self]
        refine List.pairwise_append.2 ⟨h.transcripts.increasing _, List.pairwise_singleton _ _, ?_⟩
        intro n mem b single
        rw [List.mem_singleton.1 single]
        exact last n mem
      · simp only [InboxRun.commitMessage, Function.update_of_ne here]
        exact h.transcripts.increasing t
  case waiting =>
    intro t
    by_cases here : t = m.threadId
    · subst here
      simp only [InboxRun.commitMessage, Function.update_self, undelivered_append]
      obtain ⟨before, split⟩ := h.waiting m.threadId
      exact ⟨before, by rw [← split, List.append_assoc]; rfl⟩
    · simp only [InboxRun.commitMessage, Function.update_of_ne here]
      exact h.waiting t
  case fetched => exact fun f mem history answer => (h.fetched f mem history answer).trans (grown _)
  case sent => exact fun x mem n answer => (grown _).subset (h.sent x mem n answer)
  case view =>
    refine h.view.imp_left fun current => ?_
    cases current with
    | nothing none empty => exact .nothing none empty
    | @following t shown selected follows messages =>
      refine .following selected ?_ messages
      by_cases here : t = m.threadId
      · subst here
        simp only [InboxRun.commitMessage, Function.update_self, undelivered_append]
        exact follows.push m
      · simp only [InboxRun.commitMessage, Function.update_of_ne here]
        exact follows

/-- A deletion changes neither the transcripts nor the messages on their way. -/
theorem InboxInv.commitDeletion (h : InboxInv s) (threadId : Uuid) : InboxInv (s.commitDeletion threadId) := by
  have same : ∀ t, undelivered ((s.commitDeletion threadId).frames t) = undelivered (s.frames t) := by
    intro t
    by_cases here : t = threadId
    · subst here
      simp only [InboxRun.commitDeletion, Function.update_self, undelivered_append]
      exact List.append_nil _
    · simp only [InboxRun.commitDeletion, Function.update_of_ne here]
  constructor
  case transcripts => exact h.transcripts
  case waiting =>
    intro t
    rw [same]
    exact h.waiting t
  case fetched => exact h.fetched
  case sent => exact h.sent
  case view =>
    refine h.view.imp_left fun current => ?_
    cases current with
    | nothing none empty => exact .nothing none empty
    | following selected follows messages =>
      refine .following selected ?_ messages
      rw [same]
      exact follows

theorem current_removeThread {ui : Inbox} {transcript : Uuid → List ChatMessage}
    {frames : Uuid → List ChatSocketFrame} {fetches : List (ThreadRequest (List ChatMessage))} (threadId : Uuid)
    (h : Current ui transcript frames ∨ Loading ui.selectedId fetches) :
    Current (removeThread threadId ui) transcript frames ∨ Loading (removeThread threadId ui).selectedId fetches := by
  unfold removeThread
  split
  · exact .inl (.nothing rfl rfl)
  · exact h

theorem InboxInv.selectThread (h : InboxInv s) (threadId : Uuid) : InboxInv (s.selectThread threadId) := by
  refine ⟨h.transcripts, h.waiting, fun f mem history answer => ?_, h.sent, .inr ?_⟩
  · rcases List.mem_append.1 mem with old | new
    · exact h.fetched f old history answer
    · rw [List.mem_singleton.1 new] at answer
      cases answer
  · show some threadId ∈ List.map (fun f : ThreadRequest (List ChatMessage) => some f.threadId)
      (s.fetches ++ [⟨threadId, none⟩])
    rw [List.map_append]
    exact List.mem_append_right _ (List.mem_singleton_self _)

/-- The messages of a thread arrive. -/
theorem InboxInv.fetched' (h : InboxInv s) {i : ℕ} {threadId : Uuid} {history : List ChatMessage}
    (here : s.fetches[i]? = some ⟨threadId, some history⟩) (timely : Timely s (.fetched i)) :
    InboxInv { s with
      ui := { s.ui with messages := history.map inboxMessage }
      fetches := s.fetches.eraseIdx i } := by
  refine ⟨h.transcripts, h.waiting, fun f mem => h.fetched f ((List.eraseIdx_subset) mem), h.sent, ?_⟩
  rcases timely with loading | fresh
  · exact .inr loading
  · obtain ⟨selected, complete⟩ := fresh _ here
    have copy := h.fetched _ (List.mem_of_getElem? here) history rfl
    exact .inl (.following selected
      (.snapshot (h.transcripts.nodup _) (h.waiting _) copy (complete history rfl)) rfl)

/-- The answer to a send arrives. -/
theorem InboxInv.sent' (h : InboxInv s) {i : ℕ} {threadId : Uuid} {m : ChatMessage}
    (here : s.sends[i]? = some ⟨threadId, some m⟩) (timely : Timely s (.sent i)) :
    InboxInv { s with
      ui := { s.ui with messages := appendMessage (inboxMessage m) s.ui.messages }
      sends := s.sends.eraseIdx i } := by
  refine ⟨h.transcripts, h.waiting, h.fetched, fun x mem => h.sent x (List.eraseIdx_subset mem), ?_⟩
  rcases timely with loading | next
  · exact .inr loading
  · obtain ⟨selected, before⟩ := next _ here
    have mem := h.sent _ (List.mem_of_getElem? here) m rfl
    rcases h.view with current | loading
    · cases current with
      | nothing none empty => cases selected.symm.trans none
      | @following t shown selected' follows messages =>
        obtain rfl : t = threadId := Option.some.inj (selected'.symm.trans selected)
        have heard : Follows (s.transcript t) (undelivered (s.frames t)) (addOnce m shown) := by
          refine follows.hear mem ?_ (h.transcripts.nodup t)
          intro p q split n earlier
          have increasing := h.transcripts.increasing t
          rw [split] at increasing
          have lt : n.sentAt < m.sentAt := (List.pairwise_append.1 increasing).2.2 n earlier m List.mem_cons_self
          have mem' : n ∈ s.transcript t := by
            rw [split]
            exact List.mem_append_left _ earlier
          have shown' := before m rfl n mem' lt
          rw [messages, List.mem_map] at shown'
          obtain ⟨n', here', same⟩ := shown'
          have id : n'.id = n.id := congrArg InboxMessage.id same
          rwa [← List.inj_on_of_nodup_map (h.transcripts.keyed t) (follows.beginning.subset here') mem' id]
        refine .inl (.following selected heard ?_)
        show appendMessage (inboxMessage m) s.ui.messages = _
        rw [messages]
        exact appendMessage_map h.transcripts follows.beginning mem
    · exact .inr loading

/-- The next frame of a thread arrives. -/
theorem InboxInv.frame (h : InboxInv s) {threadId : Uuid} {frame : ChatSocketFrame} {rest : List ChatSocketFrame}
    (here : s.frames threadId = frame :: rest) :
    InboxInv { s with
      ui := handleFrame threadId frame s.ui
      frames := Function.update s.frames threadId rest } := by
  have shrunk : ∀ t, undelivered (Function.update s.frames threadId rest t) <:+ undelivered (s.frames t) := by
    intro t
    by_cases same : t = threadId
    · subst same
      rw [Function.update_self, here]
      cases frame with
      | message m => exact List.suffix_cons _ _
      | threadDeleted => exact List.suffix_refl _
    · rw [Function.update_of_ne same]
  refine ⟨h.transcripts, fun t => (shrunk t).trans (h.waiting t), h.fetched, h.sent, ?_⟩
  -- What the arrival changes of a view that does not take the message.
  have others : ∀ t, (frame = .threadDeleted ∨ t ≠ threadId) →
      undelivered (Function.update s.frames threadId rest t) = undelivered (s.frames t) := by
    rintro t (rfl | other)
    · by_cases same : t = threadId
      · subst same
        rw [Function.update_self, here]
        rfl
      · rw [Function.update_of_ne same]
    · rw [Function.update_of_ne other]
  cases frame with
  | threadDeleted =>
    refine current_removeThread threadId (h.view.imp_left fun current => ?_)
    cases current with
    | nothing none empty => exact .nothing none empty
    | @following t shown selected follows messages =>
      refine .following selected ?_ messages
      rw [others t (.inl rfl)]
      exact follows
  | message m =>
    by_cases selected : some threadId = s.ui.selectedId
    · simp only [handleFrame, if_pos selected]
      refine h.view.imp_left fun current => ?_
      cases current with
      | nothing none empty => cases selected.trans none
      | @following t shown selected' follows messages =>
        obtain rfl : threadId = t := Option.some.inj (selected.trans selected')
        rw [here] at follows
        have mem : m ∈ s.transcript threadId := follows.under.subset List.mem_cons_self
        have delivered := follows.deliver (h.transcripts.nodup threadId)
        rw [← Function.update_self threadId rest s.frames] at delivered
        refine .following selected' delivered ?_
        show appendMessage (inboxMessage m) s.ui.messages = _
        rw [messages]
        exact appendMessage_map h.transcripts follows.beginning mem
    · simp only [handleFrame, if_neg selected]
      refine h.view.imp_left fun current => ?_
      cases current with
      | nothing none empty => exact .nothing none empty
      | @following t shown selected' follows messages =>
        refine .following selected' ?_ messages
        rw [others t (.inr fun same => selected (same ▸ selected'.symm))]
        exact follows

/-- An event keeps the transcript that of the selected thread, where answers are in time. -/
theorem InboxInv.step {e : InboxEvent} (h : InboxInv s) (timely : Timely s e)
    (step : s.handle component e = some s') : InboxInv s' := by
  cases e with
  | select threadId =>
    cases step
    exact h.selectThread threadId
  | send =>
    simp only [InboxRun.handle] at step
    split at step
    · cases step
    · cases step
      refine h.unseen rfl rfl rfl h.fetched (fun x mem m answer => ?_) id
      rcases List.mem_append.1 mem with old | new
      · exact h.sent x old m answer
      · rw [List.mem_singleton.1 new] at answer
        cases answer
  | delete threadId =>
    cases step
    exact h.unseen rfl rfl rfl h.fetched h.sent id
  | create =>
    obtain ⟨-, same⟩ := Option.ite_none_right_eq_some.1 step
    cases same
    exact h.unseen rfl rfl rfl h.fetched h.sent id
  | serveFetch i order =>
    simp only [InboxRun.handle] at step
    split at step
    · rename_i threadId here
      obtain ⟨-, same⟩ := Option.ite_none_right_eq_some.1 step
      cases same
      refine h.unseen rfl rfl rfl (fun f mem history answer => ?_) h.sent (loading_set here _)
      rcases List.mem_or_eq_of_mem_set mem with old | rfl
      · exact h.fetched f old history answer
      · cases answer
        rw [listMessages_of_increasing (h.transcripts.increasing threadId)]
    · cases step
  | serveSend i m =>
    simp only [InboxRun.handle] at step
    split at step
    · rename_i threadId here
      obtain ⟨⟨own, accepts⟩, same⟩ := Option.ite_none_right_eq_some.1 step
      cases same
      have inv := h.commitMessage accepts timely
      refine inv.unseen rfl rfl rfl inv.fetched (fun x mem n answer => ?_) id
      rcases List.mem_or_eq_of_mem_set mem with old | rfl
      · exact inv.sent x old n answer
      · cases answer
        subst own
        simp only [InboxRun.commitMessage, Function.update_self]
        exact List.mem_append_right _ (List.mem_singleton_self _)
    · cases step
  | serveDelete i =>
    simp only [InboxRun.handle] at step
    split at step
    · rename_i threadId here
      cases step
      split
      · have inv := h.commitDeletion threadId
        exact inv.unseen rfl rfl rfl inv.fetched inv.sent id
      · exact h.unseen rfl rfl rfl h.fetched h.sent id
    · cases step
  | serveCreate i threadId =>
    simp only [InboxRun.handle] at step
    split at step
    · obtain ⟨-, same⟩ := Option.ite_none_right_eq_some.1 step
      cases same
      exact h.unseen rfl rfl rfl h.fetched h.sent id
    · cases step
  | otherSend m =>
    obtain ⟨accepts, same⟩ := Option.ite_none_right_eq_some.1 step
    cases same
    exact h.commitMessage accepts timely
  | otherDelete threadId =>
    obtain ⟨-, same⟩ := Option.ite_none_right_eq_some.1 step
    cases same
    exact h.commitDeletion threadId
  | fetched i =>
    simp only [InboxRun.handle] at step
    split at step
    · rename_i here
      cases step
      exact h.fetched' here timely
    · cases step
  | sent i =>
    simp only [InboxRun.handle] at step
    split at step
    · rename_i here
      cases step
      exact h.sent' here timely
    · cases step
  | deleted i =>
    simp only [InboxRun.handle] at step
    split at step
    · rename_i threadId here
      cases step
      exact ⟨h.transcripts, h.waiting, h.fetched, h.sent, current_removeThread threadId h.view⟩
    · cases step
  | created i =>
    simp only [InboxRun.handle] at step
    split at step
    · cases step
      have inv : InboxInv { s with creates := s.creates.eraseIdx i } :=
        h.unseen rfl rfl rfl h.fetched h.sent id
      exact inv.selectThread _
    · cases step
  | frame threadId =>
    simp only [InboxRun.handle] at step
    split at step
    · cases step
    · rename_i here
      cases step
      exact h.frame here

/-- By induction over the events. -/
theorem inboxInv_of_run (h : (inboxRuns component).Reach Timely s) : InboxInv s := by
  refine h.invariant (I := InboxInv) (fun s start => ?_) fun s e s' _ inv timely step => inv.step timely step
  have none : s.ui.selectedId = none ∧ s.ui.messages = [] := by
    rw [start.ui]
    exact ⟨rfl, rfl⟩
  refine ⟨start.transcripts, fun t => ?_, fun f mem => ?_, fun x mem => ?_, .inl (.nothing none.1 none.2)⟩
  · rw [start.frames t]
    exact List.nil_suffix
  · rw [start.fetches] at mem
    cases mem
  · rw [start.sends] at mem
    cases mem

/-- In every run of either inbox whose arrivals are all timely: when nothing is in flight, the array is the
server's list of the selected thread. -/
theorem inbox_shows_transcript (h : (inboxRuns component).Reach Timely s) (quiet : s.Quiet) :
    ShowsTranscript s := by
  have inv := inboxInv_of_run h
  rcases inv.view with current | loading
  · cases current with
    | nothing none empty =>
      refine ⟨fun _ => empty, fun t selected => ?_, ?_, fun m mem => ?_⟩
      · cases selected.symm.trans none
      · rw [empty]
        exact List.nodup_nil
      · rw [empty] at mem
        cases mem
    | @following t shown selected follows messages =>
      rw [quiet.frames t] at follows
      obtain rfl := follows.settled
      constructor
      case none => exact fun none => absurd (selected.symm.trans none) (Option.some_ne_none _)
      case listed =>
        intro t' selected' order
        obtain rfl := Option.some.inj (selected.symm.trans selected')
        rw [listMessages_of_increasing (inv.transcripts.increasing t)]
        exact messages
      case once =>
        rw [messages, List.map_map]
        exact inv.transcripts.keyed t
      case own =>
        intro m mem
        rw [messages, List.mem_map] at mem
        obtain ⟨n, here, rfl⟩ := mem
        rw [selected]
        exact congrArg some (inv.transcripts.own t n here).symm
  · rw [quiet.fetches] at loading
    cases loading

/-! ## Runs -/

instance (selectedId : Option Uuid) (fetches : List (ThreadRequest (List ChatMessage))) :
    Decidable (Loading selectedId fetches) :=
  inferInstanceAs (Decidable (selectedId ∈ fetches.map fun f => some f.threadId))

instance (s : InboxRun) : (e : InboxEvent) → Decidable (Timely s e)
  | .serveSend _ m | .otherSend m => inferInstanceAs (Decidable (∀ n ∈ s.transcript m.threadId, n.sentAt < m.sentAt))
  | .fetched i => inferInstanceAs (Decidable (Loading s.ui.selectedId (s.fetches.eraseIdx i) ∨
      ∀ f ∈ s.fetches[i]?, s.ui.selectedId = some f.threadId ∧ ∀ history ∈ f.answer,
        ∀ m ∈ s.transcript f.threadId, m ∈ history ∨ m ∈ undelivered (s.frames f.threadId)))
  | .sent i => inferInstanceAs (Decidable (Loading s.ui.selectedId s.fetches ∨
      ∀ x ∈ s.sends[i]?, s.ui.selectedId = some x.threadId ∧ ∀ m ∈ x.answer,
        ∀ n ∈ s.transcript x.threadId, n.sentAt < m.sentAt → inboxMessage n ∈ s.ui.messages))
  | .select _ | .send | .delete _ | .create | .serveFetch .. | .serveDelete _ | .serveCreate .. | .otherDelete _
  | .deleted _ | .created _ | .frame _ => instDecidableTrue

def said (id threadId sentAt : ℕ) (role : UserRole) : ChatMessage := ⟨id, threadId, 7, role, "Hello", none, sentAt⟩

/-- Two threads with a message each. -/
def twoThreads : InboxRun where
  ui := ⟨none, []⟩
  transcript t := if t = 1 then [said 11 1 100 .admin] else if t = 2 then [said 21 2 200 .admin] else []
  exist t := t = 1 || t = 2
  frames _ := []
  fetches := []
  sends := []
  deletes := []
  creates := []

theorem twoThreads_opened : twoThreads.Opened where
  ui := rfl
  transcripts := by
    have each : ∀ t, twoThreads.transcript t = [] ∨ ∃ m, twoThreads.transcript t = [m] ∧ m.threadId = t := by
      intro t
      unfold twoThreads
      dsimp only
      split
      · rename_i one
        exact .inr ⟨_, rfl, one.symm⟩
      · split
        · rename_i two
          exact .inr ⟨_, rfl, two.symm⟩
        · exact .inl rfl
    constructor <;> intro t <;> rcases each t with empty | ⟨m, single, own⟩ <;> simp [*]
  frames _ := rfl
  fetches := rfl
  sends := rfl
  deletes := rfl
  creates := rfl

def inboxPlayed (component : InboxComponent) (ok : InboxRun → InboxEvent → Prop) [∀ s e, Decidable (ok s e)]
    (events : List InboxEvent) : Option InboxRun :=
  events.foldlM (fun s e => if ok s e then s.handle component e else none) twoThreads

/-- Another thread is selected while the first one's messages are under way, and they arrive last. -/
def switched : List InboxEvent :=
  [.select 1, .select 2, .serveFetch 0 .inserted, .serveFetch 1 .inserted, .fetched 1, .fetched 0]

theorem reach_of_played {component : InboxComponent} {ok : InboxRun → InboxEvent → Prop}
    [∀ s e, Decidable (ok s e)] {events : List InboxEvent} {s : InboxRun}
    (h : inboxPlayed component ok events = some s) : (inboxRuns component).Reach ok s :=
  System.Reach.checked (fun _ _ _ step => step) (.start twoThreads_opened) h

/-- A run after which the second thread is selected, and the first one's message is shown. -/
def ShowsOther (component : InboxComponent) : Prop :=
  ∃ s, (inboxRuns component).Reachable s ∧ s.Quiet ∧ s.ui.selectedId = some 2 ∧
    s.ui.messages.map (·.threadId) = [1] ∧ ¬ ShowsTranscript s

theorem showsOther_switched (component : InboxComponent) : ShowsOther component := by
  have run : ∃ s, inboxPlayed component (fun _ _ => True) switched = some s ∧ s.Quiet ∧
      s.ui = ⟨some 2, [inboxMessage (said 11 1 100 .admin)]⟩ :=
    ⟨_, rfl, ⟨fun _ => rfl, rfl, rfl, rfl, rfl⟩, rfl⟩
  obtain ⟨s, played, quiet, ui⟩ := run
  refine ⟨s, reach_of_played played, quiet, ?_, ?_, fun shows => ?_⟩
  · rw [ui]
  · rw [ui]
    rfl
  · have own := shows.own
    rw [ui] at own
    exact absurd (own _ (List.mem_singleton_self _)) (by decide)

/-- Both components show the transcript of the thread that was left. -/
theorem other_thread_shown : ShowsOther chatInbox ∧ ShowsOther mail :=
  ⟨showsOther_switched _, showsOther_switched _⟩

/-- A message is sent while its thread is being loaded, and the frame of another follows. -/
def loaded : List InboxEvent :=
  [.select 1, .send, .serveFetch 0 .inserted, .serveSend 0 (said 12 1 300 .analyst), .fetched 0, .sent 0,
    .otherSend (said 13 1 400 .admin), .frame 1, .frame 1]

/-- All three messages are shown, each once. -/
theorem inbox_shows_transcript_loaded : ∃ s, ShowsTranscript s ∧
    s.ui.messages.map (·.id) = [11, 12, 13] := by
  have run : ∃ s, inboxPlayed chatInbox Timely loaded = some s ∧ s.Quiet ∧
      s.ui.messages.map (·.id) = [11, 12, 13] := by
    refine ⟨_, rfl, ⟨fun t => ?_, rfl, rfl, rfl, rfl⟩, rfl⟩
    by_cases here : t = 1
    · subst here
      rfl
    · have other : ∀ (f : Uuid → List ChatSocketFrame) frames, Function.update f 1 frames t = f t :=
        fun f frames => Function.update_of_ne here frames f
      exact (other _ _).trans ((other _ _).trans ((other _ _).trans (other _ _)))
  obtain ⟨s, played, quiet, ids⟩ := run
  exact ⟨s, inbox_shows_transcript (reach_of_played played) quiet, ids⟩

end MeadowOps.Frontend
