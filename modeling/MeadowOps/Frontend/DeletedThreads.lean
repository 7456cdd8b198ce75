import MeadowOps.Frontend.Inbox

/-!
# The list of threads

The threads of the two inboxes, the selection and the draft buffers, with the requests for them and the frames of
deletions. Answers and frames arrive in any order. Of a thread only its id and its unread count are kept, and a send
only clears a buffer, so it is left out.
-/

namespace MeadowOps.Frontend

open Lib Db

structure ListedThread where
  id : Uuid
  unreadCount : ℕ
  deriving DecidableEq, Repr

/-- The inbox, the server and what is between them. -/
structure ThreadListRun where
  threads : List ListedThread
  selectedId : Option Uuid
  /-- `deletedIdsRef`. -/
  deletedIds : List Uuid
  buffers : Uuid → Option (List Char)
  /-- The threads of the server, and the ids it has used. -/
  exist : List Uuid
  used : List Uuid
  fetches : List (Option (List ListedThread))
  creates : List (Option Uuid)
  /-- Whether the deletion is done, or the thread is gone already. -/
  deletes : List (Uuid × Option Bool)
  frames : List Uuid
  /-- The calls of `selectThread` that wait. -/
  selections : List Uuid
  /-- The suggestions that are asked for, each with the thread of its render. -/
  suggestions : List Uuid

namespace ThreadListRun

/-! ## The handlers -/

def applyThreads (s : ThreadListRun) (fetched : List ListedThread) : ThreadListRun :=
  { s with threads := (fetched.filter fun t => t.id ∉ s.deletedIds).map fun t =>
      if some t.id = s.selectedId then { t with unreadCount := 0 } else t }

/-- `threads.find(...)`. -/
def selectedThread (s : ThreadListRun) : Option ListedThread := s.threads.find? fun t => some t.id = s.selectedId

/-- `selectThread`, up to its answers. -/
def selectThread (s : ThreadListRun) (threadId : Uuid) : ThreadListRun :=
  { s with selectedId := some threadId, selections := s.selections ++ [threadId] }

/-- The rest of `selectThread`. -/
def finishSelect (s : ThreadListRun) (threadId : Uuid) : ThreadListRun :=
  { s with threads := s.threads.map fun t => if t.id = threadId then { t with unreadCount := 0 } else t }

/-- The rest of `handleCreateThread`. -/
def finishCreate (s : ThreadListRun) (threadId : Uuid) : ThreadListRun :=
  { s with threads :=
      if s.threads.any fun t => t.id = threadId then s.threads else ⟨threadId, 0⟩ :: s.threads }.selectThread threadId

def removeThread (s : ThreadListRun) (threadId : Uuid) : ThreadListRun :=
  { s with
    deletedIds := threadId :: s.deletedIds
    buffers := Function.update s.buffers threadId none
    threads := s.threads.filter fun t => t.id ≠ threadId
    selectedId := if s.selectedId = some threadId then none else s.selectedId }

/-- `handleDraftChange` of the render with `threadId`, as far as the buffer goes. -/
def saveDraftBuffer (s : ThreadListRun) (threadId : Uuid) (value : List Char) : ThreadListRun :=
  { s with buffers := Function.update s.buffers threadId (some value) }

end ThreadListRun

/-! ## Events -/

inductive ThreadListEvent where
  | select (threadId : Uuid)
  | poll
  | create
  | delete
  | type (value : List Char)
  | suggest
  /-- The server answers with its threads and their unread counts, or not at all. -/
  | serveFetch (i : ℕ) (unread : Option (Uuid → ℕ))
  /-- The server has a thread for the scenario and the persona, or makes one. -/
  | serveCreate (i : ℕ) (threadId : Uuid)
  | serveDelete (i : ℕ) (done : Bool)
  | otherCreate (threadId : Uuid)
  | otherDelete (threadId : Uuid)
  | fetched (i : ℕ)
  | created (i : ℕ)
  | createFailed (i : ℕ)
  | deleted (i : ℕ)
  | frame (i : ℕ)
  | selected (i : ℕ)
  | suggested (i : ℕ) (message : Option (List Char))

namespace ThreadListRun

/-- The server makes a thread. -/
def commitCreate (s : ThreadListRun) (threadId : Uuid) : ThreadListRun :=
  { s with exist := threadId :: s.exist, used := threadId :: s.used }

/-- The server deletes a thread, and tells every inbox. -/
def commitDelete (s : ThreadListRun) (threadId : Uuid) : ThreadListRun :=
  { s with exist := s.exist.filter (· ≠ threadId), frames := s.frames ++ [threadId] }

/-- An event that can happen. -/
def handle (component : InboxComponent) (s : ThreadListRun) : ThreadListEvent → Option ThreadListRun
  | .select threadId => if s.threads.any (fun t => t.id = threadId) then some (s.selectThread threadId) else none
  | .poll => some { s with fetches := s.fetches ++ [none] }
  | .create => if component.createsThreads then some { s with creates := s.creates ++ [none] } else none
  | .delete => s.selectedThread.map fun t => { s with deletes := s.deletes ++ [(t.id, none)] }
  | .type value => s.selectedThread.map fun t => s.saveDraftBuffer t.id value
  | .suggest =>
    -- The assistant is the Builder's, as the creation of threads is.
    if component.createsThreads then s.selectedThread.map fun t => { s with suggestions := s.suggestions ++ [t.id] }
    else none
  | .serveFetch i unread =>
    match s.fetches[i]? with
    | some none =>
      let answer := match unread with
        | some unread => s.exist.map fun id => ⟨id, unread id⟩
        | none => []
      some { s with fetches := s.fetches.set i (some answer) }
    | _ => none
  | .serveCreate i threadId =>
    match s.creates[i]? with
    | some none =>
      let answered := { s with creates := s.creates.set i (some threadId) }
      if threadId ∈ s.exist then some answered
      else if threadId ∈ s.used then none
      else some (answered.commitCreate threadId)
    | _ => none
  | .serveDelete i done =>
    match s.deletes[i]? with
    | some (threadId, none) =>
      let answered := { s with deletes := s.deletes.set i (threadId, some done) }
      some (if done = true ∧ threadId ∈ s.exist then answered.commitDelete threadId else answered)
    | _ => none
  | .otherCreate threadId => if threadId ∈ s.used then none else some (s.commitCreate threadId)
  | .otherDelete threadId => if threadId ∈ s.exist then some (s.commitDelete threadId) else none
  | .fetched i =>
    match s.fetches[i]? with
    | some (some fetched) => some ({ s with fetches := s.fetches.eraseIdx i }.applyThreads fetched)
    | _ => none
  | .created i =>
    match s.creates[i]? with
    | some (some threadId) => some ({ s with creates := s.creates.eraseIdx i }.finishCreate threadId)
    | _ => none
  | .createFailed i => if i < s.creates.length then some { s with creates := s.creates.eraseIdx i } else none
  | .deleted i =>
    match s.deletes[i]? with
    | some (threadId, some done) =>
      let s := { s with deletes := s.deletes.eraseIdx i }
      some (if done then s.removeThread threadId else s)
    | _ => none
  | .frame i => s.frames[i]?.map fun threadId => { s with frames := s.frames.eraseIdx i }.removeThread threadId
  | .selected i =>
    s.selections[i]?.map fun threadId => { s with selections := s.selections.eraseIdx i }.finishSelect threadId
  | .suggested i message =>
    s.suggestions[i]?.map fun threadId =>
      let s := { s with suggestions := s.suggestions.eraseIdx i }
      match message with
      | some message => s.saveDraftBuffer threadId message
      | none => s

end ThreadListRun

/-- An inbox that is opened with some threads and buffers. -/
structure ThreadListRun.Opened (s : ThreadListRun) : Prop where
  selected : s.selectedId = none
  threads : ∀ t ∈ s.threads, t.id ∈ s.exist
  used : ∀ id ∈ s.exist, id ∈ s.used
  deletedIds : s.deletedIds = []
  waiting : s.fetches = [] ∧ s.creates = [] ∧ s.deletes = [] ∧ s.frames = [] ∧ s.selections = [] ∧ s.suggestions = []

def threadListRuns (component : InboxComponent) : System ThreadListRun ThreadListEvent where
  init := ThreadListRun.Opened
  step s e s' := s.handle component e = some s'

/-! ## The law -/

/-- The event is the frame of the thread's deletion, or the answer to a deletion that is done. -/
def ProcessesDeletion (s : ThreadListRun) (threadId : Uuid) : ThreadListEvent → Prop
  | .frame i => s.frames[i]? = some threadId
  | .deleted i => s.deletes[i]? = some (threadId, some true)
  | _ => False

/-- The thread is not listed, not selected, and has no buffer. -/
structure Gone (s : ThreadListRun) (threadId : Uuid) : Prop where
  listed : ∀ t ∈ s.threads, t.id ≠ threadId
  selected : s.selectedId ≠ some threadId
  buffer : s.buffers threadId = none

/-- No answer brings in a thread of which the deletion has been processed: neither that of a creation nor a
suggestion. -/
def NoLateAnswer (s : ThreadListRun) : ThreadListEvent → Prop
  | .created i => ∀ threadId, s.creates[i]? = some (some threadId) → threadId ∉ s.deletedIds
  | .suggested i (some _) => ∀ threadId ∈ s.suggestions[i]?, threadId ∉ s.deletedIds
  | _ => True

variable {component : InboxComponent} {s s' s'' : ThreadListRun} {threadId : Uuid} {e : ThreadListEvent}

/-- The invariant: the tombstone is set and the thread is gone. -/
structure Buried (s : ThreadListRun) (threadId : Uuid) : Prop where
  tombstone : threadId ∈ s.deletedIds
  gone : Gone s threadId

theorem buried_removeThread (s : ThreadListRun) (threadId : Uuid) : Buried (s.removeThread threadId) threadId := by
  refine ⟨List.mem_cons_self, ?_, ?_, Function.update_self ..⟩
  · intro t mem
    exact of_decide_eq_true (List.mem_filter.1 mem).2
  · unfold ThreadListRun.removeThread
    dsimp only
    split
    · exact (Option.some_ne_none threadId).symm
    · assumption

theorem Buried.removeThread (h : Buried s threadId) (other : Uuid) : Buried (s.removeThread other) threadId := by
  refine ⟨List.mem_cons_of_mem other h.tombstone, ?_, ?_, ?_⟩
  · intro t mem
    exact h.gone.listed t (List.mem_filter.1 mem).1
  · unfold ThreadListRun.removeThread
    dsimp only
    split
    · exact (Option.some_ne_none threadId).symm
    · exact h.gone.selected
  · unfold ThreadListRun.removeThread
    dsimp only
    rw [Function.update_apply]
    split
    · rfl
    · exact h.gone.buffer

/-- A step of requests and answers alone. -/
theorem Buried.same (h : Buried s threadId) (threads : s'.threads = s.threads) (selected : s'.selectedId = s.selectedId)
    (deleted : s'.deletedIds = s.deletedIds) (buffers : s'.buffers = s.buffers) : Buried s' threadId :=
  ⟨deleted ▸ h.tombstone, threads ▸ h.gone.listed, selected ▸ h.gone.selected, buffers ▸ h.gone.buffer⟩

theorem Buried.applyThreads (h : Buried s threadId) (fetched : List ListedThread) :
    Buried (s.applyThreads fetched) threadId := by
  refine ⟨h.tombstone, ?_, h.gone.selected, h.gone.buffer⟩
  intro t mem
  obtain ⟨t', mem', rfl⟩ := List.mem_map.1 mem
  have kept := of_decide_eq_true (List.mem_filter.1 mem').2
  have other : t'.id ≠ threadId := by
    rintro rfl
    exact kept h.tombstone
  split
  · exact other
  · exact other

theorem Buried.finishSelect (h : Buried s threadId) (other : Uuid) : Buried (s.finishSelect other) threadId := by
  refine ⟨h.tombstone, ?_, h.gone.selected, h.gone.buffer⟩
  intro t mem
  obtain ⟨t', mem', rfl⟩ := List.mem_map.1 mem
  split
  · exact h.gone.listed t' mem'
  · exact h.gone.listed t' mem'

theorem Buried.selectThread (h : Buried s threadId) {other : Uuid} (ne : other ≠ threadId) :
    Buried (s.selectThread other) threadId :=
  ⟨h.tombstone, h.gone.listed, fun same => ne (Option.some.inj same), h.gone.buffer⟩

theorem Buried.finishCreate (h : Buried s threadId) {other : Uuid} (ne : other ≠ threadId) :
    Buried (s.finishCreate other) threadId := by
  unfold ThreadListRun.finishCreate
  refine Buried.selectThread ?_ ne
  refine ⟨h.tombstone, ?_, h.gone.selected, h.gone.buffer⟩
  intro t mem
  have mem : t ∈ if s.threads.any fun t => t.id = other then s.threads else ⟨other, 0⟩ :: s.threads := mem
  split at mem
  · exact h.gone.listed t mem
  · rcases List.mem_cons.1 mem with rfl | old
    · exact ne
    · exact h.gone.listed t old

theorem Buried.saveDraftBuffer (h : Buried s threadId) {other : Uuid} (ne : other ≠ threadId) (value : List Char) :
    Buried (s.saveDraftBuffer other value) threadId :=
  ⟨h.tombstone, h.gone.listed, h.gone.selected, (Function.update_of_ne ne.symm ..).trans h.gone.buffer⟩

theorem Buried.selectedThread (h : Buried s threadId) {t : ListedThread} (selected : s.selectedThread = some t) :
    t.id ≠ threadId :=
  h.gone.listed t (List.mem_of_find?_eq_some selected)

/-- No event brings the thread back, but an answer that is older than the deletion. -/
theorem Buried.step (h : Buried s threadId) (ok : NoLateAnswer s e) (moves : s.handle component e = some s') :
    Buried s' threadId := by
  cases e with
  | select other =>
    obtain ⟨listed, moves⟩ := Option.ite_none_right_eq_some.1 moves
    cases moves
    obtain ⟨t, mem, same⟩ := List.any_eq_true.1 listed
    exact h.selectThread ((of_decide_eq_true same) ▸ h.gone.listed t mem)
  | poll =>
    cases moves
    exact h.same rfl rfl rfl rfl
  | create =>
    obtain ⟨-, moves⟩ := Option.ite_none_right_eq_some.1 moves
    cases moves
    exact h.same rfl rfl rfl rfl
  | delete =>
    obtain ⟨t, -, rfl⟩ := Option.map_eq_some_iff.1 moves
    exact h.same rfl rfl rfl rfl
  | type value =>
    obtain ⟨t, selected, rfl⟩ := Option.map_eq_some_iff.1 moves
    exact h.saveDraftBuffer (h.selectedThread selected) value
  | suggest =>
    obtain ⟨-, moves⟩ := Option.ite_none_right_eq_some.1 moves
    obtain ⟨t, -, rfl⟩ := Option.map_eq_some_iff.1 moves
    exact h.same rfl rfl rfl rfl
  | serveFetch i unread =>
    simp only [ThreadListRun.handle] at moves
    split at moves
    · cases moves
      exact h.same rfl rfl rfl rfl
    · cases moves
  | serveCreate i other =>
    simp only [ThreadListRun.handle] at moves
    split at moves
    · split at moves
      · cases moves
        exact h.same rfl rfl rfl rfl
      · obtain ⟨-, moves⟩ := Option.ite_none_left_eq_some.1 moves
        cases moves
        exact h.same rfl rfl rfl rfl
    · cases moves
  | serveDelete i done =>
    simp only [ThreadListRun.handle] at moves
    split at moves
    · cases moves
      split
      · exact h.same rfl rfl rfl rfl
      · exact h.same rfl rfl rfl rfl
    · cases moves
  | otherCreate other =>
    obtain ⟨-, moves⟩ := Option.ite_none_left_eq_some.1 moves
    cases moves
    exact h.same rfl rfl rfl rfl
  | otherDelete other =>
    obtain ⟨-, moves⟩ := Option.ite_none_right_eq_some.1 moves
    cases moves
    exact h.same rfl rfl rfl rfl
  | fetched i =>
    simp only [ThreadListRun.handle] at moves
    split at moves
    · cases moves
      have answered : Buried { s with fetches := s.fetches.eraseIdx i } threadId := h.same rfl rfl rfl rfl
      exact answered.applyThreads _
    · cases moves
  | created i =>
    simp only [ThreadListRun.handle] at moves
    split at moves
    · rename_i other here
      cases moves
      have answered : Buried { s with creates := s.creates.eraseIdx i } threadId := h.same rfl rfl rfl rfl
      refine answered.finishCreate ?_
      rintro rfl
      exact ok other here h.tombstone
    · cases moves
  | createFailed i =>
    obtain ⟨-, moves⟩ := Option.ite_none_right_eq_some.1 moves
    cases moves
    exact h.same rfl rfl rfl rfl
  | deleted i =>
    simp only [ThreadListRun.handle] at moves
    split at moves
    · cases moves
      have answered : Buried { s with deletes := s.deletes.eraseIdx i } threadId := h.same rfl rfl rfl rfl
      split
      · exact answered.removeThread _
      · exact answered
    · cases moves
  | frame i =>
    obtain ⟨other, -, rfl⟩ := Option.map_eq_some_iff.1 moves
    have answered : Buried { s with frames := s.frames.eraseIdx i } threadId := h.same rfl rfl rfl rfl
    exact answered.removeThread other
  | selected i =>
    obtain ⟨other, -, rfl⟩ := Option.map_eq_some_iff.1 moves
    have answered : Buried { s with selections := s.selections.eraseIdx i } threadId := h.same rfl rfl rfl rfl
    exact answered.finishSelect other
  | suggested i message =>
    obtain ⟨other, here, rfl⟩ := Option.map_eq_some_iff.1 moves
    have answered : Buried { s with suggestions := s.suggestions.eraseIdx i } threadId := h.same rfl rfl rfl rfl
    cases message with
    | none => exact answered
    | some message =>
      refine answered.saveDraftBuffer ?_ message
      rintro rfl
      exact ok other here h.tombstone

theorem buried_of_processed (processed : ProcessesDeletion s threadId e) (moves : s.handle component e = some s') :
    Buried s' threadId := by
  cases e with
  | frame i =>
    obtain ⟨other, here, rfl⟩ := Option.map_eq_some_iff.1 moves
    have same : other = threadId := Option.some.inj (here.symm.trans processed)
    subst same
    exact buried_removeThread _ other
  | deleted i =>
    have processed : s.deletes[i]? = some (threadId, some true) := processed
    simp only [ThreadListRun.handle, processed] at moves
    cases moves
    exact buried_removeThread _ threadId
  | _ => cases processed

/-- From the moment its deletion is processed a thread is gone, in every run in which no answer that was under way
brings it back. -/
theorem deleted_thread_stays_gone (processed : ProcessesDeletion s threadId e)
    (moves : (threadListRuns component).step s e s')
    (later : ((threadListRuns component).after s').Reach NoLateAnswer s'') : Gone s'' threadId := by
  have buried : Buried s'' threadId := by
    refine System.Reach.invariant (I := fun s => Buried s threadId) ?_ (fun _ _ _ _ h ok moves => h.step ok moves) later
    rintro s rfl
    exact buried_of_processed processed moves
  exact buried.gone

/-! ## Runs -/

instance (s : ThreadListRun) : (e : ThreadListEvent) → Decidable (NoLateAnswer s e)
  | .created i => decidable_of_iff (∀ answer ∈ s.creates[i]?, ∀ threadId ∈ answer, threadId ∉ s.deletedIds)
      ⟨fun h threadId here => h _ here threadId rfl, fun h answer here threadId same => h threadId (by rw [← same]; exact here)⟩
  | .suggested i (some _) => inferInstanceAs (Decidable (∀ threadId ∈ s.suggestions[i]?, threadId ∉ s.deletedIds))
  | .suggested _ none | .select _ | .poll | .create | .delete | .type _ | .suggest | .serveFetch .. | .serveCreate ..
  | .serveDelete .. | .otherCreate _ | .otherDelete _ | .fetched _ | .createFailed _ | .deleted _ | .frame _
  | .selected _ => .isTrue trivial

def listPlayed (component : InboxComponent) (ok : ThreadListRun → ThreadListEvent → Prop) [∀ s e, Decidable (ok s e)]
    (s : ThreadListRun) (events : List ThreadListEvent) : Option ThreadListRun :=
  events.foldlM (fun s e => if ok s e then s.handle component e else none) s

/-- One thread. -/
def oneThread : ThreadListRun := ⟨[⟨1, 0⟩], none, [], fun _ => none, [1], [1], [], [], [], [], [], []⟩

theorem oneThread_opened : oneThread.Opened :=
  ⟨rfl, by decide, by decide, rfl, rfl, rfl, rfl, rfl, rfl, rfl⟩

/-- An opened inbox goes through `before`, processes the deletion of the thread, and goes on with `after`. -/
def DeletedBetween (component : InboxComponent) (ok : ThreadListRun → ThreadListEvent → Prop)
    (threadId : Uuid) (s s' s'' : ThreadListRun) (e : ThreadListEvent) : Prop :=
  (threadListRuns component).Reachable s ∧ ProcessesDeletion s threadId e ∧ (threadListRuns component).step s e s' ∧
    ((threadListRuns component).after s').Reach ok s''

theorem deletedBetween_of_played {ok : ThreadListRun → ThreadListEvent → Prop} [∀ s e, Decidable (ok s e)]
    (before after : List ThreadListEvent) (ran : listPlayed component (fun _ _ => True) oneThread before = some s)
    (processed : ProcessesDeletion s threadId e) (moves : s.handle component e = some s')
    (goes : listPlayed component ok s' after = some s'') : DeletedBetween component ok threadId s s' s'' e :=
  ⟨.checked (fun _ _ _ step => step) (.start oneThread_opened) ran, processed, moves,
    .checked (fun _ _ _ step => step) (.start rfl) goes⟩

/-- The thread is polled, selected, typed in and deleted, and an answer from before the deletion follows. -/
theorem deleted_thread_stays_gone_polled :
    ∃ s s' s'', DeletedBetween mail NoLateAnswer 1 s s' s'' (.deleted 0) ∧ s''.threads = [] ∧ Gone s'' 1 := by
  have run : ∃ s s' s'', DeletedBetween mail NoLateAnswer 1 s s' s'' (.deleted 0) ∧ s''.threads = [] :=
    ⟨_, _, _, deletedBetween_of_played [.select 1, .type "Draft".toList, .poll, .serveFetch 0 (some fun _ => 3), .delete,
      .serveDelete 0 true] [.fetched 0, .frame 0, .selected 0] rfl rfl rfl rfl, rfl⟩
  obtain ⟨s, s', s'', deleted, empty⟩ := run
  exact ⟨s, s', s'', deleted, empty, deleted_thread_stays_gone deleted.2.1 deleted.2.2.1 deleted.2.2.2⟩

/-- The answer to a creation brings a deleted thread back, and a suggestion its buffer. -/
theorem deleted_thread_reappears :
    (∃ s s' s'', DeletedBetween mail (fun _ _ => True) 1 s s' s'' (.frame 0) ∧
      s''.threads = [⟨1, 0⟩] ∧ s''.selectedId = some 1 ∧ ¬ Gone s'' 1) ∧
    ∃ s s' s'', DeletedBetween mail (fun _ _ => True) 1 s s' s'' (.frame 0) ∧
      s''.buffers 1 = some "Hello".toList ∧ ¬ Gone s'' 1 := by
  refine ⟨⟨_, _, _, deletedBetween_of_played [.create, .serveCreate 0 1, .otherDelete 1] [.created 0] rfl rfl rfl rfl,
    rfl, rfl, ?_⟩, ⟨_, _, _, deletedBetween_of_played [.select 1, .suggest, .otherDelete 1]
    [.suggested 0 (some "Hello".toList)] rfl rfl rfl rfl, rfl, ?_⟩⟩
  · intro gone
    exact gone.selected rfl
  · intro gone
    exact Option.some_ne_none _ gone.buffer

end MeadowOps.Frontend
