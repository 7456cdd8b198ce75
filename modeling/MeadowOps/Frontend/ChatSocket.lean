import Mathlib.Data.List.Nodup
import MeadowOps.Lib.Runs

/-!
# `use-chat-socket.ts`

One mounted instance of the hook, with the calls of `connect` that wait, the sockets it has opened and the timers of
the browser. The file is the same in both applications. What a frame does is the inbox's, and left out.
-/

namespace MeadowOps.Frontend

open Lib

/-- The await at which a call of `connect` stands. -/
inductive ConnectStage where
  | fetching
  | reading
  deriving DecidableEq, Repr

/-- A socket that the hook has opened; a body without a ticket opens one with none. -/
structure OpenedSocket where
  ticket : Option String
  toldToClose : Bool
  /-- Its close event has been delivered. -/
  closed : Bool
  deriving DecidableEq, Repr

structure ChatSocketHook where
  stopped : Bool
  /-- The last socket, by its place among all. -/
  socket : Option ℕ
  reconnectTimer : Option ℕ
  calls : List (ℕ × ConnectStage)
  /-- How many tickets were requested. -/
  requested : ℕ
  /-- The tickets that came back. -/
  issued : List String
  sockets : List OpenedSocket
  timers : List ℕ
  /-- How many timers were set. -/
  timeouts : ℕ
  deriving DecidableEq, Repr

inductive ChatSocketEvent where
  | response (call : ℕ) (ok : Bool)
  /-- The request is lost, or the body is no JSON object. -/
  | rejects (call : ℕ) (stage : ConnectStage)
  /-- The body has been read, and the constructor of the socket succeeds or throws. -/
  | body (call : ℕ) (ticket : Option String) (opens : Bool)
  | close (socket : ℕ)
  | timer (id : ℕ)
  | unmount
  deriving DecidableEq, Repr

namespace ChatSocketHook

/-- `connect`, up to its first await. -/
def connect (s : ChatSocketHook) : ChatSocketHook :=
  if s.stopped then s
  else { s with calls := s.calls ++ [(s.requested, .fetching)], requested := s.requested + 1 }

/-- `reconnectTimer = setTimeout(connect, RECONNECT_DELAY_MS)`. -/
def retry (s : ChatSocketHook) : ChatSocketHook :=
  { s with reconnectTimer := some s.timeouts, timers := s.timers ++ [s.timeouts], timeouts := s.timeouts + 1 }

/-- `socket = new WebSocket(...)`. -/
def openSocket (s : ChatSocketHook) (ticket : Option String) : ChatSocketHook :=
  { s with socket := some s.sockets.length, sockets := s.sockets ++ [⟨ticket, false, false⟩] }

/-- The call ends, or goes on to its next await. -/
def resumed (s : ChatSocketHook) (call : ℕ) (stage : ConnectStage) : ChatSocketHook :=
  { s with calls := s.calls.erase (call, stage) }

/-- `onclose`. -/
def onclose (s : ChatSocketHook) : ChatSocketHook := if s.stopped then s else s.retry

/-- The cleanup of the effect. -/
def cleanup (s : ChatSocketHook) : ChatSocketHook :=
  { s with
    stopped := true
    timers := match s.reconnectTimer with
      | some timer => s.timers.erase timer
      | none => s.timers
    sockets := match s.socket with
      | some i => s.sockets.modify i fun w => { w with toldToClose := true }
      | none => s.sockets }

/-- The effect has run. -/
def mounted : ChatSocketHook := connect ⟨false, none, none, [], 0, [], [], [], 0⟩

/-- The server never issues a ticket twice. -/
def step? (s : ChatSocketHook) : ChatSocketEvent → Option ChatSocketHook
  | .response call ok =>
    if (call, .fetching) ∈ s.calls then
      let s := s.resumed call .fetching
      some (if ok then { s with calls := s.calls ++ [(call, .reading)] } else s.retry)
    else none
  | .rejects call stage => if (call, stage) ∈ s.calls then some (s.resumed call stage).retry else none
  | .body call ticket opens =>
    if (call, .reading) ∈ s.calls ∧ ∀ t ∈ ticket, t ∉ s.issued then
      let s := { s.resumed call .reading with issued := s.issued ++ ticket.toList }
      some (if s.stopped then s else if opens then s.openSocket ticket else s.retry)
    else none
  | .close i =>
    if (s.sockets[i]?).any (!·.closed) then
      some { s with sockets := s.sockets.modify i fun w => { w with closed := true } }.onclose
    else none
  | .timer id => if id ∈ s.timers then some { s with timers := s.timers.erase id }.connect else none
  | .unmount => if s.stopped then none else some s.cleanup

/-- The sockets whose close event has not been delivered. -/
def openSockets (s : ChatSocketHook) : ℕ := s.sockets.countP (!·.closed)

/-- The requests in progress, the open sockets and the armed timers. -/
def underWay (s : ChatSocketHook) : ℕ := s.calls.length + s.openSockets + s.timers.length

def usedTickets (s : ChatSocketHook) : List String := s.sockets.filterMap OpenedSocket.ticket

end ChatSocketHook

/-- All runs of a mounted instance. -/
def chatSocket : System ChatSocketHook ChatSocketEvent where
  init s := s = .mounted
  step s l s' := s.step? l = some s'

/-- The law of the connection. -/
structure ConnectionLaw (s : ChatSocketHook) : Prop where
  /-- While mounted there is one request, open socket or armed timer. -/
  mounted : s.stopped = false → s.underWay = 1
  single : s.openSockets ≤ 1
  tickets : s.usedTickets.Nodup
  told : s.stopped = true → ∀ w ∈ s.sockets.getLast?, w.toldToClose = true
  /-- After the unmount nothing is requested and nothing is opened. -/
  still : s.stopped = true → ∀ s', (chatSocket.after s).Reachable s' →
    s'.requested = s.requested ∧ s'.sockets.length = s.sockets.length

/-! ## The invariant -/

structure HookInv (s : ChatSocketHook) : Prop where
  one : s.stopped = false → s.underWay = 1
  single : s.openSockets ≤ 1
  last : ∀ i, s.socket = some i ↔ i + 1 = s.sockets.length
  tickets : s.usedTickets.Nodup
  issued : ∀ t ∈ s.usedTickets, t ∈ s.issued
  told : s.stopped = true → ∀ w ∈ s.sockets.getLast?, w.toldToClose = true

variable {s s' : ChatSocketHook} {l : ChatSocketEvent}

theorem map_modify {β : Type} {g : OpenedSocket → β} {f : OpenedSocket → OpenedSocket} (same : ∀ w, g (f w) = g w)
    (i : ℕ) (sockets : List OpenedSocket) : (sockets.modify i f).map g = sockets.map g := by
  by_cases bound : i < sockets.length
  · obtain ⟨before, w, after, split, -, modified⟩ := List.exists_of_modify f bound
    rw [modified, split]
    simp only [List.map_append, List.map_cons, same]
  · rw [List.modify_eq_self (Nat.le_of_not_lt bound)]

theorem tickets_modify {f : OpenedSocket → OpenedSocket} (same : ∀ w, (f w).ticket = w.ticket) (i : ℕ)
    (sockets : List OpenedSocket) :
    (sockets.modify i f).filterMap OpenedSocket.ticket = sockets.filterMap OpenedSocket.ticket := by
  have by_map : ∀ l : List OpenedSocket,
      l.filterMap OpenedSocket.ticket = (l.map OpenedSocket.ticket).filterMap id := fun l => by
    rw [List.filterMap_map]
    rfl
  rw [by_map, map_modify same, by_map]

theorem open_modify {f : OpenedSocket → OpenedSocket} (same : ∀ w, (f w).closed = w.closed) (i : ℕ)
    (sockets : List OpenedSocket) : (sockets.modify i f).countP (!·.closed) = sockets.countP (!·.closed) := by
  have by_map : ∀ l : List OpenedSocket,
      l.countP (!·.closed) = (l.map OpenedSocket.closed).countP (!·) := fun l => by
    rw [List.countP_map]
    rfl
  rw [by_map, map_modify same, by_map]

/-- A step that leaves the sockets alone. -/
theorem HookInv.same (inv : HookInv s) (sockets : s'.sockets = s.sockets) (socket : s'.socket = s.socket)
    (stopped : s'.stopped = s.stopped) (issued : ∀ t ∈ s.issued, t ∈ s'.issued)
    (one : s.stopped = false → s'.calls.length + s'.timers.length = s.calls.length + s.timers.length) : HookInv s' := by
  have open' : s'.openSockets = s.openSockets := by rw [ChatSocketHook.openSockets, sockets]; rfl
  have used : s'.usedTickets = s.usedTickets := by rw [ChatSocketHook.usedTickets, sockets]; rfl
  constructor
  case one =>
    intro mounted
    rw [stopped] at mounted
    have before := inv.one mounted
    have same := one mounted
    unfold ChatSocketHook.underWay at before ⊢
    omega
  case single => exact open' ▸ inv.single
  case last =>
    rw [socket, sockets]
    exact inv.last
  case tickets => exact used ▸ inv.tickets
  case issued => exact fun t mem => issued t (inv.issued t (used ▸ mem))
  case told =>
    rw [stopped, sockets]
    exact inv.told

/-- A call that ends arms the timer. -/
theorem HookInv.retry (inv : HookInv s) {call : ℕ} {stage : ConnectStage} (here : (call, stage) ∈ s.calls)
    (issued : List String) : HookInv { s.resumed call stage with issued := s.issued ++ issued }.retry := by
  refine inv.same rfl rfl rfl (fun t mem => List.mem_append_left _ mem) fun _ => ?_
  have less := List.length_erase_add_one here
  simp only [ChatSocketHook.retry, ChatSocketHook.resumed, List.length_append, List.length_singleton]
  omega

theorem HookInv.openSocket (inv : HookInv s) (mounted : s.stopped = false) {call : ℕ}
    (here : (call, .reading) ∈ s.calls) {ticket : Option String} (new : ∀ t ∈ ticket, t ∉ s.issued) :
    HookInv ({ s.resumed call .reading with issued := s.issued ++ ticket.toList }.openSocket ticket) := by
  have one := inv.one mounted
  have less := List.length_erase_add_one here
  unfold ChatSocketHook.underWay at one
  have idle : s.openSockets = 0 ∧ s.timers.length = 0 ∧ (s.calls.erase (call, .reading)).length = 0 := by omega
  obtain ⟨closed, none_armed, none_left⟩ := idle
  have opened : ({ s.resumed call .reading with issued := s.issued ++ ticket.toList }.openSocket ticket).openSockets = 1 := by
    unfold ChatSocketHook.openSockets ChatSocketHook.openSocket ChatSocketHook.resumed
    rw [List.countP_append]
    unfold ChatSocketHook.openSockets at closed
    rw [closed]
    rfl
  have used : ({ s.resumed call .reading with issued := s.issued ++ ticket.toList }.openSocket ticket).usedTickets =
      s.usedTickets ++ ticket.toList := by
    unfold ChatSocketHook.usedTickets ChatSocketHook.openSocket ChatSocketHook.resumed
    rw [List.filterMap_append]
    cases ticket <;> rfl
  constructor
  case one =>
    intro _
    rw [ChatSocketHook.underWay, opened]
    simp only [ChatSocketHook.openSocket, ChatSocketHook.resumed, none_armed, none_left]
  case single => exact Nat.le_of_eq opened
  case last => simp [ChatSocketHook.openSocket, ChatSocketHook.resumed, eq_comm]
  case tickets =>
    rw [used]
    cases ticket with
    | none => simpa using inv.tickets
    | some t =>
      rw [Option.toList_some, ← List.concat_eq_append]
      exact inv.tickets.concat fun mem => new t rfl (inv.issued t mem)
  case issued =>
    rw [used]
    intro t mem
    rcases List.mem_append.1 mem with old | now
    · exact List.mem_append_left _ (inv.issued t old)
    · exact List.mem_append_right _ now
  case told => exact fun stopped => absurd (mounted.symm.trans stopped) Bool.false_ne_true

theorem HookInv.close (inv : HookInv s) {i : ℕ} (open' : (s.sockets[i]?).any (!·.closed)) :
    HookInv { s with sockets := s.sockets.modify i fun w => { w with closed := true } }.onclose := by
  obtain ⟨w, at_i, w_open⟩ := (Option.any_eq_true ..).1 open'
  let shut : OpenedSocket → OpenedSocket := fun w => { w with closed := true }
  have less : (s.sockets.modify i shut).countP (!·.closed) + 1 = s.openSockets := by
    obtain ⟨before, w', after, split, rfl, modified⟩ :=
      List.exists_of_modify shut (List.getElem?_eq_some_iff.1 at_i).1
    have here : w' = w := by
      rw [split, List.getElem?_append_right (Nat.le_refl _), Nat.sub_self] at at_i
      exact Option.some.inj at_i
    subst here
    rw [ChatSocketHook.openSockets, modified, split, List.countP_append, List.countP_append,
      List.countP_cons_of_neg (by simp [shut]), List.countP_cons_of_pos (by simpa using w_open)]
    omega
  have after : ∀ s' : ChatSocketHook, s' = { s with sockets := s.sockets.modify i shut }.onclose →
      s'.sockets = s.sockets.modify i shut ∧ s'.socket = s.socket ∧ s'.issued = s.issued ∧ s'.stopped = s.stopped ∧
      (s.stopped = false → s'.calls = s.calls ∧ s'.timers.length = s.timers.length + 1) := by
    rintro s' rfl
    unfold ChatSocketHook.onclose
    split
    · rename_i stopped
      exact ⟨rfl, rfl, rfl, rfl, fun mounted => absurd (mounted.symm.trans stopped) Bool.false_ne_true⟩
    · exact ⟨rfl, rfl, rfl, rfl, fun _ => ⟨rfl, List.length_append⟩⟩
  obtain ⟨sockets, socket, issued, stopped, armed⟩ := after _ rfl
  have used : { s with sockets := s.sockets.modify i shut }.onclose.usedTickets = s.usedTickets := by
    rw [ChatSocketHook.usedTickets, sockets]
    exact tickets_modify (f := shut) (fun _ => rfl) i s.sockets
  constructor
  case one =>
    intro mounted
    rw [stopped] at mounted
    have before := inv.one mounted
    obtain ⟨calls, timers⟩ := armed mounted
    unfold ChatSocketHook.underWay at before ⊢
    rw [calls, timers, ChatSocketHook.openSockets, sockets]
    omega
  case single =>
    have single := inv.single
    rw [ChatSocketHook.openSockets, sockets]
    omega
  case last =>
    rw [socket, sockets, List.length_modify]
    exact inv.last
  case tickets => exact used ▸ inv.tickets
  case issued =>
    rw [used, issued]
    exact inv.issued
  case told =>
    rw [stopped, sockets]
    intro gone w' last
    rw [List.getLast?_eq_getElem?, List.getElem?_modify, List.length_modify, ← List.getLast?_eq_getElem?] at last
    obtain ⟨w'', before, rfl⟩ := Option.map_eq_some_iff.1 last
    have told := inv.told gone w'' before
    split
    · exact told
    · exact told

theorem HookInv.cleanup (inv : HookInv s) : HookInv s.cleanup := by
  let tell : OpenedSocket → OpenedSocket := fun w => { w with toldToClose := true }
  have sockets : s.cleanup.sockets = s.sockets.modify (s.sockets.length - 1) tell := by
    unfold ChatSocketHook.cleanup
    cases socket : s.socket with
    | none =>
      have nothing : s.sockets = [] := by
        by_contra some_socket
        have length := List.length_pos_iff.2 some_socket
        have here := (inv.last (s.sockets.length - 1)).2 (Nat.sub_add_cancel length)
        exact Option.some_ne_none _ (here.symm.trans socket)
      rw [nothing]
      rfl
    | some i =>
      have place : i = s.sockets.length - 1 := Nat.eq_sub_of_add_eq ((inv.last i).1 socket)
      rw [place]
  have used : s.cleanup.usedTickets = s.usedTickets := by
    rw [ChatSocketHook.usedTickets, sockets]
    exact tickets_modify (f := tell) (fun _ => rfl) _ s.sockets
  constructor
  case one => exact fun mounted => absurd mounted.symm Bool.false_ne_true
  case single =>
    rw [ChatSocketHook.openSockets, sockets, open_modify (f := tell) fun _ => rfl]
    exact inv.single
  case last =>
    rw [sockets, List.length_modify]
    exact inv.last
  case tickets => exact used ▸ inv.tickets
  case issued => exact used ▸ inv.issued
  case told =>
    rintro - w last
    rw [sockets, List.getLast?_eq_getElem?, List.length_modify, List.getElem?_modify_eq] at last
    obtain ⟨w', -, rfl⟩ := Option.map_eq_some_iff.1 last
    rfl

/-- An event keeps one connection under way, on the last socket, with a ticket of its own. -/
theorem HookInv.step (inv : HookInv s) (moves : s.step? l = some s') : HookInv s' := by
  cases l with
  | response call ok =>
    obtain ⟨here, moved⟩ := Option.ite_none_right_eq_some.1 moves
    cases moved
    cases ok with
    | true =>
      have less := List.length_erase_add_one here
      refine inv.same rfl rfl rfl (fun _ mem => mem) fun _ => ?_
      simp only [if_true, ChatSocketHook.resumed, List.length_append, List.length_singleton]
      omega
    | false =>
      have armed := inv.retry here []
      rw [List.append_nil] at armed
      exact armed
  | rejects call stage =>
    obtain ⟨here, moved⟩ := Option.ite_none_right_eq_some.1 moves
    cases moved
    have armed := inv.retry here []
    rw [List.append_nil] at armed
    exact armed
  | body call ticket opens =>
    obtain ⟨⟨here, new⟩, moved⟩ := Option.ite_none_right_eq_some.1 moves
    cases moved
    split
    · rename_i stopped
      refine inv.same rfl rfl rfl (fun t mem => List.mem_append_left _ mem) fun mounted => ?_
      exact absurd (mounted.symm.trans stopped) Bool.false_ne_true
    · rename_i mounted
      split
      · exact inv.openSocket (Bool.eq_false_iff.2 mounted) here new
      · exact inv.retry here _
  | close i =>
    obtain ⟨open', moved⟩ := Option.ite_none_right_eq_some.1 moves
    cases moved
    exact inv.close open'
  | timer id =>
    obtain ⟨here, moved⟩ := Option.ite_none_right_eq_some.1 moves
    cases moved
    have less := List.length_erase_add_one here
    unfold ChatSocketHook.connect
    split
    · rename_i stopped
      exact inv.same rfl rfl rfl (fun _ mem => mem) fun mounted =>
        absurd (mounted.symm.trans stopped) Bool.false_ne_true
    · refine inv.same rfl rfl rfl (fun _ mem => mem) fun _ => ?_
      simp only [List.length_append, List.length_singleton]
      omega
  | unmount =>
    obtain ⟨-, moved⟩ := Option.ite_none_left_eq_some.1 moves
    cases moved
    exact inv.cleanup

theorem hookInv_of_reachable (reached : chatSocket.Reachable s) : HookInv s := by
  refine reached.invariant ?_ fun s l s' _ inv _ moves => inv.step moves
  rintro s rfl
  exact ⟨fun _ => rfl, Nat.zero_le 1, by simp [ChatSocketHook.mounted, ChatSocketHook.connect], List.nodup_nil,
    fun t mem => (List.not_mem_nil mem).elim, fun stopped => absurd stopped Bool.false_ne_true⟩

/-! ## After the unmount -/

/-- A call that was under way may still arm a timer, and the timer finds the hook stopped. -/
theorem step_stopped (stopped : s.stopped = true) (moves : s.step? l = some s') :
    s'.stopped = true ∧ s'.requested = s.requested ∧ s'.sockets.length = s.sockets.length := by
  cases l with
  | response call ok =>
    obtain ⟨-, moved⟩ := Option.ite_none_right_eq_some.1 moves
    cases moved
    cases ok <;> exact ⟨stopped, rfl, rfl⟩
  | rejects call stage =>
    obtain ⟨-, moved⟩ := Option.ite_none_right_eq_some.1 moves
    cases moved
    exact ⟨stopped, rfl, rfl⟩
  | body call ticket opens =>
    obtain ⟨-, moved⟩ := Option.ite_none_right_eq_some.1 moves
    cases moved
    have kept : (s.resumed call .reading).stopped = true := stopped
    rw [if_pos kept]
    exact ⟨stopped, rfl, rfl⟩
  | close i =>
    obtain ⟨-, moved⟩ := Option.ite_none_right_eq_some.1 moves
    cases moved
    rw [ChatSocketHook.onclose, if_pos stopped]
    exact ⟨stopped, rfl, List.length_modify ..⟩
  | timer id =>
    obtain ⟨-, moved⟩ := Option.ite_none_right_eq_some.1 moves
    cases moved
    rw [ChatSocketHook.connect, if_pos stopped]
    exact ⟨stopped, rfl, rfl⟩
  | unmount =>
    simp only [ChatSocketHook.step?, if_pos stopped] at moves
    cases moves

theorem still_of_stopped (stopped : s.stopped = true) (later : (chatSocket.after s).Reachable s') :
    s'.requested = s.requested ∧ s'.sockets.length = s.sockets.length := by
  have kept : s'.stopped = true ∧ s'.requested = s.requested ∧ s'.sockets.length = s.sockets.length := by
    refine System.Reach.invariant (I := fun s' => s'.stopped = true ∧ s'.requested = s.requested ∧
      s'.sockets.length = s.sockets.length) ?_ (fun s₁ l s₂ _ before _ moves => ?_) later
    · rintro s₁ rfl
      exact ⟨stopped, rfl, rfl⟩
    · obtain ⟨stopped', requested, sockets⟩ := step_stopped before.1 moves
      exact ⟨stopped', requested.trans before.2.1, sockets.trans before.2.2⟩
  exact kept.2

/-- Whatever fails and whenever the hook is unmounted, the socket is reconnected and never doubled. -/
theorem chat_socket_reconnects (reached : chatSocket.Reachable s) : ConnectionLaw s where
  mounted := (hookInv_of_reachable reached).one
  single := (hookInv_of_reachable reached).single
  tickets := (hookInv_of_reachable reached).tickets
  told := (hookInv_of_reachable reached).told
  still := fun stopped _ later => still_of_stopped stopped later

/-- A body that is no JSON, then a socket that is closed, a reconnect, and an unmount while the new socket is open. -/
def reconnected : List ChatSocketEvent :=
  [.response 0 true, .rejects 0 .reading, .timer 0, .response 1 true, .body 1 (some "a") true, .close 0, .timer 1,
    .response 2 true, .body 2 (some "b") true, .unmount]

def socketRun (events : List ChatSocketEvent) : Option ChatSocketHook :=
  events.foldlM (fun s l => if True then s.step? l else none) .mounted

/-- Each socket has a ticket of its own. -/
theorem chat_socket_reconnects_twice :
    ∃ s, socketRun reconnected = some s ∧ s.usedTickets = ["a", "b"] ∧ s.stopped = true ∧ ConnectionLaw s :=
  ⟨_, rfl, rfl, rfl, chat_socket_reconnects (.checked (fun _ _ _ moves => moves) (.start rfl)
    (show socketRun reconnected = some _ from rfl))⟩

end MeadowOps.Frontend
