import MeadowOps.Lib.Dict
import MeadowOps.Lib.Runs
import Mathlib.Data.List.Sort

/-!
# Broadcasts: `app/core/chat_registry.py` and the handler `chat_ws`

The coroutines of one event loop. A step is what a coroutine does between two of its awaits, as nothing else runs
meanwhile: a handler goes on after an await, a broadcast starts, or one of its sends ends.
-/

namespace MeadowOps.Chat

open Lib

abbrev Socket := ℕ

/-! ## The registry -/

/-- The sets of `ChatConnectionRegistry`, each as the list of its members. -/
abbrev Connections := Dict String (List Socket)

namespace Connections

def register (role : String) (websocket : Socket) (connections : Connections) : Connections :=
  let sockets := connections.getD role []
  connections.set role (if websocket ∈ sockets then sockets else sockets ++ [websocket])

/-- `self._connections.get(role, set()).discard(websocket)`, which is also `unregister`. -/
def discard (role : String) (websocket : Socket) (connections : Connections) : Connections :=
  match connections.get? role with
  | none => connections
  | some sockets => connections.set role (sockets.filter (· ≠ websocket))

/-- The sockets of a role, in the order in which the set happens to be listed. -/
def listed (rank : Socket → ℕ) (connections : Connections) (role : String) : List Socket :=
  (connections.getD role []).mergeSort fun a b => rank a ≤ rank b

def all (connections : Connections) : List Socket := connections.items.flatMap (·.2)

def Registered (connections : Connections) (websocket : Socket) : Prop :=
  ∃ role, websocket ∈ connections.getD role []

end Connections

/-! ## The handlers -/

/-- The await at which `chat_ws` stands. -/
inductive HandlerPhase where
  /-- `websocket.close(code=4401)` without valid claims. -/
  | refusing
  | accepting
  /-- `asyncio.wait`. -/
  | waiting
  /-- `websocket.close(code=4401)` at the end of the session. -/
  | closing
  /-- `asyncio.gather` in the `finally`. -/
  | cleaning
  | ended
  deriving DecidableEq, Repr

structure ChatHandler where
  role : String
  phase : HandlerPhase
  deriving DecidableEq, Repr

/-- How an await ends. -/
inductive Resumption where
  /-- `expired` is whether `expiry_task` is done. -/
  | returns (expired : Bool)
  | raises
  | cancelled
  deriving DecidableEq, Repr

/-- The handler goes on to its next await. -/
def ChatHandler.resume (websocket : Socket) (handler : ChatHandler) (connections : Connections) :
    Resumption → Option (HandlerPhase × Connections)
  | .returns expired =>
    match handler.phase with
    | .refusing => some (.ended, connections)
    | .accepting => some (.waiting, connections.register handler.role websocket)
    | .waiting => some (if expired then .closing else .cleaning, connections)
    | .closing => some (.cleaning, connections)
    | .cleaning => some (.ended, connections.discard handler.role websocket)
    | .ended => none
  | .raises =>
    match handler.phase with
    | .refusing | .accepting => some (.ended, connections)
    | .waiting | .closing => some (.cleaning, connections)
    -- `return_exceptions=True`.
    | .cleaning | .ended => none
  | .cancelled =>
    match handler.phase with
    | .refusing | .accepting => some (.ended, connections)
    | .waiting | .closing => some (.cleaning, connections)
    -- `CancelledError` leaves the `finally` before `unregister`.
    | .cleaning => some (.ended, connections)
    | .ended => none

/-! ## The broadcasts -/

/-- A send of the nested loop, and what the loops have still before them. -/
structure Turn where
  role : String
  websocket : Socket
  sockets : List Socket
  roles : List String

/-- The next send: the rest of the set that was listed, then the other roles, each listed when its turn comes. -/
def nextSend (listed : String → List Socket) : String → List Socket → List String → Option Turn
  | role, websocket :: sockets, roles => some ⟨role, websocket, sockets, roles⟩
  | _, [], [] => none
  | _, [], role :: roles => nextSend listed role (listed role) roles

/-- A call of `broadcast`, which has ended when no send is under way. -/
structure Broadcast where
  turn : Option Turn
  /-- The sockets that were registered when it started. -/
  started : List Socket
  /-- The sockets on which `send_json` was called. -/
  handed : List Socket
  failed : List Socket

def Broadcast.next (turn : Option Turn) (b : Broadcast) : Broadcast :=
  { b with turn := turn, handed := b.handed ++ turn.toList.map Turn.websocket }

def Broadcast.start (connections : Connections) (rank : Socket → ℕ) : Broadcast :=
  .next (nextSend (connections.listed rank) "" [] (connections.items.map Prod.fst)) ⟨none, connections.all, [], []⟩

/-! ## The event loop -/

structure ChatHub where
  connections : Connections
  handlers : Dict Socket ChatHandler
  broadcasts : Dict ℕ Broadcast

inductive ChatEvent where
  /-- A new connection, with the role of its claims if its ticket has any. -/
  | connect (websocket : Socket) (claims : Option String)
  | resume (websocket : Socket) (r : Resumption)
  | broadcast (id : ℕ) (rank : Socket → ℕ)
  /-- The send of a broadcast returns, or raises an exception. -/
  | sent (id : ℕ) (ok : Bool) (rank : Socket → ℕ)

namespace ChatHub

def connect (s : ChatHub) (websocket : Socket) (claims : Option String) : ChatHub :=
  { s with handlers := s.handlers.set websocket ⟨claims.getD "", if claims.isSome then .accepting else .refusing⟩ }

/-- What the send of a turn leaves registered. -/
def afterSend (s : ChatHub) (t : Turn) (ok : Bool) : ChatHub :=
  if ok then s else { s with connections := s.connections.discard t.role t.websocket }

def step? (s : ChatHub) : ChatEvent → Option ChatHub
  | .connect websocket claims => if s.handlers.get? websocket = none then some (s.connect websocket claims) else none
  | .resume websocket r => do
    let handler ← s.handlers.get? websocket
    let (phase, connections) ← handler.resume websocket s.connections r
    some { s with connections := connections, handlers := s.handlers.set websocket ⟨handler.role, phase⟩ }
  | .broadcast id rank =>
    if (s.broadcasts.get? id).isNone then some { s with broadcasts := s.broadcasts.set id (.start s.connections rank) }
    else none
  | .sent id ok rank => do
    let b ← s.broadcasts.get? id
    let t ← b.turn
    let s := s.afterSend t ok
    let b := { b with failed := if ok then b.failed else b.failed ++ [t.websocket] }
    some { s with
      broadcasts := s.broadcasts.set id (b.next (nextSend (s.connections.listed rank) t.role t.sockets t.roles)) }

end ChatHub

/-- All runs of the loop, from the start of the application. -/
def chatHub : System ChatHub ChatEvent where
  init s := s = ⟨.empty, .empty, .empty⟩
  step s l s' := s.step? l = some s'

/-! ## The law -/

/-- The broadcast ends with this step. -/
def Ends (s s' : ChatHub) (id : ℕ) (b : Broadcast) : Prop :=
  s'.broadcasts.get? id = some b ∧ b.turn = none ∧ ∀ earlier, s.broadcasts.get? id = some earlier → earlier.turn ≠ none

/-- The step is the last of the socket's own handler, or a failed send on it. -/
def OwnRemoval (s : ChatHub) (websocket : Socket) : ChatEvent → Prop
  | .resume c (.returns _) => c = websocket ∧ ∃ handler, s.handlers.get? c = some handler ∧ handler.phase = .cleaning
  | .sent id false _ => ∃ b t, s.broadcasts.get? id = some b ∧ b.turn = some t ∧ t.websocket = websocket
  | _ => False

structure BroadcastLaw (s : ChatHub) (l : ChatEvent) (s' : ChatHub) : Prop where
  complete : ∀ id b, Ends s s' id b → ∀ c ∈ b.started, s'.connections.Registered c → b.handed.count c = 1
  dropped : ∀ id b, Ends s s' id b → ∀ c ∈ b.failed, ¬ s'.connections.Registered c
  removed : ∀ c, s.connections.Registered c → ¬ s'.connections.Registered c → OwnRemoval s c l
  ended : ∀ c handler, s'.handlers.get? c = some handler → handler.phase = .ended → ¬ s'.connections.Registered c

/-- No cancellation reaches a handler in the await of its `finally`. -/
def NotWhileCleaning (s : ChatHub) : ChatEvent → Prop
  | .resume c .cancelled => ∀ handler, s.handlers.get? c = some handler → handler.phase ≠ .cleaning
  | _ => True

/-! ## The registry and its members -/

namespace Connections

variable {role other : String} {websocket c : Socket} {connections : Connections}

@[simp] theorem mem_register : c ∈ (connections.register role websocket).getD other [] ↔
    c ∈ connections.getD other [] ∨ other = role ∧ c = websocket := by
  unfold register Dict.getD
  rw [Dict.get?_set]
  by_cases here : other = role
  · subst here
    rw [if_pos rfl, Option.getD_some]
    split
    · rename_i mem
      constructor
      · exact .inl
      · rintro (old | ⟨-, rfl⟩)
        · exact old
        · exact mem
    · simp
  · simp [here]

@[simp] theorem mem_discard : c ∈ (connections.discard role websocket).getD other [] ↔
    c ∈ connections.getD other [] ∧ ¬ (other = role ∧ c = websocket) := by
  unfold discard Dict.getD
  cases found : connections.get? role with
  | none =>
    refine ⟨fun mem => ⟨mem, ?_⟩, And.left⟩
    rintro ⟨rfl, -⟩
    rw [found] at mem
    cases mem
  | some sockets =>
    simp only [Dict.get?_set]
    by_cases here : other = role
    · subst here
      simp [found]
    · simp [here]

theorem nodup_register (nodup : (connections.getD other []).Nodup) :
    ((connections.register role websocket).getD other []).Nodup := by
  unfold register
  rw [Dict.getD, Dict.get?_set]
  by_cases here : other = role
  · subst here
    rw [if_pos rfl, Option.getD_some]
    split
    · exact nodup
    · rename_i fresh
      exact List.nodup_append.2 ⟨nodup, List.nodup_singleton _, by
        intro a mem b here same
        rw [List.mem_singleton.1 here] at same
        exact fresh (same ▸ mem)⟩
  · rw [if_neg here]
    exact nodup

theorem nodup_discard (nodup : (connections.getD other []).Nodup) :
    ((connections.discard role websocket).getD other []).Nodup := by
  unfold discard
  cases found : connections.get? role with
  | none => exact nodup
  | some sockets =>
    dsimp only
    rw [Dict.getD, Dict.get?_set]
    by_cases here : other = role
    · subst here
      rw [Dict.getD, found] at nodup
      rw [if_pos rfl]
      exact nodup.filter _
    · rw [if_neg here]
      exact nodup

theorem mem_listed {rank : Socket → ℕ} : c ∈ connections.listed rank role ↔ c ∈ connections.getD role [] :=
  (List.mergeSort_perm _ _).mem_iff

theorem nodup_listed {rank : Socket → ℕ} (nodup : (connections.getD role []).Nodup) :
    (connections.listed rank role).Nodup :=
  (List.mergeSort_perm _ _).nodup_iff.2 nodup

theorem mem_all : c ∈ connections.all ↔ connections.Registered c := by
  rw [all, List.mem_flatMap]
  constructor
  · rintro ⟨⟨role, sockets⟩, mem, here⟩
    refine ⟨role, ?_⟩
    rw [Dict.getD, Dict.mem_items_iff.1 mem]
    exact here
  · rintro ⟨role, here⟩
    unfold Dict.getD at here
    cases found : connections.get? role with
    | none =>
      rw [found] at here
      cases here
    | some sockets =>
      rw [found] at here
      exact ⟨(role, sockets), Dict.mem_items_iff.2 found, here⟩

end Connections

/-! ## Homes -/

/-- From its registration on. -/
def HandlerPhase.Past : HandlerPhase → Prop
  | .refusing | .accepting => False
  | .waiting | .closing | .cleaning | .ended => True

/-- The role under which the socket was registered. -/
def Home (s : ChatHub) (c : Socket) (role : String) : Prop :=
  ∃ handler, s.handlers.get? c = some handler ∧ handler.role = role ∧ handler.phase.Past

theorem Home.unique {s : ChatHub} {c : Socket} {role role' : String} (h : Home s c role) (h' : Home s c role') :
    role = role' := by
  obtain ⟨handler, here, rfl, -⟩ := h
  obtain ⟨handler', here', rfl, -⟩ := h'
  rw [here, Option.some.injEq] at here'
  rw [here']

/-- A socket is registered at home. -/
structure AtHome (s : ChatHub) : Prop where
  home : ∀ role, ∀ c ∈ s.connections.getD role [], Home s c role
  nodup : ∀ role, (s.connections.getD role []).Nodup

/-- What a step does to the sockets that were registered before it. -/
structure Onward (s s' : ChatHub) : Prop where
  home : ∀ c role, Home s c role → Home s' c role
  anew : ∀ c role, Home s c role → ∀ other, c ∈ s'.connections.getD other [] → c ∈ s.connections.getD other []

theorem Onward.registered {s s' : ChatHub} (h : Onward s s') {c : Socket} {role : String} (home : Home s c role)
    (there : s'.connections.Registered c) : s.connections.Registered c := by
  obtain ⟨other, mem⟩ := there
  exact ⟨other, h.anew c role home other mem⟩

/-! ## The loops of a broadcast -/

/-- What the loops have before them, after `handed`. -/
structure Ahead (s : ChatHub) (started handed : List Socket) (role : String) (sockets : List Socket)
    (roles : List String) : Prop where
  home : ∀ c ∈ sockets, Home s c role
  apart : sockets ≠ [] → role ∉ roles
  nodup : sockets.Nodup
  fresh : ∀ c ∈ sockets, c ∉ handed
  later : ∀ c ∈ handed, ∀ role ∈ roles, ¬ Home s c role
  distinct : roles.Nodup
  covered : ∀ c ∈ started, s.connections.Registered c →
    c ∈ handed ∨ c ∈ sockets ∨ ∃ role ∈ roles, c ∈ s.connections.getD role []

variable {s s' : ChatHub} {started handed sockets : List Socket} {role : String} {roles : List String} {b : Broadcast}
  {t : Turn}

theorem Ahead.onward (h : Ahead s started handed role sockets roles) (atHome : AtHome s) (on : Onward s s')
    (past : ∀ c ∈ started ++ handed, ∃ role, Home s c role) : Ahead s' started handed role sockets roles := by
  constructor
  case home => exact fun c mem => on.home c role (h.home c mem)
  case apart => exact h.apart
  case nodup => exact h.nodup
  case fresh => exact h.fresh
  case later =>
    intro c mem role mem' there
    obtain ⟨home, here⟩ := past c (List.mem_append_right _ mem)
    rw [(on.home c home here).unique there] at here
    exact h.later c mem role mem' here
  case distinct => exact h.distinct
  case covered =>
    rintro c mem ⟨other, there⟩
    obtain ⟨home, here⟩ := past c (List.mem_append_left _ mem)
    have before := on.anew c home here other there
    rcases h.covered c mem ⟨other, before⟩ with old | next | ⟨role, mem', listed⟩
    · exact .inl old
    · exact .inr (.inl next)
    · rw [(atHome.home other c before).unique (atHome.home role c listed)] at there
      exact .inr (.inr ⟨role, mem', there⟩)

theorem Ahead.send {c : Socket} (h : Ahead s started handed role (c :: sockets) roles) :
    c ∉ handed ∧ Home s c role ∧ Ahead s started (handed ++ [c]) role sockets roles := by
  have apart : role ∉ roles := h.apart (List.cons_ne_nil _ _)
  have c_home : Home s c role := h.home c List.mem_cons_self
  refine ⟨h.fresh c List.mem_cons_self, c_home, ?_⟩
  constructor
  case home => exact fun d mem => h.home d (List.mem_cons_of_mem c mem)
  case apart => exact fun _ => apart
  case nodup => exact (List.nodup_cons.1 h.nodup).2
  case fresh =>
    intro d mem
    rw [List.mem_append, List.mem_singleton]
    rintro (old | rfl)
    · exact h.fresh d (List.mem_cons_of_mem c mem) old
    · exact (List.nodup_cons.1 h.nodup).1 mem
  case later =>
    intro d mem other mem' home
    rcases List.mem_append.1 mem with old | new
    · exact h.later d old other mem' home
    · rw [List.mem_singleton.1 new] at home
      exact apart (c_home.unique home ▸ mem')
  case distinct => exact h.distinct
  case covered =>
    intro d mem there
    rcases h.covered d mem there with old | next | listed
    · exact .inl (List.mem_append_left _ old)
    · rcases List.mem_cons.1 next with rfl | next
      · exact .inl (List.mem_append_right _ List.mem_cons_self)
      · exact .inr (.inl next)
    · exact .inr (.inr listed)

theorem Ahead.list {role' : String} (h : Ahead s started handed role [] (role' :: roles)) (atHome : AtHome s)
    (rank : Socket → ℕ) : Ahead s started handed role' (s.connections.listed rank role') roles := by
  have home : ∀ c ∈ s.connections.listed rank role', Home s c role' :=
    fun c mem => atHome.home role' c (Connections.mem_listed.1 mem)
  constructor
  case home => exact home
  case apart => exact fun _ => (List.nodup_cons.1 h.distinct).1
  case nodup => exact Connections.nodup_listed (atHome.nodup role')
  case fresh => exact fun c mem old => h.later c old role' List.mem_cons_self (home c mem)
  case later => exact fun c old other mem => h.later c old other (List.mem_cons_of_mem role' mem)
  case distinct => exact (List.nodup_cons.1 h.distinct).2
  case covered =>
    intro c mem there
    rcases h.covered c mem there with old | next | ⟨other, mem', listed⟩
    · exact .inl old
    · cases next
    · rcases List.mem_cons.1 mem' with rfl | mem'
      · exact .inr (.inl (Connections.mem_listed.2 listed))
      · exact .inr (.inr ⟨other, mem', listed⟩)

/-- The next send is to a socket that was not handed the payload; where there is none, nothing was left out. -/
theorem Ahead.next (h : Ahead s started handed role sockets roles) (atHome : AtHome s) (rank : Socket → ℕ) :
    (nextSend (s.connections.listed rank) role sockets roles = none →
      ∀ c ∈ started, s.connections.Registered c → c ∈ handed) ∧
    ∀ t, nextSend (s.connections.listed rank) role sockets roles = some t →
      t.websocket ∉ handed ∧ Home s t.websocket t.role ∧
        Ahead s started (handed ++ [t.websocket]) t.role t.sockets t.roles := by
  fun_induction nextSend (s.connections.listed rank) role sockets roles with
  | case1 role c sockets roles =>
    refine ⟨fun here => (Option.some_ne_none _ here).elim, ?_⟩
    rintro t ⟨⟩
    exact h.send
  | case2 role =>
    refine ⟨fun _ c mem there => ?_, fun t here => (Option.some_ne_none _ here.symm).elim⟩
    rcases h.covered c mem there with old | next | ⟨_, mem', _⟩
    · exact old
    · cases next
    · cases mem'
  | case3 role role' roles ih => exact ih (h.list atHome rank)

/-! ## The invariant -/

structure BroadcastInv (s : ChatHub) (b : Broadcast) : Prop where
  past : ∀ c ∈ b.started ++ b.handed, ∃ role, Home s c role
  once : b.handed.Nodup
  failed : ∀ c ∈ b.failed, c ∈ b.handed ∧ ¬ s.connections.Registered c
  turn : ∀ t, b.turn = some t → t.websocket ∈ b.handed ∧ Home s t.websocket t.role ∧
    Ahead s b.started b.handed t.role t.sockets t.roles

structure HubInv (s : ChatHub) : Prop where
  atHome : AtHome s
  broadcasts : ∀ id b, s.broadcasts.get? id = some b → BroadcastInv s b
  ended : ∀ c handler, s.handlers.get? c = some handler → handler.phase = .ended → ¬ s.connections.Registered c

theorem BroadcastInv.onward (h : BroadcastInv s b) (atHome : AtHome s) (on : Onward s s') : BroadcastInv s' b := by
  constructor
  case past =>
    intro c mem
    obtain ⟨role, home⟩ := h.past c mem
    exact ⟨role, on.home c role home⟩
  case once => exact h.once
  case failed =>
    intro c mem
    obtain ⟨handed, gone⟩ := h.failed c mem
    obtain ⟨role, home⟩ := h.past c (List.mem_append_right _ handed)
    exact ⟨handed, fun there => gone (on.registered home there)⟩
  case turn =>
    intro t here
    obtain ⟨handed, home, ahead⟩ := h.turn t here
    exact ⟨handed, on.home _ _ home, ahead.onward atHome on h.past⟩

/-- A broadcast goes on to its next send, or ends. -/
theorem BroadcastInv.next (atHome : AtHome s) (past : ∀ c ∈ b.started ++ b.handed, ∃ role, Home s c role)
    (once : b.handed.Nodup) (failed : ∀ c ∈ b.failed, c ∈ b.handed ∧ ¬ s.connections.Registered c)
    (ahead : Ahead s b.started b.handed role sockets roles) (rank : Socket → ℕ) :
    let b' := b.next (nextSend (s.connections.listed rank) role sockets roles)
    BroadcastInv s b' ∧
      (b'.turn = none → ∀ c ∈ b'.started, s.connections.Registered c → b'.handed.count c = 1) := by
  obtain ⟨last, more⟩ := ahead.next atHome rank
  unfold Broadcast.next
  cases turn : nextSend (s.connections.listed rank) role sockets roles with
  | none =>
    simp only [Option.toList_none, List.map_nil, List.append_nil]
    refine ⟨⟨past, once, failed, fun t here => (Option.some_ne_none _ here.symm).elim⟩, fun _ c mem there => ?_⟩
    exact List.count_eq_one_of_mem once (last turn c mem there)
  | some t =>
    obtain ⟨fresh, home, ahead⟩ := more t turn
    simp only [Option.toList_some, List.map_cons, List.map_nil]
    refine ⟨⟨?_, ?_, ?_, ?_⟩, fun here => (Option.some_ne_none _ here).elim⟩
    · intro c mem
      rw [← List.append_assoc, List.mem_append, List.mem_singleton] at mem
      rcases mem with old | rfl
      · exact past c old
      · exact ⟨t.role, home⟩
    · rw [← List.concat_eq_append]
      exact once.concat fresh
    · intro c mem
      exact ⟨List.mem_append_left _ (failed c mem).1, (failed c mem).2⟩
    · rintro t' ⟨⟩
      exact ⟨List.mem_append_right _ List.mem_cons_self, home, ahead⟩

/-! ## The steps -/

variable {l : ChatEvent} {websocket : Socket} {handler : ChatHandler} {phase : HandlerPhase} {connections : Connections}

/-- A step of no broadcast. -/
theorem HubInv.quiet (inv : HubInv s) (same : s'.broadcasts = s.broadcasts) (on : Onward s s') (atHome : AtHome s')
    (removed : ∀ c, s.connections.Registered c → ¬ s'.connections.Registered c → OwnRemoval s c l)
    (ended : ∀ c handler, s'.handlers.get? c = some handler → handler.phase = .ended → ¬ s'.connections.Registered c) :
    HubInv s' ∧ BroadcastLaw s l s' := by
  have running : ∀ id b, ¬ Ends s s' id b := by
    rintro id b ⟨here, finished, earlier⟩
    rw [same] at here
    exact earlier b here finished
  refine ⟨⟨atHome, fun id b here => ?_, ended⟩, ⟨?_, ?_, removed, ended⟩⟩
  · rw [same] at here
    exact (inv.broadcasts id b here).onward inv.atHome on
  · exact fun id b ends => (running id b ends).elim
  · exact fun id b ends => (running id b ends).elim

theorem HubInv.connect (inv : HubInv s) (new : s.handlers.get? websocket = none) (claims : Option String) :
    HubInv (s.connect websocket claims) ∧ BroadcastLaw s (.connect websocket claims) (s.connect websocket claims) := by
  have home : ∀ c role, Home s c role → Home (s.connect websocket claims) c role := by
    rintro c role ⟨handler, here, facts⟩
    have other : c ≠ websocket := by
      rintro rfl
      rw [new] at here
      cases here
    exact ⟨handler, by rw [ChatHub.connect, Dict.get?_set, if_neg other, here], facts⟩
  refine inv.quiet rfl ⟨home, fun c role _ other mem => mem⟩ ⟨fun role c mem => home c role (inv.atHome.home role c mem),
    inv.atHome.nodup⟩ (fun c here gone => (gone here).elim) fun c handler here finished => ?_
  rw [ChatHub.connect, Dict.get?_set] at here
  split at here
  · cases here
    split at finished <;> cases finished
  · exact inv.ended c handler here finished

/-- What a handler does from one await to the next. -/
theorem ChatHandler.resume_cases {r : Resumption}
    (h : handler.resume websocket s.connections r = some (phase, connections)) :
    (handler.phase = .accepting ∧ phase = .waiting ∧ connections = s.connections.register handler.role websocket) ∨
    ((∃ expired, r = .returns expired) ∧ handler.phase = .cleaning ∧ phase = .ended ∧
      connections = s.connections.discard handler.role websocket) ∨
    (connections = s.connections ∧ (handler.phase.Past → phase.Past) ∧
      (phase = .ended → ¬ handler.phase.Past ∨ r = .cancelled ∧ handler.phase = .cleaning)) := by
  obtain ⟨role, before⟩ := handler
  cases before with
  | refusing =>
    have finished : phase = .ended ∧ connections = s.connections := by cases r <;> cases h <;> exact ⟨rfl, rfl⟩
    exact .inr (.inr ⟨finished.2, False.elim, fun _ => .inl id⟩)
  | accepting =>
    cases r with
    | returns expired =>
      cases h
      exact .inl ⟨rfl, rfl, rfl⟩
    | raises =>
      cases h
      exact .inr (.inr ⟨rfl, False.elim, fun _ => .inl id⟩)
    | cancelled =>
      cases h
      exact .inr (.inr ⟨rfl, False.elim, fun _ => .inl id⟩)
  | waiting =>
    have open' : phase.Past ∧ phase ≠ .ended ∧ connections = s.connections := by
      cases r with
      | returns expired => cases expired <;> cases h <;> exact ⟨trivial, HandlerPhase.noConfusion, rfl⟩
      | raises | cancelled => cases h; exact ⟨trivial, HandlerPhase.noConfusion, rfl⟩
    exact .inr (.inr ⟨open'.2.2, fun _ => open'.1, fun finished => absurd finished open'.2.1⟩)
  | closing =>
    have next : phase = .cleaning ∧ connections = s.connections := by cases r <;> cases h <;> exact ⟨rfl, rfl⟩
    obtain ⟨rfl, same⟩ := next
    exact .inr (.inr ⟨same, id, HandlerPhase.noConfusion⟩)
  | cleaning =>
    cases r with
    | returns expired =>
      cases h
      exact .inr (.inl ⟨⟨expired, rfl⟩, rfl, rfl, rfl⟩)
    | raises => cases h
    | cancelled =>
      cases h
      exact .inr (.inr ⟨rfl, id, fun _ => .inr ⟨rfl, rfl⟩⟩)
  | ended => cases r <;> cases h

theorem home_set (here : s.handlers.get? websocket = some handler) (past : handler.phase.Past → phase.Past)
    {c : Socket} (home : Home s c role) :
    Home ⟨connections, s.handlers.set websocket ⟨handler.role, phase⟩, s.broadcasts⟩ c role := by
  obtain ⟨h, there, same, h_past⟩ := home
  by_cases self : c = websocket
  · subst self
    rw [here, Option.some.injEq] at there
    subst there
    exact ⟨⟨handler.role, phase⟩, by rw [Dict.get?_set, if_pos rfl], same, past h_past⟩
  · exact ⟨h, by rw [Dict.get?_set, if_neg self, there], same, h_past⟩

theorem HubInv.resume (inv : HubInv s) (here : s.handlers.get? websocket = some handler) {r : Resumption}
    (goes : handler.resume websocket s.connections r = some (phase, connections))
    (ok : NotWhileCleaning s (.resume websocket r)) :
    let s' : ChatHub := ⟨connections, s.handlers.set websocket ⟨handler.role, phase⟩, s.broadcasts⟩
    HubInv s' ∧ BroadcastLaw s (.resume websocket r) s' := by
  intro s'
  have handlers : ∀ c h, s'.handlers.get? c = some h →
      c = websocket ∧ h.phase = phase ∨ c ≠ websocket ∧ s.handlers.get? c = some h := by
    intro c h there
    rw [Dict.get?_set] at there
    split at there
    · cases there
      exact .inl ⟨‹_›, rfl⟩
    · exact .inr ⟨‹_›, there⟩
  have its_home : s.connections.Registered websocket → handler.phase.Past := by
    rintro ⟨role, mem⟩
    obtain ⟨h, there, -, past⟩ := inv.atHome.home role websocket mem
    rw [here, Option.some.injEq] at there
    exact there ▸ past
  rcases ChatHandler.resume_cases goes with ⟨before, now, rfl⟩ | ⟨⟨expired, rfl⟩, before, now, rfl⟩ | ⟨kept, past, finished⟩
  case inl =>
    -- The socket is registered.
    have home : ∀ c role, Home s c role → Home s' c role := fun c role =>
      home_set here fun past => by rw [before] at past; exact past.elim
    have own : Home s' websocket handler.role :=
      ⟨⟨handler.role, phase⟩, by rw [Dict.get?_set, if_pos rfl], rfl, by rw [now]; trivial⟩
    refine inv.quiet rfl ⟨home, ?_⟩ ⟨?_, fun role => Connections.nodup_register (inv.atHome.nodup role)⟩ ?_ ?_
    · rintro c role ⟨h, there, -, past⟩ other mem
      rcases Connections.mem_register.1 mem with old | ⟨-, rfl⟩
      · exact old
      · rw [here, Option.some.injEq] at there
        rw [← there, before] at past
        exact past.elim
    · intro role c mem
      rcases Connections.mem_register.1 mem with old | ⟨rfl, rfl⟩
      · exact home c role (inv.atHome.home role c old)
      · exact own
    · rintro c ⟨role, mem⟩ gone
      exact (gone ⟨role, Connections.mem_register.2 (.inl mem)⟩).elim
    · rintro c h there finished ⟨role, mem⟩
      rcases handlers c h there with ⟨-, same⟩ | ⟨other, old⟩
      · rw [same, now] at finished
        cases finished
      · rcases Connections.mem_register.1 mem with mem | ⟨-, self⟩
        · exact inv.ended c h old finished ⟨role, mem⟩
        · exact other self
  case inr.inl =>
    -- The socket is unregistered by its handler.
    have home : ∀ c role, Home s c role → Home s' c role := fun c role =>
      home_set here fun _ => by rw [now]; trivial
    refine inv.quiet rfl ⟨home, fun c role _ other mem => (Connections.mem_discard.1 mem).1⟩
      ⟨fun role c mem => home c role (inv.atHome.home role c (Connections.mem_discard.1 mem).1),
        fun role => Connections.nodup_discard (inv.atHome.nodup role)⟩ ?_ ?_
    · rintro c ⟨role, mem⟩ gone
      by_cases self : c = websocket
      · exact ⟨self.symm, handler, here, before⟩
      · exact (gone ⟨role, Connections.mem_discard.2 ⟨mem, fun both => self both.2⟩⟩).elim
    · rintro c h there finished ⟨role, left⟩
      obtain ⟨before, apart⟩ := Connections.mem_discard.1 left
      rcases handlers c h there with ⟨rfl, -⟩ | ⟨-, old⟩
      · obtain ⟨h', there', same, -⟩ := inv.atHome.home role c before
        rw [here, Option.some.injEq] at there'
        exact apart ⟨by rw [← same, there'], rfl⟩
      · exact inv.ended c h old finished ⟨role, before⟩
  case inr.inr =>
    have home : ∀ c role, Home s c role → Home s' c role := fun c role => home_set here past
    have kept : s'.connections = s.connections := kept
    refine inv.quiet rfl ⟨home, ?_⟩ ⟨?_, ?_⟩ ?_ ?_
    · rw [kept]
      exact fun _ _ _ _ mem => mem
    · rw [kept]
      exact fun role c mem => home c role (inv.atHome.home role c mem)
    · rw [kept]
      exact inv.atHome.nodup
    · rw [kept]
      exact fun c mem gone => (gone mem).elim
    rw [kept]
    intro c h there ends registered
    rcases handlers c h there with ⟨rfl, same⟩ | ⟨-, old⟩
    · rcases finished (same ▸ ends) with early | ⟨rfl, cleaning⟩
      · exact early (its_home registered)
      · exact ok handler here cleaning
    · exact inv.ended c h old ends registered

theorem get?_set_cases {ν : Type} {d : Dict ℕ ν} {id id' : ℕ} {v v' : ν} (h : (d.set id v).get? id' = some v') :
    id' = id ∧ v' = v ∨ id' ≠ id ∧ d.get? id' = some v' := by
  rw [Dict.get?_set] at h
  split at h
  · exact .inl ⟨‹_›, (Option.some.inj h).symm⟩
  · exact .inr ⟨‹_›, h⟩

/-- A step of one broadcast, after what it has done to the registry. -/
theorem HubInv.advance {s₁ : ChatHub} {id : ℕ} {b' : Broadcast} (atHome : AtHome s₁)
    (others : ∀ id' b, id' ≠ id → s₁.broadcasts.get? id' = some b → BroadcastInv s₁ b ∧ s.broadcasts.get? id' = some b)
    (ended : ∀ c handler, s₁.handlers.get? c = some handler → handler.phase = .ended → ¬ s₁.connections.Registered c)
    (removed : ∀ c, s.connections.Registered c → ¬ s₁.connections.Registered c → OwnRemoval s c l)
    (goes : BroadcastInv s₁ b' ∧
      (b'.turn = none → ∀ c ∈ b'.started, s₁.connections.Registered c → b'.handed.count c = 1)) :
    let s' : ChatHub := { s₁ with broadcasts := s₁.broadcasts.set id b' }
    HubInv s' ∧ BroadcastLaw s l s' := by
  intro s'
  have same : ∀ b, BroadcastInv s₁ b → BroadcastInv s' b := fun b inv =>
    inv.onward atHome ⟨fun _ _ home => home, fun _ _ _ _ mem => mem⟩
  have ending : ∀ id' b, Ends s s' id' b → b = b' ∧ b'.turn = none := by
    rintro id' b ⟨here, finished, earlier⟩
    rcases get?_set_cases here with ⟨-, rfl⟩ | ⟨other, old⟩
    · exact ⟨rfl, finished⟩
    · exact (earlier b (others id' b other old).2 finished).elim
  refine ⟨⟨⟨atHome.home, atHome.nodup⟩, fun id' b here => ?_, ended⟩, ⟨?_, ?_, removed, ended⟩⟩
  · rcases get?_set_cases here with ⟨-, rfl⟩ | ⟨other, old⟩
    · exact same b goes.1
    · exact same b (others id' b other old).1
  · intro id' b ends c mem there
    obtain ⟨rfl, finished⟩ := ending id' b ends
    exact goes.2 finished c mem there
  · intro id' b ends c mem
    obtain ⟨rfl, -⟩ := ending id' b ends
    exact (goes.1.failed c mem).2

theorem HubInv.broadcast (inv : HubInv s) (id : ℕ) (rank : Socket → ℕ) :
    let s' : ChatHub := { s with broadcasts := s.broadcasts.set id (.start s.connections rank) }
    HubInv s' ∧ BroadcastLaw s (.broadcast id rank) s' := by
  have past : ∀ c ∈ s.connections.all, ∃ role, Home s c role := by
    intro c mem
    obtain ⟨role, here⟩ := Connections.mem_all.1 mem
    exact ⟨role, inv.atHome.home role c here⟩
  have ahead : Ahead s s.connections.all [] "" [] (s.connections.items.map Prod.fst) := by
    constructor
    case home => exact fun _ mem => (List.not_mem_nil mem).elim
    case apart => exact fun some => (some rfl).elim
    case nodup => exact List.nodup_nil
    case fresh => exact fun _ mem => (List.not_mem_nil mem).elim
    case later => exact fun _ mem => (List.not_mem_nil mem).elim
    case distinct => exact s.connections.nodup
    case covered =>
      rintro c - ⟨role, mem⟩
      refine .inr (.inr ⟨role, ?_, mem⟩)
      by_contra absent
      rw [Dict.getD, Dict.get?_eq_none_iff.2 absent] at mem
      cases mem
  exact HubInv.advance inv.atHome (fun id' b _ here => ⟨inv.broadcasts id' b here, here⟩) inv.ended
    (fun c here gone => (gone here).elim)
    (BroadcastInv.next inv.atHome (by simpa using past) List.nodup_nil (fun _ mem => (List.not_mem_nil mem).elim) ahead rank)

/-- What a send leaves of the registry. -/
theorem registered_afterSend {c : Socket} (ok : Bool) (other : String)
    (mem : c ∈ (s.afterSend t ok).connections.getD other []) : c ∈ s.connections.getD other [] := by
  cases ok with
  | true => exact mem
  | false => exact (Connections.mem_discard.1 mem).1

theorem HubInv.sent (inv : HubInv s) {id : ℕ} (here : s.broadcasts.get? id = some b) (turn : b.turn = some t)
    (ok : Bool) (rank : Socket → ℕ) :
    let s₁ := s.afterSend t ok
    let b₁ := { b with failed := if ok then b.failed else b.failed ++ [t.websocket] }
    let s' : ChatHub := { s₁ with
      broadcasts := s₁.broadcasts.set id (b₁.next (nextSend (s₁.connections.listed rank) t.role t.sockets t.roles)) }
    HubInv s' ∧ BroadcastLaw s (.sent id ok rank) s' := by
  intro s₁ b₁ s'
  have same : s₁.handlers = s.handlers ∧ s₁.broadcasts = s.broadcasts := by cases ok <;> exact ⟨rfl, rfl⟩
  have home : ∀ c role, Home s c role → Home s₁ c role := by
    rintro c role home
    unfold Home
    rw [same.1]
    exact home
  have on : Onward s s₁ := ⟨home, fun c role _ other mem => registered_afterSend ok other mem⟩
  have atHome : AtHome s₁ := by
    refine ⟨fun role c mem => home c role (inv.atHome.home role c (registered_afterSend ok role mem)), fun role => ?_⟩
    cases ok with
    | true => exact inv.atHome.nodup role
    | false => exact Connections.nodup_discard (inv.atHome.nodup role)
  have b_inv := (inv.broadcasts id b here).onward inv.atHome on
  obtain ⟨handed, its_home, ahead⟩ := b_inv.turn t turn
  have failed : ∀ c ∈ b₁.failed, c ∈ b₁.handed ∧ ¬ s₁.connections.Registered c := by
    intro c mem
    cases ok with
    | true => exact b_inv.failed c mem
    | false =>
      rcases List.mem_append.1 mem with old | new
      · exact b_inv.failed c old
      · rw [List.mem_singleton.1 new]
        refine ⟨handed, ?_⟩
        rintro ⟨other, there⟩
        exact (Connections.mem_discard.1 there).2 ⟨(atHome.home other _ there).unique its_home, rfl⟩
  refine HubInv.advance atHome ?_ ?_ ?_ (BroadcastInv.next (b := b₁) atHome b_inv.past b_inv.once failed ahead rank)
  · intro id' b' _ there
    rw [same.2] at there
    exact ⟨(inv.broadcasts id' b' there).onward inv.atHome on, there⟩
  · intro c handler there finished registered
    rw [same.1] at there
    obtain ⟨other, mem⟩ := registered
    exact inv.ended c handler there finished ⟨other, registered_afterSend ok other mem⟩
  · rintro c ⟨role, mem⟩ gone
    cases ok with
    | true => exact (gone ⟨role, mem⟩).elim
    | false =>
      refine ⟨b, t, here, turn, ?_⟩
      by_contra other
      exact gone ⟨role, Connections.mem_discard.2 ⟨mem, fun both => other both.2.symm⟩⟩

/-- An event keeps the invariant of the registry, and a broadcast obeys its law. -/
theorem HubInv.step (inv : HubInv s) (meets : NotWhileCleaning s l) (moves : s.step? l = some s') :
    HubInv s' ∧ BroadcastLaw s l s' := by
  cases l with
  | connect websocket claims =>
    simp only [ChatHub.step?] at moves
    split at moves
    · rename_i new
      cases moves
      exact inv.connect new claims
    · cases moves
  | resume websocket r =>
    obtain ⟨handler, here, moves⟩ := Option.bind_eq_some_iff.1 moves
    obtain ⟨⟨phase, connections⟩, goes, moves⟩ := Option.bind_eq_some_iff.1 moves
    cases moves
    exact inv.resume here goes meets
  | broadcast id rank =>
    simp only [ChatHub.step?] at moves
    split at moves
    · cases moves
      exact inv.broadcast id rank
    · cases moves
  | sent id ok rank =>
    obtain ⟨b, here, moves⟩ := Option.bind_eq_some_iff.1 moves
    obtain ⟨t, turn, moves⟩ := Option.bind_eq_some_iff.1 moves
    cases moves
    exact inv.sent here turn ok rank

/-- Every state of a run whose handlers are not cancelled while they clean up. -/
theorem hubInv_of_reach (reached : chatHub.Reach NotWhileCleaning s) : HubInv s := by
  refine reached.invariant ?_ fun s l s' _ inv ok moves => (inv.step ok moves).1
  rintro s rfl
  have nobody : ∀ (role : String) (c : Socket), c ∉ (Dict.empty : Connections).getD role [] := by
    intro role c mem
    cases mem
  refine ⟨⟨fun role c mem => (nobody role c mem).elim, fun _ => List.nodup_nil⟩, ?_, ?_⟩
  · intro id b here
    cases here
  · intro c handler here
    cases here

/-- In a run in which no cancellation reaches a handler in its `finally`, every broadcast is complete, only failed
sends and a socket's own handler take it out, and a handler that has ended leaves nothing registered. -/
theorem broadcasts_complete (reached : chatHub.Reach NotWhileCleaning s) (ok : NotWhileCleaning s l)
    (moves : chatHub.step s l s') : BroadcastLaw s l s' :=
  ((hubInv_of_reach reached).step ok moves).2

/-- A run of the event loop whose steps all meet `ok`. -/
def hubRun (ok : ChatHub → ChatEvent → Prop) [∀ s l, Decidable (ok s l)] (events : List ChatEvent) : Option ChatHub :=
  events.foldlM (fun s l => if ok s l then s.step? l else none) ⟨.empty, .empty, .empty⟩

theorem reach_of_hubRun {ok : ChatHub → ChatEvent → Prop} [∀ s l, Decidable (ok s l)] (events : List ChatEvent)
    (ran : hubRun ok events = some s) : chatHub.Reach ok s :=
  .checked (fun _ _ _ moves => moves) (.start rfl) ran

instance (s : ChatHub) : DecidablePred (NotWhileCleaning s) := fun l =>
  match l with
  | .resume c .cancelled => decidable_of_iff ((s.handlers.get? c).map ChatHandler.phase ≠ some .cleaning) (by
      cases here : s.handlers.get? c <;> simp [NotWhileCleaning, here])
  | .resume _ (.returns _) | .resume _ .raises | .connect .. | .broadcast .. | .sent .. => .isTrue trivial

/-- Two connections and a broadcast that is at its second send, after the first failed. -/
def twoConnected : List ChatEvent :=
  [.connect 0 (some "admin"), .resume 0 (.returns false), .connect 1 (some "analyst"), .resume 1 (.returns false),
    .broadcast 0 id, .sent 0 false id]

/-- The broadcast goes to both connections, and drops the one that failed. -/
theorem broadcasts_complete_twoConnected :
    ∃ s s', hubRun NotWhileCleaning twoConnected = some s ∧ chatHub.step s (.sent 0 true id) s' ∧
      (s'.broadcasts.get? 0).map (fun b => (b.turn.isNone, b.handed, b.failed)) = some (true, [0, 1], [0]) ∧
      BroadcastLaw s (.sent 0 true id) s' := by
  have all : ((hubRun NotWhileCleaning twoConnected).bind fun s => (s.step? (.sent 0 true id)).map fun s' =>
      (s'.broadcasts.get? 0).map fun b => (b.turn.isNone, b.handed, b.failed)) = some (some (true, [0, 1], [0])) := by
    decide +kernel
  obtain ⟨s, ran, next⟩ := Option.bind_eq_some_iff.1 all
  obtain ⟨s', moves, shows⟩ := Option.map_eq_some_iff.1 next
  exact ⟨s, s', ran, moves, shows, broadcasts_complete (reach_of_hubRun twoConnected ran) trivial moves⟩

/-- A client disconnects, and its handler is cancelled in the await of its `finally`. -/
def cancelledCleaning : List ChatEvent :=
  [.connect 0 (some "analyst"), .resume 0 (.returns false), .resume 0 (.returns false), .resume 0 .cancelled]

/-- Its handler has ended, and the connection is still registered. -/
theorem ended_but_registered :
    ∃ s, chatHub.Reachable s ∧ s.handlers.get? 0 = some ⟨"analyst", .ended⟩ ∧ s.connections.Registered 0 :=
  ⟨_, reach_of_hubRun cancelledCleaning rfl, rfl, "analyst", by decide⟩

end MeadowOps.Chat
