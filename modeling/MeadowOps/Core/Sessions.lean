import MeadowOps.Core.Auth

/-!
# Who acts behind the gates

The server keeps no sessions: what acts is a token, until it expires, whatever happens to the user. Under the
assumption that nobody forges tokens, a route runs if and only if an earlier login issued the token, and a socket
opens if and only if such a token bought its ticket.
-/

namespace MeadowOps.Core

open Lib Chat
open Db (Instant)

/-- The roles that a gate lets through. -/
def Gate.Admits : Gate → UserRole → Prop
  | .requireAdmin, role => role = .admin
  | .requireAnalyst, role => role = .analyst
  | .requireAuthenticated, _ | .rejectServiceRole, _ => True

/-- The same, of the role of a token. -/
def Gate.Passes : Gate → String → Prop
  | .requireAuthenticated, _ => True
  | .requireAdmin, role => role = "admin"
  | .rejectServiceRole, role => role ≠ "service"
  | .requireAnalyst, role => role ≠ "service" ∧ role = "analyst"

theorem Gate.passes_value (gate : Gate) (role : UserRole) : gate.Passes role.value ↔ gate.Admits role := by
  cases gate <;> cases role <;> simp [Passes, Admits, UserRole.value]

theorem Gate.passes_service (gate : Gate) : gate.Passes "service" ↔ gate = .requireAuthenticated := by
  cases gate <;> simp [Passes]

/-- A token decodes from its issue up to its expiry. -/
def SessionPayload.Live (claims : SessionPayload) (now : Instant) : Prop :=
  claims.iat * second ≤ now ∧ now < claims.exp * second

instance (claims : SessionPayload) (now : Instant) : Decidable (claims.Live now) := inferInstanceAs (Decidable (_ ∧ _))

abbrev AuthExchange (T : Type) := Exchange (TimedRequest T) AuthReply

namespace AuthRequest

/-- The header of a request. -/
def authorization? : AuthRequest → Option (List Char)
  | .call _ authorization | .mintWsTicket authorization _ _ => authorization
  | _ => none

def generated? : AuthRequest → Option String
  | .mintWsTicket _ ticket _ => some ticket
  | _ => none

end AuthRequest

namespace AuthSettings

variable {T : Type} [LinearOrder T] (cfg : AuthSettings T)

/-- What `PyJWT` does with a token that was encoded with the same secret. -/
def DecodesItsOwn : Prop := ∀ claims now, cfg.jwtDecode (cfg.jwtEncode claims cfg.sessionSecretKey)
  cfg.sessionSecretKey now = if claims.Live now then some ⟨some claims.sub, some claims.role, some claims.exp⟩ else none

variable [Add T] (s₀ : AuthState T)

/-- Among what is past, a login was answered with the token, of a user who was in the table then, active, and with the
password of the request. -/
def Issued (past : List (AuthExchange T)) (claims : SessionPayload) (token : List Char) : Prop :=
  ∃ earlier clocks payload sweeps reply later user,
    past = earlier ++ ⟨⟨clocks, .login payload sweeps⟩, reply⟩ :: later ∧
    reply.answer = .loggedIn token user.role.value ∧
    user ∈ (cfg.service.after s₀ (earlier.map Exchange.asked)).users ∧
    user.email = cfg.limiter.key payload.email ∧ user.isActive = true ∧
    cfg.verifyPassword payload.password user.passwordHash = true ∧
    claims = cfg.sessionPayload user.id user.role.value clocks.now ∧
    token = cfg.jwtEncode claims cfg.sessionSecretKey

/-- The header has the token of a live session that the gate admits. -/
def ActsAs (past : List (AuthExchange T)) (gate : Gate) (authorization : Option (List Char)) (now : Instant)
    (claims : SessionPayload) : Prop :=
  ∃ token role, authorization = some (bearerPrefix ++ token) ∧ token ≠ cfg.internalServiceToken ∧
    cfg.Issued s₀ past claims token ∧ claims.Live now ∧ claims.role = role.value ∧ gate.Admits role

/-- No token decodes that was not issued before. -/
def Unforged (asked : List (TimedRequest T)) : Prop :=
  ∀ past e later, cfg.service.log s₀ asked = past ++ e :: later → ∀ token,
    e.asked.request.authorization? = some (bearerPrefix ++ token) →
    (cfg.jwtDecode token cfg.sessionSecretKey e.asked.clocks.now).isSome →
      ∃ x ∈ past, ∃ role, x.answer.answer = .loggedIn token role

/-- Who runs a route, and who holds a socket open. -/
structure WhoActs (asked : List (TimedRequest T)) : Prop where
  ran : ∀ past e later, cfg.service.log s₀ asked = past ++ e :: later → ∀ gate authorization,
    e.asked.request = .call gate authorization → ∀ identity, e.answer.answer = .ran identity ↔
      authorization = some (bearerPrefix ++ cfg.internalServiceToken) ∧ gate = .requireAuthenticated ∧
        identity = serviceIdentity ∨
      ∃ claims, cfg.ActsAs s₀ past gate authorization e.asked.clocks.now claims ∧
        identity = ⟨claims.sub, claims.role⟩
  /-- The ticket was minted for a session, is not too old and was not tried since. The socket closes when the session
  expires. -/
  accepted : ∀ past e later, cfg.service.log s₀ asked = past ++ e :: later → ∀ ticket,
    e.asked.request = .chatWs ticket → ∀ ticketClaims (remaining : ℚ),
      e.answer.answer = .accepted ticketClaims remaining ↔
      ∃ earlier minted authorization text sweeps reply between claims,
        past = earlier ++ ⟨⟨minted, .mintWsTicket authorization text sweeps⟩, reply⟩ :: between ∧
        ticket = some text ∧ text ≠ "" ∧
        cfg.ActsAs s₀ earlier .rejectServiceRole authorization minted.now claims ∧
        e.asked.clocks.monotonic ≤ minted.monotonic + cfg.ticketTtlSeconds ∧
        (∀ x ∈ between, x.asked.request ≠ .chatWs (some text)) ∧
        ticketClaims = ⟨claims.sub, claims.role, claims.exp⟩ ∧
        remaining = max ((claims.exp : ℚ) - e.asked.clocks.now / second) 0

/-! ## What a request does -/

variable {cfg} {s₀}

omit [Add T] in
theorem login_loggedIn {payload : LoginRequest} {sweeps : Bool} {clocks : Clocks T} {s : AuthState T}
    {token : List Char} {role : String}
    (answer : (cfg.login payload sweeps clocks s).1.answer = .loggedIn token role) :
    ∃ user ∈ s.users, user.email = cfg.limiter.key payload.email ∧ user.isActive = true ∧
      cfg.verifyPassword payload.password user.passwordHash = true ∧ role = user.role.value ∧
      token = cfg.createSessionToken user.id user.role.value clocks.now := by
  unfold login at answer
  split at answer
  · cases answer
  · dsimp only at answer
    split at answer
    · cases answer
    · cases found : s.users.find? fun user => user.email = cfg.limiter.key payload.email with
      | none =>
        rw [found] at answer
        cases answer
      | some user =>
        rw [found] at answer
        dsimp only at answer
        split at answer
        · cases answer
        · rename_i valid
          simp only [Option.map_some, Option.getD_some, Bool.or_eq_true, Bool.not_eq_true', not_or,
            Bool.not_eq_false] at valid
          cases answer
          have same : user.email = cfg.limiter.key payload.email := by
            simpa using List.find?_some found
          exact ⟨user, List.mem_of_find?_eq_some found, same, valid.1, valid.2, rfl, rfl⟩

omit [Add T] in
theorem wsTicketClaims_error {authorization : Option (List Char)} {now : Instant} {answer : AuthAnswer}
    (error : cfg.wsTicketClaims authorization now = .error answer) : (∃ e, answer = .refused e) ∨ answer = .failed := by
  unfold wsTicketClaims at error
  split at error
  · cases error
    exact .inl ⟨_, rfl⟩
  · split at error
    · cases error
      exact .inl ⟨_, rfl⟩
    · split at error
      · cases error
        exact .inr rfl
      · cases error

theorem mintWsTicket_not_loggedIn {authorization : Option (List Char)} {ticket : String} {sweeps : Bool}
    {clocks : Clocks T} {s : AuthState T} {token : List Char} {role : String} :
    (cfg.mintWsTicket authorization ticket sweeps clocks s).1.answer ≠ .loggedIn token role := by
  intro answer
  unfold mintWsTicket at answer
  split at answer
  · rcases wsTicketClaims_error ‹_› with ⟨e, rfl⟩ | rfl <;> cases answer
  · cases answer

/-- Only a login is answered with a token. -/
theorem handle_loggedIn {asked : TimedRequest T} {s : AuthState T} {token : List Char} {role : String}
    (answer : (cfg.handle s asked).1.answer = .loggedIn token role) : ∃ payload sweeps,
      asked.request = .login payload sweeps ∧
      (cfg.login payload sweeps asked.clocks s).1.answer = .loggedIn token role := by
  unfold handle at answer
  split at answer
  · rename_i payload sweeps request
    exact ⟨payload, sweeps, request, answer⟩
  · split at answer <;> cases answer
  · exact absurd answer mintWsTicket_not_loggedIn
  · unfold chatWs at answer
    split at answer
    · cases answer
    · split at answer
      · cases answer
      · dsimp only at answer
        split at answer <;> cases answer
  · cases answer

/-! ## Gates -/

theorem startsWith_bearer (token : List Char) : bearerPrefix.isPrefixOf (bearerPrefix ++ token) = true :=
  List.isPrefixOf_iff_prefix.2 (List.prefix_append _ _)

theorem removeBearer_bearer (token : List Char) : removeBearer (bearerPrefix ++ token) = token := by
  rw [removeBearer, if_pos (startsWith_bearer token), List.drop_left]

omit [Add T] in
theorem requireAuthenticated_ok {authorization : Option (List Char)} {now : Instant} {identity : Identity} :
    cfg.requireAuthenticated authorization now = .ok identity ↔ ∃ token, authorization = some (bearerPrefix ++ token) ∧
      (token = cfg.internalServiceToken ∧ identity = serviceIdentity ∨
        token ≠ cfg.internalServiceToken ∧ ∃ claims, cfg.decodeSessionToken token now = some claims ∧
          identity = ⟨claims.sub, claims.role⟩) := by
  constructor
  · intro ok
    unfold requireAuthenticated at ok
    split at ok
    · cases ok
    · split at ok
      · cases ok
      · rename_i text bearer
        obtain ⟨token, rfl⟩ := List.isPrefixOf_iff_prefix.1 (not_not.1 bearer)
        refine ⟨token, rfl, ?_⟩
        rw [removeBearer_bearer] at ok
        dsimp only at ok
        split at ok
        · cases ok
          exact .inl ⟨‹_›, rfl⟩
        · split at ok
          · cases ok
          · cases ok
            exact .inr ⟨‹_›, _, ‹_›, rfl⟩
  · rintro ⟨token, rfl, passes⟩
    unfold requireAuthenticated
    dsimp only
    rw [if_neg (not_not.2 (startsWith_bearer token)), removeBearer_bearer]
    rcases passes with ⟨service, rfl⟩ | ⟨other, claims, decoded, rfl⟩
    · rw [if_pos service]
    · rw [if_neg other, decoded]

/-- A dependency that returns what another one returned, unless it refuses it. -/
theorem unless_refused_ok {ε α : Type} {found : Except ε α} {refuses : α → Prop} [DecidablePred refuses] {e : ε}
    {a : α} : (do
        let b ← found
        if refuses b then throw e
        return b) = Except.ok a ↔ found = .ok a ∧ ¬refuses a := by
  cases found with
  | error e' => exact ⟨nofun, nofun⟩
  | ok b =>
    show (if refuses b then _ else _) = _ ↔ _
    by_cases refused : refuses b
    · rw [if_pos refused]
      refine ⟨nofun, fun ⟨same, not⟩ => ?_⟩
      cases same
      exact absurd refused not
    · rw [if_neg refused]
      refine ⟨fun same => ?_, fun both => both.1⟩
      cases same
      exact ⟨rfl, refused⟩

omit [Add T] in
theorem rejectServiceRole_ok {authorization : Option (List Char)} {now : Instant} {identity : Identity} :
    cfg.rejectServiceRole authorization now = .ok identity ↔
      cfg.requireAuthenticated authorization now = .ok identity ∧ identity.role ≠ "service" :=
  unless_refused_ok

omit [Add T] in
/-- A gate lets an authenticated identity pass by its role. -/
theorem check_ok {gate : Gate} {authorization : Option (List Char)} {now : Instant} {identity : Identity} :
    cfg.check gate authorization now = .ok identity ↔
      cfg.requireAuthenticated authorization now = .ok identity ∧ gate.Passes identity.role := by
  cases gate with
  | requireAuthenticated => exact (and_iff_left trivial).symm
  | requireAdmin => exact unless_refused_ok.trans (and_congr_right' not_not)
  | rejectServiceRole => exact rejectServiceRole_ok
  | requireAnalyst =>
    refine unless_refused_ok.trans ?_
    rw [rejectServiceRole_ok, not_not, and_assoc]
    rfl

omit [Add T] in
theorem wsTicketClaims_ok {authorization : Option (List Char)} {now : Instant} {ticketClaims : WsTicketClaims} :
    cfg.wsTicketClaims authorization now = .ok ticketClaims ↔ ∃ token claims exp,
      authorization = some (bearerPrefix ++ token) ∧ token ≠ cfg.internalServiceToken ∧
        cfg.decodeSessionToken token now = some claims ∧ claims.role ≠ "service" ∧ claims.exp = some exp ∧
        ticketClaims = ⟨claims.sub, claims.role, exp⟩ := by
  constructor
  · intro ok
    unfold wsTicketClaims at ok
    split at ok
    · cases ok
    · rename_i identity passed
      obtain ⟨authenticated, human⟩ := rejectServiceRole_ok.1 passed
      obtain ⟨token, rfl, ⟨-, rfl⟩ | ⟨other, claims, decoded, rfl⟩⟩ := requireAuthenticated_ok.1 authenticated
      · exact absurd rfl human
      · rw [Option.getD_some, removeBearer_bearer, decoded] at ok
        dsimp only at ok
        split at ok
        · cases ok
        · cases ok
          exact ⟨token, claims, _, rfl, other, decoded, human, ‹_›, rfl⟩
  · rintro ⟨token, claims, exp, rfl, other, decoded, human, expires, rfl⟩
    have passed : cfg.rejectServiceRole (some (bearerPrefix ++ token)) now = .ok ⟨claims.sub, claims.role⟩ :=
      rejectServiceRole_ok.2 ⟨requireAuthenticated_ok.2 ⟨token, rfl, .inr ⟨other, claims, decoded, rfl⟩⟩, human⟩
    rw [wsTicketClaims, passed]
    dsimp only
    rw [Option.getD_some, removeBearer_bearer, decoded]
    dsimp only
    rw [expires]

/-! ## Tokens that were issued -/

variable {asked : List (TimedRequest T)} {past later : List (AuthExchange T)} {e : AuthExchange T}

/-- What is answered with a token issues it. -/
theorem issued_of_mem (log : cfg.service.log s₀ asked = past ++ later) {x : AuthExchange T} (mem : x ∈ past)
    {token : List Char} {role : String} (answer : x.answer.answer = .loggedIn token role) :
    ∃ claims, cfg.Issued s₀ past claims token := by
  obtain ⟨earlier, rest, rfl⟩ := List.append_of_mem mem
  have split : cfg.service.log s₀ asked = earlier ++ x :: (rest ++ later) := by simpa using log
  have loggedIn := answer
  rw [Service.answer_of_log split] at loggedIn
  obtain ⟨payload, sweeps, request, loggedIn⟩ := handle_loggedIn loggedIn
  obtain ⟨user, known, same, active, verified, rfl, rfl⟩ := login_loggedIn loggedIn
  obtain ⟨⟨clocks, request'⟩, reply⟩ := x
  obtain rfl : request' = .login payload sweeps := request
  exact ⟨_, earlier, clocks, payload, sweeps, reply, rest, user, rfl, answer, known, same, active, verified, rfl, rfl⟩

theorem Issued.role {claims : SessionPayload} {token : List Char} (issued : cfg.Issued s₀ past claims token) :
    ∃ role : UserRole, claims.role = role.value := by
  obtain ⟨_, _, _, _, _, _, user, -, -, -, -, -, -, rfl, -⟩ := issued
  exact ⟨user.role, rfl⟩

omit [Add T] in
theorem decode_encode (own : cfg.DecodesItsOwn) (claims : SessionPayload) (now : Instant) :
    cfg.decodeSessionToken (cfg.jwtEncode claims cfg.sessionSecretKey) now =
      if claims.Live now then some ⟨claims.sub, claims.role, some claims.exp⟩ else none := by
  rw [decodeSessionToken, own claims now]
  by_cases live : claims.Live now
  · rw [if_pos live, if_pos live]
  · rw [if_neg live, if_neg live]

/-- As nobody forges tokens, one decodes if and only if it was issued and is live. -/
theorem decode_eq_some (own : cfg.DecodesItsOwn) (unforged : cfg.Unforged s₀ asked)
    (log : cfg.service.log s₀ asked = past ++ e :: later) {token : List Char}
    (bears : e.asked.request.authorization? = some (bearerPrefix ++ token)) {c : SessionClaims} :
    cfg.decodeSessionToken token e.asked.clocks.now = some c ↔ ∃ claims, cfg.Issued s₀ past claims token ∧
      claims.Live e.asked.clocks.now ∧ c = ⟨claims.sub, claims.role, some claims.exp⟩ := by
  have encoded : ∀ claims, cfg.Issued s₀ past claims token →
      (cfg.decodeSessionToken token e.asked.clocks.now = some c ↔
        claims.Live e.asked.clocks.now ∧ c = ⟨claims.sub, claims.role, some claims.exp⟩) := by
    intro claims issued
    obtain ⟨_, _, _, _, _, _, _, -, -, -, -, -, -, -, rfl⟩ := issued
    rw [decode_encode own]
    by_cases live : claims.Live e.asked.clocks.now
    · rw [if_pos live, Option.some.injEq, eq_comm]
      exact (and_iff_right live).symm
    · rw [if_neg live]
      exact ⟨nofun, fun both => absurd both.1 live⟩
  constructor
  · intro decoded
    have decodes : (cfg.jwtDecode token cfg.sessionSecretKey e.asked.clocks.now).isSome := by
      unfold decodeSessionToken at decoded
      split at decoded
      · simp [*]
      · cases decoded
    obtain ⟨x, mem, role, answer⟩ := unforged past e later log token bears decodes
    obtain ⟨claims, issued⟩ := issued_of_mem log mem answer
    exact ⟨claims, issued, (encoded claims issued).1 decoded⟩
  · rintro ⟨claims, issued, live⟩
    exact (encoded claims issued).2 live

/-! ## Tickets -/

/-- What a request does with the store of the tickets. -/
def ticketCall? (cfg : AuthSettings T) (asked : TimedRequest T) : Option (TicketCall T) :=
  match asked.request with
  | .mintWsTicket authorization ticket sweeps =>
    match cfg.wsTicketClaims authorization asked.clocks.now with
    | .ok claims => some (.mint ticket claims asked.clocks.monotonic sweeps)
    | .error _ => none
  | .chatWs (some ticket) => if ticket = "" then none else some (.redeem ticket asked.clocks.monotonic)
  | _ => none

omit [Add T] in
theorem ticketCall?_eq_mint {x : TimedRequest T} {ticket : String} {claims : WsTicketClaims} {now : T} {sweeps : Bool} :
    cfg.ticketCall? x = some (.mint ticket claims now sweeps) ↔ ∃ authorization,
      x.request = .mintWsTicket authorization ticket sweeps ∧ now = x.clocks.monotonic ∧
        cfg.wsTicketClaims authorization x.clocks.now = .ok claims := by
  obtain ⟨clocks, request⟩ := x
  cases request with
  | mintWsTicket authorization text sweeps' =>
    rw [ticketCall?]
    dsimp only
    cases minted : cfg.wsTicketClaims authorization clocks.now with
    | ok claims' =>
      constructor
      · intro same
        cases same
        exact ⟨authorization, rfl, rfl, minted⟩
      · rintro ⟨_, same, rfl, ok⟩
        cases same
        cases minted.symm.trans ok
        rfl
    | error e =>
      refine ⟨nofun, ?_⟩
      rintro ⟨_, same, -, ok⟩
      cases same
      cases minted.symm.trans ok
  | chatWs ticket' =>
    refine ⟨fun same => ?_, fun ⟨_, same, _⟩ => nomatch same⟩
    cases ticket' with
    | none => cases same
    | some text =>
      rw [ticketCall?] at same
      dsimp only at same
      split at same <;> cases same
  | login payload sweeps' => exact ⟨nofun, fun ⟨_, same, _⟩ => nomatch same⟩
  | call gate authorization => exact ⟨nofun, fun ⟨_, same, _⟩ => nomatch same⟩
  | setUsers users => exact ⟨nofun, fun ⟨_, same, _⟩ => nomatch same⟩

omit [Add T] in
theorem ticketCall?_redeemed {x : TimedRequest T} {ticket : String} :
    (∃ c, cfg.ticketCall? x = some c ∧ c.redeemed? = some ticket) ↔
      x.request = .chatWs (some ticket) ∧ ticket ≠ "" := by
  obtain ⟨clocks, request⟩ := x
  constructor
  · rintro ⟨c, call, redeems⟩
    unfold ticketCall? at call
    split at call
    · split at call <;> cases call
      cases redeems
    · rename_i text request
      split at call <;> cases call
      cases redeems
      exact ⟨request, ‹_›⟩
    · cases call
  · rintro ⟨same, text⟩
    exact ⟨.redeem ticket clocks.monotonic, by rw [ticketCall?, same]; exact if_neg text, rfl⟩

/-- The store is written by these calls. -/
theorem handle_tickets (s : AuthState T) (x : TimedRequest T) : (cfg.handle s x).2.tickets =
    ((cfg.ticketCall? x).toList.foldl (Tickets.call cfg.ticketTtlSeconds) s.tickets) := by
  obtain ⟨clocks, request⟩ := x
  cases request with
  | login payload sweeps =>
    show (cfg.login payload sweeps clocks s).2.tickets = s.tickets
    unfold login
    split
    · rfl
    · dsimp only
      split
      · rfl
      · split
        · rfl
        · split <;> rfl
  | call gate authorization =>
    rw [handle]
    dsimp only
    split <;> rfl
  | mintWsTicket authorization ticket sweeps =>
    show (cfg.mintWsTicket authorization ticket sweeps clocks s).2.tickets = _
    rw [mintWsTicket, ticketCall?]
    dsimp only
    cases cfg.wsTicketClaims authorization clocks.now <;> rfl
  | chatWs ticket =>
    cases ticket with
    | none => rfl
    | some text =>
      show (chatWs (some text) clocks s).2.tickets = _
      rw [chatWs, ticketCall?]
      dsimp only
      split
      · rfl
      · split <;> rfl
  | setUsers users => rfl

theorem after_tickets (asked : List (TimedRequest T)) : (cfg.service.after s₀ asked).tickets =
    (asked.filterMap cfg.ticketCall?).foldl (Tickets.call cfg.ticketTtlSeconds) s₀.tickets := by
  induction asked generalizing s₀ with
  | nil => rfl
  | cons x asked ih =>
    show (cfg.service.after (cfg.handle s₀ x).2 asked).tickets = _
    rw [ih, handle_tickets, List.filterMap_cons]
    cases cfg.ticketCall? x <;> rfl

end AuthSettings

/-- What a redeem returns after some calls. -/
theorem redeem_after {T : Type} [LinearOrder T] [Add T] {ttlSeconds : T} {calls : List (TicketCall T)} {ticket : String}
    {now : T} (made : TicketCalls (calls ++ [.redeem ticket now])) (claims : WsTicketClaims) :
    (Tickets.redeem ticket now (.after ttlSeconds calls)).1 = some claims ↔
      Redeemable ttlSeconds calls ticket now claims := by
  have clocked := made.clocked
  rw [List.map_append] at clocked
  have distinct := made.distinct
  rw [List.filterMap_append] at distinct
  have same : SameFrom now (.after ttlSeconds calls) (.after ttlSeconds (calls.map (·.withoutSweep))) :=
    sameFrom_after clocked
  rw [same.redeem ticket, redeem_eq_some]
  constructor
  · rintro ⟨expiresAt, here, valid⟩
    obtain ⟨earlier, minted, sweeps, later, split, rfl, untried⟩ :=
      (get?_after (List.nodup_append.1 distinct).1 _ _).1 here
    exact ⟨earlier, minted, sweeps, later, split, valid, untried⟩
  · rintro ⟨earlier, minted, sweeps, later, split, valid, untried⟩
    exact ⟨_, (get?_after (List.nodup_append.1 distinct).1 _ _).2
      ⟨earlier, minted, sweeps, later, split, rfl, untried⟩, valid⟩

namespace AuthSettings

variable {T : Type} [LinearOrder T] [Add T] {cfg : AuthSettings T} {s₀ : AuthState T}
  {asked : List (TimedRequest T)} {past later : List (AuthExchange T)} {e : AuthExchange T}

omit [Add T] in
/-- The calls of the store keep the order of the clock, and its tickets are different. -/
theorem ticketCalls_made (clocked : (asked.map (·.clocks.monotonic)).Pairwise (· ≤ ·))
    (distinct : (asked.filterMap (·.request.generated?)).Nodup) : TicketCalls (asked.filterMap cfg.ticketCall?) := by
  have times : ∀ {x : TimedRequest T} {c}, cfg.ticketCall? x = some c → c.now = x.clocks.monotonic := by
    intro x c call
    unfold ticketCall? at call
    split at call
    · split at call <;> cases call
      rfl
    · split at call <;> cases call
      rfl
    · cases call
  constructor
  · rw [List.pairwise_map, List.pairwise_filterMap]
    refine (List.pairwise_map.1 clocked).imp fun le c call c' call' => ?_
    rw [times call, times call']
    exact le
  · rw [List.Nodup, List.pairwise_filterMap] at distinct
    rw [List.filterMap_filterMap, List.Nodup, List.pairwise_filterMap]
    have generated : ∀ {x : TimedRequest T} {ticket}, (cfg.ticketCall? x).bind (·.minted?) = some ticket →
        x.request.generated? = some ticket := by
      intro x ticket minted
      obtain ⟨c, call, mints⟩ := Option.bind_eq_some_iff.1 minted
      cases c with
      | mint text claims now sweeps =>
        cases mints
        obtain ⟨_, request, -⟩ := ticketCall?_eq_mint.1 call
        rw [request]
        rfl
      | redeem text now => cases mints
    exact distinct.imp fun ne ticket mints ticket' mints' => ne ticket (generated mints) ticket' (generated mints')

/-- The ticket is redeemable when a request minted it, not too long ago, and no socket has tried it since. -/
theorem redeemable_iff {text : String} (filled : text ≠ "") {now : T} {ticketClaims : WsTicketClaims} :
    Redeemable cfg.ticketTtlSeconds ((past.map Exchange.asked).filterMap cfg.ticketCall?) text now ticketClaims ↔
      ∃ earlier minted authorization sweeps reply between,
        past = earlier ++ ⟨⟨minted, .mintWsTicket authorization text sweeps⟩, reply⟩ :: between ∧
        cfg.wsTicketClaims authorization minted.now = .ok ticketClaims ∧
        now ≤ minted.monotonic + cfg.ticketTtlSeconds ∧
        ∀ x ∈ between, x.asked.request ≠ .chatWs (some text) := by
  rw [List.filterMap_map]
  constructor
  · rintro ⟨before, minted, sweeps, since, split, valid, untried⟩
    obtain ⟨earlier, rest, rfl, rfl, mints⟩ := List.filterMap_eq_append_iff.1 split
    obtain ⟨between₁, x, between, rfl, -, call, rfl⟩ := List.filterMap_eq_cons_iff.1 mints
    obtain ⟨authorization, request, rfl, ok⟩ := ticketCall?_eq_mint.1 call
    obtain ⟨⟨clocks, request'⟩, reply⟩ := x
    obtain rfl : request' = .mintWsTicket authorization text sweeps := request
    refine ⟨earlier ++ between₁, clocks, authorization, sweeps, reply, between, by simp, ok, valid, ?_⟩
    intro x mem tries
    obtain ⟨c, call, redeems⟩ := ticketCall?_redeemed.2 ⟨tries, filled⟩
    exact untried c (List.mem_filterMap.2 ⟨x, mem, call⟩) redeems
  · rintro ⟨earlier, minted, authorization, sweeps, reply, between, rfl, ok, valid, untried⟩
    refine ⟨_, minted.monotonic, sweeps, _, List.filterMap_eq_append_iff.2 ⟨earlier, _, rfl, rfl,
      List.filterMap_eq_cons_iff.2 ⟨[], _, between, rfl, nofun, ticketCall?_eq_mint.2
        ⟨authorization, rfl, rfl, ok⟩, rfl⟩⟩, valid, fun c mem redeems => ?_⟩
    obtain ⟨x, mem, call⟩ := List.mem_filterMap.1 mem
    exact untried x mem (ticketCall?_redeemed.1 ⟨c, call, redeems⟩).1

/-! ## Routes and sockets -/

theorem handle_ran {x : TimedRequest T} {s : AuthState T} {gate : Gate} {authorization : Option (List Char)}
    (request : x.request = .call gate authorization) {identity : Identity} :
    (cfg.handle s x).1.answer = .ran identity ↔ cfg.check gate authorization x.clocks.now = .ok identity := by
  rw [handle, request]
  dsimp only
  cases cfg.check gate authorization x.clocks.now with
  | error e => exact ⟨nofun, nofun⟩
  | ok found =>
    refine ⟨fun same => ?_, fun same => ?_⟩ <;>
    · cases same
      rfl

theorem handle_accepted {x : TimedRequest T} {s : AuthState T} {ticket : Option String}
    (request : x.request = .chatWs ticket) {ticketClaims : WsTicketClaims} {remaining : ℚ} :
    (cfg.handle s x).1.answer = .accepted ticketClaims remaining ↔ ∃ text, ticket = some text ∧ text ≠ "" ∧
      (s.tickets.redeem text x.clocks.monotonic).1 = some ticketClaims ∧
      remaining = max (ticketClaims.sessionExp - x.clocks.now / second) 0 := by
  rw [handle, request]
  dsimp only
  cases ticket with
  | none => exact ⟨nofun, fun ⟨_, same, _⟩ => nomatch same⟩
  | some text =>
    rw [chatWs]
    dsimp only
    by_cases empty : text = ""
    · rw [if_pos empty]
      refine ⟨nofun, ?_⟩
      rintro ⟨_, same, filled, -⟩
      cases same
      exact absurd empty filled
    · rw [if_neg empty]
      cases redeemed : (s.tickets.redeem text x.clocks.monotonic).1 with
      | none =>
        refine ⟨nofun, ?_⟩
        rintro ⟨_, same, -, here, -⟩
        cases same
        cases redeemed.symm.trans here
      | some claims =>
        constructor
        · intro same
          cases same
          exact ⟨text, rfl, empty, redeemed, rfl⟩
        · rintro ⟨_, same, -, here, rfl⟩
          cases same
          cases redeemed.symm.trans here
          rfl

theorem log_within {α : Type} {log earlier between later : List α} {x e : α}
    (split : log = (earlier ++ x :: between) ++ e :: later) : log = earlier ++ x :: (between ++ e :: later) := by
  rw [split, List.append_assoc, List.cons_append]

/-- A token decodes to a role that the gate lets through if and only if it acts as a session. -/
theorem actsAs_iff (own : cfg.DecodesItsOwn) (unforged : cfg.Unforged s₀ asked)
    (log : cfg.service.log s₀ asked = past ++ e :: later) (gate : Gate) {authorization : Option (List Char)}
    (header : e.asked.request.authorization? = authorization) {c : SessionClaims} :
    (∃ token, authorization = some (bearerPrefix ++ token) ∧ token ≠ cfg.internalServiceToken ∧
      cfg.decodeSessionToken token e.asked.clocks.now = some c ∧ gate.Passes c.role) ↔
    ∃ claims, cfg.ActsAs s₀ past gate authorization e.asked.clocks.now claims ∧
      c = ⟨claims.sub, claims.role, some claims.exp⟩ := by
  constructor
  · rintro ⟨token, rfl, other, decoded, passes⟩
    obtain ⟨claims, issued, live, rfl⟩ := (decode_eq_some own unforged log header).1 decoded
    obtain ⟨role, same⟩ := issued.role
    have admits : gate.Admits role := (gate.passes_value role).1 (same ▸ passes)
    exact ⟨claims, ⟨token, role, rfl, other, issued, live, same, admits⟩, rfl⟩
  · rintro ⟨claims, ⟨token, role, rfl, other, issued, live, same, admits⟩, rfl⟩
    refine ⟨token, rfl, other, (decode_eq_some own unforged log header).2 ⟨claims, issued, live, rfl⟩, ?_⟩
    show gate.Passes claims.role
    rw [same]
    exact (gate.passes_value role).2 admits

/-- Provided that nobody forges a token and no ticket is generated twice: a route runs for the service credential or a
live session that the gate admits, and a socket opens for the ticket of such a session, once. -/
theorem who_acts (own : cfg.DecodesItsOwn) (fresh : s₀.tickets = .empty)
    (clocked : (asked.map (·.clocks.monotonic)).Pairwise (· ≤ ·))
    (distinct : (asked.filterMap (·.request.generated?)).Nodup) (unforged : cfg.Unforged s₀ asked) :
    cfg.WhoActs s₀ asked := by
  constructor
  case ran =>
    intro past e later log gate authorization request identity
    have header : e.asked.request.authorization? = authorization := by
      rw [request]
      rfl
    rw [Service.answer_of_log log]
    show (cfg.handle _ e.asked).1.answer = _ ↔ _
    rw [handle_ran request, check_ok, requireAuthenticated_ok]
    constructor
    · rintro ⟨⟨token, bearer, ⟨rfl, rfl⟩ | ⟨other, c, decoded, rfl⟩⟩, passes⟩
      · exact .inl ⟨bearer, gate.passes_service.1 passes, rfl⟩
      · obtain ⟨claims, acts, rfl⟩ :=
          (actsAs_iff own unforged log gate header).1 ⟨token, bearer, other, decoded, passes⟩
        exact .inr ⟨claims, acts, rfl⟩
    · rintro (⟨bearer, rfl, rfl⟩ | ⟨claims, acts, rfl⟩)
      · exact ⟨⟨_, bearer, .inl ⟨rfl, rfl⟩⟩, trivial⟩
      · obtain ⟨token, bearer, other, decoded, passes⟩ :=
          (actsAs_iff own unforged log gate header).2 ⟨claims, acts, rfl⟩
        exact ⟨⟨token, bearer, .inr ⟨other, _, decoded, rfl⟩⟩, passes⟩
  case accepted =>
    intro past e later log ticket request ticketClaims remaining
    have whole : past.map Exchange.asked ++ [e.asked] <+: asked := by
      refine ⟨later.map Exchange.asked, ?_⟩
      rw [← Service.log_asked (S := cfg.service) (s := s₀) asked, log]
      simp
    have made : TicketCalls ((past.map Exchange.asked ++ [e.asked]).filterMap cfg.ticketCall?) :=
      ticketCalls_made (clocked.sublist (whole.sublist.map _)) (distinct.sublist (whole.sublist.filterMap _))
    rw [List.filterMap_append] at made
    have redeems : ∀ {text}, ticket = some text → text ≠ "" →
        [e.asked].filterMap cfg.ticketCall? = [.redeem text e.asked.clocks.monotonic] := by
      rintro text rfl filled
      have call : cfg.ticketCall? e.asked = some (.redeem text e.asked.clocks.monotonic) := by
        rw [ticketCall?, request]
        exact if_neg filled
      rw [List.filterMap_cons, call]
      rfl
    rw [Service.answer_of_log log]
    show (cfg.handle _ e.asked).1.answer = _ ↔ _
    rw [handle_accepted request, after_tickets, fresh]
    constructor
    · rintro ⟨text, rfl, filled, redeemed, rfl⟩
      rw [redeems rfl filled] at made
      obtain ⟨earlier, minted, authorization, sweeps, reply, between, rfl, ok, valid, untried⟩ :=
        (redeemable_iff filled).1 ((redeem_after made _).1 redeemed)
      obtain ⟨token, c, exp, bearer, other, decoded, human, expires, rfl⟩ := wsTicketClaims_ok.1 ok
      have before := log_within log
      obtain ⟨claims, acts, rfl⟩ := (actsAs_iff own unforged before .rejectServiceRole rfl).1
        ⟨token, bearer, other, decoded, human⟩
      cases expires
      exact ⟨earlier, minted, authorization, text, sweeps, reply, between, claims, rfl, rfl, filled, acts, valid,
        untried, rfl, rfl⟩
    · rintro ⟨earlier, minted, authorization, text, sweeps, reply, between, claims, rfl, rfl, filled, acts, valid,
        untried, rfl, rfl⟩
      rw [redeems rfl filled] at made
      have before := log_within log
      obtain ⟨token, bearer, other, decoded, human⟩ :=
        (actsAs_iff own unforged before .rejectServiceRole rfl).2 ⟨claims, acts, rfl⟩
      have ok : cfg.wsTicketClaims authorization minted.now = .ok ⟨claims.sub, claims.role, claims.exp⟩ :=
        wsTicketClaims_ok.2 ⟨token, _, _, bearer, other, decoded, human, rfl, rfl⟩
      exact ⟨text, rfl, filled, (redeem_after made _).2 ((redeemable_iff filled).2
        ⟨earlier, minted, authorization, sweeps, reply, between, rfl, ok, valid, untried⟩), rfl⟩

/-! ## A session that outlives its user -/

/-- Nothing is forged when every header has the token of the login that came first. -/
theorem unforged_of_first {x : TimedRequest T} {token : List Char} {role : String}
    (answer : (cfg.handle s₀ x).1.answer = .loggedIn token role)
    (only : ∀ y ∈ asked, y.request.authorization? = none ∨
      y.request.authorization? = some (bearerPrefix ++ token)) : cfg.Unforged s₀ (x :: asked) := by
  intro past e later log other header _
  have whole : x :: asked = past.map Exchange.asked ++ e.asked :: later.map Exchange.asked := by
    rw [← Service.log_asked (S := cfg.service) (s := s₀) (x :: asked), log]
    simp
  cases past with
  | nil =>
    obtain ⟨rfl, -⟩ := List.cons.inj whole
    obtain ⟨payload, sweeps, request, -⟩ := handle_loggedIn answer
    rw [request] at header
    cases header
  | cons first past =>
    obtain ⟨here, -⟩ := List.cons.inj log
    have mem : e.asked ∈ asked := by
      rw [(List.cons.inj whole).2]
      exact List.mem_append_right _ (List.mem_cons_self ..)
    refine ⟨first, List.mem_cons_self .., role, ?_⟩
    rcases only e.asked mem with none | same
    · cases none.symm.trans header
    · rw [List.append_cancel_left (Option.some.inj (header.symm.trans same)), ← here]
      exact answer

end AuthSettings

theorem plainAuth_decodesItsOwn : plainAuth.DecodesItsOwn := by
  intro claims now
  show plainDecode (plainEncode claims "key") "key" now = _
  simp only [plainEncode, List.flatMap_cons, plainDecode, readField_field, Option.bind_eq_bind, Option.bind_some,
    readInt_intText, String.ofList_toList, true_and]
  rfl

def adminToken : List Char := plainEncode ⟨"u1", "admin", 0, 3600⟩ "key"

/-- The user is deleted, and the token works up to its expiry. -/
def deletedAdmin : List (TimedRequest ℤ) := [
  ⟨⟨0, 0⟩, .login ⟨"Admin ".toList, "meadow".toList⟩ false⟩,
  ⟨⟨5 * second, 5⟩, .setUsers []⟩,
  ⟨⟨6 * second, 6⟩, .call .requireAdmin (some (bearerPrefix ++ adminToken))⟩,
  ⟨⟨7 * second, 7⟩, .mintWsTicket (some (bearerPrefix ++ adminToken)) "ticket" true⟩,
  ⟨⟨27 * second, 27⟩, .chatWs (some "ticket")⟩,
  ⟨⟨28 * second, 28⟩, .chatWs (some "ticket")⟩,
  ⟨⟨3600 * second, 3600⟩, .call .requireAuthenticated (some (bearerPrefix ++ adminToken))⟩]

theorem who_acts_deletedAdmin : plainAuth.WhoActs ⟨[adminUser], .empty, .empty⟩ deletedAdmin ∧
    (plainAuth.service.log ⟨[adminUser], .empty, .empty⟩ deletedAdmin).map (·.answer.answer) =
      [.loggedIn adminToken "admin", .done, .ran ⟨"u1", "admin"⟩, .ticket "ticket",
        .accepted ⟨"u1", "admin", 3600⟩ 3573, .closed 4401, .refused invalidCredentials] := by
  refine ⟨AuthSettings.who_acts plainAuth_decodesItsOwn rfl (by decide) (by decide) ?_, by decide +kernel⟩
  have answer : (plainAuth.handle ⟨[adminUser], .empty, .empty⟩
      ⟨⟨0, 0⟩, .login ⟨"Admin ".toList, "meadow".toList⟩ false⟩).1.answer = .loggedIn adminToken "admin" := by
    decide +kernel
  exact AuthSettings.unforged_of_first answer (by decide +kernel)

end MeadowOps.Core
