import MeadowOps.Chat.Thread
import MeadowOps.Core.RateLimit
import MeadowOps.Core.WsTickets
import MeadowOps.Lib.Service

/-!
# Logins, sessions and tickets: `app/api/auth.py`, `app/core/auth.py` and `app/core/security.py`

With them the two routes of `app/api/chat.py` that hand out and redeem the tickets of a WebSocket. `argon2` and the
encoding of the tokens are parameters. The table of the users is written by nobody but the operator.
-/

namespace MeadowOps.Core

open Lib Chat
open Db (Instant)

/-- A row of `live.user`. -/
structure User where
  id : String
  email : List Char
  passwordHash : String
  role : UserRole
  isActive : Bool
  deriving DecidableEq, Repr

/-- The payload of a token. `jwt.encode` writes its times as whole seconds. -/
structure SessionPayload where
  sub : String
  role : String
  iat : ℤ
  exp : ℤ
  deriving DecidableEq, Repr

/-- What `jwt.decode` returns of a payload. -/
structure JwtClaims where
  sub : Option String
  role : Option String
  exp : Option ℚ
  deriving DecidableEq, Repr

structure SessionClaims where
  sub : String
  role : String
  exp : Option ℚ
  deriving DecidableEq, Repr

structure Identity where
  userId : String
  role : String
  deriving DecidableEq, Repr

/-- `HTTPException`. -/
structure HttpError where
  statusCode : ℕ
  detail : String
  deriving DecidableEq, Repr

/-- The settings of the app, and what it calls. -/
structure AuthSettings (T : Type) [LinearOrder T] where
  limiter : LoginRateLimiter T
  ticketTtlSeconds : T
  sessionSecretKey : String
  sessionTokenExpHours : ℕ
  internalServiceToken : List Char
  /-- `verify_password`. -/
  verifyPassword : List Char → String → Bool
  dummyPasswordHash : String
  jwtEncode : SessionPayload → String → List Char
  /-- `jwt.decode` at a time, nothing where it raises. -/
  jwtDecode : List Char → String → Instant → Option JwtClaims

/-- `datetime.now(UTC)` and `time.monotonic()`. -/
structure Clocks (T : Type) where
  now : Instant
  monotonic : T
  deriving DecidableEq, Repr

/-- A second, of the instants. -/
def second : ℤ := 1000000

def internalServiceUserId : String := "subsystem2-internal"

def serviceIdentity : Identity := ⟨internalServiceUserId, "service"⟩

def bearerPrefix : List Char := "Bearer ".toList

/-- `authorization.removeprefix("Bearer ")`. -/
def removeBearer (authorization : List Char) : List Char :=
  if bearerPrefix.isPrefixOf authorization then authorization.drop bearerPrefix.length else authorization

def malformedHeader : HttpError := ⟨401, "Missing or malformed Authorization header"⟩

def invalidCredentials : HttpError := ⟨401, "Invalid credentials"⟩

def tooManyAttempts : HttpError := ⟨429, "Too many login attempts, try again later"⟩

/-- The dependency that stands before a route. -/
inductive Gate where
  | requireAuthenticated
  | requireAdmin
  | rejectServiceRole
  | requireAnalyst
  deriving DecidableEq, Repr

structure LoginRequest where
  email : List Char
  password : List Char
  deriving DecidableEq, Repr

/-- A request, with the generated ticket and what `random` decides about the sweeps. -/
inductive AuthRequest where
  | login (payload : LoginRequest) (sweeps : Bool)
  /-- A route behind a gate. -/
  | call (gate : Gate) (authorization : Option (List Char))
  | mintWsTicket (authorization : Option (List Char)) (ticket : String) (sweeps : Bool)
  | chatWs (ticket : Option String)
  /-- The operator writes the table of the users. -/
  | setUsers (users : List User)
  deriving DecidableEq, Repr

structure TimedRequest (T : Type) where
  clocks : Clocks T
  request : AuthRequest
  deriving DecidableEq, Repr

inductive AuthAnswer where
  | loggedIn (accessToken : List Char) (role : String)
  /-- The body of the route runs. -/
  | ran (identity : Identity)
  | ticket (ticket : String)
  /-- The socket is open, for some seconds. -/
  | accepted (claims : WsTicketClaims) (remaining : ℚ)
  | closed (code : ℕ)
  | refused (error : HttpError)
  | unprocessable
  /-- Another exception: the client sees a 500. -/
  | failed
  | done
  deriving DecidableEq, Repr

/-- An answer, and how many passwords `argon2` verified for it. -/
structure AuthReply where
  answer : AuthAnswer
  verifications : ℕ
  deriving DecidableEq, Repr

structure AuthState (T : Type) where
  users : List User
  attempts : Attempts T
  tickets : Tickets T

namespace AuthSettings

variable {T : Type} [LinearOrder T] (cfg : AuthSettings T)

/-! ## Tokens -/

/-- The payload of the token that `create_session_token` makes. -/
def sessionPayload (userId role : String) (now : Instant) : SessionPayload where
  sub := userId
  role := role
  iat := now / second
  exp := (now + cfg.sessionTokenExpHours * 3600 * second) / second

def createSessionToken (userId role : String) (now : Instant) : List Char :=
  cfg.jwtEncode (cfg.sessionPayload userId role now) cfg.sessionSecretKey

/-- `decode_session_token`, nothing where it raises `InvalidSessionToken`. -/
def decodeSessionToken (token : List Char) (now : Instant) : Option SessionClaims :=
  match cfg.jwtDecode token cfg.sessionSecretKey now with
  | some ⟨some sub, some role, exp⟩ => some ⟨sub, role, exp⟩
  | _ => none

/-! ## Gates -/

def requireAuthenticated (authorization : Option (List Char)) (now : Instant) : Except HttpError Identity :=
  match authorization with
  | none => .error malformedHeader
  | some authorization =>
    if ¬bearerPrefix.isPrefixOf authorization then .error malformedHeader
    else
      let token := removeBearer authorization
      if token = cfg.internalServiceToken then .ok serviceIdentity
      else
        match cfg.decodeSessionToken token now with
        | none => .error invalidCredentials
        | some claims => .ok ⟨claims.sub, claims.role⟩

def requireAdmin (authorization : Option (List Char)) (now : Instant) : Except HttpError Identity := do
  let identity ← cfg.requireAuthenticated authorization now
  if identity.role ≠ "admin" then throw ⟨403, "Admin role required"⟩
  return identity

def rejectServiceRole (authorization : Option (List Char)) (now : Instant) : Except HttpError Identity := do
  let identity ← cfg.requireAuthenticated authorization now
  if identity.role = "service" then throw ⟨403, "Internal service credential cannot access this route"⟩
  return identity

def requireAnalyst (authorization : Option (List Char)) (now : Instant) : Except HttpError Identity := do
  let identity ← cfg.rejectServiceRole authorization now
  if identity.role ≠ "analyst" then throw ⟨403, "Analyst role required"⟩
  return identity

def check : Gate → Option (List Char) → Instant → Except HttpError Identity
  | .requireAuthenticated => cfg.requireAuthenticated
  | .requireAdmin => cfg.requireAdmin
  | .rejectServiceRole => cfg.rejectServiceRole
  | .requireAnalyst => cfg.requireAnalyst

/-! ## Routes -/

def login (payload : LoginRequest) (sweeps : Bool) (clocks : Clocks T) (state : AuthState T) :
    AuthReply × AuthState T :=
  if 254 < payload.email.length ∨ 256 < payload.password.length then (⟨.unprocessable, 0⟩, state)
  else
    let email := cfg.limiter.key payload.email
    let checked := cfg.limiter.checkAndRecord email clocks.monotonic sweeps state.attempts
    if !checked.1 then (⟨.refused tooManyAttempts, 0⟩, { state with attempts := checked.2 })
    else
      let user := state.users.find? fun user => user.email = email
      -- A missing account costs a verification as well.
      let hashToCheck := (user.map User.passwordHash).getD cfg.dummyPasswordHash
      let passwordOk := cfg.verifyPassword payload.password hashToCheck
      match user with
      | none => (⟨.refused invalidCredentials, 1⟩, { state with attempts := checked.2 })
      | some user =>
        if !user.isActive || !passwordOk then
          (⟨.refused invalidCredentials, 1⟩, { state with attempts := checked.2 })
        else
          let token := cfg.createSessionToken user.id user.role.value clocks.now
          (⟨.loggedIn token user.role.value, 1⟩, { state with attempts := cfg.limiter.reset email checked.2 })

/-- What `mint_ws_ticket_route` mints a ticket for, or its answer. -/
def wsTicketClaims (authorization : Option (List Char)) (now : Instant) : Except AuthAnswer WsTicketClaims :=
  match cfg.rejectServiceRole authorization now with
  | .error e => .error (.refused e)
  | .ok identity =>
    match cfg.decodeSessionToken (removeBearer (authorization.getD [])) now with
    | none => .error (.refused invalidCredentials)
    | some claims =>
      match claims.exp with
      | none => .error .failed
      | some exp => .ok ⟨identity.userId, identity.role, exp⟩

def mintWsTicket [Add T] (authorization : Option (List Char)) (ticket : String) (sweeps : Bool) (clocks : Clocks T)
    (state : AuthState T) : AuthReply × AuthState T :=
  match cfg.wsTicketClaims authorization clocks.now with
  | .error answer => (⟨answer, 0⟩, state)
  | .ok claims =>
    let tickets := state.tickets.mint cfg.ticketTtlSeconds ticket claims clocks.monotonic sweeps
    (⟨.ticket ticket, 0⟩, { state with tickets })

/-- `chat_ws`, up to the registry of the connections. The socket is closed when the remaining seconds are over. -/
def chatWs (ticket : Option String) (clocks : Clocks T) (state : AuthState T) : AuthReply × AuthState T :=
  match ticket with
  | none => (⟨.closed 4401, 0⟩, state)
  | some ticket =>
    if ticket = "" then (⟨.closed 4401, 0⟩, state)
    else
      let redeemed := state.tickets.redeem ticket clocks.monotonic
      let state := { state with tickets := redeemed.2 }
      match redeemed.1 with
      | none => (⟨.closed 4401, 0⟩, state)
      | some claims => (⟨.accepted claims (max (claims.sessionExp - clocks.now / second) 0), 0⟩, state)

def handle [Add T] (state : AuthState T) (asked : TimedRequest T) : AuthReply × AuthState T :=
  match asked.request with
  | .login payload sweeps => cfg.login payload sweeps asked.clocks state
  | .call gate authorization =>
    match cfg.check gate authorization asked.clocks.now with
    | .error e => (⟨.refused e, 0⟩, state)
    | .ok identity => (⟨.ran identity, 0⟩, state)
  | .mintWsTicket authorization ticket sweeps => cfg.mintWsTicket authorization ticket sweeps asked.clocks state
  | .chatWs ticket => chatWs ticket asked.clocks state
  | .setUsers users => (⟨.done, 0⟩, { state with users })

def service [Add T] : Service (AuthState T) (TimedRequest T) AuthReply := ⟨cfg.handle⟩

end AuthSettings

/-! ## Settings to run it with -/

/-- A text that tells where it ends. -/
def field (s : List Char) : List Char := s.flatMap (fun c => [' ', c]) ++ ['.']

def readField : List Char → Option (List Char × List Char)
  | '.' :: rest => some ([], rest)
  | ' ' :: c :: rest => (readField rest).map fun read => (c :: read.1, read.2)
  | _ => none

theorem readField_field (s rest : List Char) : readField (field s ++ rest) = some (s, rest) := by
  induction s with
  | nil => rfl
  | cons c s ih =>
    show (readField (field s ++ rest)).map _ = _
    rw [ih]
    rfl

def intText (z : ℤ) : List Char := (if z < 0 then '-' else '+') :: Nat.toDigits 16 z.natAbs

def readInt : List Char → Option ℤ
  | '-' :: digits => (hexNumber digits).map fun n : ℕ => -(n : ℤ)
  | '+' :: digits => (hexNumber digits).map fun n : ℕ => (n : ℤ)
  | _ => none

theorem readInt_intText (z : ℤ) : readInt (intText z) = some z := by
  unfold intText
  by_cases negative : z < 0
  · rw [if_pos negative, readInt, hexNumber_toDigits, Option.map_some, Int.ofNat_natAbs_of_nonpos negative.le, neg_neg]
  · rw [if_neg negative, readInt, hexNumber_toDigits, Option.map_some, Int.natAbs_of_nonneg (not_lt.1 negative)]

/-- A token with the key in plain text. -/
def plainEncode (claims : SessionPayload) (secret : String) : List Char :=
  [secret.toList, claims.sub.toList, claims.role.toList, intText claims.iat, intText claims.exp].flatMap field

def plainDecode (token : List Char) (secret : String) (now : Instant) : Option JwtClaims := do
  let (key, token) ← readField token
  let (sub, token) ← readField token
  let (role, token) ← readField token
  let (iat, token) ← readField token
  let (exp, _) ← readField token
  let iat ← readInt iat
  let exp ← readInt exp
  if key = secret.toList ∧ iat * second ≤ now ∧ now < exp * second then
    some ⟨some (String.ofList sub), some (String.ofList role), some exp⟩
  else none

/-- Sessions of one hour, tickets of 20 seconds. -/
def plainAuth : AuthSettings ℤ where
  limiter := twoInTen
  ticketTtlSeconds := 20
  sessionSecretKey := "key"
  sessionTokenExpHours := 1
  internalServiceToken := "service".toList
  verifyPassword password hash := decide (String.ofList password = hash)
  dummyPasswordHash := "-"
  jwtEncode := plainEncode
  jwtDecode := plainDecode

def adminUser : User := ⟨"u1", "admin".toList, "meadow", .admin, true⟩

end MeadowOps.Core
