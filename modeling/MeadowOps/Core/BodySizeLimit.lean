import Mathlib.Data.List.Basic
import Mathlib.Algebra.Order.Group.Nat

/-!
# `app/core/body_size_limit.py`

The app behind the middleware is arbitrary: what it does next depends on what its awaits have returned, and it may
catch what `receive` raises and go on. It never gets more of a body than the cap, and one within the cap does not
tell that the middleware is there.
-/

namespace MeadowOps.Core

/-- A message of the server. -/
inductive HttpMessage where
  | request (body : List UInt8) (moreBody : Bool)
  | disconnect
  deriving DecidableEq, Repr

/-- What an await of the app returns, or that it raises `RequestBodyTooLargeError`. -/
inductive Awaited where
  | message (message : HttpMessage)
  | tooLarge
  | sent
  deriving DecidableEq, Repr

inductive AppStep (ω ρ : Type) where
  | receive
  | send (frame : ω)
  /-- It returns or raises. -/
  | stop (result : ρ)

/-- `ASGIApp`: its next step, by what its awaits have returned. -/
abbrev AsgiApp (ω ρ : Type) := List Awaited → AppStep ω ρ

inductive AppEvent (ω ρ : Type) where
  | received (awaited : Awaited)
  | sent (frame : ω)
  | stopped (result : ρ)
  deriving DecidableEq, Repr

/-- What the middleware reads of `scope`. -/
structure Scope where
  type : String
  headers : List (String × String)

variable {ω ρ σ : Type}

/-- The first steps of an app, with a `receive` that has a state of its own. It waits when no message has come. -/
def runApp (app : AsgiApp ω ρ) (receive : σ → HttpMessage → Awaited × σ) :
    ℕ → σ → List Awaited → List HttpMessage → List (AppEvent ω ρ)
  | 0, _, _, _ => []
  | n + 1, s, past, messages =>
    match app past with
    | .receive =>
      match messages with
      | [] => []
      | m :: messages =>
        .received (receive s m).1 :: runApp app receive n (receive s m).2 (past ++ [(receive s m).1]) messages
    | .send frame => .sent frame :: runApp app receive n s (past ++ [.sent]) messages
    | .stop result => [.stopped result]

section RunApp

variable {app : AsgiApp ω ρ} {receive : σ → HttpMessage → Awaited × σ} {n : ℕ} {s : σ} {past : List Awaited}
  {messages : List HttpMessage}

theorem runApp_receive (step : app past = .receive) (m : HttpMessage) :
    runApp app receive (n + 1) s past (m :: messages) =
      .received (receive s m).1 :: runApp app receive n (receive s m).2 (past ++ [(receive s m).1]) messages := by
  simp only [runApp, step]

theorem runApp_waits (step : app past = .receive) : runApp app receive n s past [] = [] := by
  cases n <;> simp only [runApp, step]

theorem runApp_send {frame : ω} (step : app past = .send frame) :
    runApp app receive (n + 1) s past messages =
      .sent frame :: runApp app receive n s (past ++ [.sent]) messages := by
  simp only [runApp, step]

theorem runApp_stop {result : ρ} (step : app past = .stop result) :
    runApp app receive (n + 1) s past messages = [.stopped result] := by
  simp only [runApp, step]

end RunApp

/-- The `receive` of the server. -/
def plainReceive (_ : Unit) (m : HttpMessage) : Awaited × Unit := (.message m, ())

def limitedReceive (maxBytes : ℕ) (total : ℕ) : HttpMessage → Awaited × ℕ
  | .request body moreBody =>
    let total := total + body.length
    if maxBytes < total then (.tooLarge, total) else (.message (.request body moreBody), total)
  | .disconnect => (.message .disconnect, total)

/-- The `content-length` of a request: the last one, unless `int` raises. -/
def declaredLength (int : String → Option ℤ) (scope : Scope) : Option ℤ :=
  (scope.headers.reverse.lookup "content-length").bind int

/-- `MaxBodySizeMiddleware.__call__`, by the steps that the app makes in it; `tooLargeResponse` are the frames of the
413. -/
def maxBodySizeMiddleware (maxBytes : ℕ) (int : String → Option ℤ) (tooLargeResponse : List ω) (scope : Scope)
    (app : AsgiApp ω ρ) (n : ℕ) (messages : List HttpMessage) : List (AppEvent ω ρ) :=
  if scope.type ≠ "http" then runApp app plainReceive n () [] messages
  else
    match declaredLength int scope with
    | some declared =>
      if (maxBytes : ℤ) < declared then tooLargeResponse.map .sent
      else runApp app (limitedReceive maxBytes) n 0 [] messages
    | none => runApp app (limitedReceive maxBytes) n 0 [] messages

/-- How much of the body the app has got. -/
def bodyBytes : List (AppEvent ω ρ) → ℕ
  | [] => 0
  | .received (.message (.request body _)) :: events => body.length + bodyBytes events
  | _ :: events => bodyBytes events

/-- The declared length is above the cap. -/
def DeclaresTooLarge (maxBytes : ℕ) (int : String → Option ℤ) (scope : Scope) : Prop :=
  ∃ declared, declaredLength int scope = some declared ∧ (maxBytes : ℤ) < declared

structure BodyCapped (maxBytes : ℕ) (int : String → Option ℤ) (tooLargeResponse : List ω) (scope : Scope)
    (app : AsgiApp ω ρ) (n : ℕ) (messages : List HttpMessage) : Prop where
  bounded : bodyBytes (maxBodySizeMiddleware maxBytes int tooLargeResponse scope app n messages) ≤ maxBytes
  /-- The app does not run, and nothing is received. -/
  refused : DeclaresTooLarge maxBytes int scope →
    maxBodySizeMiddleware maxBytes int tooLargeResponse scope app n messages = tooLargeResponse.map .sent
  transparent : ¬DeclaresTooLarge maxBytes int scope → bodyBytes (runApp app plainReceive n () [] messages) ≤ maxBytes →
    maxBodySizeMiddleware maxBytes int tooLargeResponse scope app n messages =
      runApp app plainReceive n () [] messages
  /-- An app that goes on after the error gets nothing more. -/
  final : ∀ before after,
    maxBodySizeMiddleware maxBytes int tooLargeResponse scope app n messages =
      before ++ .received .tooLarge :: after → bodyBytes after = 0

/-! ## The limited `receive` -/

theorem bodyBytes_limited (app : AsgiApp ω ρ) (maxBytes n total : ℕ) (past : List Awaited)
    (messages : List HttpMessage) :
    bodyBytes (runApp app (limitedReceive maxBytes) n total past messages) ≤ maxBytes - total := by
  induction n generalizing total past messages with
  | zero => exact Nat.zero_le _
  | succ n ih =>
    cases step : app past with
    | receive =>
      cases messages with
      | nil =>
        rw [runApp_waits step]
        exact Nat.zero_le _
      | cons m messages =>
        rw [runApp_receive step]
        cases m with
        | disconnect => exact ih total _ messages
        | request body moreBody =>
          have rest := fun past => ih (total + body.length) past messages
          simp only [limitedReceive]
          by_cases exceeds : maxBytes < total + body.length
          · simp only [if_pos exceeds, bodyBytes]
            exact (rest _).trans (by omega)
          · simp only [if_neg exceeds, bodyBytes]
            exact (Nat.add_le_add_left (rest _) _).trans (by omega)
    | send frame =>
      rw [runApp_send step]
      exact ih total _ messages
    | stop result =>
      rw [runApp_stop step]
      exact Nat.zero_le _

variable {app : AsgiApp ω ρ} {maxBytes : ℕ}

theorem limited_eq_plain (n total : ℕ) (past : List Awaited) (messages : List HttpMessage)
    (within : total + bodyBytes (runApp app plainReceive n () past messages) ≤ maxBytes) :
    runApp app (limitedReceive maxBytes) n total past messages = runApp app plainReceive n () past messages := by
  induction n generalizing total past messages with
  | zero => rfl
  | succ n ih =>
    cases step : app past with
    | receive =>
      cases messages with
      | nil => rw [runApp_waits step, runApp_waits step]
      | cons m messages =>
        rw [runApp_receive step] at within
        rw [runApp_receive step, runApp_receive step]
        cases m with
        | disconnect => exact congrArg _ (ih total _ messages within)
        | request body moreBody =>
          simp only [plainReceive, bodyBytes, ← Nat.add_assoc] at within
          have fits : ¬maxBytes < total + body.length := by omega
          simp only [limitedReceive, if_neg fits, plainReceive]
          exact congrArg _ (ih _ _ messages within)
    | send frame =>
      rw [runApp_send step] at within
      rw [runApp_send step, runApp_send step]
      exact congrArg _ (ih total _ messages within)
    | stop result => rw [runApp_stop step, runApp_stop step]

theorem limited_final (n total : ℕ) (past : List Awaited) (messages : List HttpMessage)
    {before after : List (AppEvent ω ρ)} (split : runApp app (limitedReceive maxBytes) n total past messages =
      before ++ .received .tooLarge :: after) : bodyBytes after = 0 := by
  induction n generalizing total past messages before with
  | zero => simp [runApp] at split
  | succ n ih =>
    cases step : app past with
    | receive =>
      cases messages with
      | nil =>
        rw [runApp_waits step] at split
        simp at split
      | cons m messages =>
        rw [runApp_receive step] at split
        cases before with
        | cons first before => exact ih _ _ messages (List.cons.inj split).2
        | nil =>
          obtain ⟨raised, rest⟩ := List.cons.inj split
          cases m with
          | disconnect => cases raised
          | request body moreBody =>
            by_cases exceeds : maxBytes < total + body.length
            · -- The total is above the cap from here on.
              have left := bodyBytes_limited app maxBytes n (limitedReceive maxBytes total (.request body moreBody)).2
                (past ++ [(limitedReceive maxBytes total (.request body moreBody)).1]) messages
              rw [rest] at left
              simp only [limitedReceive, if_pos exceeds] at left
              omega
            · simp [limitedReceive, exceeds] at raised
    | send frame =>
      rw [runApp_send step] at split
      cases before with
      | nil => cases split
      | cons first before => exact ih _ _ messages (List.cons.inj split).2
    | stop result =>
      rw [runApp_stop step] at split
      cases before with
      | nil => cases split
      | cons first before => simp at split

/-- The cap holds whatever the app does with the error, and a body within it comes through as without the
middleware. -/
theorem body_size_capped (int : String → Option ℤ) (tooLargeResponse : List ω) {scope : Scope}
    (http : scope.type = "http") (app : AsgiApp ω ρ) (maxBytes n : ℕ) (messages : List HttpMessage) :
    BodyCapped maxBytes int tooLargeResponse scope app n messages := by
  have sends : ∀ frames : List ω, bodyBytes (frames.map (AppEvent.sent (ρ := ρ))) = 0 := by
    intro frames
    induction frames with
    | nil => rfl
    | cons frame frames ih => exact ih
  by_cases exceeds : DeclaresTooLarge maxBytes int scope
  · have refused : maxBodySizeMiddleware maxBytes int tooLargeResponse scope app n messages =
        tooLargeResponse.map .sent := by
      obtain ⟨declared, read, exceeds⟩ := exceeds
      rw [maxBodySizeMiddleware, if_neg (not_not.2 http), read]
      exact if_pos exceeds
    refine ⟨?_, fun _ => refused, fun not => absurd exceeds not, fun before after split => ?_⟩
    · rw [refused, sends]
      exact Nat.zero_le _
    · have mem : AppEvent.received .tooLarge ∈ tooLargeResponse.map (AppEvent.sent (ρ := ρ)) := by
        rw [← refused, split]
        exact List.mem_append_right _ (List.mem_cons_self ..)
      simp at mem
  · have runs : maxBodySizeMiddleware maxBytes int tooLargeResponse scope app n messages =
        runApp app (limitedReceive maxBytes) n 0 [] messages := by
      rw [maxBodySizeMiddleware, if_neg (not_not.2 http)]
      cases read : declaredLength int scope with
      | none => rfl
      | some declared => exact if_neg fun large => exceeds ⟨declared, read, large⟩
    refine ⟨?_, fun large => absurd large exceeds, fun _ within => ?_, fun before after split => ?_⟩
    · rw [runs]
      exact bodyBytes_limited app maxBytes n 0 [] messages
    · rw [runs]
      exact limited_eq_plain n 0 [] messages (by rwa [Nat.zero_add])
    · rw [runs] at split
      exact limited_final n 0 [] messages split

/-- Reads four messages, whatever comes. -/
def reader : AsgiApp Unit Unit := fun past => if past.length < 4 then .receive else .stop ()

/-- The header says 3 bytes, and 6 come. -/
theorem body_size_capped_reader :
    let int := fun text => if text = "3" then some 3 else none
    let scope : Scope := ⟨"http", [("content-length", "3")]⟩
    let messages : List HttpMessage := [.request [1, 2, 3] true, .request [4, 5, 6] true, .request [] false, .disconnect]
    BodyCapped 5 int [()] scope reader 9 messages ∧
      maxBodySizeMiddleware 5 int [()] scope reader 9 messages =
        [.received (.message (.request [1, 2, 3] true)), .received .tooLarge, .received .tooLarge,
          .received (.message .disconnect), .stopped ()] :=
  ⟨body_size_capped _ _ rfl _ _ _ _, by decide +kernel⟩

end MeadowOps.Core
