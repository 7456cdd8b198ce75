import MeadowOps.Core.Auth

/-!
# What failed logins tell

Two runs from different tables of users, with the same requests. As long as no login succeeds, the client sees the
same answers, and each costs the same number of password verifications.
-/

namespace MeadowOps.Core

open Lib

def AuthAnswer.isLogin : AuthAnswer → Bool
  | .loggedIn .. => true
  | _ => false

/-- The same request at the same time; what the operator writes may be different. -/
def SameButUsers {T : Type} (asked asked' : TimedRequest T) : Prop :=
  asked.clocks = asked'.clocks ∧ (asked.request = asked'.request ∨
    ∃ users users', asked.request = .setUsers users ∧ asked'.request = .setUsers users')

namespace AuthSettings

variable {T : Type} [LinearOrder T] (cfg : AuthSettings T)

/-- What a login does that does not succeed. -/
def failedLogin (payload : LoginRequest) (sweeps : Bool) (clocks : Clocks T) (attempts : Attempts T) :
    AuthReply × Attempts T :=
  if 254 < payload.email.length ∨ 256 < payload.password.length then (⟨.unprocessable, 0⟩, attempts)
  else
    let checked := cfg.limiter.checkAndRecord (cfg.limiter.key payload.email) clocks.monotonic sweeps attempts
    if !checked.1 then (⟨.refused tooManyAttempts, 0⟩, checked.2) else (⟨.refused invalidCredentials, 1⟩, checked.2)

variable {cfg}

theorem login_failed {payload : LoginRequest} {sweeps : Bool} {clocks : Clocks T} {s : AuthState T}
    (failed : (cfg.login payload sweeps clocks s).1.answer.isLogin = false) :
    cfg.login payload sweeps clocks s = ((cfg.failedLogin payload sweeps clocks s.attempts).1,
      { s with attempts := (cfg.failedLogin payload sweeps clocks s.attempts).2 }) := by
  unfold login at failed ⊢
  unfold failedLogin
  by_cases long : 254 < payload.email.length ∨ 256 < payload.password.length
  · rw [if_pos long, if_pos long]
  · rw [if_neg long] at failed ⊢
    rw [if_neg long]
    dsimp only at failed ⊢
    split
    · rfl
    · rename_i allowed
      rw [if_neg allowed] at failed
      split
      · rfl
      · rename_i user found
        rw [found] at failed
        dsimp only at failed
        split
        · rfl
        · rename_i valid
          rw [found] at valid
          rw [if_neg valid] at failed
          cases failed

variable [Add T]

/-- A request that neither logs in nor writes the users reads and writes the tickets alone. -/
theorem handle_of_tickets (cfg : AuthSettings T) (x : TimedRequest T)
    (login : ∀ payload sweeps, x.request ≠ .login payload sweeps) (write : ∀ users, x.request ≠ .setUsers users)
    (s : AuthState T) :
    cfg.handle s x = ((cfg.handle ⟨[], .empty, s.tickets⟩ x).1,
      { s with tickets := (cfg.handle ⟨[], .empty, s.tickets⟩ x).2.tickets }) := by
  obtain ⟨clocks, request⟩ := x
  cases request with
  | login payload sweeps => exact absurd rfl (login payload sweeps)
  | call gate authorization =>
    simp only [handle]
    cases cfg.check gate authorization clocks.now <;> rfl
  | mintWsTicket authorization ticket sweeps =>
    simp only [handle, mintWsTicket]
    cases cfg.wsTicketClaims authorization clocks.now <;> rfl
  | chatWs ticket =>
    cases ticket with
    | none => rfl
    | some text =>
      simp only [handle, chatWs]
      split
      · rfl
      · cases (s.tickets.redeem text clocks.monotonic).1 <;> rfl
  | setUsers users => exact absurd rfl (write users)

/-- Neither answer is a token: the answers are the same, and what they leave differs in the users only. -/
theorem handle_failed {x x' : TimedRequest T} (same : SameButUsers x x') (s : AuthState T) (users : List User)
    (failed : (cfg.handle s x).1.answer.isLogin = false)
    (failed' : (cfg.handle { s with users } x').1.answer.isLogin = false) :
    (cfg.handle s x).1 = (cfg.handle { s with users } x').1 ∧
      ∃ users', (cfg.handle { s with users } x').2 = { (cfg.handle s x).2 with users := users' } := by
  obtain ⟨clocks, request⟩ := x
  obtain ⟨clocks', request'⟩ := x'
  obtain rfl : clocks = clocks' := same.1
  rcases same.2 with alike | ⟨written, written', rfl, rfl⟩
  · obtain rfl : request = request' := alike
    cases request with
    | login payload sweeps =>
      show (cfg.login payload sweeps clocks s).1 = (cfg.login payload sweeps clocks { s with users }).1 ∧ ∃ users',
        (cfg.login payload sweeps clocks { s with users }).2 =
          { (cfg.login payload sweeps clocks s).2 with users := users' }
      rw [login_failed failed, login_failed failed']
      exact ⟨rfl, users, rfl⟩
    | call gate authorization =>
      have alone := handle_of_tickets cfg ⟨clocks, .call gate authorization⟩ (fun _ _ => nofun) fun _ => nofun
      rw [alone s, alone { s with users }]
      exact ⟨rfl, users, rfl⟩
    | mintWsTicket authorization ticket sweeps =>
      have alone := handle_of_tickets cfg ⟨clocks, .mintWsTicket authorization ticket sweeps⟩ (fun _ _ => nofun) fun _ => nofun
      rw [alone s, alone { s with users }]
      exact ⟨rfl, users, rfl⟩
    | chatWs ticket =>
      have alone := handle_of_tickets cfg ⟨clocks, .chatWs ticket⟩ (fun _ _ => nofun) fun _ => nofun
      rw [alone s, alone { s with users }]
      exact ⟨rfl, users, rfl⟩
    | setUsers written => exact ⟨rfl, written, rfl⟩
  · exact ⟨rfl, written', rfl⟩

/-- A login that fails does not tell whether there is an account, whether it is active, nor its password: not by its
answer, not by the password verifications, and not by what is answered later. -/
theorem failed_logins_tell_nothing (users users' : List User) (attempts : Attempts T) (tickets : Tickets T)
    {asked asked' : List (TimedRequest T)} (same : List.Forall₂ SameButUsers asked asked')
    (failed : ∀ x ∈ cfg.service.log ⟨users, attempts, tickets⟩ asked, x.answer.answer.isLogin = false)
    (failed' : ∀ x ∈ cfg.service.log ⟨users', attempts, tickets⟩ asked', x.answer.answer.isLogin = false) :
    (cfg.service.log ⟨users, attempts, tickets⟩ asked).map Exchange.answer =
      (cfg.service.log ⟨users', attempts, tickets⟩ asked').map Exchange.answer := by
  refine Service.unwind (fun s s' => ∃ users, s' = { s with users }) (fun x => x.answer.answer.isLogin = false)
    ?_ ⟨users', rfl⟩ same failed failed'
  rintro s _ x x' ⟨users, rfl⟩ same failed failed'
  exact handle_failed same s users failed failed'

end AuthSettings

/-- The password is guessed three times, then the account is written, or another one is. -/
def guesses (written : List User) : List (TimedRequest ℤ) := [
  ⟨⟨0, 0⟩, .login ⟨"admin".toList, "garden".toList⟩ false⟩,
  ⟨⟨second, 1⟩, .login ⟨"ADMIN".toList, "orchard".toList⟩ true⟩,
  ⟨⟨2 * second, 2⟩, .login ⟨"admin".toList, "meadow".toList⟩ false⟩,
  ⟨⟨3 * second, 3⟩, .setUsers written⟩,
  ⟨⟨12 * second, 12⟩, .login ⟨"admin".toList, "meadow".toList⟩ false⟩]

def inactiveAdmin : User := { adminUser with isActive := false }

/-- An inactive admin and no admin at all get the same answers. -/
theorem failed_logins_tell_nothing_guesses :
    (plainAuth.service.log ⟨[adminUser], .empty, .empty⟩ (guesses [inactiveAdmin])).map Exchange.answer =
      (plainAuth.service.log ⟨[], .empty, .empty⟩ (guesses [])).map Exchange.answer ∧
    (plainAuth.service.log ⟨[], .empty, .empty⟩ (guesses [])).map Exchange.answer =
      [⟨.refused invalidCredentials, 1⟩, ⟨.refused invalidCredentials, 1⟩, ⟨.refused tooManyAttempts, 0⟩, ⟨.done, 0⟩,
        ⟨.refused invalidCredentials, 1⟩] := by
  refine ⟨AuthSettings.failed_logins_tell_nothing [adminUser] [] .empty .empty ?_ (by decide +kernel)
    (by decide +kernel), by decide +kernel⟩
  exact .cons ⟨rfl, .inl rfl⟩ (.cons ⟨rfl, .inl rfl⟩ (.cons ⟨rfl, .inl rfl⟩
    (.cons ⟨rfl, .inr ⟨_, _, rfl, rfl⟩⟩ (.cons ⟨rfl, .inl rfl⟩ .nil))))

end MeadowOps.Core
