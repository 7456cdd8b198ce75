import MeadowOps.Core.FailedLogins

/-!
# How often a password can be guessed

`login` asks the limiter before it verifies a password, and has it forget the attempts only after a success. So the
limit on the attempts is one on the passwords that are verified. Requests are answered one after another: guesses
that are under way when a success resets the limiter are not covered.
-/

namespace MeadowOps.Core

open Lib

namespace AuthSettings

variable {T : Type} [LinearOrder T] (cfg : AuthSettings T)

/-- The entry of the limiter for an email: `login` and the limiter both normalise it. -/
def limiterKey (email : List Char) : List Char := cfg.limiter.key (cfg.limiter.key email)

/-- The times at which a password was verified in vain for a key of the limiter, after one more exchange. A success
starts anew. -/
def guessed (key : List Char) (times : List T) (x : Exchange (TimedRequest T) AuthReply) : List T :=
  match x.asked.request with
  | .login payload _ =>
    if key = cfg.limiterKey payload.email then
      if x.answer.answer.isLogin then []
      else times ++ List.replicate x.answer.verifications x.asked.clocks.monotonic
    else times
  | _ => times

def guessesIn (log : List (Exchange (TimedRequest T) AuthReply)) (key : List Char) : List T :=
  log.foldl (cfg.guessed key) []

variable {cfg}

/-- What a login does with the attempts: nothing, a refusal, a verification in vain, or a success. -/
inductive LoginAttempt (cfg : AuthSettings T) (payload : LoginRequest) (sweeps : Bool) (clocks : Clocks T)
    (attempts : Attempts T) : AuthReply → Attempts T → Prop
  | unprocessable : LoginAttempt cfg payload sweeps clocks attempts ⟨.unprocessable, 0⟩ attempts
  | tooMany (refused : (cfg.limiter.checkAndRecord (cfg.limiter.key payload.email) clocks.monotonic sweeps
      attempts).1 = false) : LoginAttempt cfg payload sweeps clocks attempts ⟨.refused tooManyAttempts, 0⟩
        (cfg.limiter.checkAndRecord (cfg.limiter.key payload.email) clocks.monotonic sweeps attempts).2
  | invalid (allowed : (cfg.limiter.checkAndRecord (cfg.limiter.key payload.email) clocks.monotonic sweeps
      attempts).1 = true) : LoginAttempt cfg payload sweeps clocks attempts ⟨.refused invalidCredentials, 1⟩
        (cfg.limiter.checkAndRecord (cfg.limiter.key payload.email) clocks.monotonic sweeps attempts).2
  | loggedIn {token : List Char} {role : String} (allowed : (cfg.limiter.checkAndRecord
      (cfg.limiter.key payload.email) clocks.monotonic sweeps attempts).1 = true) :
      LoginAttempt cfg payload sweeps clocks attempts ⟨.loggedIn token role, 1⟩
        (cfg.limiter.reset (cfg.limiter.key payload.email)
          (cfg.limiter.checkAndRecord (cfg.limiter.key payload.email) clocks.monotonic sweeps attempts).2)

theorem login_attempt (payload : LoginRequest) (sweeps : Bool) (clocks : Clocks T) (s : AuthState T) :
    LoginAttempt cfg payload sweeps clocks s.attempts (cfg.login payload sweeps clocks s).1
      (cfg.login payload sweeps clocks s).2.attempts := by
  unfold login
  split
  · exact .unprocessable
  · dsimp only
    split
    · rename_i refused
      exact .tooMany (by simpa using refused)
    · rename_i allowed
      rw [Bool.not_eq_true', Bool.not_eq_false] at allowed
      split
      · exact .invalid allowed
      · split
        · exact .invalid allowed
        · exact .loggedIn allowed

/-- The limiter knows the recent guesses, and they were admitted one after another. -/
structure GuessInv (cfg : AuthSettings T) (past : List (Exchange (TimedRequest T) AuthReply))
    (attempts : Attempts T) : Prop where
  agree : ∀ t, (∀ x ∈ past, x.asked.clocks.monotonic ≤ t) → cfg.limiter.Agree attempts (cfg.guessesIn past) t
  admits : ∀ key, cfg.limiter.window.Admits cfg.limiter.maxAttempts (cfg.guessesIn past key)

theorem guessesIn_snoc (past : List (Exchange (TimedRequest T) AuthReply)) (x : Exchange (TimedRequest T) AuthReply) :
    cfg.guessesIn (past ++ [x]) = fun key => cfg.guessed key (cfg.guessesIn past key) x := by
  funext key
  rw [guessesIn, List.foldl_append]
  rfl

/-- The answer of the limiter and the guesses are those of `LoginRateLimiter.record`. -/
theorem GuessInv.attempt {past : List (Exchange (TimedRequest T) AuthReply)} {attempts left : Attempts T}
    (h : GuessInv cfg past attempts) {clocks : Clocks T}
    (now : ∀ x ∈ past, x.asked.clocks.monotonic ≤ clocks.monotonic)
    {payload : LoginRequest} {sweeps : Bool} {reply : AuthReply}
    (step : LoginAttempt cfg payload sweeps clocks attempts reply left) :
    GuessInv cfg (past ++ [⟨⟨clocks, .login payload sweeps⟩, reply⟩]) left := by
  obtain ⟨answer, next⟩ := (h.agree clocks.monotonic now).checkAndRecord (cfg.limiter.key payload.email) sweeps
  have before : ∀ {t}, (∀ x ∈ past ++ [(⟨⟨clocks, .login payload sweeps⟩, reply⟩ : Exchange _ AuthReply)],
      x.asked.clocks.monotonic ≤ t) → clocks.monotonic ≤ t ∧ cfg.limiter.Agree attempts (cfg.guessesIn past) t :=
    fun later => ⟨later _ (List.mem_append_right _ (List.mem_singleton_self _)),
      h.agree _ fun x mem => later x (List.mem_append_left _ mem)⟩
  cases step with
  | unprocessable =>
    have same : cfg.guessesIn (past ++ [⟨⟨clocks, .login payload sweeps⟩, ⟨.unprocessable, 0⟩⟩]) =
        cfg.guessesIn past := by
      rw [guessesIn_snoc]
      funext key
      simp [guessed, AuthAnswer.isLogin]
    exact ⟨fun t later => same ▸ (before later).2, fun key => same ▸ h.admits key⟩
  | tooMany refused =>
    have same : cfg.guessesIn (past ++ [⟨⟨clocks, .login payload sweeps⟩, ⟨.refused tooManyAttempts, 0⟩⟩]) =
        cfg.guessesIn past := by
      rw [guessesIn_snoc]
      funext key
      simp [guessed, AuthAnswer.isLogin]
    rw [refused] at answer
    refine ⟨fun t later => ?_, fun key => same ▸ h.admits key⟩
    have known := next t (before later).1 (before later).2
    rw [← answer] at known
    rw [same]
    exact known
  | invalid allowed =>
    rw [allowed] at answer
    have grown : cfg.guessesIn (past ++ [⟨⟨clocks, .login payload sweeps⟩, ⟨.refused invalidCredentials, 1⟩⟩]) =
        cfg.limiter.record (cfg.guessesIn past)
          ⟨.checkAndRecord (cfg.limiter.key payload.email) clocks.monotonic sweeps, some true⟩ := by
      rw [guessesIn_snoc]
      funext key
      by_cases mine : key = cfg.limiter.key (cfg.limiter.key payload.email) <;>
        simp [guessed, limiterKey, LoginRateLimiter.record, AuthAnswer.isLogin, mine]
    refine ⟨fun t later => ?_, fun key => ?_⟩
    · have known := next t (before later).1 (before later).2
      rw [← answer] at known
      rw [grown]
      exact known
    · rw [grown]
      exact LoginRateLimiter.admits_record h.admits answer key
  | @loggedIn token role allowed =>
    rw [allowed] at answer
    have anew : cfg.guessesIn (past ++ [⟨⟨clocks, .login payload sweeps⟩, ⟨.loggedIn token role, 1⟩⟩]) =
        cfg.limiter.record (cfg.limiter.record (cfg.guessesIn past)
          ⟨.checkAndRecord (cfg.limiter.key payload.email) clocks.monotonic sweeps, some true⟩)
          ⟨.reset (cfg.limiter.key payload.email), none⟩ := by
      rw [guessesIn_snoc]
      funext key
      by_cases mine : key = cfg.limiter.key (cfg.limiter.key payload.email) <;>
        simp [guessed, limiterKey, LoginRateLimiter.record, AuthAnswer.isLogin, mine]
    refine ⟨fun t later => ?_, fun key => ?_⟩
    · have known := next t (before later).1 (before later).2
      rw [← answer] at known
      rw [anew]
      exact known.reset _
    · rw [anew]
      exact LoginRateLimiter.admits_record (fun key => LoginRateLimiter.admits_record h.admits answer key) rfl key

/-- Another request is no guess. -/
theorem GuessInv.other {past : List (Exchange (TimedRequest T) AuthReply)} {attempts : Attempts T}
    (h : GuessInv cfg past attempts) {x : TimedRequest T} (other : ∀ payload sweeps, x.request ≠ .login payload sweeps)
    (reply : AuthReply) : GuessInv cfg (past ++ [⟨x, reply⟩]) attempts := by
  have same : cfg.guessesIn (past ++ [⟨x, reply⟩]) = cfg.guessesIn past := by
    rw [guessesIn_snoc]
    funext key
    unfold guessed
    split
    · exact absurd ‹_› (other _ _)
    · rfl
  exact ⟨fun t later => same ▸ h.agree t fun y mem => later y (List.mem_append_left _ mem),
    fun key => same ▸ h.admits key⟩

variable [Add T]

theorem handle_attempts {x : TimedRequest T} (other : ∀ payload sweeps, x.request ≠ .login payload sweeps)
    (s : AuthState T) : (cfg.handle s x).2.attempts = s.attempts := by
  by_cases write : ∀ users, x.request ≠ .setUsers users
  · rw [handle_of_tickets cfg x other write s]
  · obtain ⟨clocks, request⟩ := x
    simp only [not_forall, not_not] at write
    obtain ⟨users, rfl⟩ := write
    rfl

/-- One exchange: a guess in vain is counted, and a success clears the count. -/
theorem GuessInv.step {past : List (Exchange (TimedRequest T) AuthReply)} {s : AuthState T}
    (h : GuessInv cfg past s.attempts) {x : TimedRequest T}
    (now : ∀ y ∈ past, y.asked.clocks.monotonic ≤ x.clocks.monotonic) :
    GuessInv cfg (past ++ [⟨x, (cfg.handle s x).1⟩]) (cfg.handle s x).2.attempts := by
  by_cases other : ∀ payload sweeps, x.request ≠ .login payload sweeps
  · rw [handle_attempts other]
    exact h.other other _
  · obtain ⟨clocks, request⟩ := x
    simp only [not_forall, not_not] at other
    obtain ⟨payload, sweeps, rfl⟩ := other
    exact h.attempt now (login_attempt payload sweeps clocks s)

/-- The limiter and the log agree after every run from an empty limiter. -/
theorem guessInv_of_run (cfg : AuthSettings T) {s₀ : AuthState T} (fresh : s₀.attempts = .empty) {asked : List (TimedRequest T)}
    (clocked : (asked.map (·.clocks.monotonic)).Pairwise (· ≤ ·)) :
    GuessInv cfg (cfg.service.log s₀ asked) (cfg.service.after s₀ asked).attempts := by
  have run := Service.invariant (S := cfg.service) (s := s₀)
    (I := fun past s => (past.map (·.asked.clocks.monotonic)).Pairwise (· ≤ ·) → GuessInv cfg past s.attempts)
    (fun _ => ⟨fun _ _ => fresh ▸ fun _ => rfl, fun _ => cfg.limiter.window.admits_nil _⟩) ?_ asked
  · apply run
    rw [← Service.log_asked (S := cfg.service) (s := s₀) asked, List.map_map] at clocked
    exact clocked
  · intro past s x ih ordered
    rw [List.map_append, List.pairwise_append] at ordered
    obtain ⟨before, -, last⟩ := ordered
    apply (ih before).step
    intro y mem
    exact last _ (List.mem_map_of_mem mem) _ (List.mem_singleton_self _)

/-- Whatever is asked: in no window are more passwords verified in vain for an email, since its last success, than
the limiter allows attempts. -/
theorem guesses_bounded {s₀ : AuthState T} (fresh : s₀.attempts = .empty) {asked : List (TimedRequest T)}
    (clocked : (asked.map (·.clocks.monotonic)).Pairwise (· ≤ ·))
    {past later : List (Exchange (TimedRequest T) AuthReply)} (log : cfg.service.log s₀ asked = past ++ later)
    (key : List Char) (t : T) :
    (cfg.limiter.window.inside t (cfg.guessesIn past key)).length ≤ cfg.limiter.maxAttempts := by
  have ordered : ((past.map Exchange.asked).map (·.clocks.monotonic)).Pairwise (· ≤ ·) := by
    rw [← Service.log_asked (S := cfg.service) (s := s₀) asked, log, List.map_append, List.map_append] at clocked
    exact (List.pairwise_append.1 clocked).1
  have run := guessInv_of_run cfg fresh ordered
  rw [(Service.log_split log).1] at run
  exact (run.admits key).atMost t

end AuthSettings

/-- The third guess is refused, the fourth one comes when the first two have left the window. -/
theorem guesses_bounded_guesses :
    let log := plainAuth.service.log ⟨[adminUser], .empty, .empty⟩ (guesses [])
    (plainAuth.limiter.window.inside 9 (plainAuth.guessesIn log "admin".toList)).length ≤
        plainAuth.limiter.maxAttempts ∧
      plainAuth.guessesIn log "admin".toList = [0, 1, 12] :=
  have clocked : ((guesses []).map (·.clocks.monotonic)).Pairwise (· ≤ ·) := by decide
  ⟨AuthSettings.guesses_bounded rfl clocked (List.append_nil _).symm _ _, by decide +kernel⟩

end MeadowOps.Core
