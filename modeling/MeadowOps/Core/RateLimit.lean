import MeadowOps.Lib.Dict
import MeadowOps.Lib.PyText
import MeadowOps.Lib.SlidingWindow
import Mathlib.Algebra.Order.Group.Int
import Mathlib.Logic.Function.Basic

/-!
# `app/core/rate_limit.py`

The limiter forgets attempts when a key is looked at and in sweeps. It answers as one that keeps every accepted
attempt up to the next reset of its email.
-/

namespace MeadowOps.Core

open Lib

structure LoginRateLimiter (T : Type) [LinearOrder T] where
  maxAttempts : ℕ
  /-- `now - window_seconds`. -/
  window : Window T
  /-- `str.lower`. -/
  lower : List Char → List Char

/-- A call, with the clock and what `random` decides about the sweep. -/
inductive LimiterCall (T : Type) where
  | checkAndRecord (email : List Char) (now : T) (sweeps : Bool)
  | reset (email : List Char)
  deriving DecidableEq, Repr

namespace LimiterCall

variable {T : Type}

def email : LimiterCall T → List Char
  | .checkAndRecord email _ _ => email
  | .reset email => email

def time? : LimiterCall T → Option T
  | .checkAndRecord _ now _ => some now
  | .reset _ => none

def withoutSweep : LimiterCall T → LimiterCall T
  | .checkAndRecord email now _ => .checkAndRecord email now false
  | .reset email => .reset email

/-- The clock never goes back. -/
def Clocked [LinearOrder T] (calls : List (LimiterCall T)) : Prop := (calls.filterMap time?).Pairwise (· ≤ ·)

end LimiterCall

/-- A call and what it returned; `reset` returns nothing. -/
structure LimiterEntry (T : Type) where
  call : LimiterCall T
  answer : Option Bool
  deriving DecidableEq, Repr

/-- `_attempts`. -/
abbrev Attempts (T : Type) := Dict (List Char) (List T)

namespace LoginRateLimiter

variable {T : Type} [LinearOrder T] (lim : LoginRateLimiter T)

def key (email : List Char) : List Char := lim.lower (strip email)

/-- Drops the keys without a timestamp after the cutoff. -/
def sweepStale (now : T) (sweeps : Bool) (attempts : Attempts T) : Attempts T :=
  if sweeps then
    attempts.filterKeys fun key => (attempts.getD key []).any (lim.window.start now < ·)
  else attempts

def checkAndRecord (email : List Char) (now : T) (sweeps : Bool) (attempts : Attempts T) : Bool × Attempts T :=
  let key := lim.key email
  let recent := lim.window.recent now (attempts.getD key [])
  if recent.length ≥ lim.maxAttempts then (false, lim.sweepStale now sweeps (attempts.set key recent))
  else (true, lim.sweepStale now sweeps (attempts.set key (recent ++ [now])))

def reset (email : List Char) (attempts : Attempts T) : Attempts T := attempts.filterKeys (· ≠ lim.key email)

def call (attempts : Attempts T) : LimiterCall T → Option Bool × Attempts T
  | .checkAndRecord email now sweeps =>
    let (answer, attempts) := lim.checkAndRecord email now sweeps attempts
    (some answer, attempts)
  | .reset email => (none, lim.reset email attempts)

/-- The calls in their order with their answers. -/
def logFrom : Attempts T → List (LimiterCall T) → List (LimiterEntry T)
  | _, [] => []
  | attempts, c :: calls => ⟨c, (lim.call attempts c).1⟩ :: logFrom (lim.call attempts c).2 calls

def log (calls : List (LimiterCall T)) : List (LimiterEntry T) := lim.logFrom .empty calls

/-! ## What is promised -/

/-- The accepted attempts of each key since its last reset, after one more entry. -/
def record (accepted : List Char → List T) : LimiterEntry T → List Char → List T
  | ⟨.checkAndRecord email now _, some true⟩ =>
    Function.update accepted (lim.key email) (accepted (lim.key email) ++ [now])
  | ⟨.checkAndRecord .., _⟩ => accepted
  | ⟨.reset email, _⟩ => Function.update accepted (lim.key email) []

def acceptedIn (log : List (LimiterEntry T)) : List Char → List T := log.foldl lim.record fun _ => []

end LoginRateLimiter

/-- What holds of a sequence of calls. -/
structure RateLimited {T : Type} [LinearOrder T] (lim : LoginRateLimiter T) (calls : List (LimiterCall T)) :
    Prop where
  atMost : ∀ before after, lim.log calls = before ++ after → ∀ key t,
    (lim.window.inside t (lim.acceptedIn before key)).length ≤ lim.maxAttempts
  refused : ∀ before email now sweeps after,
    lim.log calls = before ++ ⟨.checkAndRecord email now sweeps, some false⟩ :: after →
      (lim.window.inside now (lim.acceptedIn before (lim.key email))).length = lim.maxAttempts
  /-- Without a rejected attempt the other answers are the same. -/
  rejected : ∀ before e after, lim.log calls = before ++ e :: after → e.answer = some false →
    lim.log ((before ++ after).map (·.call)) = before ++ after
  /-- Without the other emails the answers are the same. -/
  others : ∀ key, lim.log (calls.filter fun c => lim.key c.email = key) =
    (lim.log calls).filter fun e => lim.key e.call.email = key
  sweeps : (lim.log (calls.map (·.withoutSweep))).map (·.answer) = (lim.log calls).map (·.answer)

/-! ## The limiter that keeps everything -/

namespace LoginRateLimiter

variable {T : Type} [LinearOrder T] (lim : LoginRateLimiter T)

/-- The answer by the accepted attempts. -/
def judge (accepted : List Char → List T) : LimiterCall T → Option Bool
  | .checkAndRecord email now _ =>
    some (decide ((lim.window.recent now (accepted (lim.key email))).length < lim.maxAttempts))
  | .reset _ => none

def ideal : (List Char → List T) → List (LimiterCall T) → List (LimiterEntry T)
  | _, [] => []
  | accepted, c :: calls => ⟨c, lim.judge accepted c⟩ :: ideal (lim.record accepted ⟨c, lim.judge accepted c⟩) calls

/-- At the time `t` the two know the same recent attempts. -/
def Agree (attempts : Attempts T) (accepted : List Char → List T) (t : T) : Prop :=
  ∀ key, lim.window.recent t (attempts.getD key []) = lim.window.recent t (accepted key)

variable {lim} {attempts : Attempts T} {accepted : List Char → List T}

/-- A sweep takes only what is no longer recent. -/
theorem recent_sweepStale {now t : T} (later : now ≤ t) (sweeps : Bool) (key : List Char) :
    lim.window.recent t ((lim.sweepStale now sweeps attempts).getD key []) =
      lim.window.recent t (attempts.getD key []) := by
  cases sweeps with
  | false => rfl
  | true =>
    simp only [sweepStale, if_true]
    rw [Dict.getD, Dict.get?_filterKeys]
    split
    · rfl
    · rename_i stale
      have none : lim.window.recent now (attempts.getD key []) = [] := by
        rw [Window.recent, List.filter_eq_nil_iff]
        simpa using stale
      rw [lim.window.recent_eq_nil later none]
      rfl

/-- A check answers by what was accepted, and later checks find what they need. -/
theorem Agree.checkAndRecord {now : T} (h : lim.Agree attempts accepted now) (email : List Char) (sweeps : Bool) :
    some (lim.checkAndRecord email now sweeps attempts).1 = lim.judge accepted (.checkAndRecord email now sweeps) ∧
      ∀ t, now ≤ t → lim.Agree attempts accepted t → lim.Agree (lim.checkAndRecord email now sweeps attempts).2
        (lim.record accepted ⟨.checkAndRecord email now sweeps,
          lim.judge accepted (.checkAndRecord email now sweeps)⟩) t := by
  have here := h (lim.key email)
  rw [LoginRateLimiter.checkAndRecord, judge, ← here]
  by_cases full : lim.maxAttempts ≤ (lim.window.recent now (attempts.getD (lim.key email) [])).length
  · rw [if_pos full, decide_eq_false (not_lt.2 full)]
    refine ⟨rfl, fun t later agree key => ?_⟩
    rw [recent_sweepStale later, Dict.getD, Dict.get?_set]
    split
    · rename_i same
      rw [Option.getD_some, lim.window.recent_recent later, same]
      exact agree (lim.key email)
    · exact agree key
  · rw [if_neg full, decide_eq_true (not_le.1 full)]
    refine ⟨rfl, fun t later agree key => ?_⟩
    rw [recent_sweepStale later, Dict.getD, Dict.get?_set, record]
    by_cases same : key = lim.key email
    · rw [if_pos same, same, Option.getD_some, Function.update_self, Window.recent_append, Window.recent_append,
        lim.window.recent_recent later, agree]
    · rw [if_neg same, Function.update_of_ne same]
      exact agree key

theorem Agree.reset {t : T} (h : lim.Agree attempts accepted t) (email : List Char) :
    lim.Agree (lim.reset email attempts) (lim.record accepted ⟨.reset email, none⟩) t := by
  intro key
  rw [LoginRateLimiter.reset, Dict.getD, Dict.get?_filterKeys, record]
  by_cases same : key = lim.key email
  · rw [same, Function.update_self]
    simp
  · rw [if_pos (by simpa using same), Function.update_of_ne same]
    exact h key

/-- The limiter answers as the one that keeps everything. -/
theorem logFrom_eq_ideal {calls : List (LimiterCall T)} (clocked : LimiterCall.Clocked calls)
    (agree : ∀ t ∈ calls.filterMap LimiterCall.time?, lim.Agree attempts accepted t) :
    lim.logFrom attempts calls = lim.ideal accepted calls := by
  induction calls generalizing attempts accepted with
  | nil => rfl
  | cons c calls ih =>
    rw [logFrom, ideal]
    cases c with
    | checkAndRecord email now sweeps =>
      obtain ⟨later, rest⟩ := List.pairwise_cons.1 clocked
      obtain ⟨here, after⟩ := List.forall_mem_cons.1 agree
      obtain ⟨answer, next⟩ := here.checkAndRecord email sweeps
      have same : (lim.call attempts (.checkAndRecord email now sweeps)).1 =
          lim.judge accepted (.checkAndRecord email now sweeps) := answer
      rw [same]
      congr 1
      exact ih rest fun t mem => next t (later t mem) (after t mem)
    | reset email =>
      congr 1
      exact ih clocked fun t mem => (agree t mem).reset email

theorem log_eq_ideal {calls : List (LimiterCall T)} (clocked : LimiterCall.Clocked calls) :
    lim.log calls = lim.ideal (fun _ => []) calls :=
  logFrom_eq_ideal clocked fun _ _ _ => rfl

/-! ## What it records -/

theorem ideal_calls (lim : LoginRateLimiter T) (calls : List (LimiterCall T)) (accepted : List Char → List T) :
    (lim.ideal accepted calls).map (·.call) = calls := by
  induction calls generalizing accepted with
  | nil => rfl
  | cons c calls ih => rw [ideal, List.map_cons, ih]

/-- A run is cut at any entry. -/
theorem ideal_append {calls : List (LimiterCall T)} {before after : List (LimiterEntry T)}
    (split : lim.ideal accepted calls = before ++ after) : lim.ideal accepted (before.map (·.call)) = before ∧
      lim.ideal (before.foldl lim.record accepted) (after.map (·.call)) = after := by
  induction before generalizing accepted calls with
  | nil =>
    refine ⟨rfl, ?_⟩
    rw [List.nil_append] at split
    rw [← split, ideal_calls]
    rfl
  | cons e before ih =>
    cases calls with
    | nil => cases split
    | cons c calls =>
      obtain ⟨rfl, rest⟩ := List.cons.inj split
      obtain ⟨first, last⟩ := ih rest
      exact ⟨congrArg _ first, last⟩

theorem ideal_answer {calls : List (LimiterCall T)} {e : LimiterEntry T} {after : List (LimiterEntry T)}
    (first : lim.ideal accepted calls = e :: after) : e.answer = lim.judge accepted e.call := by
  cases calls with
  | nil => cases first
  | cons c calls =>
    obtain ⟨rfl, -⟩ := List.cons.inj first
    rfl

theorem ideal_join (before after : List (LimiterCall T)) : lim.ideal accepted (before ++ after) =
    lim.ideal accepted before ++ lim.ideal ((lim.ideal accepted before).foldl lim.record accepted) after := by
  induction before generalizing accepted with
  | nil => rfl
  | cons c before ih => exact congrArg _ ih

/-- Accepted attempts are admitted one after another. -/
theorem admits_record {e : LimiterEntry T} (admits : ∀ key, lim.window.Admits lim.maxAttempts (accepted key))
    (answer : e.answer = lim.judge accepted e.call) (key : List Char) :
    lim.window.Admits lim.maxAttempts (lim.record accepted e key) := by
  obtain ⟨call, answered⟩ := e
  obtain rfl : answered = lim.judge accepted call := answer
  cases call with
  | checkAndRecord email now sweeps =>
    by_cases room : (lim.window.recent now (accepted (lim.key email))).length < lim.maxAttempts
    · rw [judge, decide_eq_true room, record]
      by_cases same : key = lim.key email
      · rw [same, Function.update_self]
        exact (admits _).snoc room
      · rw [Function.update_of_ne same]
        exact admits key
    · rw [judge, decide_eq_false room]
      exact admits key
  | reset email =>
    rw [record]
    by_cases same : key = lim.key email
    · rw [same, Function.update_self]
      exact lim.window.admits_nil _
    · rw [Function.update_of_ne same]
      exact admits key

theorem admits_foldl {calls : List (LimiterCall T)} {before after : List (LimiterEntry T)}
    (admits : ∀ key, lim.window.Admits lim.maxAttempts (accepted key))
    (split : lim.ideal accepted calls = before ++ after) (key : List Char) :
    lim.window.Admits lim.maxAttempts (before.foldl lim.record accepted key) := by
  induction before generalizing accepted calls with
  | nil => exact admits key
  | cons e before ih =>
    have answer := ideal_answer split
    cases calls with
    | nil => cases split
    | cons c calls =>
      obtain ⟨rfl, rest⟩ := List.cons.inj split
      exact ih (admits_record admits answer) rest

theorem mem_record {e : LimiterEntry T} {key : List Char} {s : T} (mem : s ∈ lim.record accepted e key) :
    s ∈ accepted key ∨ e.call.time? = some s := by
  unfold record at mem
  split at mem
  · rename_i email now sweeps
    by_cases same : key = lim.key email
    · rw [same, Function.update_self, List.mem_append, List.mem_singleton] at mem
      rw [same]
      exact mem.imp_right fun here => congrArg some here.symm
    · rw [Function.update_of_ne same] at mem
      exact .inl mem
  · exact .inl mem
  · rename_i email _
    by_cases same : key = lim.key email
    · rw [same, Function.update_self] at mem
      cases mem
    · rw [Function.update_of_ne same] at mem
      exact .inl mem

/-- Accepted attempts are times of earlier calls. -/
theorem mem_acceptedIn {log : List (LimiterEntry T)} {key : List Char} {s : T}
    (mem : s ∈ log.foldl lim.record accepted key) :
    s ∈ accepted key ∨ s ∈ (log.map (·.call)).filterMap LimiterCall.time? := by
  induction log generalizing accepted with
  | nil => exact .inl mem
  | cons e log ih =>
    rcases ih mem with now | later
    · rcases mem_record now with before | here
      · exact .inl before
      · exact .inr (List.mem_filterMap.2 ⟨e.call, List.mem_cons_self, here⟩)
    · obtain ⟨c, there, time⟩ := List.mem_filterMap.1 later
      exact .inr (List.mem_filterMap.2 ⟨c, List.mem_cons_of_mem _ there, time⟩)

/-- Entries of other keys change nothing for a key. -/
theorem record_other {e : LimiterEntry T} {key : List Char} (other : lim.key e.call.email ≠ key) :
    lim.record accepted e key = accepted key := by
  unfold record
  split
  · exact Function.update_of_ne (Ne.symm other) _ _
  · rfl
  · exact Function.update_of_ne (Ne.symm other) _ _

theorem judge_congr {accepted' : List Char → List T} {c : LimiterCall T}
    (same : accepted' (lim.key c.email) = accepted (lim.key c.email)) : lim.judge accepted' c = lim.judge accepted c := by
  cases c with
  | checkAndRecord email now sweeps =>
    have same : accepted' (lim.key email) = accepted (lim.key email) := same
    rw [judge, judge, same]
  | reset email => rfl

theorem record_congr {accepted' : List Char → List T} {e : LimiterEntry T} {key : List Char}
    (mine : lim.key e.call.email = key) (same : accepted' key = accepted key) :
    lim.record accepted' e key = lim.record accepted e key := by
  subst mine
  obtain ⟨call, answer⟩ := e
  cases call with
  | checkAndRecord email now sweeps =>
    cases answer with
    | none => exact same
    | some accepts =>
      cases accepts with
      | false => exact same
      | true =>
        have same : accepted' (lim.key email) = accepted (lim.key email) := same
        simp only [record, LimiterCall.email, Function.update_self, same]
  | reset email => simp only [record, LimiterCall.email, Function.update_self]

theorem ideal_filter (calls : List (LimiterCall T)) {accepted' : List Char → List T} {key : List Char}
    (same : accepted' key = accepted key) : lim.ideal accepted' (calls.filter fun c => lim.key c.email = key) =
      (lim.ideal accepted calls).filter fun e => lim.key e.call.email = key := by
  induction calls generalizing accepted accepted' with
  | nil => rfl
  | cons c calls ih =>
    rw [ideal, List.filter_cons, List.filter_cons]
    by_cases mine : lim.key c.email = key
    · have judged : lim.judge accepted' c = lim.judge accepted c := judge_congr (by rw [mine, same])
      rw [if_pos (decide_eq_true mine), if_pos (decide_eq_true mine), ideal, judged]
      congr 1
      exact ih (record_congr mine same)
    · rw [if_neg (by simpa using mine), if_neg (by simpa using mine)]
      exact ih (same.trans (record_other mine).symm)

theorem judge_withoutSweep (c : LimiterCall T) : lim.judge accepted c.withoutSweep = lim.judge accepted c := by
  cases c <;> rfl

theorem record_withoutSweep (c : LimiterCall T) (answer : Option Bool) :
    lim.record accepted ⟨c.withoutSweep, answer⟩ = lim.record accepted ⟨c, answer⟩ := by
  cases c with
  | checkAndRecord email now sweeps =>
    cases answer with
    | none => rfl
    | some accepts => cases accepts <;> rfl
  | reset email => rfl

theorem ideal_withoutSweep (calls : List (LimiterCall T)) :
    (lim.ideal accepted (calls.map (·.withoutSweep))).map (·.answer) =
      (lim.ideal accepted calls).map (·.answer) := by
  induction calls generalizing accepted with
  | nil => rfl
  | cons c calls ih =>
    rw [List.map_cons, ideal, ideal, List.map_cons, List.map_cons, judge_withoutSweep, record_withoutSweep, ih]

end LoginRateLimiter

open LoginRateLimiter in
/-- Whatever is called, the limiter counts the accepted attempts of an email since its last reset. -/
theorem login_rate_limited {T : Type} [LinearOrder T] (lim : LoginRateLimiter T) {calls : List (LimiterCall T)}
    (clocked : LimiterCall.Clocked calls) : RateLimited lim calls := by
  have run : lim.log calls = lim.ideal (fun _ => []) calls := log_eq_ideal clocked
  have atMost : ∀ before after, lim.log calls = before ++ after → ∀ key t,
      (lim.window.inside t (lim.acceptedIn before key)).length ≤ lim.maxAttempts := by
    intro before after split key t
    rw [run] at split
    exact (admits_foldl (fun _ => lim.window.admits_nil _) split key).atMost t
  constructor
  case atMost => exact atMost
  case refused =>
    intro before email now sweeps after split
    refine Nat.le_antisymm (atMost before _ split _ _) ?_
    rw [run] at split
    have past : ∀ s ∈ lim.acceptedIn before (lim.key email), s ≤ now := by
      intro s mem
      have times := (mem_acceptedIn mem).resolve_left List.not_mem_nil
      have ordered := clocked
      rw [LimiterCall.Clocked, ← ideal_calls lim calls fun _ => [], split, List.map_append,
        List.filterMap_append, List.pairwise_append] at ordered
      exact ordered.2.2 s times now (by simp [LimiterCall.time?])
    have answer := ideal_answer (ideal_append split).2
    simp only [judge, Option.some.injEq, eq_comm (a := false), decide_eq_false_iff_not, not_lt] at answer
    rw [lim.window.inside_eq_recent past]
    exact answer
  case rejected =>
    intro before e after split refused
    have shorter : LimiterCall.Clocked ((before ++ after).map (·.call)) := by
      have sub : ((before ++ after).map (·.call)).Sublist calls := by
        rw [← ideal_calls lim calls fun _ => [], ← run, split]
        exact ((List.sublist_cons_self e after).append_left before).map _
      exact clocked.sublist (sub.filterMap _)
    rw [run] at split
    obtain ⟨first, last⟩ := ideal_append split
    obtain ⟨here, rest⟩ := List.cons.inj last
    have unchanged : ∀ accepted, lim.record accepted e = accepted := by
      obtain ⟨call, answer⟩ := e
      obtain rfl : answer = some false := refused
      cases call with
      | checkAndRecord email now sweeps => exact fun _ => rfl
      | reset email => cases ideal_answer last
    rw [here, unchanged] at rest
    rw [log_eq_ideal shorter, List.map_append, ideal_join, first, rest]
  case others =>
    intro key
    have fewer : LimiterCall.Clocked (calls.filter fun c => lim.key c.email = key) :=
      clocked.sublist (List.filter_sublist.filterMap _)
    rw [log_eq_ideal fewer, run]
    exact ideal_filter calls rfl
  case sweeps =>
    have same : LimiterCall.Clocked (calls.map (·.withoutSweep)) := by
      have times : LimiterCall.time? ∘ LimiterCall.withoutSweep = LimiterCall.time? (T := T) := by
        funext c
        cases c <;> rfl
      rw [LimiterCall.Clocked, List.filterMap_map, times]
      exact clocked
    rw [log_eq_ideal same, run]
    exact ideal_withoutSweep calls

/-- Two attempts in ten seconds. -/
def twoInTen : LoginRateLimiter ℤ := ⟨2, .ofLength 10, List.map Char.toLower⟩

/-- The third attempt is refused, until the first one has left the window; a reset forgets them all. -/
def attemptsOfTwo : List (LimiterCall ℤ) := [
  .checkAndRecord "Admin".toList 0 false,
  .checkAndRecord " admin".toList 4 true,
  .checkAndRecord "ADMIN".toList 9 false,
  .checkAndRecord "analyst".toList 9 false,
  .checkAndRecord "admin".toList 10 true,
  .checkAndRecord "admin".toList 11 false,
  .reset "admin ".toList,
  .checkAndRecord "admin".toList 11 false]

/-- Two attempts of an account in ten units of time, and a reset that clears its count. -/
theorem login_rate_limited_attemptsOfTwo : RateLimited twoInTen attemptsOfTwo ∧
    (twoInTen.log attemptsOfTwo).map (·.answer) =
      [some true, some true, some false, some true, some true, some false, none, some true] :=
  ⟨login_rate_limited twoInTen (show (attemptsOfTwo.filterMap LimiterCall.time?).Pairwise (· ≤ ·) by decide),
    by decide +kernel⟩

end MeadowOps.Core
