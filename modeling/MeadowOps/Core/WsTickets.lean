import MeadowOps.Lib.Dict
import Mathlib.Algebra.Order.Ring.Rat
import Mathlib.Data.List.Induction

/-!
# `app/core/ws_tickets.py`

A sweep takes only tickets that a later redeem would find expired, as it compares in the same way.
-/

namespace MeadowOps.Core

open Lib

structure WsTicketClaims where
  userId : String
  role : String
  sessionExp : ℚ
  deriving DecidableEq, Repr

/-- `_Entry`. -/
structure TicketEntry (T : Type) where
  claims : WsTicketClaims
  expiresAt : T
  deriving DecidableEq, Repr

/-- A call, with the clock, the generated ticket and what `random` decides about the sweep. -/
inductive TicketCall (T : Type) where
  | mint (ticket : String) (claims : WsTicketClaims) (now : T) (sweeps : Bool)
  | redeem (ticket : String) (now : T)
  deriving DecidableEq, Repr

namespace TicketCall

variable {T : Type}

def now : TicketCall T → T
  | .mint _ _ now _ => now
  | .redeem _ now => now

def minted? : TicketCall T → Option String
  | .mint ticket _ _ _ => some ticket
  | .redeem _ _ => none

def redeemed? : TicketCall T → Option String
  | .mint .. => none
  | .redeem ticket _ => some ticket

def withoutSweep : TicketCall T → TicketCall T
  | .mint ticket claims now _ => .mint ticket claims now false
  | .redeem ticket now => .redeem ticket now

end TicketCall

/-- The clock never goes back, and no ticket is generated twice. -/
structure TicketCalls {T : Type} [LinearOrder T] (calls : List (TicketCall T)) : Prop where
  clocked : (calls.map (·.now)).Pairwise (· ≤ ·)
  distinct : (calls.filterMap (·.minted?)).Nodup

/-- `WsTicketStore`, by its tickets. -/
abbrev Tickets (T : Type) := Dict String (TicketEntry T)

namespace Tickets

variable {T : Type} [LinearOrder T]

def sweepStale (now : T) (sweeps : Bool) (tickets : Tickets T) : Tickets T :=
  if sweeps then
    tickets.filterKeys fun ticket => !(tickets.get? ticket).any fun entry => entry.expiresAt < now
  else tickets

def mint [Add T] (ttlSeconds : T) (ticket : String) (claims : WsTicketClaims) (now : T) (sweeps : Bool)
    (tickets : Tickets T) : Tickets T :=
  sweepStale now sweeps (tickets.set ticket ⟨claims, now + ttlSeconds⟩)

def redeem (ticket : String) (now : T) (tickets : Tickets T) : Option WsTicketClaims × Tickets T :=
  let popped := tickets.filterKeys (· ≠ ticket)
  match tickets.get? ticket with
  | none => (none, popped)
  | some entry => if entry.expiresAt < now then (none, popped) else (some entry.claims, popped)

/-- The ticket is gone in any case. -/
theorem redeem_popped (ticket : String) (now : T) (tickets : Tickets T) :
    (tickets.redeem ticket now).2 = tickets.filterKeys (· ≠ ticket) := by
  unfold redeem
  dsimp only
  split
  · rfl
  · split <;> rfl

def call [Add T] (ttlSeconds : T) (tickets : Tickets T) : TicketCall T → Tickets T
  | .mint ticket claims now sweeps => tickets.mint ttlSeconds ticket claims now sweeps
  | .redeem ticket now => (tickets.redeem ticket now).2

/-- The tickets after some calls. -/
def after [Add T] (ttlSeconds : T) (calls : List (TicketCall T)) : Tickets T :=
  calls.foldl (call ttlSeconds) .empty

end Tickets

/-- The ticket was minted with the claims and is not expired, and no redeem was attempted on it since. -/
def Redeemable {T : Type} [LinearOrder T] [Add T] (ttlSeconds : T) (calls : List (TicketCall T)) (ticket : String)
    (now : T) (claims : WsTicketClaims) : Prop :=
  ∃ earlier minted sweeps later, calls = earlier ++ .mint ticket claims minted sweeps :: later ∧
    now ≤ minted + ttlSeconds ∧ ∀ c ∈ later, c.redeemed? ≠ some ticket

/-- What a redeem after some calls returns. -/
structure RedeemsOnce {T : Type} [LinearOrder T] [Add T] (ttlSeconds : T) (calls : List (TicketCall T))
    (ticket : String) (now : T) : Prop where
  redeems : ∀ claims, (Tickets.redeem ticket now (.after ttlSeconds calls)).1 = some claims ↔
    Redeemable ttlSeconds calls ticket now claims
  sweeps : (Tickets.redeem ticket now (.after ttlSeconds (calls.map (·.withoutSweep)))).1 =
    (Tickets.redeem ticket now (.after ttlSeconds calls)).1

/-! ## Sweeps -/

variable {T : Type} [LinearOrder T] {ttlSeconds : T}

/-- Of two stores one may lack tickets that are expired at `t`. -/
def SameFrom (t : T) (swept kept : Tickets T) : Prop :=
  ∀ ticket, swept.get? ticket = kept.get? ticket ∨
    swept.get? ticket = none ∧ ∃ entry, kept.get? ticket = some entry ∧ entry.expiresAt < t

theorem SameFrom.later {t t' : T} {swept kept : Tickets T} (h : SameFrom t swept kept) (le : t ≤ t') :
    SameFrom t' swept kept := by
  intro ticket
  rcases h ticket with same | ⟨gone, entry, here, expired⟩
  · exact .inl same
  · exact .inr ⟨gone, entry, here, expired.trans_le le⟩

theorem SameFrom.sweepStale {t : T} {swept kept : Tickets T} (h : SameFrom t swept kept) (sweeps : Bool) :
    SameFrom t (swept.sweepStale t sweeps) kept := by
  cases sweeps with
  | false => exact h
  | true =>
    intro ticket
    simp only [Tickets.sweepStale, if_true]
    rw [Dict.get?_filterKeys]
    split
    · exact h ticket
    · rename_i stale
      rcases h ticket with same | expired
      · right
        refine ⟨rfl, ?_⟩
        rw [← same]
        simpa [Option.any_eq_true] using stale
      · exact .inr ⟨rfl, expired.2⟩

theorem SameFrom.call [Add T] {t : T} {swept kept : Tickets T} (h : SameFrom t swept kept) {c : TicketCall T}
    (le : t ≤ c.now) : SameFrom c.now (swept.call ttlSeconds c) (kept.call ttlSeconds c.withoutSweep) := by
  have now := h.later le
  cases c with
  | mint ticket claims now' sweeps =>
    refine SameFrom.sweepStale (fun other => ?_) sweeps
    show (swept.set ticket _).get? other = (kept.set ticket _).get? other ∨ _ ∧ ∃ entry,
      (kept.set ticket _).get? other = some entry ∧ _
    rw [Dict.get?_set, Dict.get?_set]
    split
    · exact .inl rfl
    · exact now other
  | redeem ticket now' =>
    intro other
    simp only [Tickets.call, TicketCall.withoutSweep, Tickets.redeem_popped, Dict.get?_filterKeys]
    split
    · exact now other
    · exact .inl rfl

/-- A redeem does not tell the two stores apart. -/
theorem SameFrom.redeem {t : T} {swept kept : Tickets T} (h : SameFrom t swept kept) (ticket : String) :
    (swept.redeem ticket t).1 = (kept.redeem ticket t).1 := by
  unfold Tickets.redeem
  dsimp only
  rcases h ticket with same | ⟨gone, entry, here, expired⟩
  · rw [same]
    split
    · rfl
    · split <;> rfl
  · rw [gone, here]
    dsimp only
    rw [if_pos expired]

theorem sameFrom_after [Add T] {calls : List (TicketCall T)} {t : T}
    (clocked : (calls.map (·.now) ++ [t]).Pairwise (· ≤ ·)) :
    SameFrom t (.after ttlSeconds calls) (.after ttlSeconds (calls.map (·.withoutSweep))) := by
  induction calls using List.reverseRecOn generalizing t with
  | nil => exact fun _ => .inl rfl
  | append_singleton calls c ih =>
    rw [List.map_append, List.map_singleton] at clocked
    have before : (calls.map (·.now) ++ [c.now]).Pairwise (· ≤ ·) := clocked.sublist (List.sublist_append_left _ _)
    have last : c.now ≤ t := (List.pairwise_append.1 clocked).2.2 c.now (by simp) t (by simp)
    rw [List.map_append, Tickets.after, Tickets.after, List.foldl_append, List.foldl_append]
    exact ((ih before).call le_rfl).later last

/-! ## What is kept -/

/-- The last of some calls stands at the split, or after it. -/
theorem snoc_split {α : Type} {xs before after : List α} {x c : α} (split : xs ++ [c] = before ++ x :: after) :
    (after = [] ∧ xs = before ∧ c = x) ∨ ∃ rest, after = rest ++ [c] ∧ xs = before ++ x :: rest := by
  rcases List.eq_nil_or_concat after with rfl | ⟨rest, last, rfl⟩
  · obtain ⟨rfl, same⟩ := List.append_inj' split rfl
    exact .inl ⟨rfl, rfl, (List.cons.inj same).1⟩
  · rw [List.concat_eq_append, ← List.cons_append, ← List.append_assoc] at split
    obtain ⟨rfl, same⟩ := List.append_inj' split rfl
    rw [(List.cons.inj same).1]
    exact .inr ⟨rest, List.concat_eq_append, rfl⟩

/-- The ticket was minted as the entry says, and no redeem was attempted on it since. -/
def Pending [Add T] (ttlSeconds : T) (calls : List (TicketCall T)) (ticket : String) (entry : TicketEntry T) : Prop :=
  ∃ earlier minted sweeps later, calls = earlier ++ .mint ticket entry.claims minted sweeps :: later ∧
    entry.expiresAt = minted + ttlSeconds ∧ ∀ c ∈ later, c.redeemed? ≠ some ticket

omit [LinearOrder T] in
theorem pending_snoc [Add T] {calls : List (TicketCall T)} {c : TicketCall T} {ticket : String}
    {entry : TicketEntry T} (other : c.minted? ≠ some ticket) : Pending ttlSeconds (calls ++ [c]) ticket entry ↔
      c.redeemed? ≠ some ticket ∧ Pending ttlSeconds calls ticket entry := by
  constructor
  · rintro ⟨earlier, minted, sweeps, later, split, expires, untried⟩
    rcases snoc_split split with ⟨-, -, rfl⟩ | ⟨rest, rfl, rfl⟩
    · exact absurd rfl other
    · refine ⟨untried c (by simp), earlier, minted, sweeps, rest, rfl, expires, fun d mem => ?_⟩
      exact untried d (List.mem_append_left _ mem)
  · rintro ⟨kept, earlier, minted, sweeps, later, rfl, expires, untried⟩
    refine ⟨earlier, minted, sweeps, later ++ [c], by simp, expires, fun d mem => ?_⟩
    rcases List.mem_append.1 mem with old | new
    · exact untried d old
    · rw [List.mem_singleton.1 new]
      exact kept

/-- Without sweeps, a ticket is there from its mint to the first redeem. -/
theorem get?_after [Add T] {calls : List (TicketCall T)} (distinct : (calls.filterMap (·.minted?)).Nodup)
    (ticket : String) (entry : TicketEntry T) :
    (Tickets.after ttlSeconds (calls.map (·.withoutSweep))).get? ticket = some entry ↔
      Pending ttlSeconds calls ticket entry := by
  induction calls using List.reverseRecOn with
  | nil => simp [Tickets.after, Pending]
  | append_singleton calls c ih =>
    rw [List.filterMap_append, List.nodup_append] at distinct
    obtain ⟨before, -, apart⟩ := distinct
    have ih := ih before
    rw [List.map_append, Tickets.after, List.foldl_append]
    show (Tickets.call ttlSeconds (.after ttlSeconds (calls.map (·.withoutSweep))) c.withoutSweep).get? ticket =
      some entry ↔ _
    cases c with
    | mint other claims now sweeps =>
      show (Dict.set _ other _).get? ticket = some entry ↔ _
      rw [Dict.get?_set]
      by_cases same : ticket = other
      · subst same
        rw [if_pos rfl]
        constructor
        · intro here
          obtain rfl := Option.some.inj here
          exact ⟨calls, now, sweeps, [], rfl, rfl, by simp⟩
        · rintro ⟨earlier, minted, sweeps', later, split, expires, -⟩
          rcases snoc_split split with ⟨-, -, last⟩ | ⟨rest, -, rfl⟩
          · cases last
            rw [← expires]
          · exact absurd rfl (apart ticket (by simp [TicketCall.minted?]) ticket (by simp [TicketCall.minted?]))
      · have other' : (TicketCall.mint other claims now sweeps).minted? ≠ some ticket := by
          simpa [TicketCall.minted?] using Ne.symm same
        rw [if_neg same, ih, pending_snoc other']
        simp [TicketCall.redeemed?]
    | redeem other now =>
      rw [pending_snoc (by simp [TicketCall.minted?]), ← ih, TicketCall.withoutSweep, Tickets.call,
        Tickets.redeem_popped, Dict.get?_filterKeys]
      by_cases same : ticket = other
      · simp [same, TicketCall.redeemed?]
      · simp [same, Ne.symm same, TicketCall.redeemed?]

/-- What a redeem returns, by the entry of its ticket. -/
theorem redeem_eq_some {ticket : String} {now : T} {tickets : Tickets T} {claims : WsTicketClaims} :
    (tickets.redeem ticket now).1 = some claims ↔
      ∃ expiresAt, tickets.get? ticket = some ⟨claims, expiresAt⟩ ∧ now ≤ expiresAt := by
  unfold Tickets.redeem
  dsimp only
  cases here : tickets.get? ticket with
  | none => simp
  | some entry =>
    obtain ⟨claims', expiresAt⟩ := entry
    dsimp only
    split
    · rename_i expired
      simp [not_le.2 expired]
    · rename_i valid
      simp [not_lt.1 valid]

/-- A redeem returns the claims if and only if the ticket was minted with them, is not expired, and was not tried
since; the sweeps play no part in it. -/
theorem ticket_redeems_once [Add T] {calls : List (TicketCall T)} {ticket : String} {now : T}
    (made : TicketCalls (calls ++ [.redeem ticket now])) : RedeemsOnce ttlSeconds calls ticket now := by
  have same : SameFrom now (.after ttlSeconds calls) (.after ttlSeconds (calls.map (·.withoutSweep))) := by
    have clocked := made.clocked
    rw [List.map_append] at clocked
    exact sameFrom_after clocked
  have distinct : (calls.filterMap (·.minted?)).Nodup := by
    have all := made.distinct
    rw [List.filterMap_append] at all
    exact (List.nodup_append.1 all).1
  refine ⟨fun claims => ?_, (same.redeem ticket).symm⟩
  rw [same.redeem ticket, redeem_eq_some]
  constructor
  · rintro ⟨expiresAt, here, valid⟩
    obtain ⟨earlier, minted, sweeps, later, split, rfl, untried⟩ := (get?_after distinct _ _).1 here
    exact ⟨earlier, minted, sweeps, later, split, valid, untried⟩
  · rintro ⟨earlier, minted, sweeps, later, split, valid, untried⟩
    exact ⟨_, (get?_after distinct _ _).2 ⟨earlier, minted, sweeps, later, split, rfl, untried⟩, valid⟩

def aliceClaims : WsTicketClaims := ⟨"alice", "admin", 3600⟩

/-- The last call of each run is the redeem that is looked at. -/
theorem ticket_redeems_once_atExpiry :
    RedeemsOnce (20 : ℤ) [.mint "a" aliceClaims 5 false, .mint "b" aliceClaims 25 true] "a" 25 ∧
      (Tickets.redeem "a" 25 (.after (20 : ℤ) [.mint "a" aliceClaims 5 false, .mint "b" aliceClaims 25 true])).1 =
        some aliceClaims :=
  ⟨ticket_redeems_once ⟨by decide, by decide⟩, by decide +kernel⟩

/-- A redeem was attempted on the text before it was a ticket, and the ticket is redeemed all the same. -/
theorem tried_before_minted :
    let calls : List (TicketCall ℤ) := [.redeem "a" 0, .mint "a" aliceClaims 1 false]
    TicketCalls (calls ++ [.redeem "a" 2]) ∧ (∃ c ∈ calls, c.redeemed? = some "a") ∧
      (Tickets.redeem "a" 2 (.after 20 calls)).1 = some aliceClaims :=
  ⟨⟨by decide, by decide⟩, by decide, by decide +kernel⟩

end MeadowOps.Core
