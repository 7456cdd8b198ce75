import Mathlib.Data.List.Basic

/-!
# Sessions of a database server

The commands of one session on a database that others change too. An open transaction carries what its commit
will do to the database; some statements also change it for good at once (a sequence moves, whatever becomes of
the transaction), and some take or release locks of the session.
-/

namespace MeadowOps.Lib

variable {D : Type}

/-- The commands that control transactions; `COMMIT` and `ROLLBACK` may chain. -/
inductive TxControl where
  | begin
  | commit (chain : Bool)
  | rollback (chain : Bool)
  | savepoint (name : String)
  | rollbackTo (name : String)
  | release (name : String)
  | prepareTransaction
  deriving DecidableEq, Repr

/-- Any other statement. -/
structure TxWork (D : Type) where
  /-- What it changes in its transaction, given the database it sees. -/
  change : D → D → D
  /-- What it changes outside of every transaction. -/
  lasting : D → D
  /-- How many locks the session holds after it. -/
  holds : ℕ → ℕ

inductive TxCommand (D : Type) where
  | work (w : TxWork D)
  | control (c : TxControl)

/-- An open transaction. It is no block when it is the implicit one of a message. -/
structure OpenTx (D : Type) where
  number : ℕ
  pending : D → D
  savepoints : List (String × (D → D))
  block : Bool

/-- The session, with the statements it has run: the transaction of each, and the database it started from. -/
structure DbSession (D : Type) where
  transaction : Option (OpenTx D)
  started : ℕ
  holds : ℕ
  seen : List (ℕ × D)

namespace OpenTx

/-- A transaction that has done nothing. -/
def fresh (number : ℕ) (block : Bool) : OpenTx D := ⟨number, id, [], block⟩

/-- A command that leaves its transaction open, on the database `d`. -/
def run (d : D) (tx : OpenTx D) : TxCommand D → Option (OpenTx D)
  | .work w => some { tx with pending := w.change (tx.pending d) ∘ tx.pending }
  | .control .begin => some { tx with block := true }
  | .control (.savepoint name) =>
    if tx.block then some { tx with savepoints := (name, tx.pending) :: tx.savepoints } else none
  | .control (.rollbackTo name) =>
    match tx.savepoints.dropWhile fun saved => saved.1 ≠ name with
    | [] => none
    | saved :: older => some { tx with pending := saved.2, savepoints := saved :: older }
  | .control (.release name) =>
    match tx.savepoints.dropWhile fun saved => saved.1 ≠ name with
    | [] => none
    | _ :: older => some { tx with savepoints := older }
  | .control (.commit _) | .control (.rollback _) | .control .prepareTransaction => none

/-- All of them, one after the other. -/
def runAll (d : D) (tx : OpenTx D) (commands : List (TxCommand D)) : Option (OpenTx D) :=
  commands.foldlM (run d) tx

end OpenTx

namespace DbSession

def closed (s : DbSession D) : DbSession D := { s with transaction := none, holds := 0 }

/-- The open transaction, or a new one. -/
def current (s : DbSession D) (block : Bool) : OpenTx D :=
  s.transaction.getD (.fresh (s.started + 1) block)

/-- The number of transactions so far, with the current one. -/
def counted (s : DbSession D) : ℕ :=
  match s.transaction with
  | none => s.started + 1
  | some _ => s.started

/-- A transaction block is opened. -/
def opened (s : DbSession D) : DbSession D :=
  { s with transaction := some (s.current true), started := s.counted }

/-- After the end of a transaction. -/
def ended (s : DbSession D) (chain : Bool) : DbSession D :=
  if chain then { s with transaction := some (.fresh (s.started + 1) true), started := s.started + 1 }
  else { s with transaction := none }

/-- The server runs a command on the database `d`, unless it has to refuse it. -/
def run (d : D) (s : DbSession D) : TxCommand D → Option (D × DbSession D)
  | .work w =>
    (OpenTx.run d (s.current false) (.work w)).map fun tx =>
      (w.lasting d, ⟨some tx, s.counted, w.holds s.holds, s.seen ++ [(tx.number, d)]⟩)
  | .control .begin => some (d, { s.opened with transaction := some { s.current true with block := true } })
  | .control (.commit chain) =>
    match s.transaction with
    | none => if chain then none else some (d, s)
    | some tx => if chain && !tx.block then none else some (tx.pending d, s.ended chain)
  | .control (.rollback chain) =>
    match s.transaction with
    | none => if chain then none else some (d, s)
    | some tx => if chain && !tx.block then none else some (d, s.ended chain)
  | .control c =>
    match s.transaction with
    | none => none
    | some tx => (tx.run d (.control c)).map fun tx => (d, { s with transaction := some tx })

/-- The end of a message: an implicit transaction is committed. -/
def endMessage (d : D) (s : DbSession D) : D × DbSession D :=
  match s.transaction with
  | none => (d, s)
  | some tx => if tx.block then (d, s) else (tx.pending d, s.ended false)

end DbSession

/-- The command neither ends the transaction, nor gives up the last lock, nor changes `d` outside. -/
def TxCommand.Contained (d : D) (holds : ℕ) : TxCommand D → Prop
  | .work w => w.lasting d = d ∧ 0 < w.holds holds
  | .control c => ∀ chain, c ≠ .commit chain ∧ c ≠ .rollback chain

instance [DecidableEq D] (d : D) (holds : ℕ) : (c : TxCommand D) → Decidable (c.Contained d holds)
  | .work w => inferInstanceAs (Decidable (w.lasting d = d ∧ 0 < w.holds holds))
  | .control c => inferInstanceAs (Decidable (∀ chain, c ≠ .commit chain ∧ c ≠ .rollback chain))

/-! ## Inside a block -/

section
variable {d d' : D} {tx tx' : OpenTx D} {s s' : DbSession D} {c : TxCommand D}

theorem OpenTx.run_same (h : tx.run d c = some tx') (block : tx.block = true) :
    tx'.number = tx.number ∧ tx'.block = true := by
  cases c with
  | work w =>
    cases h
    exact ⟨rfl, block⟩
  | control c =>
    cases c with
    | begin =>
      cases h
      exact ⟨rfl, rfl⟩
    | savepoint name =>
      simp only [OpenTx.run, if_pos block, Option.some.injEq] at h
      subst h
      exact ⟨rfl, block⟩
    | rollbackTo name =>
      simp only [OpenTx.run] at h
      cases found : tx.savepoints.dropWhile fun saved => decide (saved.1 ≠ name) with
      | nil =>
        rw [found] at h
        cases h
      | cons saved older =>
        rw [found] at h
        cases h
        exact ⟨rfl, block⟩
    | release name =>
      simp only [OpenTx.run] at h
      cases found : tx.savepoints.dropWhile fun saved => decide (saved.1 ≠ name) with
      | nil =>
        rw [found] at h
        cases h
      | cons saved older =>
        rw [found] at h
        cases h
        exact ⟨rfl, block⟩
    | commit chain => cases h
    | rollback chain => cases h
    | prepareTransaction => cases h

/-- A contained command of a block runs in its transaction and leaves the database and a lock. -/
theorem DbSession.run_contained (open' : s.transaction = some tx) (contained : c.Contained d s.holds)
    (held : 0 < s.holds) (h : s.run d c = some (d', s')) :
    d' = d ∧ 0 < s'.holds ∧ (∃ tx', s'.transaction = some tx' ∧ tx.run d c = some tx') ∧
      (s'.seen = s.seen ∨ s'.seen = s.seen ++ [(tx.number, d)]) := by
  have current : ∀ b, s.current b = tx := fun b => by rw [DbSession.current, open', Option.getD_some]
  cases c with
  | work w =>
    simp only [DbSession.run, current, OpenTx.run, Option.map_some, Option.some.injEq, Prod.mk.injEq] at h
    obtain ⟨rfl, rfl⟩ := h
    exact ⟨contained.1, contained.2, ⟨_, rfl, rfl⟩, .inr rfl⟩
  | control c =>
    have other : (∃ tx', s'.transaction = some tx' ∧ tx.run d (.control c) = some tx') ∧ d' = d ∧
        s'.holds = s.holds ∧ s'.seen = s.seen := by
      cases c with
      | begin =>
        simp only [DbSession.run, current, Option.some.injEq, Prod.mk.injEq] at h
        obtain ⟨rfl, rfl⟩ := h
        exact ⟨⟨_, rfl, rfl⟩, rfl, rfl, rfl⟩
      | commit chain => exact absurd rfl (contained chain).1
      | rollback chain => exact absurd rfl (contained chain).2
      | _ =>
        simp only [DbSession.run, open', Option.map_eq_some_iff, Prod.mk.injEq] at h
        obtain ⟨tx', ran, rfl, rfl⟩ := h
        exact ⟨⟨tx', rfl, ran⟩, rfl, rfl, rfl⟩
    obtain ⟨ran, same, holds, seen⟩ := other
    exact ⟨same, holds ▸ held, ran, .inl seen⟩

theorem DbSession.endMessage_block (open' : s.transaction = some tx) (block : tx.block = true) :
    s.endMessage d = (d, s) := by
  simp only [DbSession.endMessage, open', if_pos block]

/-- One more command. -/
theorem OpenTx.runAll_snoc {done : List (TxCommand D)} (ran : OpenTx.runAll d tx done = some tx')
    (c : TxCommand D) : OpenTx.runAll d tx (done ++ [c]) = tx'.run d c := by
  rw [OpenTx.runAll, List.foldlM_append]
  rw [OpenTx.runAll] at ran
  rw [ran]
  exact bind_pure (tx'.run d c)

end

end MeadowOps.Lib
