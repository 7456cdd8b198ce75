import MeadowOps.Query.Execution

/-!
# A submission is one transaction over one generation of the sandbox

As long as no command of it ends the transaction, gives up the lock or changes the database outside of its
transaction: until it succeeds the sandbox is what the refreshes alone make of it, its commit adds the effects of
all its commands at once, and the refreshes stand still from its lock to its end.
-/

namespace MeadowOps.Query

open Lib Sandbox

section
variable {R : Type}

/-- What the refreshes of a run do without the submission. -/
def withoutSubmission (shared : Shared R) (labels : List (QueryLabel R)) : Shared R :=
  labels.foldl
    (fun w l =>
      match l with
      | .submission _ => w
      | .refresh env live => refreshStep env live w)
    shared

/-- The schema that is the sandbox. -/
def generation (c : Catalog R) : Option ℕ := (c.find liveSandboxSchema).map Schema.oid

/-- The commands of a submission. -/
def submitted (lib : Library) (commands : List Char → List (TxCommand (Catalog R))) (sql : List Char) :
    List (TxCommand (Catalog R)) := (lib.splitStatements sql).flatMap commands

/-- What the commands do in one transaction. -/
def effects (commands : List (TxCommand (Catalog R))) (c : Catalog R) : Option (Catalog R) :=
  (OpenTx.runAll c (.fresh 1 true) commands).map fun tx => tx.pending c

/-- The law of a submission after the steps `labels`. -/
structure OneTransaction (all : List (TxCommand (Catalog R))) (shared : Shared R) (labels : List (QueryLabel R))
    (s : Execution R) : Prop where
  untouched : s.phase ≠ .ended .success → s.shared = withoutSubmission shared labels
  committed : s.phase = .ended .success → ∃ before after c,
    labels = before ++ .submission .ok :: after ∧
    effects all (withoutSubmission shared before).catalog = some c ∧
    s.shared = withoutSubmission { withoutSubmission shared before with catalog := c } after
  together : ∀ x ∈ s.session.seen, ∀ y ∈ s.session.seen, x.1 = y.1 ∧ generation x.2 = generation y.2

/-- The command that the server is at. -/
def Phase.command : Phase R → Option (TxCommand (Catalog R))
  | .serving (command :: _) _ => some command
  | _ => none

/-- The command that the server runs is contained. -/
def Contained (s : Execution R) : QueryLabel R → Prop
  | .submission _ => ∀ command ∈ s.phase.command, command.Contained s.shared.catalog s.session.holds
  | .refresh _ _ => True

/-! ## The invariant -/

variable {lib : Library} {commands : List Char → List (TxCommand (Catalog R))} {sql : List Char} {confirmed : Bool}
  {shared : Shared R} {labels : List (QueryLabel R)} {s s' : Execution R} {all : List (TxCommand (Catalog R))}

theorem withoutSubmission_snoc (reply : Reply) :
    withoutSubmission shared (labels ++ [.submission reply]) = withoutSubmission shared labels := by
  rw [withoutSubmission, List.foldl_append]
  rfl

theorem withoutSubmission_refresh (env : RefreshEnv R) (live : Live R) :
    withoutSubmission shared (labels ++ [.refresh env live]) = refreshStep env live (withoutSubmission shared labels) := by
  rw [withoutSubmission, List.foldl_append]
  rfl

/-- Before the lock, or after the end without success. -/
structure Outside (shared : Shared R) (labels : List (QueryLabel R)) (s : Execution R) : Prop where
  same : s.shared = withoutSubmission shared labels
  unlocked : s.session.holds = 0
  closed : s.session.transaction = none

/-- Inside its transaction, with the commands to come. -/
structure Inside (all : List (TxCommand (Catalog R))) (shared : Shared R) (labels : List (QueryLabel R))
    (s : Execution R) (rest : List (TxCommand (Catalog R))) : Prop where
  same : s.shared = withoutSubmission shared labels
  still : s.shared.refresh = none
  held : 0 < s.session.holds
  working : ∃ tx done, s.session.transaction = some tx ∧ tx.block = true ∧ tx.number = 1 ∧ done ++ rest = all ∧
    OpenTx.runAll s.shared.catalog (.fresh 1 true) done = some tx
  seen : ∀ x ∈ s.session.seen, x = (1, s.shared.catalog)

/-- One transaction has been committed, over one catalog. -/
structure Committed (all : List (TxCommand (Catalog R))) (shared : Shared R) (labels : List (QueryLabel R))
    (s : Execution R) : Prop where
  unlocked : s.session.holds = 0
  split : ∃ before after c, labels = before ++ .submission .ok :: after ∧
    effects all (withoutSubmission shared before).catalog = some c ∧
    s.shared = withoutSubmission { withoutSubmission shared before with catalog := c } after
  seen : ∃ x, ∀ y ∈ s.session.seen, y = x

def SubmissionInv (commands : List Char → List (TxCommand (Catalog R))) (all : List (TxCommand (Catalog R)))
    (shared : Shared R) (labels : List (QueryLabel R)) (s : Execution R) : Prop :=
  match s.phase with
  | .confirmationRequired => Outside shared labels s ∧ s.session.seen = []
  | .connecting texts | .locking texts =>
    Outside shared labels s ∧ s.session = ⟨none, 0, 0, []⟩ ∧ texts.flatMap commands = all
  | .next texts => Inside all shared labels s (texts.flatMap commands)
  | .serving rest texts => Inside all shared labels s (rest ++ texts.flatMap commands)
  | .ended .success => Committed all shared labels s
  | .ended _ => Outside shared labels s ∧ ∃ x, ∀ y ∈ s.session.seen, y = x

theorem statusOf_ne_success (e : QueryError) : statusOf e ≠ .success := by
  cases e <;> exact QuerySubmissionStatus.noConfusion

/-- An end without success. -/
theorem submissionInv_ended {status : QuerySubmissionStatus} (phase : s.phase = .ended status)
    (other : status ≠ .success) (outside : Outside shared labels s) (seen : ∃ x, ∀ y ∈ s.session.seen, y = x) :
    SubmissionInv commands all shared labels s := by
  unfold SubmissionInv
  rw [phase]
  cases status with
  | success => exact absurd rfl other
  | error => exact ⟨outside, seen⟩
  | timedOut => exact ⟨outside, seen⟩

/-- The connection is closed in the middle: the transaction is rolled back. -/
theorem Inside.fail {rest : List (TxCommand (Catalog R))} (h : Inside all shared labels s rest) (reply : Reply)
    {status : QuerySubmissionStatus} (other : status ≠ .success) :
    SubmissionInv commands all shared (labels ++ [.submission reply]) (s.finish status) := by
  refine submissionInv_ended rfl other ⟨?_, rfl, rfl⟩ ⟨(1, s.shared.catalog), h.seen⟩
  rw [withoutSubmission_snoc]
  exact h.same

/-- The commit. -/
theorem Inside.commit (h : Inside all shared labels s []) {tx : OpenTx (Catalog R)}
    (open' : s.session.transaction = some tx) :
    SubmissionInv commands all shared (labels ++ [.submission .ok])
      ({ s with shared := { s.shared with catalog := tx.pending s.shared.catalog } }.finish .success) := by
  obtain ⟨tx', done, here, -, -, rfl, ran⟩ := h.working
  rw [open', Option.some.injEq] at here
  subst tx'
  rw [List.append_nil]
  refine ⟨rfl, ⟨labels, [], tx.pending s.shared.catalog, rfl, ?_, ?_⟩, ⟨(1, s.shared.catalog), h.seen⟩⟩
  · rw [← h.same, effects, ran]
    rfl
  · rw [← h.same]
    rfl

/-- A contained command. -/
theorem Inside.command {c : TxCommand (Catalog R)} {rest : List (TxCommand (Catalog R))} {catalog : Catalog R}
    {session : DbSession (Catalog R)} (h : Inside all shared labels s (c :: rest))
    (contained : c.Contained s.shared.catalog s.session.holds)
    (ran : s.session.run s.shared.catalog c = some (catalog, session)) (phase : Phase R) :
    Inside all shared (labels ++ [.submission .ok]) ⟨{ s.shared with catalog := catalog }, session, phase⟩ rest := by
  obtain ⟨tx, done, open', block, number, split, before⟩ := h.working
  obtain ⟨rfl, held, ⟨tx', now, one⟩, seen⟩ := DbSession.run_contained open' contained h.held ran
  obtain ⟨same, block'⟩ := OpenTx.run_same one block
  constructor
  case same =>
    rw [withoutSubmission_snoc]
    exact h.same
  case still => exact h.still
  case held => exact held
  case working =>
    refine ⟨tx', done ++ [c], now, block', same.trans number, ?_, ?_⟩
    · rw [List.append_assoc]
      exact split
    · exact (OpenTx.runAll_snoc before c).trans one
  case seen =>
    intro x mem
    rcases seen with old | new
    · exact h.seen x (old ▸ mem)
    · have mem : x ∈ session.seen := mem
      rw [new] at mem
      rcases List.mem_append.1 mem with old | last
      · exact h.seen x old
      · rw [List.mem_singleton.1 last, number]

theorem Inside.submission {rest : List (TxCommand (Catalog R))} (h : Inside all shared labels s rest)
    (reply : Reply) (phase : Phase R) :
    Inside all shared (labels ++ [.submission reply]) { s with phase := phase } rest :=
  ⟨by rw [withoutSubmission_snoc]; exact h.same, h.still, h.held, h.working, h.seen⟩

theorem Outside.submission (h : Outside shared labels s) (reply : Reply) (phase : Phase R) :
    Outside shared (labels ++ [.submission reply]) { s with phase := phase } :=
  ⟨by rw [withoutSubmission_snoc]; exact h.same, h.unlocked, h.closed⟩

theorem Outside.fail (h : Outside shared labels s) (reply : Reply) {status : QuerySubmissionStatus}
    (other : status ≠ .success) (seen : s.session.seen = []) :
    SubmissionInv commands all shared (labels ++ [.submission reply]) (s.finish status) := by
  refine submissionInv_ended rfl other ⟨?_, rfl, rfl⟩ ⟨(0, s.shared.catalog), fun y mem => ?_⟩
  · rw [withoutSubmission_snoc]
    exact h.same
  · have mem : y ∈ s.session.seen := mem
    rw [seen] at mem
    cases mem

/-- The lock is taken, in a first transaction. -/
theorem Outside.lock {texts : List (List Char)} (h : Outside shared labels s)
    (session : s.session = ⟨none, 0, 0, []⟩) (all' : texts.flatMap commands = all)
    (free : s.shared.refresh = none) :
    Inside all shared (labels ++ [.submission .ok])
      { s with session := { s.session.opened with holds := 1 }, phase := .next texts } (texts.flatMap commands) := by
  rw [session]
  refine ⟨?_, free, Nat.one_pos, ⟨.fresh 1 true, [], rfl, rfl, rfl, all', rfl⟩, fun _ mem => nomatch mem⟩
  rw [withoutSubmission_snoc]
  exact h.same

theorem SubmissionInv.submission (h : SubmissionInv commands all shared labels s) (reply : Reply)
    (contained : Contained s (.submission reply))
    (waits : s.session.holds = 0 → 0 < (advance commands s reply).session.holds → s.shared.refresh = none) :
    SubmissionInv commands all shared (labels ++ [.submission reply]) (advance commands s reply) := by
  obtain ⟨w, session, phase⟩ := s
  cases phase with
  | confirmationRequired => exact ⟨h.1.submission reply .confirmationRequired, h.2⟩
  | connecting texts =>
    obtain ⟨outside, session, texts⟩ := h
    cases reply with
    | ok => exact ⟨outside.submission _ _, session, texts⟩
    | raises e lasts => exact outside.fail _ (statusOf_ne_success e) (congrArg DbSession.seen session)
  | locking texts =>
    obtain ⟨outside, session, texts⟩ := h
    cases reply with
    | ok => exact outside.lock session texts (waits outside.unlocked Nat.one_pos)
    | raises e lasts => exact outside.fail _ (statusOf_ne_success e) (congrArg DbSession.seen session)
  | next texts =>
    have inside : Inside all shared labels ⟨w, session, .next texts⟩ (texts.flatMap commands) := h
    obtain ⟨tx, done, here, rest⟩ := inside.working
    have here : session.transaction = some tx := here
    cases texts with
    | nil =>
      cases reply with
      | ok =>
        dsimp only [advance]
        rw [here]
        exact inside.commit here
      | raises e lasts =>
        dsimp only [advance]
        rw [here]
        exact inside.fail _ (statusOf_ne_success e)
    | cons text texts =>
      cases reply with
      | ok =>
        dsimp only [advance]
        rw [here, Option.isSome_some, if_pos rfl]
        exact inside.submission _ _
      | raises e lasts => exact inside.fail _ (statusOf_ne_success e)
  | serving rest texts =>
    have inside : Inside all shared labels ⟨w, session, .serving rest texts⟩ (rest ++ texts.flatMap commands) := h
    obtain ⟨tx, done, here, block, -⟩ := inside.working
    have here : session.transaction = some tx := here
    cases rest with
    | nil =>
      have message := DbSession.endMessage_block (d := w.catalog) here block
      cases reply with
      | ok =>
        simp only [advance, message]
        exact inside.submission _ _
      | raises e lasts =>
        simp only [advance, message]
        exact (inside.fail _ (statusOf_ne_success e))
    | cons command rest =>
      have meets : command.Contained w.catalog session.holds := contained command rfl
      cases reply with
      | ok =>
        cases ran : session.run w.catalog command with
        | none =>
          simp only [advance, ran]
          exact inside.fail _ QuerySubmissionStatus.noConfusion
        | some after =>
          simp only [advance, ran]
          exact inside.command meets ran _
      | raises e lasts =>
        have same : remains lasts command w.catalog = w.catalog := by
          cases lasts with
          | false => rfl
          | true =>
            cases command with
            | work work => exact meets.1
            | control c => rfl
        simp only [advance, same]
        exact inside.fail _ (statusOf_ne_success e)
  | ended status =>
    cases status with
    | success =>
      obtain ⟨unlocked, ⟨before, after, c, split, effect, now⟩, seen⟩ := h
      refine ⟨unlocked, ⟨before, after ++ [.submission reply], c, ?_, effect, ?_⟩, seen⟩
      · rw [split, List.append_assoc, List.cons_append]
      · rw [withoutSubmission_snoc]
        exact now
    | error => exact ⟨h.1.submission reply (.ended .error), h.2⟩
    | timedOut => exact ⟨h.1.submission reply (.ended .timedOut), h.2⟩

theorem SubmissionInv.refresh (h : SubmissionInv commands all shared labels s) (env : RefreshEnv R) (live : Live R)
    (waits : s.shared.refresh = none → s.session.holds = 0) :
    SubmissionInv commands all shared (labels ++ [.refresh env live])
      { s with shared := refreshStep env live s.shared } := by
  have outside : Outside shared labels s → Outside shared (labels ++ [.refresh env live])
      { s with shared := refreshStep env live s.shared } := by
    intro h
    refine ⟨?_, h.unlocked, h.closed⟩
    rw [withoutSubmission_refresh, ← h.same]
  have blocked : ∀ rest, ¬ Inside all shared labels s rest := by
    intro rest inside
    have held := inside.held
    rw [waits inside.still] at held
    exact absurd held (Nat.lt_irrefl 0)
  obtain ⟨w, session, phase⟩ := s
  cases phase with
  | confirmationRequired => exact ⟨outside h.1, h.2⟩
  | connecting texts => exact ⟨outside h.1, h.2⟩
  | locking texts => exact ⟨outside h.1, h.2⟩
  | next texts => exact absurd h (blocked _)
  | serving rest texts => exact absurd h (blocked _)
  | ended status =>
    cases status with
    | success =>
      obtain ⟨unlocked, ⟨before, after, c, split, effect, now⟩, seen⟩ := h
      refine ⟨unlocked, ⟨before, after ++ [.refresh env live], c, ?_, effect, ?_⟩, seen⟩
      · rw [split, List.append_assoc, List.cons_append]
      · have now : w = _ := now
        rw [withoutSubmission_refresh, ← now]
    | error => exact ⟨outside h.1, h.2⟩
    | timedOut => exact ⟨outside h.1, h.2⟩

theorem submissionInv_start :
    SubmissionInv commands (submitted lib commands sql) shared [] (submit lib sql confirmed shared) := by
  have outside : Outside shared [] (submit lib sql confirmed shared) := ⟨rfl, rfl, rfl⟩
  unfold SubmissionInv
  cases ask : lib.requiresConfirmation sql && !confirmed with
  | true =>
    have phase : (submit lib sql confirmed shared).phase = .confirmationRequired := by
      rw [submit, ask]
      rfl
    rw [phase]
    exact ⟨outside, rfl⟩
  | false =>
    have phase : (submit lib sql confirmed shared).phase = .connecting (lib.splitStatements sql) := by
      rw [submit, ask]
      rfl
    rw [phase]
    exact ⟨outside, rfl, rfl⟩

theorem submissionInv_of_trace
    (h : (queryRuns lib commands sql confirmed shared).Trace Contained (submit lib sql confirmed shared) labels s) :
    SubmissionInv commands (submitted lib commands sql) shared labels s := by
  refine h.invariant submissionInv_start fun labels s l s' inv contained step => ?_
  cases l with
  | submission reply =>
    obtain ⟨rfl, waits⟩ := step
    exact inv.submission reply contained waits
  | refresh env live =>
    obtain ⟨rfl, waits⟩ := step
    exact inv.refresh env live waits

theorem SubmissionInv.law (h : SubmissionInv commands all shared labels s) : OneTransaction all shared labels s := by
  have alike : ∀ x : ℕ × Catalog R, (∀ y ∈ s.session.seen, y = x) → ∀ y ∈ s.session.seen, ∀ z ∈ s.session.seen,
      y.1 = z.1 ∧ generation y.2 = generation z.2 := by
    intro x same y here z there
    rw [same y here, same z there]
    exact ⟨rfl, rfl⟩
  have none : s.session.seen = [] → ∃ x : ℕ × Catalog R, ∀ y ∈ s.session.seen, y = x := by
    intro empty
    rw [empty]
    exact ⟨(0, s.shared.catalog), fun _ mem => nomatch mem⟩
  have law : (s.phase ≠ .ended .success → s.shared = withoutSubmission shared labels) ∧
      (s.phase = .ended .success → Committed all shared labels s) ∧
      ∃ x : ℕ × Catalog R, ∀ y ∈ s.session.seen, y = x := by
    unfold SubmissionInv at h
    split at h
    · rename_i phase
      rw [phase]
      exact ⟨fun _ => h.1.same, fun ended => (nomatch ended), none h.2⟩
    · rename_i phase
      rw [phase]
      exact ⟨fun _ => h.1.same, fun ended => (nomatch ended), none (congrArg DbSession.seen h.2.1)⟩
    · rename_i phase
      rw [phase]
      exact ⟨fun _ => h.1.same, fun ended => (nomatch ended), none (congrArg DbSession.seen h.2.1)⟩
    · rename_i phase
      rw [phase]
      exact ⟨fun _ => h.same, fun ended => (nomatch ended), _, h.seen⟩
    · rename_i phase
      rw [phase]
      exact ⟨fun _ => h.same, fun ended => (nomatch ended), _, h.seen⟩
    · rename_i phase
      rw [phase]
      exact ⟨fun other => absurd rfl other, fun _ => h, h.seen⟩
    · rename_i status other phase
      rw [phase]
      refine ⟨fun _ => h.1.same, fun ended => ?_, h.2⟩
      rw [Phase.ended.injEq] at ended
      exact absurd ended other
  obtain ⟨untouched, committed, x, seen⟩ := law
  exact ⟨untouched, fun ended => (committed ended).split, alike x seen⟩

/-- In every run of a submission whose commands are contained: nothing of it before its success, all of it with
its success, and its statements in one transaction over one generation. -/
theorem submission_one_transaction
    (h : (queryRuns lib commands sql confirmed shared).Trace Contained (submit lib sql confirmed shared) labels s) :
    OneTransaction (submitted lib commands sql) shared labels s := (submissionInv_of_trace h).law

end

/-! ## Runs on a small sandbox -/

instance (s : Execution ℕ) : (l : QueryLabel ℕ) → Decidable (Contained s l)
  | .submission _ => inferInstanceAs
    (Decidable (∀ command ∈ s.phase.command, command.Contained s.shared.catalog s.session.holds))
  | .refresh _ _ => instDecidableTrue

/-- A step, if the lock allows it. -/
def queryStep? (commands : List Char → List (TxCommand (Catalog ℕ))) (s : Execution ℕ) :
    QueryLabel ℕ → Option (Execution ℕ)
  | .submission reply =>
    let s' := advance commands s reply
    if s.session.holds = 0 → 0 < s'.session.holds → s.shared.refresh = none then some s' else none
  | .refresh env live =>
    if s.shared.refresh = none → s.session.holds = 0 then some { s with shared := refreshStep env live s.shared }
    else none

theorem queryStep_of_some {commands : List Char → List (TxCommand (Catalog ℕ))} {s s' : Execution ℕ}
    {l : QueryLabel ℕ} (h : queryStep? commands s l = some s') : QueryStep commands s l s' := by
  cases l with
  | submission reply =>
    simp only [queryStep?] at h
    split at h
    · cases h
      exact ⟨rfl, ‹_›⟩
    · cases h
  | refresh env live =>
    simp only [queryStep?] at h
    split at h
    · cases h
      exact ⟨rfl, ‹_›⟩
    · cases h

/-- A statement ends with its semicolon. -/
def endingStatements : List Char → List (List Char)
  | [] => [[]]
  | c :: sql =>
    if c = ';' then [';'] :: endingStatements sql
    else
      match endingStatements sql with
      | [] => [[c]]
      | stmt :: stmts => (c :: stmt) :: stmts

/-- What `sqlparse` reports of the statements of the runs, by their first words. -/
def firstWords : List (String × String) :=
  [("select", "SELECT"), ("insert", "INSERT"), ("update", "UPDATE"), ("delete", "DELETE"), ("commit", "COMMIT")]

/-- `sqlparse` on lists of these statements. -/
def bySemicolon : Library where
  split := endingStatements
  parse sql := some <|
    match firstWords.find? fun word => word.1.toList.isPrefixOf sql with
    | some word => ⟨word.2, [⟨.dml, word.2⟩]⟩
    | none => ⟨"UNKNOWN", []⟩
  isAlnum _ := false

/-- One more row in each table of a schema. -/
def Schema.insert (s : Schema ℕ) : Schema ℕ := { s with tables := s.tables.map fun t => (t.1, t.2 + 1) }

/-- An insert into the sandbox that the statement sees. -/
def insertProduct : TxWork (Catalog ℕ) where
  change seen c := { c with schemas := Lib.modify Schema.oid ((generation seen).getD 0) Schema.insert c.schemas }
  lasting := id
  holds := id

def unlockShared : TxWork (Catalog ℕ) := ⟨fun _ => id, id, Nat.pred⟩

def reads : TxWork (Catalog ℕ) := ⟨fun _ => id, id, id⟩

def smallServer (text : List Char) : List (TxCommand (Catalog ℕ)) :=
  if text = "insert into product values (1);".toList then [.work insertProduct]
  else if text = "commit;".toList then [.control (.commit false)]
  else if text = "select pg_advisory_unlock_shared(872234501);".toList then [.work unlockShared]
  else [.work reads]

/-- A sandbox with an empty table. -/
def smallSandbox : Shared ℕ := ⟨⟨[⟨1, liveSandboxSchema, [("product", 0)]⟩], 2⟩, none⟩

/-- One transaction of a refresh; the live table has five rows. -/
def refreshed : QueryLabel ℕ := .refresh (Sandbox.undisturbed [(some "live", "product")]) fun _ => some 5

def answered (n : ℕ) : List (QueryLabel ℕ) := List.replicate n (.submission .ok)

/-- A run on the small sandbox whose steps all meet `ok`. -/
def smallRun (ok : Execution ℕ → QueryLabel ℕ → Prop) [∀ s l, Decidable (ok s l)] (sql : String)
    (labels : List (QueryLabel ℕ)) : Option (Execution ℕ) :=
  labels.foldlM (fun s l => if ok s l then queryStep? smallServer s l else none)
    (submit bySemicolon sql.toList true smallSandbox)

/-- How it ends: its status, the sandbox, and the generations that its statements saw. -/
def outcome (s : Execution ℕ) : Option QuerySubmissionStatus × List (String × ℕ) × List (ℕ × Option ℕ) :=
  (match s.phase with
    | .ended status => some status
    | _ => none,
    (s.shared.catalog.schemas.filter (·.nspname = liveSandboxSchema)).flatMap Schema.tables,
    s.session.seen.map fun x => (x.1, generation x.2))

theorem smallRun_trace {ok : Execution ℕ → QueryLabel ℕ → Prop} [∀ s l, Decidable (ok s l)] {sql : String}
    {labels : List (QueryLabel ℕ)} {x : Option QuerySubmissionStatus × List (String × ℕ) × List (ℕ × Option ℕ)}
    (ran : (smallRun ok sql labels).map outcome = some x) :
    ∃ s, (queryRuns bySemicolon smallServer sql.toList true smallSandbox).Trace ok
      (submit bySemicolon sql.toList true smallSandbox) labels s ∧ outcome s = x := by
  obtain ⟨s, run, ends⟩ := Option.map_eq_some_iff.1 ran
  exact ⟨s, System.Trace.checked (fun _ _ _ => queryStep_of_some) run, ends⟩

theorem phase_of_outcome {s : Execution ℕ} {status : QuerySubmissionStatus} {tables : List (String × ℕ)}
    {seen : List (ℕ × Option ℕ)} (h : outcome s = (some status, tables, seen)) : s.phase = .ended status := by
  have status := congrArg Prod.fst h
  unfold outcome at status
  dsimp only at status
  split at status
  · rename_i phase
    rw [phase]
    cases status
    rfl
  · cases status

/-- An insert stays although the submission ends with an error, since a commit stood before the failing
statement; and the statements of a submission that unlocks see two generations. -/
theorem submission_in_pieces :
    (∃ labels s, (queryRuns bySemicolon smallServer "insert into product values (1);commit;select 1/0".toList true
        smallSandbox).Trace (fun _ _ => True)
        (submit bySemicolon "insert into product values (1);commit;select 1/0".toList true smallSandbox) labels s ∧
      s.phase = .ended .error ∧
      s.shared.catalog ≠ (withoutSubmission smallSandbox labels).catalog) ∧
    ∃ labels s, (queryRuns bySemicolon smallServer
        "select pg_advisory_unlock_shared(872234501);select count(*) from product".toList true
        smallSandbox).Trace (fun _ _ => True)
        (submit bySemicolon "select pg_advisory_unlock_shared(872234501);select count(*) from product".toList true
          smallSandbox) labels s ∧
      s.phase = .ended .success ∧
      ¬ ∀ x ∈ s.session.seen, ∀ y ∈ s.session.seen, generation x.2 = generation y.2 := by
  refine ⟨?_, ?_⟩
  · have run : (smallRun (fun _ _ => True) "insert into product values (1);commit;select 1/0"
        (answered 9 ++ [.submission (.raises .other false)])).map outcome =
          some (some .error, [("product", 1)], [(1, some 1)]) := by decide +kernel
    obtain ⟨s, trace, ends⟩ := smallRun_trace run
    refine ⟨_, s, trace, phase_of_outcome ends, fun same => ?_⟩
    have tables := congrArg (fun x => x.2.1) ends
    simp only [outcome, same] at tables
    exact absurd tables (by decide +kernel)
  · have run : (smallRun (fun _ _ => True) "select pg_advisory_unlock_shared(872234501);select count(*) from product"
        (answered 5 ++ List.replicate 5 refreshed ++ answered 4)).map outcome =
          some (some .success, [("product", 5)], [(1, some 1), (1, some 2)]) := by decide +kernel
    obtain ⟨s, trace, ends⟩ := smallRun_trace run
    refine ⟨_, s, trace, phase_of_outcome ends, fun one => ?_⟩
    have seen : s.session.seen.map (fun x => (x.1, generation x.2)) = [(1, some 1), (1, some 2)] :=
      congrArg (fun x => x.2.2) ends
    obtain ⟨x, first, before⟩ := List.mem_map.1 (seen ▸ List.mem_cons_self)
    obtain ⟨y, second, after⟩ := List.mem_map.1 (seen ▸ List.mem_cons_of_mem _ (List.mem_singleton_self _))
    have same := one x first y second
    rw [(Prod.mk.inj before).2, (Prod.mk.inj after).2] at same
    exact absurd same (by decide)

/-- An insert and a count, with a refresh before and after. -/
theorem submission_one_transaction_counted :
    let sql := "insert into product values (1);select count(*) from product".toList
    let labels := List.replicate 5 refreshed ++ answered 9 ++ [refreshed]
    ∃ s, OneTransaction (submitted bySemicolon smallServer sql) smallSandbox labels s ∧
      s.phase = .ended .success := by
  intro sql labels
  have run : (smallRun Contained "insert into product values (1);select count(*) from product" labels).map outcome =
      some (some .success, [("product", 6)], [(1, some 2), (1, some 2)]) := by decide +kernel
  obtain ⟨s, trace, ends⟩ := smallRun_trace run
  exact ⟨s, submission_one_transaction trace, phase_of_outcome ends⟩

end MeadowOps.Query
