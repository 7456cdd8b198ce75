import MeadowOps.Lib.Triple
import MeadowOps.Simulation.ClockOps

/-!
# The chain of world states

Sequences of the operations on the clock, with commits and rollbacks between them: the rows of `world_state`
form one chain from the clean baseline, and the clock points at its end.
-/

namespace MeadowOps.Simulation

open Db Lib Scheduler

/-! ## The chain -/

/-- The tables of a seeded clock: its root, its clock and its head. -/
structure Seeded (t : ClockTables) (root : WorldState) (clock : ClockRow) (head : WorldState) : Prop where
  lineage : Lineage WorldState.id WorldState.parentId t.worldState
  first : t.worldState.head? = some root
  baseline : root.kind = .cleanBaseline
  others : ∀ w ∈ t.worldState.tail, w.kind ≠ .cleanBaseline
  seeds : ∀ w ∈ t.worldState, w.seed = root.seed
  stored : t.simulationClock = some clock
  last : t.worldState.getLast? = some head
  current : clock.currentWorldStateId = some head.id
  date : head.simulationDate ≤ clock.simulationDate

/-- Empty tables, or a chain. -/
def Chained (t : ClockTables) : Prop := t = ⟨[], none⟩ ∨ ∃ root clock head, Seeded t root clock head

theorem Seeded.head_found {t : ClockTables} {root head : WorldState} {clock : ClockRow}
    (h : Seeded t root clock head) : lookup WorldState.id head.id t.worldState = some head :=
  lookup_of_mem h.lineage.keyed (List.mem_of_getLast? h.last)

/-- The one clean baseline. -/
theorem Seeded.baselines {t : ClockTables} {root head : WorldState} {clock : ClockRow}
    (h : Seeded t root clock head) : t.worldState.filter (fun w => decide (w.kind = .cleanBaseline)) = [root] := by
  obtain ⟨rest, rows⟩ := List.head?_eq_some_iff.1 h.first
  have others := h.others
  rw [rows, List.tail_cons] at others
  rw [rows, List.filter_cons, if_pos (decide_eq_true h.baseline), List.cons_inj_right, List.filter_eq_nil_iff]
  exact fun w mem kind => others w mem (of_decide_eq_true kind)

theorem Seeded.headSeed {t : ClockTables} {root head : WorldState} {clock : ClockRow}
    (h : Seeded t root clock head) : head.seed = root.seed := h.seeds head (List.mem_of_getLast? h.last)

/-- What `reset_simulation` looks up is the root. -/
theorem Seeded.baseline_unique {t : ClockTables} {root head baseline : WorldState} {clock : ClockRow}
    (h : Seeded t root clock head)
    (found : t.worldState.filter (fun w => decide (w.kind = .cleanBaseline ∧ w.parentId = none)) = [baseline]) :
    baseline = root := by
  have mem : baseline ∈ t.worldState.filter fun w => decide (w.kind = .cleanBaseline ∧ w.parentId = none) := by
    rw [found]
    exact List.mem_singleton_self _
  obtain ⟨here, kind⟩ := List.mem_filter.1 mem
  have one : baseline ∈ t.worldState.filter fun w => decide (w.kind = .cleanBaseline) :=
    List.mem_filter.2 ⟨here, decide_eq_true (of_decide_eq_true kind).1⟩
  rw [h.baselines] at one
  exact List.mem_singleton.1 one

/-- A row under the head, and the clock that points at it. -/
theorem Seeded.extend {t : ClockTables} {root head row : WorldState} {clock clock' : ClockRow}
    (h : Seeded t root clock head) (kind : row.kind ≠ .cleanBaseline) (seed : row.seed = root.seed)
    (under : row.parentId = some head.id) (fresh : row.id ∉ t.worldState.map WorldState.id)
    (current : clock'.currentWorldStateId = some row.id) (date : row.simulationDate ≤ clock'.simulationDate) :
    Seeded ⟨t.worldState ++ [row], some clock'⟩ root clock' row where
  lineage := h.lineage.child (List.mem_of_getLast? h.last) under fresh
  first := by
    rw [List.head?_append, h.first]
    rfl
  baseline := h.baseline
  others := by
    obtain ⟨rest, rows⟩ := List.head?_eq_some_iff.1 h.first
    have others := h.others
    rw [rows, List.tail_cons] at others
    intro w mem
    rw [rows, List.cons_append, List.tail_cons] at mem
    rcases List.mem_append.1 mem with old | new
    · exact others w old
    · rw [List.mem_singleton.1 new]
      exact kind
  seeds := by
    intro w mem
    rcases List.mem_append.1 mem with old | new
    · exact h.seeds w old
    · rw [List.mem_singleton.1 new]
      exact seed
  stored := rfl
  last := List.getLast?_concat
  current := current
  date := date

/-- The clock moves on, or changes its status. -/
theorem Seeded.clocked {t : ClockTables} {root head : WorldState} {clock clock' : ClockRow}
    (h : Seeded t root clock head) (current : clock'.currentWorldStateId = clock.currentWorldStateId)
    (date : clock.simulationDate ≤ clock'.simulationDate) :
    Seeded { t with simulationClock := some clock' } root clock' head :=
  { h with
    stored := rfl
    current := current.trans h.current
    date := h.date.trans date }

/-! ## The operations -/

/-- A call that returns extends the chain, and one that raises leaves the tables as they were. -/
def Extends {α : Type} (t : ClockTables) (x : ClockM α) : Prop :=
  Triple (· = t) x (fun _ t' => Chained t' ∧ t.worldState <+: t'.worldState) (· = t)

section
variable {t : ClockTables} {α : Type}

/-- A program that only reads, and what it reads. -/
def Reads (t : ClockTables) (x : ClockM α) (F : α → Prop) : Prop :=
  Triple (· = t) x (fun a t' => t' = t ∧ F a) (· = t)

theorem Reads.bind {β : Type} {x : ClockM α} {F : α → Prop} {f : α → ClockM β} {Q : β → ClockTables → Prop}
    (hx : Reads t x F) (hf : ∀ a, F a → Triple (· = t) (f a) Q (· = t)) : Triple (· = t) (x >>= f) Q (· = t) :=
  Triple.bind hx fun a => Triple.of_fact (hf a)

theorem reads_lockClock : Reads t ClockOps.lockClock fun clock => t.simulationClock = some clock := by
  intro s same
  subst s
  rw [ClockOps.lockClock, get_bind]
  cases here : t.simulationClock with
  | none => rfl
  | some clock => exact ⟨rfl, rfl⟩

theorem reads_currentHead (clock : ClockRow) : Reads t (ClockOps.currentHead clock) fun found =>
    ∃ current, clock.currentWorldStateId = some current ∧ found = lookup WorldState.id current t.worldState := by
  intro s same
  subst s
  unfold ClockOps.currentHead
  cases here : clock.currentWorldStateId with
  | none => rfl
  | some current => exact ⟨rfl, current, rfl, rfl⟩

theorem reads_rowOf (found : Option WorldState) : Reads t (ClockOps.rowOf found) fun w => found = some w := by
  intro s same
  subst s
  cases found with
  | none => rfl
  | some w => exact ⟨rfl, rfl⟩

theorem reads_cleanBaseline : Reads t ClockOps.cleanBaseline fun root =>
    t.worldState.filter (fun w => decide (w.kind = .cleanBaseline ∧ w.parentId = none)) = [root] := by
  intro s same
  subst s
  rw [ClockOps.cleanBaseline, get_bind]
  cases rows : t.worldState.filter fun w => decide (w.kind = .cleanBaseline ∧ w.parentId = none) with
  | nil => rfl
  | cons root more =>
    cases more with
    | nil => exact ⟨rfl, rfl⟩
    | cons other more => rfl

theorem reads_liftExcept {x : Except ClockOpError α} : Reads t (liftExcept id x) fun a => x = .ok a := by
  intro s same
  subst s
  cases x with
  | error e => rfl
  | ok a => exact ⟨rfl, rfl⟩

/-- The chain of tables that have a clock. -/
theorem Chained.seeded (h : Chained t) {clock : ClockRow} (stored : t.simulationClock = some clock) :
    ∃ root head, Seeded t root clock head := by
  rcases h with rfl | ⟨root, clock', head, seeded⟩
  · cases stored
  · have same := seeded.stored.symm.trans stored
    rw [Option.some.injEq] at same
    exact ⟨root, head, same ▸ seeded⟩

/-- A program that reads the clock and goes on from its chain. -/
theorem extends_lockClock (h : Chained t) {f : ClockRow → ClockM α}
    (go : ∀ root clock head, Seeded t root clock head → Extends t (f clock)) :
    Extends t (ClockOps.lockClock >>= f) :=
  reads_lockClock.bind fun clock stored => by
    obtain ⟨root, head, seeded⟩ := h.seeded stored
    exact go root clock head seeded

/-- The head of the chain is read. -/
theorem extends_currentHead {root head : WorldState} {clock : ClockRow} (h : Seeded t root clock head)
    {f : Option WorldState → ClockM α} (go : Extends t (f (some head))) :
    Extends t (ClockOps.currentHead clock >>= f) :=
  (reads_currentHead clock).bind fun found ⟨current, here, row⟩ => by
    have same := here.symm.trans h.current
    rw [Option.some.injEq] at same
    rw [row, same, h.head_found]
    exact go

/-- A row under the head is added, and the clock set to it. -/
theorem extends_addWorldState {root head : WorldState} {clock : ClockRow} (h : Seeded t root clock head)
    (row : WorldState) (clock' : ClockRow) (kind : row.kind ≠ .cleanBaseline) (seed : row.seed = root.seed)
    (under : row.parentId = some head.id) (current : clock'.currentWorldStateId = some row.id)
    (date : row.simulationDate ≤ clock'.simulationDate) (a : α) :
    Extends t (do
      ClockOps.addWorldState row
      ClockOps.saveClock clock'
      return a) := by
  intro s same
  subst s
  cases inserted : insert? WorldState.id row t.worldState with
  | none =>
    have refused : ClockOps.addWorldState row t = .error (.integrityError "world_state_pkey") t := by
      rw [ClockOps.addWorldState, get_bind, inserted]
      rfl
    rw [bind_of_error refused]
  | some rows =>
    have added : ClockOps.addWorldState row t = .ok () { t with worldState := rows } := by
      rw [ClockOps.addWorldState, get_bind, inserted]
      rfl
    obtain ⟨rfl, fresh⟩ := insert?_eq_some inserted
    rw [bind_of_ok added]
    exact ⟨.inr ⟨root, clock', row, h.extend kind seed under fresh current date⟩, List.prefix_append ..⟩

/-- The clock alone is set. -/
theorem extends_saveClock {root head : WorldState} {clock : ClockRow} (h : Seeded t root clock head)
    (clock' : ClockRow) (current : clock'.currentWorldStateId = clock.currentWorldStateId)
    (date : clock.simulationDate ≤ clock'.simulationDate) : Extends t (ClockOps.saveClock clock') := by
  intro s same
  subst s
  exact ⟨.inr ⟨root, clock', head, h.clocked current date⟩, List.prefix_rfl⟩

theorem Extends.returning {x : ClockM α} {β : Type} (h : Extends t x) (b : β) :
    Extends t (do
      let _ ← x
      return b) :=
  Triple.bind h fun _ _ post => post

theorem extends_seedRows (h : Chained t) (id : Uuid) : Extends t (ClockOps.seedRows id) := by
  intro s same
  subst s
  rcases h with rfl | ⟨root, clock, head, seeded⟩
  · let root : WorldState := ⟨id, .cleanBaseline, ClockOps.cleanBaselineSimulationDate,
      ClockOps.cleanBaselineSeed, ClockOps.cleanBaselineLabel, none⟩
    refine ⟨.inr ⟨root, ⟨ClockOps.cleanBaselineSimulationDate, .running, some id⟩, root, ?_⟩, List.nil_prefix⟩
    exact {
      lineage := .root rfl
      first := rfl
      baseline := rfl
      others := fun _ mem => absurd mem List.not_mem_nil
      seeds := fun w mem => by rw [List.mem_singleton.1 mem]
      stored := rfl
      last := rfl
      current := rfl
      date := le_rfl }
  · have rows : t.worldState ≠ [] := List.ne_nil_of_mem (List.mem_of_getLast? seeded.last)
    have nothing : ClockOps.seedRows id t = .ok false t := by
      rw [ClockOps.seedRows, get_bind, if_pos rows]
      rfl
    rw [nothing]
    exact ⟨.inr ⟨root, clock, head, seeded⟩, List.prefix_rfl⟩

theorem advanceDateChecked_ok {current newDate : Date} {days : ℤ}
    (h : advanceDateChecked current days = .ok newDate) : current ≤ newDate := by
  unfold advanceDateChecked advanceDate at h
  split at h
  · cases h
  · rename_i moved
    split at moved
    · cases moved
    · cases moved
      split at h
      · cases h
      · cases h
        unfold Date at *
        omega

theorem extends_advanceSimulation (h : Chained t) (days : ℤ) : Extends t (ClockOps.advanceSimulation days) := by
  refine extends_lockClock h fun root clock head seeded => ?_
  split
  · exact fun s same => same
  · refine reads_liftExcept.bind fun newDate moved => ?_
    have later : clock.simulationDate ≤ newDate := advanceDateChecked_ok moved
    exact (extends_saveClock seeded { clock with simulationDate := newDate } rfl later).returning newDate

theorem extends_setStatus (h : Chained t) (status : ClockStatus) :
    Extends t (do
      let clock ← ClockOps.lockClock
      liftExcept id (validateClockTransition clock.status status)
      ClockOps.saveClock { clock with status := status }) := by
  refine extends_lockClock h fun root clock head seeded => reads_liftExcept.bind fun _ _ => ?_
  exact extends_saveClock seeded { clock with status := status } rfl le_rfl

theorem extends_snapshotSimulation (h : Chained t) (id : Uuid) (label : String) :
    Extends t (ClockOps.snapshotSimulation id label) := by
  refine extends_lockClock h fun root clock head seeded => extends_currentHead seeded ?_
  refine (reads_rowOf (some head)).bind fun w found => ?_
  rw [Option.some.injEq] at found
  subst w
  exact extends_addWorldState seeded ⟨id, .snapshot, clock.simulationDate, head.seed, label, some head.id⟩
    { clock with currentWorldStateId := some id } WorldStateKind.noConfusion seeded.headSeed rfl rfl le_rfl id

theorem extends_resetSimulation (h : Chained t) (id : Uuid) (label : String) :
    Extends t (ClockOps.resetSimulation id label) := by
  refine extends_lockClock h fun root clock head seeded => extends_currentHead seeded ?_
  refine reads_cleanBaseline.bind fun baseline found => ?_
  have same : baseline = root := seeded.baseline_unique found
  subst same
  refine (reads_rowOf (some head)).bind fun w found => ?_
  rw [Option.some.injEq] at found
  subst w
  exact extends_addWorldState seeded ⟨id, .reset, baseline.simulationDate, baseline.seed, label, some head.id⟩
    ⟨baseline.simulationDate, .running, some id⟩ WorldStateKind.noConfusion rfl rfl rfl le_rfl id

theorem extends_rebaseClock (h : Chained t) (id : Uuid) (simulationDate : Date) (label : String) :
    Extends t (ClockOps.rebaseClock id simulationDate label) := by
  refine extends_lockClock h fun root clock head seeded => extends_currentHead seeded ?_
  refine (reads_rowOf (some head)).bind fun w found => ?_
  rw [Option.some.injEq] at found
  subst w
  exact extends_addWorldState seeded ⟨id, .reset, simulationDate, head.seed, label, some head.id⟩
    ⟨simulationDate, .running, some id⟩ WorldStateKind.noConfusion seeded.headSeed rfl rfl le_rfl id

theorem ClockOp.extends (op : ClockOp) (h : Chained t) : Extends t op.statements := by
  cases op with
  | seed id => exact extends_seedRows h id
  | advance days => exact (extends_advanceSimulation h days).returning false
  | pause => exact (extends_setStatus h .paused).returning false
  | resume => exact (extends_setStatus h .running).returning false
  | snapshot id label => exact (extends_snapshotSimulation h id label).returning false
  | reset id label => exact (extends_resetSimulation h id label).returning false
  | rebase id simulationDate label => exact (extends_rebaseClock h id simulationDate label).returning false

end

/-! ## Runs -/

inductive ClockLabel where
  | call (op : ClockOp)
  | commit
  | rollback
  deriving DecidableEq, Repr

/-- A session with a broken transaction refuses everything but a rollback. -/
def clockStep (t : Tx ClockTables) : ClockLabel → Tx ClockTables
  | .call op => if t.active then endState (op.call t) else t
  | .commit => if t.active then t.commit else t
  | .rollback => t.rollback

/-- Sequences of calls from empty tables. -/
def clockRuns : System (Tx ClockTables) ClockLabel where
  init t := t = Tx.start ⟨[], none⟩
  step t l t' := t' = clockStep t l

/-- What the session keeps. -/
structure ClockInv (t : Tx ClockTables) : Prop where
  committed : Chained t.committed
  pending : Chained t.pending
  grown : t.committed.worldState <+: t.pending.worldState

/-- What a call does to the session. -/
theorem ClockInv.call {t : Tx ClockTables} (h : ClockInv t) (op : ClockOp) :
    ClockInv (endState (op.call t)) ∧
    t.committed.worldState <+: (endState (op.call t)).committed.worldState ∧
    t.pending.worldState <+: (endState (op.call t)).pending.worldState ∧
    ∀ e t', op.call t = .error e t' → t'.pending = t.pending ∧ t'.committed = t.committed := by
  have ran := op.extends h.pending t.pending rfl
  unfold ClockOp.call Tx.onPending
  cases run : op.statements t.pending with
  | error e s =>
    rw [run] at ran
    have same : s = t.pending := ran
    subst same
    refine ⟨⟨h.committed, h.pending, h.grown⟩, List.prefix_rfl, List.prefix_rfl, ?_⟩
    rintro _ _ ⟨⟩
    exact ⟨rfl, rfl⟩
  | ok commits s =>
    rw [run] at ran
    obtain ⟨chained, grown⟩ := ran
    cases commits with
    | false =>
      exact ⟨⟨h.committed, chained, h.grown.trans grown⟩, List.prefix_rfl, grown, fun _ _ raised => nomatch raised⟩
    | true =>
      exact ⟨⟨chained, chained, List.prefix_rfl⟩, h.grown.trans grown, grown, fun _ _ raised => nomatch raised⟩

/-- An operation keeps the invariant, and does no more than append to the world states. -/
theorem ClockInv.step {t : Tx ClockTables} (h : ClockInv t) (l : ClockLabel) :
    ClockInv (clockStep t l) ∧ t.committed.worldState <+: (clockStep t l).committed.worldState := by
  cases l with
  | call op =>
    by_cases active : t.active = true
    · simp only [clockStep, if_pos active]
      exact ⟨(h.call op).1, (h.call op).2.1⟩
    · simp only [clockStep, if_neg active]
      exact ⟨h, List.prefix_rfl⟩
  | commit =>
    by_cases active : t.active = true
    · simp only [clockStep, if_pos active]
      exact ⟨⟨h.pending, h.pending, List.prefix_rfl⟩, h.grown⟩
    · simp only [clockStep, if_neg active]
      exact ⟨h, List.prefix_rfl⟩
  | rollback => exact ⟨⟨h.committed, h.committed, List.prefix_rfl⟩, List.prefix_rfl⟩

/-- By induction over the operations. -/
theorem clockInv_of_run {t : Tx ClockTables} (h : clockRuns.Reachable t) : ClockInv t := by
  refine h.invariant (I := ClockInv) (fun t start => ?_) fun t l t' _ inv _ step => ?_
  · have start : t = Tx.start ⟨[], none⟩ := start
    subst start
    exact ⟨.inl rfl, .inl rfl, List.prefix_rfl⟩
  · have step : t' = clockStep t l := step
    rw [step]
    exact (inv.step l).1

/-- One chain of world states from the clean baseline, with the clock at its end. -/
structure WorldStateChain (t : ClockTables) (root : WorldState) (clock : ClockRow) (head : WorldState) : Prop where
  oneBaseline : t.worldState.filter (fun w => decide (w.kind = .cleanBaseline)) = [root]
  noParent : root.parentId = none
  parents : ∀ before w after, t.worldState = before ++ w :: after →
    before = [] ∧ w = root ∨ ∃ p ∈ before, w.parentId = some p.id
  ends : ∀ w ∈ t.worldState, ∃ n, ancestor WorldState.id WorldState.parentId t.worldState n w = some root
  seeds : ∀ w ∈ t.worldState, w.seed = root.seed
  stored : t.simulationClock = some clock
  latest : t.worldState.getLast? = some head
  current : clock.currentWorldStateId = some head.id
  date : head.simulationDate ≤ clock.simulationDate

theorem Seeded.chain {t : ClockTables} {root head : WorldState} {clock : ClockRow}
    (h : Seeded t root clock head) : WorldStateChain t root clock head := by
  obtain ⟨root', rest, rows, none, descends⟩ := h.lineage.descends
  have same : root' = root := by
    have first := h.first
    rw [rows, List.head?_cons, Option.some.injEq] at first
    exact first
  subst same
  constructor
  case oneBaseline => exact h.baselines
  case noParent => exact none
  case parents =>
    intro before w after split
    rcases h.lineage.parents split with ⟨rfl, -⟩ | under
    · refine .inl ⟨rfl, ?_⟩
      rw [rows, List.nil_append, List.cons.injEq] at split
      exact split.1.symm
    · exact .inr under
  case ends => exact descends
  case seeds => exact h.seeds
  case stored => exact h.stored
  case latest => exact h.last
  case current => exact h.current
  case date => exact h.date

/-- Before the seed there is nothing; what is written later is added at the end. -/
structure ClockLaw (t : Tx ClockTables) : Prop where
  committed : t.committed = ⟨[], none⟩ ∨ ∃ root clock head, WorldStateChain t.committed root clock head
  pending : t.pending = ⟨[], none⟩ ∨ ∃ root clock head, WorldStateChain t.pending root clock head
  seeded : ∀ (id : Uuid) (t' : Tx ClockTables), (ClockOp.seed id).call t = .ok () t' → t'.pending.worldState ≠ []
  appended : ∀ (op : ClockOp) (t' : Tx ClockTables), op.call t = .ok () t' →
    t.pending.worldState <+: t'.pending.worldState
  raised : ∀ (op : ClockOp) (e : ClockOpError) (t' : Tx ClockTables), op.call t = .error e t' →
    t'.pending = t.pending ∧ t'.committed = t.committed
  kept : ∀ t', (clockRuns.after t).Reachable t' → t.committed.worldState <+: t'.committed.worldState

theorem Chained.law {t : ClockTables} (h : Chained t) :
    t = ⟨[], none⟩ ∨ ∃ root clock head, WorldStateChain t root clock head := by
  rcases h with empty | ⟨root, clock, head, seeded⟩
  · exact .inl empty
  · exact .inr ⟨root, clock, head, seeded.chain⟩

/-- In every sequence of operations the world states form one chain, whose end the clock points at. -/
theorem world_state_chain {t : Tx ClockTables} (h : clockRuns.Reachable t) : ClockLaw t := by
  have inv := clockInv_of_run h
  constructor
  case committed => exact inv.committed.law
  case pending => exact inv.pending.law
  case seeded =>
    intro id t' returned empty
    rcases inv.pending with start | ⟨root, clock, head, seeded⟩
    · have ran : (ClockOp.seed id).call t = .ok () (Tx.commit { t with pending :=
          ⟨[⟨id, .cleanBaseline, ClockOps.cleanBaselineSimulationDate, ClockOps.cleanBaselineSeed,
            ClockOps.cleanBaselineLabel, none⟩], some ⟨ClockOps.cleanBaselineSimulationDate, .running, some id⟩⟩ }) := by
        unfold ClockOp.call Tx.onPending
        rw [start]
        rfl
      rw [ran] at returned
      cases returned
      exact absurd empty (List.cons_ne_nil _ _)
    · have grown := (inv.call (.seed id)).2.2.1
      rw [returned, show (endState (EStateM.Result.ok () t')).pending = t'.pending from rfl, empty,
        List.prefix_nil] at grown
      exact List.ne_nil_of_mem (List.mem_of_getLast? seeded.last) grown
  case appended =>
    intro op t' returned
    have grown := (inv.call op).2.2.1
    rw [returned] at grown
    exact grown
  case raised => exact fun op => (inv.call op).2.2.2
  case kept =>
    intro t' later
    refine (System.Reach.later (R := fun t t' => t.committed.worldState <+: t'.committed.worldState)
      (fun _ => List.prefix_rfl) (fun _ _ _ => List.IsPrefix.trans) (fun t l t' reached _ step => ?_) h later).2
    have step : t' = clockStep t l := step
    rw [step]
    exact ((clockInv_of_run reached).step l).2

/-- Seeded, advanced, snapshotted, rebased into the past and reset; a pause of a paused clock is refused. -/
theorem world_state_chain_resetAfterRebase :
    let labels : List ClockLabel := [.call (.seed 1), .call (.advance 5), .call (.snapshot 2 "first"), .commit,
      .call (.rebase 3 700000 "past"), .call .pause, .call .pause, .call (.reset 4 "Reset"), .commit]
    let t := labels.foldl clockStep (Tx.start ⟨[], none⟩)
    ClockLaw t ∧ t.committed.worldState.map (fun w => (w.id, w.parentId)) =
      [(1, none), (2, some 1), (3, some 2), (4, some 3)] := by
  intro labels t
  have follow : ∀ (labels : List ClockLabel) (t : Tx ClockTables), clockRuns.Reachable t →
      clockRuns.Reachable (labels.foldl clockStep t) := by
    intro labels
    induction labels with
    | nil => exact fun t h => h
    | cons l labels ih => exact fun t h => ih _ (.next h trivial rfl)
  exact ⟨world_state_chain (follow labels _ (.start rfl)), by decide +kernel⟩

end MeadowOps.Simulation
