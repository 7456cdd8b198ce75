import MeadowOps.Simulation.RebuildCalls
import MeadowOps.Simulation.TickCompletion

/-!
# Ticks, rebuilds and clock operations at once

`officeRuns` takes one operation after the other. Here any number of schedulers, rebuild jobs and callers of the
clock operations interleave: the row of the clock, which all of them lock first, puts them in order. A turn is a
pass of the flow or a whole call after it, a step of a rebuild, or the statements of an operation on the clock.
-/

namespace MeadowOps.Simulation

open Db Lib MeadowOps.Flow Scheduler Exceptions OneLock

/-! ## Parts of the database -/

theorem isPart_platformDb : IsPart platformDb withPlatformDb := ⟨fun _ _ => rfl, fun _ => rfl, fun _ _ _ => rfl⟩

theorem isPart_platform : IsPart Office.platform fun p o => { o with platform := p } :=
  ⟨fun _ _ => rfl, fun _ => rfl, fun _ _ _ => rfl⟩

theorem isPart_world : IsPart Platform.world fun w p => { p with world := w } :=
  ⟨fun _ _ => rfl, fun _ => rfl, fun _ _ _ => rfl⟩

/-- A statement over the platform respects the noise on the whole. -/
theorem respects_platformDb {ε α : Type} {x : EStateM ε (Database Platform) α}
    (respects : Txn.Respects SameButFailed x) :
    Txn.Respects SameButFailed (zoom platformDb withPlatformDb x) := by
  intro v v' same
  have part : SameButFailed (platformDb v) (platformDb v') :=
    ⟨same.clock, congrArg Office.platform same.tables, same.ticks⟩
  have both := respects _ _ part
  unfold zoom
  cases first : x (platformDb v) with
  | ok a w =>
    cases second : x (platformDb v') with
    | ok a' w' =>
      rw [first, second] at both
      obtain ⟨rfl, clock, tables, ticks⟩ := both
      refine ⟨rfl, clock, ?_, ticks⟩
      rw [withPlatformDb, withPlatformDb, same.tables, tables]
    | error e' w' =>
      rw [first, second] at both
      exact both.elim
  | error e w =>
    cases second : x (platformDb v') with
    | ok a' w' =>
      rw [first, second] at both
      exact both.elim
    | error e' w' =>
      rw [first, second] at both
      obtain ⟨rfl, clock, tables, ticks⟩ := both
      refine ⟨rfl, clock, ?_, ticks⟩
      rw [withPlatformDb, withPlatformDb, same.tables, tables]

/-! ## The operations on the clock -/

def clockTxn (op : ClockOp) : Txn (Database Office) :=
  .run (zoom platformDb withPlatformDb (zoom clockTables withClockTables op.statements)) (fun _ => .commit)
    fun _ => .rollback

theorem alone_clockTxn (op : ClockOp) (db : Database Office) :
    (clockTxn op).alone db db = withPlatformDb (op.commit (platformDb db)) db := by
  rw [clockTxn, Txn.alone_run, zoom, zoom, ClockOp.commit]
  cases op.statements (clockTables (platformDb db)) with
  | ok _ t => rfl
  | error e t => rfl

theorem respects_clockTables {ε α : Type} (x : EStateM ε ClockTables α) :
    Txn.Respects SameButFailed (zoom clockTables withClockTables x) := by
  intro v v' same
  have part : clockTables v' = clockTables v := by rw [clockTables, clockTables, same.clock, same.tables]
  have kept : ∀ t : ClockTables, SameButFailed (withClockTables t v) (withClockTables t v') := by
    intro t
    unfold withClockTables
    cases t.simulationClock with
    | none => exact same
    | some row =>
      refine ⟨rfl, ?_, same.ticks⟩
      dsimp only
      rw [same.tables]
  unfold zoom
  rw [part]
  cases x (clockTables v) with
  | ok a t => exact ⟨rfl, kept t⟩
  | error e t => exact ⟨rfl, kept t⟩

theorem same_clockTxn (op : ClockOp) : Txn.Same SameButFailed (clockTxn op) (clockTxn op) :=
  .run (respects_platformDb (respects_clockTables op.statements)) (fun _ => .commit) fun _ => .rollback

/-! ## The tick -/

/-- The seven passes one by one. -/
def officePasses (tick : OfficeTick) : List (Date → EStateM PlatformError Office ℕ) :=
  (flowPasses tick.day.tick).map fun pass d =>
    onPlatform (zoom Platform.world (fun w p => { p with world := w }) (raising .flow (pass d)))

def singleSteps (tick : OfficeTick) : TickSteps PlatformError Office :=
  { officeSteps tick with passes := officePasses tick }

theorem raising_bind {ε ε' σ α β : Type} (wrap : ε → ε') (x : EStateM ε σ α) (f : α → EStateM ε σ β) :
    raising wrap (x >>= f) = raising wrap x >>= fun a => raising wrap (f a) := by
  funext s
  cases ran : x s with
  | ok a s' =>
    have first : raising wrap x s = .ok a s' := by rw [raising, ran]
    rw [bind_of_ok first, raising, bind_of_ok ran]
    rfl
  | error e s' =>
    have first : raising wrap x s = .error (wrap e) s' := by rw [raising, ran]
    rw [bind_of_error first, raising, bind_of_error ran]

theorem raising_foldlM {ε ε' σ α β : Type} (wrap : ε → ε') (f : β → α → EStateM ε σ β) (l : List α) (b : β) :
    raising wrap (l.foldlM f b) = l.foldlM (fun b a => raising wrap (f b a)) b := by
  induction l generalizing b with
  | nil => rfl
  | cons a l ih =>
    rw [List.foldlM_cons, List.foldlM_cons, raising_bind]
    exact congrArg _ (funext ih)

/-- The passes over the office are those of the flow. -/
theorem runPasses_officePasses (tick : OfficeTick) (d : Date) :
    runPasses (officePasses tick) d = onPlatform (flow tick.day d) := by
  rw [flow, ← runPasses_flowPasses, runPasses, runPasses, officePasses, List.foldlM_map, raising_foldlM, onPlatform,
    zoom_foldlM isPart_world, zoom_foldlM isPart_platform]
  congr 1
  funext events pass
  rw [raising_bind, zoom_bind isPart_world, zoom_bind isPart_platform]
  refine congrArg _ (funext fun e => ?_)
  rw [show (raising PlatformError.flow (pure (events + e)) : EStateM PlatformError World ℕ) = pure (events + e) from rfl,
    zoom_pure isPart_world, zoom_pure isPart_platform]

theorem runTick_singleSteps (tick : OfficeTick) (db : Database Office) :
    runTick PlatformError.aborts (singleSteps tick) db = runTick PlatformError.aborts (officeSteps tick) db := by
  have passes : runPasses (singleSteps tick).passes = runPasses (officeSteps tick).passes := by
    funext d
    rw [show (singleSteps tick).passes = officePasses tick from rfl, runPasses_officePasses]
    simp only [officeSteps, runPasses, List.foldlM_cons, List.foldlM_nil, zero_add, bind_pure]
  have body : tickBody PlatformError.aborts (singleSteps tick) = tickBody PlatformError.aborts (officeSteps tick) := by
    funext d
    unfold tickBody
    rw [passes]
    rfl
  unfold runTick
  rw [body]

/-! ## The rebuild -/

def officeRebuild (env : RepopulateEnv) (today : Date) (historyDays : ℤ) : Txn (Database Office) :=
  .inOrder ((rebuildCalls env today historyDays).map (zoom platformDb withPlatformDb))

theorem alone_officeRebuild (env : RepopulateEnv) (today : Date) {historyDays : ℤ} (long : 1 ≤ historyDays)
    (db : Database Office) : (officeRebuild env today historyDays).alone db db =
      withPlatformDb (repopulateWork env today historyDays (platformDb db)).2 db := by
  rw [officeRebuild, Txn.alone_inOrder, List.foldlM_map, ← zoom_foldlM isPart_platformDb,
    repopulateWork_calls env long, zoom, runCalls]
  cases (rebuildCalls env today historyDays).foldlM (fun _ x => x) () (platformDb db) with
  | ok _ p => rfl
  | error e p => rfl

/-! ## The system -/

/-- The transactions that lock the row of the clock first. A rebuild of no day raises before it does, and the seed
takes no lock. -/
inductive OfficeTxn : Txn (Database Office) → Prop where
  | clock (op : ClockOp) (locks : ∀ id, op ≠ .seed id) : OfficeTxn (clockTxn op)
  | rebuild (env : RepopulateEnv) (today : Date) {historyDays : ℤ} (long : 1 ≤ historyDays) :
    OfficeTxn (officeRebuild env today historyDays)
  | tick (tick : OfficeTick) : OfficeTxn (tickTxn PlatformError.aborts (singleSteps tick))

theorem OfficeTxn.same {p : Txn (Database Office)} (h : OfficeTxn p) : Txn.Same SameButFailed p p := by
  cases h with
  | clock op => exact same_clockTxn op
  | rebuild env today long =>
    refine .inOrder fun x mem => ?_
    obtain ⟨y, call, rfl⟩ := List.mem_map.1 mem
    exact respects_platformDb (respects_rebuildCalls _ _ y call)
  | tick tick => exact same_tickTxn _

/-- Alone, each is an operation of the office. -/
theorem OfficeTxn.alone {p : Txn (Database Office)} (h : OfficeTxn p) (db : Database Office) :
    ∃ l, p.alone db db = officeNext db l := by
  cases h with
  | clock op => exact ⟨.clock op, alone_clockTxn op db⟩
  | rebuild env today long => exact ⟨.repopulate env today _, alone_officeRebuild env today long db⟩
  | tick tick => exact ⟨.tick tick, (alone_tickTxn _ db).trans (runTick_singleSteps tick db)⟩

theorem officeRuns_of_serial {db : Database Office} (h : (serial OfficeTxn SeededOffice).Reachable db) :
    officeRuns.Reachable db := by
  induction h with
  | start seeded => exact .start seeded
  | next _ _ moves ih =>
    obtain ⟨began, eq⟩ := moves
    obtain ⟨l, next⟩ := began.alone _
    exact ih.next (l := l) trivial (eq.trans next)

/-- Schedulers, rebuild jobs and callers of the clock operations, turn by turn. -/
abbrev officeTransactions (merge : Database Office → Database Office → Database Office → Database Office) :
    System (OneLock.State (Database Office)) (OneLock.Action (Database Office)) :=
  OneLock.system merge OfficeTxn SeededOffice

/-- However the database merges the writes of a transaction with what others commit, as long as a transaction to which
only `FAILED` rows were added sees its own writes and such rows: every committed state of every interleaving is one
that the operations reach one after another, up to `FAILED` rows, and no two of them work at once. -/
theorem interleavings_serialise
    (merge : Database Office → Database Office → Database Office → Database Office)
    (seen : ∀ base mine store, SameButFailed base store → SameButFailed (merge base mine store) mine)
    {s : OneLock.State (Database Office)} (h : (officeTransactions merge).Reachable s) :
    (∃ db, officeRuns.Reachable db ∧ SameButFailed db s.store) ∧
      ∀ t u p q base mine base' mine', s.phase t = .working p base mine → s.phase u = .working q base' mine' →
        t = u := by
  obtain ⟨db, reached, inv⟩ := serialises sameButFailed_equivalence seen (fun _ => OfficeTxn.same) h
  refine ⟨⟨db, officeRuns_of_serial reached, sameButFailed_equivalence.symm inv.noise⟩, ?_⟩
  intro t u p q base mine base' mine' first second
  have holds := (inv.working t p base mine first).1
  exact Option.some.inj (holds.symm.trans (inv.working u q base' mine' second).1)

/-! ## A failed row that comes late -/

def failedRows (db : Database Office) : List ScheduledTick := db.scheduledTick.filter fun tick => tick.status = .failed

/-- The `FAILED` rows that others have committed since the last statement are seen. -/
def readCommitted (base mine store : Database Office) : Database Office :=
  let late := (failedRows store).drop (failedRows base).length
  { mine with scheduledTick := mine.scheduledTick ++ late }

theorem readCommitted_seen (base mine store : Database Office) :
    SameButFailed (readCommitted base mine store) mine := by
  refine ⟨rfl, rfl, ?_⟩
  have none : ((failedRows store).drop (failedRows base).length).filter (fun tick => tick.status ≠ .failed) = [] := by
    rw [List.filter_eq_nil_iff]
    intro tick mem other
    obtain ⟨-, failed⟩ := List.mem_filter.1 (List.mem_of_mem_drop mem)
    exact of_decide_eq_true other (of_decide_eq_true failed)
  rw [readCommitted, List.filter_append, none, List.append_nil]

/-- Two products of one supplier. -/
def twoProductOffice : Database Office :=
  { baselineOffice with
    tables :=
      { baselineOffice.tables with
        platform :=
          { baselineOffice.tables.platform with
            world := World.empty ⟨[⟨"boxes", .corrugatedPackaging, true⟩, ⟨"labels", .corrugatedPackaging, true⟩],
              [⟨"main", true⟩], [⟨"acme", "corrugated", 1, .low, true⟩], [], []⟩ } } }

/-- A tick that draws the same id for both of its orders. -/
def clashingTick : OfficeTick :=
  { tickFrom 0 0 with
    day := { (tickFrom 0 0).day with
      tick := { TickEnv.inOrder (fun _ _ => Rng.least) with purchaseOrderId := fun _ _ => 0 } } }

/-- A tick fails, a caller who has waited for the lock pauses the clock, and then the row of the tick comes. -/
def pausedMeanwhile : List (OneLock.Action (Database Office)) :=
  [.call 1 (tickTxn PlatformError.aborts (singleSteps clashingTick)), .call 2 (clockTxn .pause), .lock 1] ++
    List.replicate 6 (.turn 1) ++ [.lock 2, .turn 2, .turn 2, .settle 1]

theorem twoProductOffice_seeded : SeededOffice twoProductOffice := by
  refine ⟨⟨fun p mem _ => ?_, List.nodup_nil⟩, rfl, rfl⟩
  refine ⟨⟨"acme", "corrugated", 1, .low, true⟩, List.mem_singleton_self _, rfl, ?_⟩
  rcases List.mem_cons.1 mem with rfl | mem
  · decide +kernel
  · rw [List.mem_singleton.1 mem]
    decide +kernel

/-- Actions one after another. -/
theorem reachable_actions {merge : Database Office → Database Office → Database Office → Database Office}
    {actions : List (OneLock.Action (Database Office))}
    (begun : ∀ t p, .call t p ∈ actions → OfficeTxn p) {s s' : OneLock.State (Database Office)}
    (h : (officeTransactions merge).Reachable s) (ran : actions.foldlM (OneLock.step merge) s = some s') :
    (officeTransactions merge).Reachable s' := by
  induction actions generalizing s with
  | nil =>
    cases ran
    exact h
  | cons a actions ih =>
    rw [List.foldlM_cons] at ran
    obtain ⟨mid, one, rest⟩ := Option.bind_eq_some_iff.1 ran
    have first : ∀ t p, a = .call t p → OfficeTxn p := fun t p same => begun t p (same ▸ List.mem_cons_self ..)
    exact ih (fun t p mem => begun t p (List.mem_cons_of_mem _ mem)) (h.next trivial ⟨first, one⟩) rest

/-- One after the other, the row of the tick comes before the pause. -/
theorem interleavings_serialise_pausedMeanwhile : ∃ s, (officeTransactions readCommitted).Reachable s ∧
    s.store.clock.status = .paused ∧ s.store.scheduledTick.map (·.status) = [.failed] ∧
    (∃ db, officeRuns.Reachable db ∧ SameButFailed db s.store) ∧
      ∀ t u p q base mine base' mine', s.phase t = .working p base mine → s.phase u = .working q base' mine' →
        t = u := by
  have ends : (pausedMeanwhile.foldlM (OneLock.step readCommitted) (.start twoProductOffice)).any (fun s =>
      decide (s.store.clock.status = .paused ∧ s.store.scheduledTick.map (·.status) = [.failed])) = true := by
    decide +kernel
  obtain ⟨s, ran, check⟩ := (Option.any_eq_true _ _).1 ends
  obtain ⟨paused, failed⟩ := of_decide_eq_true check
  have reached : (officeTransactions readCommitted).Reachable s := by
    refine reachable_actions ?_ (.start ⟨_, twoProductOffice_seeded, rfl⟩) ran
    intro t p mem
    simp only [pausedMeanwhile, List.mem_append, List.mem_cons, List.mem_replicate, List.not_mem_nil,
      Action.call.injEq, reduceCtorEq, or_false, and_false] at mem
    rcases mem with ⟨-, rfl⟩ | ⟨-, rfl⟩
    · exact .tick clashingTick
    · exact .clock .pause fun _ => nofun
  exact ⟨s, reached, paused, failed,
    interleavings_serialise readCommitted (fun base mine store _ => readCommitted_seen base mine store) reached⟩

end MeadowOps.Simulation
