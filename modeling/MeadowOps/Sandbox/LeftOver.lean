import MeadowOps.Sandbox.WholeSchema

/-!
# A left-over `sandbox_old`

A cleanup that times out on a lock is no failure of its own, but what it leaves stands in the way of the next
swap.
-/

namespace MeadowOps.Sandbox

open Lib

section
variable {R : Type}

/-- The tables to mirror are there. -/
def Mirrored (names : List String) (live : Live R) : Prop := ∀ name ∈ names, (live name).isSome = true

/-- Nothing fails but a `DROP` of `sandbox_old` that waits too long for a lock. -/
structure OnlyTimeouts (env : RefreshEnv R) (live : Live R) : Prop where
  connects : env.connectFails = none
  statements : ∀ step statement, env.fails step statement = none ∨
    env.fails step statement = some .lockNotAvailable ∧ statement = .dropSchema oldSchema ∧
      (step = .cleanupStaleOldSchema ∨ step = .cleanupOldSchema)
  commits : ∀ step, env.commit step = .committed
  rollbacks : ∀ step, env.rollbackFails step = none
  closes : env.closeFails = none
  tables : (liveTableNames env.metadata).Nodup
  there : Mirrored (liveTableNames env.metadata) live
  /-- No other session drops a table. -/
  kept : ∀ step statement, ∀ change ∈ env.commits step statement, ∀ l,
    Mirrored (liveTableNames env.metadata) l → Mirrored (liveTableNames env.metadata) (change l)

/-- The first cleanup of the run times out. -/
def StaleDropTimesOut (env : RefreshEnv R) : Prop :=
  env.fails .cleanupStaleOldSchema (.dropSchema oldSchema) = some .lockNotAvailable

/-- The run ends COMPLETE and the sandbox is its copy. -/
def RefreshesSandbox (env : RefreshEnv R) (live : Live R) (c : Catalog R) : Prop :=
  (refreshSandbox env c live).1 = .complete ∧
    ∃ s, (refreshSandbox env c live).2.tx.committed.named liveSandboxSchema = [s] ∧
      Copied env live c.nextOid (liveTableNames env.metadata) s

/-! ## Names -/

/-- The names of the schemas. -/
def Catalog.names (c : Catalog R) : List String := c.schemas.map Schema.nspname

theorem find_isSome_iff {c : Catalog R} {name : String} : (c.find name).isSome = true ↔ name ∈ c.names := by
  simp [Catalog.find, lookup, Catalog.names]

theorem find_of_mem {c : Catalog R} {name : String} (h : name ∈ c.names) : ∃ s, c.find name = some s :=
  Option.isSome_iff_exists.1 (find_isSome_iff.2 h)

theorem find_of_not_mem {c : Catalog R} {name : String} (h : name ∉ c.names) : c.find name = none := by
  rw [← Option.not_isSome_iff_eq_none, find_isSome_iff]
  exact h

theorem named_ne_nil_iff {c : Catalog R} {name : String} : c.named name ≠ [] ↔ name ∈ c.names := by
  rw [Catalog.named, ne_eq, List.filter_eq_nil_iff]
  simp [Catalog.names]

theorem mem_names_drop {c : Catalog R} {name dropped : String} :
    name ∈ Catalog.names { c with schemas := c.schemas.filter (·.nspname ≠ dropped) } ↔
      name ∈ c.names ∧ name ≠ dropped := by
  simp only [Catalog.names, List.mem_map, List.mem_filter, decide_eq_true_eq]
  constructor
  · rintro ⟨s, ⟨mem, ne⟩, rfl⟩
    exact ⟨⟨s, mem, rfl⟩, ne⟩
  · rintro ⟨⟨s, mem, rfl⟩, ne⟩
    exact ⟨s, ⟨mem, ne⟩, rfl⟩

/-- The tables that a staging schema has. -/
def StagedTables (done : List String) (c : Catalog R) : Prop :=
  ∃ s, c.find stagingSchema = some s ∧ s.tables.map (·.1) = done

theorem apply_createStaging (live : Live R) {c : Catalog R} (free : stagingSchema ∉ c.names) :
    ∃ c', (Statement.createSchema stagingSchema).apply live c = .ok c' ∧ StagedTables [] c' ∧
      ∀ name ≠ stagingSchema, name ∈ c'.names ↔ name ∈ c.names := by
  have inserted : insert? Schema.nspname ⟨c.nextOid, stagingSchema, []⟩ c.schemas =
      some (c.schemas ++ [⟨c.nextOid, stagingSchema, []⟩]) := if_neg free
  refine ⟨⟨c.schemas ++ [⟨c.nextOid, stagingSchema, []⟩], c.nextOid + 1⟩, ?_, ?_, ?_⟩
  · simp only [Statement.apply, inserted]
  · have none := find_of_not_mem free
    refine ⟨⟨c.nextOid, stagingSchema, []⟩, ?_, rfl⟩
    rw [Catalog.find, lookup] at none ⊢
    rw [List.find?_append, none]
    simp
  · intro name ne
    simp [Catalog.names, ne]

/-- A copy of a table that is not there yet. -/
theorem apply_copy {live : Live R} {c : Catalog R} {done : List String} {table : String}
    (staged : StagedTables done c) (fresh : table ∉ done) (there : (live table).isSome = true) :
    ∃ c', (Statement.createTableAs stagingSchema table).apply live c = .ok c' ∧
      StagedTables (done ++ [table]) c' ∧ c'.names = c.names := by
  obtain ⟨s, found, tables⟩ := staged
  obtain ⟨rows, table'⟩ := Option.isSome_iff_exists.1 there
  let copy (r : Schema R) : Schema R := { r with tables := r.tables ++ [(table, rows)] }
  refine ⟨c.alter stagingSchema copy, ?_, ⟨copy s, ?_, ?_⟩, ?_⟩
  · simp only [Statement.apply, found, table', tables]
    exact if_neg fresh
  · have same := (lookup_mem found).2
    rw [Catalog.find] at found ⊢
    rw [Catalog.alter, Lib.modify, lookup_map (fun r => by split <;> rfl), found, Option.map_some, if_pos same]
  · show (s.tables ++ [(table, rows)]).map (·.1) = done ++ [table]
    rw [List.map_append, tables]
    rfl
  · exact map_key_modify fun r same => same

theorem apply_rename (live : Live R) {c : Catalog R} {old new : String} (there : old ∈ c.names)
    (free : new ∉ c.names) :
    ∃ c', (Statement.renameSchema old new).apply live c = .ok c' ∧
      (∀ name, name ∈ c'.names ↔ name = new ∨ name ∈ c.names ∧ name ≠ old) := by
  obtain ⟨s, found⟩ := find_of_mem there
  refine ⟨c.alter old fun s => { s with nspname := new }, ?_, fun name => ?_⟩
  · simp only [Statement.apply, found, find_of_not_mem free]
  simp only [Catalog.names, Catalog.alter, Lib.modify, List.map_map, List.mem_map, Function.comp_apply]
  constructor
  · rintro ⟨r, mem, rfl⟩
    split
    · exact .inl rfl
    · rename_i other
      exact .inr ⟨⟨r, mem, rfl⟩, other⟩
  · rintro (rfl | ⟨⟨r, mem, rfl⟩, other⟩)
    · obtain ⟨mem, same⟩ := lookup_mem found
      exact ⟨s, mem, if_pos same ▸ rfl⟩
    · exact ⟨r, mem, by rw [if_neg other]⟩

/-- A name that is taken. -/
theorem apply_rename_taken {live : Live R} {c : Catalog R} {old new : String} (there : old ∈ c.names)
    (taken : new ∈ c.names) :
    (Statement.renameSchema old new).apply live c = .error (.other "duplicate_schema") := by
  obtain ⟨s, found⟩ := find_of_mem there
  obtain ⟨r, found'⟩ := find_of_mem taken
  simp only [Statement.apply, found, found']

/-! ## The session -/

/-- `C` holds of the committed catalog and `K` of the pending one, and the tables are there. -/
structure Quiet (env : RefreshEnv R) (C K : Catalog R → Prop) (s : RefreshSession R) : Prop where
  committed : C s.tx.committed
  pending : K s.tx.pending
  live : Mirrored (liveTableNames env.metadata) s.live

variable {env : RefreshEnv R} {live : Live R} {C K N : Catalog R → Prop} {E : RefreshSession R → Prop}
  {step : RefreshStep} {statement : Statement}

/-- What runs before a statement does not disturb. -/
theorem OnlyTimeouts.commits_quiet (only : OnlyTimeouts env live) (step : RefreshStep) (statement : Statement)
    {s : RefreshSession R} (h : Quiet env C K s) :
    Quiet env C K ((env.commits step statement).foldl RefreshSession.liveCommit s) := by
  obtain ⟨tx, -, now, -⟩ := liveCommits_tx (env.commits step statement) s
  have kept := only.kept step statement
  refine ⟨tx ▸ h.committed, tx ▸ h.pending, ?_⟩
  rw [now]
  generalize env.commits step statement = changes at kept
  have there := h.live
  generalize s.live = l at there
  induction changes generalizing l with
  | nil => exact there
  | cons change changes ih =>
    exact ih (fun c mem => kept c (List.mem_cons_of_mem _ mem)) _ (kept change List.mem_cons_self _ there)

theorem OnlyTimeouts.execute_returns (only : OnlyTimeouts env live) (runs : env.fails step statement = none)
    (applies : ∀ l c, Mirrored (liveTableNames env.metadata) l → K c → ∃ c', statement.apply l c = .ok c' ∧ N c') :
    Triple (Quiet env C K) (execute env step statement) (fun _ => Quiet env C N) E := by
  refine .of_returns fun s pre => ?_
  have quiet := only.commits_quiet step statement pre
  obtain ⟨c', ran, after⟩ := applies _ _ quiet.live quiet.pending
  unfold execute
  dsimp only
  rw [runs]
  dsimp only
  rw [ran]
  exact ⟨(), _, rfl, quiet.committed, after, quiet.live⟩

/-- A statement other than that `DROP`. -/
theorem OnlyTimeouts.runs (only : OnlyTimeouts env live) (other : statement ≠ .dropSchema oldSchema) :
    env.fails step statement = none :=
  (only.statements step statement).resolve_right fun fails => other fails.2.1

/-- One that leaves the catalog as it is. -/
theorem OnlyTimeouts.leaves (only : OnlyTimeouts env live) (other : statement ≠ .dropSchema oldSchema)
    (same : ∀ l c, K c → statement.apply l c = .ok c) :
    Triple (Quiet env C K) (execute env step statement) (fun _ => Quiet env C K) E :=
  only.execute_returns (only.runs other) fun l c _ k => ⟨c, same l c k, k⟩

theorem OnlyTimeouts.commit_returns (only : OnlyTimeouts env live) :
    Triple (Quiet env C K) (commit env step) (fun _ => Quiet env K K) E := by
  refine .of_returns fun s pre => ?_
  unfold commit
  dsimp only
  rw [only.commits step]
  exact ⟨(), _, rfl, pre.pending, pre.pending, pre.live⟩

theorem OnlyTimeouts.rollback_returns (only : OnlyTimeouts env live) :
    Triple (Quiet env C K) (rollback env step) (fun _ => Quiet env C C) E := by
  refine .of_returns fun s pre => ?_
  unfold rollback
  rw [only.rollbacks step]
  exact ⟨(), _, rfl, pre.committed, pre.committed, pre.live⟩

/-- A cleanup drops `sandbox_old`, or leaves it. -/
theorem OnlyTimeouts.cleanup_returns (only : OnlyTimeouts env live) (seconds : ℕ)
    (dropped : env.fails step (.dropSchema oldSchema) = none → ∀ c, K c →
      N { c with schemas := c.schemas.filter (·.nspname ≠ oldSchema) })
    (timedOut : env.fails step (.dropSchema oldSchema) = some .lockNotAvailable → ∀ c, K c → N c) :
    Triple (Quiet env K K) (cleanup env step seconds) (fun _ => Quiet env N N) E := by
  have pin : Triple (Quiet env K K) (execute env step .pinSearchPath) (fun _ => Quiet env K K) E :=
    only.leaves (by simp) fun _ _ _ => rfl
  have timeout : Triple (Quiet env K K) (execute env step (.setLockTimeout seconds)) (fun _ => Quiet env K K) E :=
    only.leaves (by simp) fun _ _ _ => rfl
  unfold cleanup
  refine pin.bind fun _ => timeout.bind fun _ => ?_
  intro s pre
  dsimp only
  rcases only.statements step (.dropSchema oldSchema) with runs | ⟨fails, -⟩
  · have drop : Triple (Quiet env K K) (execute env step (.dropSchema oldSchema)) (fun _ => Quiet env K N)
        (fun _ => False) :=
      only.execute_returns runs fun l c _ k => ⟨_, rfl, dropped runs c k⟩
    obtain ⟨_, s', ran, post⟩ := drop.returns pre
    rw [ran]
    exact only.commit_returns s' post
  · have ran : execute env step (.dropSchema oldSchema) s =
        .error .lockNotAvailable ((env.commits step (.dropSchema oldSchema)).foldl RefreshSession.liveCommit s) := by
      unfold execute
      dsimp only
      rw [fails]
    rw [ran]
    have quiet := only.commits_quiet step (.dropSchema oldSchema) pre
    have back : Quiet env N K _ := ⟨timedOut fails _ quiet.committed, quiet.pending, quiet.live⟩
    exact only.rollback_returns _ back

/-! ## The steps -/

/-- There is a sandbox, and a left-over one when `left` says so. -/
def Standing (left : Prop) (c : Catalog R) : Prop := liveSandboxSchema ∈ c.names ∧ (oldSchema ∈ c.names ↔ left)

def StandingStaged (left : Prop) (c : Catalog R) : Prop := Standing left c ∧ stagingSchema ∈ c.names

theorem Standing.of_names {left : Prop} {c c' : Catalog R} (h : Standing left c)
    (same : ∀ name ≠ stagingSchema, name ∈ c'.names ↔ name ∈ c.names) : Standing left c' :=
  ⟨(same _ (by decide)).2 h.1, (same _ (by decide)).trans h.2⟩

theorem OnlyTimeouts.rebuildStaging_returns (only : OnlyTimeouts env live) (left : Prop) :
    Triple (Quiet env (Standing left) (Standing left)) (rebuildStaging env (liveTableNames env.metadata))
      (fun _ => Quiet env (StandingStaged left) (StandingStaged left)) E := by
  have copies : Triple (Quiet env (Standing left) fun c => Standing left c ∧ StagedTables [] c)
      ((liveTableNames env.metadata).forM fun name =>
        execute env .rebuildStaging (.createTableAs stagingSchema name))
      (fun _ => Quiet env (Standing left) fun c =>
        Standing left c ∧ StagedTables (liveTableNames env.metadata) c) E := by
    refine .forM (J := fun done => Quiet env (Standing left) fun c => Standing left c ∧ StagedTables done c) _
      fun done name rest split => only.execute_returns (only.runs (by simp)) ?_
    rintro l c there ⟨standing, staged⟩
    have distinct := only.tables
    rw [split] at distinct there
    have fresh : name ∉ done := by
      intro mem
      rw [List.nodup_append] at distinct
      exact distinct.2.2 name mem name List.mem_cons_self rfl
    obtain ⟨c', ran, staged', names⟩ :=
      apply_copy staged fresh (there name (List.mem_append_right _ List.mem_cons_self))
    exact ⟨c', ran, standing.of_names fun other _ => by rw [names], staged'⟩
  have copied : Triple (Quiet env (Standing left) fun c => Standing left c ∧ StagedTables [] c)
      (((liveTableNames env.metadata).map (.createTableAs stagingSchema)).forM (execute env .rebuildStaging))
      (fun _ => Quiet env (Standing left) (StandingStaged left)) E := by
    refine .forM_map (copies.consequence (fun _ pre => pre) (fun _ s post => ?_) fun _ e => e)
    obtain ⟨standing, staging, found, -⟩ := post.pending
    exact ⟨post.committed, ⟨standing, find_isSome_iff.1 (by rw [found]; rfl)⟩, post.live⟩
  have created : Triple (Quiet env (Standing left) (Standing left))
      ([.pinSearchPath, .dropSchema stagingSchema, .createSchema stagingSchema].forM (execute env .rebuildStaging))
      (fun _ => Quiet env (Standing left) fun c => Standing left c ∧ StagedTables [] c) E := by
    refine .forM_cons (only.leaves (by simp) fun _ _ _ => rfl) ?_
    refine .forM_cons (M := Quiet env (Standing left) fun c => Standing left c ∧ stagingSchema ∉ c.names)
      (only.execute_returns (only.runs (by decide)) ?_) ?_
    · intro l c _ standing
      refine ⟨_, rfl, standing.of_names fun name ne => ?_, ?_⟩
      · rw [mem_names_drop]
        exact and_iff_left ne
      · rw [mem_names_drop]
        exact fun both => both.2 rfl
    refine .forM_cons (only.execute_returns (only.runs (by simp)) ?_) fun s pre => pre
    rintro l c - ⟨standing, free⟩
    obtain ⟨c', ran, staged, names⟩ := apply_createStaging l free
    exact ⟨c', ran, standing.of_names names, staged⟩
  exact (Triple.forM_append created copied).bind fun _ => only.commit_returns

theorem OnlyTimeouts.granting_returns (only : OnlyTimeouts env live) (left : Prop) :
    Triple (Quiet env C (StandingStaged left)) ((granting (liveTableNames env.metadata)).forM (execute env .swapSchemas))
      (fun _ => Quiet env C (StandingStaged left)) E := by
  refine .forM (J := fun _ => Quiet env C (StandingStaged left)) _ fun done statement rest split => ?_
  have mem : statement ∈ granting (liveTableNames env.metadata) :=
    split ▸ List.mem_append_right _ List.mem_cons_self
  have required : ∀ c : Catalog R, StandingStaged left c → c.require stagingSchema = .ok c := by
    intro c staged
    obtain ⟨s, found⟩ := find_of_mem staged.2
    rw [Catalog.require, found]
  rcases mem_granting mem with rfl | rfl | rfl | rfl
  · exact only.leaves (by simp) fun _ _ _ => rfl
  · exact only.leaves (by simp) fun _ c k => required c k
  · exact only.leaves (by simp) fun _ c k => required c k
  · exact only.leaves (by simp) fun _ c k => required c k

/-- Where no old sandbox is left, the new one takes the place. -/
theorem OnlyTimeouts.swapSchemas_returns (only : OnlyTimeouts env live) :
    Triple (Quiet env C (StandingStaged False)) (swapSchemas env (liveTableNames env.metadata))
      (fun _ => Quiet env (fun _ => True) (fun _ => True)) E := by
  rw [swapSchemas_eq]
  refine Triple.bind (Q := fun _ => Quiet env C fun _ => True) (.forM_append (only.granting_returns False) ?_)
    fun _ => only.commit_returns
  refine .forM_cons (M := Quiet env C fun c => stagingSchema ∈ c.names ∧ liveSandboxSchema ∉ c.names)
    (only.execute_returns (only.runs (by simp)) ?_) ?_
  · rintro l c - ⟨⟨sandbox, old⟩, staged⟩
    obtain ⟨c', ran, names⟩ := apply_rename l sandbox fun left => old.1 left
    refine ⟨c', ran, (names _).2 (.inr ⟨staged, by decide⟩), fun still => ?_⟩
    rcases (names _).1 still with same | ⟨-, ne⟩
    · exact absurd same (by decide)
    · exact ne rfl
  · refine .forM_cons (only.execute_returns (only.runs (by simp)) ?_) fun s pre => pre
    rintro l c - ⟨staged, free⟩
    obtain ⟨c', ran, -⟩ := apply_rename l staged free
    exact ⟨c', ran, trivial⟩

/-- Where one is left, the swap raises. -/
theorem OnlyTimeouts.swapSchemas_raises (only : OnlyTimeouts env live) :
    Triple (Quiet env C (StandingStaged True)) (swapSchemas env (liveTableNames env.metadata))
      (fun _ _ => False) (fun _ => True) := by
  rw [swapSchemas_eq]
  refine Triple.bind (Q := fun _ _ => False) (.forM_append (only.granting_returns True) ?_) fun _ _ no => no.elim
  refine .forM_cons (M := fun _ => False) ?_ fun _ no => no.elim
  intro s pre
  have quiet := only.commits_quiet .swapSchemas (.renameSchema liveSandboxSchema oldSchema) pre
  obtain ⟨⟨sandbox, old⟩, -⟩ := quiet.pending
  have runs : env.fails .swapSchemas (.renameSchema liveSandboxSchema oldSchema) = none := only.runs (by simp)
  unfold execute
  dsimp only
  rw [runs]
  dsimp only
  rw [apply_rename_taken sandbox (old.2 trivial)]
  trivial

/-! ## Runs -/

theorem OnlyTimeouts.lock_returns (only : OnlyTimeouts env live) :
    Triple (Quiet env K K) (transaction env .lock [.pinSearchPath, .advisoryLock]) (fun _ => Quiet env K K) E := by
  refine Triple.bind (Q := fun _ => Quiet env K K) ?_ fun _ => only.commit_returns
  refine .forM_cons (only.leaves (by simp) fun _ _ _ => rfl) ?_
  exact .forM_cons (only.leaves (by simp) fun _ _ _ => rfl) fun s pre => pre

/-- Without a left-over, or when the first cleanup drops it, the run returns. -/
theorem OnlyTimeouts.refresh_returns (only : OnlyTimeouts env live) {left : Prop}
    (clean : left → ¬ StaleDropTimesOut env) :
    Triple (Quiet env (Standing left) (Standing left)) (refresh env)
      (fun _ => Quiet env (fun _ => True) fun _ => True) E := by
  refine only.lock_returns.bind fun _ => ?_
  refine (only.cleanup_returns (N := Standing False) 2 ?_ ?_).bind fun _ => ?_
  · rintro - c ⟨sandbox, -⟩
    refine ⟨mem_names_drop.2 ⟨sandbox, by decide⟩, ?_⟩
    rw [mem_names_drop]
    exact ⟨fun both => both.2 rfl, False.elim⟩
  · rintro timesOut c ⟨sandbox, old⟩
    exact ⟨sandbox, fun left => clean (old.1 left) timesOut, False.elim⟩
  refine (only.rebuildStaging_returns False).bind fun _ => ?_
  refine only.swapSchemas_returns.bind fun _ => ?_
  exact only.cleanup_returns 5 (fun _ _ _ => trivial) fun _ _ _ => trivial

theorem OnlyTimeouts.refresh_raises (only : OnlyTimeouts env live) (timesOut : StaleDropTimesOut env) :
    Triple (Quiet env (Standing True) (Standing True)) (refresh env) (fun _ _ => False) (fun _ => True) := by
  refine only.lock_returns.bind fun _ => ?_
  refine (only.cleanup_returns (N := Standing True) 2 ?_ fun _ _ k => k).bind fun _ => ?_
  · intro runs
    rw [StaleDropTimesOut] at timesOut
    rw [timesOut] at runs
    cases runs
  refine (only.rebuildStaging_returns True).bind fun _ => ?_
  exact only.swapSchemas_raises.bind fun _ _ no => no.elim

/-- A run completes unless a left-over stands in its way that its first cleanup could not drop. -/
theorem refresh_completes_iff {c : Catalog R} (reachable : (sandboxRuns R).Reachable c) (only : OnlyTimeouts env live) :
    RefreshesSandbox env live c ↔ ¬ (oldSchema ∈ c.names ∧ StaleDropTimesOut env) := by
  have one := oneSandbox_of_reachable reachable
  have sandbox : liveSandboxSchema ∈ c.names := by
    obtain ⟨s, here⟩ := one.one
    rw [← named_ne_nil_iff, here]
    exact List.cons_ne_nil s []
  have start : ∀ left, (oldSchema ∈ c.names ↔ left) →
      Quiet env (Standing left) (Standing left) (⟨Tx.start c, [], live, [live]⟩ : RefreshSession R) :=
    fun left iff => ⟨⟨sandbox, iff⟩, ⟨sandbox, iff⟩, only.there⟩
  constructor
  · rintro ⟨complete, -⟩ ⟨left, timesOut⟩
    have raised := only.refresh_raises timesOut _ (start True (iff_true_intro left))
    unfold refreshSandbox at complete
    rw [only.connects] at complete
    dsimp only at complete
    cases run : refresh env ⟨Tx.start c, [], live, [live]⟩ with
    | ok _ s =>
      rw [run] at raised
      exact raised
    | error e s =>
      rw [run] at complete
      cases complete
  · intro clean
    have complete : (refreshSandbox env c live).1 = .complete := by
      obtain ⟨_, s, run, -⟩ := Triple.returns
        (only.refresh_returns fun left timesOut => clean ⟨left, timesOut⟩) (start _ Iff.rfl)
      unfold refreshSandbox
      rw [only.connects]
      dsimp only
      rw [run, only.closes]
      rfl
    exact ⟨complete, (refreshSandbox_complete one complete).1⟩

end

/-! ## Two refreshes -/

/-- A refresh of one table in which the cleanup of a step times out. -/
def timesOutAt (step : RefreshStep) : RefreshEnv ℕ :=
  { undisturbed (R := ℕ) [(some "live", "product")] with
    fails := fun s statement =>
      if s = step ∧ statement = .dropSchema oldSchema then some .lockNotAvailable else none }

def fiveProducts : Live ℕ := fun name => if name = "product" then some 5 else none

theorem onlyTimeouts_timesOutAt {step : RefreshStep}
    (cleans : step = .cleanupStaleOldSchema ∨ step = .cleanupOldSchema) :
    OnlyTimeouts (timesOutAt step) fiveProducts := by
  constructor
  case connects => rfl
  case commits => exact fun _ => rfl
  case rollbacks => exact fun _ => rfl
  case closes => rfl
  case tables =>
    show (liveTableNames [(some "live", "product")]).Nodup
    decide +kernel
  case there =>
    show ∀ name ∈ liveTableNames [(some "live", "product")], (fiveProducts name).isSome = true
    decide +kernel
  case kept => exact fun _ _ _ mem => absurd mem List.not_mem_nil
  case statements =>
    intro s statement
    show (if s = step ∧ statement = .dropSchema oldSchema then some PgError.lockNotAvailable else none) = none ∨
      (if s = step ∧ statement = .dropSchema oldSchema then some PgError.lockNotAvailable else none) = _ ∧ _
    by_cases drop : s = step ∧ statement = .dropSchema oldSchema
    · rw [if_pos drop]
      exact .inr ⟨rfl, drop.2, drop.1 ▸ cleans⟩
    · rw [if_neg drop]
      exact .inl rfl

def oneSchema : Catalog ℕ := ⟨[⟨1, "sandbox", []⟩], 2⟩

theorem reachable_oneSchema : (sandboxRuns ℕ).Reachable oneSchema :=
  .start (show OneSandbox oneSchema from ⟨by unfold Catalog.Issued; decide, ⟨1, "sandbox", []⟩, by decide⟩)

/-- The second cleanup of a run times out: the run completes all the same. -/
theorem refresh_completes_iff_secondCleanup :
    RefreshesSandbox (timesOutAt .cleanupOldSchema) fiveProducts oneSchema :=
  (refresh_completes_iff reachable_oneSchema (onlyTimeouts_timesOutAt (.inr rfl))).2 fun both =>
    absurd both.1 (by decide)

/-- After it, a run whose first cleanup times out fails at its swap. -/
theorem left_over_fails_refresh :
    let c := (refreshSandbox (timesOutAt .cleanupOldSchema) oneSchema fiveProducts).2.tx.committed
    (sandboxRuns ℕ).Reachable c ∧ OnlyTimeouts (timesOutAt .cleanupStaleOldSchema) fiveProducts ∧
      (refreshSandbox (timesOutAt .cleanupStaleOldSchema) c fiveProducts).1 = .failed := by
  intro c
  have ran : (sandboxRuns ℕ).Reachable c :=
    .next (l := .refresh (timesOutAt .cleanupOldSchema) fiveProducts) reachable_oneSchema trivial rfl
  exact ⟨ran, onlyTimeouts_timesOutAt (.inl rfl), by decide +kernel⟩

end MeadowOps.Sandbox
