import MeadowOps.Lib.Runs
import MeadowOps.Lib.Triple
import MeadowOps.Sandbox.Refresh

/-!
# The sandbox schema is always whole

Whatever statement or commit of a refresh fails, every catalog it commits has one schema `sandbox`: the one
from before the run, or the copy that this run made of all its tables.
-/

namespace MeadowOps.Sandbox

open Lib

section
variable {R : Type}

/-- The schemas of a name. -/
def Catalog.named (c : Catalog R) (name : String) : List (Schema R) := c.schemas.filter (·.nspname = name)

/-! ## What a statement does -/

/-- The schemas a statement names. -/
def Statement.touches : Statement → List String
  | .pinSearchPath | .advisoryLock | .setLockTimeout _ => []
  | .dropSchema name | .createSchema name | .createTableAs name _ | .grantTables name
  | .alterDefaultPrivileges name | .grantSchema name => [name]
  | .renameSchema name newName => [name, newName]

theorem find_none {c : Catalog R} {name : String} (h : c.find name = none) : c.named name = [] := by
  rw [Catalog.named, List.filter_eq_nil_iff]
  intro s mem same
  exact absurd (of_decide_eq_true same) (by simpa using List.find?_eq_none.1 h s mem)

/-- A schema of another name is not altered. -/
theorem named_alter_of_ne {c : Catalog R} {name other : String} {f : Schema R → Schema R} (ne : other ≠ name)
    (leaves : ∀ s, s.nspname = name → (f s).nspname ≠ other) : (c.alter name f).named other = c.named other := by
  refine filter_modify_of_not fun s _ same => ⟨?_, ?_⟩
  · exact decide_eq_false (same ▸ ne.symm)
  · exact decide_eq_false (leaves s same)

/-- The schemas that have a name after an alteration of those of `name`. -/
theorem named_alter {c : Catalog R} {name other : String} {f : Schema R → Schema R}
    (altered : ∀ s ∈ c.schemas, s.nspname = name → (f s).nspname = other)
    (unaltered : ∀ s ∈ c.schemas, s.nspname ≠ name → s.nspname ≠ other) :
    (c.alter name f).named other = (c.named name).map f := by
  rw [Catalog.named, Catalog.alter, Lib.modify, List.filter_map]
  have same : c.schemas.filter ((fun s : Schema R => decide (s.nspname = other)) ∘
      fun s => if s.nspname = name then f s else s) = c.named name := by
    refine List.filter_congr fun s mem => ?_
    by_cases here : s.nspname = name
    · simp [here, altered s mem here]
    · simp [here, unaltered s mem here]
  rw [same]
  refine List.map_congr_left fun s mem => ?_
  exact if_pos (of_decide_eq_true (List.mem_filter.1 mem).2)

/-- A statement leaves the schemas alone that it does not name. -/
theorem apply_named {live : Live R} {c c' : Catalog R} {statement : Statement} {name : String}
    (ran : statement.apply live c = .ok c') (other : name ∉ statement.touches) :
    c'.named name = c.named name := by
  cases statement with
  | pinSearchPath | advisoryLock | setLockTimeout seconds =>
    cases ran
    rfl
  | grantTables schema | alterDefaultPrivileges schema | grantSchema schema =>
    simp only [Statement.apply, Catalog.require] at ran
    split at ran
    · cases ran
    · cases ran
      rfl
  | dropSchema dropped =>
    cases ran
    have ne : name ≠ dropped := by simpa [Statement.touches] using other
    rw [Catalog.named, Catalog.named, List.filter_filter]
    refine List.filter_congr fun s _ => ?_
    by_cases here : s.nspname = name
    · simp [here, ne]
    · simp [here]
  | createSchema created =>
    have ne : name ≠ created := by simpa [Statement.touches] using other
    simp only [Statement.apply, insert?] at ran
    split at ran
    · cases ran
    · rename_i schemas inserted
      split at inserted
      · cases inserted
      · cases inserted
        cases ran
        rw [Catalog.named, List.filter_append, List.filter_singleton, decide_eq_false ne.symm]
        exact List.append_nil _
  | createTableAs schema table =>
    have ne : name ≠ schema := by simpa [Statement.touches] using other
    simp only [Statement.apply] at ran
    split at ran
    · cases ran
    · cases ran
    · split at ran
      · cases ran
      · cases ran
        exact named_alter_of_ne ne fun s same => same ▸ ne.symm
  | renameSchema old new =>
    have ne : name ≠ old ∧ name ≠ new := by simpa [Statement.touches] using other
    simp only [Statement.apply] at ran
    split at ran
    · cases ran
    · cases ran
    · cases ran
      exact named_alter_of_ne ne.1 fun s _ => ne.2.symm

theorem apply_nextOid {live : Live R} {c c' : Catalog R} {statement : Statement}
    (ran : statement.apply live c = .ok c') : c.nextOid ≤ c'.nextOid := by
  cases statement with
  | pinSearchPath | advisoryLock | setLockTimeout seconds | dropSchema dropped =>
    cases ran
    exact le_rfl
  | grantTables schema | alterDefaultPrivileges schema | grantSchema schema =>
    simp only [Statement.apply, Catalog.require] at ran
    split at ran
    · cases ran
    · cases ran
      exact le_rfl
  | createSchema created =>
    simp only [Statement.apply] at ran
    split at ran
    · cases ran
    · cases ran
      exact Nat.le_succ _
  | createTableAs schema table =>
    simp only [Statement.apply] at ran
    split at ran
    · cases ran
    · cases ran
    · split at ran
      · cases ran
      · cases ran
        exact le_rfl
  | renameSchema old new =>
    simp only [Statement.apply] at ran
    split at ran
    · cases ran
    · cases ran
    · cases ran
      exact le_rfl

/-- The ids of the schemas were given. -/
def Catalog.Issued (c : Catalog R) : Prop := ∀ s ∈ c.schemas, s.oid < c.nextOid

theorem issued_alter {c : Catalog R} (h : c.Issued) {name : String} {f : Schema R → Schema R}
    (keeps : ∀ s, (f s).oid = s.oid) : (c.alter name f).Issued := by
  intro s mem
  obtain ⟨r, old, rfl⟩ := mem_modify.1 mem
  split
  · rw [keeps]
    exact h r old
  · exact h r old

theorem apply_issued {live : Live R} {c c' : Catalog R} {statement : Statement} (h : c.Issued)
    (ran : statement.apply live c = .ok c') : c'.Issued := by
  cases statement with
  | pinSearchPath | advisoryLock | setLockTimeout seconds =>
    cases ran
    exact h
  | grantTables schema | alterDefaultPrivileges schema | grantSchema schema =>
    simp only [Statement.apply, Catalog.require] at ran
    split at ran
    · cases ran
    · cases ran
      exact h
  | dropSchema dropped =>
    cases ran
    exact fun s mem => h s (List.mem_filter.1 mem).1
  | createSchema created =>
    simp only [Statement.apply] at ran
    split at ran
    · cases ran
    · rename_i schemas inserted
      cases ran
      intro s mem
      obtain ⟨rfl, -⟩ := insert?_eq_some inserted
      rcases List.mem_append.1 mem with old | new
      · exact (h s old).trans (Nat.lt_succ_self _)
      · rw [List.mem_singleton.1 new]
        exact Nat.lt_succ_self _
  | createTableAs schema table =>
    simp only [Statement.apply] at ran
    split at ran
    · cases ran
    · cases ran
    · split at ran
      · cases ran
      · cases ran
        exact issued_alter h fun s => rfl
  | renameSchema old new =>
    simp only [Statement.apply] at ran
    split at ran
    · cases ran
    · cases ran
    · cases ran
      exact issued_alter h fun s => rfl

/-- A schema is created empty, where there was none of its name. -/
theorem apply_createSchema {live : Live R} {c c' : Catalog R} {name : String}
    (ran : (Statement.createSchema name).apply live c = .ok c') :
    c'.named name = [⟨c.nextOid, name, []⟩] := by
  simp only [Statement.apply, insert?] at ran
  split at ran
  · cases ran
  · rename_i schemas inserted
    split at inserted
    · cases inserted
    · rename_i fresh
      cases inserted
      cases ran
      have none : c.schemas.filter (·.nspname = name) = [] := by
        rw [List.filter_eq_nil_iff]
        intro s mem same
        exact fresh (List.mem_map.2 ⟨s, mem, of_decide_eq_true same⟩)
      rw [Catalog.named, List.filter_append, none, List.filter_singleton, decide_eq_true rfl]
      rfl

/-- A copied table is appended to its schema, with what the live table holds. -/
theorem apply_createTableAs {live : Live R} {c c' : Catalog R} {schema table : String}
    (ran : (Statement.createTableAs schema table).apply live c = .ok c') :
    ∃ rows, live table = some rows ∧
      c'.named schema = (c.named schema).map fun s => { s with tables := s.tables ++ [(table, rows)] } := by
  simp only [Statement.apply] at ran
  split at ran
  · cases ran
  · cases ran
  · rename_i rows _ present
    split at ran
    · cases ran
    · cases ran
      exact ⟨rows, present, named_alter (fun s _ same => same) fun s _ ne => ne⟩

/-- A rename takes a name that no schema has. -/
theorem apply_renameSchema {live : Live R} {c c' : Catalog R} {old new : String} (ne : old ≠ new)
    (ran : (Statement.renameSchema old new).apply live c = .ok c') :
    c'.named new = (c.named old).map (fun s => { s with nspname := new }) ∧ c'.named old = [] := by
  simp only [Statement.apply] at ran
  split at ran
  · cases ran
  · cases ran
  · rename_i free
    cases ran
    have unused : ∀ s ∈ c.schemas, s.nspname ≠ new := by
      intro s mem
      simpa using List.filter_eq_nil_iff.1 (find_none free) s mem
    refine ⟨named_alter (fun s _ _ => rfl) fun s mem _ => unused s mem, ?_⟩
    rw [Catalog.named, Catalog.alter, Lib.modify, List.filter_map, List.map_eq_nil_iff, List.filter_eq_nil_iff]
    intro s _
    by_cases here : s.nspname = old
    · simp [here, ne.symm]
    · simp [here]

/-! ## The session -/

variable (env : RefreshEnv R) (live : Live R)

/-- The transactions other sessions commit until the statements have all started. -/
def timeline (done : List (RefreshStep × Statement)) : List (Live R → Live R) :=
  done.flatMap fun d => env.commits d.1 d.2

theorem timeline_append (done : List (RefreshStep × Statement)) (step : RefreshStep) (statement : Statement) :
    timeline env (done ++ [(step, statement)]) = timeline env done ++ env.commits step statement := by
  simp [timeline]

/-- The live tables by then. -/
def liveAfter (done : List (RefreshStep × Statement)) : Live R :=
  (timeline env done).foldl (fun l change => change l) live

/-- The live tables after each of the transactions. -/
def later (live : Live R) : List (Live R → Live R) → List (Live R)
  | [] => []
  | change :: changes => change live :: later (change live) changes

theorem later_append (live : Live R) (changes changes' : List (Live R → Live R)) :
    later live (changes ++ changes') =
      later live changes ++ later (changes.foldl (fun l change => change l) live) changes' := by
  induction changes generalizing live with
  | nil => rfl
  | cons change changes ih => exact congrArg (change live :: ·) (ih (change live))

/-- `G` holds of every committed catalog. -/
def Committed (G : Catalog R → Prop) (s : RefreshSession R) : Prop :=
  (∀ p ∈ s.points, G p) ∧ G s.tx.committed

/-- The statements `done` have started, and `C` holds of the committed catalog. -/
structure Started (G : Catalog R → Prop) (done : List (RefreshStep × Statement)) (C : Catalog R → Prop)
    (s : RefreshSession R) : Prop where
  now : s.live = liveAfter env live done
  moments : s.moments = live :: later live (timeline env done)
  good : Committed G s
  committed : C s.tx.committed

/-- They have all run, and `K` holds of the pending catalog. -/
structure At (G : Catalog R → Prop) (done : List (RefreshStep × Statement)) (C K : Catalog R → Prop)
    (s : RefreshSession R) : Prop extends Started env live G done C s where
  pending : K s.tx.pending

variable {env live} {G C K K' : Catalog R → Prop} {done : List (RefreshStep × Statement)} {step : RefreshStep}

theorem liveCommits_tx (changes : List (Live R → Live R)) (s : RefreshSession R) :
    (changes.foldl RefreshSession.liveCommit s).tx = s.tx ∧
    (changes.foldl RefreshSession.liveCommit s).points = s.points ∧
    (changes.foldl RefreshSession.liveCommit s).live = changes.foldl (fun l change => change l) s.live ∧
    (changes.foldl RefreshSession.liveCommit s).moments = s.moments ++ later s.live changes := by
  induction changes generalizing s with
  | nil => exact ⟨rfl, rfl, rfl, (List.append_nil _).symm⟩
  | cons change changes ih =>
    obtain ⟨tx, points, live, moments⟩ := ih (s.liveCommit change)
    refine ⟨tx, points, live, moments.trans ?_⟩
    simp [RefreshSession.liveCommit, later]

theorem execute_triple {statement : Statement}
    (spec : ∀ c c', K c → statement.apply (liveAfter env live (done ++ [(step, statement)])) c = .ok c' → K' c') :
    Triple (At env live G done C K) (execute env step statement)
      (fun _ => At env live G (done ++ [(step, statement)]) C K')
      (Started env live G (done ++ [(step, statement)]) C) := by
  intro s pre
  obtain ⟨tx, points, now, moments⟩ := liveCommits_tx (env.commits step statement) s
  have started : Started env live G (done ++ [(step, statement)]) C
      ((env.commits step statement).foldl RefreshSession.liveCommit s) := by
    constructor
    case now =>
      rw [now, pre.now, liveAfter, liveAfter, timeline_append, List.foldl_append]
    case moments =>
      rw [moments, pre.moments, pre.now, timeline_append, later_append, List.cons_append]
      rfl
    case good =>
      rw [Committed, tx, points]
      exact pre.good
    case committed =>
      rw [tx]
      exact pre.committed
  unfold execute
  dsimp only
  generalize (env.commits step statement).foldl RefreshSession.liveCommit s = s' at tx started
  cases env.fails step statement with
  | some e => exact started
  | none =>
    rw [started.now, tx]
    cases ran : statement.apply (liveAfter env live (done ++ [(step, statement)])) s.tx.pending with
    | error e => exact started
    | ok c' =>
      exact ⟨⟨rfl, started.moments, ⟨started.good.1, pre.good.2⟩, pre.committed⟩, spec _ _ pre.pending ran⟩

/-- A statement in a step that does not catch what it raises. -/
theorem execute_or_good {statement : Statement}
    (spec : ∀ c c', K c → statement.apply (liveAfter env live (done ++ [(step, statement)])) c = .ok c' → K' c') :
    Triple (At env live G done C K) (execute env step statement)
      (fun _ => At env live G (done ++ [(step, statement)]) C K') (Committed G) :=
  (execute_triple spec).consequence (fun _ pre => pre) (fun _ _ post => post) fun _ started => started.good

theorem commit_triple (good : ∀ c, K c → G c) :
    Triple (At env live G done C K) (commit env step) (fun _ => At env live G done K K) (Committed G) := by
  intro s pre
  have committed : Committed G { s with tx := s.tx.commit, points := s.points ++ [s.tx.pending] } := by
    refine ⟨fun p mem => ?_, good _ pre.pending⟩
    rcases List.mem_append.1 mem with before | now
    · exact pre.good.1 p before
    · rw [List.mem_singleton.1 now]
      exact good _ pre.pending
  unfold commit
  dsimp only
  cases env.commit step with
  | committed => exact ⟨⟨pre.now, pre.moments, committed, pre.pending⟩, pre.pending⟩
  | refused e => exact pre.good
  | lost e => exact committed

theorem rollback_triple :
    Triple (Started env live G done C) (rollback env step) (fun _ => At env live G done C C) (Committed G) := by
  intro s pre
  unfold rollback
  cases env.rollbackFails step with
  | none => exact ⟨⟨pre.now, pre.moments, pre.good, pre.committed⟩, pre.committed⟩
  | some e => exact pre.good

/-- Statements of one step that all keep `K`. -/
theorem keeps_triple (statements : List Statement)
    (keeps : ∀ statement ∈ statements, ∀ l c c', K c → statement.apply l c = .ok c' → K c') :
    Triple (At env live G done C K) (statements.forM (execute env step))
      (fun _ => At env live G (done ++ statements.map (step, ·)) C K) (Committed G) := by
  have loop := Triple.forM (J := fun ran => At env live G (done ++ ran.map (step, ·)) C K) (E := Committed G)
    (f := execute env step) statements fun ran statement rest split => by
      have here : statement ∈ statements := split ▸ List.mem_append_right _ List.mem_cons_self
      have one : Triple (At env live G (done ++ ran.map (step, ·)) C K) (execute env step statement)
          (fun _ => At env live G (done ++ ran.map (step, ·) ++ [(step, statement)]) C K) (Committed G) :=
        execute_or_good fun c c' => keeps statement here _ c c'
      rw [List.append_assoc] at one
      rw [List.map_append, List.map_singleton]
      exact one
  rw [List.map_nil, List.append_nil] at loop
  exact loop

/-- A transaction whose statements all keep `K`. -/
theorem transaction_triple (good : ∀ c, K c → G c) (statements : List Statement)
    (keeps : ∀ statement ∈ statements, ∀ l c c', K c → statement.apply l c = .ok c' → K c') :
    Triple (At env live G done C K) (transaction env step statements)
      (fun _ => At env live G (done ++ statements.map (step, ·)) K K) (Committed G) :=
  (keeps_triple statements keeps).bind fun _ => commit_triple good

/-- What a cleanup runs. -/
def cleaning (step : RefreshStep) (seconds : ℕ) : List (RefreshStep × Statement) :=
  [(step, .pinSearchPath), (step, .setLockTimeout seconds), (step, .dropSchema oldSchema)]

/-- The `DROP` of a cleanup, that may give up. -/
theorem dropOld_triple (good : ∀ c, K c → G c)
    (keeps : ∀ l c c', K c → (Statement.dropSchema oldSchema).apply l c = .ok c' → K c') :
    Triple (At env live G done K K)
      (fun s =>
        match execute env step (.dropSchema oldSchema) s with
        | .ok _ s => commit env step s
        | .error .lockNotAvailable s => rollback env step s
        | .error e s => .error e s)
      (fun _ => At env live G (done ++ [(step, .dropSchema oldSchema)]) K K) (Committed G) := by
  intro s pre
  have dropping : Triple (At env live G done K K) (execute env step (.dropSchema oldSchema))
      (fun _ => At env live G (done ++ [(step, .dropSchema oldSchema)]) K K)
      (Started env live G (done ++ [(step, .dropSchema oldSchema)]) K) :=
    execute_triple fun c c' => keeps _ c c'
  have dropped := dropping s pre
  dsimp only
  cases ran : execute env step (.dropSchema oldSchema) s with
  | ok _ s' =>
    rw [ran] at dropped
    exact commit_triple good s' dropped
  | error e s' =>
    rw [ran] at dropped
    cases e with
    | other message => exact dropped.good
    | lockNotAvailable => exact rollback_triple s' dropped

theorem cleanup_triple (good : ∀ c, K c → G c) (seconds : ℕ)
    (keeps : ∀ l c c', K c → (Statement.dropSchema oldSchema).apply l c = .ok c' → K c') :
    Triple (At env live G done K K) (cleanup env step seconds)
      (fun _ => At env live G (done ++ cleaning step seconds) K K) (Committed G) := by
  have same : ∀ c c', K c → Except.ok (ε := PgError) c = .ok c' → K c' := by
    rintro c _ h ⟨⟩
    exact h
  have spelt : done ++ cleaning step seconds = done ++ [(step, Statement.pinSearchPath)] ++
      [(step, .setLockTimeout seconds)] ++ [(step, .dropSchema oldSchema)] := by
    simp [cleaning]
  rw [spelt]
  refine (execute_or_good fun c c' => same c c').bind fun _ => ?_
  refine (execute_or_good fun c c' => same c c').bind fun _ => ?_
  exact dropOld_triple good keeps

/-! ## The steps -/

/-- The copies of the tables, each with what its live table holds when its statement starts. -/
def copiedTables (env : RefreshEnv R) (live : Live R) :
    List (RefreshStep × Statement) → List String → List (String × Option R)
  | _, [] => []
  | done, name :: names =>
    let done := done ++ [(.rebuildStaging, .createTableAs stagingSchema name)]
    (name, liveAfter env live done name) :: copiedTables env live done names

def copying (names : List String) : List (RefreshStep × Statement) :=
  names.map fun name => (.rebuildStaging, .createTableAs stagingSchema name)

theorem copying_append (names : List String) (name : String) :
    copying (names ++ [name]) = copying names ++ [(.rebuildStaging, .createTableAs stagingSchema name)] :=
  List.map_append

theorem copiedTables_append (names : List String) (name : String) :
    copiedTables env live done (names ++ [name]) = copiedTables env live done names ++
      [(name, liveAfter env live (done ++ copying (names ++ [name])) name)] := by
  induction names generalizing done with
  | nil => rfl
  | cons n names ih =>
    rw [List.cons_append, copiedTables, ih]
    simp [copiedTables, copying]

/-- The statements before the first copy. -/
def beforeCopies : List (RefreshStep × Statement) :=
  [(.lock, .pinSearchPath), (.lock, .advisoryLock)] ++ cleaning .cleanupStaleOldSchema 2 ++
    [(.rebuildStaging, .pinSearchPath), (.rebuildStaging, .dropSchema stagingSchema),
      (.rebuildStaging, .createSchema stagingSchema)]

/-- A schema that was made after the ids below `oid` were given, with the copies of these tables. -/
structure Copied (env : RefreshEnv R) (live : Live R) (oid : ℕ) (names : List String) (s : Schema R) : Prop where
  new : oid ≤ s.oid
  tables : s.tables.map (fun t => (t.1, some t.2)) = copiedTables env live beforeCopies names

/-- The sandbox is the old one. -/
structure Before (old : Schema R) (oid : ℕ) (c : Catalog R) : Prop where
  issued : c.Issued
  sandbox : c.named liveSandboxSchema = [old]
  nextOid : oid ≤ c.nextOid

/-- And the staging schema holds the copies. -/
structure Staged (env : RefreshEnv R) (live : Live R) (names : List String) (old : Schema R) (oid : ℕ)
    (c : Catalog R) : Prop extends Before old oid c where
  staging : ∃ s, c.named stagingSchema = [s] ∧ Copied env live oid names s

/-- The schema `name` holds the copies. -/
structure Holds (env : RefreshEnv R) (live : Live R) (names : List String) (oid : ℕ) (name : String)
    (c : Catalog R) : Prop where
  issued : c.Issued
  schema : ∃ s, c.named name = [s] ∧ Copied env live oid names s

/-- The sandbox is the old one, or holds the copies. -/
def OldOrNew (env : RefreshEnv R) (live : Live R) (names : List String) (old : Schema R) (oid : ℕ)
    (c : Catalog R) : Prop :=
  Before old oid c ∨ Holds env live names oid liveSandboxSchema c

section Steps
variable {old : Schema R} {oid : ℕ} {names : List String}

theorem Before.apply {l : Live R} {c c' : Catalog R} {statement : Statement} (h : Before old oid c)
    (ran : statement.apply l c = .ok c') (other : liveSandboxSchema ∉ statement.touches) : Before old oid c' :=
  ⟨apply_issued h.issued ran, (apply_named ran other).trans h.sandbox, h.nextOid.trans (apply_nextOid ran)⟩

theorem Staged.apply {l : Live R} {c c' : Catalog R} {statement : Statement}
    (h : Staged env live names old oid c) (ran : statement.apply l c = .ok c')
    (other : liveSandboxSchema ∉ statement.touches) (staging : stagingSchema ∉ statement.touches) :
    Staged env live names old oid c' := by
  refine ⟨h.toBefore.apply ran other, ?_⟩
  rw [apply_named ran staging]
  exact h.staging

/-- One more table is copied. -/
theorem Staged.copy {ran : List String} {name : String} {c c' : Catalog R} (h : Staged env live ran old oid c)
    (created : (Statement.createTableAs stagingSchema name).apply
      (liveAfter env live (beforeCopies ++ copying (ran ++ [name]))) c = .ok c') :
    Staged env live (ran ++ [name]) old oid c' := by
  refine ⟨h.toBefore.apply created (by simp [Statement.touches, stagingSchema, liveSandboxSchema]), ?_⟩
  obtain ⟨s, here, copied⟩ := h.staging
  obtain ⟨rows, present, after⟩ := apply_createTableAs created
  rw [here, List.map_singleton] at after
  refine ⟨_, after, copied.new, ?_⟩
  rw [copiedTables_append, present, List.map_append, copied.tables]
  rfl

theorem rebuildStaging_triple (good : ∀ c, Staged env live names old oid c → G c) :
    Triple (At env live G
        ([(.lock, .pinSearchPath), (.lock, .advisoryLock)] ++ cleaning .cleanupStaleOldSchema 2) C
        (Before old oid))
      (rebuildStaging env names)
      (fun _ => At env live G (beforeCopies ++ copying names) (Staged env live names old oid)
        (Staged env live names old oid)) (Committed G) := by
  have copies := Triple.forM
    (J := fun ran => At env live G (beforeCopies ++ copying ran) C (Staged env live ran old oid))
    (E := Committed G) (f := fun name => execute env .rebuildStaging (.createTableAs stagingSchema name)) names
    fun ran name rest _ => by
      have spelt : beforeCopies ++ copying (ran ++ [name]) =
          beforeCopies ++ copying ran ++ [(.rebuildStaging, .createTableAs stagingSchema name)] := by
        rw [copying_append, List.append_assoc]
      rw [spelt]
      refine execute_or_good fun c c' staged created => ?_
      rw [← spelt] at created
      exact staged.copy created
  have first : ∀ c c', Before old oid c → Except.ok (ε := PgError) c = .ok c' → Before old oid c' := by
    rintro c _ h ⟨⟩
    exact h
  have spelt : beforeCopies ++ copying [] = ([(.lock, .pinSearchPath), (.lock, .advisoryLock)] ++
      cleaning .cleanupStaleOldSchema 2) ++ [(.rebuildStaging, .pinSearchPath)] ++
      [(.rebuildStaging, .dropSchema stagingSchema)] ++ [(.rebuildStaging, .createSchema stagingSchema)] := rfl
  rw [spelt] at copies
  refine Triple.bind (Triple.forM_append ?_ (Triple.forM_map copies)) fun _ => commit_triple good
  refine .forM_cons (execute_or_good fun c c' => first c c') ?_
  refine .forM_cons (execute_or_good fun c c' before dropped => before.apply dropped (by decide)) ?_
  refine .forM_cons (execute_or_good fun c c' before created => ?_) (fun _ pre => pre)
  exact ⟨before.apply created (by decide), _, apply_createSchema created, before.nextOid, rfl⟩

/-- The statements of the swap before its renames. -/
def granting (names : List String) : List Statement :=
  [.pinSearchPath] ++ (if names.isEmpty then [] else [.grantTables stagingSchema]) ++
    [.alterDefaultPrivileges stagingSchema, .grantSchema stagingSchema]

def swapping (names : List String) : List (RefreshStep × Statement) :=
  (granting names).map (.swapSchemas, ·) ++ [(.swapSchemas, .renameSchema liveSandboxSchema oldSchema),
    (.swapSchemas, .renameSchema stagingSchema liveSandboxSchema)]

theorem mem_granting {statement : Statement} (mem : statement ∈ granting names) :
    statement = .pinSearchPath ∨ statement = .grantTables stagingSchema ∨
      statement = .alterDefaultPrivileges stagingSchema ∨ statement = .grantSchema stagingSchema := by
  unfold granting at mem
  split at mem
  · simp only [List.append_nil, List.cons_append, List.nil_append, List.mem_cons, List.not_mem_nil] at mem
    tauto
  · simp only [List.cons_append, List.nil_append, List.mem_cons, List.not_mem_nil] at mem
    tauto

/-- The swap grants and then renames. -/
theorem swapSchemas_eq (env : RefreshEnv R) (names : List String) : swapSchemas env names =
    transaction env .swapSchemas (granting names ++ [.renameSchema liveSandboxSchema oldSchema,
      .renameSchema stagingSchema liveSandboxSchema]) := by
  simp [swapSchemas, granting]

/-- Privileges change no schema. -/
theorem apply_granting {l : Live R} {c c' : Catalog R} {statement : Statement} (mem : statement ∈ granting names)
    (ran : statement.apply l c = .ok c') : c' = c := by
  have privileges : ∀ schema, c.require schema = .ok c' → c' = c := by
    intro schema ran
    unfold Catalog.require at ran
    split at ran
    · cases ran
    · cases ran
      rfl
  rcases mem_granting mem with rfl | rfl | rfl | rfl
  · cases ran
    rfl
  · exact privileges _ ran
  · exact privileges _ ran
  · exact privileges _ ran

theorem Staged.rename {l : Live R} {c c' : Catalog R} (h : Staged env live names old oid c)
    (renamed : (Statement.renameSchema liveSandboxSchema oldSchema).apply l c = .ok c') :
    Holds env live names oid stagingSchema c' := by
  refine ⟨apply_issued h.issued renamed, ?_⟩
  rw [apply_named renamed (by decide)]
  exact h.staging

theorem Holds.swap {l : Live R} {c c' : Catalog R} (h : Holds env live names oid stagingSchema c)
    (renamed : (Statement.renameSchema stagingSchema liveSandboxSchema).apply l c = .ok c') :
    Holds env live names oid liveSandboxSchema c' := by
  obtain ⟨s, staging, copied⟩ := h.schema
  obtain ⟨taken, -⟩ := apply_renameSchema (by decide) renamed
  rw [staging] at taken
  exact ⟨apply_issued h.issued renamed, _, taken, copied.new, copied.tables⟩

theorem Holds.dropOld {l : Live R} {c c' : Catalog R} (h : Holds env live names oid liveSandboxSchema c)
    (dropped : (Statement.dropSchema oldSchema).apply l c = .ok c') :
    Holds env live names oid liveSandboxSchema c' := by
  refine ⟨apply_issued h.issued dropped, ?_⟩
  rw [apply_named dropped (by decide)]
  exact h.schema

theorem swapSchemas_triple (good : ∀ c, Holds env live names oid liveSandboxSchema c → G c) :
    Triple (At env live G done C (Staged env live names old oid)) (swapSchemas env names)
      (fun _ => At env live G (done ++ swapping names) (Holds env live names oid liveSandboxSchema)
        (Holds env live names oid liveSandboxSchema)) (Committed G) := by
  have spelt : done ++ swapping names = done ++ (granting names).map (.swapSchemas, ·) ++
      [(.swapSchemas, .renameSchema liveSandboxSchema oldSchema)] ++
      [(.swapSchemas, .renameSchema stagingSchema liveSandboxSchema)] := by
    simp [swapping]
  rw [swapSchemas_eq, spelt]
  refine Triple.bind (Q := fun _ => At env live G _ C (Holds env live names oid liveSandboxSchema))
    (Triple.forM_append (keeps_triple (granting names) fun statement mem l c c' staged ran => ?_) ?_)
    fun _ => commit_triple good
  · rw [apply_granting mem ran]
    exact staged
  · refine .forM_cons (execute_or_good fun c c' staged renamed => staged.rename renamed) ?_
    exact .forM_cons (execute_or_good fun c c' between renamed => between.swap renamed) fun _ pre => pre

/-- The statements of a run that completes. -/
def runStatements (names : List String) : List (RefreshStep × Statement) :=
  beforeCopies ++ copying names ++ swapping names ++ cleaning .cleanupOldSchema 5

theorem refresh_triple {tables : List String} (same : liveTableNames env.metadata = tables) :
    Triple (At env live (OldOrNew env live tables old oid) [] (Before old oid) (Before old oid)) (refresh env)
      (fun _ => At env live (OldOrNew env live tables old oid) (runStatements tables)
        (Holds env live tables oid liveSandboxSchema) (Holds env live tables oid liveSandboxSchema))
      (Committed (OldOrNew env live tables old oid)) := by
  unfold refresh
  rw [same]
  refine (transaction_triple (fun c before => .inl before) _ fun statement mem l c c' before ran => ?_).bind
    fun _ => ?_
  · refine before.apply ran ?_
    simp only [List.mem_cons, List.not_mem_nil, or_false] at mem
    rcases mem with rfl | rfl
    · decide
    · decide
  refine (cleanup_triple (fun c before => .inl before) 2 fun l c c' before dropped =>
    before.apply dropped (by decide)).bind fun _ => ?_
  refine (rebuildStaging_triple fun c staged => .inl staged.toBefore).bind fun _ => ?_
  refine (swapSchemas_triple fun c holds => .inr holds).bind fun _ => ?_
  exact cleanup_triple (fun c holds => .inr holds) 5 fun l c c' holds dropped => holds.dropOld dropped

end Steps

/-! ## Runs -/

/-- A catalog with one sandbox. -/
structure OneSandbox (c : Catalog R) : Prop where
  issued : c.Issued
  one : ∃ s, c.named liveSandboxSchema = [s]

/-- `p` has one sandbox: that of `c`, or one that the run made after `c` with the copies of all tables. -/
def WholeSandbox (env : RefreshEnv R) (live : Live R) (c p : Catalog R) : Prop :=
  ∃ s, p.named liveSandboxSchema = [s] ∧ (c.named liveSandboxSchema = [s] ∨
    s.oid ∉ c.schemas.map Schema.oid ∧ Copied env live c.nextOid (liveTableNames env.metadata) s)

/-- A run that completes has made the copy. -/
structure RunLaw (env : RefreshEnv R) (live : Live R) (c : Catalog R) : Prop where
  points : ∀ p ∈ (refreshSandbox env c live).2.points, WholeSandbox env live c p
  after : WholeSandbox env live c (refreshSandbox env c live).2.tx.committed
  kept : OneSandbox (refreshSandbox env c live).2.tx.committed
  complete : (refreshSandbox env c live).1 = .complete →
    ∃ s, (refreshSandbox env c live).2.tx.committed.named liveSandboxSchema = [s] ∧
      Copied env live c.nextOid (liveTableNames env.metadata) s

theorem OldOrNew.whole {c p : Catalog R} {old : Schema R} (issued : c.Issued)
    (here : c.named liveSandboxSchema = [old])
    (h : OldOrNew env live (liveTableNames env.metadata) old c.nextOid p) :
    WholeSandbox env live c p ∧ OneSandbox p := by
  rcases h with before | ⟨ids, s, there, copied⟩
  · exact ⟨⟨old, before.sandbox, .inl here⟩, before.issued, old, before.sandbox⟩
  · refine ⟨⟨s, there, .inr ⟨?_, copied⟩⟩, ids, s, there⟩
    intro taken
    obtain ⟨r, mem, same⟩ := List.mem_map.1 taken
    exact absurd (issued r mem) (not_lt.2 (same ▸ copied.new))

/-- A run starts with one sandbox, and nothing of its own. -/
theorem OneSandbox.start (env : RefreshEnv R) (live : Live R) {c : Catalog R} {old : Schema R} (issued : c.Issued)
    (here : c.named liveSandboxSchema = [old]) :
    At env live (OldOrNew env live (liveTableNames env.metadata) old c.nextOid) [] (Before old c.nextOid)
      (Before old c.nextOid) ⟨Tx.start c, [], live, [live]⟩ := by
  have before : Before old c.nextOid c := ⟨issued, here, le_rfl⟩
  exact ⟨⟨rfl, rfl, ⟨fun _ mem => absurd mem List.not_mem_nil, .inl before⟩, before⟩, before⟩

/-- A run that completes has run all its statements. -/
theorem refreshSandbox_complete {c : Catalog R} (h : OneSandbox c)
    (complete : (refreshSandbox env c live).1 = .complete) :
    (∃ s, (refreshSandbox env c live).2.tx.committed.named liveSandboxSchema = [s] ∧
      Copied env live c.nextOid (liveTableNames env.metadata) s) ∧
    (refreshSandbox env c live).2.moments =
      live :: later live (timeline env (runStatements (liveTableNames env.metadata))) := by
  obtain ⟨issued, old, here⟩ := h
  have ran := refresh_triple rfl _ (OneSandbox.start env live issued here)
  unfold refreshSandbox at complete ⊢
  dsimp only at complete ⊢
  cases connected : env.connectFails with
  | some e =>
    rw [connected] at complete
    cases complete
  | none =>
    rw [connected] at complete
    cases run : refresh env ⟨Tx.start c, [], live, [live]⟩ with
    | error e s =>
      rw [run] at complete
      cases complete
    | ok _ s =>
      rw [run] at ran
      exact ⟨ran.committed.schema, ran.moments⟩

theorem refreshSandbox_good (env : RefreshEnv R) (live : Live R) {c : Catalog R} {old : Schema R} (issued : c.Issued)
    (here : c.named liveSandboxSchema = [old]) :
    Committed (OldOrNew env live (liveTableNames env.metadata) old c.nextOid)
      (refreshSandbox env c live).2 := by
  have start := OneSandbox.start env live issued here
  have ran := refresh_triple rfl _ start
  unfold refreshSandbox
  dsimp only
  cases env.connectFails with
  | some e => exact start.good
  | none =>
    cases run : refresh env ⟨Tx.start c, [], live, [live]⟩ with
    | error e s =>
      rw [run] at ran
      exact ran
    | ok _ s =>
      rw [run] at ran
      exact ran.good

theorem refreshSandbox_law (env : RefreshEnv R) (live : Live R) {c : Catalog R} (h : OneSandbox c) :
    RunLaw env live c := by
  obtain ⟨issued, old, here⟩ := h
  obtain ⟨points, after⟩ := refreshSandbox_good env live issued here
  constructor
  case points => exact fun p mem => ((points p mem).whole issued here).1
  case after => exact (after.whole issued here).1
  case kept => exact (after.whole issued here).2
  case complete => exact fun complete => (refreshSandbox_complete ⟨issued, old, here⟩ complete).1

/-- Refreshes one after the other, between which others use the sandbox: they change what is in the schemas. -/
inductive SandboxLabel (R : Type) where
  | refresh (env : RefreshEnv R) (live : Live R)
  | use (c : Catalog R)

def SandboxStep (c : Catalog R) (l : SandboxLabel R) (c' : Catalog R) : Prop :=
  match l with
  | .refresh env live => c' = (refreshSandbox env c live).2.tx.committed
  | .use used => c' = used ∧ c.nextOid ≤ used.nextOid ∧
      used.schemas.map (fun s => (s.oid, s.nspname)) = c.schemas.map fun s => (s.oid, s.nspname)

theorem OneSandbox.use {c used : Catalog R} (h : OneSandbox c) (later : c.nextOid ≤ used.nextOid)
    (same : used.schemas.map (fun s => (s.oid, s.nspname)) = c.schemas.map fun s => (s.oid, s.nspname)) :
    OneSandbox used := by
  obtain ⟨issued, s, here⟩ := h
  have named : ∀ c : Catalog R, (c.named liveSandboxSchema).map (fun s => (s.oid, s.nspname)) =
      (c.schemas.map fun s => (s.oid, s.nspname)).filter (·.2 = liveSandboxSchema) := by
    intro c
    rw [List.filter_map]
    rfl
  constructor
  case issued =>
    intro r mem
    obtain ⟨r', old, pair⟩ := List.mem_map.1 (same ▸ List.mem_map_of_mem mem)
    rw [← (Prod.mk.inj pair).1]
    exact (issued r' old).trans_le later
  case one =>
    have one := named used
    rw [same, ← named c, here, List.map_singleton, List.map_eq_singleton_iff] at one
    obtain ⟨s', used, -⟩ := one
    exact ⟨s', used⟩

def sandboxRuns (R : Type) : System (Catalog R) (SandboxLabel R) := ⟨OneSandbox, SandboxStep⟩

theorem oneSandbox_of_reachable {c : Catalog R} (h : (sandboxRuns R).Reachable c) : OneSandbox c := by
  refine h.invariant (I := OneSandbox) (fun _ start => start) fun c l c' _ one _ step => ?_
  cases l with
  | refresh env live =>
    have step : c' = (refreshSandbox env c live).2.tx.committed := step
    rw [step]
    exact (refreshSandbox_law env live one).kept
  | use used =>
    obtain ⟨rfl, later, same⟩ := step
    exact one.use later same

/-- Whatever fails in a run, after any runs, every catalog it commits has one whole sandbox. -/
theorem sandbox_always_whole {c : Catalog R} (h : (sandboxRuns R).Reachable c) (env : RefreshEnv R)
    (live : Live R) : RunLaw env live c :=
  refreshSandbox_law env live (oneSandbox_of_reachable h)

end

/-- A left-over `sandbox_old` on which a cleanup waits in vain: the run before fails at its swap, and the next
one makes the copy. -/
theorem sandbox_always_whole_leftOver :
    let c : Catalog ℕ := ⟨[⟨1, "sandbox", []⟩, ⟨2, "sandbox_old", [("product", 3)]⟩], 3⟩
    let live : Live ℕ := fun name => if name = "product" then some 5 else none
    let env : RefreshEnv ℕ := undisturbed [(some "reporting", "product"), (some "live", "product")]
    let waits : RefreshEnv ℕ := { env with
      fails := fun _ statement => if statement = .dropSchema oldSchema then some .lockNotAvailable else none }
    let c₁ := (refreshSandbox waits c live).2.tx.committed
    (refreshSandbox waits c live).1 = .failed ∧ RunLaw env live c₁ ∧
      (refreshSandbox env c₁ live).2.tx.committed.named "sandbox" = [⟨4, "sandbox", [("product", 5)]⟩] := by
  intro c live env waits c₁
  have start : OneSandbox c := ⟨by unfold Catalog.Issued; decide, ⟨1, "sandbox", []⟩, by decide⟩
  have ran : (sandboxRuns ℕ).Reachable c₁ := .next (l := .refresh waits live) (.start start) trivial rfl
  exact ⟨by decide +kernel, sandbox_always_whole ran env live, by decide +kernel⟩

end MeadowOps.Sandbox
