import Mathlib.Algebra.GroupWithZero.Nat
import Mathlib.Algebra.Order.BigOperators.Group.List
import Mathlib.Algebra.Order.Group.Nat
import Mathlib.Data.List.Flatten
import Mathlib.Data.List.Perm.Basic

/-!
# `app/domain/subsystem_boundary.py`

The check of the imports walks the syntax tree of a file and resolves what is imported against a list of modules. A
relative import of one level more than the package has parts is resolved, where it climbs out of the package.
-/

namespace MeadowOps.Core

/-- A dotted name. -/
abbrev ModuleName := List Char

def forbiddenModules : List ModuleName :=
  ["app.db.session".toList, "app.db.auth".toList, "app.db.dimensions".toList, "app.db.exception_flags".toList,
    "app.db.exception_rules".toList, "app.db.facts".toList, "app.db.kpi".toList, "app.db.ledger".toList,
    "app.db.query_log".toList, "app.db.reporting".toList, "app.db.scheduling".toList, "app.db.world_state".toList]

structure BoundaryViolation where
  file : String
  forbiddenModule : ModuleName
  line : ℕ
  deriving DecidableEq, Repr

/-- `".".join(parts)`. -/
def join (parts : List ModuleName) : ModuleName := ['.'].intercalate parts

/-- `_resolve_relative_module`. An empty module name counts as none. -/
def resolveRelativeModule (owningModule : ModuleName) (level : ℕ) (module : Option ModuleName) : Option ModuleName :=
  let parts := owningModule.splitOn '.'
  let drop := level - 1
  if parts.length < drop then none
  else
    let base := parts.take (parts.length - drop)
    match module with
    | none | some [] => some (join base)
    | some m => some (join (base ++ m.splitOn '.'))

/-- What the check reads of a node of the syntax tree. -/
inductive Stmt where
  | importNames (names : List ModuleName) (lineno : ℕ)
  | importFrom (module : Option ModuleName) (names : List ModuleName) (level lineno : ℕ)
  | other
  deriving DecidableEq, Repr

inductive Tree where
  | node (stmt : Stmt) (children : List Tree)

mutual

/-- Every node of the tree, in pre-order. -/
def Tree.stmts : Tree → List Stmt
  | .node stmt children => stmt :: Tree.stmtsList children

def Tree.stmtsList : List Tree → List Stmt
  | [] => []
  | t :: todo => t.stmts ++ Tree.stmtsList todo

end

/-- The queue of `ast.walk`: the children of a node go to its end. -/
def walkQueue : ℕ → List Tree → List Stmt
  | 0, _ => []
  | _ + 1, [] => []
  | fuel + 1, .node stmt children :: todo => stmt :: walkQueue fuel (todo ++ children)

/-- `ast.walk(tree)`; there are as many turns as nodes. -/
def walk (t : Tree) : List Stmt := walkQueue t.stmts.length [t]

def unresolvableImport : ModuleName := "<unresolvable relative import>".toList

/-- The module itself, and what is imported from it as an attribute. -/
def moduleViolations (file : String) (module : ModuleName) (names : List ModuleName) (lineno : ℕ) :
    List BoundaryViolation :=
  ((module :: names.map fun name => module ++ '.' :: name).filter fun m => decide (m ∈ forbiddenModules)).map
    fun m => ⟨file, m, lineno⟩

/-- One turn of the loop. -/
def stmtViolations (file : String) (owningModule : Option ModuleName) : Stmt → List BoundaryViolation
  | .importNames names lineno =>
    (names.filter fun m => decide (m ∈ forbiddenModules)).map fun m => ⟨file, m, lineno⟩
  | .importFrom module names level lineno =>
    if 0 < level then
      match owningModule.bind fun owning => resolveRelativeModule owning level module with
      | none => [⟨file, unresolvableImport, lineno⟩]
      | some resolved => moduleViolations file resolved names lineno
    else match module with
      | none => []
      | some m => moduleViolations file m names lineno
  | .other => []

/-- `check_source`, from the parsed source on. -/
def checkTree (file : String) (owningModule : Option ModuleName) (t : Tree) : List BoundaryViolation :=
  (walk t).flatMap (stmtViolations file owningModule)

/-- `check_source`; `parse` is `ast.parse`. -/
def checkSource {ε : Type} (parse : String → Except ε Tree) (source file : String) (owningModule : Option ModuleName) :
    Except ε (List BoundaryViolation) :=
  (parse source).map (checkTree file owningModule)

/-! ## How an import is resolved -/

/-- The dotted name of a package: parts without dots. A file outside of any package has none. -/
structure PackageName where
  parts : List ModuleName
  dotless : ∀ part ∈ parts, part ≠ [] ∧ '.' ∉ part

def PackageName.name (p : PackageName) : ModuleName := join p.parts

/-- Python's `_resolve_name`: of a package with `n` parts, `level - 1` parts are dropped, and `level` is at most `n`. -/
def resolveName (p : PackageName) (level : ℕ) (module : Option ModuleName) : Option ModuleName :=
  if p.parts.length < level then none
  else
    let base := join (p.parts.take (p.parts.length - (level - 1)))
    match module with
    | none | some [] => some base
    | some m => some (base ++ '.' :: m)

/-- The level at which the package is left, and the code does not see it. A file outside of any package counts as having
one part. -/
def LeavesUnseen (p : PackageName) (level : ℕ) : Prop := p.parts.length < level ∧ level ≤ max p.parts.length 1 + 1

/-! ## The resolved name -/

section Resolve

variable {p : PackageName} {level : ℕ} {module : Option ModuleName}

theorem join_append_splitOn {parts : List ModuleName} (some : parts ≠ []) (m : ModuleName) :
    join (parts ++ m.splitOn '.') = join parts ++ '.' :: m := by
  have whole : join (m.splitOn '.') = m := List.intercalate_splitOn '.'
  have rest : m.splitOn '.' ≠ [] := List.splitOn_ne_nil '.' m
  unfold join at *
  induction parts with
  | nil => exact absurd rfl some
  | cons part parts ih =>
    rw [List.cons_append]
    cases parts with
    | nil => rw [List.nil_append, List.intercalate_cons_of_ne_nil rest, whole, List.intercalate_singleton,
        List.append_assoc, List.singleton_append]
    | cons next parts =>
      rw [List.intercalate_cons_of_ne_nil (by simp), ih (List.cons_ne_nil _ _),
        List.intercalate_cons_of_ne_nil (List.cons_ne_nil _ _)]
      simp only [List.append_assoc]

theorem PackageName.splitOn_name (some : p.parts ≠ []) : p.name.splitOn '.' = p.parts :=
  List.splitOn_intercalate '.' (fun part mem => (p.dotless part mem).2) some

theorem PackageName.length_splitOn (p : PackageName) : (p.name.splitOn '.').length = max p.parts.length 1 := by
  by_cases none : p.parts = []
  · rw [name, none]
    rfl
  · rw [splitOn_name none, max_eq_left (List.length_pos_iff.2 none)]

theorem resolveRelativeModule_eq_none :
    resolveRelativeModule p.name level module = none ↔ max p.parts.length 1 + 1 < level := by
  unfold resolveRelativeModule
  dsimp only
  rw [p.length_splitOn]
  split
  · rename_i climbs
    exact iff_of_true rfl (by omega)
  · rename_i stays
    refine iff_of_false ?_ (by omega)
    split <;> exact Option.some_ne_none _

/-- Inside of the package, the names agree. -/
theorem resolveRelativeModule_inside (pos : 1 ≤ level) (inside : level ≤ p.parts.length) :
    resolveRelativeModule p.name level module = resolveName p level module := by
  have some : p.parts ≠ [] := List.length_pos_iff.1 (pos.trans inside)
  have base : p.parts.take (p.parts.length - (level - 1)) ≠ [] := by
    rw [ne_eq, List.take_eq_nil_iff, not_or]
    exact ⟨by omega, some⟩
  unfold resolveRelativeModule resolveName
  dsimp only
  rw [PackageName.splitOn_name some, if_neg (by omega), if_neg (by omega)]
  split
  · rfl
  · rfl
  · rw [join_append_splitOn base]

/-- Python's name is found exactly where the package is not left unseen. -/
theorem resolves_iff (pos : 1 ≤ level) :
    resolveRelativeModule p.name level module = resolveName p level module ↔ ¬ LeavesUnseen p level := by
  rcases Nat.lt_or_ge p.parts.length level with climbs | inside
  · rw [show resolveName p level module = none from if_pos climbs, resolveRelativeModule_eq_none, LeavesUnseen]
    omega
  · exact iff_of_true (resolveRelativeModule_inside pos inside) fun leaves => absurd leaves.1 (not_lt.2 inside)

end Resolve

/-! ## The walk -/

theorem stmtsList_append (ts todo : List Tree) : Tree.stmtsList (ts ++ todo) = Tree.stmtsList ts ++ Tree.stmtsList todo := by
  induction ts with
  | nil => rfl
  | cons t ts ih => rw [List.cons_append, Tree.stmtsList, Tree.stmtsList, ih, List.append_assoc]

theorem walkQueue_perm {fuel : ℕ} {todo : List Tree} (enough : (Tree.stmtsList todo).length ≤ fuel) :
    (walkQueue fuel todo).Perm (Tree.stmtsList todo) := by
  induction fuel generalizing todo with
  | zero =>
    rw [List.eq_nil_of_length_eq_zero (Nat.le_zero.1 enough)]
    exact .nil
  | succ fuel ih =>
    cases todo with
    | nil => exact .nil
    | cons t todo =>
      obtain ⟨stmt, children⟩ := t
      rw [Tree.stmtsList, Tree.stmts, List.cons_append] at enough ⊢
      have less : (Tree.stmtsList (todo ++ children)).length ≤ fuel := by
        rw [List.length_cons, List.length_append] at enough
        rw [stmtsList_append, List.length_append]
        omega
      have later := ih less
      rw [stmtsList_append] at later
      exact (later.trans List.perm_append_comm).cons stmt

/-- Every node is visited once. -/
theorem walk_perm (t : Tree) : (walk t).Perm t.stmts := by
  have one : Tree.stmtsList [t] = t.stmts := by
    rw [Tree.stmtsList, Tree.stmtsList, List.append_nil]
  rw [← one]
  exact walkQueue_perm (by rw [one])

/-! ## What is reported -/

/-- The module an import names, as Python resolves it. Without a package no relative import is resolved. -/
def sourceModule (owning : Option PackageName) (level : ℕ) (module : Option ModuleName) : Option ModuleName :=
  if 0 < level then owning.bind fun p => resolveName p level module else module

/-- A relative import on the line that cannot be resolved. -/
def climbsAt (owning : Option PackageName) (line : ℕ) : Stmt → Bool
  | .importFrom module _ level lineno =>
    decide (0 < level) && decide (lineno = line) && (sourceModule owning level module).isNone
  | _ => false

/-- The modules an import reaches by their own names, and those it may reach as attributes. -/
inductive Reaches (owning : Option PackageName) : Stmt → ModuleName → ℕ → Prop
  | name (names : List ModuleName) (lineno : ℕ) (m : ModuleName) (mem : m ∈ names) :
      Reaches owning (.importNames names lineno) m lineno
  | source (module : Option ModuleName) (names : List ModuleName) (level lineno : ℕ) (m : ModuleName)
      (found : sourceModule owning level module = some m) : Reaches owning (.importFrom module names level lineno) m lineno
  | member (module : Option ModuleName) (names : List ModuleName) (level lineno : ℕ) (m name : ModuleName)
      (found : sourceModule owning level module = some m) (mem : name ∈ names) :
      Reaches owning (.importFrom module names level lineno) (m ++ '.' :: name) lineno

/-- Each import that climbs out of the package is reported as unresolvable, and each that reaches a forbidden module is
reported with it. -/
structure ReportsAll (file : String) (owning : Option PackageName) (t : Tree) (violations : List BoundaryViolation) :
    Prop where
  unresolvable : ∀ line, t.stmts.countP (climbsAt owning line) ≤ violations.count ⟨file, unresolvableImport, line⟩
  forbidden : ∀ stmt ∈ t.stmts, ∀ m line, Reaches owning stmt m line → m ∈ forbiddenModules → ⟨file, m, line⟩ ∈ violations

/-- An import that leaves the package unseen. -/
def Stmt.leavesUnseen (p : PackageName) : Stmt → Prop
  | .importFrom _ _ level _ => 0 < level ∧ LeavesUnseen p level
  | _ => False

section Report

variable {file : String} {owning : Option PackageName} {t : Tree} {stmt : Stmt} {line : ℕ} {m : ModuleName}

theorem mem_moduleViolations {v : BoundaryViolation} {names : List ModuleName} {lineno : ℕ} :
    v ∈ moduleViolations file m names lineno ↔ v.file = file ∧ v.line = lineno ∧
      v.forbiddenModule ∈ forbiddenModules ∧ (v.forbiddenModule = m ∨ ∃ name ∈ names, v.forbiddenModule = m ++ '.' :: name) := by
  unfold moduleViolations
  rw [List.mem_map]
  constructor
  · rintro ⟨n, mem, rfl⟩
    obtain ⟨mem, forbidden⟩ := List.mem_filter.1 mem
    refine ⟨rfl, rfl, of_decide_eq_true forbidden, ?_⟩
    rcases List.mem_cons.1 mem with rfl | member
    · exact .inl rfl
    · obtain ⟨name, known, rfl⟩ := List.mem_map.1 member
      exact .inr ⟨name, known, rfl⟩
  · rintro ⟨rfl, rfl, forbidden, reached⟩
    refine ⟨v.forbiddenModule, List.mem_filter.2 ⟨?_, decide_eq_true forbidden⟩, rfl⟩
    rcases reached with same | ⟨name, mem, same⟩
    · exact List.mem_cons.2 (.inl same)
    · exact List.mem_cons_of_mem _ (List.mem_map.2 ⟨name, mem, same.symm⟩)

theorem unresolvable_allowed : unresolvableImport ∉ forbiddenModules := by decide

/-- What is forbidden is no unresolvable import. -/
theorem count_moduleViolations (names : List ModuleName) (lineno : ℕ) :
    (moduleViolations file m names lineno).count ⟨file, unresolvableImport, line⟩ = 0 :=
  List.count_eq_zero.2 fun mem => unresolvable_allowed (mem_moduleViolations.1 mem).2.2.1

/-- The module as the check resolves it. -/
def checkedModule (owning : Option PackageName) (level : ℕ) (module : Option ModuleName) : Option ModuleName :=
  if 0 < level then (owning.map (·.name)).bind fun name => resolveRelativeModule name level module else module

theorem stmtViolations_importFrom (module : Option ModuleName) (names : List ModuleName) (level lineno : ℕ) :
    stmtViolations file (owning.map (·.name)) (.importFrom module names level lineno) =
      match checkedModule owning level module with
      | some m => moduleViolations file m names lineno
      | none => if 0 < level then [⟨file, unresolvableImport, lineno⟩] else [] := by
  simp only [stmtViolations, checkedModule]
  by_cases relative : 0 < level
  · rw [if_pos relative, if_pos relative, if_pos relative]
    cases (owning.map (·.name)).bind fun name => resolveRelativeModule name level module <;> rfl
  · rw [if_neg relative, if_neg relative, if_neg relative]
    cases module <;> rfl

/-- An import that does not leave the package unseen is resolved as Python resolves it. -/
theorem checkedModule_eq {module : Option ModuleName} {names : List ModuleName} {level lineno : ℕ}
    (seen : ∀ p ∈ owning, ¬ Stmt.leavesUnseen p (.importFrom module names level lineno)) :
    checkedModule owning level module = sourceModule owning level module := by
  unfold checkedModule sourceModule
  by_cases relative : 0 < level
  · rw [if_pos relative, if_pos relative]
    cases owning with
    | none => rfl
    | some p => exact (resolves_iff relative).2 fun leaves => seen p rfl ⟨relative, leaves⟩
  · rw [if_neg relative, if_neg relative]

/-- Of an import that leaves the package unseen, nothing says that it cannot be resolved. -/
theorem count_unseen (file : String) (line : ℕ) {p : PackageName} {module : Option ModuleName} {names : List ModuleName} {level lineno : ℕ}
    (unseen : Stmt.leavesUnseen p (.importFrom module names level lineno)) :
    (stmtViolations file ((some p).map (·.name)) (.importFrom module names level lineno)).count
        ⟨file, unresolvableImport, line⟩ = 0 ∧
      climbsAt (some p) lineno (.importFrom module names level lineno) = true := by
  obtain ⟨relative, climbs, unnoticed⟩ := unseen
  constructor
  · have found : resolveRelativeModule p.name level module ≠ none := by
      rw [ne_eq, resolveRelativeModule_eq_none]
      omega
    obtain ⟨m, found⟩ := Option.ne_none_iff_exists'.1 found
    rw [stmtViolations_importFrom, show checkedModule (some p) level module = some m by
      rw [checkedModule, if_pos relative]
      exact found]
    exact count_moduleViolations names lineno
  · have none : sourceModule (some p) level module = Option.none := by
      rw [sourceModule, if_pos relative]
      exact if_pos climbs
    simp [climbsAt, relative, none]

/-- A statement is reported as unresolvable if it climbs, once. -/
theorem count_seen (seen : ∀ p ∈ owning, ¬ stmt.leavesUnseen p) :
    (stmtViolations file (owning.map (·.name)) stmt).count ⟨file, unresolvableImport, line⟩ =
      if climbsAt owning line stmt then 1 else 0 := by
  cases stmt with
  | importNames names lineno =>
    refine List.count_eq_zero.2 fun mem => ?_
    obtain ⟨m, known, same⟩ := List.mem_map.1 mem
    cases same
    exact unresolvable_allowed (of_decide_eq_true (List.mem_filter.1 known).2)
  | importFrom module names level lineno =>
    rw [stmtViolations_importFrom, checkedModule_eq seen, climbsAt]
    cases found : sourceModule owning level module with
    | some m => simp [count_moduleViolations]
    | none =>
      by_cases relative : 0 < level
      · by_cases here : lineno = line
        · simp [relative, here]
        · simp [relative, here]
      · simp [relative]
  | other => rfl

/-- Where an import reaches a forbidden module, the record names it. -/
theorem reaches_reported (reaches : Reaches owning stmt m line) (forbidden : m ∈ forbiddenModules) :
    ⟨file, m, line⟩ ∈ stmtViolations file (owning.map (·.name)) stmt := by
  have inside : ∀ {module : Option ModuleName} {level : ℕ} {m : ModuleName},
      sourceModule owning level module = some m → checkedModule owning level module = some m := by
    intro module level m found
    unfold sourceModule at found
    unfold checkedModule
    by_cases relative : 0 < level
    · rw [if_pos relative] at found ⊢
      obtain ⟨p, rfl, found⟩ := Option.bind_eq_some_iff.1 found
      have stays : level ≤ p.parts.length := by
        by_contra climbs
        exact Option.some_ne_none m (found.symm.trans (if_pos (not_le.1 climbs)))
      exact (resolveRelativeModule_inside relative stays).trans found
    · rw [if_neg relative] at found ⊢
      exact found
  cases reaches with
  | name names lineno m mem =>
    exact List.mem_map.2 ⟨m, List.mem_filter.2 ⟨mem, decide_eq_true forbidden⟩, rfl⟩
  | source module names level lineno m found =>
    rw [stmtViolations_importFrom, inside found]
    exact mem_moduleViolations.2 ⟨rfl, rfl, forbidden, .inl rfl⟩
  | member module names level lineno m name found mem =>
    rw [stmtViolations_importFrom, inside found]
    exact mem_moduleViolations.2 ⟨rfl, rfl, forbidden, .inr ⟨name, mem, rfl⟩⟩

theorem count_checkTree (line : ℕ) :
    (checkTree file (owning.map (·.name)) t).count ⟨file, unresolvableImport, line⟩ =
      (t.stmts.map fun stmt =>
        (stmtViolations file (owning.map (·.name)) stmt).count ⟨file, unresolvableImport, line⟩).sum := by
  rw [checkTree, List.count_flatMap]
  exact ((walk_perm t).map _).sum_eq

theorem countP_climbs (line : ℕ) : t.stmts.countP (climbsAt owning line) =
    (t.stmts.map fun stmt => if climbsAt owning line stmt then 1 else 0).sum := by
  induction t.stmts with
  | nil => rfl
  | cons stmt stmts ih =>
    rw [List.countP_cons, List.map_cons, List.sum_cons, ih, Nat.add_comm]

/-- The check reports all of a tree in which no import leaves the package unseen, and of no other. -/
theorem reportsAll_iff (file : String) (owning : Option PackageName) (t : Tree) :
    ReportsAll file owning t (checkTree file (owning.map (·.name)) t) ↔
      ∀ p ∈ owning, ∀ stmt ∈ t.stmts, ¬ stmt.leavesUnseen p := by
  constructor
  · rintro reports p rfl stmt mem unseen
    cases stmt with
    | importNames => exact unseen
    | other => exact unseen
    | importFrom module names level lineno =>
      have enough := reports.unresolvable lineno
      rw [count_checkTree, countP_climbs] at enough
      refine absurd enough (not_le.2 (List.sum_lt_sum _ _ (fun stmt _ => ?_) ⟨_, mem, ?_⟩))
      · by_cases seen : stmt.leavesUnseen p
        · cases stmt with
          | importNames => exact seen.elim
          | other => exact seen.elim
          | importFrom => exact (count_unseen file lineno seen).1.trans_le (Nat.zero_le _)
        · refine (count_seen fun p' same => ?_).le
          obtain rfl := Option.some.inj same
          exact seen
      · obtain ⟨silent, climbs⟩ := count_unseen file lineno unseen
        rw [silent, if_pos climbs]
        exact Nat.zero_lt_one
  · intro seen
    constructor
    case unresolvable =>
      intro line
      rw [count_checkTree, countP_climbs]
      refine (congrArg List.sum (List.map_congr_left fun stmt mem => ?_)).le
      exact (count_seen fun p same => seen p same stmt mem).symm
    case forbidden =>
      intro stmt mem m line reaches forbidden
      exact List.mem_flatMap.2 ⟨stmt, (walk_perm t).mem_iff.2 mem, reaches_reported reaches forbidden⟩

end Report

/-- A relative import is resolved as Python resolves it unless it leaves the package unseen, and the check reports all
it should of a file exactly when no import of the file does. -/
theorem relative_imports_resolved_iff {ε : Type} (parse : String → Except ε Tree) (source file : String)
    (owning : Option PackageName) (t : Tree) (parsed : parse source = .ok t) :
    (∀ (p : PackageName) (level : ℕ) (module : Option ModuleName), 1 ≤ level →
      (resolveRelativeModule p.name level module = resolveName p level module ↔ ¬ LeavesUnseen p level)) ∧
    ∃ violations, checkSource parse source file (owning.map (·.name)) = .ok violations ∧
      (ReportsAll file owning t violations ↔ ∀ p ∈ owning, ∀ stmt ∈ t.stmts, ¬ stmt.leavesUnseen p) := by
  refine ⟨fun p level module pos => resolves_iff pos, ?_⟩
  refine ⟨checkTree file (owning.map (·.name)) t, ?_, reportsAll_iff file owning t⟩
  rw [checkSource, parsed]
  rfl

/-- `app.services`. -/
def appServices : PackageName where
  parts := ["app".toList, "services".toList]
  dotless := by decide

/-- The tree of `from {dots}db.session import make_engine`. -/
def importsSession (level : ℕ) : Tree :=
  .node .other [.node (.importFrom (some "db.session".toList) ["make_engine".toList] level 1) [.node .other []]]

def parsesTwoDots (_source : String) : Except String Tree := .ok (importsSession 2)

/-- Two dots lead to the package above. -/
theorem relative_imports_resolved_twoDots :
    resolveRelativeModule appServices.name 2 (some "db.session".toList) =
        resolveName appServices 2 (some "db.session".toList) ∧
      ∃ violations, checkSource parsesTwoDots "from ..db.session import make_engine" "foo.py" (some appServices.name) =
          .ok violations ∧
        ReportsAll "foo.py" (some appServices) (importsSession 2) violations := by
  obtain ⟨resolves, violations, ran, reports⟩ := relative_imports_resolved_iff parsesTwoDots
    "from ..db.session import make_engine" "foo.py" (some appServices) _ rfl
  constructor
  · exact (resolves appServices 2 _ (by decide)).2 fun leaves => absurd leaves.1 (by decide)
  · refine ⟨violations, ran, reports.2 ?_⟩
    intro p same stmt mem unseen
    obtain rfl := Option.some.inj same
    rw [importsSession] at mem
    simp only [Tree.stmts, Tree.stmtsList, List.append_nil, List.mem_cons, List.not_mem_nil, or_false] at mem
    rcases mem with rfl | rfl | rfl
    · exact unseen
    · exact absurd unseen.2.1 (by decide)
    · exact unseen

/-- One dot more than `app.services` has parts: Python refuses the import, and the check finds nothing wrong. -/
theorem import_leaves_unseen :
    resolveRelativeModule appServices.name 3 (some "db.session".toList) = some "db.session".toList ∧
      resolveName appServices 3 (some "db.session".toList) = none ∧
      checkTree "foo.py" (some appServices.name) (importsSession 3) = [] ∧
      ¬ ReportsAll "foo.py" (some appServices) (importsSession 3)
        (checkTree "foo.py" (some appServices.name) (importsSession 3)) := by
  have silent : checkTree "foo.py" (some appServices.name) (importsSession 3) = [] := by decide
  refine ⟨by decide, by decide, silent, fun reports => ?_⟩
  have enough := reports.unresolvable 1
  rw [silent] at enough
  exact absurd enough (by decide)

end MeadowOps.Core
