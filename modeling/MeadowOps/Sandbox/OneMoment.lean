import MeadowOps.Lib.Moment
import MeadowOps.Sandbox.WholeSchema

/-!
# Does the sandbox mirror one moment?

Each table is copied by a statement of its own, and a statement sees what is committed when it starts. What
the sandbox shows depends on the commits of other sessions between the copies.
-/

namespace MeadowOps.Sandbox

open Lib

section
variable {R : Type} (env : RefreshEnv R) (live : Live R)

/-- The live tables after `k` of a run's concurrent transactions. -/
def stateAt (names : List String) (k : ℕ) : Live R :=
  ((timeline env (runStatements names)).take k).foldl (fun l change => change l) live

/-- How many of them the copy of the table at a position sees. -/
def copiedAt (names : List String) (i : ℕ) : ℕ :=
  (timeline env (beforeCopies ++ copying (names.take (i + 1)))).length

/-- All of them. -/
def commitCount (names : List String) : ℕ := (timeline env (runStatements names)).length

/-- The sandbox holds what all tables held together at a moment of the run. -/
def MirrorsOneMoment (c : Catalog R) : Prop :=
  ∃ s, (refreshSandbox env c live).2.tx.committed.named liveSandboxSchema = [s] ∧
    s.tables.map (·.1) = liveTableNames env.metadata ∧
    ∃ m ∈ (refreshSandbox env c live).2.moments, ∀ t ∈ s.tables, m t.1 = some t.2

/-- A transaction changes a table that is copied already, and it or a later one a table that is copied after
it. -/
def CopiesTorn (names : List String) : Prop :=
  Torn (stateAt env live names) (fun i : Fin names.length => names.get i) (fun i => copiedAt env names i)
    (commitCount env names)

/-- No table returns to rows that it had before. -/
def RowsUnreturning (names : List String) : Prop :=
  Unreturning (stateAt env live names) (fun i : Fin names.length => names.get i) (commitCount env names)

variable {env live}

/-- A part of the run's statements has run a part of its concurrent transactions. -/
theorem timeline_take {names : List String} {done rest : List (RefreshStep × Statement)}
    (split : runStatements names = done ++ rest) :
    timeline env done = (timeline env (runStatements names)).take (timeline env done).length := by
  rw [split, timeline, timeline, List.flatMap_append, List.take_left]

theorem runStatements_split (names : List String) (i : ℕ) :
    ∃ rest, runStatements names = beforeCopies ++ copying (names.take (i + 1)) ++ rest := by
  refine ⟨copying (names.drop (i + 1)) ++ swapping names ++ cleaning .cleanupOldSchema 5, ?_⟩
  have copies : copying names = copying (names.take (i + 1)) ++ copying (names.drop (i + 1)) := by
    rw [copying, copying, copying, ← List.map_append, List.take_append_drop]
  rw [runStatements, copies]
  simp

theorem copiedAt_le (names : List String) (i : ℕ) : copiedAt env names i ≤ commitCount env names := by
  obtain ⟨rest, split⟩ := runStatements_split names i
  rw [copiedAt, commitCount, timeline_take split]
  exact List.length_take_le' ..

theorem liveAfter_copy (names : List String) (i : ℕ) :
    liveAfter env live (beforeCopies ++ copying (names.take (i + 1))) =
      stateAt env live names (copiedAt env names i) := by
  obtain ⟨rest, split⟩ := runStatements_split names i
  rw [liveAfter, timeline_take split]
  rfl

theorem mem_later {m : Live R} {changes : List (Live R → Live R)} :
    m ∈ live :: later live changes ↔
      ∃ k ≤ changes.length, m = (changes.take k).foldl (fun l change => change l) live := by
  induction changes generalizing live with
  | nil => simp [later]
  | cons change changes ih =>
    rw [List.mem_cons, later, ih]
    constructor
    · rintro (rfl | ⟨k, le, rfl⟩)
      · exact ⟨0, Nat.zero_le _, rfl⟩
      · exact ⟨k + 1, Nat.succ_le_succ le, rfl⟩
    · rintro ⟨k, le, rfl⟩
      cases k with
      | zero => exact .inl rfl
      | succ k => exact .inr ⟨k, Nat.le_of_succ_le_succ le, rfl⟩

theorem getElem?_copiedTables (done : List (RefreshStep × Statement)) (names : List String) (i : ℕ) :
    (copiedTables env live done names)[i]? =
      names[i]?.map fun name => (name, liveAfter env live (done ++ copying (names.take (i + 1))) name) := by
  induction names generalizing done i with
  | nil => rfl
  | cons name names ih =>
    cases i with
    | zero => rfl
    | succ i =>
      rw [copiedTables, List.getElem?_cons_succ, ih, List.getElem?_cons_succ]
      simp [copying]

/-- The tables of a run agree with a moment when its copies do. -/
theorem copies_show_moment {names : List String} {oid : ℕ} {s : Schema R} (copied : Copied env live oid names s)
    (k : ℕ) : (∀ t ∈ s.tables, stateAt env live names k t.1 = some t.2) ↔
      ShowsMoment (stateAt env live names) (fun i : Fin names.length => names.get i)
        (fun i => copiedAt env names i) k := by
  have pairs : (∀ t ∈ s.tables, stateAt env live names k t.1 = some t.2) ↔
      ∀ p ∈ copiedTables env live beforeCopies names, stateAt env live names k p.1 = p.2 := by
    rw [← copied.tables, List.forall_mem_map]
  have row : ∀ i : Fin names.length, (copiedTables env live beforeCopies names)[i.1]? =
      some (names.get i, stateAt env live names (copiedAt env names i) (names.get i)) := by
    intro i
    rw [getElem?_copiedTables, List.getElem?_eq_getElem i.2, Option.map_some, liveAfter_copy]
    rfl
  rw [pairs]
  constructor
  · intro agree i
    exact agree _ (List.mem_of_getElem? (row i))
  · intro shows p mem
    obtain ⟨i, at_⟩ := List.getElem?_of_mem mem
    have inside : i < names.length := by
      rw [getElem?_copiedTables] at at_
      obtain ⟨name, found, -⟩ := Option.map_eq_some_iff.1 at_
      exact (List.getElem?_eq_some_iff.1 found).1
    rw [row ⟨i, inside⟩, Option.some.injEq] at at_
    rw [← at_]
    exact shows ⟨i, inside⟩

theorem copiedTables_names (done : List (RefreshStep × Statement)) (names : List String) :
    (copiedTables env live done names).map (·.1) = names := by
  induction names generalizing done with
  | nil => rfl
  | cons name names ih => exact congrArg (name :: ·) (ih _)

/-- The sandbox of a run that completes mirrors one moment when its copies agree on one. -/
theorem mirrorsOneMoment_iff_shows {c : Catalog R} (one : OneSandbox c)
    (complete : (refreshSandbox env c live).1 = .complete) :
    MirrorsOneMoment env live c ↔ ∃ k ≤ commitCount env (liveTableNames env.metadata),
      ShowsMoment (stateAt env live (liveTableNames env.metadata))
        (fun i : Fin (liveTableNames env.metadata).length => (liveTableNames env.metadata).get i)
        (fun i => copiedAt env (liveTableNames env.metadata) i) k := by
  obtain ⟨⟨s, here, copied⟩, moments⟩ := refreshSandbox_complete one complete
  have names : s.tables.map (·.1) = liveTableNames env.metadata := by
    have both := congrArg (List.map (·.1)) copied.tables
    rw [copiedTables_names, List.map_map] at both
    exact both
  constructor
  · rintro ⟨s', here', -, m, moment, holds⟩
    rw [here, List.singleton_inj] at here'
    rw [moments, mem_later] at moment
    obtain ⟨k, le, rfl⟩ := moment
    exact ⟨k, le, (copies_show_moment copied k).1 (here' ▸ holds)⟩
  · rintro ⟨k, le, shows⟩
    refine ⟨s, here, names, _, ?_, (copies_show_moment copied k).2 shows⟩
    rw [moments, mem_later]
    exact ⟨k, le, rfl⟩

/-- A run that completes and that no transaction has torn mirrors one moment of the live tables. Where no table
returns to rows it had before, a torn run mirrors none. -/
theorem sandbox_mirrors_one_moment {c : Catalog R} (one : OneSandbox c)
    (complete : (refreshSandbox env c live).1 = .complete) :
    (¬ CopiesTorn env live (liveTableNames env.metadata) → MirrorsOneMoment env live c) ∧
    (RowsUnreturning env live (liveTableNames env.metadata) →
      (MirrorsOneMoment env live c ↔ ¬ CopiesTorn env live (liveTableNames env.metadata))) := by
  have agree := mirrorsOneMoment_iff_shows one complete
  have within : ∀ i : Fin (liveTableNames env.metadata).length,
      copiedAt env (liveTableNames env.metadata) i ≤ commitCount env (liveTableNames env.metadata) :=
    fun i => copiedAt_le _ i
  have whole : ¬ CopiesTorn env live (liveTableNames env.metadata) → MirrorsOneMoment env live c :=
    fun whole => agree.2 (showsMoment_of_not_torn within whole)
  refine ⟨whole, fun unreturning => ⟨fun mirrors => ?_, whole⟩⟩
  obtain ⟨k, le, shows⟩ := agree.1 mirrors
  exact not_torn_of_showsMoment within le unreturning shows

end

/-- The transaction of a tick that places order 7 with its line. -/
def placeOrder (live : Live (List ℕ)) : Live (List ℕ) := fun name =>
  if name = "sales_order" ∨ name = "sales_order_line" then (live name).map (· ++ [7]) else live name

/-- A refresh in which the tick commits before a table is copied. -/
def placedBefore (table : String) : RefreshEnv (List ℕ) :=
  { undisturbed (R := List ℕ) [(some "live", "sales_order_line"), (some "live", "sales_order")] with
    commits := fun _ statement => if statement = .createTableAs stagingSchema table then [placeOrder] else [] }

def noOrders : Live (List ℕ) := fun _ => some []

def emptySandbox : Catalog (List ℕ) := ⟨[⟨1, "sandbox", []⟩], 2⟩

theorem oneSandbox_empty : OneSandbox emptySandbox :=
  ⟨by unfold Catalog.Issued; decide, ⟨1, "sandbox", []⟩, by decide⟩

/-- A tick commits before the first copy: all copies see it, so it tears none of them apart, and the sandbox has
the order with its line. -/
theorem sandbox_mirrors_one_moment_placedBefore :
    MirrorsOneMoment (placedBefore "sales_order") noOrders emptySandbox ∧
    (refreshSandbox (placedBefore "sales_order") emptySandbox noOrders).2.tx.committed.named "sandbox" =
      [⟨2, "sandbox", [("sales_order", [7]), ("sales_order_line", [7])]⟩] := by
  have complete : (refreshSandbox (placedBefore "sales_order") emptySandbox noOrders).1 = .complete := by
    decide +kernel
  have whole : ¬ CopiesTorn (placedBefore "sales_order") noOrders
      (liveTableNames (placedBefore "sales_order").metadata) := by
    rintro ⟨k, l, i, j, le, inside, read, -⟩
    have seen : ∀ i : Fin (liveTableNames (placedBefore "sales_order").metadata).length,
        commitCount (placedBefore "sales_order") (liveTableNames (placedBefore "sales_order").metadata) ≤
          copiedAt (placedBefore "sales_order") (liveTableNames (placedBefore "sales_order").metadata) i := by
      decide +kernel
    exact absurd inside (not_lt.2 (((seen i).trans read).trans le))
  exact ⟨(sandbox_mirrors_one_moment oneSandbox_empty complete).1 whole, by decide +kernel⟩

/-- A tick between the copies: the sandbox has the line of an order that it lacks. -/
theorem sandbox_torn_by_tick :
    let env := placedBefore "sales_order_line"
    (refreshSandbox env emptySandbox noOrders).1 = .complete ∧
    (refreshSandbox env emptySandbox noOrders).2.tx.committed.named "sandbox" =
      [⟨2, "sandbox", [("sales_order", []), ("sales_order_line", [7])]⟩] ∧
    ¬ MirrorsOneMoment env noOrders emptySandbox := by
  intro env
  have named : (refreshSandbox env emptySandbox noOrders).2.tx.committed.named "sandbox" =
      [⟨2, "sandbox", [("sales_order", []), ("sales_order_line", [7])]⟩] := by decide +kernel
  refine ⟨by decide +kernel, named, ?_⟩
  rintro ⟨s, here, -, m, moment, holds⟩
  have same := here.symm.trans named
  rw [List.singleton_inj] at same
  subst same
  have never : ∀ m ∈ (refreshSandbox env emptySandbox noOrders).2.moments,
      ¬ (m "sales_order" = some [] ∧ m "sales_order_line" = some [7]) := by decide +kernel
  exact never m moment ⟨holds ("sales_order", []) (by simp), holds ("sales_order_line", [7]) (by simp)⟩

end MeadowOps.Sandbox
