import MeadowOps.Lib.Table

/-!
# Append-only rows with a parent

The first row has no parent, and every later row names one that was inserted before it. Following the parents
from any row ends at the first.
-/

namespace MeadowOps.Lib

variable {ρ κ : Type} (key : ρ → κ) (parent : ρ → Option κ)

/-- Rows that were appended one by one, each under a row that was there. -/
inductive Lineage : List ρ → Prop
  | root {r : ρ} : parent r = none → Lineage [r]
  | child {rows : List ρ} {p r : ρ} : Lineage rows → p ∈ rows → parent r = some (key p) →
      key r ∉ rows.map key → Lineage (rows ++ [r])

variable {key parent} {rows : List ρ}

namespace Lineage

theorem keyed (h : Lineage key parent rows) : Keyed key rows := by
  induction h with
  | root _ => exact List.nodup_singleton _
  | child _ _ _ fresh ih => exact ih.append fresh

/-- The first row has no parent, and every other has one before it. -/
theorem parents (h : Lineage key parent rows) {before after : List ρ} {r : ρ}
    (split : rows = before ++ r :: after) :
    before = [] ∧ parent r = none ∨ ∃ p ∈ before, parent r = some (key p) := by
  induction h generalizing after with
  | root none =>
    rcases before with - | ⟨b, before⟩
    · cases split
      exact .inl ⟨rfl, none⟩
    · simp at split
  | @child rows p s _ mem under _ ih =>
    rcases List.eq_nil_or_concat after with rfl | ⟨after, last, rfl⟩
    · obtain ⟨rfl, same⟩ := List.append_inj' split rfl
      cases same
      exact .inr ⟨p, mem, under⟩
    · rw [List.concat_eq_append, ← List.cons_append, ← List.append_assoc] at split
      exact ih (List.append_inj' split rfl).1

end Lineage

section
variable [DecidableEq κ]

variable (key parent) in
/-- The row that `n` steps up the parents lead to. -/
def ancestor (rows : List ρ) : ℕ → ρ → Option ρ
  | 0, r => some r
  | n + 1, r => (parent r).bind fun k => (lookup key k rows).bind (ancestor rows n)

theorem ancestor_append {r s : ρ} {n : ℕ} (h : ancestor key parent rows n r = some s) (more : List ρ) :
    ancestor key parent (rows ++ more) n r = some s := by
  induction n generalizing r with
  | zero => exact h
  | succ n ih =>
    obtain ⟨k, up, rest⟩ := Option.bind_eq_some_iff.1 h
    obtain ⟨p, found, above⟩ := Option.bind_eq_some_iff.1 rest
    refine Option.bind_eq_some_iff.2 ⟨k, up, Option.bind_eq_some_iff.2 ⟨p, ?_, ih above⟩⟩
    rw [lookup, List.find?_append]
    rw [lookup] at found
    rw [found]
    rfl

/-- Every row descends from the first, which has no parent. -/
theorem Lineage.descends (h : Lineage key parent rows) :
    ∃ root rest, rows = root :: rest ∧ parent root = none ∧
      ∀ r ∈ rows, ∃ n, ancestor key parent rows n r = some root := by
  induction h with
  | @root r none =>
    refine ⟨r, [], rfl, none, fun s mem => ⟨0, ?_⟩⟩
    rw [List.mem_singleton.1 mem]
    rfl
  | @child rows p s lineage mem under fresh ih =>
    obtain ⟨root, rest, rfl, none, up⟩ := ih
    refine ⟨root, rest ++ [s], rfl, none, fun r here => ?_⟩
    rcases List.mem_append.1 here with old | new
    · obtain ⟨n, reaches⟩ := up r old
      exact ⟨n, ancestor_append reaches _⟩
    · rw [List.mem_singleton.1 new]
      obtain ⟨n, reaches⟩ := up p mem
      have found : lookup key (key p) ((root :: rest) ++ [s]) = some p :=
        lookup_of_mem (lineage.child mem under fresh).keyed (List.mem_append_left _ mem)
      refine ⟨n + 1, Option.bind_eq_some_iff.2 ⟨key p, under, Option.bind_eq_some_iff.2 ⟨p, found, ?_⟩⟩⟩
      exact ancestor_append reaches _

end

end MeadowOps.Lib
