import MeadowOps.Lib.Dict
import Mathlib.Data.List.Dedup

/-!
# GROUP BY

A grouped query has a row for each key that occurs, with an aggregate of the rows of that key. Read into a
dictionary, with the aggregate of no rows as the default, it has an answer for every key. Counts add up to the number
of rows: over the groups, and over any axis of keys that leaves no row out.
-/

namespace MeadowOps.Lib

variable {ρ κ α : Type} [DecidableEq κ]

/-- `SELECT key, aggregate … GROUP BY key`. -/
def groupBy (key : ρ → κ) (aggregate : List ρ → α) (rows : List ρ) : List (κ × α) :=
  (rows.map key).dedup.map fun k => (k, aggregate (rows.filter fun r => key r = k))

section

variable {key : ρ → κ} {aggregate : List ρ → α} {rows : List ρ}

theorem mem_groupBy {k : κ} {a : α} : (k, a) ∈ groupBy key aggregate rows ↔
    k ∈ rows.map key ∧ a = aggregate (rows.filter fun r => key r = k) := by
  rw [groupBy, List.mem_map]
  constructor
  · rintro ⟨k', mem, same⟩
    cases same
    exact ⟨List.mem_dedup.1 mem, rfl⟩
  · rintro ⟨mem, rfl⟩
    exact ⟨k, List.mem_dedup.2 mem, rfl⟩

/-- A key without a group has no rows. -/
theorem getD_groupBy (k : κ) {none : α} (empty : aggregate [] = none) :
    (Dict.ofList (groupBy key aggregate rows)).getD k none = aggregate (rows.filter fun r => key r = k) := by
  rw [Dict.getD]
  cases found : (Dict.ofList (groupBy key aggregate rows)).get? k with
  | some a => exact (mem_groupBy.1 (Dict.mem_of_get?_ofList found)).2
  | none =>
    have absent : rows.filter (fun r => key r = k) = [] := by
      refine List.filter_eq_nil_iff.2 fun r mem same => ?_
      obtain rfl := of_decide_eq_true same
      have group : (key r, aggregate (rows.filter fun s => key s = key r)) ∈ groupBy key aggregate rows :=
        mem_groupBy.2 ⟨List.mem_map_of_mem mem, rfl⟩
      obtain ⟨a, present⟩ := Dict.exists_get?_ofList group
      exact Option.some_ne_none a (present.symm.trans found)
    rw [absent, Option.getD_none, empty]

/-- The rows counted along an axis that leaves none of them out. -/
theorem sum_axis {axis : List κ} (nodup : axis.Nodup) (covered : ∀ r ∈ rows, key r ∈ axis) :
    (axis.map fun k => (rows.filter fun r => key r = k).length).sum = rows.length := by
  induction axis generalizing rows with
  | nil =>
    obtain rfl := List.eq_nil_iff_forall_not_mem.2 fun r mem => List.not_mem_nil (covered r mem)
    rfl
  | cons k axis ih =>
    obtain ⟨fresh, nodup⟩ := List.nodup_cons.1 nodup
    have others : ∀ r ∈ rows.filter (fun r => !decide (key r = k)), key r ∈ axis := by
      intro r mem
      obtain ⟨mem, other⟩ := List.mem_filter.1 mem
      exact (List.mem_cons.1 (covered r mem)).resolve_left (by simpa using other)
    have same : ∀ k' ∈ axis, (rows.filter fun r => key r = k').length =
        ((rows.filter fun r => !decide (key r = k)).filter fun r => key r = k').length := by
      intro k' mem
      rw [List.filter_filter]
      congr 1
      refine List.filter_congr fun r _ => ?_
      by_cases here : key r = k'
      · have other : k' ≠ k := fun eq => fresh (eq ▸ mem)
        simp [here, other]
      · simp [here]
    rw [List.map_cons, List.sum_cons, List.map_congr_left same, ih nodup others]
    exact (List.length_eq_length_filter_add _).symm

/-- Rows that have one owner each, and no two of them the same one, counted over the owners. -/
theorem countP_owners {σ : Type} {owner : σ → κ} {owners : List σ} (one : (rows.map key).Nodup)
    (each : (owners.map owner).Nodup) (known : ∀ r ∈ rows, key r ∈ owners.map owner) (p : ρ → Bool) :
    (owners.countP fun o => rows.any fun r => decide (key r = owner o) && p r) = rows.countP p := by
  have same : ((owners.filter fun o => rows.any fun r => decide (key r = owner o) && p r).map owner).Perm
      ((rows.filter p).map key) := by
    refine (List.perm_ext_iff_of_nodup (each.sublist (List.filter_sublist.map owner))
      (one.sublist (List.filter_sublist.map key))).2 fun k => ?_
    simp only [List.mem_map, List.mem_filter, List.any_eq_true, Bool.and_eq_true, decide_eq_true_eq]
    constructor
    · rintro ⟨o, ⟨-, r, mem, of, holds⟩, rfl⟩
      exact ⟨r, ⟨mem, holds⟩, of⟩
    · rintro ⟨r, ⟨mem, holds⟩, rfl⟩
      obtain ⟨o, memO, of⟩ := List.mem_map.1 (known r mem)
      exact ⟨o, ⟨memO, r, mem, of.symm, holds⟩, of⟩
  rw [List.countP_eq_length_filter, List.countP_eq_length_filter]
  simpa using same.length_eq

/-- The counts of the groups. -/
theorem sum_groupBy : ((groupBy key List.length rows).map Prod.snd).sum = rows.length := by
  rw [groupBy, List.map_map]
  exact sum_axis (List.nodup_dedup _) fun r mem => List.mem_dedup.2 (List.mem_map_of_mem mem)

end

end MeadowOps.Lib
