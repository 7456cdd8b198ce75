import Mathlib.Data.List.Nodup
import Mathlib.Algebra.BigOperators.Group.List.Basic
import Mathlib.Algebra.Group.Int.Defs
import Mathlib.Tactic.Abel

/-!
# Tables with a primary key

A table is the list of its rows in insertion order. `Keyed key rows` is the primary-key
constraint, `lookup` fetches the row of a key, `modify` is an `UPDATE ... WHERE key = k`, and
`insert?` is an `INSERT` that the constraint may refuse.
-/

namespace MeadowOps.Lib

variable {ρ κ : Type} [DecidableEq κ] (key : ρ → κ)

/-- No two rows share a key. -/
def Keyed (rows : List ρ) : Prop := (rows.map key).Nodup

/-- The row with key `k`. -/
def lookup (k : κ) (rows : List ρ) : Option ρ := rows.find? (key · = k)

/-- `f` applied to the rows with key `k`. -/
def modify (k : κ) (f : ρ → ρ) (rows : List ρ) : List ρ :=
  rows.map fun r => if key r = k then f r else r

/-- Append `r`, unless its key is taken. -/
def insert? (r : ρ) (rows : List ρ) : Option (List ρ) :=
  if key r ∈ rows.map key then none else some (rows ++ [r])

variable {key}

theorem lookup_mem {k : κ} {rows : List ρ} {r : ρ} (h : lookup key k rows = some r) :
    r ∈ rows ∧ key r = k :=
  ⟨List.mem_of_find?_eq_some h, by simpa using List.find?_some h⟩

theorem lookup_of_mem {rows : List ρ} (hk : Keyed key rows) {r : ρ} (hr : r ∈ rows) :
    lookup key (key r) rows = some r := by
  cases hl : lookup key (key r) rows with
  | none =>
    have := List.find?_eq_none.1 hl r hr
    simp at this
  | some s =>
    obtain ⟨hs, he⟩ := lookup_mem hl
    rw [List.inj_on_of_nodup_map hk hs hr he]

/-- A key finds the same row after a change of all rows that keeps their keys. -/
theorem lookup_map {g : ρ → ρ} (hg : ∀ r, key (g r) = key r) (k : κ) (rows : List ρ) :
    lookup key k (rows.map g) = (lookup key k rows).map g := by
  rw [lookup, List.find?_map]
  congr 2
  funext r
  simp [hg]

/-- Tables whose rows are related one by one, with the same keys: a key finds related rows, or none. -/
theorem lookup_forall₂ {R : ρ → ρ → Prop} (same : ∀ r s, R r s → key r = key s) (k : κ)
    {rows rows' : List ρ} (h : List.Forall₂ R rows rows') :
    (lookup key k rows = none ∧ lookup key k rows' = none) ∨
      ∃ r s, R r s ∧ lookup key k rows = some r ∧ lookup key k rows' = some s := by
  induction h with
  | nil => exact .inl ⟨rfl, rfl⟩
  | @cons r s rows rows' related _ ih =>
    by_cases here : key r = k
    · have there : key s = k := same r s related ▸ here
      refine .inr ⟨r, s, related, ?_, ?_⟩
      · simp [lookup, here]
      · simp [lookup, there]
    · have notThere : key s ≠ k := same r s related ▸ here
      simpa [lookup, List.find?_cons, here, notThere] using ih

/-- At most one row has a key, so a key that is taken is taken once. -/
theorem Keyed.filter_length {rows : List ρ} (h : Keyed key rows) (k : κ) :
    (rows.filter fun r => key r = k).length = 1 ↔ ∃ r ∈ rows, key r = k := by
  have count : (rows.filter fun r => key r = k).length = (rows.map key).count k := by
    rw [List.count, List.countP_map, List.countP_eq_length_filter]
    congr 1
  rw [count, ← List.mem_map]
  constructor
  · intro one
    exact List.count_pos_iff.1 (one ▸ Nat.one_pos)
  · intro mem
    exact List.count_eq_one_of_mem h mem

/-- Only the row itself has its key. -/
theorem Keyed.filter_key {rows : List ρ} (h : Keyed key rows) {r : ρ} (hr : r ∈ rows) :
    rows.filter (key · = key r) = [r] := by
  have one := (h.filter_length (key r)).2 ⟨r, hr, rfl⟩
  obtain ⟨s, hs⟩ := List.length_eq_one_iff.1 one
  have here : r ∈ rows.filter (key · = key r) := List.mem_filter.2 ⟨hr, by simp⟩
  rw [hs, List.mem_singleton] at here
  rw [hs, here]

theorem mem_modify {k : κ} {f : ρ → ρ} {rows : List ρ} {r : ρ} :
    r ∈ modify key k f rows ↔ ∃ s ∈ rows, r = if key s = k then f s else s := by
  simp only [modify, List.mem_map, eq_comm]

/-- Rows of other keys stay. -/
theorem mem_modify_of_ne {k : κ} {f : ρ → ρ} {rows : List ρ} {r : ρ} (hr : r ∈ rows)
    (h : key r ≠ k) : r ∈ modify key k f rows :=
  mem_modify.2 ⟨r, hr, (if_neg h).symm⟩

/-- An update that keeps the key keeps the list of keys. -/
theorem map_key_modify {k : κ} {f : ρ → ρ} {rows : List ρ} (hf : ∀ r, key r = k → key (f r) = k) :
    (modify key k f rows).map key = rows.map key := by
  rw [modify, List.map_map]
  refine List.map_congr_left fun r _ => ?_
  by_cases h : key r = k
  · simp [h, hf r h]
  · simp [h]

theorem Keyed.modify {k : κ} {f : ρ → ρ} {rows : List ρ} (h : Keyed key rows)
    (hf : ∀ r, key r = k → key (f r) = k) : Keyed key (modify key k f rows) := by
  rw [Keyed, map_key_modify hf]
  exact h

/-- A property of every row survives an update of one row that has it. -/
theorem forall_modify {P : ρ → Prop} {k : κ} {f : ρ → ρ} {rows : List ρ} (h : ∀ r ∈ rows, P r)
    (hf : ∀ r ∈ rows, key r = k → P (f r)) : ∀ r ∈ modify key k f rows, P r := by
  intro r hr
  obtain ⟨s, hs, rfl⟩ := mem_modify.1 hr
  by_cases hk : key s = k
  · simpa [hk] using hf s hs hk
  · simpa [hk] using h s hs

/-- A filter that sees a row neither before nor after its update. -/
theorem filter_modify_of_not {k : κ} {f : ρ → ρ} {rows : List ρ} {p : ρ → Bool}
    (h : ∀ r ∈ rows, key r = k → p r = false ∧ p (f r) = false) :
    (modify key k f rows).filter p = rows.filter p := by
  induction rows with
  | nil => rfl
  | cons r rows ih =>
    have rest := ih fun s hs => h s (List.mem_cons_of_mem r hs)
    rw [modify] at rest
    rw [modify, List.map_cons, List.filter_cons, List.filter_cons, rest]
    by_cases same : key r = k
    · obtain ⟨before, after⟩ := h r (List.mem_cons_self ..) same
      simp [same, before, after]
    · simp [same]

/-- An update after which a row satisfies `p` only if it did before. -/
theorem countP_modify_le {k : κ} {f : ρ → ρ} {rows : List ρ} {p : ρ → Bool}
    (h : ∀ r ∈ rows, key r = k → p (f r) = true → p r = true) :
    (modify key k f rows).countP p ≤ rows.countP p := by
  rw [modify, List.countP_map]
  refine List.countP_mono_left fun r hr holds => ?_
  by_cases same : key r = k
  · exact h r hr same (by simpa [same] using holds)
  · simpa [same] using holds

/-- Updates made one after another act on each row by itself. -/
theorem foldl_modify {ε : Type} (k : ε → κ) (f : ε → ρ → ρ) (es : List ε) (rows : List ρ) :
    es.foldl (fun rows e => modify key (k e) (f e) rows) rows =
      rows.map fun r => es.foldl (fun r e => if key r = k e then f e r else r) r := by
  induction es generalizing rows with
  | nil => simp
  | cons e es ih =>
    rw [List.foldl_cons, ih, modify, List.map_map]
    rfl

/-- At most one of the updates, all of distinct keys, concerns a row. -/
theorem foldl_row {ε : Type} {k : ε → κ} {f : ε → ρ → ρ} (hf : ∀ e r, key (f e r) = key r)
    {es : List ε} (nodup : (es.map k).Nodup) (r : ρ) :
    es.foldl (fun r e => if key r = k e then f e r else r) r =
      (es.find? (k · = key r)).elim r fun e => f e r := by
  induction es generalizing r with
  | nil => rfl
  | cons e es ih =>
    obtain ⟨fresh, nodup⟩ := List.nodup_cons.1 nodup
    rw [List.foldl_cons, List.find?_cons]
    by_cases same : key r = k e
    · have rest : es.find? (k · = key r) = none := by
        rw [List.find?_eq_none]
        intro e' he' h
        apply fresh
        rw [← same, ← of_decide_eq_true h]
        exact List.mem_map_of_mem he'
      rw [if_pos same, ih nodup, hf, rest, decide_eq_true same.symm]
      rfl
    · rw [if_neg same, ih nodup, decide_eq_false (Ne.symm same)]

variable (key) in
/-- Updates of distinct keys: each row gets the one that names it. -/
theorem foldl_modify_of_nodup {ε : Type} (k : ε → κ) (f : ε → ρ → ρ)
    (hf : ∀ e r, key (f e r) = key r) {es : List ε} (nodup : (es.map k).Nodup) (rows : List ρ) :
    es.foldl (fun rows e => modify key (k e) (f e) rows) rows =
      rows.map fun r => (es.find? (k · = key r)).elim r fun e => f e r := by
  rw [foldl_modify]
  exact List.map_congr_left fun r _ => foldl_row hf nodup r

/-- An update for an absent key changes nothing. -/
theorem modify_of_notMem {k : κ} {f : ρ → ρ} {rows : List ρ} (h : k ∉ rows.map key) :
    modify key k f rows = rows := by
  have same : ∀ r ∈ rows, (if key r = k then f r else r) = r := by
    intro r hr
    refine if_neg fun he => h ?_
    rw [← he]
    exact List.mem_map_of_mem hr
  rw [modify, List.map_congr_left same, List.map_id']

theorem modify_congr {k : κ} {f g : ρ → ρ} {rows : List ρ} (h : ∀ r ∈ rows, key r = k → f r = g r) :
    modify key k f rows = modify key k g rows := by
  apply List.map_congr_left
  intro r hr
  by_cases same : key r = k
  · rw [if_pos same, if_pos same, h r hr same]
  · rw [if_neg same, if_neg same]

/-- Only the row with the key matters. -/
theorem Keyed.modify_row {f g : ρ → ρ} {rows : List ρ} (h : Keyed key rows) {r : ρ} (hr : r ∈ rows)
    (same : f r = g r) : Lib.modify key (key r) f rows = Lib.modify key (key r) g rows := by
  apply modify_congr
  intro s hs hk
  rw [List.inj_on_of_nodup_map h hs hr hk, same]

/-- An update that leaves the row as it is. -/
theorem Keyed.modify_stays {f : ρ → ρ} {rows : List ρ} (h : Keyed key rows) {r : ρ} (hr : r ∈ rows)
    (stays : f r = r) : Lib.modify key (key r) f rows = rows := by
  rw [h.modify_row hr (g := id) stays, Lib.modify]
  simp

/-- A property of every row survives an update of one row by what it makes of that row. -/
theorem Keyed.forall_modify {P : ρ → Prop} {f : ρ → ρ} {rows : List ρ} (hk : Keyed key rows)
    (h : ∀ r ∈ rows, P r) {r : ρ} (hr : r ∈ rows) (step : P (f r)) :
    ∀ s ∈ Lib.modify key (key r) f rows, P s :=
  Lib.forall_modify h fun s hs same => by rwa [List.inj_on_of_nodup_map hk hs hr same]

/-- A total over all rows moves by the change of the one row that is updated. -/
theorem sum_map_modify {M : Type} [AddCommGroup M] {g : ρ → M} {rows : List ρ} (hk : Keyed key rows)
    {r : ρ} (hr : r ∈ rows) (f : ρ → ρ) :
    ((modify key (key r) f rows).map g).sum = (rows.map g).sum - g r + g (f r) := by
  induction rows with
  | nil => cases hr
  | cons s rows ih =>
    obtain ⟨hs, hrest⟩ := List.nodup_cons.1 hk
    rcases List.mem_cons.1 hr with rfl | hr
    · have same := modify_of_notMem (f := f) hs
      simp only [Lib.modify] at same
      simp only [Lib.modify, List.map_cons, if_true, same, List.sum_cons]
      abel
    · have ne : key s ≠ key r := fun he => hs (he ▸ List.mem_map_of_mem hr)
      have rest := ih hrest hr
      simp only [Lib.modify] at rest
      simp only [Lib.modify, List.map_cons, if_neg ne, List.sum_cons, rest]
      abel

theorem insert?_eq_some {r : ρ} {rows rows' : List ρ} (h : insert? key r rows = some rows') :
    rows' = rows ++ [r] ∧ key r ∉ rows.map key := by
  rw [insert?] at h
  split at h
  · cases h
  · exact ⟨(Option.some.inj h).symm, ‹_›⟩

omit [DecidableEq κ] in
theorem Keyed.append {r : ρ} {rows : List ρ} (h : Keyed key rows) (hr : key r ∉ rows.map key) :
    Keyed key (rows ++ [r]) := by
  rw [Keyed, List.map_append, List.nodup_append]
  refine ⟨h, by simp, ?_⟩
  rintro a ha b hb rfl
  rw [List.map_singleton, List.mem_singleton] at hb
  exact hr (hb ▸ ha)

/-! ## Tables that grow -/

/-- A lookup by a key that finds nothing. -/
theorem key_fresh {k : κ} {rows : List ρ} (h : ¬ (lookup key k rows).isSome = true) : k ∉ rows.map key := by
  intro mem
  obtain ⟨r, memR, same⟩ := List.mem_map.1 mem
  rw [lookup, List.find?_isSome] at h
  exact h ⟨r, memR, decide_eq_true same⟩

theorem lookup_append_of_notMem {rows : List ρ} {r : ρ} (h : key r ∉ rows.map key) :
    lookup key (key r) (rows ++ [r]) = some r := by
  rw [lookup, List.find?_append, Option.or_eq_some_iff]
  refine .inr ⟨?_, by simp⟩
  rw [List.find?_eq_none]
  intro s mem same
  exact h (List.mem_map.2 ⟨s, mem, of_decide_eq_true same⟩)

/-- A row that is found stays so. -/
theorem lookup_kept {rows rows' : List ρ} {k : κ} {r : ρ} (more : rows <+: rows')
    (found : lookup key k rows = some r) : lookup key k rows' = some r := by
  obtain ⟨rest, rfl⟩ := more
  rw [lookup, List.find?_append, show rows.find? _ = some r from found]
  rfl

theorem found_or_none {α : Type} {rows rows' : List ρ} (k : κ) (f : ρ → α) (more : rows <+: rows') :
    (lookup key k rows).map f = none ∨ (lookup key k rows').map f = (lookup key k rows).map f := by
  cases found : lookup key k rows with
  | none => exact .inl rfl
  | some r => exact .inr (congrArg (Option.map f) (lookup_kept more found))

/-! ## INSERT ... ON CONFLICT DO UPDATE -/

/-- The row replaces the one with its key, or is appended. -/
def upsert (key : ρ → κ) (rows : List ρ) (r : ρ) : List ρ :=
  if key r ∈ rows.map key then Lib.modify key (key r) (fun _ => r) rows else rows ++ [r]

/-- One row after another. -/
def upsertAll (key : ρ → κ) (values rows : List ρ) : List ρ := values.foldl (upsert key) rows

theorem Keyed.upsert {rows : List ρ} (h : Keyed key rows) (r : ρ) : Keyed key (upsert key rows r) := by
  unfold Lib.upsert
  split <;> rename_i taken
  · exact h.modify fun _ _ => rfl
  · exact h.append taken

theorem mem_upsert {rows : List ρ} {r s : ρ} :
    s ∈ upsert key rows r ↔ s = r ∨ s ∈ rows ∧ key s ≠ key r := by
  unfold upsert
  split <;> rename_i taken
  · rw [mem_modify]
    constructor
    · rintro ⟨s', mem, rfl⟩
      by_cases same : key s' = key r
      · rw [if_pos same]
        exact .inl rfl
      · rw [if_neg same]
        exact .inr ⟨mem, same⟩
    · rintro (rfl | ⟨mem, other⟩)
      · obtain ⟨s', mem, same⟩ := List.mem_map.1 taken
        exact ⟨s', mem, (if_pos same).symm⟩
      · exact ⟨s, mem, (if_neg other).symm⟩
  · rw [List.mem_append, List.mem_singleton]
    constructor
    · rintro (mem | rfl)
      · exact .inr ⟨mem, fun same => taken (same ▸ List.mem_map_of_mem mem)⟩
      · exact .inl rfl
    · rintro (rfl | ⟨mem, -⟩)
      · exact .inr rfl
      · exact .inl mem

theorem Keyed.upsertAll {values rows : List ρ} (h : Keyed key rows) : Keyed key (upsertAll key values rows) := by
  induction values generalizing rows with
  | nil => exact h
  | cons r values ih => exact ih (h.upsert r)

theorem mem_map_key_upsertAll {values rows : List ρ} {k : κ} :
    k ∈ (upsertAll key values rows).map key ↔ k ∈ values.map key ∨ k ∈ rows.map key := by
  induction values generalizing rows with
  | nil => simp [upsertAll]
  | cons r values ih =>
    have here : k ∈ (upsert key rows r).map key ↔ k = key r ∨ k ∈ rows.map key := by
      simp only [List.mem_map, mem_upsert]
      constructor
      · rintro ⟨s, rfl | ⟨mem, -⟩, rfl⟩
        · exact .inl rfl
        · exact .inr ⟨s, mem, rfl⟩
      · rintro (rfl | ⟨s, mem, rfl⟩)
        · exact ⟨r, .inl rfl, rfl⟩
        · by_cases same : key s = key r
          · exact ⟨r, .inl rfl, same.symm⟩
          · exact ⟨s, .inr ⟨mem, same⟩, rfl⟩
    have rest := @ih (upsert key rows r)
    rw [here] at rest
    rw [upsertAll, List.foldl_cons, List.map_cons, List.mem_cons]
    tauto

/-- A row of another key stays. -/
theorem mem_upsertAll_of_other {values rows : List ρ} {s : ρ} (h : s ∈ rows) (other : key s ∉ values.map key) :
    s ∈ upsertAll key values rows := by
  induction values generalizing rows with
  | nil => exact h
  | cons r values ih =>
    rw [List.map_cons, List.mem_cons, not_or] at other
    exact ih (mem_upsert.2 (.inr ⟨h, other.1⟩)) other.2

/-- Values with distinct keys are all there, and the rows of other keys. -/
theorem mem_upsertAll {values rows : List ρ} (distinct : Keyed key values) {s : ρ} :
    s ∈ upsertAll key values rows ↔ s ∈ values ∨ s ∈ rows ∧ key s ∉ values.map key := by
  induction values generalizing rows with
  | nil => simp [upsertAll]
  | cons r values ih =>
    obtain ⟨fresh, distinct⟩ := List.nodup_cons.1 distinct
    have rest : s ∈ upsertAll key values (upsert key rows r) ↔
        s ∈ values ∨ s ∈ upsert key rows r ∧ key s ∉ values.map key := ih distinct
    rw [mem_upsert] at rest
    have last : s = r → key s ∉ values.map key := by
      rintro rfl
      exact fresh
    rw [upsertAll, List.foldl_cons, List.mem_cons, List.map_cons, List.mem_cons, not_or]
    tauto

/-- A filter that sees no row of the values' keys. -/
theorem filter_upsertAll_of_not {values rows : List ρ} {p : ρ → Bool}
    (unseen : ∀ v ∈ values, ∀ r, key r = key v → p r = false) :
    (upsertAll key values rows).filter p = rows.filter p := by
  induction values generalizing rows with
  | nil => rfl
  | cons v values ih =>
    have here := unseen v List.mem_cons_self
    have one : (upsert key rows v).filter p = rows.filter p := by
      unfold upsert
      split
      · exact filter_modify_of_not fun r _ same => ⟨here r same, here v rfl⟩
      · rw [List.filter_append, List.filter_singleton, here v rfl]
        exact List.append_nil _
    rw [upsertAll, List.foldl_cons, ← one]
    exact ih fun w mem => unseen w (List.mem_cons_of_mem _ mem)

/-! ## Tables that change row by row -/

/-- Every row makes a step `R` and keeps its key; the other rows are new. -/
structure RowSteps (key : ρ → κ) (R : ρ → ρ → Prop) (New : ρ → Prop) (before after : List ρ) : Prop where
  forth : ∀ r ∈ before, ∃ s ∈ after, key s = key r ∧ R r s
  back : ∀ s ∈ after, (New s ∧ key s ∉ before.map key) ∨ ∃ r ∈ before, key s = key r ∧ R r s
  keyed : Keyed key after

namespace RowSteps

variable {R : ρ → ρ → Prop} {New : ρ → Prop} {before after : List ρ}

omit [DecidableEq κ] in
theorem refl (refl : ∀ r, R r r) (h : Keyed key before) : RowSteps key R New before before where
  forth r hr := ⟨r, hr, rfl, refl r⟩
  back s hs := .inr ⟨s, hs, rfl, refl s⟩
  keyed := h

/-- One row is updated. -/
theorem modify (refl : ∀ r, R r r) (h : Keyed key before) {r : ρ} (hr : r ∈ before) {f : ρ → ρ}
    (same : ∀ s, key (f s) = key s) (step : R r (f r)) :
    RowSteps key R New before (Lib.modify key (key r) f before) where
  forth := by
    intro s hs
    by_cases this : key s = key r
    · obtain rfl := List.inj_on_of_nodup_map h hs hr this
      exact ⟨f s, mem_modify.2 ⟨s, hs, (if_pos rfl).symm⟩, same s, step⟩
    · exact ⟨s, mem_modify_of_ne hs this, rfl, refl s⟩
  back := by
    intro s hs
    obtain ⟨old, hold, rfl⟩ := mem_modify.1 hs
    by_cases this : key old = key r
    · obtain rfl := List.inj_on_of_nodup_map h hold hr this
      rw [if_pos rfl]
      exact .inr ⟨old, hold, same old, step⟩
    · rw [if_neg this]
      exact .inr ⟨old, hold, rfl, refl old⟩
  keyed := Keyed.modify h fun s hs => (same s).trans hs

omit [DecidableEq κ] in
/-- One row is inserted. -/
theorem append (refl : ∀ r, R r r) (h : Keyed key before) {r : ρ} (new : New r)
    (fresh : key r ∉ before.map key) : RowSteps key R New before (before ++ [r]) where
  forth s hs := ⟨s, List.mem_append_left _ hs, rfl, refl s⟩
  back := by
    intro s hs
    rcases List.mem_append.1 hs with old | added
    · exact .inr ⟨s, old, rfl, refl s⟩
    · rw [List.mem_singleton.1 added]
      exact .inl ⟨new, fresh⟩
  keyed := h.append fresh

omit [DecidableEq κ] in
omit [DecidableEq κ] in
/-- What a table shows after two changes. -/
theorem trans {last : List ρ} (trans : ∀ r s t, R r s → R s t → R r t) (kept : ∀ s t, New s → R s t → New t)
    (h : RowSteps key R New before after) (h' : RowSteps key R New after last) :
    RowSteps key R New before last where
  forth := by
    intro r hr
    obtain ⟨s, hs, key_s, first⟩ := h.forth r hr
    obtain ⟨t, ht, key_t, second⟩ := h'.forth s hs
    exact ⟨t, ht, key_t.trans key_s, trans _ _ _ first second⟩
  back := by
    intro t ht
    rcases h'.back t ht with ⟨new, fresh⟩ | ⟨s, hs, key_t, second⟩
    · refine .inl ⟨new, fun mem => fresh ?_⟩
      obtain ⟨r, hr, key_r⟩ := List.mem_map.1 mem
      obtain ⟨s, hs, key_s, -⟩ := h.forth r hr
      exact List.mem_map.2 ⟨s, hs, key_s.trans key_r⟩
    · rcases h.back s hs with ⟨new, fresh⟩ | ⟨r, hr, key_s, first⟩
      · exact .inl ⟨kept s t new second, key_t ▸ fresh⟩
      · exact .inr ⟨r, hr, key_t.trans key_s, trans _ _ _ first second⟩
  keyed := h'.keyed

end RowSteps

end MeadowOps.Lib
