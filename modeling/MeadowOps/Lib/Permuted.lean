import MeadowOps.Lib.Table
import MeadowOps.Lib.RowSum
import MeadowOps.Lib.Numeric
import Mathlib.Data.List.Perm.Basic
import Mathlib.Data.List.Sort
import Mathlib.Data.String.Basic
import Mathlib.Logic.Equiv.Basic

/-!
# Tables up to the order of their rows

`SameVia view rows rows'`: the same rows in some order, as far as `view` shows them. What is computed
row by row, summed or tested respects it. `updateAll` and `Fresh` describe the two loops over a table
whose effect the order of the iterations does not change: updates of rows loaded beforehand, each by
itself, and inserts under a key.
-/

namespace MeadowOps.Lib

variable {ρ ν μ κ : Type}

/-! ## Rows related one by one -/

section
variable {α : Type} {R : α → ρ → Prop} {as : List α} {rows : List ρ}

theorem forall₂_mem (h : List.Forall₂ R as rows) :
    List.Forall₂ (fun a r => a ∈ as ∧ r ∈ rows ∧ R a r) as rows := by
  induction h with
  | nil => exact .nil
  | cons head _ ih =>
    refine .cons ⟨List.mem_cons_self, List.mem_cons_self, head⟩ (ih.imp fun a r here => ?_)
    obtain ⟨ha, hr, related⟩ := here
    exact ⟨List.mem_cons_of_mem _ ha, List.mem_cons_of_mem _ hr, related⟩

theorem forall₂_trans {R : ρ → ρ → Prop} (trans : ∀ r s t, R r s → R s t → R r t) {before mid after : List ρ}
    (h : List.Forall₂ R before mid) (h' : List.Forall₂ R mid after) : List.Forall₂ R before after := by
  induction h generalizing after with
  | nil => exact h'
  | cons first _ ih =>
    cases h' with
    | cons second rest => exact .cons (trans _ _ _ first second) (ih rest)

theorem map_eq_of_forall₂ {f : α → μ} {g : ρ → μ} (h : List.Forall₂ R as rows)
    (same : ∀ a ∈ as, ∀ r ∈ rows, R a r → f a = g r) : as.map f = rows.map g := by
  rw [← List.forall₂_eq_eq_eq, List.forall₂_map_left_iff, List.forall₂_map_right_iff]
  refine (forall₂_mem h).imp fun a r here => ?_
  obtain ⟨ha, hr, related⟩ := here
  exact same a ha r hr related

/-- An update of a row keeps the relation where it keeps it for that row. -/
theorem forall₂_modify [DecidableEq κ] {key : ρ → κ} {k : κ} {f : ρ → ρ} (h : List.Forall₂ R as rows)
    (step : ∀ a ∈ as, ∀ r ∈ rows, R a r → key r = k → R a (f r)) :
    List.Forall₂ R as (Lib.modify key k f rows) := by
  rw [Lib.modify, List.forall₂_map_right_iff]
  refine (forall₂_mem h).imp fun a r both => ?_
  obtain ⟨ha, hr, related⟩ := both
  split <;> rename_i here
  · exact step a ha r hr related here
  · exact related

end

/-- Two rows that change places leave the rows the same. -/
theorem map_swap_perm [DecidableEq ρ] {a b : ρ} {rows : List ρ} (distinct : rows.Nodup) (ha : a ∈ rows)
    (hb : b ∈ rows) : (rows.map (Equiv.swap a b)).Perm rows := by
  rw [List.perm_ext_iff_of_nodup (distinct.map (Equiv.swap a b).injective) distinct]
  intro c
  rw [← Equiv.swap_apply_self a b c, List.mem_map_of_injective (Equiv.swap a b).injective]
  by_cases isA : c = a
  · simp [isA, ha, hb]
  · by_cases isB : c = b
    · simp [isB, ha, hb]
    · simp [Equiv.swap_apply_of_ne_of_ne isA isB]

/-! ## The same rows -/

/-- The same rows in some order, as far as `view` shows them. -/
def SameVia (view : ρ → ν) (rows rows' : List ρ) : Prop := (rows.map view).Perm (rows'.map view)

namespace SameVia
variable {view : ρ → ν} {rows rows' : List ρ}

theorem refl (rows : List ρ) : SameVia view rows rows := List.Perm.refl _

theorem trans {rows'' : List ρ} (h : SameVia view rows rows') (h' : SameVia view rows' rows'') :
    SameVia view rows rows'' :=
  List.Perm.trans h h'

theorem of_perm (h : rows.Perm rows') : SameVia view rows rows' := h.map view

/-- A reordering of `rows'` shows the same as `rows`, row by row. -/
theorem paired (h : SameVia view rows rows') :
    ∃ mid, mid.Perm rows' ∧ List.Forall₂ (fun r r' => view r = view r') rows mid := by
  have shown : List.Forall₂ (fun v r => v = view r) (rows'.map view) rows' := by
    rw [List.forall₂_map_left_iff]
    exact List.forall₂_same.2 fun _ _ => rfl
  obtain ⟨mid, pairs, perm⟩ := List.perm_comp_forall₂ h shown
  rw [List.forall₂_map_left_iff] at pairs
  exact ⟨mid, perm, pairs⟩

/-- What a view determines is the same over the rows. -/
theorem map_perm {f f' : ρ → μ} (h : SameVia view rows rows')
    (agree : ∀ r r', view r = view r' → f r = f' r') : (rows.map f).Perm (rows'.map f') := by
  obtain ⟨mid, perm, pairs⟩ := h.paired
  rw [map_eq_of_forall₂ pairs fun r _ r' _ => agree r r']
  exact perm.map f'

theorem map {f f' : ρ → ρ} (h : SameVia view rows rows')
    (agree : ∀ r r', view r = view r' → view (f r) = view (f' r')) :
    SameVia view (rows.map f) (rows'.map f') := by
  rw [SameVia, List.map_map, List.map_map]
  exact h.map_perm agree

theorem filter {p p' : ρ → Bool} (h : SameVia view rows rows')
    (agree : ∀ r r', view r = view r' → p r = p' r') :
    SameVia view (rows.filter p) (rows'.filter p') := by
  obtain ⟨mid, perm, pairs⟩ := h.paired
  have same : (rows.filter p).map view = (mid.filter p').map view := by
    clear h perm
    induction pairs with
    | nil => rfl
    | cons head _ ih =>
      rw [List.filter_cons, List.filter_cons, ← agree _ _ head]
      split
      · rw [List.map_cons, List.map_cons, head, ih]
      · exact ih
  rw [SameVia, same]
  exact (perm.filter p').map view

theorem flatMap {f f' : ρ → List μ} (h : SameVia view rows rows')
    (agree : ∀ r r', view r = view r' → (f r).Perm (f' r')) :
    (rows.flatMap f).Perm (rows'.flatMap f') := by
  obtain ⟨mid, perm, pairs⟩ := h.paired
  have same : (rows.flatMap f).Perm (mid.flatMap f') := by
    clear h perm
    induction pairs with
    | nil => exact .refl _
    | cons head _ ih =>
      rw [List.flatMap_cons, List.flatMap_cons]
      exact (agree _ _ head).append ih
  exact same.trans (perm.flatMap_right f')

theorem append {more more' : List ρ} (h : SameVia view rows rows') (h' : SameVia view more more') :
    SameVia view (rows ++ more) (rows' ++ more') := by
  rw [SameVia, List.map_append, List.map_append]
  exact List.Perm.append h h'

theorem any {p p' : ρ → Bool} (h : SameVia view rows rows')
    (agree : ∀ r r', view r = view r' → p r = p' r') : rows.any p = rows'.any p' := by
  have perm := (h.map_perm agree).any_eq (f := id)
  rwa [List.any_map, List.any_map] at perm

theorem sumWhere {M : Type} [AddCommMonoid M] {p p' : ρ → Prop} [DecidablePred p] [DecidablePred p']
    {g g' : ρ → M} (h : SameVia view rows rows')
    (agree : ∀ r r', view r = view r' → (if p r then g r else 0) = if p' r' then g' r' else 0) :
    sumWhere p g rows = Lib.sumWhere p' g' rows' := by
  rw [sumWhere_eq_sum, sumWhere_eq_sum]
  exact (h.map_perm agree).sum_eq

/-- A key that the view shows stays unique. -/
theorem keyed {key : ρ → κ} (h : SameVia view rows rows') (hk : Keyed key rows)
    (agree : ∀ r r', view r = view r' → key r = key r') : Keyed key rows' :=
  (h.map_perm agree).nodup_iff.1 hk

end SameVia

/-! ## Updates of loaded rows -/

section
variable [DecidableEq κ] (key : ρ → κ) (f : ρ → ρ)

/-- The rows of `done` updated, one after another. -/
def updateAll (done rows : List ρ) : List ρ :=
  done.foldl (fun rows r => modify key (key r) f rows) rows

@[simp] theorem updateAll_nil (rows : List ρ) : updateAll key f [] rows = rows := rfl

theorem updateAll_append_singleton (done rows : List ρ) (r : ρ) :
    updateAll key f (done ++ [r]) rows = modify key (key r) f (updateAll key f done rows) := by
  rw [updateAll, List.foldl_append]
  rfl

variable {key f}

theorem keyed_updateAll (hf : ∀ r, key (f r) = key r) {rows : List ρ} (h : Keyed key rows)
    (done : List ρ) : Keyed key (updateAll key f done rows) := by
  induction done using List.reverseRecOn with
  | nil => exact h
  | append_singleton done r ih =>
    rw [updateAll_append_singleton]
    exact ih.modify fun s same => (hf s).trans same

/-- A row whose turn has not come is as it was loaded. -/
theorem mem_updateAll {rows done : List ρ} {r : ρ} (hr : r ∈ rows) (later : key r ∉ done.map key) :
    r ∈ updateAll key f done rows := by
  induction done using List.reverseRecOn with
  | nil => exact hr
  | append_singleton done s ih =>
    rw [List.map_append, List.mem_append, not_or] at later
    rw [updateAll_append_singleton]
    exact mem_modify_of_ne (ih later.1) fun same => later.2 (by simp [same])

/-- All the rows that satisfy `p`, updated in any order. -/
theorem updateAll_eq_map (hf : ∀ r, key (f r) = key r) {rows done : List ρ} {p : ρ → Bool}
    (h : Keyed key rows) (loaded : done.Perm (rows.filter p)) :
    updateAll key f done rows = rows.map fun r => if p r then f r else r := by
  have distinct : (done.map key).Nodup :=
    (loaded.map key).nodup_iff.2 (List.Nodup.sublist (List.filter_sublist.map key) h)
  rw [updateAll, foldl_modify_of_nodup key key (fun _ => f) (fun _ => hf) distinct]
  refine List.map_congr_left fun r hr => ?_
  cases found : done.find? (key · = key r) with
  | none =>
    rw [List.find?_eq_none] at found
    have skipped : p r = false := by
      by_contra selected
      have here : r ∈ done := loaded.mem_iff.2 (by simpa [hr] using selected)
      exact found r here (decide_eq_true rfl)
    rw [skipped]
    rfl
  | some s =>
    have hs := List.mem_filter.1 (loaded.mem_iff.1 (List.mem_of_find?_eq_some found))
    have same : key s = key r := by simpa using List.find?_some found
    obtain rfl := List.inj_on_of_nodup_map h hs.1 hr same
    rw [hs.2]
    rfl

end

/-! ## Inserts under a key -/

/-- Rows that the key lets in, one after another. -/
structure Fresh (key : ρ → κ) (rows new : List ρ) : Prop where
  distinct : (new.map key).Nodup
  disjoint : ∀ r ∈ new, key r ∉ rows.map key

namespace Fresh
variable {key : ρ → κ} {rows new : List ρ}

theorem nil (rows : List ρ) : Fresh key rows [] :=
  ⟨List.nodup_nil, fun _ mem => absurd mem List.not_mem_nil⟩

theorem initial {rest : List ρ} (h : Fresh key rows (new ++ rest)) : Fresh key rows new := by
  refine ⟨?_, fun r hr => h.disjoint r (List.mem_append_left _ hr)⟩
  have distinct := h.distinct
  rw [List.map_append] at distinct
  exact distinct.of_append_left

/-- In two parts, the first of which is in the table when the second comes. -/
theorem append {more : List ρ} :
    Fresh key rows (new ++ more) ↔ Fresh key rows new ∧ Fresh key (rows ++ new) more := by
  constructor
  · intro h
    have distinct := h.distinct
    rw [List.map_append, List.nodup_append] at distinct
    refine ⟨h.initial, distinct.2.1, fun r hr taken => ?_⟩
    rw [List.map_append, List.mem_append] at taken
    rcases taken with taken | taken
    · exact h.disjoint r (List.mem_append_right _ hr) taken
    · exact distinct.2.2 (key r) taken (key r) (List.mem_map_of_mem hr) rfl
  · rintro ⟨h, h'⟩
    constructor
    · rw [List.map_append, List.nodup_append]
      refine ⟨h.distinct, h'.distinct, fun a ha b hb same => ?_⟩
      obtain ⟨r, hr, rfl⟩ := List.mem_map.1 hb
      refine h'.disjoint r hr ?_
      rw [List.map_append]
      exact List.mem_append_right _ (same ▸ ha)
    · intro s hs
      rcases List.mem_append.1 hs with hs | hs
      · exact h.disjoint s hs
      · have free := h'.disjoint s hs
        rw [List.map_append, List.mem_append, not_or] at free
        exact free.1

theorem singleton {r : ρ} : Fresh key rows [r] ↔ key r ∉ rows.map key := by
  constructor
  · exact fun h => h.disjoint r List.mem_cons_self
  · intro free
    refine ⟨List.nodup_singleton _, fun s hs => ?_⟩
    rw [List.mem_singleton.1 hs]
    exact free

theorem keyed (h : Fresh key rows new) (hk : Keyed key rows) : Keyed key (rows ++ new) := by
  rw [Keyed, List.map_append, List.nodup_append]
  refine ⟨hk, h.distinct, fun a ha b hb same => ?_⟩
  obtain ⟨r, hr, rfl⟩ := List.mem_map.1 hb
  exact h.disjoint r hr (same ▸ ha)

/-- Freshness is about the keys. -/
theorem of_keys {rows' new' : List ρ} (h : Fresh key rows new) (keys : (rows.map key).Perm (rows'.map key))
    (newKeys : (new.map key).Perm (new'.map key)) : Fresh key rows' new' := by
  refine ⟨newKeys.nodup_iff.1 h.distinct, fun r mem taken => ?_⟩
  obtain ⟨s, hs, same⟩ := List.mem_map.1 (newKeys.mem_iff.2 (List.mem_map_of_mem mem))
  exact h.disjoint s hs (same ▸ keys.mem_iff.2 taken)

/-- Freshness does not depend on an order. -/
theorem perm {rows' new' : List ρ} (h : Fresh key rows new) (keys : (rows.map key).Perm (rows'.map key))
    (hnew : new.Perm new') : Fresh key rows' new' :=
  h.of_keys keys (hnew.map key)

end Fresh

/-- One more insert: refused when the rows are no longer fresh. -/
theorem Fresh.insert?_cases [DecidableEq κ] {key : ρ → κ} {rows new : List ρ} (h : Fresh key rows new)
    (r : ρ) :
    (insert? key r (rows ++ new) = none ∧ ¬ Fresh key rows (new ++ [r])) ∨
      (insert? key r (rows ++ new) = some (rows ++ (new ++ [r])) ∧ Fresh key rows (new ++ [r])) := by
  rw [insert?, List.append_assoc]
  by_cases taken : key r ∈ (rows ++ new).map key
  · exact .inl ⟨if_pos taken, fun fresh => Fresh.singleton.1 (Fresh.append.1 fresh).2 taken⟩
  · exact .inr ⟨if_neg taken, Fresh.append.2 ⟨h, Fresh.singleton.2 taken⟩⟩

/-- Rows that both a primary key and a unique number let in. -/
structure Admitted (key : ρ → κ) (number : ρ → ν) (rows new : List ρ) : Prop where
  byKey : Fresh key rows new
  byNumber : Fresh number rows new

namespace Admitted
variable {key : ρ → κ} {number : ρ → ν} {rows new : List ρ}

theorem nil (rows : List ρ) : Admitted key number rows [] := ⟨Fresh.nil rows, Fresh.nil rows⟩

theorem initial {rest : List ρ} (h : Admitted key number rows (new ++ rest)) : Admitted key number rows new :=
  ⟨h.byKey.initial, h.byNumber.initial⟩

theorem of_keys {rows' new' : List ρ} (h : Admitted key number rows new)
    (keys : (rows.map key).Perm (rows'.map key)) (numbers : (rows.map number).Perm (rows'.map number))
    (newKeys : (new.map key).Perm (new'.map key)) (newNumbers : (new.map number).Perm (new'.map number)) :
    Admitted key number rows' new' :=
  ⟨h.byKey.of_keys keys newKeys, h.byNumber.of_keys numbers newNumbers⟩

theorem perm {rows' new' : List ρ} (h : Admitted key number rows new)
    (keys : (rows.map key).Perm (rows'.map key)) (numbers : (rows.map number).Perm (rows'.map number))
    (hnew : new.Perm new') : Admitted key number rows' new' :=
  h.of_keys keys numbers (hnew.map key) (hnew.map number)

theorem insert?_cases [DecidableEq κ] [DecidableEq ν] (h : Admitted key number rows new) (r : ρ) :
    ((if number r ∈ (rows ++ new).map number then none else insert? key r (rows ++ new)) = none ∧
        ¬ Admitted key number rows (new ++ [r])) ∨
      ((if number r ∈ (rows ++ new).map number then none else insert? key r (rows ++ new)) =
        some (rows ++ (new ++ [r])) ∧ Admitted key number rows (new ++ [r])) := by
  by_cases taken : number r ∈ (rows ++ new).map number
  · left
    rw [if_pos taken]
    exact ⟨rfl, fun all => Fresh.singleton.1 (Fresh.append.1 all.byNumber).2 taken⟩
  · rw [if_neg taken]
    have free : Fresh number rows (new ++ [r]) :=
      Fresh.append.2 ⟨h.byNumber, Fresh.singleton.2 taken⟩
    rcases h.byKey.insert?_cases r with ⟨refused, clash⟩ | ⟨inserted, fresh⟩
    · exact .inl ⟨refused, fun all => clash all.byKey⟩
    · exact .inr ⟨inserted, fresh, free⟩

end Admitted

/-! ## The least of a set of rows -/

theorem foldl_min_le {k : ρ → String} (l : List ρ) (a : ρ) :
    ∀ b ∈ a :: l, k (l.foldl (fun best b => if decide (k b < k best) then b else best) a) ≤ k b := by
  induction l generalizing a with
  | nil =>
    intro b hb
    rw [List.mem_singleton.1 hb]
    exact le_refl _
  | cons c l ih =>
    intro b hb
    rw [List.foldl_cons]
    by_cases less : k c < k a
    · rw [decide_eq_true less]
      rcases List.mem_cons.1 hb with rfl | hb
      · exact (ih c c List.mem_cons_self).trans less.le
      · exact ih c b hb
    · rw [decide_eq_false less]
      rcases List.mem_cons.1 hb with rfl | hb
      · exact ih b b List.mem_cons_self
      · rcases List.mem_cons.1 hb with rfl | hb
        · exact (ih a a List.mem_cons_self).trans (not_lt.1 less)
        · exact ih a b (List.mem_cons_of_mem _ hb)

/-- Of rows with distinct keys, the least does not depend on their order. -/
theorem firstMin_perm {k : ρ → String} {l l' : List ρ} (h : l.Perm l') (distinct : (l.map k).Nodup) :
    firstMin (fun a b => decide (k a < k b)) l = firstMin (fun a b => decide (k a < k b)) l' := by
  cases l with
  | nil => rw [h.symm.eq_nil]
  | cons a l =>
    cases l' with
    | nil => cases h.eq_nil
    | cons b l' =>
      have mem := h.mem_iff.2 (foldl_min_mem (fun a b => decide (k a < k b)) l' b)
      have mem' := h.mem_iff.1 (foldl_min_mem (fun a b => decide (k a < k b)) l a)
      have le := foldl_min_le (k := k) l a _ mem
      have ge := foldl_min_le (k := k) l' b _ mem'
      rw [firstMin, firstMin, List.inj_on_of_nodup_map distinct (foldl_min_mem _ l a) mem
        (le_antisymm le ge)]

/-- Of rows with distinct keys, the sorted list does not depend on their order. -/
theorem insertionSort_perm {k : ρ → String} {l l' : List ρ} (h : l.Perm l') (distinct : (l.map k).Nodup) :
    l.insertionSort (fun a b => k a ≤ k b) = l'.insertionSort (fun a b => k a ≤ k b) := by
  have total : Std.Total fun a b : ρ => k a ≤ k b := ⟨fun a b => le_total (k a) (k b)⟩
  have trans : IsTrans ρ fun a b => k a ≤ k b := ⟨fun _ _ _ => le_trans⟩
  refine List.Perm.eq_of_pairwise (fun a b ha hb le ge => ?_) (List.pairwise_insertionSort _ l)
    (List.pairwise_insertionSort _ l')
    ((List.perm_insertionSort _ l).trans (h.trans (List.perm_insertionSort _ l').symm))
  rw [List.mem_insertionSort] at ha hb
  exact List.inj_on_of_nodup_map distinct ha (h.mem_iff.2 hb) (le_antisymm le ge)

/-! ## Rows that are paired off -/

/-- Every row of `before` goes with one of `after`, in some order. -/
def Paired (R : ρ → ρ → Prop) (before after : List ρ) : Prop :=
  ∃ rows, rows.Perm before ∧ List.Forall₂ R rows after

namespace Paired

variable {R : ρ → ρ → Prop} {before after last : List ρ}

theorem refl (refl : ∀ r, R r r) (rows : List ρ) : Paired R rows rows :=
  ⟨rows, .refl _, List.forall₂_same.2 fun r _ => refl r⟩

/-- The rows are taken in another order and changed one by one. -/
theorem of_map {f : ρ → ρ} (step : ∀ r, R r (f r)) {rows : List ρ} (perm : rows.Perm before) :
    Paired R before (rows.map f) :=
  ⟨rows, perm, List.forall₂_map_right_iff.2 (List.forall₂_same.2 fun r _ => step r)⟩

theorem trans (trans : ∀ r s t, R r s → R s t → R r t) (h : Paired R before after) (h' : Paired R after last) :
    Paired R before last := by
  obtain ⟨rows, perm, pairs⟩ := h
  obtain ⟨rows', perm', pairs'⟩ := h'
  have swapped : Relation.Comp List.Perm (List.Forall₂ R) rows rows' := by
    rw [← List.forall₂_comp_perm_eq_perm_comp_forall₂]
    exact ⟨after, pairs, perm'.symm⟩
  obtain ⟨mid, permuted, moved⟩ := swapped
  refine ⟨mid, permuted.symm.trans perm, ?_⟩
  exact forall₂_trans trans moved pairs'

end Paired

end MeadowOps.Lib
