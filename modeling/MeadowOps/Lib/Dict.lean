import MeadowOps.Lib.RowSum
import Mathlib.Data.List.Induction
import Mathlib.Data.List.Nodup

/-!
# Python dictionaries

A `Dict` is the list of its items in insertion order, no key twice. Assignment to a key that is
present keeps the key's place.
-/

namespace MeadowOps.Lib

variable {κ ν ρ : Type} [DecidableEq κ]

structure Dict (κ ν : Type) where
  items : List (κ × ν)
  nodup : (items.map Prod.fst).Nodup

namespace Dict

/-- Assignment on the items. -/
def assign (k : κ) (v : ν) : List (κ × ν) → List (κ × ν)
  | [] => [(k, v)]
  | (k', v') :: l => if k' = k then (k, v) :: l else (k', v') :: assign k v l

theorem keys_assign_subset (k : κ) (v : ν) (l : List (κ × ν)) {a : κ}
    (h : a ∈ (assign k v l).map Prod.fst) : a = k ∨ a ∈ l.map Prod.fst := by
  induction l with
  | nil => simpa [assign] using h
  | cons e l ih =>
    obtain ⟨k', v'⟩ := e
    by_cases hk : k' = k
    · simp only [assign, hk, if_true, List.map_cons, List.mem_cons] at h ⊢
      exact h.elim .inl fun h => .inr (.inr h)
    · simp only [assign, if_neg hk, List.map_cons, List.mem_cons] at h ⊢
      rcases h with h | h
      · exact .inr (.inl h)
      · exact (ih h).imp_right .inr

theorem mem_assign {k : κ} {v : ν} {l : List (κ × ν)} {e : κ × ν}
    (h : e ∈ assign k v l) : e = (k, v) ∨ e ∈ l := by
  induction l with
  | nil => simpa [assign] using h
  | cons d l ih =>
    obtain ⟨k', v'⟩ := d
    by_cases hk : k' = k
    · rw [assign, if_pos hk, List.mem_cons] at h
      exact h.imp_right (List.mem_cons_of_mem _)
    · rw [assign, if_neg hk, List.mem_cons] at h
      rcases h with rfl | h
      · exact .inr (List.mem_cons_self ..)
      · exact (ih h).imp_right (List.mem_cons_of_mem _)

theorem nodup_assign (k : κ) (v : ν) {l : List (κ × ν)} (h : (l.map Prod.fst).Nodup) :
    ((assign k v l).map Prod.fst).Nodup := by
  induction l with
  | nil => simp [assign]
  | cons e l ih =>
    obtain ⟨k', v'⟩ := e
    rw [List.map_cons, List.nodup_cons] at h
    by_cases hk : k' = k
    · subst hk
      simpa [assign] using h
    · rw [assign, if_neg hk, List.map_cons, List.nodup_cons]
      refine ⟨fun hm => ?_, ih h.2⟩
      exact (keys_assign_subset k v l hm).elim hk h.1

def empty : Dict κ ν := ⟨[], List.nodup_nil⟩

/-- `d[k] = v`. -/
def set (d : Dict κ ν) (k : κ) (v : ν) : Dict κ ν :=
  ⟨assign k v d.items, nodup_assign k v d.nodup⟩

/-- `d.get(k)`. -/
def get? (d : Dict κ ν) (k : κ) : Option ν := d.items.lookup k

/-- `d.get(k, default)`. -/
def getD (d : Dict κ ν) (k : κ) (default : ν) : ν := (d.get? k).getD default

/-- `{**d, **e}`. -/
def update (d e : Dict κ ν) : Dict κ ν := e.items.foldl (fun acc kv => acc.set kv.1 kv.2) d

/-- `dict(pairs)`: a later pair with the same key wins. -/
def ofList (pairs : List (κ × ν)) : Dict κ ν := pairs.foldl (fun acc kv => acc.set kv.1 kv.2) empty

@[simp] theorem get?_empty (k : κ) : (empty : Dict κ ν).get? k = none := rfl

theorem lookup_cons_ite (k a : κ) (b : ν) (l : List (κ × ν)) :
    ((a, b) :: l).lookup k = if k = a then some b else l.lookup k := by
  rw [List.lookup_cons]
  by_cases h : k = a
  · simp [h]
  · rw [if_neg h, show (k == a) = false by simpa using h]

@[simp] theorem lookup_assign (k k' : κ) (v : ν) (l : List (κ × ν)) :
    (assign k v l).lookup k' = if k' = k then some v else l.lookup k' := by
  induction l with
  | nil => rw [assign, lookup_cons_ite]
  | cons e l ih =>
    obtain ⟨a, b⟩ := e
    by_cases hk : a = k
    · subst hk
      rw [assign, if_pos rfl, lookup_cons_ite, lookup_cons_ite]
      split <;> rfl
    · rw [assign, if_neg hk, lookup_cons_ite, lookup_cons_ite, ih]
      by_cases h : k' = a
      · subst h
        rw [if_pos rfl, if_neg hk]
        simp
      · rw [if_neg h]
        simp [h]

@[simp] theorem get?_set (d : Dict κ ν) (k k' : κ) (v : ν) :
    (d.set k v).get? k' = if k' = k then some v else d.get? k' :=
  lookup_assign k k' v d.items

theorem mem_items_iff {d : Dict κ ν} {k : κ} {v : ν} : (k, v) ∈ d.items ↔ d.get? k = some v := by
  obtain ⟨l, h⟩ := d
  simp only [get?]
  induction l with
  | nil => simp
  | cons e l ih =>
    obtain ⟨a, b⟩ := e
    rw [List.map_cons, List.nodup_cons] at h
    rw [lookup_cons_ite, List.mem_cons, ih h.2, Prod.mk.injEq]
    by_cases hk : k = a
    · subst hk
      have absent : l.lookup k ≠ some v := fun hl =>
        h.1 (List.mem_map.2 ⟨(k, v), (ih h.2).2 hl, rfl⟩)
      simp [absent, eq_comm]
    · simp [hk]

theorem get?_eq_none_iff {d : Dict κ ν} {k : κ} : d.get? k = none ↔ k ∉ d.items.map Prod.fst := by
  constructor
  · intro h hm
    obtain ⟨⟨a, v⟩, hv, rfl⟩ := List.mem_map.1 hm
    rw [mem_items_iff.1 hv] at h
    cases h
  · intro h
    by_contra hne
    obtain ⟨v, hv⟩ := Option.ne_none_iff_exists'.1 hne
    exact h (List.mem_map.2 ⟨(k, v), mem_items_iff.2 hv, rfl⟩)

/-- The value of a key after the assignments of `pairs` is that of the last pair that names it. -/
theorem get?_foldl_set (pairs : List (κ × ν)) (d : Dict κ ν) (k : κ) :
    (pairs.foldl (fun acc kv => acc.set kv.1 kv.2) d).get? k =
      (pairs.reverse.lookup k).or (d.get? k) := by
  induction pairs generalizing d with
  | nil => simp
  | cons p pairs ih =>
    rw [List.foldl_cons, ih, get?_set, List.reverse_cons, List.lookup_append, lookup_cons_ite]
    by_cases h : k = p.1
    · cases pairs.reverse.lookup k <;> simp [h]
    · simp [h]

theorem lookup_reverse_of_nodup {l : List (κ × ν)} (h : (l.map Prod.fst).Nodup) (k : κ) :
    l.reverse.lookup k = l.lookup k := by
  have hr : (l.reverse.map Prod.fst).Nodup := by simpa using h
  ext v
  have h1 := mem_items_iff (d := ⟨l.reverse, hr⟩) (k := k) (v := v)
  have h2 := mem_items_iff (d := ⟨l, h⟩) (k := k) (v := v)
  simp only [get?, List.mem_reverse] at h1 h2
  simp only [← h1, ← h2]

@[simp] theorem get?_update (d e : Dict κ ν) (k : κ) :
    (d.update e).get? k = (e.get? k).or (d.get? k) := by
  rw [update, get?_foldl_set, lookup_reverse_of_nodup e.nodup]
  rfl

theorem get?_ofList (pairs : List (κ × ν)) (k : κ) :
    (ofList pairs : Dict κ ν).get? k = pairs.reverse.lookup k := by
  rw [ofList, get?_foldl_set]
  simp

/-- The last pair of a key is the one that stays. -/
theorem split_of_get?_ofList {pairs : List (κ × ν)} {k : κ} {v : ν} (here : (ofList pairs).get? k = some v) :
    ∃ before after, pairs = before ++ (k, v) :: after ∧ ∀ p ∈ after, p.1 ≠ k := by
  rw [get?_ofList] at here
  obtain ⟨after, before, split, others⟩ := List.lookup_eq_some_iff.1 here
  refine ⟨before.reverse, after.reverse, ?_, fun p mem same => ?_⟩
  · rw [← List.reverse_reverse pairs, split, List.reverse_append, List.reverse_cons, List.append_assoc]
    rfl
  · have other := others p (List.mem_reverse.1 mem)
    simp [same] at other

theorem mem_of_get?_ofList {pairs : List (κ × ν)} {k : κ} {v : ν} (here : (ofList pairs).get? k = some v) :
    (k, v) ∈ pairs := by
  obtain ⟨before, after, rfl, -⟩ := split_of_get?_ofList here
  exact List.mem_append_right _ List.mem_cons_self

theorem exists_get?_ofList {pairs : List (κ × ν)} {p : κ × ν} (mem : p ∈ pairs) :
    ∃ v, (ofList pairs).get? p.1 = some v := by
  rw [get?_ofList, ← Option.ne_none_iff_exists']
  intro absent
  have other := List.lookup_eq_none_iff.1 absent p (List.mem_reverse.2 mem)
  simp at other

/-- The keys of a dictionary have what the keys it was built from have. -/
theorem forall_keys_set {P : κ → Prop} {d : Dict κ ν} (h : ∀ e ∈ d.items, P e.1) {k : κ} (hk : P k) (v : ν) :
    ∀ e ∈ (d.set k v).items, P e.1 := by
  intro e mem
  rcases mem_assign mem with rfl | old
  · exact hk
  · exact h e old

theorem forall_keys_ofList {P : κ → Prop} {pairs : List (κ × ν)} (h : ∀ e ∈ pairs, P e.1) :
    ∀ e ∈ (ofList pairs).items, P e.1 :=
  List.foldlRecOn (motive := fun d : Dict κ ν => ∀ e ∈ d.items, P e.1) _ _ (fun _ mem => nomatch mem)
    fun _ keys e mem => forall_keys_set keys (h e mem) e.2

theorem assign_of_notMem {k : κ} {v : ν} {l : List (κ × ν)} (h : k ∉ l.map Prod.fst) :
    assign k v l = l ++ [(k, v)] := by
  induction l with
  | nil => rfl
  | cons e l ih =>
    rw [List.map_cons, List.mem_cons, not_or] at h
    rw [assign, if_neg (Ne.symm h.1), ih h.2]
    rfl

/-- Pairs of distinct keys are the items of their dictionary. -/
theorem items_ofList {pairs : List (κ × ν)} (h : (pairs.map Prod.fst).Nodup) :
    (ofList pairs : Dict κ ν).items = pairs := by
  have gen : ∀ (pairs : List (κ × ν)) (d : Dict κ ν), ((d.items ++ pairs).map Prod.fst).Nodup →
      (pairs.foldl (fun acc kv => acc.set kv.1 kv.2) d).items = d.items ++ pairs := by
    intro pairs
    induction pairs with
    | nil => simp
    | cons p pairs ih =>
      intro d nodup
      have fresh : p.1 ∉ d.items.map Prod.fst := by
        intro hm
        rw [List.map_append, List.nodup_append] at nodup
        exact nodup.2.2 p.1 hm p.1 List.mem_cons_self rfl
      have items : (d.set p.1 p.2).items = d.items ++ [p] := assign_of_notMem fresh
      rw [List.foldl_cons, ih, items, List.append_assoc]
      · rfl
      · rw [items, List.append_assoc]
        exact nodup
  exact gen pairs empty h

/-- The dictionary of rows whose keys are distinct. -/
theorem get?_ofList_map {rows : List ρ} {key : ρ → κ} (val : ρ → ν) (h : (rows.map key).Nodup) {k : κ} {v : ν} :
    (ofList (rows.map fun r => (key r, val r))).get? k = some v ↔ ∃ r ∈ rows, key r = k ∧ val r = v := by
  have distinct : ((rows.map fun r => (key r, val r)).map Prod.fst).Nodup := by
    rw [List.map_map]
    exact h
  rw [← mem_items_iff, items_ofList distinct, List.mem_map]
  simp only [Prod.mk.injEq]

theorem get?_ofList_singleton {k k' : κ} {v v' : ν} :
    (ofList [(k, v)]).get? k' = some v' ↔ k' = k ∧ v' = v := by
  have distinct : (([(k, v)] : List (κ × ν)).map Prod.fst).Nodup := List.nodup_singleton k
  rw [← mem_items_iff, items_ofList distinct, List.mem_singleton, Prod.mk.injEq]

/-- `{k: v for k, v in d.items() if p(k)}`. -/
def filterKeys (p : κ → Bool) (d : Dict κ ν) : Dict κ ν :=
  ⟨d.items.filter fun e => p e.1, d.nodup.sublist (List.filter_sublist.map _)⟩

@[simp] theorem get?_filterKeys (p : κ → Bool) (d : Dict κ ν) (k : κ) :
    (d.filterKeys p).get? k = if p k then d.get? k else none := by
  ext v
  rw [← mem_items_iff, filterKeys, List.mem_filter, mem_items_iff]
  by_cases h : p k <;> simp [h]

/-- Dictionaries with the same values have the same items, in some order. -/
theorem perm_of_get? {d e : Dict κ ν} (h : ∀ k, d.get? k = e.get? k) : d.items.Perm e.items := by
  rw [List.perm_ext_iff_of_nodup (List.Nodup.of_map _ d.nodup) (List.Nodup.of_map _ e.nodup)]
  rintro ⟨k, v⟩
  rw [mem_items_iff, mem_items_iff, h]

/-! ## Grouped sums -/

/-- `select key, sum(val) ... group by key`, as a dictionary. -/
def groupSum (key : ρ → κ) (val : ρ → ℤ) (rows : List ρ) : Dict κ ℤ :=
  rows.foldl (fun d r => d.set (key r) (d.getD (key r) 0 + val r)) empty

theorem getD_groupSum (key : ρ → κ) (val : ρ → ℤ) (rows : List ρ) (k : κ) :
    (groupSum key val rows).getD k 0 = sumWhere (key · = k) val rows := by
  have gen : ∀ (rows : List ρ) (d : Dict κ ℤ),
      (rows.foldl (fun d r => d.set (key r) (d.getD (key r) 0 + val r)) d).getD k 0 =
        d.getD k 0 + sumWhere (key · = k) val rows := by
    intro rows
    induction rows with
    | nil => simp
    | cons r rows ih =>
      intro d
      rw [List.foldl_cons, ih, sumWhere_cons]
      by_cases h : key r = k
      · subst h
        simp only [getD, get?_set, if_true, Option.getD_some]
        omega
      · have h' : k ≠ key r := fun e => h e.symm
        simp [getD, get?_set, h, h']
  rw [groupSum, gen]
  simp [getD]

/-! ## Groups -/

/-- `groups.setdefault(key(r), []).append(r)` for each row. -/
def groupBy (key : ρ → κ) (rows : List ρ) : Dict κ (List ρ) :=
  rows.foldl (fun d r => d.set (key r) (d.getD (key r) [] ++ [r])) empty

theorem getD_groupBy (key : ρ → κ) (rows : List ρ) (k : κ) :
    (groupBy key rows).getD k [] = rows.filter (key · = k) := by
  have gen : ∀ (rows : List ρ) (d : Dict κ (List ρ)),
      (rows.foldl (fun d r => d.set (key r) (d.getD (key r) [] ++ [r])) d).getD k [] =
        d.getD k [] ++ rows.filter (key · = k) := by
    intro rows
    induction rows with
    | nil => simp
    | cons r rows ih =>
      intro d
      rw [List.foldl_cons, ih, List.filter_cons]
      by_cases h : key r = k
      · subst h
        simp [getD]
      · have h' : k ≠ key r := fun e => h e.symm
        simp [getD, h, h']
  rw [groupBy, gen]
  simp [getD]

/-- A group holds the rows of its key. -/
theorem groupBy_items {key : ρ → κ} {rows : List ρ} {item : κ × List ρ}
    (h : item ∈ (groupBy key rows).items) : item.2 = rows.filter (key · = item.1) := by
  rw [← getD_groupBy, getD, mem_items_iff.1 (show (item.1, item.2) ∈ _ from h)]
  rfl

/-- Every row is in the group of its key. -/
theorem groupBy_mem (key : ρ → κ) {rows : List ρ} {r : ρ} (mem : r ∈ rows) :
    (key r, rows.filter (key · = key r)) ∈ (groupBy key rows).items := by
  rw [mem_items_iff]
  have group := getD_groupBy key rows (key r)
  have here : r ∈ rows.filter (key · = key r) := List.mem_filter.2 ⟨mem, decide_eq_true rfl⟩
  rw [getD] at group
  cases found : (groupBy key rows).get? (key r) with
  | none =>
    rw [found] at group
    rw [← group] at here
    cases here
  | some rows' =>
    rw [found] at group
    exact congrArg some group

theorem groupBy_keys (key : ρ → κ) (rows : List ρ) :
    ∀ e ∈ (groupBy key rows).items, ∃ r ∈ rows, key r = e.1 := by
  induction rows using List.reverseRecOn with
  | nil =>
    intro e mem
    cases mem
  | append_singleton rows r ih =>
    rw [groupBy, List.foldl_append]
    refine forall_keys_set (P := fun k => ∃ r' ∈ rows ++ [r], key r' = k) (fun e mem => ?_)
      ⟨r, by simp, rfl⟩ _
    obtain ⟨s, memS, same⟩ := ih e mem
    exact ⟨s, List.mem_append_left _ memS, same⟩

theorem assign_last {k : κ} {v v' : ν} {l : List (κ × ν)}
    (absent : k ∉ l.map Prod.fst) : assign k v (l ++ [(k, v')]) = l ++ [(k, v)] := by
  induction l with
  | nil => simp [assign]
  | cons e l ih =>
    rw [List.map_cons, List.mem_cons, not_or] at absent
    rw [List.cons_append, assign, if_neg (Ne.symm absent.1), ih absent.2]
    rfl

/-- The rows of a key that come last make the last group. -/
theorem groupBy_last {key : ρ → κ} {k : κ} {before group : List ρ}
    (others : ∀ r ∈ before, key r ≠ k) (same : ∀ r ∈ group, key r = k) (some' : group ≠ []) :
    (groupBy key (before ++ group)).items = (groupBy key before).items ++ [(k, group)] := by
  have absent : k ∉ (groupBy key before).items.map Prod.fst := by
    intro taken
    obtain ⟨item, mem, rfl⟩ := List.mem_map.1 taken
    obtain ⟨r, memR, sameKey⟩ := groupBy_keys key before item mem
    exact others r memR sameKey
  induction group using List.reverseRecOn with
  | nil => exact absurd rfl some'
  | append_singleton group r ih =>
    have last : key r = k := same r (by simp)
    have step : groupBy key (before ++ (group ++ [r])) =
        (groupBy key (before ++ group)).set k ((groupBy key (before ++ group)).getD k [] ++ [r]) := by
      rw [groupBy, ← List.append_assoc, List.foldl_append, ← last]
      rfl
    have rows : (groupBy key (before ++ group)).getD k [] = group := by
      rw [getD_groupBy, List.filter_append, List.filter_eq_nil_iff.2 fun r mem => by simpa using others r mem,
        List.filter_eq_self.2 fun r mem => decide_eq_true (same r (List.mem_append_left _ mem)), List.nil_append]
    rw [step, rows]
    show assign k (group ++ [r]) (groupBy key (before ++ group)).items = _
    by_cases none : group = []
    · subst none
      rw [List.append_nil]
      exact assign_of_notMem absent
    · rw [ih (fun r mem => same r (List.mem_append_left _ mem)) none]
      exact assign_last absent

end Dict

end MeadowOps.Lib
