import MeadowOps.Lib.Trail
import Mathlib.Data.List.Sort
import Mathlib.Data.Prod.Lex

/-!
# Rows in the order of a key

A query with ORDER BY returns rows of equal keys in any order. A log of transitions is read back as it was
written by every such query exactly when its keys increase strictly (`transitionChain_iff`).
-/

namespace MeadowOps.Lib

variable {ρ κ S : Type} [LinearOrder κ] {key : ρ → κ}

/-- How the database answers `ORDER BY key`. -/
structure OrderedBy (key : ρ → κ) where
  rows : List ρ → List ρ
  perm : ∀ l, (rows l).Perm l
  sorted : ∀ l, (rows l).Pairwise fun r s => key r ≤ key s

theorem pairwise_sorted {μ : Type} [LinearOrder μ] (f : ρ → μ) (l : List ρ) :
    (l.insertionSort fun r s => f r ≤ f s).Pairwise fun r s => f r ≤ f s := by
  have total : Std.Total fun r s => f r ≤ f s := ⟨fun r s => le_total (f r) (f s)⟩
  have trans : IsTrans ρ fun r s => f r ≤ f s := ⟨fun _ _ _ => le_trans⟩
  exact List.pairwise_insertionSort _ l

/-- The rows sorted by a finer key. -/
def OrderedBy.finer {μ : Type} [LinearOrder μ] (f : ρ → μ) (refines : ∀ r s, f r ≤ f s → key r ≤ key s) :
    OrderedBy key where
  rows := List.insertionSort fun r s => f r ≤ f s
  perm := List.perm_insertionSort _
  sorted l := (pairwise_sorted f l).imp (refines _ _)

/-- Rows of equal keys in the order of the table. -/
def OrderedBy.stable (key : ρ → κ) : OrderedBy key := .finer key fun _ _ le => le

/-- Sorted rows of distinct keys. -/
theorem strict_of_sorted {l : List ρ} (sorted : l.Pairwise fun r s => key r ≤ key s)
    (distinct : (l.map key).Nodup) : l.Pairwise fun r s => key r < key s :=
  (List.pairwise_map.1 distinct).imp₂ (fun _ _ ne le => lt_of_le_of_ne le ne) sorted

/-- Rows of distinct keys can be sorted in one way only. -/
theorem eq_of_sorted {l l' : List ρ} (strict : l.Pairwise fun r s => key r < key s) (perm : l'.Perm l)
    (sorted : l'.Pairwise fun r s => key r ≤ key s) : l' = l := by
  have distinct : (l'.map key).Nodup := by
    rw [(perm.map key).nodup_iff]
    exact List.pairwise_map.2 (strict.imp fun lt => lt.ne)
  exact perm.eq_of_pairwise (fun _ _ _ _ lt gt => absurd gt lt.asymm) (strict_of_sorted sorted distinct) strict

/-- Rows of distinct keys come back in one order only. -/
theorem OrderedBy.rows_eq (q : OrderedBy key) {l : List ρ} (strict : l.Pairwise fun r s => key r < key s) :
    q.rows l = l :=
  eq_of_sorted strict (q.perm l) (q.sorted l)

/-- The first entry creates, and each later one starts where the one before it ended. -/
structure TransitionChain (src : ρ → Option S) (dst : ρ → S) (l : List ρ) : Prop where
  created : ∀ r ∈ l.head?, src r = none
  linked : l.IsChain fun r s => src s = some (dst r)

section
variable {src : ρ → Option S} {dst : ρ → S} {rank : S → ℕ} {l : List ρ}

/-- Transitions that climb make a chain that climbs. -/
theorem TransitionChain.climbs (h : TransitionChain src dst l)
    (edges : ∀ r ∈ l, ∀ s, src r = some s → rank s < rank (dst r)) :
    l.Pairwise fun r s => rank (dst r) < rank (dst s) := by
  have trans : Trans (fun r s => rank (dst r) < rank (dst s)) (fun r s => rank (dst r) < rank (dst s))
      (fun r s : ρ => rank (dst r) < rank (dst s)) := ⟨fun lt lt' => lt_trans lt lt'⟩
  refine List.isChain_iff_pairwise.1 (h.linked.imp_of_mem_imp fun r s _ mem link => ?_)
  exact edges s mem _ link

/-- A log is a chain in every order of its rows with equal keys iff its keys increase. -/
theorem transitionChain_iff (h : TransitionChain src dst l)
    (edges : ∀ r ∈ l, ∀ s, src r = some s → rank s < rank (dst r)) :
    (∀ q : OrderedBy key, TransitionChain src dst (q.rows l)) ↔ l.Pairwise fun r s => key r < key s := by
  constructor
  · intro chains
    -- Among equal keys the latest transition first: if that is a chain, there are no equal keys.
    let f : ρ → κ ×ₗ ℕᵒᵈ := fun r => toLex (key r, OrderDual.toDual (rank (dst r)))
    let latestFirst : OrderedBy key := .finer f
      fun r s le => (Prod.Lex.toLex_le_toLex.1 le).elim le_of_lt fun same => same.1.le
    have climbs := (chains latestFirst).climbs fun r mem => edges r ((latestFirst.perm l).mem_iff.1 mem)
    have same : latestFirst.rows l = l :=
      (latestFirst.perm l).eq_of_pairwise (fun _ _ _ _ lt gt => absurd gt (lt_asymm lt)) climbs (h.climbs edges)
    have sorted : l.Pairwise fun r s => f r ≤ f s := by
      have sorted := pairwise_sorted f l
      rwa [show l.insertionSort (fun r s => f r ≤ f s) = l from same] at sorted
    refine sorted.imp₂ (fun r s le lt => ?_) (h.climbs edges)
    rcases Prod.Lex.toLex_le_toLex.1 le with before | ⟨-, ranks⟩
    · exact before
    · exact absurd lt (not_lt.2 ranks)
  · intro strict q
    rw [q.rows_eq strict]
    exact h

theorem transitionChain_map {τ : Type} {f : τ → ρ} {l : List τ} : TransitionChain src dst (l.map f) ↔
    TransitionChain (fun t => src (f t)) (fun t => dst (f t)) l := by
  constructor
  · rintro ⟨created, linked⟩
    rw [List.head?_map] at created
    rw [List.isChain_map] at linked
    exact ⟨fun t mem => created (f t) (Option.mem_map_of_mem _ mem), linked⟩
  · rintro ⟨created, linked⟩
    refine ⟨fun r mem => ?_, (List.isChain_map _).2 linked⟩
    rw [List.head?_map] at mem
    obtain ⟨t, head, rfl⟩ := Option.mem_map.1 mem
    exact created t head

/-- A trail is a chain. -/
theorem Trail.transitionChain {initial current : S} {edge : S → S → Prop}
    (h : Trail src dst initial edge l current) : TransitionChain src dst l where
  created := by
    obtain ⟨first, head, none, -⟩ := h.created
    intro r mem
    rw [head, Option.mem_some_iff] at mem
    exact mem ▸ none
  linked := h.linked

end

/-- Rows of which no two are marked: at most one is. -/
theorem length_filter_le_one {p : ρ → Bool} {l : List ρ} :
    (l.filter p).length ≤ 1 ↔ l.Pairwise fun r s => ¬ (p r = true ∧ p s = true) := by
  have few : ∀ l : List ρ, l.length ≤ 1 ↔ l.Pairwise fun _ _ => False := by
    rintro (_ | ⟨r, _ | ⟨s, l⟩⟩)
    · simp
    · simp
    · refine ⟨fun le => ?_, fun none => ?_⟩
      · simp at le
      · exact (List.rel_of_pairwise_cons none (List.mem_cons_self ..)).elim
  rw [few, List.pairwise_filter]
  have same : (fun r s => p r = true → p s = true → False) = fun r s => ¬ (p r = true ∧ p s = true) := by
    funext r s
    simp
  rw [same]

/-! ## The first rows -/

/-- Of the first of two sorted lists a merge can only use as many rows as are taken from it. -/
theorem take_merge_take (le : ρ → ρ → Bool) {m n : ℕ} (enough : n ≤ m) (l r : List ρ) :
    ((l.take m).merge r le).take n = (l.merge r le).take n := by
  induction n generalizing m l r with
  | zero => rfl
  | succ n ih =>
    obtain ⟨m, rfl⟩ : ∃ k, m = k + 1 := ⟨m - 1, by omega⟩
    cases l with
    | nil => rfl
    | cons x l =>
      cases r with
      | nil =>
        simp only [List.merge_right, List.take_take]
        rw [Nat.min_eq_left enough]
      | cons y r =>
        rw [List.take_succ_cons, List.cons_merge_cons, List.cons_merge_cons]
        split
        · rw [List.take_succ_cons, List.take_succ_cons, ih (by omega)]
        · have whole : x :: l.take m = (x :: l).take (m + 1) := rfl
          rw [List.take_succ_cons, List.take_succ_cons, whole, ih (by omega)]

/-- The first rows of two sources together: one of them may be cut to as many before. -/
theorem take_of_cut {l r first all : List ρ} {n : ℕ} (sorted : l.Pairwise fun r s => key r ≤ key s)
    (allPerm : all.Perm (l ++ r)) (allStrict : all.Pairwise fun r s => key r < key s)
    (firstPerm : first.Perm (l.take n ++ r)) (firstStrict : first.Pairwise fun r s => key r < key s) :
    first.take n = all.take n := by
  let le : ρ → ρ → Bool := fun r s => decide (key r ≤ key s)
  let q : OrderedBy key := .stable key
  have total : Std.Total fun r s => key r ≤ key s := ⟨fun r s => le_total (key r) (key s)⟩
  have trans : IsTrans ρ fun r s => key r ≤ key s := ⟨fun _ _ _ => le_trans⟩
  have merged : ∀ l' : List ρ, (l'.Pairwise fun r s => key r ≤ key s) →
      (l'.merge (q.rows r) le).Perm (l' ++ r) ∧
        (l'.merge (q.rows r) le).Pairwise fun r s => key r ≤ key s := by
    intro l' sorted
    exact ⟨(List.merge_perm_append le).trans ((q.perm r).append_left l'), sorted.merge (q.sorted r)⟩
  obtain ⟨perm, order⟩ := merged l sorted
  obtain ⟨perm', order'⟩ := merged (l.take n) (sorted.sublist (List.take_sublist n l))
  rw [← eq_of_sorted allStrict (perm.trans allPerm.symm) order,
    ← eq_of_sorted firstStrict (perm'.trans firstPerm.symm) order']
  exact take_merge_take le (Nat.le_refl n) l (q.rows r)

/-- What is not among the first rows comes after all of them, and there are as many as asked for. -/
theorem after_taken {R : ρ → ρ → Prop} {l : List ρ} (sorted : l.Pairwise R) {n : ℕ} {r : ρ} (mem : r ∈ l)
    (cut : r ∉ l.take n) : (l.take n).length = n ∧ ∀ s ∈ l.take n, R s r := by
  rw [← List.take_append_drop n l] at sorted mem
  have later : r ∈ l.drop n := (List.mem_append.1 mem).resolve_left cut
  constructor
  · have more := List.length_pos_of_mem later
    rw [List.length_drop] at more
    rw [List.length_take]
    omega
  · intro s first
    exact (List.pairwise_append.1 sorted).2.2 s first r later

section
variable {μ : Type} [LinearOrder μ] (f : ρ → μ)

/-- A row goes before the rows of its own place. -/
theorem pairwise_orderedInsert {l : List ρ} {r : ρ} (first : ∀ s ∈ l, key r < key s)
    (sorted : l.Pairwise fun r s => toLex (f r, key r) < toLex (f s, key s)) :
    (l.orderedInsert (fun r s => f r ≤ f s) r).Pairwise fun r s => toLex (f r, key r) < toLex (f s, key s) := by
  induction l with
  | nil => simp
  | cons s l ih =>
    obtain ⟨before, sorted'⟩ := List.pairwise_cons.1 sorted
    by_cases le : f r ≤ f s
    · rw [List.orderedInsert_cons_of_le _ l le]
      refine List.pairwise_cons.2 ⟨fun t mem => ?_, sorted⟩
      have le' : f s ≤ f t := by
        rcases List.mem_cons.1 mem with rfl | later
        · exact le_rfl
        · exact (Prod.Lex.toLex_le_toLex.1 (before t later).le).elim le_of_lt fun same => same.1.le
      rcases (le.trans le').lt_or_eq with lt | same
      · exact Prod.Lex.toLex_lt_toLex.2 (.inl lt)
      · exact Prod.Lex.toLex_lt_toLex.2 (.inr ⟨same, first t mem⟩)
    · rw [List.orderedInsert_of_not_le _ l le]
      refine List.pairwise_cons.2 ⟨fun t mem => ?_, ih (fun t mem => first t (List.mem_cons_of_mem s mem)) sorted'⟩
      rcases (List.mem_orderedInsert _).1 mem with rfl | later
      · exact Prod.Lex.toLex_lt_toLex.2 (.inl (not_le.1 le))
      · exact before t later

/-- A stable sort of rows that are sorted already. -/
theorem pairwise_insertionSort_lex {l : List ρ} (sorted : l.Pairwise fun r s => key r < key s) :
    (l.insertionSort fun r s => f r ≤ f s).Pairwise fun r s => toLex (f r, key r) < toLex (f s, key s) := by
  induction l with
  | nil => exact .nil
  | cons r l ih =>
    obtain ⟨first, sorted'⟩ := List.pairwise_cons.1 sorted
    refine pairwise_orderedInsert f ?_ (ih sorted')
    intro s mem
    exact first s ((List.mem_insertionSort _).1 mem)

end

end MeadowOps.Lib
