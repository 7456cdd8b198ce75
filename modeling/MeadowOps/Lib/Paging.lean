import MeadowOps.Lib.Listing

/-!
# Pages by offset

A client reads a listing page by page, at the offsets `0`, `n`, `2n` and so on, until a page is short. Each page is a
query of its own, in which rows of equal keys may come in another order. The pages are the listing, whatever these
orders are, when no page ends between rows of one key (`pages_complete_iff`).
-/

namespace MeadowOps.Lib

variable {ρ κ α : Type} [LinearOrder κ] {key : ρ → κ}

/-- `ORDER BY key LIMIT limit OFFSET offset`. -/
def page (q : OrderedBy key) (limit offset : ℕ) (rows : List ρ) : List ρ := ((q.rows rows).drop offset).take limit

/-- The pages from the `k`-th through the first short one, which is looked for in the next `fuel` pages. -/
def concatPages (limit : ℕ) (answer : ℕ → List α) : ℕ → ℕ → Option (List α)
  | 0, _ => none
  | fuel + 1, k =>
    if (answer k).length < limit then some (answer k)
    else (concatPages limit answer fuel (k + 1)).map (answer k ++ ·)

/-- The client stops with these rows. -/
def Fetches (limit : ℕ) (answer : ℕ → List α) (rows : List α) : Prop :=
  ∃ fuel, concatPages limit answer fuel 0 = some rows

/-- Reading page by page yields each of the rows once. -/
def ReadsAll (limit : ℕ) (answer : ℕ → List α) (rows : List α) : Prop :=
  ∃ fetched, Fetches limit answer fetched ∧ fetched.Perm rows

/-- The page that ends after `m` rows ends between rows with the key of `r`. -/
def Splits (key : ρ → κ) (rows : List ρ) (m : ℕ) (r : ρ) : Prop :=
  rows.countP (fun s => decide (key s < key r)) < m ∧ m < rows.countP fun s => decide (key s ≤ key r)

/-- No page ends between rows of one key. -/
def PagesApart (key : ρ → κ) (limit : ℕ) (rows : List ρ) : Prop :=
  ∀ r ∈ rows, ∀ k, ¬ Splits key rows (k * limit) r

/-! ## Sorted rows -/

section Sorted

variable {l l' : List ρ} {p : ρ → Bool} {m : ℕ}

/-- Rows that go before all others are the first ones. -/
theorem filter_eq_take (first : l.Pairwise fun r s => p s = true → p r = true) : l.filter p = l.take (l.countP p) := by
  induction l with
  | nil => rfl
  | cons r l ih =>
    obtain ⟨head, rest⟩ := List.pairwise_cons.1 first
    by_cases holds : p r = true
    · rw [List.filter_cons_of_pos holds, List.countP_cons_of_pos holds, List.take_succ_cons, ih rest]
    · have none : ∀ s ∈ r :: l, ¬ p s = true := by
        rw [List.forall_mem_cons]
        exact ⟨holds, fun s mem later => holds (head s mem later)⟩
      rw [List.filter_eq_nil_iff.2 none, List.countP_eq_zero.2 none, List.take_zero]

/-- There are as many of them as `countP` says. -/
theorem getElem_first (first : l.Pairwise fun r s => p s = true → p r = true) {i : ℕ} (h : i < l.length) :
    p l[i] = true ↔ i < l.countP p := by
  induction l generalizing i with
  | nil => exact absurd h (Nat.not_lt_zero i)
  | cons r l ih =>
    obtain ⟨head, rest⟩ := List.pairwise_cons.1 first
    by_cases holds : p r = true
    · rw [List.countP_cons_of_pos holds]
      cases i with
      | zero => simp [holds]
      | succ i => simpa using ih rest (Nat.lt_of_succ_lt_succ h)
    · have none : ∀ s ∈ r :: l, ¬ p s = true := by
        rw [List.forall_mem_cons]
        exact ⟨holds, fun s mem later => holds (head s mem later)⟩
      rw [List.countP_eq_zero.2 none]
      exact iff_of_false (none _ (List.getElem_mem h)) (Nat.not_lt_zero i)

theorem pairwise_lt (sorted : l.Pairwise fun r s => key r ≤ key s) (c : κ) :
    l.Pairwise fun r s => decide (key s < c) = true → decide (key r < c) = true := by
  refine sorted.imp fun le before => ?_
  exact decide_eq_true (lt_of_le_of_lt le (of_decide_eq_true before))

theorem pairwise_le (sorted : l.Pairwise fun r s => key r ≤ key s) (c : κ) :
    l.Pairwise fun r s => decide (key s ≤ c) = true → decide (key r ≤ c) = true := by
  refine sorted.imp fun le before => ?_
  exact decide_eq_true (le.trans (of_decide_eq_true before))

/-- Where the rows of one key are not split, the first rows are the same in every order. -/
theorem take_perm (perm : l.Perm l') (sorted : l.Pairwise fun r s => key r ≤ key s)
    (sorted' : l'.Pairwise fun r s => key r ≤ key s) (apart : ∀ r ∈ l, ¬ Splits key l m r) :
    (l.take m).Perm (l'.take m) := by
  rcases Nat.lt_or_ge m l.length with short | long
  · -- The first `m` rows are those before the key of the next one.
    have after : m < l.countP fun s => decide (key s ≤ key l[m]) :=
      (getElem_first (pairwise_le sorted _) short).1 (decide_eq_true le_rfl)
    have upTo : ¬ m < l.countP fun s => decide (key s < key l[m]) := by
      rw [← getElem_first (pairwise_lt sorted _) short, decide_eq_true_eq]
      exact lt_irrefl _
    have before : ¬ l.countP (fun s => decide (key s < key l[m])) < m :=
      fun lt => apart l[m] (List.getElem_mem short) ⟨lt, after⟩
    have count : l.countP (fun s => decide (key s < key l[m])) = m := by omega
    have count' : l'.countP (fun s => decide (key s < key l[m])) = m := (perm.countP_eq _).symm.trans count
    have first := filter_eq_take (pairwise_lt sorted (key l[m]))
    have first' := filter_eq_take (pairwise_lt sorted' (key l[m]))
    rw [count] at first
    rw [count'] at first'
    rw [← first, ← first']
    exact perm.filter _
  · rw [List.take_of_length_le long, List.take_of_length_le (perm.length_eq ▸ long)]
    exact perm

end Sorted

/-! ## Pages that are complete -/

section Pages

variable {limit : ℕ} {answer : ℕ → List α}

theorem mem_concatPages {fuel k : ℕ} {rows : List α} (ran : concatPages limit answer fuel k = some rows) {a : α}
    (mem : a ∈ rows) : ∃ j, a ∈ answer j := by
  induction fuel generalizing k rows with
  | zero => cases ran
  | succ fuel ih =>
    rw [concatPages] at ran
    split at ran
    · obtain rfl := Option.some.inj ran
      exact ⟨k, mem⟩
    · obtain ⟨rest, later, rfl⟩ := Option.map_eq_some_iff.1 ran
      rcases List.mem_append.1 mem with here | there
      · exact ⟨k, here⟩
      · exact ih later there

theorem concatPages_unique {fuel fuel' k : ℕ} {rows rows' : List α} (ran : concatPages limit answer fuel k = some rows)
    (ran' : concatPages limit answer fuel' k = some rows') : rows = rows' := by
  induction fuel generalizing fuel' k rows rows' with
  | zero => cases ran
  | succ fuel ih =>
    cases fuel' with
    | zero => cases ran'
    | succ fuel' =>
      rw [concatPages] at ran ran'
      by_cases short : (answer k).length < limit
      · rw [if_pos short] at ran ran'
        exact Option.some.inj (ran.symm.trans ran')
      · rw [if_neg short] at ran ran'
        obtain ⟨rest, later, rfl⟩ := Option.map_eq_some_iff.1 ran
        obtain ⟨rest', later', rfl⟩ := Option.map_eq_some_iff.1 ran'
        rw [ih later later']

/-- The client stops with one result. -/
theorem Fetches.unique {rows rows' : List α} (h : Fetches limit answer rows) (h' : Fetches limit answer rows') :
    rows = rows' := by
  obtain ⟨fuel, ran⟩ := h
  obtain ⟨fuel', ran'⟩ := h'
  exact concatPages_unique ran ran'

/-- Pages that hold the rows of one listing are that listing. -/
theorem concatPages_perm {l : List α} (pos : 0 < limit)
    (pages : ∀ k, (answer k).Perm ((l.drop (k * limit)).take limit)) {fuel k : ℕ} (enough : l.length / limit - k < fuel) :
    ∃ rows, concatPages limit answer fuel k = some rows ∧ rows.Perm (l.drop (k * limit)) := by
  induction fuel generalizing k with
  | zero => exact absurd enough (Nat.not_lt_zero _)
  | succ fuel ih =>
    have length := (pages k).length_eq
    rw [List.length_take, List.length_drop] at length
    rw [concatPages]
    by_cases short : (answer k).length < limit
    · rw [if_pos short]
      refine ⟨answer k, rfl, ?_⟩
      have whole : (l.drop (k * limit)).take limit = l.drop (k * limit) :=
        List.take_of_length_le (by rw [List.length_drop]; omega)
      exact whole ▸ pages k
    · rw [if_neg short]
      have more : (k + 1) * limit ≤ l.length := by
        rw [Nat.succ_mul]
        omega
      have reached : k + 1 ≤ l.length / limit := (Nat.le_div_iff_mul_le pos).2 more
      obtain ⟨rest, later, perm⟩ := ih (k := k + 1) (by omega)
      refine ⟨answer k ++ rest, by rw [later, Option.map_some], ?_⟩
      have split : (l.drop (k * limit)).take limit ++ l.drop ((k + 1) * limit) = l.drop (k * limit) := by
        rw [Nat.succ_mul, ← List.drop_drop]
        exact List.take_append_drop _ _
      rw [← split]
      exact (pages k).append perm

/-- A page that ends nowhere between rows of one key holds the same rows in every order. -/
theorem page_perm {rows : List ρ} (apart : PagesApart key limit rows) (q q' : OrderedBy key) (k : ℕ) :
    (page q limit (k * limit) rows).Perm (page q' limit (k * limit) rows) := by
  have perm := (q.perm rows).trans (q'.perm rows).symm
  have same : ∀ j, ((q.rows rows).take (j * limit)).Perm ((q'.rows rows).take (j * limit)) := by
    intro j
    refine take_perm perm (q.sorted rows) (q'.sorted rows) fun r mem splits => ?_
    rw [Splits, (q.perm _).countP_eq, (q.perm _).countP_eq] at splits
    exact apart r ((q.perm rows).mem_iff.1 mem) j splits
  have both : ∀ q : OrderedBy key, (q.rows rows).take ((k + 1) * limit) =
      (q.rows rows).take (k * limit) ++ page q limit (k * limit) rows := by
    intro q
    rw [Nat.succ_mul, page, List.take_add]
  have longer := same (k + 1)
  rw [both q, both q'] at longer
  exact (List.perm_append_left_iff _).1 (((same k).symm.append_right _).trans longer)

end Pages

/-! ## Pages that lose a row -/

section Lost

/-- Rows of equal keys in the order of a rank. -/
def OrderedBy.ranked (key : ρ → κ) (rank : ρ → ℕ) : OrderedBy key :=
  .finer (fun r => toLex (key r, rank r))
    fun _ _ le => (Prod.Lex.toLex_le_toLex.1 le).elim le_of_lt fun same => same.1.le

theorem OrderedBy.ranked_sorted (key : ρ → κ) (rank : ρ → ℕ) (l : List ρ) :
    ((OrderedBy.ranked key rank).rows l).Pairwise fun r s => key r < key s ∨ key r = key s ∧ rank r ≤ rank s :=
  (pairwise_sorted (fun r => toLex (key r, rank r)) l).imp Prod.Lex.toLex_le_toLex.1

variable [DecidableEq ρ] {x : ρ}

/-- A row that goes first among its equals comes no later than after the rows before its key. -/
theorem first_of_equals {rows : List ρ} (nodup : rows.Nodup) {m : ℕ}
    (late : x ∈ ((OrderedBy.ranked key fun r => if r = x then 0 else 1).rows rows).drop m) :
    m ≤ rows.countP fun s => decide (key s < key x) := by
  let q : OrderedBy key := .ranked key fun r => if r = x then 0 else 1
  have parts := List.take_append_drop m (q.rows rows)
  have sorted := OrderedBy.ranked_sorted key (fun r => if r = x then 0 else 1) rows
  have distinct : (q.rows rows).Nodup := (q.perm rows).nodup_iff.2 nodup
  change (q.rows rows).Pairwise _ at sorted
  change x ∈ (q.rows rows).drop m at late
  rw [← parts, List.pairwise_append] at sorted
  rw [← parts, List.nodup_append] at distinct
  have before : ∀ s ∈ (q.rows rows).take m, decide (key s < key x) = true := by
    intro s early
    have other : s ≠ x := distinct.2.2 s early x late
    rcases sorted.2.2 s early x late with lt | ⟨-, le⟩
    · exact decide_eq_true lt
    · rw [if_neg other, if_pos rfl] at le
      exact absurd le (by decide)
  have more := List.length_pos_of_mem late
  rw [List.length_drop] at more
  calc m = ((q.rows rows).take m).length := by rw [List.length_take]; omega
    _ = ((q.rows rows).take m).countP fun s => decide (key s < key x) := (List.countP_eq_length.2 before).symm
    _ ≤ (q.rows rows).countP fun s => decide (key s < key x) := (List.take_sublist m _).countP_le
    _ = rows.countP fun s => decide (key s < key x) := (q.perm rows).countP_eq _

/-- A row that goes last among its equals comes after all of them. -/
theorem last_of_equals {rows : List ρ} (nodup : rows.Nodup) {m : ℕ}
    (early : x ∈ ((OrderedBy.ranked key fun r => if r = x then 1 else 0).rows rows).take m) :
    (rows.countP fun s => decide (key s ≤ key x)) ≤ m := by
  let q : OrderedBy key := .ranked key fun r => if r = x then 1 else 0
  have parts := List.take_append_drop m (q.rows rows)
  have sorted := OrderedBy.ranked_sorted key (fun r => if r = x then 1 else 0) rows
  have distinct : (q.rows rows).Nodup := (q.perm rows).nodup_iff.2 nodup
  change (q.rows rows).Pairwise _ at sorted
  rw [← parts, List.pairwise_append] at sorted
  rw [← parts, List.nodup_append] at distinct
  have after : ∀ s ∈ (q.rows rows).drop m, ¬ decide (key s ≤ key x) = true := by
    intro s late
    have other : s ≠ x := (distinct.2.2 x early s late).symm
    rw [decide_eq_true_eq, not_le]
    rcases sorted.2.2 x early s late with lt | ⟨-, le⟩
    · exact lt
    · rw [if_pos rfl, if_neg other] at le
      exact absurd le (by decide)
  calc (rows.countP fun s => decide (key s ≤ key x)) = (q.rows rows).countP fun s => decide (key s ≤ key x) :=
      ((q.perm rows).countP_eq _).symm
    _ = ((q.rows rows).take m ++ (q.rows rows).drop m).countP fun s => decide (key s ≤ key x) := by rw [parts]
    _ = ((q.rows rows).take m).countP fun s => decide (key s ≤ key x) := by
      rw [List.countP_append, List.countP_eq_zero.2 after, Nat.add_zero]
    _ ≤ ((q.rows rows).take m).length := List.countP_le_length
    _ ≤ m := by rw [List.length_take]; omega

end Lost

/-- The pages are the listing, in every order of rows with equal keys, exactly when none ends between such rows. -/
theorem pages_complete_iff {limit : ℕ} (pos : 0 < limit) {rows : List ρ} (nodup : rows.Nodup) {read : ρ → α}
    (faithful : ∀ r ∈ rows, ∀ s ∈ rows, read r = read s → r = s) :
    (∀ q : ℕ → OrderedBy key,
      ReadsAll limit (fun k => (page (q k) limit (k * limit) rows).map read) (rows.map read)) ↔
    PagesApart key limit rows := by
  classical
  constructor
  · rintro complete x mem k ⟨before, after⟩
    -- The row comes last among its equals in the pages before the split, and first in those behind it.
    obtain ⟨fetched, ⟨fuel, ran⟩, perm⟩ := complete fun j =>
      if j < k then .ranked key fun r => if r = x then 1 else 0 else .ranked key fun r => if r = x then 0 else 1
    obtain ⟨j, here⟩ := mem_concatPages ran (perm.mem_iff.2 (List.mem_map_of_mem mem))
    obtain ⟨y, inPage, same⟩ := List.mem_map.1 here
    have memY : y ∈ rows := ((OrderedBy.perm _ rows).mem_iff).1 (List.mem_of_mem_drop (List.mem_of_mem_take inPage))
    obtain rfl := faithful y memY x mem same
    by_cases first : j < k
    · rw [if_pos first, page, List.take_drop] at inPage
      have early := List.mem_of_mem_drop inPage
      have last := last_of_equals nodup early
      have le : j * limit + limit ≤ k * limit := by
        rw [← Nat.succ_mul]
        exact Nat.mul_le_mul_right limit first
      omega
    · rw [if_neg first, page] at inPage
      have late := List.mem_of_mem_take inPage
      have le := first_of_equals nodup late
      have more : k * limit ≤ j * limit := Nat.mul_le_mul_right limit (not_lt.1 first)
      omega
  · intro apart q
    have pages : ∀ k, ((page (q k) limit (k * limit) rows).map read).Perm
        (((((q 0).rows rows).map read).drop (k * limit)).take limit) := by
      intro k
      rw [← List.map_drop, ← List.map_take]
      exact (page_perm apart (q k) (q 0) k).map read
    obtain ⟨fetched, ran, perm⟩ := concatPages_perm (k := 0) pos pages (Nat.lt_succ_self _)
    rw [Nat.zero_mul, List.drop_zero] at perm
    exact ⟨fetched, ⟨_, ran⟩, perm.trans (((q 0).perm rows).map read)⟩

end MeadowOps.Lib
