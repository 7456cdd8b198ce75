import MeadowOps.Lib.Table
import MeadowOps.Lib.RowSum

/-!
# Documents and their postings

A document (an order, a transfer) is posted to a ledger as entries that refer to it. `Posted` says
that the entries of every document are what `P` asks of it, and that no entry refers to a document
that does not exist. It is kept when a document is inserted with its first entries, when a
document is updated with further entries, and when unrelated entries are appended.
-/

namespace MeadowOps.Lib

variable {ρ δ κ : Type} [DecidableEq κ]

/-- The entries that refer to `k`. -/
def entriesOf (ref : ρ → Option κ) (k : κ) (ledger : List ρ) : List ρ :=
  ledger.filter (ref · = some k)

structure Posted (ref : ρ → Option κ) (id : δ → κ) (P : δ → List ρ → Prop) (docs : List δ)
    (ledger : List ρ) : Prop where
  entries : ∀ d ∈ docs, P d (entriesOf ref (id d) ledger)
  known : ∀ r ∈ ledger, ∀ k, ref r = some k → k ∈ docs.map id

section
variable {ref : ρ → Option κ} {id : δ → κ} {P : δ → List ρ → Prop} {docs : List δ} {ledger rs : List ρ}

@[simp] theorem entriesOf_append (k : κ) :
    entriesOf ref k (ledger ++ rs) = entriesOf ref k ledger ++ entriesOf ref k rs :=
  List.filter_append ..

theorem entriesOf_eq_nil {k : κ} (h : ∀ r ∈ rs, ref r ≠ some k) : entriesOf ref k rs = [] := by
  simpa [entriesOf, List.filter_eq_nil_iff] using h

theorem entriesOf_eq_self {k : κ} (h : ∀ r ∈ rs, ref r = some k) : entriesOf ref k rs = rs := by
  simpa [entriesOf, List.filter_eq_self] using h

/-- Entries that refer elsewhere change nothing. -/
theorem entriesOf_append_other {k : κ} (h : ∀ r ∈ rs, ref r ≠ some k) :
    entriesOf ref k (ledger ++ rs) = entriesOf ref k ledger := by
  rw [entriesOf_append, entriesOf_eq_nil h, List.append_nil]

theorem Posted.nil : Posted ref id P [] [] := ⟨by simp, by simp⟩

/-- Entries that refer to no document of this kind. -/
theorem Posted.append_other (h : Posted ref id P docs ledger) (other : ∀ r ∈ rs, ref r = none) :
    Posted ref id P docs (ledger ++ rs) where
  entries d hd := by
    rw [entriesOf_append_other fun r hr => by simp [other r hr]]
    exact h.entries d hd
  known r hr k hk := by
    rcases List.mem_append.1 hr with hr | hr
    · exact h.known r hr k hk
    · rw [other r hr] at hk
      cases hk

/-- A new document with its first entries. -/
theorem Posted.insert (h : Posted ref id P docs ledger) {d : δ} (fresh : id d ∉ docs.map id)
    (own : ∀ r ∈ rs, ref r = some (id d)) (hP : P d rs) :
    Posted ref id P (docs ++ [d]) (ledger ++ rs) where
  entries d' hd' := by
    rcases List.mem_append.1 hd' with old | new
    · have ne : id d ≠ id d' := fun he => fresh (he ▸ List.mem_map_of_mem old)
      rw [entriesOf_append_other fun r hr => by simpa [own r hr] using ne]
      exact h.entries d' old
    · rw [List.mem_singleton] at new
      subst new
      have none : entriesOf ref (id d') ledger = [] :=
        entriesOf_eq_nil fun r hr hk => fresh (h.known r hr _ hk)
      rw [entriesOf_append, none, entriesOf_eq_self own, List.nil_append]
      exact hP
  known r hr k hk := by
    rw [List.map_append, List.mem_append]
    rcases List.mem_append.1 hr with hr | hr
    · exact .inl (h.known r hr k hk)
    · rw [own r hr, Option.some.injEq] at hk
      exact .inr (by simp [hk])

/-- An update of one document, with further entries. -/
theorem Posted.update (h : Posted ref id P docs ledger) {d : δ} (keyed : Keyed id docs)
    (hd : d ∈ docs) {f : δ → δ} (hf : ∀ x, id x = id d → id (f x) = id d)
    (own : ∀ r ∈ rs, ref r = some (id d))
    (hP : P d (entriesOf ref (id d) ledger) → P (f d) (entriesOf ref (id d) ledger ++ rs)) :
    Posted ref id P (modify id (id d) f docs) (ledger ++ rs) where
  entries d' hd' := by
    obtain ⟨x, hx, rfl⟩ := mem_modify.1 hd'
    by_cases same : id x = id d
    · rw [List.inj_on_of_nodup_map keyed hx hd same, if_pos rfl, hf d rfl, entriesOf_append,
        entriesOf_eq_self own]
      exact hP (h.entries d hd)
    · rw [if_neg same, entriesOf_append_other fun r hr => by simpa [own r hr] using Ne.symm same]
      exact h.entries x hx
  known r hr k hk := by
    rw [map_key_modify hf]
    rcases List.mem_append.1 hr with hr | hr
    · exact h.known r hr k hk
    · rw [own r hr, Option.some.injEq] at hk
      exact hk ▸ List.mem_map_of_mem hd

/-- An update that touches nothing the postings read. -/
theorem Posted.rewrite (h : Posted ref id P docs ledger) {d : δ} (keyed : Keyed id docs)
    (hd : d ∈ docs) {f : δ → δ} (hf : ∀ x, id x = id d → id (f x) = id d)
    (same : ∀ rows, P d rows → P (f d) rows) : Posted ref id P (modify id (id d) f docs) ledger := by
  have none : ∀ r ∈ ([] : List ρ), ref r = some (id d) := fun _ hr => nomatch hr
  have updated := h.update keyed hd hf none (by simpa using same _)
  rwa [List.append_nil] at updated

/-- A new document without entries. -/
theorem Posted.insertEmpty (h : Posted ref id P docs ledger) {d : δ} (fresh : id d ∉ docs.map id)
    (hP : P d []) : Posted ref id P (docs ++ [d]) ledger := by
  have none : ∀ r ∈ ([] : List ρ), ref r = some (id d) := fun _ hr => nomatch hr
  have inserted := h.insert fresh none hP
  rwa [List.append_nil] at inserted

end

/-- One of the keys of a table is `k`, once. -/
theorem sum_map_ite_key {M : Type} [AddCommMonoid M] {id : δ → κ} {docs : List δ}
    (keyed : Keyed id docs) {k : κ} (hk : k ∈ docs.map id) (x : M) :
    (docs.map fun d => if id d = k then x else 0).sum = x := by
  induction docs with
  | nil => cases hk
  | cons d docs ih =>
    obtain ⟨hd, keyed⟩ := List.nodup_cons.1 keyed
    rw [List.map_cons, List.sum_cons]
    by_cases same : id d = k
    · have rest : ∀ e ∈ docs, (if id e = k then x else 0) = 0 := fun e he =>
        if_neg fun h => hd (by rw [same, ← h]; exact List.mem_map_of_mem he)
      rw [if_pos same, List.map_congr_left rest]
      simp
    · have hk' : k ∈ docs.map id := by
        rcases List.mem_cons.1 hk with h | h
        · exact absurd h.symm same
        · exact h
      rw [if_neg same, zero_add, ih keyed hk']

/-- The entries of a kind add up document by document. -/
theorem Posted.sum_entries {M : Type} [AddCommMonoid M] {ref : ρ → Option κ} {id : δ → κ}
    {P : δ → List ρ → Prop} {docs : List δ} {ledger : List ρ} (h : Posted ref id P docs ledger)
    (keyed : Keyed id docs) (g : ρ → M) :
    sumWhere (ref · ≠ none) g ledger =
      (docs.map fun d => ((entriesOf ref (id d) ledger).map g).sum).sum := by
  have known := h.known
  clear h
  induction ledger with
  | nil => simp [entriesOf]
  | cons r ledger ih =>
    rw [sumWhere_cons, ih fun r hr => known r (List.mem_cons_of_mem _ hr)]
    have split : ∀ d, ((entriesOf ref (id d) (r :: ledger)).map g).sum =
        (if ref r = some (id d) then g r else 0) + ((entriesOf ref (id d) ledger).map g).sum := by
      intro d
      by_cases hr : ref r = some (id d) <;> simp [entriesOf, hr]
    simp only [split, List.sum_map_add]
    congr 1
    cases hr : ref r with
    | none => simp
    | some k =>
      have one := sum_map_ite_key keyed (known r List.mem_cons_self k hr) (g r)
      simpa [eq_comm] using one.symm

end MeadowOps.Lib
