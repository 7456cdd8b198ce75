import MeadowOps.Lib.Program
import MeadowOps.Lib.Table

/-!
# Catching up day by day

A consumer that is behind runs `while day <= target` over the days it has missed. The loop rule carries
what is done through a day from the day before the first to the target.
`insertNew` is the `INSERT ... ON CONFLICT DO NOTHING` with which a day is copied.
-/

namespace MeadowOps.Lib

/-- The days of a `while day <= target` that begins at `start`. -/
def daysThrough (start target : ℤ) : List ℤ :=
  (List.range (target + 1 - start).toNat).map fun i : ℕ => start + i

@[simp] theorem mem_daysThrough {start target day : ℤ} :
    day ∈ daysThrough start target ↔ start ≤ day ∧ day ≤ target := by
  rw [daysThrough, List.mem_map]
  constructor
  · rintro ⟨i, hi, rfl⟩
    rw [List.mem_range] at hi
    omega
  · rintro ⟨first, last⟩
    refine ⟨(day - start).toNat, ?_, ?_⟩
    · rw [List.mem_range]
      omega
    · omega

theorem daysThrough_nil {start target : ℤ} (h : target < start) : daysThrough start target = [] := by
  rw [List.eq_nil_iff_forall_not_mem]
  intro day mem
  rw [mem_daysThrough] at mem
  omega

theorem daysThrough_cons {start target : ℤ} (h : start ≤ target) :
    daysThrough start target = start :: daysThrough (start + 1) target := by
  have length : (target + 1 - start).toNat = (target + 1 - (start + 1)).toNat + 1 := by omega
  rw [daysThrough, daysThrough, length, List.range_succ_eq_map, List.map_cons, List.map_map]
  congr 1
  · simp
  · apply List.map_congr_left
    intro i _
    simp only [Function.comp_apply, Nat.succ_eq_add_one, Nat.cast_add, Nat.cast_one]
    omega

/-- The loop rule of a program that returns: `I day` says that the days through `day` are done. -/
theorem foldlM_daysThrough_ok {ε σ : Type} {f : ℤ → EStateM ε σ Unit} {I : ℤ → σ → Prop} {start target : ℤ}
    (step : ∀ day s s', start ≤ day → day ≤ target → I (day - 1) s → f day s = .ok () s' → I day s')
    {s s' : σ} (h : I (start - 1) s) (le : start ≤ target + 1)
    (run : (daysThrough start target).foldlM (fun _ day => f day) () s = .ok () s') : I target s' := by
  generalize hn : (target + 1 - start).toNat = n
  induction n generalizing start s with
  | zero =>
    have last : start - 1 = target := by omega
    rw [daysThrough_nil (by omega)] at run
    cases run
    exact last ▸ h
  | succ n ih =>
    rw [daysThrough_cons (by omega), List.foldlM_cons] at run
    obtain ⟨⟨⟩, s₁, first, rest⟩ := bind_eq_ok run
    refine ih (fun day s s' ge => step day s s' (by omega)) ?_ (by omega) rest (by omega)
    have done := step start s s₁ (Int.le_refl start) (by omega) h first
    rwa [add_sub_cancel_right]

/-- The loop rule: `I day` says that the days through `day` are done. -/
theorem foldl_daysThrough {β : Type} {f : β → ℤ → β} {I : ℤ → β → Prop} {start target : ℤ}
    (step : ∀ day b, start ≤ day → day ≤ target → I (day - 1) b → I day (f b day)) {b : β}
    (h : I (start - 1) b) (le : start ≤ target + 1) :
    I target ((daysThrough start target).foldl f b) := by
  generalize hn : (target + 1 - start).toNat = n
  induction n generalizing start b with
  | zero =>
    have last : start - 1 = target := by omega
    rw [daysThrough_nil (by omega), ← last]
    exact h
  | succ n ih =>
    rw [daysThrough_cons (by omega), List.foldl_cons]
    apply ih
    · intro day b first
      exact step day b (by omega)
    · rw [add_sub_cancel_right]
      exact step start b (Int.le_refl start) (by omega) h
    · omega
    · omega

/-- The rows of a day, after those of the days before. -/
theorem filter_day_perm {ρ : Type} (day : ρ → ℤ) (d : ℤ) (rows : List ρ) :
    (rows.filter (day · ≤ d - 1) ++ rows.filter (day · = d)).Perm (rows.filter (day · ≤ d)) := by
  have parts := List.filter_append_perm (fun r => decide (day r ≤ d - 1)) (rows.filter (day · ≤ d))
  rw [List.filter_filter, List.filter_filter] at parts
  have before : rows.filter (day · ≤ d - 1) =
      rows.filter fun r => decide (day r ≤ d - 1) && decide (day r ≤ d) := by
    apply List.filter_congr
    intro r _
    rw [← Bool.decide_and, decide_eq_decide]
    omega
  have same : rows.filter (day · = d) =
      rows.filter fun r => (!decide (day r ≤ d - 1)) && decide (day r ≤ d) := by
    apply List.filter_congr
    intro r _
    rw [← decide_not, ← Bool.decide_and, decide_eq_decide]
    omega
  rw [before, same]
  exact parts

/-! ## Inserts that skip what is there -/

section
variable {ρ κ : Type} [DecidableEq κ] (key : ρ → κ)

/-- INSERT of several rows, ON CONFLICT DO NOTHING. -/
def insertNew (values rows : List ρ) : List ρ :=
  values.foldl (fun rows v => if key v ∈ rows.map key then rows else rows ++ [v]) rows

variable {key}

/-- Nothing is skipped when no key is taken and none occurs twice. -/
theorem insertNew_of_fresh {values rows : List ρ} (distinct : Keyed key values)
    (fresh : ∀ v ∈ values, key v ∉ rows.map key) : insertNew key values rows = rows ++ values := by
  induction values generalizing rows with
  | nil => exact (List.append_nil rows).symm
  | cons v values ih =>
    obtain ⟨first, rest⟩ := List.nodup_cons.1 distinct
    have here : key v ∉ rows.map key := fresh v (List.mem_cons_self ..)
    have later : ∀ v' ∈ values, key v' ∉ (rows ++ [v]).map key := by
      intro v' mem taken
      rw [List.map_append, List.mem_append] at taken
      rcases taken with old | new
      · exact fresh v' (List.mem_cons_of_mem _ mem) old
      · rw [List.map_singleton, List.mem_singleton] at new
        exact first (new ▸ List.mem_map_of_mem mem)
    have step : insertNew key (v :: values) rows = insertNew key values (rows ++ [v]) := by
      rw [insertNew, List.foldl_cons, if_neg here]
      rfl
    rw [step, ih rest later, List.append_assoc]
    rfl

end

end MeadowOps.Lib
