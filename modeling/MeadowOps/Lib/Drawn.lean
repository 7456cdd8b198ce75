import MeadowOps.Lib.Table
import Mathlib.Data.List.Induction
import Mathlib.Logic.Encodable.Basic

/-!
# Generated keys

A generator of keys gives each new row a key by what the row is for. No two of them are the same, and none is
taken.
-/

namespace MeadowOps.Lib

variable {ι κ ρ : Type}

structure Drawn (draw : ι → κ) (taken : List κ) : Prop where
  injective : Function.Injective draw
  unused : ∀ i, draw i ∉ taken

/-- Among the keys that rows have. -/
theorem Drawn.ne {draw : ι → κ} {key : ρ → κ} {rows : List ρ} (h : Drawn draw (rows.map key)) {r : ρ}
    (mem : r ∈ rows) (i : ι) : key r ≠ draw i :=
  fun same => h.unused i (same ▸ List.mem_map_of_mem mem)

/-- A row of another key than all there are is inserted. -/
theorem insert?_of_ne [DecidableEq κ] (key : ρ → κ) {r : ρ} {rows : List ρ} (h : ∀ s ∈ rows, key s ≠ key r) :
    insert? key r rows = some (rows ++ [r]) := by
  have free : key r ∉ rows.map key := by
    intro taken
    obtain ⟨s, mem, same⟩ := List.mem_map.1 taken
    exact h s mem same
  exact if_neg free

/-! ## There are always new keys -/

theorem exists_above (l : List ℕ) : ∃ b, ∀ n ∈ l, n < b := by
  induction l with
  | nil => exact ⟨0, fun _ mem => nomatch mem⟩
  | cons a l ih =>
    obtain ⟨b, above⟩ := ih
    refine ⟨max (a + 1) b, fun n mem => ?_⟩
    rcases List.mem_cons.1 mem with rfl | later
    · omega
    · have := above n later
      omega

theorem drawn_above {draw : ι → ℕ} (injective : Function.Injective draw) {taken : List ℕ} {b : ℕ}
    (above : ∀ n ∈ taken, n < b) : Drawn (fun i => b + draw i) taken where
  injective := fun _ _ same => injective (Nat.add_left_cancel same)
  unused := fun i mem => absurd (above _ mem) (Nat.not_lt.2 (Nat.le_add_right b (draw i)))

/-- A text of `n` letters. -/
def letters (n : ℕ) : String := String.ofList (List.replicate n 'f')

/-- Texts are told apart, and from those that are taken, by their lengths. -/
theorem drawn_letters {draw : ι → ℕ} (injective : Function.Injective draw) (start : String)
    {taken : List String} {b : ℕ} (above : ∀ s ∈ taken, s.length < b) :
    Drawn (fun i => start ++ letters (b + draw i)) taken := by
  have size : ∀ i, (start ++ letters (b + draw i)).length = start.length + (b + draw i) := by
    intro i
    rw [String.length_append, letters, String.length_ofList, List.length_replicate]
  constructor
  · intro i j same
    have sizes := congrArg String.length same
    dsimp only at sizes
    rw [size, size] at sizes
    exact injective (by omega)
  · intro i mem
    have short := above _ mem
    rw [size] at short
    omega

/-- The number a text stands for, in a base above every character and with a leading one. -/
theorem foldl_chars_injective (l m : List Char) (same : l.foldl (fun n c => n * 1114112 + c.toNat) 1 =
    m.foldl (fun n c => n * 1114112 + c.toNat) 1) : l = m := by
  have digit : ∀ c : Char, c.toNat < 1114112 := by
    intro c
    rcases c.valid with low | ⟨-, high⟩
    · exact low.trans (by decide)
    · exact high
  have positive : ∀ l : List Char, 1 ≤ l.foldl (fun n c => n * 1114112 + c.toNat) 1 := by
    intro l
    induction l using List.reverseRecOn with
    | nil => exact le_rfl
    | append_singleton l c ih =>
      rw [List.foldl_append, List.foldl_cons, List.foldl_nil]
      omega
  induction l using List.reverseRecOn generalizing m with
  | nil =>
    rcases List.eq_nil_or_concat m with rfl | ⟨m, c, rfl⟩
    · rfl
    · rw [List.concat_eq_append, List.foldl_append, List.foldl_cons, List.foldl_nil, List.foldl_nil] at same
      have := positive m
      omega
  | append_singleton l c ih =>
    rcases List.eq_nil_or_concat m with rfl | ⟨m, c', rfl⟩
    · rw [List.foldl_append, List.foldl_cons, List.foldl_nil, List.foldl_nil] at same
      have := positive l
      omega
    · rw [List.concat_eq_append, List.foldl_append, List.foldl_append, List.foldl_cons, List.foldl_cons,
        List.foldl_nil, List.foldl_nil] at same
      have := digit c
      have := digit c'
      obtain rfl := ih m (by omega)
      have last : c.toNat = c'.toNat := by omega
      rw [List.concat_eq_append, Char.toNat_inj.1 last]

end MeadowOps.Lib
