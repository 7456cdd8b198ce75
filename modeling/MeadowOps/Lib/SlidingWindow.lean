import Mathlib.Order.Monotone.Defs
import Mathlib.Algebra.Order.Group.Unbundled.Basic
import Mathlib.Data.List.Basic
import Mathlib.Data.List.Induction

/-!
# Sliding windows

Times that are admitted one after another, each with fewer than `max` before it in the window that ends at it,
never number more than `max` in a window, wherever it ends.
-/

namespace MeadowOps.Lib

/-- The start of the half-open window that ends at a time, as a subtraction gives it, exact or rounded. -/
structure Window (T : Type) [LinearOrder T] where
  start : T → T
  mono : Monotone start

namespace Window

/-- The window of a length. -/
def ofLength {T : Type} [LinearOrder T] [AddGroup T] [AddRightMono T] (length : T) : Window T :=
  ⟨(· - length), fun _ _ le => sub_le_sub_right le length⟩

variable {T : Type} [LinearOrder T] (w : Window T)

/-- The times after the start of the window that ends at `t`. -/
def recent (t : T) (times : List T) : List T := times.filter (w.start t < ·)

/-- The times in the window that ends at `t`. -/
def inside (t : T) (times : List T) : List T := (w.recent t times).filter (· ≤ t)

@[simp] theorem recent_nil (t : T) : w.recent t [] = [] := rfl

theorem recent_append (t : T) (times times' : List T) :
    w.recent t (times ++ times') = w.recent t times ++ w.recent t times' := List.filter_append ..

/-- A later window has lost what an earlier one had lost. -/
theorem recent_recent {t t' : T} (later : t ≤ t') (times : List T) :
    w.recent t' (w.recent t times) = w.recent t' times := by
  unfold recent
  rw [List.filter_filter]
  apply List.filter_congr
  intro s _
  have starts : w.start t' < s → w.start t < s := (w.mono later).trans_lt
  simpa using starts

theorem recent_eq_nil {t t' : T} (later : t ≤ t') {times : List T} (none : w.recent t times = []) :
    w.recent t' times = [] := by
  rw [← w.recent_recent later, none, recent_nil]

/-- Times that are not later than the end of the window. -/
theorem inside_eq_recent {t : T} {times : List T} (past : ∀ s ∈ times, s ≤ t) :
    w.inside t times = w.recent t times := by
  rw [inside, List.filter_eq_self]
  intro s mem
  exact decide_eq_true (past s (List.mem_filter.1 mem).1)

/-- Each time comes when fewer than `max` are in its window. -/
def Admits (max : ℕ) (times : List T) : Prop :=
  ∀ before t after, times = before ++ t :: after → (w.recent t before).length < max

theorem admits_nil (max : ℕ) : w.Admits max [] := by
  intro before t after split
  simp at split

variable {w}

theorem Admits.snoc {max : ℕ} {times : List T} (h : w.Admits max times) {t : T}
    (room : (w.recent t times).length < max) : w.Admits max (times ++ [t]) := by
  intro before s after split
  rcases List.eq_nil_or_concat after with rfl | ⟨after, last, rfl⟩
  · obtain ⟨rfl, rfl⟩ := List.append_inj' split rfl
      |>.imp_right fun same => (List.cons.inj same).1
    exact room
  · rw [List.concat_eq_append, ← List.cons_append, ← List.append_assoc] at split
    exact h before s after (List.append_inj' split rfl).1

theorem Admits.initial {max : ℕ} {times times' : List T} (h : w.Admits max (times ++ times')) :
    w.Admits max times := by
  rintro before t after rfl
  exact h before t (after ++ times') (by simp)

/-- No window has more than `max` admitted times. -/
theorem Admits.atMost {max : ℕ} {times : List T} (h : w.Admits max times) (t : T) :
    (w.inside t times).length ≤ max := by
  induction times using List.reverseRecOn with
  | nil => exact Nat.zero_le _
  | append_singleton times last ih =>
    have before := ih h.initial
    have split : w.inside t (times ++ [last]) = w.inside t times ++ w.inside t [last] := by
      rw [inside, recent_append, List.filter_append, inside, inside]
    rw [split, List.length_append]
    by_cases here : w.start t < last ∧ last ≤ t
    · -- What is in the window was recent when the last one came.
      have recent : (w.inside t times).length ≤ (w.recent last times).length := by
        apply List.Sublist.length_le
        rw [inside, Window.recent, List.filter_filter]
        apply List.monotone_filter_right
        intro s both
        simp only [Bool.and_eq_true, decide_eq_true_eq] at both ⊢
        exact (w.mono here.2).trans_lt both.2
      have room := h times last [] rfl
      have one : (w.inside t [last]).length ≤ [last].length :=
        Nat.le_trans (List.length_filter_le _ _) (List.length_filter_le _ _)
      rw [List.length_singleton] at one
      omega
    · have out : w.inside t [last] = [] := by
        rw [inside, Window.recent, List.filter_filter]
        simp only [List.filter_eq_nil_iff, List.mem_singleton]
        rintro s rfl both
        simp only [Bool.and_eq_true, decide_eq_true_eq] at both
        exact here ⟨both.2, both.1⟩
      rw [out]
      exact before

end Window

end MeadowOps.Lib
