import Mathlib.Data.List.Perm.Subperm
import Mathlib.Data.List.Nodup

/-!
# A view that follows a log

The log only grows. Each new entry is also sent to the view, and arrives later and in order. The view shows the
beginning of the log, and at least all that has arrived; it may be ahead, from a copy of the log or an answer that
overtook the entries.
-/

namespace MeadowOps.Lib

variable {α : Type}

/-- The view `shown` of a log of which the entries `pending` are still on their way. -/
structure Follows (log pending shown : List α) : Prop where
  beginning : shown <+: log
  under : pending <:+ log
  arrived : log.length ≤ shown.length + pending.length

/-- An entry that the view gets. -/
def addOnce [DecidableEq α] (a : α) (shown : List α) : List α := if a ∈ shown then shown else shown ++ [a]

namespace Follows

variable {log pending shown : List α} {a : α}

/-- The log grows, and the entry is sent. -/
theorem push (h : Follows log pending shown) (a : α) : Follows (log ++ [a]) (pending ++ [a]) shown where
  beginning := h.beginning.trans (List.prefix_append _ _)
  under := by
    obtain ⟨before, split⟩ := h.under
    exact ⟨before, by rw [← split, List.append_assoc]⟩
  arrived := by
    have arrived := h.arrived
    simp only [List.length_append, List.length_singleton]
    omega

/-- When nothing is on its way, the view is the log. -/
theorem settled (h : Follows log [] shown) : shown = log := by
  refine h.beginning.eq_of_length_le ?_
  have arrived := h.arrived
  simp only [List.length_nil] at arrived
  omega

/-- A copy of the log that lacks nothing that has arrived. -/
theorem snapshot (nodup : log.Nodup) (under : pending <:+ log) (copy : shown <+: log)
    (fresh : ∀ a ∈ log, a ∈ shown ∨ a ∈ pending) : Follows log pending shown where
  beginning := copy
  under := under
  arrived := by
    have all : log ⊆ shown ++ pending := fun a mem => List.mem_append.2 (fresh a mem)
    have length := (nodup.subperm all).length_le
    rwa [List.length_append] at length

variable [DecidableEq α]

/-- The next entry arrives. -/
theorem deliver (nodup : log.Nodup) (h : Follows log (a :: pending) shown) :
    Follows log pending (addOnce a shown) := by
  obtain ⟨before, split⟩ := h.under
  obtain ⟨rest, cut⟩ := h.beginning
  have arrived := h.arrived
  have under : pending <:+ log := ⟨before ++ [a], by rw [← split, List.append_assoc, List.singleton_append]⟩
  have length : log.length = before.length + (pending.length + 1) := by
    rw [← split, List.length_append, List.length_cons]
  rw [List.length_cons] at arrived
  rcases Nat.lt_or_ge before.length shown.length with ahead | level
  · have here : a ∈ shown := by
      have at' : log[before.length]? = some a := by rw [← split, List.getElem?_append_right (Nat.le_refl _)]; simp
      rw [← cut, List.getElem?_append_left ahead] at at'
      exact List.mem_of_getElem? at'
    rw [addOnce, if_pos here]
    exact ⟨h.beginning, under, by omega⟩
  · have same : shown = before ∧ rest = a :: pending :=
      List.append_inj (cut.trans split.symm) (by omega)
    obtain ⟨rfl, rfl⟩ := same
    have absent : a ∉ shown := by
      rw [← split] at nodup
      exact fun mem => List.disjoint_of_nodup_append nodup mem List.mem_cons_self
    rw [addOnce, if_neg absent]
    refine ⟨⟨pending, by rw [List.append_assoc]; exact cut⟩, under, ?_⟩
    rw [List.length_append, List.length_singleton]
    omega

/-- An entry arrives by another way, when the view shows all before it. -/
theorem hear (h : Follows log pending shown) (mem : a ∈ log)
    (before : ∀ p q : List α, log = p ++ a :: q → ∀ b ∈ p, b ∈ shown) (nodup : log.Nodup) :
    Follows log pending (addOnce a shown) := by
  unfold addOnce
  split
  · exact h
  · rename_i absent
    obtain ⟨p, q, split⟩ := List.append_of_mem mem
    obtain ⟨rest, cut⟩ := h.beginning
    have all := before p q split
    -- The view is all that comes before the entry.
    have same : shown = p := by
      rcases List.append_eq_append_iff.1 (cut.trans split) with ⟨extra, rfl, restEq⟩ | ⟨extra, rfl, restEq⟩
      · cases extra with
        | nil => exact (List.append_nil _).symm
        | cons b extra =>
          have twice := all b (List.mem_append_right _ List.mem_cons_self)
          rw [split, List.append_assoc] at nodup
          exact absurd List.mem_cons_self (List.disjoint_of_nodup_append nodup twice)
      · cases extra with
        | nil => exact List.append_nil _
        | cons b extra =>
          obtain ⟨rfl, -⟩ := List.cons.inj restEq
          exact absurd (List.mem_append_right _ List.mem_cons_self) absent
    subst same
    have arrived := h.arrived
    refine ⟨⟨q, by rw [split, List.append_assoc]; rfl⟩, h.under, ?_⟩
    rw [List.length_append, List.length_singleton]
    omega

end Follows

end MeadowOps.Lib
