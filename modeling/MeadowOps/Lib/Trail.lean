import Mathlib.Data.List.Chain

/-!
# Trails of transitions

A log of the transitions of one object: the first entry creates it, each later one starts where the
entry before it ended, and the last one ends in the state the object is in.
-/

namespace MeadowOps.Lib

variable {ε S : Type}

structure Trail (src : ε → Option S) (dst : ε → S) (initial : S) (edge : S → S → Prop) (entries : List ε)
    (current : S) : Prop where
  created : ∃ e, entries.head? = some e ∧ src e = none ∧ dst e = initial
  linked : entries.IsChain fun e f => src f = some (dst e)
  edges : ∀ e ∈ entries, ∀ s, src e = some s → edge s (dst e)
  last : ∃ e, entries.getLast? = some e ∧ dst e = current

namespace Trail

variable {src : ε → Option S} {dst : ε → S} {initial : S} {edge : S → S → Prop} {entries : List ε}
  {current : S}

theorem single {e : ε} (hs : src e = none) (hd : dst e = initial) :
    Trail src dst initial edge [e] initial where
  created := ⟨e, rfl, hs, hd⟩
  linked := .singleton e
  edges := by
    intro e' mem s hs'
    rw [List.mem_singleton.1 mem, hs] at hs'
    cases hs'
  last := ⟨e, rfl, hd⟩

/-- A transition from where the object is. -/
theorem append (h : Trail src dst initial edge entries current) {e : ε} {after : S}
    (hs : src e = some current) (hd : dst e = after) (he : edge current after) :
    Trail src dst initial edge (entries ++ [e]) after where
  created := by
    obtain ⟨first, head, none, start⟩ := h.created
    exact ⟨first, by rw [List.head?_append, head]; rfl, none, start⟩
  linked := by
    refine h.linked.append (.singleton e) ?_
    intro x hx y hy
    obtain ⟨l, last, now⟩ := h.last
    rw [Option.mem_def, last] at hx
    cases hx
    cases hy
    rw [hs, now]
  edges := by
    intro e' mem s hs'
    rcases List.mem_append.1 mem with old | new
    · exact h.edges e' old s hs'
    · rw [List.mem_singleton.1 new] at hs' ⊢
      rw [hs] at hs'
      cases hs'
      exact hd ▸ he
  last := ⟨e, List.getLast?_concat, hd⟩

end Trail

end MeadowOps.Lib
