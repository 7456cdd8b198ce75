import Mathlib.Data.List.Induction
import Mathlib.Data.List.Forall2

/-!
# Services and their logs

A service answers one request after another, each from the state that the requests before it left. Its log has the
requests with their answers. `Service.invariant` is the rule for what the log and the state satisfy together;
`Service.unwind` compares two runs.
-/

namespace MeadowOps.Lib

/-- States `σ`, requests `ι`, answers `ω`. -/
structure Service (σ ι ω : Type) where
  handle : σ → ι → ω × σ

structure Exchange (ι ω : Type) where
  asked : ι
  answer : ω
  deriving DecidableEq, Repr

namespace Service

variable {σ ι ω : Type} (S : Service σ ι ω)

/-- The state that some requests leave. -/
def after (s : σ) (asked : List ι) : σ := asked.foldl (fun s i => (S.handle s i).2) s

def log : σ → List ι → List (Exchange ι ω)
  | _, [] => []
  | s, i :: asked => ⟨i, (S.handle s i).1⟩ :: log (S.handle s i).2 asked

variable {S} {s : σ}

@[simp] theorem log_asked (asked : List ι) : (S.log s asked).map Exchange.asked = asked := by
  induction asked generalizing s with
  | nil => rfl
  | cons i asked ih => rw [log, List.map_cons, ih]

theorem log_append (before later : List ι) :
    S.log s (before ++ later) = S.log s before ++ S.log (S.after s before) later := by
  induction before generalizing s with
  | nil => rfl
  | cons i before ih => exact congrArg _ ih

theorem after_append (before later : List ι) : S.after s (before ++ later) = S.after (S.after s before) later :=
  List.foldl_append ..

/-- A log is cut at any place: what comes before is the log of its requests, what comes after goes on from there. -/
theorem log_split {asked : List ι} {before later : List (Exchange ι ω)} (split : S.log s asked = before ++ later) :
    S.log s (before.map Exchange.asked) = before ∧
      S.log (S.after s (before.map Exchange.asked)) (later.map Exchange.asked) = later := by
  have whole : asked = before.map Exchange.asked ++ later.map Exchange.asked := by
    rw [← List.map_append, ← split, log_asked]
  have lengths : (S.log s (before.map Exchange.asked)).length = before.length := by
    have asked := congrArg List.length (log_asked (S := S) (s := s) (before.map Exchange.asked))
    rwa [List.length_map, List.length_map] at asked
  rw [whole, log_append] at split
  exact List.append_inj split lengths

/-- An exchange has the answer of the state before it. -/
theorem answer_of_log {asked : List ι} {before later : List (Exchange ι ω)} {e : Exchange ι ω}
    (split : S.log s asked = before ++ e :: later) :
    e.answer = (S.handle (S.after s (before.map Exchange.asked)) e.asked).1 := by
  obtain ⟨here, -⟩ := List.cons.inj (log_split split).2
  exact (congrArg Exchange.answer here).symm

/-- What holds of the log so far and the state it left, once it holds at the start and through every request. -/
theorem invariant {I : List (Exchange ι ω) → σ → Prop} (start : I [] s)
    (step : ∀ past s i, I past s → I (past ++ [⟨i, (S.handle s i).1⟩]) (S.handle s i).2) (asked : List ι) :
    I (S.log s asked) (S.after s asked) := by
  induction asked using List.reverseRecOn with
  | nil => exact start
  | append_singleton asked i ih =>
    rw [log_append, after_append]
    exact step _ _ i ih

/-- Two runs whose requests look the same, from states that look the same: as long as the exchanges are quiet, the
answers are the same and the states go on to look the same. -/
theorem unwind (Like : σ → σ → Prop) {Same : ι → ι → Prop} (Quiet : Exchange ι ω → Prop)
    (step : ∀ s s' i i', Like s s' → Same i i' → Quiet ⟨i, (S.handle s i).1⟩ → Quiet ⟨i', (S.handle s' i').1⟩ →
      (S.handle s i).1 = (S.handle s' i').1 ∧ Like (S.handle s i).2 (S.handle s' i').2)
    {s s' : σ} (like : Like s s') {asked asked' : List ι} (same : List.Forall₂ Same asked asked')
    (quiet : ∀ e ∈ S.log s asked, Quiet e) (quiet' : ∀ e ∈ S.log s' asked', Quiet e) :
    (S.log s asked).map Exchange.answer = (S.log s' asked').map Exchange.answer := by
  induction same generalizing s s' with
  | nil => rfl
  | cons first _ ih =>
    rw [log, List.forall_mem_cons] at quiet quiet'
    obtain ⟨answers, next⟩ := step _ _ _ _ like first quiet.1 quiet'.1
    rw [log, log, List.map_cons, List.map_cons, ih next quiet.2 quiet'.2, answers]

end Service

end MeadowOps.Lib
