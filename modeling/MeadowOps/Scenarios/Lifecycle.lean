import MeadowOps.Scenarios.Operations

/-!
# The life of a scenario package

Calls of the two services one after another, from scenarios that are drafts. What was validated for the
approval stays: a live scenario passes the check, its graded keys are those it was approved with, and a
cancelled scenario is never written again.
-/

namespace MeadowOps.Scenarios

open Db Lib Chat

/-- A scenario now and after any number of calls. -/
structure Later (s s' : Scenario) : Prop where
  left : s.status ≠ .draft → s'.status ≠ .draft
  graded : s.status ≠ .draft → SameGraded s.groundTruth s'.groundTruth
  cancelled : s.status = .cancelled → s' = s

theorem Later.refl (s : Scenario) : Later s s := ⟨id, fun _ _ _ => rfl, fun _ => rfl⟩

theorem Later.trans {s s' s'' : Scenario} (first : Later s s') (second : Later s' s'') : Later s s'' where
  left notDraft := second.left (first.left notDraft)
  graded notDraft := (first.graded notDraft).trans (second.graded (first.left notDraft))
  cancelled was := by
    obtain rfl := first.cancelled was
    exact second.cancelled was

theorem RowStep.later {free : Prop} {s s' : Scenario} (step : RowStep free s s') : Later s s' := by
  cases step with
  | same => exact .refl s
  | draft package was =>
    exact ⟨id, fun notDraft => absurd was notDraft, fun cancelled => absurd (was.symm.trans cancelled) nofun⟩
  | note package was graded => exact ⟨id, fun _ => graded, fun cancelled => absurd cancelled was⟩
  | approve now was valid =>
    exact ⟨fun _ => nofun, fun _ _ _ => rfl, fun cancelled => absurd (was.symm.trans cancelled) nofun⟩
  | activate now was _ =>
    exact ⟨fun _ => nofun, fun _ _ _ => rfl, fun cancelled => absurd (was.symm.trans cancelled) nofun⟩
  | cancel was => exact ⟨fun _ => nofun, fun _ _ _ => rfl, fun cancelled => absurd cancelled was⟩

/-- A live scenario passes the check. -/
def IsValidated (s : Scenario) : Prop := s.status.IsLive → approvalErrors s = []

theorem isValidated_of_draft {s : Scenario} (draft : s.status = .draft) : IsValidated s := by
  rintro (live | live) <;> exact absurd (draft.symm.trans live) nofun

theorem RowStep.isValidated {free : Prop} {s s' : Scenario} (step : RowStep free s s') (h : IsValidated s) :
    IsValidated s' := by
  cases step with
  | same => exact h
  | draft package was => exact isValidated_of_draft was
  | note package was graded =>
    intro live
    exact approvalErrors_of_sameGraded graded.symm rfl rfl (h live)
  | approve now was valid => exact fun _ => valid
  | activate now was _ => exact fun _ => h (.inl was)
  | cancel was => rintro (live | live) <;> cases live

theorem cancellable_of_ne {status : ScenarioStatus} (h : status ≠ .cancelled) :
    canTransition status.value ScenarioStatus.cancelled.value = true := by
  cases status with
  | cancelled => exact absurd rfl h
  | draft | approved | active => decide

/-- The status follows an edge of the state machine, or stays. -/
theorem RowStep.status {free : Prop} {s s' : Scenario} (step : RowStep free s s') :
    s'.status = s.status ∨ canTransition s.status.value s'.status.value = true := by
  cases step with
  | same | draft | note => exact .inl rfl
  | approve now was valid =>
    right
    rw [was]
    exact (by decide : canTransition ScenarioStatus.draft.value ScenarioStatus.approved.value = true)
  | activate now was _ =>
    right
    rw [was]
    exact (by decide : canTransition ScenarioStatus.approved.value ScenarioStatus.active.value = true)
  | cancel was => exact .inr (cancellable_of_ne was)

/-- The scenarios of a store, which the calls keep. -/
structure ScenarioInv (store : ChatStore) : Prop where
  keyed : Keyed Scenario.id store.scenarios
  validated : ∀ s ∈ store.scenarios, IsValidated s

theorem ScenarioInv.perform {store : ChatStore} (h : ScenarioInv store) (call : ServiceCall) :
    ScenarioInv (endState (call.perform store)) := by
  have steps := scenarioSteps_perform call h.keyed
  constructor
  case keyed => exact steps.keyed
  case validated =>
    intro s' mem'
    rcases steps.back s' mem' with ⟨draft, -⟩ | ⟨s, mem, -, step⟩
    · exact isValidated_of_draft draft
    · exact step.isValidated (h.validated s mem)

/-- The run lemma: by induction on the calls, every scenario has a later one under its id. -/
theorem ScenarioInv.performCalls {store : ChatStore} (h : ScenarioInv store) (calls : List ServiceCall) :
    ScenarioInv (performCalls calls store) ∧
      ∀ s ∈ store.scenarios, ∃ s' ∈ (performCalls calls store).scenarios, s'.id = s.id ∧ Later s s' := by
  induction calls generalizing store with
  | nil => exact ⟨h, fun s mem => ⟨s, mem, rfl, .refl s⟩⟩
  | cons call calls ih =>
    obtain ⟨inv, rest⟩ := ih (h.perform call)
    refine ⟨inv, ?_⟩
    intro s mem
    obtain ⟨s₁, mem₁, id₁, step⟩ := (scenarioSteps_perform call h.keyed).forth s mem
    obtain ⟨s₂, mem₂, id₂, later⟩ := rest s₁ mem₁
    exact ⟨s₂, mem₂, id₂.trans id₁, step.later.trans later⟩

/-- What holds of the scenarios after any calls, whatever calls follow. -/
structure PackageLaw (store : ChatStore) : Prop where
  keyed : Keyed Scenario.id store.scenarios
  validated : ∀ s ∈ store.scenarios, s.status.IsLive → approvalErrors s = []
  /-- From the approval on, only the notes of a package change. -/
  graded : ∀ calls, ∀ s ∈ store.scenarios, s.status ≠ .draft →
    ∃ s' ∈ (performCalls calls store).scenarios, s'.id = s.id ∧ SameGraded s.groundTruth s'.groundTruth
  cancelled : ∀ calls, ∀ s ∈ store.scenarios, s.status = .cancelled →
    s ∈ (performCalls calls store).scenarios
  transitions : ∀ call : ServiceCall, ∀ s' ∈ (endState (call.perform store)).scenarios,
    (s'.status = .draft ∧ s'.id ∉ store.scenarios.map Scenario.id) ∨
      ∃ s ∈ store.scenarios, s'.id = s.id ∧
        (s'.status = s.status ∨ canTransition s.status.value s'.status.value = true)
  raises : ∀ (call : ServiceCall) e store', call.perform store = .error e store' → store' = store

theorem ScenarioInv.law {store : ChatStore} (h : ScenarioInv store) : PackageLaw store where
  keyed := h.keyed
  validated := h.validated
  graded := by
    intro calls s mem notDraft
    obtain ⟨s', mem', id, later⟩ := (h.performCalls calls).2 s mem
    exact ⟨s', mem', id, later.graded notDraft⟩
  cancelled := by
    intro calls s mem cancelled
    obtain ⟨s', mem', -, later⟩ := (h.performCalls calls).2 s mem
    exact later.cancelled cancelled ▸ mem'
  transitions := by
    intro call s' mem'
    rcases (scenarioSteps_perform call h.keyed).back s' mem' with new | ⟨s, mem, id, step⟩
    · exact .inl new
    · exact .inr ⟨s, mem, id, step.status⟩
  raises := fun call _ _ raised => raisesClean_call call _ _ _ raised

/-- After any calls from a store of drafts. -/
theorem package_lifecycle (initial : ChatStore) (keyed : Keyed Scenario.id initial.scenarios)
    (drafts : ∀ s ∈ initial.scenarios, s.status = .draft) (calls : List ServiceCall) :
    PackageLaw (performCalls calls initial) := by
  have inv : ScenarioInv initial := ⟨keyed, fun s mem => isValidated_of_draft (drafts s mem)⟩
  exact (inv.performCalls calls).1.law

/-- A store with these scenarios and nothing else. -/
def storeOf (scenarios : List Scenario) : ChatStore := ⟨scenarios, [], [], [], [], [], []⟩

/-- A complete draft is approved, activated, given a narrative, and refuses another conclusion. -/
def approvedAndNoted : List ServiceCall :=
  [.scenario (.approveScenario 1 5), .scenario (.activateScenario 1 Flow.RowOrder.inserted 6),
    .scenario (.regenerateNarrative 1 (some "the truck was late")),
    .scenario (.updateGroundTruth 1 (Dict.ofList [("uncertainty", .string "none")]))]

/-- The draft has become active with its narrative. -/
theorem package_lifecycle_approvedAndNoted :
    (performCalls approvedAndNoted (storeOf [completeDraft])).scenarios.all (fun s =>
      decide (s.status = .active) && (s.groundTruth.get? "narrative").isSome) = true ∧
    PackageLaw (performCalls approvedAndNoted (storeOf [completeDraft])) := by
  have keyed : Keyed Scenario.id (storeOf [completeDraft]).scenarios := List.nodup_singleton _
  refine ⟨by decide +kernel, package_lifecycle _ keyed ?_ _⟩
  intro s mem
  rw [List.mem_singleton.1 mem]
  rfl

end MeadowOps.Scenarios
