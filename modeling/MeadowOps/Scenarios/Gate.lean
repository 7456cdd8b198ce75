import MeadowOps.Scenarios.Service

/-!
# The approval gate under concurrent transactions

Every guard is checked on the copy a transaction read. `GateMeets` says when a commit cannot undo what
another transaction committed after that read; a run of such commits keeps an approved package as it
was validated, and never revives a cancelled scenario.
-/

namespace MeadowOps.Scenarios

open Db Lib

/-- All keys but the narrative and the expected query: what is graded. -/
def SameGraded (g h : GroundTruth) : Prop := ∀ key ∉ builderNoteKeys, g.get? key = h.get? key

/-- `APPROVED` or `ACTIVE`. -/
def ScenarioStatus.IsLive (status : ScenarioStatus) : Prop := status = .approved ∨ status = .active

/-- `validate_for_approval` on a row. -/
def approvalErrors (row : Scenario) : List String :=
  validateForApproval row.groundTruth (some row.difficultyTier.value) (some row.competencyCluster.value)

def Call.IsApproval : Call → Bool
  | .approveScenario _ => true
  | _ => false

/-- What the last committed approval had read, and validated. -/
def validatedCopy (commits : List (Call × Scenario)) : Option Scenario :=
  (commits.reverse.find? fun commit => commit.1.IsApproval).map Prod.snd

/-- An approved or active scenario passes the check, and its graded keys are the validated ones. -/
def Gated (row : Scenario) (commits : List (Call × Scenario)) : Prop :=
  row.status.IsLive → approvalErrors row = [] ∧
    ∃ copy, validatedCopy commits = some copy ∧ SameGraded row.groundTruth copy.groundTruth

/-- A package that a call assigns leaves a live row's graded keys as they are, or is not written. -/
def PackageMeets (row copy : Scenario) (package : GroundTruth) : Prop :=
  row.status.IsLive → samePackage package copy.groundTruth = true ∨ SameGraded row.groundTruth package

/-- The committed row still allows what the call does with its copy. -/
def GateMeets (row : Scenario) (call : Call) (copy : Scenario) : Prop :=
  match call with
  | .updateGroundTruth updates => PackageMeets row copy (copy.groundTruth.update updates)
  | .regenerateNarrative answer => ∀ text ∈ answer, PackageMeets row copy
      (copy.groundTruth.update (Dict.ofList [("narrative", .string text)]))
  | .regenerateExpectedQuery answer => ∀ text ∈ answer, PackageMeets row copy
      (copy.groundTruth.update (Dict.ofList [("expected_query", .string text)]))
  | .regenerateScenario env => ∀ flag package, sourceFlag copy env = .ok flag →
      generatedPackage env flag = .ok package → PackageMeets row copy package
  | .approveScenario _ => row.status ≠ .cancelled ∧ SameGraded row.groundTruth copy.groundTruth
  | .activateScenario _ _ => row.status ≠ .cancelled
  | .cancelScenario => True

/-- The interleavings of calls on one scenario that starts as a draft. -/
def gate : System (RowTx.State Scenario Call) (RowTx.Action Call) :=
  RowTx.system outcome (fun _ => True) (·.status = .draft)

/-! ## What a call writes -/

/-- What a call that returns assigns: a package, or a status along an edge. -/
inductive Effect (copy : Scenario) : Call → Assigned → Prop where
  | package {call : Call} (package : GroundTruth)
      (meets : ∀ row, GateMeets row call copy → PackageMeets row copy package)
      (edits : call.IsApproval = false) : Effect copy call { groundTruth := some package }
  | approve (now : Instant) (was : copy.status = .draft) (valid : approvalErrors copy = []) :
      Effect copy (.approveScenario now) { status := some .approved, approvedAt := some now }
  | activate (blocking : Option Uuid) (now : Instant) (was : copy.status = .approved) :
      Effect copy (.activateScenario blocking now) { status := some .active, activatedAt := some now }
  | cancel (was : copy.status ≠ .cancelled) : Effect copy .cancelScenario { status := some .cancelled }

theorem requireTransition_ok {scenario : Scenario} {toStatus : ScenarioStatus}
    (h : requireTransition scenario toStatus = .ok ()) :
    canTransition scenario.status.value toStatus.value = true := by
  unfold requireTransition at h
  split at h
  · assumption
  · cases h

theorem draft_of_approvable {status : ScenarioStatus}
    (h : canTransition status.value ScenarioStatus.approved.value = true) : status = .draft := by
  cases status <;> first | rfl | exact absurd h (by decide)

theorem approved_of_activatable {status : ScenarioStatus}
    (h : canTransition status.value ScenarioStatus.active.value = true) : status = .approved := by
  cases status <;> first | rfl | exact absurd h (by decide)

theorem not_cancelled_of_cancellable {status : ScenarioStatus}
    (h : canTransition status.value ScenarioStatus.cancelled.value = true) : status ≠ .cancelled := by
  rintro rfl
  exact absurd h (by decide)

theorem service_effect {call : Call} {copy : Scenario} {assigned : Assigned}
    (ok : call.service copy = .ok assigned) : Effect copy call assigned := by
  cases call with
  | updateGroundTruth updates =>
    simp only [Call.service, updateGroundTruth] at ok
    split at ok
    · cases ok
    · cases ok
      exact .package _ (fun _ meets => meets) rfl
  | regenerateNarrative answer =>
    obtain ⟨text, rfl, rfl⟩ := builderNote_ok ok
    exact .package _ (fun _ meets => meets text rfl) rfl
  | regenerateExpectedQuery answer =>
    obtain ⟨text, rfl, rfl⟩ := builderNote_ok ok
    exact .package _ (fun _ meets => meets text rfl) rfl
  | regenerateScenario env =>
    obtain ⟨flag, source, ok⟩ := ok_of_bind ok
    obtain ⟨package, generated, ok⟩ := ok_of_bind ok
    cases ok
    exact .package package (fun _ meets => meets flag package source generated) rfl
  | approveScenario now =>
    obtain ⟨_, transition, ok⟩ := ok_of_bind ok
    simp only at ok
    split at ok
    · rename_i valid
      cases ok
      exact .approve now (draft_of_approvable (requireTransition_ok transition))
        (List.isEmpty_iff.1 valid)
    · cases ok
  | activateScenario blocking now =>
    obtain ⟨_, transition, ok⟩ := ok_of_bind ok
    cases blocking with
    | some other => cases ok
    | none =>
      cases ok
      exact .activate none now (approved_of_activatable (requireTransition_ok transition))
  | cancelScenario =>
    obtain ⟨_, transition, ok⟩ := ok_of_bind ok
    cases ok
    exact .cancel (not_cancelled_of_cancellable (requireTransition_ok transition))

/-! ## One commit -/

/-- A copy that other commits may have overtaken: the row has not gone back to a draft, and has the
same tags. -/
structure Behind (row copy : Scenario) : Prop where
  leftDraft : copy.status ≠ .draft → row.status ≠ .draft
  tier : row.difficultyTier = copy.difficultyTier
  cluster : row.competencyCluster = copy.competencyCluster

theorem SameGraded.required {g h : GroundTruth} (same : SameGraded g h) :
    ∀ field ∈ requiredGroundTruthFields, g.get? field = h.get? field := by
  have apart : ∀ field ∈ requiredGroundTruthFields, field ∉ builderNoteKeys := by decide
  intro field mem
  exact same field (apart field mem)

theorem SameGraded.symm {g h : GroundTruth} (same : SameGraded g h) : SameGraded h g :=
  fun key note => (same key note).symm

theorem SameGraded.trans {g h k : GroundTruth} (first : SameGraded g h) (second : SameGraded h k) :
    SameGraded g k := fun key note => (first key note).trans (second key note)

/-- The check on a row whose graded keys are those of a checked one. -/
theorem approvalErrors_of_sameGraded {row copy : Scenario}
    (same : SameGraded row.groundTruth copy.groundTruth)
    (tier : row.difficultyTier = copy.difficultyTier)
    (cluster : row.competencyCluster = copy.competencyCluster) (valid : approvalErrors copy = []) :
    approvalErrors row = [] := by
  rw [approvalErrors, validateForApproval_congr _ _ same.required, tier, cluster]
  exact valid

theorem validatedCopy_of_other {commits : List (Call × Scenario)} {call : Call} {copy : Scenario}
    (h : call.IsApproval = false) :
    validatedCopy (commits ++ [(call, copy)]) = validatedCopy commits := by
  simp [validatedCopy, h]

theorem validatedCopy_of_approval {commits : List (Call × Scenario)} {call : Call} {copy : Scenario}
    (h : call.IsApproval = true) : validatedCopy (commits ++ [(call, copy)]) = some copy := by
  simp [validatedCopy, h]

section Commit

variable {call : Call} {copy row : Scenario} {assigned : Assigned}

/-- A status that is assigned and differs from the copy's. -/
theorem write_status {status : ScenarioStatus} (h : assigned.status = some status)
    (ne : status ≠ copy.status) : ((assigned.changes copy).write row).status = status := by
  simp [Assigned.changes, Assigned.write, Option.filter, h, ne]

/-- A commit never makes a draft. -/
theorem status_after (effect : Effect copy call assigned) :
    ((assigned.changes copy).write row).status = row.status ∨
      ((assigned.changes copy).write row).status ≠ .draft := by
  cases effect with
  | package package _ _ =>
    rw [write_package]
    exact .inl rfl
  | approve now was _ =>
    rw [write_status rfl (by rw [was]; decide)]
    exact .inr (by decide)
  | activate blocking now was =>
    rw [write_status rfl (by rw [was]; decide)]
    exact .inr (by decide)
  | cancel was =>
    rw [write_status rfl was.symm]
    exact .inr (by decide)

theorem behind_after {other : Scenario} (effect : Effect copy call assigned)
    (behind : Behind row other) : Behind ((assigned.changes copy).write row) other where
  leftDraft := by
    intro left
    rcases status_after effect with same | left'
    · rw [same]
      exact behind.leftDraft left
    · exact left'
  tier := behind.tier
  cluster := behind.cluster

/-- A cancelled row stays cancelled. -/
theorem cancelled_after (effect : Effect copy call assigned) (meets : GateMeets row call copy)
    (cancelled : row.status = .cancelled) :
    ((assigned.changes copy).write row).status = .cancelled := by
  cases effect with
  | package package _ _ =>
    rw [write_package]
    exact cancelled
  | approve now was _ => exact absurd cancelled meets.1
  | activate blocking now was => exact absurd cancelled meets
  | cancel was => exact write_status rfl was.symm

theorem gated_after {commits : List (Call × Scenario)} (gated : Gated row commits)
    (behind : Behind row copy) (meets : GateMeets row call copy)
    (effect : Effect copy call assigned) :
    Gated ((assigned.changes copy).write row) (commits ++ [(call, copy)]) := by
  intro live
  cases effect with
  | package package keeps other =>
    rw [write_package] at live ⊢
    rw [validatedCopy_of_other other]
    obtain ⟨valid, validated, found, same⟩ := gated live
    by_cases skipped : samePackage package copy.groundTruth = true
    · rw [if_pos skipped]
      exact ⟨valid, validated, found, same⟩
    · rw [if_neg skipped]
      have still := ((keeps row meets live).resolve_left skipped).symm
      have valid' : approvalErrors { row with groundTruth := package } = [] :=
        approvalErrors_of_sameGraded still rfl rfl valid
      exact ⟨valid', validated, found, still.trans same⟩
  | approve now was valid =>
    rw [validatedCopy_of_approval rfl]
    have valid' := approvalErrors_of_sameGraded meets.2 behind.tier behind.cluster valid
    exact ⟨valid', copy, rfl, meets.2⟩
  | activate blocking now was =>
    rw [validatedCopy_of_other rfl]
    -- the row may have moved on from the copy's APPROVED, to ACTIVE only
    have wasLive : row.status.IsLive := by
      have left := behind.leftDraft (by rw [was]; decide)
      have notCancelled : row.status ≠ .cancelled := meets
      unfold ScenarioStatus.IsLive
      cases status : row.status <;> simp_all
    exact gated wasLive
  | cancel was =>
    rw [write_status rfl was.symm] at live
    rcases live with h | h <;> cases h

end Commit

/-! ## The runs -/

theorem gated_and_behind {s : RowTx.State Scenario Call}
    (h : gate.Reach (RowTx.CommitsMeet GateMeets) s) :
    Gated s.row s.commits ∧ ∀ t call copy, RowTx.Holds s t call copy → Behind s.row copy := by
  apply RowTx.invariant (I := Gated) (K := fun row _ copy => Behind row copy) ?_ ?_ ?_ ?_ h
  · intro row draft live
    have isDraft : row.status = .draft := draft
    rw [isDraft] at live
    rcases live with h | h <;> cases h
  · intro row commits call _ _
    exact ⟨id, rfl, rfl⟩
  · intro row commits call copy gated behind meets returned
    obtain ⟨assigned, ok⟩ := service_of_returned returned
    rw [applied_eq ok]
    exact gated_after gated behind meets (service_effect ok)
  · intro row commits call copy call' copy' _ _ _ returned behind
    obtain ⟨assigned, ok⟩ := service_of_returned returned
    rw [applied_eq ok]
    exact behind_after (service_effect ok) behind

/-- A step whose commit meets the condition does not revive a cancelled scenario. -/
theorem step_cancelled {s s' : RowTx.State Scenario Call} {a : RowTx.Action Call}
    (meets : RowTx.CommitsMeet GateMeets s a) (moved : gate.step s a s')
    (cancelled : s.row.status = .cancelled) : s'.row.status = .cancelled := by
  cases RowTx.step_move moved.2 with
  | read row _ _ => rw [row, cancelled]
  | quiet row _ _ _ => rw [row, cancelled]
  | commit flushed row returned _ _ =>
    obtain ⟨assigned, ok⟩ := service_of_returned returned
    rw [row, applied_eq ok]
    exact cancelled_after (service_effect ok) (meets _ _ _ rfl flushed) cancelled

/-- In every run whose commits meet the condition, a live scenario passes the check and has the
graded keys that were validated, and no further such step overwrites a cancelled status. -/
theorem gate_not_bypassed {s : RowTx.State Scenario Call}
    (h : gate.Reach (RowTx.CommitsMeet GateMeets) s) :
    Gated s.row s.commits ∧ ∀ a s', RowTx.CommitsMeet GateMeets s a → gate.step s a s' →
      s.row.status = .cancelled → s'.row.status = .cancelled :=
  ⟨(gated_and_behind h).1, fun _ _ meets moved cancelled => step_cancelled meets moved cancelled⟩

/-- A draft whose package is complete. -/
def completeDraft : Scenario where
  id := 1
  scenarioType := .dataQualityIssue
  competencyCluster := .communication
  difficultyTier := .standard
  source := .exceptionFlag
  sourceExceptionFlagId := some 2
  groundTruth := Dict.ofList
    [("known_cause", .string "a late truck"), ("evidence", .object [("category", .string "late")]),
     ("supporting_signals", texts ["carrier delay"]), ("distractors", texts ["a promotion"]),
     ("expected_considerations", texts ["safety stock"]),
     ("acceptable_conclusions", texts ["expedite"]), ("unacceptable_conclusions", texts ["wait"]),
     ("uncertainty", .string "the arrival day")]
  status := .draft
  approvedAt := none
  activatedAt := none

/-- Approved and then activated, one after the other. -/
theorem gate_not_bypassed_activated : ∃ s, gate.Reach (RowTx.CommitsMeet GateMeets) s ∧
    s.row.status = .active ∧ Gated s.row s.commits := by
  have start : gate.Reach (RowTx.CommitsMeet GateMeets) (RowTx.State.start completeDraft) :=
    .start ⟨completeDraft, rfl, rfl⟩
  obtain ⟨s, one, quiet, row, _⟩ := RowTx.serial start (RowTx.quiet_start completeDraft)
    (.approveScenario 5) trivial nofun ⟨nofun, fun _ _ => rfl⟩
  obtain ⟨s', two, _, row', _⟩ := RowTx.serial one quiet (.activateScenario none 6) trivial
    (by rw [row]; exact nofun) (by rw [row]; exact nofun)
  refine ⟨s', two, ?_, (gate_not_bypassed two).1⟩
  rw [row', row]
  rfl

/-- The draft is read for an edit, approved, and only then is the edit written. -/
def editAcrossApproval : List (RowTx.Action Call) :=
  [.read 0 (.updateGroundTruth (Dict.ofList [("uncertainty", .string "")])),
    .read 1 (.approveScenario 5), .flush 1, .commit 1, .flush 0, .commit 0]

/-- The scenario ends approved without what its approval asked for. -/
theorem gate_bypassed : ¬ ∀ s, gate.Reachable s → Gated s.row s.commits := by
  intro all
  have bypassed : (RowTx.run outcome (RowTx.State.start completeDraft) editAcrossApproval).any
      (fun s => decide (s.row.status = .approved) && !(approvalErrors s.row).isEmpty) = true := by
    decide +kernel
  obtain ⟨s, ran, broken⟩ := (Option.any_eq_true _ _).1 bypassed
  have reached : gate.Reachable s :=
    RowTx.run_reachable (fun _ _ _ => trivial) (.start ⟨completeDraft, rfl, rfl⟩) ran
  rw [Bool.and_eq_true, decide_eq_true_iff] at broken
  have valid := (all s reached (.inl broken.1)).1
  rw [valid] at broken
  cases broken.2

end MeadowOps.Scenarios
