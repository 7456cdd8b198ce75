import MeadowOps.Exceptions.Completion
import MeadowOps.Exceptions.DuplicateLines

/-!
# What the open flags say

An evaluation that returns leaves open what its rules flag in the tables, and what they cannot tell. A rule
that is not active leaves its flags alone.
-/

namespace MeadowOps.Exceptions

open Db Lib MeadowOps.Flow Kpi Reporting

/-- A purchase order that should have come in. -/
def OverdueOrder (d : Date) (grace : ℤ) (po : PurchaseOrder) : Prop :=
  po.status ≠ .received ∧ po.status ≠ .cancelled ∧ grace < d - po.expectedDeliveryDate

/-- A shipment that came late, or should have come. -/
def OverdueShipment (d : Date) (grace : ℤ) (s : Shipment) : Prop :=
  s.status = .delivered ∧ (∃ actual, s.actualDeliveryDate = some actual ∧ grace < actual - s.promisedDeliveryDate) ∨
    s.status ≠ .delivered ∧ grace < d - s.promisedDeliveryDate

/-- The flags `flags'` of the day `d`, over the tables `t`; `flags` were the flags before. -/
structure FlagsTell (clock d : Date) (t : EngineTables) (flags flags' : List ExceptionFlag) : Prop where
  lowStock : ∀ threshold, activeThreshold t.threshold lowStockCategory = some threshold → ∀ key,
    OpenAt flags' lowStockCategory key ↔ ∃ r ∈ daysOfSupply clock t.world,
      key = pairKey r.productId (some r.warehouseId) ∧
        ((∃ days, r.daysOfSupply = some days ∧ days < threshold) ∨
          r.daysOfSupply = none ∧ OpenAt flags lowStockCategory key)
  orders : ∀ threshold, activeThreshold t.threshold atRiskPoCategory = some threshold → ∀ key,
    OpenAt flags' atRiskPoCategory key ↔
      ∃ po ∈ t.world.purchaseOrder, key = orderKey po.id ∧ OverdueOrder d (graceDays threshold) po
  shipments : ∀ threshold, activeThreshold t.threshold lateShipmentCategory = some threshold → ∀ key,
    OpenAt flags' lateShipmentCategory key ↔
      ∃ s ∈ t.world.shipment, key = shipmentKey s.id ∧ OverdueShipment d (graceDays threshold) s
  reporting : ∀ threshold, activeThreshold t.threshold reportingLagStaleCategory = some threshold → ∀ key,
    OpenAt flags' reportingLagStaleCategory key ↔ key = EntityKey.none ∧
      ∃ state last, t.syncState = some state ∧ state.lastSyncedSimulationDate = some last ∧
        graceDays threshold < d - last
  conflict : ∀ threshold, activeThreshold t.threshold reportingConflictCategory = some threshold → ∀ key,
    OpenAt flags' reportingConflictCategory key ↔
      match checkReportingConflict threshold t with
      | some (pair, verdict) => key = pair ∧ verdict.isFlagged = some true
      | none => OpenAt flags reportingConflictCategory key
  duplicates : ∀ threshold, activeThreshold t.threshold duplicatePurchaseOrderCategory = some threshold → ∀ key,
    OpenAt flags' duplicatePurchaseOrderCategory key ↔
      ∃ g po, LineFlagged (pyInt threshold) t.world g po ∧ key = orderKey po.id
  inactive : ∀ category, activeThreshold t.threshold category = none → ∀ key,
    OpenAt flags' category key ↔ OpenAt flags category key

/-! ## One call after another -/

section Calls

variable {c : SyncCall} {calls : List SyncCall} {flags flags' : List ExceptionFlag} {env : EngineEnv}

theorem openAt_filter {category other : String} {key : EntityKey} (differs : category ≠ other) :
    OpenAt (flags.filter fun f => decide (f.category ≠ other)) category key ↔ OpenAt flags category key := by
  constructor
  · rintro ⟨f, mem, rest⟩
    exact ⟨f, (List.mem_filter.1 mem).1, rest⟩
  · rintro ⟨f, mem, isOpen, same, entity⟩
    exact ⟨f, List.mem_filter.2 ⟨mem, decide_eq_true (same ▸ differs)⟩, isOpen, same, entity⟩

/-- A call leaves the open flags of the other categories alone. -/
theorem SyncCall.openAt_other {opened resolved : ℕ} (coherent : Coherent flags)
    (ok : c.syncFlags flags = some (flags', opened, resolved)) {category : String} (differs : category ≠ c.category)
    (key : EntityKey) : OpenAt flags' category key ↔ OpenAt flags category key := by
  rw [← openAt_filter differs, (c.syncLaw coherent ok).otherCategories, openAt_filter differs]

/-- What the calls of distinct categories leave open. -/
structure Judged (calls : List SyncCall) (flags flags' : List ExceptionFlag) : Prop where
  verdicts : ∀ c ∈ calls, ∀ key, OpenAt flags' c.category key ↔
    c.verdict key = some true ∨ OpenAt flags c.category key ∧ c.verdict key = none
  others : ∀ category, category ∉ calls.map (·.category) → ∀ key,
    OpenAt flags' category key ↔ OpenAt flags category key

theorem syncAll_judged (inv : FlagsInv flags) (each : ∀ c ∈ calls, RuleCall env c)
    (distinct : (calls.map (·.category)).Nodup) (ok : syncAll calls flags = some flags') :
    Judged calls flags flags' := by
  induction calls generalizing flags with
  | nil =>
    cases ok
    exact ⟨fun _ mem => (nomatch mem), fun _ _ _ => Iff.rfl⟩
  | cons c calls ih =>
    obtain ⟨here, rest⟩ := List.forall_mem_cons.1 each
    obtain ⟨other, distinct⟩ := List.nodup_cons.1 distinct
    rw [syncAll, List.foldlM_cons] at ok
    obtain ⟨mid, first, later⟩ := Option.bind_eq_some_iff.1 ok
    obtain ⟨⟨rows, opened, resolved⟩, call, rfl⟩ := Option.map_eq_some_iff.1 first
    have judged := ih (SyncCall.syncFlags_inv inv here.shaped call) rest distinct later
    constructor
    case verdicts =>
      intro c' mem key
      rcases List.mem_cons.1 mem with rfl | mem
      · rw [judged.others c'.category other, (c'.syncLaw inv.coherent call).openEntities, ← c'.verdict_eq_true,
          ← c'.verdict_eq_none]
      · have differs : c'.category ≠ c.category := fun same => other (List.mem_map.2 ⟨c', mem, same⟩)
        rw [judged.verdicts c' mem, c.openAt_other inv.coherent call differs]
    case others =>
      intro category absent key
      rw [List.map_cons, List.mem_cons, not_or] at absent
      rw [judged.others category absent.2, c.openAt_other inv.coherent call absent.1]

end Calls

/-! ## The rules -/

section Rules

variable {env : EngineEnv} {clock d : Date} {t : EngineTables} {threshold : ℚ} {flags flags' : List ExceptionFlag}

/-- A rule makes a call for its own category, when it is active. -/
theorem exceptionCalls_active : ∀ c ∈ exceptionCalls env clock d t,
    ∃ threshold, activeThreshold t.threshold c.category = some threshold := by
  have each : ∀ {category evaluations c}, ruleCall env d t category evaluations = some c →
      ∃ threshold, activeThreshold t.threshold c.category = some threshold := by
    intro category evaluations c call
    obtain ⟨threshold, active, rest⟩ := Option.bind_eq_some_iff.1 call
    obtain ⟨verdicts, -, made⟩ := Option.bind_eq_some_iff.1 rest
    cases made
    exact ⟨threshold, active⟩
  intro c mem
  rcases List.mem_append.1 mem with low | other
  · exact each (Option.mem_toList.1 low)
  · obtain ⟨o, mem, rfl⟩ := List.mem_filterMap.1 other
    simp only [List.mem_cons, List.not_mem_nil, or_false] at mem
    rcases mem with call | call | call | call | call <;> exact each call.symm

/-- What an active rule leaves open, by its verdicts. -/
theorem Judged.rule (judged : Judged (exceptionCalls env clock d t) flags flags') {category : String}
    {evaluations : ℚ → Option (Dict EntityKey Evaluation)} {verdicts : Dict EntityKey Evaluation}
    (called : ∀ c, ruleCall env d t category evaluations = some c → c ∈ exceptionCalls env clock d t)
    (active : activeThreshold t.threshold category = some threshold)
    (made : evaluations threshold = some verdicts) (key : EntityKey) :
    OpenAt flags' category key ↔ (∃ e, verdicts.get? key = some e ∧ e.isFlagged = some true) ∨
      OpenAt flags category key ∧ ∃ e, verdicts.get? key = some e ∧ e.isFlagged = none := by
  obtain ⟨c, call, rfl, rfl⟩ : ∃ c, ruleCall env d t category evaluations = some c ∧ c.category = category ∧
      c.evaluations = verdicts := by
    rw [ruleCall, active]
    show ∃ c, (evaluations threshold).bind _ = some c ∧ _
    rw [made]
    exact ⟨_, rfl, rfl, rfl⟩
  rw [judged.verdicts c (called c call), c.verdict_eq_true, c.verdict_eq_none]

/-- A rule that always decides. -/
theorem Judged.decided (judged : Judged (exceptionCalls env clock d t) flags flags') {category : String}
    {evaluations : ℚ → Option (Dict EntityKey Evaluation)} {verdicts : Dict EntityKey Evaluation}
    (called : ∀ c, ruleCall env d t category evaluations = some c → c ∈ exceptionCalls env clock d t)
    (active : activeThreshold t.threshold category = some threshold)
    (made : evaluations threshold = some verdicts)
    (decides : ∀ key e, verdicts.get? key = some e → e.isFlagged ≠ none) (key : EntityKey) :
    OpenAt flags' category key ↔ ∃ e, verdicts.get? key = some e ∧ e.isFlagged = some true := by
  rw [judged.rule called active made]
  refine or_iff_left ?_
  rintro ⟨-, e, found, inconclusive⟩
  exact decides key e found inconclusive

theorem called_of_other {calls : List (Option SyncCall)} (rest : otherRules env d t = calls.reduceOption)
    {c : SyncCall} (mem : some c ∈ calls) : c ∈ exceptionCalls env clock d t := by
  rw [exceptionCalls, rest]
  exact List.mem_append_right _ (List.mem_filterMap.2 ⟨some c, mem, rfl⟩)

theorem evaluateAtRisk_iff {po : PurchaseOrder} {grace : ℤ} :
    evaluateAtRiskPurchaseOrder po.expectedDeliveryDate d grace po.status = true ↔ OverdueOrder d grace po := by
  unfold evaluateAtRiskPurchaseOrder OverdueOrder
  cases po.status <;> simp

theorem evaluateLateShipment_iff {s : Shipment} {grace : ℤ} :
    evaluateLateShipment s.promisedDeliveryDate s.actualDeliveryDate d grace s.status = true ↔
      OverdueShipment d grace s := by
  unfold evaluateLateShipment OverdueShipment
  by_cases delivered : s.status = .delivered
  · cases s.actualDeliveryDate <;> simp [delivered]
  · simp [delivered]

theorem isLagStale_iff {grace : ℤ} : isLagStale d (t.syncState.bind (·.lastSyncedSimulationDate)) grace = true ↔
    ∃ state last, t.syncState = some state ∧ state.lastSyncedSimulationDate = some last ∧ grace < d - last := by
  cases t.syncState with
  | none => simp [isLagStale]
  | some state => cases synced : state.lastSyncedSimulationDate <;> simp [isLagStale, synced]

/-- Without a pair to compare, the rule for conflicts makes no call. -/
theorem conflict_uncalled (active : activeThreshold t.threshold reportingConflictCategory = some threshold)
    (unchecked : checkReportingConflict threshold t = none) :
    ∀ c ∈ exceptionCalls env clock d t, c.category ≠ reportingConflictCategory := by
  have silent : ruleCall env d t reportingConflictCategory (fun threshold =>
      (checkReportingConflict threshold t).map fun verdict => Dict.ofList [verdict]) = none := by
    rw [ruleCall, active]
    show ((checkReportingConflict threshold t).map _).bind _ = none
    rw [unchecked]
    rfl
  have other : ∀ {category evaluations c}, ruleCall env d t category evaluations = some c →
      category ≠ reportingConflictCategory → c.category ≠ reportingConflictCategory := by
    intro category evaluations c call differs
    obtain ⟨_, -, rest⟩ := Option.bind_eq_some_iff.1 call
    obtain ⟨_, -, made⟩ := Option.bind_eq_some_iff.1 rest
    cases made
    exact differs
  intro c mem
  rcases List.mem_append.1 mem with low | rest
  · exact other (Option.mem_toList.1 low) (by decide)
  · obtain ⟨o, mem, rfl⟩ := List.mem_filterMap.1 rest
    simp only [List.mem_cons, List.not_mem_nil, or_false] at mem
    rcases mem with call | call | call | call | call
    · exact other call.symm (by decide)
    · exact other call.symm (by decide)
    · exact other call.symm (by decide)
    · rw [silent] at call
      cases call
    · exact other call.symm (by decide)

/-- The keys of the rows of the KPI query are distinct. -/
theorem daysOfSupply_keys {w : World} (grains : Keyed InventorySnapshot.grain w.inventorySnapshot) :
    ((daysOfSupply clock w).map fun r => pairKey r.productId (some r.warehouseId)).Nodup := by
  have keys := (latestSnapshots_keyed grains).map
    (f := fun pair : String × String => pairKey pair.1 (some pair.2)) fun pair pair' same => by
      simpa [pairKey, Prod.ext_iff] using same
  unfold daysOfSupply
  rwa [List.map_map] at keys ⊢

/-- A whole evaluation: each rule, in its own terms. -/
theorem exceptionCalls_tell (inv : FlagsInv flags) (wf : Wf t.world)
    (grains : Keyed InventorySnapshot.grain t.world.inventorySnapshot)
    (ok : syncAll (exceptionCalls env clock d t) flags = some flags') :
    FlagsTell clock d t flags flags' := by
  obtain ⟨distinct, each⟩ := exceptionCalls_spec env clock d t
  have judged := syncAll_judged inv each distinct ok
  constructor
  case lowStock =>
    intro threshold active key
    have keys : ((env.supplyRows.rows (daysOfSupply clock t.world)).map fun r =>
        pairKey r.productId (some r.warehouseId)).Nodup :=
      (((env.supplyRows.perm _).map _).nodup_iff).2 (daysOfSupply_keys grains)
    have found : ∀ e, (lowStockEvaluations env.supplyRows clock threshold t.world).get? key = some e ↔
        ∃ r ∈ daysOfSupply clock t.world, pairKey r.productId (some r.warehouseId) = key ∧
          lowStockEvaluation threshold r = e := by
      intro e
      rw [lowStockEvaluations, Dict.get?_ofList_map (lowStockEvaluation threshold) keys]
      simp only [RowOrder.mem_rows]
    rw [judged.rule (fun c (call : lowStockRule env clock d t = some c) =>
      List.mem_append_left _ (Option.mem_toList.2 call)) active rfl]
    simp only [found]
    constructor
    · rintro (⟨e, ⟨r, mem, rfl, rfl⟩, flagged⟩ | ⟨before, e, ⟨r, mem, rfl, rfl⟩, inconclusive⟩)
      · obtain ⟨days, value, low⟩ := Option.map_eq_some_iff.1 flagged
        exact ⟨r, mem, rfl, .inl ⟨days, value, of_decide_eq_true low⟩⟩
      · exact ⟨r, mem, rfl, .inr ⟨Option.map_eq_none_iff.1 inconclusive, before⟩⟩
    · rintro ⟨r, mem, rfl, ⟨days, value, low⟩ | ⟨unknown, before⟩⟩
      · refine .inl ⟨_, ⟨r, mem, rfl, rfl⟩, Option.map_eq_some_iff.2 ⟨days, value, decide_eq_true low⟩⟩
      · exact .inr ⟨before, _, ⟨r, mem, rfl, rfl⟩, Option.map_eq_none_iff.2 unknown⟩
  case orders =>
    intro threshold active key
    have keys : ((env.orders.rows t.world.purchaseOrder).map fun po => orderKey po.id).Nodup := by
      refine (((env.orders.perm _).map _).nodup_iff).2 ?_
      have ids := wf.purchaseOrder.map (f := orderKey) fun id id' same => by simpa [orderKey] using same
      rwa [List.map_map] at ids
    have found : ∀ key e, (atRiskPoEvaluations env.orders d (graceDays threshold) t.world).get? key = some e ↔
        ∃ po ∈ t.world.purchaseOrder, orderKey po.id = key ∧
          atRiskPoEvaluation d (graceDays threshold) po = e := by
      intro key e
      rw [atRiskPoEvaluations]
      refine (Dict.get?_ofList_map (atRiskPoEvaluation d (graceDays threshold)) keys).trans ?_
      simp only [RowOrder.mem_rows]
    rw [judged.decided (fun c (call : ruleCall env d t atRiskPoCategory (fun threshold =>
        some (atRiskPoEvaluations env.orders d (graceDays threshold) t.world)) = some c) =>
      called_of_other rfl (call ▸ .head _)) active rfl fun key e mem => ?_]
    · simp only [found]
      constructor
      · rintro ⟨e, ⟨po, mem, rfl, rfl⟩, flagged⟩
        exact ⟨po, mem, rfl, evaluateAtRisk_iff.1 (Option.some_inj.1 flagged)⟩
      · rintro ⟨po, mem, rfl, overdue⟩
        exact ⟨_, ⟨po, mem, rfl, rfl⟩, congrArg some (evaluateAtRisk_iff.2 overdue)⟩
    · obtain ⟨po, -, -, rfl⟩ := (found key e).1 mem
      exact Option.some_ne_none _
  case shipments =>
    intro threshold active key
    rw [judged.decided (fun c (call : ruleCall env d t lateShipmentCategory (fun threshold =>
        some (lateShipmentEvaluations env.shipments d (graceDays threshold) t.world)) = some c) =>
      called_of_other rfl (call ▸ .tail _ (.head _))) active rfl fun key e mem => ?_]
    · simp only [lateShipmentEvaluations_get? wf.shipment]
      constructor
      · rintro ⟨e, ⟨s, mem, rfl, rfl⟩, flagged⟩
        exact ⟨s, mem, rfl, evaluateLateShipment_iff.1 (Option.some_inj.1 flagged)⟩
      · rintro ⟨s, mem, rfl, overdue⟩
        exact ⟨_, ⟨s, mem, rfl, rfl⟩, congrArg some (evaluateLateShipment_iff.2 overdue)⟩
    · obtain ⟨s, -, -, rfl⟩ := (lateShipmentEvaluations_get? wf.shipment).1 mem
      exact Option.some_ne_none _
  case reporting =>
    intro threshold active key
    rw [judged.decided (fun c (call : ruleCall env d t reportingLagStaleCategory (fun threshold =>
        some (Dict.ofList [(EntityKey.none, checkLagStaleness d (graceDays threshold) t.syncState)])) = some c) =>
      called_of_other rfl (call ▸ .tail _ (.tail _ (.head _)))) active rfl fun key e mem => ?_]
    · simp only [Dict.get?_ofList_singleton]
      constructor
      · rintro ⟨e, ⟨rfl, rfl⟩, flagged⟩
        exact ⟨rfl, isLagStale_iff.1 (Option.some_inj.1 flagged)⟩
      · rintro ⟨rfl, stale⟩
        exact ⟨_, ⟨rfl, rfl⟩, congrArg some (isLagStale_iff.2 stale)⟩
    · rw [(Dict.get?_ofList_singleton.1 mem).2]
      exact Option.some_ne_none _
  case conflict =>
    intro threshold active key
    cases checked : checkReportingConflict threshold t with
    | none =>
      dsimp only
      refine judged.others _ (fun mem => ?_) key
      obtain ⟨c, called, category⟩ := List.mem_map.1 mem
      exact conflict_uncalled active checked c called category
    | some conflict =>
      obtain ⟨pair, verdict⟩ := conflict
      have decides : verdict.isFlagged ≠ none := by
        obtain ⟨state, -, checked⟩ := Option.bind_eq_some_iff.1 checked
        obtain ⟨product, -, checked⟩ := Option.bind_eq_some_iff.1 checked
        obtain ⟨warehouse, -, checked⟩ := Option.bind_eq_some_iff.1 checked
        obtain ⟨copy, -, made⟩ := Option.bind_eq_some_iff.1 checked
        cases made
        exact Option.some_ne_none _
      rw [judged.decided (fun c (call : ruleCall env d t reportingConflictCategory (fun threshold =>
          (checkReportingConflict threshold t).map fun verdict => Dict.ofList [verdict]) = some c) =>
        called_of_other rfl (call ▸ .tail _ (.tail _ (.tail _ (.head _))))) active
        (congrArg (Option.map fun verdict => Dict.ofList [verdict]) checked) fun key e mem => ?_]
      · simp only [Dict.get?_ofList_singleton]
        constructor
        · rintro ⟨e, ⟨rfl, rfl⟩, flagged⟩
          exact ⟨rfl, flagged⟩
        · rintro ⟨rfl, flagged⟩
          exact ⟨_, ⟨rfl, rfl⟩, flagged⟩
      · rw [(Dict.get?_ofList_singleton.1 mem).2]
        exact decides
  case duplicates =>
    intro threshold active key
    rw [judged.decided (fun c (call : ruleCall env d t duplicatePurchaseOrderCategory (fun threshold =>
        some (duplicatePurchaseOrderEvaluations env.openOrders (pyInt threshold) t.world)) = some c) =>
      called_of_other rfl (call ▸ .tail _ (.tail _ (.tail _ (.tail _ (.head _)))))) active rfl
      fun key e mem => ?_]
    · rw [← get?_isSome_iff wf.purchaseOrder env.openOrders, Option.isSome_iff_exists]
      refine exists_congr fun e => and_iff_left_of_imp fun found => ?_
      obtain ⟨g, po, -, -, rfl⟩ := get?_eq_some wf.purchaseOrder found
      rfl
    · obtain ⟨g, po, -, -, rfl⟩ := get?_eq_some wf.purchaseOrder mem
      exact Option.some_ne_none _
  case inactive =>
    intro category passive key
    refine judged.others category (fun mem => ?_) key
    obtain ⟨c, called, rfl⟩ := List.mem_map.1 mem
    obtain ⟨threshold, active⟩ := exceptionCalls_active c called
    rw [passive] at active
    cases active

end Rules

end MeadowOps.Exceptions
