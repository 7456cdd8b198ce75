import MeadowOps.Exceptions.History
import MeadowOps.Flow.Shipments

/-!
# The rule for late shipments

A delivered shipment is judged by its delivery date, any other by the simulation date.
-/

namespace MeadowOps.Exceptions

open Db Lib MeadowOps.Flow

/-- `LATE_SHIPMENT_CATEGORY`. -/
def lateShipmentCategory : String := "late_shipment_grace_days"

/-- `_grace_days`. -/
def graceDays (thresholdValue : ℚ) : ℤ := pyRound thresholdValue

def evaluateLateShipment (promisedDeliveryDate : Date) (actualDeliveryDate : Option Date)
    (simulationDate : Date) (graceDays : ℤ) (status : ShipmentStatus) : Bool :=
  if status = .delivered then
    match actualDeliveryDate with
    | none => false
    | some actual => decide (actual - promisedDeliveryDate > graceDays)
  else decide (simulationDate - promisedDeliveryDate > graceDays)

/-- The date by which the days late are measured. -/
def referenceDate (simulationDate : Date) (s : Shipment) : Date :=
  match s.status, s.actualDeliveryDate with
  | .delivered, some actual => actual
  | _, _ => simulationDate

/-- `EntityKey(shipment_id=id)`. -/
def shipmentKey (id : Uuid) : EntityKey := { EntityKey.none with shipmentId := some id }

def lateShipmentEvaluation (simulationDate : Date) (graceDays : ℤ) (s : Shipment) : Evaluation where
  isFlagged := some (evaluateLateShipment s.promisedDeliveryDate s.actualDeliveryDate simulationDate
    graceDays s.status)
  measuredValue := some (referenceDate simulationDate s - s.promisedDeliveryDate : ℤ)

/-- `_late_shipment_evaluations`. -/
def lateShipmentEvaluations (order : RowOrder Shipment) (simulationDate : Date) (graceDays : ℤ)
    (w : World) : Dict EntityKey Evaluation :=
  Dict.ofList ((order.rows w.shipment).map fun s =>
    (shipmentKey s.id, lateShipmentEvaluation simulationDate graceDays s))

theorem shipmentKey_inj {id id' : Uuid} (h : shipmentKey id = shipmentKey id') : id = id' := by
  simpa [shipmentKey] using h

/-- Every shipment is evaluated, and nothing else. -/
theorem lateShipmentEvaluations_get? {order : RowOrder Shipment} {d : Date} {g : ℤ} {w : World}
    (keyed : Keyed (·.id) w.shipment) {key : EntityKey} {e : Evaluation} :
    (lateShipmentEvaluations order d g w).get? key = some e ↔
      ∃ s ∈ w.shipment, shipmentKey s.id = key ∧ lateShipmentEvaluation d g s = e := by
  have distinct : (((order.rows w.shipment).map fun s =>
      (shipmentKey s.id, lateShipmentEvaluation d g s)).map Prod.fst).Nodup := by
    rw [List.map_map]
    have ids : ((order.rows w.shipment).map (·.id)).Nodup := (((order.perm _).map _).nodup_iff).2 keyed
    have keys := ids.map (f := shipmentKey) fun _ _ => shipmentKey_inj
    rwa [List.map_map] at keys
  rw [← Dict.mem_items_iff, lateShipmentEvaluations, Dict.items_ofList distinct, List.mem_map]
  simp only [RowOrder.mem_rows, Prod.mk.injEq]

/-! ## Where a shipment stands after a day -/

def promisedTransit (s : Shipment) : ℤ := s.promisedDeliveryDate - s.shipDate

/-- How long a shipment took, or is going to take. -/
def actualTransit (rng : Date → Purpose → Rng) (carriers : List Carrier) (s : Shipment) : Option ℤ :=
  match s.actualDeliveryDate with
  | some date => some (date - s.shipDate)
  | none => transitDays rng carriers s

/-- A shipment that takes `a` days, after the tick of day `d`. -/
inductive Stage (d : Date) (s : Shipment) (a : ℤ) : Prop
  | pending (status : s.status = .pending) (undelivered : s.actualDeliveryDate = none)
      (today : s.shipDate = d)
  | inTransit (status : s.status = .inTransit) (undelivered : s.actualDeliveryDate = none)
      (left : s.shipDate < d) (waiting : s.shipDate + 1 < d → d < s.shipDate + a)
  | delivered (status : s.status = .delivered) (actual : s.actualDeliveryDate = some (s.shipDate + a))
      (left : s.shipDate + 1 < d) (arrived : s.shipDate + a ≤ d)

structure ShipmentAt (rng : Date → Purpose → Rng) (carriers : List Carrier) (d : Date) (s : Shipment)
    (a : ℤ) : Prop where
  nonneg : 0 ≤ promisedTransit s
  never_early : promisedTransit s ≤ a
  actual : actualTransit rng carriers s = some a
  stage : Stage d s a

/-- The one case in which the simulation date speaks against a shipment that is on time: it was promised
for the day it was shipped, and is in transit on the next. -/
def SameDay (g : ℤ) (s : Shipment) (a : ℤ) : Prop := g = 0 ∧ promisedTransit s = 0 ∧ a = 0

section
variable {rng : Date → Purpose → Rng} {carriers : List Carrier} {d : Date} {s : Shipment} {a g : ℤ}

theorem actualTransit_undelivered (h : s.actualDeliveryDate = none) :
    actualTransit rng carriers s = transitDays rng carriers s := by
  rw [actualTransit, h]

/-- A shipment is flagged exactly when it is late by more than the grace and the grace is over. -/
theorem ShipmentAt.verdict (h : ShipmentAt rng carriers d s a) (grace : 0 ≤ g)
    (prompt : s.status = .inTransit → s.shipDate + 1 = d → ¬ SameDay g s a) :
    evaluateLateShipment s.promisedDeliveryDate s.actualDeliveryDate d g s.status = true ↔
      g < a - promisedTransit s ∧ s.promisedDeliveryDate + g < d := by
  obtain ⟨nonneg, never_early, _, stage⟩ := h
  simp only [promisedTransit, SameDay] at *
  cases stage with
  | pending status undelivered today =>
    simp only [evaluateLateShipment, status, reduceCtorEq, if_false, decide_eq_true_eq]
    unfold Date at *
    omega
  | inTransit status undelivered left waiting =>
    have prompt := prompt status
    simp only [evaluateLateShipment, status, reduceCtorEq, if_false, decide_eq_true_eq]
    unfold Date at *
    omega
  | delivered status actual left arrived =>
    simp only [evaluateLateShipment, status, actual, if_true, decide_eq_true_eq]
    unfold Date at *
    omega

/-! ## The next day -/

theorem transitDays_congr {carriers' : List Carrier} {s' : Shipment} (id : s'.id = s.id)
    (shipDate : s'.shipDate = s.shipDate) (promised : s'.promisedDeliveryDate = s.promisedDeliveryDate)
    (carrier : lookup (·.id) s'.carrierId carriers' = lookup (·.id) s.carrierId carriers) :
    transitDays rng carriers' s' = transitDays rng carriers s := by
  rw [transitDays, transitDays, id, shipDate, promised, carrier]

/-- The tick of the next day moves a shipment on. -/
theorem ShipmentAt.advance (h : ShipmentAt rng carriers d s a) :
    ShipmentAt rng carriers (d + 1) (advanceShipment rng carriers (d + 1) s) a := by
  obtain ⟨id, shipDate, promised, carrier⟩ :=
    @advanceShipment_agreed rng carriers (d + 1) s
  have transit : transitDays rng carriers (advanceShipment rng carriers (d + 1) s) =
      transitDays rng carriers s := transitDays_congr id shipDate promised (by rw [carrier])
  have same : promisedTransit (advanceShipment rng carriers (d + 1) s) = promisedTransit s := by
    rw [promisedTransit, promisedTransit, shipDate, promised]
  refine ⟨same ▸ h.nonneg, same ▸ h.never_early, ?_, ?_⟩
  all_goals have takes := h.actual
  · cases h.stage with
    | pending status undelivered today =>
      rw [actualTransit_undelivered undelivered] at takes
      rw [actualTransit_undelivered, transit, takes]
      simp only [advanceShipment, status, undelivered]
    | inTransit status undelivered left waiting =>
      rw [actualTransit_undelivered undelivered] at takes
      simp only [advanceShipment, status, takes]
      split
      · simp [actualTransit]
      · rw [actualTransit_undelivered undelivered, takes]
    | delivered status actual left arrived =>
      have stays := @advanceShipment_of_landed rng carriers (d + 1) s (by rw [status]; rfl)
      rw [stays, takes]
  · cases h.stage with
    | pending status undelivered today =>
      simp only [advanceShipment, status]
      refine .inTransit rfl undelivered ?_ ?_
      · dsimp only
        unfold Date at *
        omega
      · dsimp only
        unfold Date at *
        omega
    | inTransit status undelivered left waiting =>
      rw [actualTransit_undelivered undelivered] at takes
      simp only [advanceShipment, status, takes]
      split <;> rename_i due
      · refine .delivered rfl rfl ?_ due
        dsimp only
        unfold Date at *
        omega
      · refine .inTransit status undelivered ?_ fun _ => not_le.1 due
        exact left.trans (lt_add_one d)
    | delivered status actual left arrived =>
      rw [@advanceShipment_of_landed rng carriers (d + 1) s (by rw [status]; rfl)]
      exact .delivered status actual (left.trans (lt_add_one d)) (arrived.trans (lt_add_one d).le)

/-- The carriers the schema admits. -/
def CarriersAdmitted (m : Master) : Prop :=
  ∀ c ∈ m.carrier, 0 ≤ c.transitDaysMin ∧ 0 ≤ c.transitDaysMax

theorem shipmentAt_new (rng : Date → Purpose → Rng) {m : Master} (h : NewShipment d m s) (admitted : CarriersAdmitted m) :
    ∃ a, ShipmentAt rng m.carrier d s a := by
  obtain ⟨c, mem, id, promised⟩ := h.carrier
  have nonneg : 0 ≤ promisedTransit s := by
    have average : (0 : ℚ) ≤ (c.transitDaysMin + c.transitDaysMax) / 2 := by
      have admitted := admitted c mem
      linarith
    have rounded := (pyRound_of_floor ((c.transitDaysMin + c.transitDaysMax) / 2)).1
    rw [promisedTransit, promised, h.shipDate, add_sub_cancel_left]
    exact (Int.floor_nonneg.2 average).trans rounded
  cases found : lookup (·.id) s.carrierId m.carrier with
  | none =>
    have absent := List.find?_eq_none.1 found c mem
    simp [id] at absent
  | some c' =>
    refine ⟨carrierActualTransitDays (promisedTransit s) c'.variability c'.reliabilityPct
      (rng s.shipDate (.carrierTransit s.id)), nonneg, ?_, ?_,
      .pending h.status h.undelivered h.shipDate⟩
    · exact (carrierActualTransitDays_range ..).1
    · rw [actualTransit_undelivered h.undelivered, transitDays, found, Option.map_some]
      rfl

/-- An edit that leaves the carriers of the shipments in flight alone. -/
theorem ShipmentAt.edit {carriers' : List Carrier} (h : ShipmentAt rng carriers d s a)
    (same : s.status.inFlight = true →
      lookup (·.id) s.carrierId carriers' = lookup (·.id) s.carrierId carriers) :
    ShipmentAt rng carriers' d s a := by
  refine ⟨h.nonneg, h.never_early, ?_, h.stage⟩
  have takes := h.actual
  cases stage : h.stage with
  | pending status undelivered today =>
    rw [actualTransit_undelivered undelivered] at takes ⊢
    rw [transitDays_congr rfl rfl rfl (same (by rw [status]; rfl)), takes]
  | inTransit status undelivered left waiting =>
    rw [actualTransit_undelivered undelivered] at takes ⊢
    rw [transitDays_congr rfl rfl rfl (same (by rw [status]; rfl)), takes]
  | delivered status actual left arrived =>
    rw [actualTransit, actual] at takes ⊢
    exact takes

end

end MeadowOps.Exceptions
