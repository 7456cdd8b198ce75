import MeadowOps.Flow.Frames
import MeadowOps.Lib.Permuted
import MeadowOps.Lib.Relational

/-!
# The shipments of a tick

A tick that returns advances every shipment it found, and adds those of the orders it ships in full.
-/

namespace MeadowOps.Flow

open Db Lib

/-- How long a shipment takes, for the carriers as they are. -/
def transitDays (rng : Date → Purpose → Rng) (carriers : List Carrier) (s : Shipment) : Option ℤ :=
  (lookup (·.id) s.carrierId carriers).map fun carrier =>
    carrierActualTransitDays (s.promisedDeliveryDate - s.shipDate) carrier.variability
      carrier.reliabilityPct (rng s.shipDate (.carrierTransit s.id))

/-- A carrier is never early, and late by at most its spread. -/
theorem carrierActualTransitDays_range (promised : ℤ) (v : Variability) (reliabilityPct : ℚ) (r : Rng) :
    promised ≤ carrierActualTransitDays promised v reliabilityPct r ∧
      carrierActualTransitDays promised v reliabilityPct r ≤ promised + variabilitySpreadDays v := by
  have spread : 1 ≤ variabilitySpreadDays v := by cases v <;> decide
  rw [carrierActualTransitDays]
  split
  · exact ⟨le_rfl, by omega⟩
  · have late := r.randint_range 1 1 _ spread
    omega

/-- A shipment after the day's pass. -/
def advanceShipment (rng : Date → Purpose → Rng) (carriers : List Carrier) (d : Date) (s : Shipment) :
    Shipment :=
  match s.status with
  | .pending => { s with status := .inTransit }
  | .inTransit =>
    match transitDays rng carriers s with
    | none => s
    | some days =>
      if s.shipDate + days ≤ d then
        { s with status := .delivered, actualDeliveryDate := some (s.shipDate + days) }
      else s
  | .delivered | .exception => s

section
variable {rng : Date → Purpose → Rng} {carriers : List Carrier} {d : Date} {s : Shipment}

/-- What was agreed when the shipment was created stays. -/
theorem advanceShipment_agreed : (advanceShipment rng carriers d s).id = s.id ∧
    (advanceShipment rng carriers d s).shipDate = s.shipDate ∧
    (advanceShipment rng carriers d s).promisedDeliveryDate = s.promisedDeliveryDate ∧
    (advanceShipment rng carriers d s).carrierId = s.carrierId := by
  unfold advanceShipment
  split
  · exact ⟨rfl, rfl, rfl, rfl⟩
  · split
    · exact ⟨rfl, rfl, rfl, rfl⟩
    · split <;> exact ⟨rfl, rfl, rfl, rfl⟩
  · exact ⟨rfl, rfl, rfl, rfl⟩
  · exact ⟨rfl, rfl, rfl, rfl⟩

theorem advanceShipment_of_landed (h : s.status.inFlight = false) :
    advanceShipment rng carriers d s = s := by
  unfold advanceShipment
  cases status : s.status with
  | pending =>
    rw [status] at h
    cases h
  | inTransit =>
    rw [status] at h
    cases h
  | delivered => rfl
  | exception => rfl

end

variable (env : TickEnv) {d : Date}

/-- The day's pass changes the shipment. -/
def shipmentMoves (rng : Date → Purpose → Rng) (carriers : List Carrier) (d : Date) (s : Shipment) : Bool :=
  match s.status with
  | .pending => true
  | .inTransit => (transitDays rng carriers s).any fun days => decide (s.shipDate + days ≤ d)
  | .delivered | .exception => false

/-- Where a transit time is needed, there is a carrier to ask for it. -/
def CarrierKnown (carriers : List Carrier) (s : Shipment) : Prop :=
  s.status = .pending ∨ (lookup (·.id) s.carrierId carriers).isSome = true

theorem progressShipment_outcome {w : World} {s : Shipment} (keyed : Keyed (·.id) w.shipment)
    (mem : s ∈ w.shipment) (inFlight : s.status.inFlight = true) (progressed : ℕ) :
    Outcome (CarrierKnown w.master.carrier s)
      (progressed + if shipmentMoves env.rng w.master.carrier d s then 1 else 0)
      { w with
        shipment := modify (·.id) s.id (advanceShipment env.rng w.master.carrier d) w.shipment }
      (progressShipment env progressed d s.id w) := by
  have found : lookup (·.id) s.id w.shipment = some s := lookup_of_mem keyed mem
  have stays := fun same => keyed.modify_stays (f := advanceShipment env.rng w.master.carrier d) mem same
  simp only [progressShipment, found]
  cases status : s.status with
  | pending =>
    have advanced : advanceShipment env.rng w.master.carrier d s = { s with status := .inTransit } := by
      rw [advanceShipment, status]
    rw [if_pos rfl, keyed.modify_row mem (f := fun s => { s with status := .inTransit }) advanced.symm,
      shipmentMoves, status]
    exact .returned (.inl status)
  | inTransit =>
    have notPending : s.status ≠ .pending := by
      rw [status]
      exact ShipmentStatus.noConfusion
    rw [if_neg (show ShipmentStatus.inTransit ≠ .pending from ShipmentStatus.noConfusion)]
    cases carrier : lookup (·.id) s.carrierId w.master.carrier with
    | none => exact .raised _ _ fun known => known.elim notPending (by simp [carrier])
    | some c =>
      have known : CarrierKnown w.master.carrier s := .inr (by simp [carrier])
      dsimp only
      generalize actual : carrierActualTransitDays (s.promisedDeliveryDate - s.shipDate) c.variability
        c.reliabilityPct (env.rng s.shipDate (.carrierTransit s.id)) = days
      have takes : transitDays env.rng w.master.carrier s = some days := by
        simp [transitDays, carrier, actual]
      by_cases due : s.shipDate + days ≤ d
      · have delivered : advanceShipment env.rng w.master.carrier d s =
            { s with status := .delivered, actualDeliveryDate := some (s.shipDate + days) } := by
          simp only [advanceShipment, status, takes, if_pos due]
        have moves : shipmentMoves env.rng w.master.carrier d s = true := by
          simpa [shipmentMoves, status, takes] using due
        rw [if_pos due, moves, ← keyed.modify_row mem (f := fun r => { r with
          status := .delivered, actualDeliveryDate := some (s.shipDate + days) }) delivered.symm]
        exact .returned known
      · have rests : shipmentMoves env.rng w.master.carrier d s = false := by
          simpa [shipmentMoves, status, takes] using due
        rw [if_neg due, rests, stays (by simp only [advanceShipment, status, takes, if_neg due])]
        exact .returned known
  | delivered =>
    rw [status] at inFlight
    cases inFlight
  | exception =>
    rw [status] at inFlight
    cases inFlight

theorem updateAll_advanceShipment {rng : Date → Purpose → Rng} {w : World}
    (keyed : Keyed (·.id) w.shipment) (o : RowOrder Shipment) :
    updateAll (·.id) (advanceShipment rng w.master.carrier d)
        (o.rows (w.shipment.filter (·.status.inFlight))) w.shipment =
      w.shipment.map (advanceShipment rng w.master.carrier d) := by
  rw [updateAll_eq_map (fun _ => advanceShipment_agreed.1) keyed (o.perm _)]
  apply List.map_congr_left
  intro s _
  cases inFlight : s.status.inFlight with
  | true => rfl
  | false => exact (advanceShipment_of_landed inFlight).symm

def inFlightRows (w : World) : List Shipment :=
  env.inFlightShipments.rows (w.shipment.filter (·.status.inFlight))

/-- The pass advances every shipment, or raises for want of a carrier. -/
theorem progressShipments_outcome {w : World} (keyed : Keyed (·.id) w.shipment) :
    Outcome (∀ s ∈ inFlightRows env w, CarrierKnown w.master.carrier s)
      ((inFlightRows env w).countP (shipmentMoves env.rng w.master.carrier d))
      { w with shipment := w.shipment.map (advanceShipment env.rng w.master.carrier d) }
      (progressShipments env d w) := by
  rw [← updateAll_advanceShipment keyed env.inFlightShipments]
  refine loadedRows_outcome (f := fun progressed id => progressShipment env progressed d id)
    (P := fun done => ∀ s ∈ done, CarrierKnown w.master.carrier s)
    (v := fun done => done.countP (shipmentMoves env.rng w.master.carrier d))
    (s := fun done => { w with
      shipment := updateAll (·.id) (advanceShipment env.rng w.master.carrier d) done w.shipment })
    (loaded_nodup keyed env.inFlightShipments (·.status.inFlight))
    (fun _ mem => absurd mem List.not_mem_nil)
    (fun done rest known s mem => known s (List.mem_append_left _ mem)) ?_
  intro done s rest split later known
  have loaded : s ∈ inFlightRows env w := by
    rw [split]
    simp
  rw [inFlightRows, RowOrder.mem_rows, List.mem_filter] at loaded
  have turn := progressShipment_outcome env (d := d)
    (w := { w with
      shipment := updateAll (·.id) (advanceShipment env.rng w.master.carrier d) done w.shipment })
    (keyed_updateAll (fun _ => advanceShipment_agreed.1) keyed done) (mem_updateAll loaded.1 later)
    loaded.2 (done.countP (shipmentMoves env.rng w.master.carrier d))
  refine turn.congr ?_ fun _ => ⟨?_, ?_⟩
  · simp only [List.mem_append, List.mem_singleton, or_imp, forall_and, forall_eq]
    exact ⟨fun here => ⟨known, here⟩, fun all => all.2⟩
  · rw [List.countP_append, List.countP_singleton]
  · rw [updateAll_append_singleton]

theorem progressShipments_ok {w w' : World} {progressed : ℕ} (keyed : Keyed (·.id) w.shipment)
    (run : progressShipments env d w = .ok progressed w') :
    w' = { w with shipment := w.shipment.map (advanceShipment env.rng w.master.carrier d) } := by
  have pass := progressShipments_outcome env (d := d) keyed
  rw [run] at pass
  cases pass
  rfl

/-! ## New shipments -/

/-- A shipment as the loop over the sales orders creates it. -/
structure NewShipment (d : Date) (m : Master) (s : Shipment) : Prop where
  status : s.status = .pending
  shipDate : s.shipDate = d
  undelivered : s.actualDeliveryDate = none
  carrier : ∃ c ∈ m.carrier, s.carrierId = c.id ∧
    s.promisedDeliveryDate = d + pyRound ((c.transitDaysMin + c.transitDaysMax) / 2)

theorem pickCarrier_mem {carriers : List Carrier} {id : Uuid} {c : Carrier}
    (h : pickCarrier carriers id = some c) : c ∈ carriers := by
  have mem := List.mem_of_getElem? h
  rwa [List.mem_insertionSort] at mem

theorem addShipment_new {m : Master} {so : SalesOrder} {rows rows' : List Shipment}
    {carriers : List Carrier} (known : ∀ c ∈ carriers, c ∈ m.carrier) (keyed : Keyed (·.id) rows)
    (h : addShipment env d carriers so rows = some rows') :
    Keyed (·.id) rows' ∧ ∃ new, rows' = rows ++ new ∧ ∀ s ∈ new, NewShipment d m s := by
  rw [addShipment] at h
  split at h
  · cases h
    exact ⟨keyed, [], (List.append_nil _).symm, fun _ mem => absurd mem List.not_mem_nil⟩
  · rename_i c picked
    obtain ⟨rfl, fresh⟩ := insert?_eq_some h
    refine ⟨keyed.append fresh, _, rfl, fun s mem => ?_⟩
    rw [List.mem_singleton.1 mem]
    exact ⟨rfl, rfl, rfl, c, known c (pickCarrier_mem picked), rfl, rfl⟩

/-- The shipments of `w` are those of `w₀` and new ones. -/
structure ShipmentsAdded (d : Date) (w₀ w : World) : Prop where
  orders : Keyed (·.id) w.salesOrder
  shipments : Keyed (·.id) w.shipment
  master : w.master = w₀.master
  added : ∃ new, w.shipment = w₀.shipment ++ new ∧ ∀ s ∈ new, NewShipment d w₀.master s

theorem OrderProgress.shipmentsAdded {w₀ w w' : World} {so : SalesOrder}
    (h : OrderProgress env d (activeCarriers env w₀) so w w') (hw : ShipmentsAdded d w₀ w) :
    ShipmentsAdded d w₀ w' := by
  have known : ∀ c ∈ activeCarriers env w₀, c ∈ w₀.master.carrier := by
    intro c mem
    rw [activeCarriers, RowOrder.mem_rows] at mem
    exact (List.mem_filter.1 mem).1
  cases h with
  | waits => exact hw
  | allocated => exact ⟨hw.orders.modify fun _ same => same, hw.shipments, hw.master, hw.added⟩
  | shipped lines shipments status perm shipment =>
    obtain ⟨new, eq, created⟩ := hw.added
    have rows : Keyed (·.id) shipments ∧
        ∃ later, shipments = w.shipment ++ later ∧ ∀ s ∈ later, NewShipment d w₀.master s := by
      split at shipment
      · exact addShipment_new env known hw.shipments shipment
      · cases shipment
        exact ⟨hw.shipments, [], (List.append_nil _).symm,
          fun _ mem => absurd mem List.not_mem_nil⟩
    obtain ⟨keyed, later, rfl, createdLater⟩ := rows
    refine ⟨hw.orders.modify fun _ same => same, keyed, hw.master, new ++ later, ?_, fun s mem => ?_⟩
    · dsimp only
      rw [eq, List.append_assoc]
    · rcases List.mem_append.1 mem with mem | mem
      · exact created s mem
      · exact createdLater s mem

/-- The shipments before and after a tick that returns. -/
structure ShipmentTick (rng : Date → Purpose → Rng) (d : Date) (w w' : World) : Prop where
  master : w'.master = w.master
  keyed : Keyed (·.id) w'.shipment
  shipments : ∃ new, w'.shipment = w.shipment.map (advanceShipment rng w.master.carrier d) ++ new ∧
    ∀ s ∈ new, NewShipment d w.master s

theorem scheduledFlow_shipments {w w' : World} {events : ℕ} (wf : Wf w)
    (run : scheduledFlow env d w = .ok events w') : ShipmentTick env.rng d w w' := by
  obtain ⟨passes⟩ := salesPasses_of_ok env run
  have before := passes.sameBefore
  have keyed : Keyed (·.id) passes.before.shipment := before.2.shipments ▸ wf.shipment
  have progressed := progressShipments_ok env keyed passes.shipments
  have start : ShipmentsAdded d passes.progressed passes.progressed := by
    refine ⟨?_, ?_, rfl, [], (List.append_nil _).symm, fun _ mem => absurd mem List.not_mem_nil⟩
    · rw [progressed]
      exact before.1.orders ▸ wf.salesOrder
    · have ids : (passes.before.shipment.map
          (advanceShipment env.rng passes.before.master.carrier d)).map (·.id) =
            passes.before.shipment.map (·.id) := by
        rw [List.map_map]
        exact List.map_congr_left fun s _ => advanceShipment_agreed.1
      rw [progressed, Keyed, ids]
      exact keyed
  have added := progressOpenSalesOrders_ok env (fun w h => h.orders)
    (fun so w w' _ step hw => step.shipmentsAdded env hw) rfl start passes.orders
  have ordered := (createSalesOrdersIfNeeded_shipments env).of_ok
    (SameShipments.mk rfl rfl) passes.demand
  have master : passes.progressed.master = w.master := by
    rw [progressed]
    exact before.2.master
  have shipments : w'.shipment = passes.shipped.shipment :=
    (congrArg World.shipment passes.snapshot).trans ordered.shipments
  refine ⟨?_, ?_, ?_⟩
  · have snapshot := congrArg World.master passes.snapshot
    exact ((snapshot.trans ordered.master).trans added.master).trans master
  · rw [shipments]
    exact added.shipments
  · obtain ⟨new, eq, created⟩ := added.added
    rw [master] at created
    refine ⟨new, ?_, created⟩
    rw [shipments, eq, progressed, before.2.shipments, before.2.master]

end MeadowOps.Flow
