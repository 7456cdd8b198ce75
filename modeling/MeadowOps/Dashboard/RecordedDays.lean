import MeadowOps.Dashboard.Overview
import MeadowOps.Flow.Shipments
import MeadowOps.Simulation.AllOrNothing
import Mathlib.Data.List.ReduceOption

/-!
# The days with data, and the window of the overview

What is written on a day is committed with the row of its tick, so there is nothing before the first recorded day: a
window that shrinks to it loses no day with data.
-/

namespace MeadowOps.Dashboard

open Db Lib MeadowOps.Flow Scheduler Exceptions Kpi Simulation

/-! ## Recorded days -/

/-- There is a tick of the day, or one before it. -/
def RecordedBy (ticks : List ScheduledTick) (d : Date) : Prop := ∃ t ∈ ticks, t.simulationDate ≤ d

section RecordedBy

variable {ticks : List ScheduledTick} {d d' : Date}

theorem RecordedBy.append (h : RecordedBy ticks d) (more : List ScheduledTick) : RecordedBy (ticks ++ more) d := by
  obtain ⟨t, mem, le⟩ := h
  exact ⟨t, List.mem_append_left _ mem, le⟩

theorem RecordedBy.later (h : RecordedBy ticks d) (le : d ≤ d') : RecordedBy ticks d' := by
  obtain ⟨t, mem, before⟩ := h
  exact ⟨t, mem, before.trans le⟩

theorem recordedBy_tick (ticks : List ScheduledTick) (t : ScheduledTick) :
    RecordedBy (ticks ++ [t]) t.simulationDate :=
  ⟨t, List.mem_append_right _ List.mem_cons_self, le_rfl⟩

end RecordedBy

/-! ## The orders -/

/-- The dates of the orders and of the events of the purchase orders. -/
structure OrdersDated (P : Date → Prop) (w : World) : Prop where
  sales : ∀ so ∈ w.salesOrder, P so.orderDate
  purchases : ∀ po ∈ w.purchaseOrder, P po.orderDate
  events : ∀ e ∈ w.purchaseOrderLifecycleEvent, P e.simulationDate

section Orders

variable {P : Date → Prop} {A : World → SalesOrder → Prop} {d : Date} {w w' : World}

theorem OrdersDated.imp {Q : Date → Prop} (h : OrdersDated P w) (imp : ∀ d, P d → Q d) : OrdersDated Q w :=
  ⟨fun so mem => imp _ (h.sales so mem), fun po mem => imp _ (h.purchases po mem), fun e mem => imp _ (h.events e mem)⟩

theorem forall_mem_append_singleton {ρ : Type} {Q : ρ → Prop} {rows : List ρ} {r : ρ} (h : ∀ s ∈ rows, Q s) (last : Q r) :
    ∀ s ∈ rows ++ [r], Q s := by
  rw [List.forall_mem_append, List.forall_mem_singleton]
  exact ⟨h, last⟩

/-- A step dates what it adds by its day. -/
theorem OrdersDated.step (h : OrdersDated P w) (step : FlowStep A d w w') (today : P d) : OrdersDated P w' := by
  cases step with
  | confirm po mem =>
    exact ⟨h.sales, forall_modify h.purchases fun _ _ _ => h.purchases po mem,
      forall_mem_append_singleton h.events today⟩
  | receive po lines fraction mem =>
    refine ⟨h.sales, forall_modify h.purchases fun _ _ _ => h.purchases po mem, ?_⟩
    refine List.forall_mem_append.2 ⟨h.events, fun e added => ?_⟩
    unfold transitionEvents at added
    split at added
    · exact absurd added List.not_mem_nil
    · rw [List.mem_singleton.1 added]
      exact today
  | depart => exact ⟨h.sales, h.purchases, h.events⟩
  | arrive => exact ⟨h.sales, h.purchases, h.events⟩
  | transfer => exact ⟨h.sales, h.purchases, h.events⟩
  | order po _ _ _ _ _ _ _ date =>
    exact ⟨h.sales, forall_mem_append_singleton h.purchases (date ▸ today), forall_mem_append_singleton h.events today⟩
  | dispatch => exact ⟨h.sales, h.purchases, h.events⟩
  | deliver => exact ⟨h.sales, h.purchases, h.events⟩
  | allocate so =>
    exact ⟨forall_modify h.sales fun r mem _ => h.sales r mem, h.purchases, h.events⟩
  | ship so =>
    exact ⟨forall_modify h.sales fun r mem _ => h.sales r mem, h.purchases, h.events⟩
  | demand so _ _ date => exact ⟨forall_mem_append_singleton h.sales (date ▸ today), h.purchases, h.events⟩
  | snapshot env => exact ⟨h.sales, h.purchases, h.events⟩

end Orders

/-! ## The shipments -/

/-- No carrier takes less than no time, as the forms of the master data require. -/
def CarriersTake (m : Master) : Prop := ∀ c ∈ m.carrier, 0 ≤ c.transitDaysMin ∧ 0 ≤ c.transitDaysMax

/-- A shipment is delivered on its day or later. -/
structure ShipmentRecorded (P : Date → Prop) (s : Shipment) : Prop where
  shipped : P s.shipDate
  promised : s.shipDate ≤ s.promisedDeliveryDate
  dated : Dated s
  delivered : ∀ date ∈ s.actualDeliveryDate, s.shipDate ≤ date

section Shipments

variable {P Q : Date → Prop} {rng : Date → Purpose → Rng} {carriers : List Carrier} {d : Date} {m : Master}
  {s : Shipment}

theorem ShipmentRecorded.imp (h : ShipmentRecorded P s) (imp : ∀ d, P d → Q d) : ShipmentRecorded Q s :=
  ⟨imp _ h.shipped, h.promised, h.dated, h.delivered⟩

theorem ShipmentRecorded.advance (h : ShipmentRecorded P s) : ShipmentRecorded P (advanceShipment rng carriers d s) := by
  unfold advanceShipment
  split
  · exact ⟨h.shipped, h.promised, fun delivered => ShipmentStatus.noConfusion delivered, h.delivered⟩
  · split
    · exact h
    · rename_i days takes
      split
      · refine ⟨h.shipped, h.promised, fun _ => rfl, fun date mem => ?_⟩
        obtain rfl := Option.some.inj mem
        obtain ⟨c, -, rfl⟩ := Option.map_eq_some_iff.1 takes
        have never := (carrierActualTransitDays_range (s.promisedDeliveryDate - s.shipDate) c.variability
          c.reliabilityPct (rng s.shipDate (.carrierTransit s.id))).1
        have promised := h.promised
        unfold Date at *
        dsimp only
        omega
      · exact h
  · exact h
  · exact h

theorem ShipmentRecorded.of_new (h : NewShipment d m s) (carriers : CarriersTake m) (today : P d) :
    ShipmentRecorded P s := by
  obtain ⟨c, known, -, promised⟩ := h.carrier
  have takes : (0 : ℚ) ≤ (c.transitDaysMin + c.transitDaysMax) / 2 := by
    have days := carriers c known
    linarith [days.1, days.2]
  constructor
  case shipped =>
    rw [h.shipDate]
    exact today
  case promised =>
    have floor := Int.floor_nonneg.2 takes
    have round := (pyRound_of_floor ((c.transitDaysMin + c.transitDaysMax) / 2)).1
    rw [h.shipDate, promised]
    unfold Date at *
    omega
  case dated =>
    intro delivered
    rw [h.status] at delivered
    cases delivered
  case delivered =>
    intro date mem
    rw [h.undelivered] at mem
    exact absurd mem (Option.not_mem_none date)

end Shipments

/-! ## The world -/

structure WorldRecorded (P : Date → Prop) (w : World) : Prop where
  wf : Wf w
  carriers : CarriersTake w.master
  orders : OrdersDated P w
  shipments : ∀ s ∈ w.shipment, ShipmentRecorded P s

theorem WorldRecorded.imp {P Q : Date → Prop} {w : World} (h : WorldRecorded P w) (imp : ∀ d, P d → Q d) :
    WorldRecorded Q w :=
  ⟨h.wf, h.carriers, h.orders.imp imp, fun s mem => (h.shipments s mem).imp imp⟩

/-- A flow that returns dates what it adds by its day. -/
theorem WorldRecorded.flow {P : Date → Prop} {env : TickEnv} {d : Date} {w w' : World} {events : ℕ}
    (h : WorldRecorded P w) (today : P d) (run : scheduledFlow env d w = .ok events w') : WorldRecorded P w' := by
  have steps := scheduledFlow_steps env d h.wf
  rw [run] at steps
  obtain ⟨master, -, new, shipments, created⟩ := scheduledFlow_shipments env h.wf run
  constructor
  case wf => exact steps.wf h.wf
  case carriers =>
    rw [master]
    exact h.carriers
  case orders => exact FlowSteps.invariant (fun _ _ step _ dated => dated.step step today) h.wf h.orders steps
  case shipments =>
    rw [shipments, List.forall_mem_append]
    refine ⟨fun s mem => ?_, fun s mem => .of_new (created s mem) h.carriers today⟩
    obtain ⟨before, known, rfl⟩ := List.mem_map.1 mem
    exact (h.shipments before known).advance

/-! ## The verdicts -/

/-- A row is of the day, or carries the date of a row that was there. -/
def OfTheDay {ρ : Type} (date : ρ → Date) (d : Date) (rows rows' : List ρ) : Prop :=
  ∀ r ∈ rows', date r = d ∨ ∃ before ∈ rows, date before = date r

section OfTheDay

variable {ρ : Type} {date : ρ → Date} {d : Date} {rows rows₁ rows₂ : List ρ}

theorem OfTheDay.refl (rows : List ρ) : OfTheDay date d rows rows := fun r mem => .inr ⟨r, mem, rfl⟩

theorem OfTheDay.trans (h : OfTheDay date d rows rows₁) (h' : OfTheDay date d rows₁ rows₂) :
    OfTheDay date d rows rows₂ := by
  intro r mem
  rcases h' r mem with today | ⟨before, mem, same⟩
  · exact .inl today
  · rcases h before mem with today | ⟨first, mem, same'⟩
    · exact .inl (same ▸ today)
    · exact .inr ⟨first, mem, same'.trans same⟩

theorem OfTheDay.forall {P : Date → Prop} (h : OfTheDay date d rows rows₁) (today : P d) (old : ∀ r ∈ rows, P (date r)) :
    ∀ r ∈ rows₁, P (date r) := by
  intro r mem
  rcases h r mem with same | ⟨before, mem, same⟩
  · exact same ▸ today
  · exact same ▸ old before mem

theorem OfTheDay.upsert {κ : Type} [DecidableEq κ] {key : ρ → κ} {r : ρ} (today : date r = d) :
    OfTheDay date d rows (upsert key rows r) := by
  intro s mem
  rcases mem_upsert.1 mem with rfl | ⟨old, -⟩
  · exact .inl today
  · exact .inr ⟨s, old, rfl⟩

end OfTheDay

section Sync

variable {c : SyncCall} {calls : List SyncCall} {d : Date} {flags flags' : List ExceptionFlag}

abbrev FlagsOfTheDay (d : Date) : List ExceptionFlag → List ExceptionFlag → Prop :=
  OfTheDay ExceptionFlag.firstDetectedSimulationDate d

/-- An update of a flag keeps the day on which it was detected. -/
theorem FlagsOfTheDay.modify (id : Uuid) {f : ExceptionFlag → ExceptionFlag}
    (kept : ∀ flag, (f flag).firstDetectedSimulationDate = flag.firstDetectedSimulationDate) :
    FlagsOfTheDay d flags (modify (·.id) id f flags) := by
  intro flag mem
  obtain ⟨before, known, rfl⟩ := mem_modify.1 mem
  refine .inr ⟨before, known, ?_⟩
  split
  · exact (kept before).symm
  · rfl

theorem resolved_ofTheDay (items : List (EntityKey × Uuid)) (keys : List EntityKey) :
    FlagsOfTheDay d flags (items.foldl c.resolveStep (flags, keys)).1 := by
  refine List.foldlRecOn (motive := fun acc : List ExceptionFlag × List EntityKey => FlagsOfTheDay d flags acc.1)
    _ _ (OfTheDay.refl flags) fun acc before item _ => before.trans ?_
  unfold SyncCall.resolveStep
  split
  · exact .refl _
  · exact .refl _
  · exact FlagsOfTheDay.modify _ fun _ => rfl

/-- An evaluated entity updates a flag, or adds one of the day. -/
theorem evaluated_ofTheDay (existing : Dict EntityKey Uuid) (keys : List EntityKey)
    (items : List (EntityKey × Evaluation)) :
    FlagsOfTheDay d flags (items.foldl (c.evaluateStep existing keys) (flags, [])).1 ∧
      ∀ f ∈ (items.foldl (c.evaluateStep existing keys) (flags, [])).2,
        f.firstDetectedSimulationDate = c.simulationDate := by
  refine List.foldlRecOn (motive := fun acc : List ExceptionFlag × List ExceptionFlag =>
    FlagsOfTheDay d flags acc.1 ∧ ∀ f ∈ acc.2, f.firstDetectedSimulationDate = c.simulationDate)
    _ _ ⟨.refl flags, fun _ mem => absurd mem List.not_mem_nil⟩ fun acc before item _ => ?_
  obtain ⟨before, added⟩ := before
  unfold SyncCall.evaluateStep
  split
  · exact ⟨before, added⟩
  · split
    · split
      · exact ⟨before.trans (FlagsOfTheDay.modify _ fun _ => rfl), added⟩
      · exact ⟨before, forall_mem_append_singleton added rfl⟩
    · exact ⟨before, forall_mem_append_singleton added rfl⟩

theorem inserted_ofTheDay {new : List ExceptionFlag} (today : ∀ f ∈ new, f.firstDetectedSimulationDate = d)
    (ran : new.foldlM c.insertFlag? flags = some flags') : FlagsOfTheDay d flags flags' := by
  induction new generalizing flags with
  | nil =>
    cases ran
    exact .refl _
  | cons f new ih =>
    rw [List.foldlM_cons] at ran
    obtain ⟨mid, one, rest⟩ := Option.bind_eq_some_iff.1 ran
    obtain ⟨rfl, -⟩ := c.insertFlag?_some one
    refine OfTheDay.trans ?_ (ih (fun f mem => today f (List.mem_cons_of_mem _ mem)) rest)
    exact forall_mem_append_singleton (OfTheDay.refl flags) (.inl (today f List.mem_cons_self))

theorem syncFlags_ofTheDay {opened resolved : ℕ} (ran : c.syncFlags flags = some (flags', opened, resolved)) :
    FlagsOfTheDay c.simulationDate flags flags' := by
  unfold SyncCall.syncFlags at ran
  dsimp only at ran
  split at ran
  · cases ran
  · rename_i rows inserted
    cases ran
    refine (resolved_ofTheDay (c := c) (c.existing flags).items []).trans ?_
    obtain ⟨evaluated, added⟩ := evaluated_ofTheDay (c := c) (d := c.simulationDate) (c.existing flags) _
      c.evaluations.items
    exact evaluated.trans (inserted_ofTheDay added inserted)

theorem syncAll_ofTheDay (days : ∀ c ∈ calls, c.simulationDate = d) (ran : syncAll calls flags = some flags') :
    FlagsOfTheDay d flags flags' := by
  induction calls generalizing flags with
  | nil =>
    cases ran
    exact .refl _
  | cons c calls ih =>
    rw [syncAll, List.foldlM_cons] at ran
    obtain ⟨mid, one, rest⟩ := Option.bind_eq_some_iff.1 ran
    obtain ⟨⟨_, opened, resolved⟩, call, rfl⟩ := Option.map_eq_some_iff.1 one
    have first := syncFlags_ofTheDay call
    rw [days c List.mem_cons_self] at first
    exact first.trans (ih (fun c mem => days c (List.mem_cons_of_mem _ mem)) rest)

theorem exceptionCalls_days (env : EngineEnv) (clock d : Date) (t : EngineTables) :
    ∀ c ∈ exceptionCalls env clock d t, c.simulationDate = d := by
  have rule : ∀ category evaluations, ∀ c ∈ ruleCall env d t category evaluations, c.simulationDate = d := by
    intro category evaluations c mem
    obtain ⟨threshold, -, mem⟩ := Option.bind_eq_some_iff.1 mem
    obtain ⟨verdicts, -, mem⟩ := Option.bind_eq_some_iff.1 mem
    cases mem
    rfl
  intro c mem
  rcases List.mem_append.1 mem with low | other
  · exact rule _ _ c (Option.mem_toList.1 low)
  · replace other := List.reduceOption_mem_iff.1 other
    simp only [List.mem_cons, List.not_mem_nil, or_false] at other
    rcases other with call | call | call | call | call
    all_goals exact rule _ _ c call.symm

end Sync

end MeadowOps.Dashboard
